import Inbound.Request.Store
import Inbound.Text.Quoted

/-!
# View resolution

What the dispatcher found out about the view that is to answer a request.
-/

namespace Inbound

/-- The outcome of looking for a view. -/
structure Resolution where
  /-- The name that was asked for. -/
  viewName : Option String
  /-- The view that was found. -/
  foundView : Option String
  /-- What went wrong. -/
  cause : Option KeyNotFound
  /-- Whether the view itself failed. -/
  viewError : Bool
  deriving DecidableEq, Repr

namespace Resolution

/-- The outcome before anything has been looked for. -/
def unresolved : Resolution := ⟨none, none, none, false⟩

instance : Inhabited Resolution := ⟨unresolved⟩

/-- The outcome as a diagnostic shows it. -/
def describe (resolution : Resolution) : String :=
  "View \x7b view_name: " ++ Text.quoteOption resolution.viewName
    ++ ", found_view: " ++ Text.quoteOption resolution.foundView
    ++ ", exc: " ++ Text.quoteOption (resolution.cause.map (·.message))
    ++ ", view_error: " ++ Text.showBool resolution.viewError ++ " \x7d"

end Resolution

end Inbound
