/-!
# Polling

An asynchronous operation is a state that is polled. A poll gives the result, or leaves the
operation where it is and may be repeated later.
-/

namespace Inbound

/-- The outcome of one poll. -/
inductive Poll (α : Type) where
  /-- The operation is finished. -/
  | ready (value : α)
  /-- The operation waits for something. -/
  | pending
  deriving DecidableEq, Repr

namespace Poll

variable {α β : Type}

/-- Applies `f` to a result. -/
def map (f : α → β) : Poll α → Poll β
  | .ready value => .ready (f value)
  | .pending => .pending

/-- The result, if there is one. -/
def toOption : Poll α → Option α
  | .ready value => some value
  | .pending => none

@[simp] theorem map_ready (f : α → β) (value : α) : (ready value).map f = ready (f value) := rfl

@[simp] theorem map_pending (f : α → β) : (pending : Poll α).map f = pending := rfl

end Poll

end Inbound
