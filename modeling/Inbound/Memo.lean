import Inbound.Text.Quoted

/-!
# Memos

A memo is a value that is computed when it is first asked for and kept from then on.
-/

namespace Inbound

/-- A value that is computed at most once. -/
structure Memo (α : Type) where
  /-- The value, once it has been computed. -/
  value : Option α
  deriving DecidableEq, Repr

namespace Memo

variable {α : Type}

/-- The memo before its first use. -/
def fresh : Memo α := ⟨none⟩

instance : Inhabited (Memo α) := ⟨fresh⟩

/-- The value, without computing it. -/
def get? (memo : Memo α) : Option α :=
  memo.value

/-- The value, computed by `compute` if this is the first time. -/
def get (memo : Memo α) (compute : Unit → α) : α × Memo α :=
  match memo.value with
  | some value => (value, memo)
  | none =>
    let value := compute ()
    (value, ⟨some value⟩)

/-- The value, or that of a computation which may fail; a failure leaves the memo as it was. -/
def tryGet (memo : Memo α) (compute : Unit → Option α) : Option α × Memo α :=
  match memo.value with
  | some value => (some value, memo)
  | none => (compute (), ⟨compute ()⟩)

/-- The memo as a diagnostic shows it, given how a value is shown. -/
def describe (memo : Memo α) (shown : α → String) : String :=
  match memo.value with
  | none => "Memo(<pending>)"
  | some value => "Memo(" ++ shown value ++ ")"

@[simp] theorem get?_fresh : (fresh : Memo α).get? = none := rfl

@[simp] theorem get?_get (memo : Memo α) (compute : Unit → α) :
    (memo.get compute).2.get? = some (memo.get compute).1 := by
  obtain ⟨_ | value⟩ := memo <;> rfl

end Memo

end Inbound
