/-!
# Barriers

A barrier holds back whoever comes to it until enough have come. The last one goes on at once, and
the others are told. Then the barrier is as good as new.
-/

namespace Inbound

/-- A barrier. -/
structure Barrier where
  /-- How many have to come. -/
  parties : Nat
  /-- How many have come since it last opened. -/
  arrived : Nat
  /-- How often it has opened. -/
  opened : Nat
  /-- Those who wait, in the order in which they came. -/
  waiting : List Nat
  deriving DecidableEq, Repr

namespace Barrier

/-- A barrier for so many. -/
def ofParties (parties : Nat) : Barrier := ⟨max parties 1, 0, 0, []⟩

/-- Someone comes. If the barrier opens, the answer names those who are to be told, else it is the
number of the opening that has to be awaited. -/
def arrive (barrier : Barrier) (visitor : Nat) : (List Nat ⊕ Nat) × Barrier :=
  if barrier.arrived + 1 < barrier.parties then
    (.inr (barrier.opened + 1),
      { barrier with arrived := barrier.arrived + 1, waiting := barrier.waiting ++ [visitor] })
  else
    (.inl barrier.waiting,
      { barrier with arrived := 0, opened := barrier.opened + 1, waiting := [] })

/-- Whether an opening has taken place. -/
def hasOpened (barrier : Barrier) (opening : Nat) : Bool :=
  opening ≤ barrier.opened

end Barrier

end Inbound
