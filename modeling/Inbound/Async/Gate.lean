import Inbound.Async.Poll

/-!
# Gates

A gate lets one visitor in at a time. The others wait in the order in which they came, and a
visitor who leaves hands the place to the first of them, so nobody who comes later can slip in
between.
-/

namespace Inbound

/-- A visitor of a gate. -/
abbrev Ticket := Nat

/-- A gate with the visitor inside and those who wait. -/
structure Gate where
  /-- The visitor inside. -/
  holder : Option Ticket
  /-- Those who wait, in the order in which they came. -/
  queue : List Ticket
  deriving DecidableEq, Repr

namespace Gate

/-- The gate that nobody has visited. -/
def idle : Gate := ⟨none, []⟩

instance : Inhabited Gate := ⟨idle⟩

/-- A visitor asks to come in: the answer says whether they are inside now. Whoever is not stays
in the queue and need not ask again. -/
def enter (gate : Gate) (visitor : Ticket) : Bool × Gate :=
  match gate.holder with
  | none => (true, { gate with holder := some visitor })
  | some holder =>
    if holder = visitor then (true, gate)
    else if visitor ∈ gate.queue then (false, gate)
    else (false, { gate with queue := gate.queue ++ [visitor] })

/-- A visitor leaves, from inside or from the queue. -/
def leave (gate : Gate) (visitor : Ticket) : Gate :=
  if gate.holder = some visitor then
    match gate.queue with
    | [] => { gate with holder := none }
    | next :: rest => ⟨some next, rest⟩
  else { gate with queue := gate.queue.filter (· ≠ visitor) }

/-- The visitor whom `leave` lets in, if it lets one in. -/
def successor? (gate : Gate) (visitor : Ticket) : Option Ticket :=
  if gate.holder = some visitor then gate.queue.head? else none

end Gate

end Inbound
