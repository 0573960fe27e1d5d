/-!
# JSON values

The values that a JSON text stands for, and the ways in which a text fails to stand for one.
-/

namespace Inbound.Json

/-- A number: an integer of 64 bits if it is written as one, else a floating-point number. -/
inductive Number where
  | integer (value : Int)
  | real (value : Float)

/-- A JSON value. -/
inductive Value where
  | null
  | boolean (value : Bool)
  | number (value : Number)
  | string (value : String)
  | array (elements : List Value)
  /-- The members in increasing order of their names, which are all different. -/
  | object (members : List (String × Value))

/-- Why a text is refused. -/
inductive Fault where
  /-- It breaks the rules of the notation. -/
  | malformed
  /-- It ends too early. -/
  | truncated
  /-- It stands for a value, but not for one that was asked for. -/
  | mismatch
  deriving DecidableEq, Repr

/-- The members in increasing order of their names; of members of one name the last one stays. -/
def sortMembers (members : List (String × Value)) : List (String × Value) :=
  let sorted := members.mergeSort fun a b => a.1 ≤ b.1
  let rec keepLast : List (String × Value) → List (String × Value)
    | [] => []
    | [member] => [member]
    | first :: second :: rest =>
      if first.1 == second.1 then keepLast (second :: rest)
      else first :: keepLast (second :: rest)
  keepLast sorted

end Inbound.Json
