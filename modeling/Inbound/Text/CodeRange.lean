/-!
# Properties of code points

A Unicode property is stored as the closed ranges of the code points that have it, or that have
one and the same value of it.
-/

namespace Inbound.Text

/-- Binary search for the last range that starts at or below `code`, between the positions `lo`
and `hi`. -/
def rangeContains (ranges : Array (Nat × Nat)) (code lo hi : Nat) : Bool :=
  if lo < hi then
    let mid := (lo + hi) / 2
    match ranges[mid]? with
    | none => false
    | some (first, last) =>
      if code < first then rangeContains ranges code lo mid
      else if last < code then rangeContains ranges code (mid + 1) hi
      else true
  else false
termination_by hi - lo

/-- Whether `code` lies in one of the ranges, which are in increasing order. -/
def inRanges (ranges : Array (Nat × Nat)) (code : Nat) : Bool :=
  rangeContains ranges code 0 ranges.size

/-- Binary search for the range that contains `code`, between the positions `lo` and `hi`. -/
def findValue {α : Type} (table : Array (Nat × Nat × α)) (code lo hi : Nat) : Option α :=
  if lo < hi then
    let mid := (lo + hi) / 2
    match table[mid]? with
    | none => none
    | some (first, last, value) =>
      if code < first then findValue table code lo mid
      else if last < code then findValue table code (mid + 1) hi
      else some value
  else none
termination_by hi - lo

/-- The value for the range that contains `code`, of ranges that are in increasing order. -/
def valueAt? {α : Type} (table : Array (Nat × Nat × α)) (code : Nat) : Option α :=
  findValue table code 0 table.size

end Inbound.Text
