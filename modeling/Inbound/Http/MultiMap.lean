import Std.Data.HashMap
import Inbound.Text.Quoted

/-!
# Multi-valued maps

A map from names to one or more values, for headers and query parameters. Two names are the same
if they differ in ASCII case only. A name keeps the spelling of its first insertion; names, and
the values of a name, keep the order in which they came.

The groups stand in an array in order of first appearance, and an index leads from the folded
name to the place of its group.
-/

namespace Inbound.Http

/-- The form under which a name is looked up: its ASCII letters in lower case. Most names have it
already. -/
def foldName (name : String) : String :=
  if name.any Char.isUpper then name.toLower else name

/-- The values stored under one name. -/
inductive Values where
  | one (value : String)
  | many (values : Array String)
  deriving DecidableEq, Repr, Inhabited

namespace Values

/-- The values in order. -/
def toList : Values → List String
  | .one value => [value]
  | .many values => values.toList

/-- Puts a value behind the others. -/
def push : Values → String → Values
  | .one old, value => .many #[old, value]
  | .many values, value => .many (values.push value)

end Values

/-- A name with its values. -/
structure Group where
  /-- The name in its first spelling. -/
  name : String
  /-- The values of the name. -/
  values : Values
  deriving DecidableEq, Repr, Inhabited

/-- A map from names, in any case, to values. -/
structure MultiMap where
  /-- The place of a folded name's group. -/
  index : Std.HashMap String Nat
  /-- The groups in order of first appearance. -/
  groups : Array Group

namespace MultiMap

/-- The map without names. -/
def empty : MultiMap := ⟨∅, #[]⟩

instance : Inhabited MultiMap := ⟨empty⟩

/-- The group of a name. -/
def find? (map : MultiMap) (name : String) : Option Group :=
  map.index[foldName name]?.bind (map.groups[·]?)

/-- Whether the map has a value for the name. -/
def contains (map : MultiMap) (name : String) : Bool :=
  map.index.contains (foldName name)

/-- How many names there are. -/
def size (map : MultiMap) : Nat :=
  map.groups.size

/-- Whether there are no names. -/
def isEmpty (map : MultiMap) : Bool :=
  map.groups.isEmpty

/-- All values of a name. -/
def getAll (map : MultiMap) (name : String) : List String :=
  match map.find? name with
  | none => []
  | some group => group.values.toList

/-- The first value of a name. -/
def get? (map : MultiMap) (name : String) : Option String :=
  (map.getAll name).head?

/-- Adds a value to those of a name. -/
def append (map : MultiMap) (name value : String) : MultiMap :=
  match map.index[foldName name]? with
  | some place =>
    { map with groups := map.groups.modify place fun group =>
        { group with values := group.values.push value } }
  | none =>
    { index := map.index.insert (foldName name) map.groups.size,
      groups := map.groups.push ⟨name, .one value⟩ }

/-- Makes a value the only one of a name; the flag says whether the name was there. -/
def insert (map : MultiMap) (name value : String) : Bool × MultiMap :=
  match map.index[foldName name]? with
  | some place =>
    (true, { map with groups := map.groups.modify place fun group =>
        { group with values := .one value } })
  | none =>
    (false, { index := map.index.insert (foldName name) map.groups.size,
              groups := map.groups.push ⟨name, .one value⟩ })

/-- The map of a list of pairs, appended in order. -/
def ofPairs (pairs : List (String × String)) : MultiMap :=
  pairs.foldl (fun map pair => map.append pair.1 pair.2) empty

/-- The names in order of first appearance. -/
def keys (map : MultiMap) : List String :=
  map.groups.toList.map (·.name)

/-- Where a walk through the pairs of a map stands. -/
structure Cursor where
  /-- The name whose turn it is, with those of its values that are still to come. -/
  current : Option (String × List String)
  /-- The groups whose turn is still to come. -/
  coming : List Group

namespace Cursor

/-- The pairs that are still to come. -/
def ahead (cursor : Cursor) : List (String × String) :=
  (cursor.current.elim [] fun (name, values) => values.map (name, ·)) ++
    cursor.coming.flatMap fun group => group.values.toList.map (group.name, ·)

/-- Goes to the first of some groups that has a value, and tells its first pair. -/
def enter : List Group → Option (String × String) × Cursor
  | [] => (none, ⟨none, []⟩)
  | group :: coming =>
    match group.values.toList with
    | [] => enter coming
    | value :: values => (some (group.name, value), ⟨some (group.name, values), coming⟩)

/-- The next pair, and where the walk stands then. If no value of a name is left, it is the turn of
the groups behind it. -/
def next (cursor : Cursor) : Option (String × String) × Cursor :=
  match cursor.current with
  | some (name, value :: values) =>
    (some (name, value), { cursor with current := some (name, values) })
  | _ => enter cursor.coming

theorem enter_eq (coming : List Group) :
    (enter coming).1 = (ahead ⟨none, coming⟩).head? ∧
      (enter coming).2.ahead = (ahead ⟨none, coming⟩).tail := by
  induction coming with
  | nil => exact ⟨rfl, rfl⟩
  | cons group coming ih =>
    cases h : group.values.toList with
    | nil => simpa [enter, ahead, h] using ih
    | cons value values => simp [enter, ahead, h]

/-- A step tells the first pair that is ahead, and goes past it. -/
theorem next_eq (cursor : Cursor) :
    cursor.next.1 = cursor.ahead.head? ∧ cursor.next.2.ahead = cursor.ahead.tail := by
  obtain ⟨current, coming⟩ := cursor
  rcases current with _ | ⟨name, _ | ⟨value, values⟩⟩
  · exact enter_eq coming
  · exact enter_eq coming
  · simp [next, ahead]

theorem length_ahead_lt {cursor further : Cursor} {pair : String × String}
    (h : cursor.next = (some pair, further)) : further.ahead.length < cursor.ahead.length := by
  obtain ⟨hhead, htail⟩ := next_eq cursor
  simp only [h] at hhead htail
  obtain ⟨rest, hahead⟩ := List.head?_eq_some_iff.mp hhead.symm
  simp [htail, hahead]

/-- All pairs that are told until there is none. -/
def collect (cursor : Cursor) : List (String × String) :=
  match h : cursor.next with
  | (none, _) => []
  | (some pair, further) =>
    have := length_ahead_lt h
    pair :: further.collect
termination_by cursor.ahead.length

end Cursor

/-- A walk through the pairs from the start. -/
def iter (map : MultiMap) : Cursor := ⟨none, map.groups.toList⟩

/-- Every name with every value of it, grouped by name. -/
def pairs (map : MultiMap) : List (String × String) :=
  map.iter.collect

/-- The map as a diagnostic shows it. -/
def describe (map : MultiMap) : String :=
  let shown := map.groups.toList.map fun group =>
    Text.quote group.name ++ ": [" ++ ", ".intercalate (group.values.toList.map Text.quote) ++ "]"
  "\x7b" ++ ", ".intercalate shown ++ "\x7d"

end MultiMap

end Inbound.Http
