import Inbound.Http.Token

/-!
# Header fields

The header of a message on the wire. Names are compared and kept in lower case; the values of a
name keep their order, and the names that of their first appearance.
-/

namespace Inbound.Http

/-- Header fields, grouped by name. -/
structure Fields where
  /-- Each name with its values. -/
  groups : List (String × List ByteArray)

namespace Fields

/-- No fields. -/
def empty : Fields := ⟨[]⟩

/-- The longest name of a field. -/
def maxNameLength : Nat := 65535

/-- Whether a name may contain the byte: it may stand in a token, or it is a double quote. -/
def isNameByte (b : UInt8) : Bool :=
  isTokenByte b || b == 34

/-- Whether `name` may name a field. -/
def isName (name : ByteArray) : Bool :=
  0 < name.size && name.size ≤ maxNameLength && name.data.all isNameByte

/-- Whether a value may contain the byte: it is a tab, or not a control. -/
def isValueByte (b : UInt8) : Bool :=
  b == 9 || (32 ≤ b && b != 127)

/-- Whether `value` may be the value of a field. -/
def isValue (value : ByteArray) : Bool :=
  value.data.all isValueByte

/-- The form in which a name is kept. -/
def foldBytes (name : ByteArray) : String :=
  String.ofList (name.data.toList.map fun b => (Char.ofNat b.toNat).toLower)

/-- Adds a value to a group of that name, or opens one. -/
def appendTo (name : String) (value : ByteArray) :
    List (String × List ByteArray) → List (String × List ByteArray)
  | [] => [(name, [value])]
  | group :: rest =>
    if group.1 = name then (name, group.2 ++ [value]) :: rest
    else group :: appendTo name value rest

/-- Adds a field, if its name and value may stand in a header. -/
def append? (fields : Fields) (name value : ByteArray) : Option Fields :=
  if isName name && isValue value then some ⟨appendTo (foldBytes name) value fields.groups⟩
  else none

/-- The fields of a list of pairs, if all may stand in a header. -/
def ofPairs? (pairs : List (ByteArray × ByteArray)) : Option Fields :=
  pairs.foldlM (fun fields pair => fields.append? pair.1 pair.2) empty

/-- The values of a name, which is given in lower case. -/
def getAll (fields : Fields) (name : String) : List ByteArray :=
  (fields.groups.lookup name).getD []

/-- The first value of a name, which is given in lower case. -/
def get? (fields : Fields) (name : String) : Option ByteArray :=
  (fields.getAll name).head?

/-- Whether there is a field of a name, which is given in lower case. -/
def contains (fields : Fields) (name : String) : Bool :=
  fields.groups.any (·.1 = name)

/-- Every name with every value of it, grouped by name. -/
def pairs (fields : Fields) : List (String × ByteArray) :=
  fields.groups.flatMap fun group => group.2.map (group.1, ·)

/-- A value as text, if it is visible ASCII with blanks and tabs. -/
def visible? (value : ByteArray) : Option String :=
  if value.data.all fun b => b == 9 || (32 ≤ b && b < 127) then
    some (String.ofList (value.data.toList.map fun b => Char.ofNat b.toNat))
  else none

end Fields

end Inbound.Http
