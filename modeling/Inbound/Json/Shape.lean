import Inbound.Json.Parser

/-!
# JSON values of a shape

Reads a JSON text as a value of a shape that is given beforehand: an integer within bounds, a
list, a record, and so on. A record may be written as an object, or as an array of its fields in
order.
-/

namespace Inbound.Json

/-- A value read by its shape. -/
inductive Typed where
  | absent
  | integer (value : Int)
  | boolean (value : Bool)
  | string (value : String)
  | list (elements : List Typed)
  | record (fields : List (String × Typed))

mutual

/-- What a text is read as. -/
inductive Shape where
  | integer (least greatest : Int)
  | boolean
  | string
  | list (element : Shape)
  /-- A value, or null for none. -/
  | optional (value : Shape)
  /-- Fields in order; members that are no fields are passed over unless `strict`. -/
  | record (strict : Bool) (fields : List Field)

/-- A field of a record. -/
inductive Field where
  /-- A field with its value in an object that lacks it, and in an array that ends before it. -/
  | mk (name : String) (shape : Shape) (inObject inArray : Option Typed)

end

/-- An integer that fits into so many bits with a sign. -/
def Shape.signed (bits : Nat) : Shape :=
  let half : Nat := 1 <<< (bits - 1)
  .integer (-half) (half - 1)

/-- An integer that fits into so many bits without a sign. -/
def Shape.unsigned (bits : Nat) : Shape :=
  let values : Nat := 1 <<< bits
  .integer 0 (values - 1)

namespace Field

/-- The name of the field. -/
def name : Field → String
  | mk name _ _ _ => name

/-- What the value of the field is read as. -/
def shape : Field → Shape
  | mk _ shape _ _ => shape

/-- The value of the field in an object that lacks it. -/
def inObject : Field → Option Typed
  | mk _ _ inObject _ => inObject

/-- The value of the field in an array that ends before it. -/
def inArray : Field → Option Typed
  | mk _ _ _ inArray => inArray

/-- A field that has to be there. -/
def required (name : String) (shape : Shape) : Field := mk name shape none none

/-- A field with a value where it is missing. -/
def withDefault (name : String) (shape : Shape) (value : Typed) : Field :=
  mk name shape (some value) (some value)

/-- A field that an object may lack. -/
def optional (name : String) (shape : Shape) : Field :=
  mk name (.optional shape) (some .absent) none

end Field

/-- The fault of a text that stands for some value, but not of the shape. The value is looked at
only as far as needed to see what it is. -/
def otherValue (cs : List Char) : Fault :=
  let faultOf {α : Type} (read : Except Fault α) : Fault :=
    match read with
    | .ok _ => .mismatch
    | .error fault => fault
  match cs with
  | 'n' :: rest => faultOf (readWord ['u', 'l', 'l'] rest)
  | 't' :: rest => faultOf (readWord ['r', 'u', 'e'] rest)
  | 'f' :: rest => faultOf (readWord ['a', 'l', 's', 'e'] rest)
  | '-' :: rest => faultOf (readNumber false rest)
  | '"' :: rest => faultOf (readString rest)
  | '[' :: _ => .mismatch
  | '\x7b' :: _ => .mismatch
  | [] => .malformed
  | c :: rest => if c.isDigit then faultOf (readNumber true (c :: rest)) else .malformed

/-- Accepts an integer within bounds. -/
def boundedInteger (least greatest : Int) (number : Number) (rest : List Char) :
    Except Fault (Typed × List Char) :=
  match number with
  | .integer value =>
    if least ≤ value && value ≤ greatest then .ok (.integer value, rest) else .error .mismatch
  | .real _ => .error .mismatch

/-- The fields of a record from those that were read, with defaults for the others. -/
def completeFields (read : List (String × Typed)) :
    List Field → Except Fault (List (String × Typed))
  | [] => .ok []
  | field :: rest =>
    match read.lookup field.name, field.inObject with
    | some value, _ => do return (field.name, value) :: (← completeFields read rest)
    | none, some value => do return (field.name, value) :: (← completeFields read rest)
    | none, none => .error .mismatch

mutual

/-- Reads a value of a shape. The fuel is at least twice the number of characters. -/
def readShape (fuel : Nat) (shape : Shape) (cs : List Char) :
    Except Fault (Typed × List Char) :=
  match fuel with
  | 0 => .error .truncated
  | fuel + 1 =>
    match skipBlanks cs with
    | [] => .error .truncated
    | c :: rest =>
      match shape with
      | .integer least greatest =>
        if c == '-' then do
          let (number, rest) ← readNumber false rest
          boundedInteger least greatest number rest
        else if c.isDigit then do
          let (number, rest) ← readNumber true (c :: rest)
          boundedInteger least greatest number rest
        else .error (otherValue (c :: rest))
      | .boolean =>
        if c == 't' then do
          let ((), rest) ← readWord ['r', 'u', 'e'] rest
          return (.boolean true, rest)
        else if c == 'f' then do
          let ((), rest) ← readWord ['a', 'l', 's', 'e'] rest
          return (.boolean false, rest)
        else .error (otherValue (c :: rest))
      | .string =>
        if c == '"' then do
          let (text, rest) ← readString rest
          return (.string text, rest)
        else .error (otherValue (c :: rest))
      | .optional shape =>
        if c == 'n' then do
          let ((), rest) ← readWord ['u', 'l', 'l'] rest
          return (.absent, rest)
        else readShape fuel shape (c :: rest)
      | .list element =>
        if c == '[' then do
          let (elements, rest) ← readShapes fuel element true rest []
          let ((), rest) ← readClosing ']' rest
          return (.list elements, rest)
        else .error (otherValue (c :: rest))
      | .record strict fields =>
        if c == '[' then do
          let (values, rest) ← readInOrder fuel fields true rest
          let ((), rest) ← readClosing ']' rest
          return (.record values, rest)
        else if c == '\x7b' then do
          let (read, rest) ← readFields fuel strict fields true rest []
          let values ← completeFields read fields
          let ((), rest) ← readClosing '\x7d' rest
          return (.record values, rest)
        else .error (otherValue (c :: rest))

/-- Reads the elements of a list behind those already read, which are in reverse order. -/
def readShapes (fuel : Nat) (element : Shape) (isFirst : Bool) (cs : List Char)
    (read : List Typed) : Except Fault (List Typed × List Char) :=
  match fuel with
  | 0 => .error .truncated
  | fuel + 1 =>
    match nextElement isFirst cs with
    | .error fault => .error fault
    | .ok (false, rest) => .ok (read.reverse, rest)
    | .ok (true, rest) =>
      match readShape fuel element rest with
      | .error fault => .error fault
      | .ok (value, rest) => readShapes fuel element false rest (value :: read)

/-- Reads the fields of a record from an array. -/
def readInOrder (fuel : Nat) (fields : List Field) (isFirst : Bool) (cs : List Char) :
    Except Fault (List (String × Typed) × List Char) :=
  match fuel, fields with
  | _, [] => .ok ([], cs)
  | 0, _ => .error .truncated
  | fuel + 1, field :: fields =>
    match nextElement isFirst cs with
    | .error fault => .error fault
    | .ok (false, rest) =>
      -- The array may end early if the fields that are left have something to stand in for them.
      match field.inArray with
      | none => .error .mismatch
      | some value =>
        match readInOrder fuel fields isFirst rest with
        | .error fault => .error fault
        | .ok (values, rest) => .ok ((field.name, value) :: values, rest)
    | .ok (true, rest) =>
      match readShape fuel field.shape rest with
      | .error fault => .error fault
      | .ok (value, rest) =>
        match readInOrder fuel fields false rest with
        | .error fault => .error fault
        | .ok (values, rest) => .ok ((field.name, value) :: values, rest)

/-- Reads the fields of a record from an object, behind those already read. -/
def readFields (fuel : Nat) (strict : Bool) (fields : List Field) (isFirst : Bool)
    (cs : List Char) (read : List (String × Typed)) :
    Except Fault (List (String × Typed) × List Char) :=
  match fuel with
  | 0 => .error .truncated
  | fuel + 1 =>
    match nextMember isFirst cs with
    | .error fault => .error fault
    | .ok (false, rest) => .ok (read, rest)
    | .ok (true, rest) =>
      match readString rest with
      | .error fault => .error fault
      | .ok (name, rest) =>
        match fields.find? (·.name == name) with
        | none =>
          -- A strict record refuses a name that it does not know. Otherwise the value is passed
          -- over.
          if strict then .error .mismatch
          else
            match readColon rest with
            | .error fault => .error fault
            | .ok ((), rest) =>
              match skipValue rest with
              | .error fault => .error fault
              | .ok ((), rest) => readFields fuel strict fields false rest read
        | some field =>
          -- No field may come twice.
          if (read.lookup name).isSome then .error .mismatch
          else
            match readColon rest with
            | .error fault => .error fault
            | .ok ((), rest) =>
              match readShape fuel field.shape rest with
              | .error fault => .error fault
              | .ok (value, rest) =>
                readFields fuel strict fields false rest ((name, value) :: read)

end

/-- Reads a JSON text as a value of a shape. -/
def parseAs (shape : Shape) (text : String) : Except Fault Typed := do
  let cs := text.toList
  let (value, rest) ← readShape (2 * cs.length + 8) shape cs
  readEnd rest
  return value

end Inbound.Json
