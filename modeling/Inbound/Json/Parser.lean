import Inbound.Json.Lexical

/-!
# Reading JSON texts

Reads whole JSON values. Arrays and objects may be nested to a fixed depth.
-/

namespace Inbound.Json

/-- How deeply arrays and objects may not be nested. -/
def depthLimit : Nat := 128

/-! ### Between elements -/

/-- Goes to the next element of an array, or says that there is none. -/
def nextElement (isFirst : Bool) (cs : List Char) : Except Fault (Bool × List Char) :=
  match skipBlanks cs with
  | [] => .error .truncated
  | ']' :: rest => .ok (false, ']' :: rest)
  | c :: rest =>
    if isFirst then .ok (true, c :: rest)
    else if c == ',' then
      match skipBlanks rest with
      | [] => .error .truncated
      -- There is no comma behind the last element.
      | ']' :: _ => .error .malformed
      | rest => .ok (true, rest)
    else .error .malformed

/-- Goes behind the opening quote of the next name in an object, or says that there is none. -/
def nextMember (isFirst : Bool) (cs : List Char) : Except Fault (Bool × List Char) :=
  match skipBlanks cs with
  | [] => .error .truncated
  | '\x7d' :: rest => .ok (false, '\x7d' :: rest)
  | c :: rest =>
    if isFirst then if c == '"' then .ok (true, rest) else .error .malformed
    else if c == ',' then
      match skipBlanks rest with
      | [] => .error .truncated
      | '"' :: rest => .ok (true, rest)
      | _ => .error .malformed
    else .error .malformed

/-- Passes over the colon behind a name. -/
def readColon (cs : List Char) : Except Fault (Unit × List Char) :=
  match skipBlanks cs with
  | [] => .error .truncated
  | ':' :: rest => .ok ((), rest)
  | _ => .error .malformed

/-- Passes over the bracket that ends an array or an object. -/
def readClosing (bracket : Char) (cs : List Char) : Except Fault (Unit × List Char) :=
  match skipBlanks cs with
  | [] => .error .truncated
  | c :: rest => if c == bracket then .ok ((), rest) else .error .malformed

/-- Nothing but blanks may stand behind the value of a text. -/
def readEnd (cs : List Char) : Except Fault Unit :=
  if (skipBlanks cs).isEmpty then .ok () else .error .malformed

/-! ### Values -/

mutual

/-- Reads a value. The fuel is at least twice the number of characters. -/
def readValue (fuel depth : Nat) (cs : List Char) : Except Fault (Value × List Char) :=
  match fuel with
  | 0 => .error .truncated
  | fuel + 1 =>
    match skipBlanks cs with
    | [] => .error .truncated
    | 'n' :: rest => do
      let ((), rest) ← readWord ['u', 'l', 'l'] rest
      return (.null, rest)
    | 't' :: rest => do
      let ((), rest) ← readWord ['r', 'u', 'e'] rest
      return (.boolean true, rest)
    | 'f' :: rest => do
      let ((), rest) ← readWord ['a', 'l', 's', 'e'] rest
      return (.boolean false, rest)
    | '"' :: rest => do
      let (text, rest) ← readString rest
      return (.string text, rest)
    | '-' :: rest => do
      let (number, rest) ← readNumber false rest
      return (.number number, rest)
    | '[' :: rest =>
      if depth ≤ 1 then .error .malformed
      else do
        let (elements, rest) ← readElements fuel (depth - 1) true rest []
        let ((), rest) ← readClosing ']' rest
        return (.array elements, rest)
    | '\x7b' :: rest =>
      if depth ≤ 1 then .error .malformed
      else do
        let (members, rest) ← readMembers fuel (depth - 1) true rest []
        let ((), rest) ← readClosing '\x7d' rest
        return (.object (sortMembers members), rest)
    | c :: rest =>
      if c.isDigit then do
        let (number, rest) ← readNumber true (c :: rest)
        return (.number number, rest)
      else .error .malformed

/-- Reads the elements of an array behind those already read, which are in reverse order. -/
def readElements (fuel depth : Nat) (isFirst : Bool) (cs : List Char) (read : List Value) :
    Except Fault (List Value × List Char) :=
  match fuel with
  | 0 => .error .truncated
  | fuel + 1 =>
    match nextElement isFirst cs with
    | .error fault => .error fault
    | .ok (false, rest) => .ok (read.reverse, rest)
    | .ok (true, rest) =>
      match readValue fuel depth rest with
      | .error fault => .error fault
      | .ok (value, rest) => readElements fuel depth false rest (value :: read)

/-- Reads the members of an object behind those already read, which are in reverse order. -/
def readMembers (fuel depth : Nat) (isFirst : Bool) (cs : List Char)
    (read : List (String × Value)) : Except Fault (List (String × Value) × List Char) :=
  match fuel with
  | 0 => .error .truncated
  | fuel + 1 =>
    match nextMember isFirst cs with
    | .error fault => .error fault
    | .ok (false, rest) => .ok (read.reverse, rest)
    | .ok (true, rest) =>
      match readString rest with
      | .error fault => .error fault
      | .ok (name, rest) =>
        match readColon rest with
        | .error fault => .error fault
        | .ok ((), rest) =>
          match readValue fuel depth rest with
          | .error fault => .error fault
          | .ok (value, rest) => readMembers fuel depth false rest ((name, value) :: read)

end

/-- Reads a JSON text. -/
def parse (text : String) : Except Fault Value := do
  let cs := text.toList
  let (value, rest) ← readValue (2 * cs.length + 2) depthLimit cs
  readEnd rest
  return value

/-! ### Skipping -/

/-- What a skipped value is nested in. -/
inductive Frame where
  | array
  | object
  deriving DecidableEq

/-- The bracket that ends the frame. -/
def Frame.closing : Frame → Char
  | .array => ']'
  | .object => '\x7d'

/-- What a skipping reader expects next. -/
inductive Expected where
  /-- A value. -/
  | value
  /-- The first item of the innermost frame, or its end. -/
  | first
  /-- A comma, or the end of the innermost frame. -/
  | further

/-- Passes over one value that is no array and no object. -/
def skipScalar (cs : List Char) : Except Fault (Unit × List Char) :=
  match cs with
  | 'n' :: rest => readWord ['u', 'l', 'l'] rest
  | 't' :: rest => readWord ['r', 'u', 'e'] rest
  | 'f' :: rest => readWord ['a', 'l', 's', 'e'] rest
  | '"' :: rest => skipString rest
  | '-' :: rest => skipNumber rest
  | [] => .error .truncated
  | c :: rest => if c.isDigit then skipNumber (c :: rest) else .error .malformed

/-- Passes over the name of a member and its colon. -/
def skipName (cs : List Char) : Except Fault (Unit × List Char) :=
  match skipBlanks cs with
  | [] => .error .truncated
  | '"' :: rest => do
    let ((), rest) ← skipString rest
    readColon rest
  | _ => .error .malformed

/-- Passes over a value however deeply nested; `fuel` is at least thrice the number of
characters. -/
def skipValueFrom (fuel : Nat) (expected : Expected) (frames : List Frame) (cs : List Char) :
    Except Fault (Unit × List Char) :=
  match fuel with
  | 0 => .error .truncated
  | fuel + 1 =>
    let enterItem (frame : Frame) (cs : List Char) :=
      match frame with
      | .array => skipValueFrom fuel .value frames cs
      | .object =>
        match skipName cs with
        | .error fault => .error fault
        | .ok ((), rest) => skipValueFrom fuel .value frames rest
    match expected, frames with
    | .value, _ =>
      match skipBlanks cs with
      | '[' :: rest => skipValueFrom fuel .first (.array :: frames) rest
      | '\x7b' :: rest => skipValueFrom fuel .first (.object :: frames) rest
      | cs =>
        match skipScalar cs with
        | .error fault => .error fault
        | .ok ((), rest) => skipValueFrom fuel .further frames rest
    | _, [] => .ok ((), cs)
    | .first, frame :: outer =>
      match skipBlanks cs with
      | [] => .error .truncated
      | c :: rest =>
        if c == frame.closing then skipValueFrom fuel .further outer rest
        else enterItem frame (c :: rest)
    | .further, frame :: outer =>
      match skipBlanks cs with
      | [] => .error .truncated
      | c :: rest =>
        if c == ',' then enterItem frame rest
        else if c == frame.closing then skipValueFrom fuel .further outer rest
        else .error .malformed

/-- Passes over a value that nobody needs. -/
def skipValue (cs : List Char) : Except Fault (Unit × List Char) :=
  skipValueFrom (3 * cs.length + 3) .value [] cs

end Inbound.Json
