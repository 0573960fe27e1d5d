import Inbound.Json.Value
import Inbound.Text.Digits

/-!
# Words, strings and numbers of JSON

Readers of the pieces of a JSON text. Each takes the characters from its piece on and gives what
it read with the characters behind it.
-/

namespace Inbound.Json

/-- Passes over blanks. -/
def skipBlanks (cs : List Char) : List Char :=
  cs.dropWhile fun c => c == ' ' || c == '\n' || c == '\t' || c == '\r'

/-- Reads the rest of a word. -/
def readWord (word cs : List Char) : Except Fault (Unit × List Char) :=
  match word, cs with
  | [], cs => .ok ((), cs)
  | _ :: _, [] => .error .truncated
  | w :: word, c :: cs => if c == w then readWord word cs else .error .malformed

/-! ### Strings -/

/-- Reads the four digits of an escaped code unit. The text is cut off if fewer than four bytes of
it are left. -/
def readUnit (cs : List Char) : Except Fault (Nat × List Char) :=
  match cs with
  | a :: b :: c :: d :: rest =>
    match [a, b, c, d].mapM Text.hexDigit? with
    | some digits => .ok (digits.foldl (fun value digit => 16 * value + digit) 0, rest)
    | none => .error .malformed
  | short => .error (if (String.ofList short).utf8ByteSize < 4 then .truncated else .malformed)

/-- Reads the rest of an escaped character outside the basic plane, behind its first unit. -/
def readLowUnit (high : Nat) (cs : List Char) : Except Fault (Char × List Char) :=
  match cs with
  | [] => .error .truncated
  | ['\\'] => .error .truncated
  | '\\' :: 'u' :: rest => do
    let (low, rest) ← readUnit rest
    if 0xDC00 ≤ low && low ≤ 0xDFFF then
      return (Char.ofNat (0x10000 + (high - 0xD800) * 0x400 + (low - 0xDC00)), rest)
    else .error .malformed
  | _ => .error .malformed

/-- Reads an escaped character behind its backslash. -/
def readEscape (cs : List Char) : Except Fault (Char × List Char) :=
  match cs with
  | [] => .error .truncated
  | '"' :: rest => .ok ('"', rest)
  | '\\' :: rest => .ok ('\\', rest)
  | '/' :: rest => .ok ('/', rest)
  | 'b' :: rest => .ok ('\x08', rest)
  | 'f' :: rest => .ok ('\x0c', rest)
  | 'n' :: rest => .ok ('\n', rest)
  | 'r' :: rest => .ok ('\r', rest)
  | 't' :: rest => .ok ('\t', rest)
  | 'u' :: rest => do
    let (unit, rest) ← readUnit rest
    if 0xDC00 ≤ unit && unit ≤ 0xDFFF then .error .malformed
    else if 0xD800 ≤ unit && unit ≤ 0xDBFF then readLowUnit unit rest
    else return (Char.ofNat unit, rest)
  | _ => .error .malformed

/-- Reads a string behind its opening quote; `fuel` is at least the number of characters. -/
def readStringFrom (fuel : Nat) (cs : List Char) (read : String) :
    Except Fault (String × List Char) :=
  match fuel, cs with
  | _, [] => .error .truncated
  | 0, _ => .error .truncated
  | _ + 1, '"' :: rest => .ok (read, rest)
  | fuel + 1, '\\' :: rest =>
    match readEscape rest with
    | .ok (c, rest) => readStringFrom fuel rest (read.push c)
    | .error fault => .error fault
  | fuel + 1, c :: rest =>
    if c < ' ' then .error .malformed else readStringFrom fuel rest (read.push c)

/-- Reads a string behind its opening quote. -/
def readString (cs : List Char) : Except Fault (String × List Char) :=
  readStringFrom cs.length cs ""

/-- Passes over a string whose value nobody needs: escaped units need not make up characters. -/
def skipStringFrom (fuel : Nat) (cs : List Char) : Except Fault (Unit × List Char) :=
  match fuel, cs with
  | _, [] => .error .truncated
  | 0, _ => .error .truncated
  | _ + 1, '"' :: rest => .ok ((), rest)
  | fuel + 1, '\\' :: 'u' :: rest =>
    match readUnit rest with
    | .ok (_, rest) => skipStringFrom fuel rest
    | .error fault => .error fault
  | fuel + 1, '\\' :: rest =>
    match readEscape rest with
    | .ok (_, rest) => skipStringFrom fuel rest
    | .error fault => .error fault
  | fuel + 1, c :: rest => if c < ' ' then .error .malformed else skipStringFrom fuel rest

/-- Passes over a string behind its opening quote. -/
def skipString (cs : List Char) : Except Fault (Unit × List Char) :=
  skipStringFrom cs.length cs

/-! ### Numbers

A floating-point number is computed from the leading digits that fit in 64 bits and a power of
ten, by one multiplication or division. -/

/-- The greatest significand. -/
def maxSignificand : Nat := 18446744073709551615

/-- The greatest significand of a negative integer. -/
def maxNegated : Nat := 9223372036854775808

/-- An exponent that is read as no greater than this. -/
def exponentCap : Nat := 2147483648

/-- The power of ten nearest to `10 ^ n`. -/
def powerOfTen (n : Nat) : Float :=
  Float.ofScientific 1 false n

/-- Divides by powers of ten that are too great to be represented. -/
def scaleBelow (fuel : Nat) (value : Float) (exponent : Nat) : Float :=
  match fuel with
  | 0 => value / powerOfTen exponent
  | fuel + 1 =>
    if exponent ≤ 308 then value / powerOfTen exponent
    else if value == 0 then value
    else scaleBelow fuel (value / powerOfTen 308) (exponent - 308)

/-- The number `significand * 10 ^ exponent`. -/
def scale (positive : Bool) (significand : Nat) (exponent : Int) : Except Fault Float :=
  let value := significand.toUInt64.toFloat
  let signed (value : Float) : Float := if positive then value else -value
  if exponent < 0 then .ok (signed (scaleBelow 3 value exponent.natAbs))
  else if 308 < exponent then
    -- Beyond all powers of ten only zero is still a number.
    if significand = 0 then .ok (signed value) else .error .malformed
  else
    let value := value * powerOfTen exponent.toNat
    if value.isInf then .error .malformed else .ok (signed value)

/-- The value of a digit. -/
def digit (c : Char) : Nat := c.toNat - 48

/-- Reads digits into a significand as long as it fits; gives the number of digits read. -/
def readDigits (significand count : Nat) : List Char → Nat × Nat × List Char
  | [] => (significand, count, [])
  | c :: rest =>
    if c.isDigit && 10 * significand + digit c ≤ maxSignificand then
      readDigits (10 * significand + digit c) (count + 1) rest
    else (significand, count, c :: rest)

/-- Reads an exponent behind its letter. -/
def readExponent (positive : Bool) (significand : Nat) (start : Int) (cs : List Char) :
    Except Fault (Number × List Char) :=
  let (up, cs) :=
    match cs with
    | '+' :: rest => (true, rest)
    | '-' :: rest => (false, rest)
    | cs => (true, cs)
  let digits := cs.takeWhile Char.isDigit
  let rest := cs.drop digits.length
  match cs with
  | [] => .error .truncated
  | c :: _ =>
    if !c.isDigit then .error .malformed
    else
      let exponent := digits.foldl (fun exponent c => min exponentCap (10 * exponent + digit c)) 0
      -- So large an exponent decides alone, unless there is nothing to multiply.
      if exponent = exponentCap then
        if significand != 0 && up then .error .malformed
        else .ok (.real (if positive then 0 else -0), rest)
      else do
        let value ← scale positive significand (if up then start + exponent else start - exponent)
        return (.real value, rest)

/-- Reads what may stand behind the digits of a number with a fraction. -/
def readFractionEnd (positive : Bool) (significand : Nat) (exponent : Int) (cs : List Char) :
    Except Fault (Number × List Char) :=
  match cs with
  | 'e' :: rest => readExponent positive significand exponent rest
  | 'E' :: rest => readExponent positive significand exponent rest
  | cs => do
    let value ← scale positive significand exponent
    return (.real value, cs)

/-- Reads a fraction behind its point. Digits that do not fit are dropped. -/
def readFraction (positive : Bool) (significand : Nat) (start : Int) (cs : List Char) :
    Except Fault (Number × List Char) :=
  match cs with
  | [] => .error .truncated
  | c :: _ =>
    if !c.isDigit then .error .malformed
    else
      let (significand, count, rest) := readDigits significand 0 cs
      readFractionEnd positive significand (start - count) (rest.dropWhile Char.isDigit)

/-- The integer of a significand, or a floating-point number where 64 bits do not hold it. -/
def integerOrReal (positive : Bool) (significand : Nat) : Number :=
  if positive then .integer significand
  else if 0 < significand && significand ≤ maxNegated then .integer (-significand)
  else .real (-significand.toUInt64.toFloat)

/-- Reads what may stand behind the digits of an integer. -/
def readIntegerEnd (positive : Bool) (significand : Nat) (cs : List Char) :
    Except Fault (Number × List Char) :=
  match cs with
  | '.' :: rest => readFraction positive significand 0 rest
  | 'e' :: rest => readExponent positive significand 0 rest
  | 'E' :: rest => readExponent positive significand 0 rest
  | cs => .ok (integerOrReal positive significand, cs)

/-- Reads a number behind its sign. -/
def readNumber (positive : Bool) (cs : List Char) : Except Fault (Number × List Char) :=
  match cs with
  | [] => .error .truncated
  | '0' :: rest =>
    if (rest.head?.map Char.isDigit).getD false then .error .malformed
    else readIntegerEnd positive 0 rest
  | c :: _ =>
    if !c.isDigit then .error .malformed
    else
      let (significand, _, rest) := readDigits 0 0 cs
      -- Digits that do not fit are dropped and counted, which makes the number a real one.
      let surplus := rest.takeWhile Char.isDigit
      if surplus.isEmpty then readIntegerEnd positive significand rest
      else
        match rest.drop surplus.length with
        | '.' :: rest => readFraction positive significand surplus.length rest
        | rest => readFractionEnd positive significand surplus.length rest

/-- Passes over digits of which there has to be one. -/
def skipDigits (cs : List Char) : Except Fault (Unit × List Char) :=
  match cs with
  | [] => .error .malformed
  | c :: rest => if c.isDigit then .ok ((), rest.dropWhile Char.isDigit) else .error .malformed

/-- Passes over an exponent, if there is one. -/
def skipExponent (cs : List Char) : Except Fault (Unit × List Char) :=
  let behindLetter (cs : List Char) :=
    match cs with
    | '+' :: rest => skipDigits rest
    | '-' :: rest => skipDigits rest
    | cs => skipDigits cs
  match cs with
  | 'e' :: rest => behindLetter rest
  | 'E' :: rest => behindLetter rest
  | cs => .ok ((), cs)

/-- Passes over a number whose value nobody needs, behind its sign. -/
def skipNumber (cs : List Char) : Except Fault (Unit × List Char) := do
  let ((), rest) ← skipDigits cs
  -- No number but zero begins with a zero.
  if cs.head? == some '0' && (cs[1]?.map Char.isDigit).getD false then .error .malformed
  else
    match rest with
    | '.' :: rest => do
      let ((), rest) ← skipDigits rest
      skipExponent rest
    | rest => skipExponent rest

end Inbound.Json
