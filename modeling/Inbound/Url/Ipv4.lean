import Inbound.Text.Digits

/-!
# IPv4 addresses

An address is up to four numbers between dots, in base ten, eight or sixteen; the last number
fills all remaining bytes.
-/

namespace Inbound.Url

/-- An IPv4 address. -/
structure Ipv4 where
  /-- The address as one number. -/
  value : Nat
  deriving DecidableEq, Repr

namespace Ipv4

/-- The number that a numeral stands for, in base ten, or in base eight behind `0`, or in base
sixteen behind `0x`. -/
def number? (text : String) : Option Nat :=
  let read (base : Nat) (digits : List Char) : Option Nat :=
    digits.foldl (fun value c =>
      match value, Text.hexDigit? c with
      | some v, some d => if d < base then some (base * v + d) else none
      | _, _ => none) (some 0)
  match text.toList with
  | [] => none
  | '0' :: 'x' :: digits => read 16 digits
  | '0' :: 'X' :: digits => read 16 digits
  | '0' :: c :: digits => read 8 (c :: digits)
  | digits => read 10 digits

/-- Whether a domain looks like an address, because its last part is a number. -/
def isNumeric (domain : String) : Bool :=
  let check (last : String) : Bool :=
    (!last.isEmpty && last.all Char.isDigit) || (number? last).isSome
  match (domain.splitOn ".").reverse with
  | [] => false
  | "" :: last :: _ => check last
  | "" :: [] => false
  | last :: _ => check last

/-- The address with these numbers, of which the last fills what the others leave. -/
def ofNumbers? (numbers : List Nat) : Option Ipv4 :=
  let leading := numbers.dropLast
  match numbers.getLast? with
  | none => none
  | some last =>
    let bits := 8 * (4 - leading.length)
    if 3 < leading.length || leading.any (255 < ·) || 0 < last >>> bits then none
    else
      let high := leading.foldl (fun value n => 256 * value + n) 0
      some ⟨(high <<< bits) + last⟩

/-- Reads an address. -/
def parse? (text : String) : Option Ipv4 :=
  let parts := text.splitOn "."
  let parts := if parts.getLast? = some "" then parts.dropLast else parts
  match parts.mapM number? with
  | none => none
  | some numbers => ofNumbers? numbers

/-- The address as four numbers between dots. -/
def text (address : Ipv4) : String :=
  let byte (i : Nat) := toString ((address.value >>> (8 * i)) % 256)
  byte 3 ++ "." ++ byte 2 ++ "." ++ byte 1 ++ "." ++ byte 0

end Ipv4

end Inbound.Url
