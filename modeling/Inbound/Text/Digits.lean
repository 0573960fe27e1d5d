/-!
# Digits

Hexadecimal digits as they stand in escapes, and their values.
-/

namespace Inbound.Text

/-- The value of a hexadecimal digit, given by its ASCII code. -/
def hexValue? (b : UInt8) : Option Nat :=
  if 48 ≤ b ∧ b ≤ 57 then some (b.toNat - 48)
  else if 65 ≤ b ∧ b ≤ 70 then some (b.toNat - 55)
  else if 97 ≤ b ∧ b ≤ 102 then some (b.toNat - 87)
  else none

/-- The value of a hexadecimal digit. -/
def hexDigit? (c : Char) : Option Nat :=
  if c.toNat < 128 then hexValue? c.toNat.toUInt8 else none

/-- The lower-case hexadecimal numeral of `n`, without leading zeros. -/
def lowerHex (n : Nat) : String :=
  String.ofList (Nat.toDigits 16 n)

/-- The lower-case hexadecimal numeral of `n` with at least so many digits. -/
def paddedHex (width n : Nat) : String :=
  let digits := lowerHex n
  "".pushn '0' (width - digits.length) ++ digits

/-- The bytes that pairs of hexadecimal digits spell. -/
def unhexDigits : List Char → List UInt8
  | high :: low :: rest =>
    (16 * (hexDigit? high).getD 0 + (hexDigit? low).getD 0).toUInt8 :: unhexDigits rest
  | _ => []

/-- The bytes that a text of hexadecimal digits spells. -/
def unhex (digits : String) : ByteArray :=
  ⟨(unhexDigits digits.toList).toArray⟩

/-- The two lower-case hexadecimal digits of a byte. -/
def lowerHexByte (b : UInt8) : String :=
  String.ofList [Nat.digitChar (b.toNat / 16), Nat.digitChar (b.toNat % 16)]

/-- The two upper-case hexadecimal digits of a byte. -/
def upperHexByte (b : UInt8) : String :=
  String.ofList [(Nat.digitChar (b.toNat / 16)).toUpper, (Nat.digitChar (b.toNat % 16)).toUpper]

/-- All bytes in lower-case hexadecimal, two digits each. -/
def lowerHexBytes (bytes : ByteArray) : String :=
  bytes.foldl (fun text b =>
    (text.push (Nat.digitChar (b.toNat / 16))).push (Nat.digitChar (b.toNat % 16))) ""

end Inbound.Text
