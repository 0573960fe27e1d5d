/-!
# Base 64

Three bytes are written as four digits of six bits each; a rest of one or two bytes is padded with
`=`.
-/

namespace Inbound.Text

/-- The digit of six bits. -/
def base64Digit (n : Nat) : Char :=
  if n < 26 then Char.ofNat (n + 65)
  else if n < 52 then Char.ofNat (n + 71)
  else if n < 62 then Char.ofNat (n - 4)
  else if n = 62 then '+'
  else '/'

/-- The digits of a list of bytes. -/
def base64Digits : List UInt8 → List Char
  | [] => []
  | [a] =>
    let bits := a.toNat * 16
    [base64Digit (bits / 64), base64Digit (bits % 64), '=', '=']
  | [a, b] =>
    let bits := (a.toNat * 256 + b.toNat) * 4
    [base64Digit (bits / 4096), base64Digit (bits / 64 % 64), base64Digit (bits % 64), '=']
  | a :: b :: c :: rest =>
    let bits := (a.toNat * 256 + b.toNat) * 256 + c.toNat
    base64Digit (bits / 262144) :: base64Digit (bits / 4096 % 64)
      :: base64Digit (bits / 64 % 64) :: base64Digit (bits % 64) :: base64Digits rest

/-- The bytes in base 64. -/
def base64 (bytes : ByteArray) : String :=
  String.ofList (base64Digits bytes.data.toList)

end Inbound.Text
