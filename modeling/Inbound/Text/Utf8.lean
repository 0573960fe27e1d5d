/-!
# Reading bytes as text

`decodeUtf8?` accepts exactly the bytes that encode a text. `decodeLossy` reads any bytes: a
maximal piece that could have begun a character, but does not go on as one, becomes one U+FFFD.
-/

namespace Inbound.Text

/-- The text that `bytes` encode in UTF-8, if they do. -/
def decodeUtf8? (bytes : ByteArray) : Option String :=
  String.fromUTF8? bytes

/-- Whether `b` can continue a character after its first byte. -/
def isContinuation (b : UInt8) : Bool :=
  0x80 ≤ b && b ≤ 0xBF

/-- Whether `second` may follow `first` in the encoding of a character. The narrower ranges shut
out overlong forms, surrogates, and code points above U+10FFFF. -/
def mayFollow (first second : UInt8) : Bool :=
  if first == 0xE0 then 0xA0 ≤ second && second ≤ 0xBF
  else if first == 0xED then 0x80 ≤ second && second ≤ 0x9F
  else if first == 0xF0 then 0x90 ≤ second && second ≤ 0xBF
  else if first == 0xF4 then 0x80 ≤ second && second ≤ 0x8F
  else isContinuation second

/-- How many bytes the encoding that starts with `first` has, if any encoding does. -/
def encodedSize? (first : UInt8) : Option Nat :=
  if first < 0x80 then some 1
  else if 0xC2 ≤ first && first ≤ 0xDF then some 2
  else if 0xE0 ≤ first && first ≤ 0xEF then some 3
  else if 0xF0 ≤ first && first ≤ 0xF4 then some 4
  else none

/-- How many bytes at `i`, where no character is encoded, belong to one attempt at a character:
at least one, and no byte that could start another. -/
def brokenSize (bytes : ByteArray) (i : Nat) : Nat :=
  match bytes[i]? with
  | none => 1
  | some first =>
    match encodedSize? first with
    | none => 1
    | some size =>
      match bytes[i + 1]? with
      | none => 1
      | some second =>
        if size < 3 || !mayFollow first second then 1
        else
          match bytes[i + 2]? with
          | none => 2
          | some third => if size < 4 || !isContinuation third then 2 else 3

theorem brokenSize_pos (bytes : ByteArray) (i : Nat) : 0 < brokenSize bytes i := by
  unfold brokenSize
  repeat' split
  all_goals decide

/-- Whether the bytes from `i` on are the beginning of a character that only lacks its last
bytes. -/
def isUnfinished (bytes : ByteArray) (i : Nat) : Bool :=
  match bytes[i]? with
  | none => false
  | some first =>
    match encodedSize? first with
    | none => false
    | some size => 1 < size && i + brokenSize bytes i == bytes.size && bytes.size < i + size

/-- Reads the bytes from `i` on behind the text `read`. -/
def decodeLossyFrom (bytes : ByteArray) (i : Nat) (read : String) : String :=
  if i < bytes.size then
    match bytes.utf8DecodeChar? i with
    | some c => decodeLossyFrom bytes (i + c.utf8Size) (read.push c)
    | none => decodeLossyFrom bytes (i + brokenSize bytes i) (read.push '\uFFFD')
  else read
termination_by bytes.size - i
decreasing_by
  · have := c.utf8Size_pos; omega
  · have := brokenSize_pos bytes i; omega

/-- Reads any bytes as text, with U+FFFD for what encodes no character. -/
def decodeLossy (bytes : ByteArray) : String :=
  match decodeUtf8? bytes with
  | some text => text
  | none => decodeLossyFrom bytes 0 ""

/-- Whether the bytes encode a text up to the beginning of one character that only lacks its last
bytes. -/
def isUtf8BeginningFrom (bytes : ByteArray) (i : Nat) : Bool :=
  if i < bytes.size then
    match bytes.utf8DecodeChar? i with
    | some c => isUtf8BeginningFrom bytes (i + c.utf8Size)
    | none => isUnfinished bytes i
  else true
termination_by bytes.size - i
decreasing_by
  have := c.utf8Size_pos; omega

/-- Whether more bytes could make `bytes` the encoding of a text. -/
def isUtf8Beginning (bytes : ByteArray) : Bool :=
  isUtf8BeginningFrom bytes 0

end Inbound.Text
