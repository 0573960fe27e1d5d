import Inbound.Text.Blank
import Inbound.Text.Utf8

/-!
# Character sets

The character sets a body can be read in, the names they go by, and reading.
-/

namespace Inbound

/-- A character set. -/
inductive Charset where
  | utf8
  | ascii
  | latin1
  deriving DecidableEq, Repr

namespace Charset

/-- The character set of a name, in any case and between blanks. -/
def ofName? (name : String) : Option Charset :=
  match (Text.trimBlank name).toLower with
  | "utf-8" | "utf8" => some .utf8
  | "us-ascii" | "ascii" => some .ascii
  | "iso-8859-1" | "iso8859-1" | "latin-1" | "latin1" | "l1" => some .latin1
  | _ => none

/-- The preferred name. -/
def name : Charset → String
  | .utf8 => "utf-8"
  | .ascii => "us-ascii"
  | .latin1 => "iso-8859-1"

/-- The text in which each byte is the code point of one character. -/
def readBytewise (bytes : ByteArray) : String :=
  bytes.foldl (fun text b => text.push (Char.ofNat b.toNat)) ""

/-- Whether every byte is an ASCII code. -/
def isAscii (bytes : ByteArray) : Bool :=
  bytes.foldl (fun all b => all && b < 0x80) true

/-- The text that the bytes stand for, if they are valid. -/
def decode? : Charset → ByteArray → Option String
  | .utf8, bytes => Text.decodeUtf8? bytes
  | .ascii, bytes => if isAscii bytes then Text.decodeUtf8? bytes else none
  | .latin1, bytes => some (readBytewise bytes)

end Charset

end Inbound
