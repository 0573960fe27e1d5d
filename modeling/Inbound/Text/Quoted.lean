import Inbound.Text.Digits
import Inbound.Text.GraphemeExtend
import Inbound.Text.Unprintable

/-!
# Quoted texts and bytes

How a text is shown in a diagnostic: between double quotes, with a backslash before what would
be misread, and with unprintable characters by number. Bytes are shown likewise, and those
outside printable ASCII by their two digits.
-/

namespace Inbound.Text

/-- Which characters are escaped beyond the ones that always are. -/
structure EscapeStyle where
  /-- A double quote takes a backslash. -/
  doubleQuote : Bool
  /-- A single quote takes a backslash. -/
  singleQuote : Bool
  /-- A character that cannot be read on its own is shown by number. -/
  elusive : Bool

/-- A character by the number of its code point. -/
def escapedCode (c : Char) : String :=
  "\\u\x7b" ++ lowerHex c.toNat ++ "\x7d"

/-- A character as a quoted text shows it. -/
def EscapeStyle.escape (style : EscapeStyle) (c : Char) : String :=
  if c == '\x00' then "\\0"
  else if c == '\t' then "\\t"
  else if c == '\r' then "\\r"
  else if c == '\n' then "\\n"
  else if c == '\\' then "\\\\"
  else if c == '"' && style.doubleQuote then "\\\""
  else if c == '\'' && style.singleQuote then "\\'"
  else if ' ' ≤ c && c ≤ '~' then c.toString
  else if style.elusive && isElusive c then escapedCode c
  else if isUnprintable c then escapedCode c
  else c.toString

/-- The text between double quotes; single quotes stand as they are. -/
def quote (s : String) : String :=
  s.foldl (fun shown c => shown ++ EscapeStyle.escape ⟨true, false, true⟩ c) "\"" ++ "\""

/-- The text with its quotes escaped, for use inside another text. A character that cannot be read
on its own is shown by number only at the beginning, where nothing precedes it. -/
def escapeInline (s : String) : String :=
  match s.toList with
  | [] => ""
  | c :: rest =>
    rest.foldl (fun shown d => shown ++ EscapeStyle.escape ⟨true, true, false⟩ d)
      (EscapeStyle.escape ⟨true, true, true⟩ c)

/-- A byte as a quoted byte string shows it. -/
def escapeByte (b : UInt8) : String :=
  if b == 0 then "\\0"
  else if b == 9 then "\\t"
  else if b == 10 then "\\n"
  else if b == 13 then "\\r"
  else if b == 34 then "\\\""
  else if b == 92 then "\\\\"
  else if 0x20 ≤ b && b < 0x7F then (Char.ofNat b.toNat).toString
  else "\\x" ++ lowerHexByte b

/-- The bytes between double quotes, after a `b`. -/
def quoteBytes (bytes : ByteArray) : String :=
  bytes.foldl (fun shown b => shown ++ escapeByte b) "b\"" ++ "\""

/-- An optional text, as `Some("x")` or `None`. -/
def quoteOption : Option String → String
  | none => "None"
  | some s => "Some(" ++ quote s ++ ")"

/-- A truth value as a diagnostic shows it. -/
def showBool (b : Bool) : String :=
  if b then "true" else "false"

end Inbound.Text
