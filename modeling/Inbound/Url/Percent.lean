import Inbound.Text.Digits

/-!
# Percent-encoding

Each part of a URL has its own set of characters that may not stand in it as they are. They are
written as the bytes of their UTF-8 encoding, each as a percent sign and two digits. Characters
outside ASCII are in every set.
-/

namespace Inbound.Url

/-- A part of a URL, as far as encoding goes. -/
inductive Part where
  /-- A path without structure, or a host that is no domain. -/
  | opaquePart
  | fragment
  | query
  /-- The query of a scheme that browsers know. -/
  | specialQuery
  | path
  | userInfo
  deriving DecidableEq, Repr

/-- The printable ASCII characters that are encoded in a part. -/
def Part.reserved : Part → List Char
  | .opaquePart => []
  | .fragment => [' ', '"', '<', '>', '\x60']
  | .query => [' ', '"', '#', '<', '>']
  | .specialQuery => [' ', '"', '#', '<', '>', '\'']
  | .path => [' ', '"', '<', '>', '\x60', '#', '?', '\x7b', '\x7d']
  | .userInfo =>
    [' ', '"', '<', '>', '\x60', '#', '?', '\x7b', '\x7d', '/', ':', ';', '=', '@', '[', '\\', ']',
      '^', '|']

/-- Whether `c` is encoded in a part. -/
def Part.encodes (part : Part) (c : Char) : Bool :=
  c.toNat < 32 || 127 ≤ c.toNat || part.reserved.contains c

/-- A character in encoded form. -/
def percentEncodeChar (c : Char) : String :=
  (String.utf8EncodeChar c).foldl (fun text b => text ++ "%" ++ Text.upperHexByte b) ""

/-- The text with every character encoded that the part demands. -/
def percentEncode (part : Part) (text : String) : String :=
  text.foldl (fun encoded c =>
    if part.encodes c then encoded ++ percentEncodeChar c else encoded.push c) ""

end Inbound.Url
