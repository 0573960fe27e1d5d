/-!
# Tokens

The characters that the names of fields and of parameters consist of.
-/

namespace Inbound.Http

/-- The punctuation that may stand in a token. -/
def tokenMarks : List Char :=
  ['!', '#', '$', '%', '&', '\'', '*', '+', '-', '.', '^', '_', '\x60', '|', '~']

/-- Whether `c` may stand in a token. -/
def isTokenChar (c : Char) : Bool :=
  c.isAlphanum || tokenMarks.contains c

/-- Whether the byte is the ASCII code of a character that may stand in a token. -/
def isTokenByte (b : UInt8) : Bool :=
  isTokenChar (Char.ofNat b.toNat)

end Inbound.Http
