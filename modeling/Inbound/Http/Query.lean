import Inbound.Http.MultiMap
import Inbound.Text.Digits
import Inbound.Text.Utf8

/-!
# Query parameters

A query is a sequence of pieces between ampersands. A piece is a name and a value around its
first equals sign; in both a plus sign stands for a space, and a percent sign with two
hexadecimal digits for a byte. What is no UTF-8 after that is replaced.
-/

namespace Inbound.Http

open Text (hexValue?)

/-- Puts bytes in the place of percent signs that two hexadecimal digits follow. -/
def percentDecodeList : List UInt8 → List UInt8
  | [] => []
  | [b] => [b]
  | [b, c] => [b, c]
  | b :: high :: low :: rest =>
    match b == 37, hexValue? high, hexValue? low with
    | true, some h, some l => (16 * h + l).toUInt8 :: percentDecodeList rest
    | _, _, _ => b :: percentDecodeList (high :: low :: rest)

/-- The bytes that a percent-encoded text stands for. -/
def percentDecode (bytes : ByteArray) : ByteArray :=
  ⟨(percentDecodeList bytes.toList).toArray⟩

/-- The text that a name or a value of a query stands for. -/
def decodeQueryText (bytes : List UInt8) : String :=
  let spaced := bytes.map fun b => if b = 43 then 32 else b
  Text.decodeLossy ⟨(percentDecodeList spaced).toArray⟩

/-- The name and the value of a piece. -/
def readQueryPiece (piece : List UInt8) : String × String :=
  let name := piece.takeWhile (· != 61)
  (decodeQueryText name, decodeQueryText (piece.drop (name.length + 1)))

/-- The pieces between ampersands. -/
def splitPieces : List UInt8 → List (List UInt8)
  | [] => [[]]
  | b :: rest =>
    if b = 38 then [] :: splitPieces rest
    else
      match splitPieces rest with
      | [] => [[b]]
      | piece :: pieces => (b :: piece) :: pieces

/-- All pairs of a query, blank values included. -/
def readQueryPairs (query : ByteArray) : List (String × String) :=
  ((splitPieces query.toList).filter (!·.isEmpty)).map readQueryPiece

/-- The parameters of a query. Those with blank values are dropped. -/
def readQuery (query : ByteArray) : MultiMap :=
  .ofPairs ((readQueryPairs query).filter (!·.2.isEmpty))

end Inbound.Http
