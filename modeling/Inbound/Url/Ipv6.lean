import Inbound.Text.Digits

/-!
# IPv6 addresses

An address is eight pieces of four hexadecimal digits between colons. One run of zero pieces may
be left out between two colons, and the last two pieces may be written as four decimal bytes.
-/

namespace Inbound.Url

/-- An IPv6 address as its eight pieces. -/
structure Ipv6 where
  /-- The pieces in order. -/
  pieces : List Nat
  deriving DecidableEq, Repr

namespace Ipv6

/-- The pieces read so far, around the place where zeros were left out. -/
structure Partial where
  /-- The pieces in front of the double colon, or all of them. -/
  front : List Nat
  /-- The pieces behind the double colon, if there was one. -/
  back : Option (List Nat)

namespace Partial

/-- How many of the eight places are taken; a double colon takes one. -/
def places (read : Partial) : Nat :=
  read.front.length + ((read.back.map (·.length + 1)).getD 0)

/-- Adds a piece at the end. -/
def push (read : Partial) (piece : Nat) : Partial :=
  match read.back with
  | none => { read with front := read.front ++ [piece] }
  | some back => { read with back := some (back ++ [piece]) }

/-- The address, with zeros in the place of the double colon. -/
def finish? (read : Partial) : Option Ipv6 :=
  match read.back with
  | none => if read.front.length = 8 then some ⟨read.front⟩ else none
  | some back =>
    some ⟨read.front ++ List.replicate (8 - read.front.length - back.length) 0 ++ back⟩

end Partial

/-- A decimal byte without leading zeros. -/
def byte? (digits : List Char) : Option Nat :=
  let value := digits.foldl (fun value c => 10 * value + (c.toNat - 48)) 0
  if digits.isEmpty || !digits.all Char.isDigit || (digits.head? == some '0' && digits.length != 1)
    || 3 < digits.length || 255 < value then none
  else some value

/-- The two pieces that four decimal bytes stand for. -/
def embedded? (text : String) : Option (Nat × Nat) :=
  match (text.splitOn ".").mapM (fun part => byte? part.toList) with
  | some [a, b, c, d] => some (256 * a + b, 256 * c + d)
  | _ => none

/-- Reads what follows a complete piece or a double colon. -/
def readPieces (cs : List Char) (read : Partial) : Option Partial :=
  match cs with
  | [] => some read
  | ':' :: rest =>
    if 8 ≤ read.places || read.back.isSome then none
    else readPieces rest { read with back := some [] }
  | c :: rest =>
    let digits := ((c :: rest).take 4).takeWhile fun c => (Text.hexDigit? c).isSome
    let piece := digits.foldl (fun value c => 16 * value + (Text.hexDigit? c).getD 0) 0
    if 8 ≤ read.places then none
    else
      match _h : (c :: rest).drop digits.length with
      | [] => some (read.push piece)
      | '.' :: _ =>
        if digits.isEmpty || 6 < read.places then none
        else
          match embedded? (String.ofList (c :: rest)) with
          | none => none
          | some (high, low) => some ((read.push high).push low)
      | ':' :: next :: rest => readPieces (next :: rest) (read.push piece)
      | _ => none
termination_by cs.length
decreasing_by
  · simp
  · have := congrArg List.length _h
    simp only [List.length_drop, List.length_cons] at this ⊢
    omega

/-- Reads an address, without brackets. -/
def parse? (text : String) : Option Ipv6 :=
  match text.toList with
  | ':' :: ':' :: rest => (readPieces rest ⟨[], some []⟩).bind Partial.finish?
  | ':' :: _ => none
  | [] => none
  | [_] => none
  | cs => (readPieces cs ⟨[], none⟩).bind Partial.finish?

/-- The lengths of the runs of zeros that begin at each piece. -/
def zeroRuns : List Nat → List Nat
  | [] => []
  | piece :: rest =>
    let runs := zeroRuns rest
    (if piece = 0 then runs.headD 0 + 1 else 0) :: runs

/-- Where the longest run of zeros begins and how long it is; the first of equally long ones. -/
def longestRun (pieces : List Nat) : Nat × Nat :=
  let runs := zeroRuns pieces
  let longest := runs.foldl max 0
  (runs.idxOf longest, longest)

/-- The address between brackets, with the longest run of at least two zeros left out. -/
def text (address : Ipv6) : String :=
  let shown (pieces : List Nat) := ":".intercalate (pieces.map Text.lowerHex)
  let (start, size) := longestRun address.pieces
  if size < 2 then "[" ++ shown address.pieces ++ "]"
  else
    "[" ++ shown (address.pieces.take start) ++ "::" ++ shown (address.pieces.drop (start + size))
      ++ "]"

end Ipv6

end Inbound.Url
