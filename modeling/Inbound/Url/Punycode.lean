/-!
# Punycode

Labels of domains in ASCII alone (RFC 3492). The ASCII characters of a label come first; behind
the last hyphen stand the others, in increasing order, each as a distance from the one before in
a numeral of variable length. The bias of the numerals follows the distances seen so far.
-/

namespace Inbound.Url.Punycode

/-- The digit of a value below 36. -/
def digitChar (value : Nat) : Char :=
  if value < 26 then Char.ofNat (97 + value) else Char.ofNat (22 + value)

/-- The value of a digit. -/
def digitValue? (c : Char) : Option Nat :=
  if 'a' ≤ c ∧ c ≤ 'z' then some (c.toNat - 97)
  else if 'A' ≤ c ∧ c ≤ 'Z' then some (c.toNat - 65)
  else if c.isDigit then some (c.toNat - 22)
  else none

/-- The threshold of the digit at weight position `k`. -/
def threshold (k bias : Nat) : Nat :=
  if k ≤ bias then 1 else if bias + 26 ≤ k then 26 else k - bias

theorem threshold_pos (k bias : Nat) : 0 < threshold k bias := by
  unfold threshold
  split
  · omega
  · split <;> omega

/-- Divides a distance by 35 until it is small, and counts how often, in steps of 36. -/
def scaleDown (delta k : Nat) : Nat × Nat :=
  if 455 < delta then scaleDown (delta / 35) (k + 36) else (delta, k)
termination_by delta
decreasing_by exact Nat.div_lt_self (by omega) (by omega)

/-- The bias after a distance. -/
def adapt (delta count : Nat) (isFirst : Bool) : Nat :=
  let delta := if isFirst then delta / 700 else delta / 2
  let (delta, k) := scaleDown (delta + delta / count) 0
  k + 36 * delta / (delta + 38)

/-- A distance as a numeral of variable length. -/
def encodeNumeral (bias k delta : Nat) : List Char :=
  let t := threshold k bias
  if delta < t then [digitChar delta]
  else
    digitChar (t + (delta - t) % (36 - t)) :: encodeNumeral bias (k + 36) ((delta - t) / (36 - t))
termination_by delta
decreasing_by
  have ht := threshold_pos k bias
  have : (delta - threshold k bias) / (36 - threshold k bias) ≤ delta - threshold k bias :=
    Nat.div_le_self _ _
  omega

/-- How far the encoding of a label has come. -/
structure Encoder where
  /-- The numerals written so far. -/
  written : List Char
  /-- The distance since the last character that was written. -/
  delta : Nat
  /-- The bias of the next numeral. -/
  bias : Nat
  /-- How many characters of the label are dealt with. -/
  done : Nat

/-- Passes one character of the label while the characters with code `code` are written. -/
def Encoder.pass (basic code : Nat) (state : Encoder) (c : Char) : Encoder :=
  if c.toNat < code then { state with delta := state.delta + 1 }
  else if c.toNat = code then
    { written := state.written ++ encodeNumeral state.bias 36 state.delta
      delta := 0
      bias := adapt state.delta (state.done + 1) (state.done == basic)
      done := state.done + 1 }
  else state

/-- A label in ASCII, without the mark that says so. -/
def encode (label : List Char) : List Char :=
  let basic := label.filter (·.toNat < 128)
  let codes := (((label.filter (128 ≤ ·.toNat)).map Char.toNat).mergeSort).eraseDups
  let (state, _) := codes.foldl (fun (state, next) code =>
      let state := { state with delta := state.delta + (code - next) * (state.done + 1) }
      let state := label.foldl (Encoder.pass basic.length code) state
      ({ state with delta := state.delta + 1 }, code + 1))
    ((⟨[], 0, 72, basic.length⟩ : Encoder), 128)
  basic ++ (if basic.isEmpty then [] else ['-']) ++ state.written

/-- The greatest weight of a digit: all numbers are words of 32 bits. -/
def maxWeight : Nat := 4294967295

/-- Reads a numeral of variable length that is added to `i`. -/
def readNumeral (bias k weight i : Nat) : List Char → Option (Nat × List Char)
  | [] => none
  | c :: rest =>
    match digitValue? c with
    | none => none
    | some digit =>
      let i := i + digit * weight
      let t := threshold k bias
      if digit < t then some (i, rest)
      else if maxWeight < weight * (36 - t) then none
      else readNumeral bias (k + 36) (weight * (36 - t)) i rest

theorem readNumeral_length {bias k weight i j : Nat} {cs rest : List Char}
    (h : readNumeral bias k weight i cs = some (j, rest)) : rest.length < cs.length := by
  induction cs generalizing k weight i with
  | nil => simp [readNumeral] at h
  | cons c tail ih =>
    simp only [readNumeral] at h
    split at h
    · simp at h
    · split at h
      · simp only [Option.some.injEq, Prod.mk.injEq] at h
        simp [h.2]
      · split at h
        · simp at h
        · have := ih h
          simp only [List.length_cons]
          omega

/-- Reads numerals and puts the characters that they stand for among those read so far. -/
def readRest (cs : List Char) (code i bias : Nat) (read : List Char) : Option (List Char) :=
  if cs.isEmpty then some read
  else
    match _h : readNumeral bias 36 1 i cs with
    | none => none
    | some (j, rest) =>
      let count := read.length + 1
      let code := code + j / count
      -- Only numbers of characters are decoded.
      if 0x10FFFF < code || (0xD800 ≤ code && code < 0xE000) then none
      else
        let place := j % count
        readRest rest code (place + 1) (adapt (j - i) count (i == 0))
          (read.take place ++ Char.ofNat code :: read.drop place)
termination_by cs.length
decreasing_by exact readNumeral_length _h

/-- The label that an encoded label stands for. -/
def decode? (text : List Char) : Option (List Char) :=
  let ext := (text.reverse.takeWhile (· != '-')).reverse
  let basic := text.take (text.length - ext.length - 1)
  if basic.any (128 ≤ ·.toNat) then none else readRest ext 128 0 72 basic

end Inbound.Url.Punycode
