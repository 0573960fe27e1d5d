import Inbound.Text.Digits

/-!
# Flat TOML documents

The part of TOML that a settings file with scalar entries only can use: comments, bare and quoted
keys, integers, truth values, and the four kinds of strings. A document with anything else (a
table, an array, a dotted key, a float, a date) is refused as a whole, as are malformed ones and
ones that set a key twice.
-/

namespace Inbound.Config

/-- A value that a key is set to. -/
inductive Scalar where
  | integer (n : Int)
  | text (s : String)
  | flag (b : Bool)
  deriving DecidableEq, Repr

namespace Document

/-- Whether `c` may stand in a comment or a string: no control but the tab. -/
def isPlain (c : Char) : Bool :=
  c == '\t' || (0x20 ≤ c.toNat && c.toNat != 0x7F)

/-- Whether `c` separates tokens on a line. -/
def isSpace (c : Char) : Bool :=
  c == ' ' || c == '\t'

/-- The input behind spaces and tabs. -/
def skipSpaces (cs : List Char) : List Char :=
  cs.dropWhile isSpace

/-- The input behind a comment, if one starts here. -/
def skipComment : List Char → List Char
  | '#' :: cs => cs.dropWhile isPlain
  | cs => cs

/-- The input behind the end of a line, which the end of the document counts as. -/
def lineEnd? : List Char → Option (List Char)
  | [] => some []
  | '\n' :: cs => some cs
  | '\r' :: '\n' :: cs => some cs
  | _ => none

/-- The character with the code point written by hexadecimal digits. -/
def codePoint? (digits : List Char) : Option Char := do
  let code ← digits.foldlM (fun code c => (Text.hexDigit? c).map (16 * code + ·)) 0
  if code.isValidChar then some (Char.ofNat code) else none

/-- The character of an escape, given from behind the backslash on, and the input behind it. -/
def escape? : List Char → Option (Char × List Char)
  | 'b' :: cs => some ('\x08', cs)
  | 't' :: cs => some ('\t', cs)
  | 'n' :: cs => some ('\n', cs)
  | 'f' :: cs => some ('\x0c', cs)
  | 'r' :: cs => some ('\r', cs)
  | '"' :: cs => some ('"', cs)
  | '\\' :: cs => some ('\\', cs)
  | 'u' :: cs =>
    if cs.length < 4 then none else (codePoint? (cs.take 4)).map (·, cs.drop 4)
  | 'U' :: cs =>
    if cs.length < 8 then none else (codePoint? (cs.take 8)).map (·, cs.drop 8)
  | _ => none

theorem escape?_length {cs rest : List Char} {c : Char} (h : escape? cs = some (c, rest)) :
    rest.length < cs.length := by
  unfold escape? at h
  split at h <;> try (simp at h; obtain ⟨_, rfl⟩ := h; simp)
  · split at h
    · contradiction
    · obtain ⟨a, -, ha⟩ := Option.map_eq_some_iff.1 h
      simp only [Prod.mk.injEq] at ha
      obtain ⟨-, rfl⟩ := ha
      simp only [List.length_drop, List.length_cons]; omega
  · split at h
    · contradiction
    · obtain ⟨a, -, ha⟩ := Option.map_eq_some_iff.1 h
      simp only [Prod.mk.injEq] at ha
      obtain ⟨-, rfl⟩ := ha
      simp only [List.length_drop, List.length_cons]; omega
  · contradiction

/-- A string between double quotes on one line, given from behind its opening quote on. The
characters before are in `read`, the latest first. -/
def basicString? (cs : List Char) (read : List Char) : Option (String × List Char) :=
  match cs with
  | [] => none
  | c :: rest =>
    if c == '"' then some (String.ofList read.reverse, rest)
    else if c == '\\' then
      match h : escape? rest with
      | none => none
      | some (d, behind) =>
        have := escape?_length h
        basicString? behind (d :: read)
    else if isPlain c then basicString? rest (c :: read)
    else none
termination_by cs.length

/-- A string between single quotes on one line, given from behind its opening quote on. -/
def literalString? : List Char → List Char → Option (String × List Char)
  | [], _ => none
  | c :: rest, read =>
    if c == '\'' then some (String.ofList read.reverse, rest)
    else if isPlain c then literalString? rest (c :: read)
    else none

/-- The input behind a line end that directly follows the opening of a string over lines. -/
def skipFirstLineEnd : List Char → List Char
  | '\n' :: cs => cs
  | '\r' :: '\n' :: cs => cs
  | cs => cs

/-- The input behind spaces, tabs and line ends. -/
def skipBlankLines : List Char → List Char
  | ' ' :: cs => skipBlankLines cs
  | '\t' :: cs => skipBlankLines cs
  | '\n' :: cs => skipBlankLines cs
  | '\r' :: '\n' :: cs => skipBlankLines cs
  | cs => cs

theorem skipBlankLines_length (cs : List Char) : (skipBlankLines cs).length ≤ cs.length := by
  fun_induction skipBlankLines cs <;> simp <;> omega

/-- How a run of quotes at the current place goes on: the string ends with the first three of
them, after at most two that belong to it, or all of them belong to it. -/
def quoteRun? (mark : Char) (cs : List Char) : Option (Nat × Bool) :=
  let run := (cs.takeWhile (· == mark)).length
  if run < 3 then some (run, false)
  else if run ≤ 5 then some (run - 3, true)
  else none

/-- A string over several lines, given from behind its opening quotes on; `mark` is its quote. With
single quotes a backslash has no meaning. A line end reads as a single line feed. -/
def multilineString? (mark : Char) (cs read : List Char) : Option (String × List Char) :=
  match cs with
  | [] => none
  | c :: rest =>
    if c == mark then
      match quoteRun? mark (c :: rest) with
      | none => none
      | some (inner, ends) =>
        -- Quotes right in front of the closing ones belong to the text.
        let read := List.replicate inner mark ++ read
        if ends then some (String.ofList read.reverse, rest.drop (inner + 2))
        else multilineString? mark (rest.drop (inner - 1)) read
    else if c == '\\' && mark == '"' then
      match h : escape? rest with
      | some (d, behind) =>
        have := escape?_length h
        multilineString? mark behind (d :: read)
      -- A backslash that escapes nothing joins the line to the next one, over blanks and blank
      -- lines.
      | none =>
        match skipSpaces rest with
        | '\n' :: _ =>
          have := skipBlankLines_length rest
          multilineString? mark (skipBlankLines rest) read
        | '\r' :: '\n' :: _ =>
          have := skipBlankLines_length rest
          multilineString? mark (skipBlankLines rest) read
        | _ => none
    else if c == '\n' then multilineString? mark rest ('\n' :: read)
    else if c == '\r' then
      match rest with
      | '\n' :: behind => multilineString? mark behind ('\n' :: read)
      | _ => none
    else if isPlain c then multilineString? mark rest (c :: read)
    else none
termination_by cs.length
decreasing_by
  all_goals
    simp_all only [List.length_cons, List.length_drop]
    omega

/-- Whether `c` may stand in a key without quotes. -/
def isBareKeyChar (c : Char) : Bool :=
  c.isAlphanum || c == '-' || c == '_'

/-- A key and the input behind it. -/
def key? : List Char → Option (String × List Char)
  | '"' :: cs => basicString? cs []
  | '\'' :: cs => literalString? cs []
  | cs =>
    let name := cs.takeWhile isBareKeyChar
    if name.isEmpty then none else some (String.ofList name, cs.dropWhile isBareKeyChar)

/-- The number that digits in a base stand for; single underscores may stand between digits. -/
def digits? (base : Nat) (cs : List Char) : Option Nat :=
  let rec go : List Char → Bool → Nat → Option Nat
    | [], afterDigit, n => if afterDigit then some n else none
    | '_' :: rest, afterDigit, n => if afterDigit then go rest false n else none
    | c :: rest, _, n =>
      match Text.hexDigit? c with
      | some d => if d < base then go rest true (base * n + d) else none
      | none => none
  go cs false 0

/-- The number that decimal digits stand for, without a leading zero. -/
def decimal? : List Char → Option Nat
  | ['0'] => some 0
  | '0' :: _ => none
  | cs => digits? 10 cs

/-- An integer, which fits into 64 bits. -/
def integer? (token : List Char) : Option Int := do
  let n : Int ← match token with
    | '0' :: 'x' :: cs => (digits? 16 cs).map Int.ofNat
    | '0' :: 'o' :: cs => (digits? 8 cs).map Int.ofNat
    | '0' :: 'b' :: cs => (digits? 2 cs).map Int.ofNat
    -- Only decimal numbers have signs.
    | '+' :: cs => (decimal? cs).map Int.ofNat
    | '-' :: cs => (decimal? cs).map fun n => -Int.ofNat n
    | cs => (decimal? cs).map Int.ofNat
  if -9223372036854775808 ≤ n ∧ n ≤ 9223372036854775807 then some n else none

/-- Whether `c` may stand in a value without quotes. -/
def isBareValueChar (c : Char) : Bool :=
  c.isAlphanum || c == '_' || c == '+' || c == '-' || c == '.' || c == ':'

/-- A value and the input behind it. -/
def scalar? : List Char → Option (Scalar × List Char)
  -- Three quotes come first, since two of them are an empty string already.
  | '"' :: '"' :: '"' :: cs =>
    (multilineString? '"' (skipFirstLineEnd cs) []).map fun (s, rest) => (.text s, rest)
  | '\'' :: '\'' :: '\'' :: cs =>
    (multilineString? '\'' (skipFirstLineEnd cs) []).map fun (s, rest) => (.text s, rest)
  | '"' :: cs => (basicString? cs []).map fun (s, rest) => (.text s, rest)
  | '\'' :: cs => (literalString? cs []).map fun (s, rest) => (.text s, rest)
  | cs =>
    let rest := cs.dropWhile isBareValueChar
    match String.ofList (cs.takeWhile isBareValueChar) with
    | "true" => some (.flag true, rest)
    | "false" => some (.flag false, rest)
    | token => (integer? token.toList).map fun n => (.integer n, rest)

/-- One line of the document, which may set a key, and the input behind it. -/
def line? (cs : List Char) : Option (Option (String × Scalar) × List Char) :=
  match lineEnd? (skipComment (skipSpaces cs)) with
  | some rest => some (none, rest)
  | none => do
    let (key, cs) ← key? (skipSpaces cs)
    match skipSpaces cs with
    | '=' :: cs =>
      let (value, cs) ← scalar? (skipSpaces cs)
      let rest ← lineEnd? (skipComment (skipSpaces cs))
      some (some (key, value), rest)
    | _ => none

/-- The keys that the document sets, with their values, in order. -/
def lines? (cs : List Char) : Option (List (String × Scalar)) :=
  if cs.isEmpty then some []
  else
    match line? cs with
    | none => none
    | some (entry, rest) =>
      if rest.length < cs.length then (lines? rest).map (entry.toList ++ ·) else none
termination_by cs.length

/-- Whether no key occurs twice. -/
def hasDistinctKeys : List (String × Scalar) → Bool
  | [] => true
  | (key, _) :: rest => rest.all (·.1 != key) && hasDistinctKeys rest

/-- Reads a document; a byte order mark may precede it. -/
def parse? (text : String) : Option (List (String × Scalar)) := do
  let cs := match text.toList with
    | '\uFEFF' :: cs => cs
    | cs => cs
  let entries ← lines? cs
  if hasDistinctKeys entries then some entries else none

end Document

end Inbound.Config
