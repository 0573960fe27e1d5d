/-!
# Request targets

The target of a request on the wire: a path with a query, an absolute URI, an authority alone, or
an asterisk. A fragment is cut off. Only ASCII text is a target; a reader that is more lenient takes
any other characters in a path and a query.
-/

namespace Inbound.Http

/-- The parts of a request target. -/
structure Target where
  /-- The scheme of an absolute target. -/
  scheme : Option String
  /-- The host and port, with the user before them. -/
  authority : Option String
  /-- The path as it is written. -/
  writtenPath : String
  /-- What stands behind the question mark. -/
  query : Option String
  deriving DecidableEq, Repr

namespace Target

/-- The path. An absolute target that shows none means the root. -/
def path (target : Target) : String :=
  if !target.writtenPath.isEmpty then target.writtenPath
  else if target.scheme.isSome || target.query.isSome then "/"
  else ""

/-- The longest target. -/
def maxLength : Nat := 65534

/-- The longest scheme. -/
def maxSchemeLength : Nat := 64

/-- The colons that a numeric host and a port may have together. -/
def maxColons : Nat := 8

/-- Whether a scheme may contain `c`. -/
def isSchemeChar (c : Char) : Bool :=
  c.isAlphanum || c == '+' || c == '-' || c == '.' || c == '~'

/-- Whether an authority may contain `c` outside of its delimiters. -/
def isAuthorityChar (c : Char) : Bool :=
  c.isAlphanum || "!$&'()*+,-.;=_~".contains c

/-- Whether a path may contain `c`. -/
def isPathChar (c : Char) : Bool :=
  ('!' ≤ c ∧ c ≤ '~') && !(c == '#' || c == '<' || c == '>' || c == '?' || c == '\x60')

/-- Whether a query may contain `c`. -/
def isQueryChar (c : Char) : Bool :=
  ('!' ≤ c ∧ c ≤ '~') && !(c == '"' || c == '#' || c == '<' || c == '>')

/-- The scheme before `://`, and what stands behind. Text without a scheme is left whole; too long
a scheme is refused. -/
def readScheme (text : List Char) : Option (Option String × List Char) :=
  let name := text.takeWhile isSchemeChar
  match text.dropWhile isSchemeChar with
  | ':' :: '/' :: '/' :: rest =>
    let lower := String.ofList (name.map Char.toLower)
    if text.length ≤ 3 then some (none, text)
    else if lower = "http" ∨ lower = "https" then some (some lower, rest)
    else if name.length > maxSchemeLength then none
    else some (some (String.ofList name), rest)
  | _ => some (none, text)

/-- What is known of an authority that has been read in part. -/
structure AuthorityScan where
  /-- Colons that may introduce a port. -/
  colons : Nat
  /-- A bracket has been opened. -/
  opened : Bool
  /-- A bracket has been closed. -/
  closed : Bool
  /-- An escape stands where the host may be. -/
  escaped : Bool
  /-- The last character was an at sign. -/
  afterAt : Bool

/-- The scan before the first character. -/
def AuthorityScan.start : AuthorityScan := ⟨0, false, false, false, false⟩

/-- The scan after one more character, unless that is out of place. -/
def AuthorityScan.step (scan : AuthorityScan) (c : Char) : Option AuthorityScan :=
  let scan := { scan with afterAt := false }
  if c = ':' then
    if scan.colons ≥ maxColons then none else some { scan with colons := scan.colons + 1 }
  else if c = '[' then
    if scan.escaped || scan.opened then none else some { scan with opened := true }
  else if c = ']' then
    if !scan.opened || scan.closed then none
    else some { scan with closed := true, colons := 0, escaped := false }
  -- What stands in front of the sign is no host, so its colons and escapes do not count.
  else if c = '@' then some { scan with colons := 0, escaped := false, afterAt := true }
  else if c = '%' then some { scan with escaped := true }
  else if isAuthorityChar c then some scan
  else none

/-- Whether an authority may end here. -/
def AuthorityScan.isComplete (scan : AuthorityScan) : Bool :=
  scan.opened == scan.closed && scan.colons ≤ 1 && !scan.afterAt && !scan.escaped

/-- Whether `c` ends an authority. -/
def endsAuthority (c : Char) : Bool :=
  c == '/' || c == '?' || c == '#'

/-- The authority at the beginning of a text, and what stands behind. -/
def readAuthority (text : List Char) : Option (List Char × List Char) := do
  let authority := text.takeWhile (!endsAuthority ·)
  let scan ← authority.foldlM AuthorityScan.step AuthorityScan.start
  if scan.isComplete then some (authority, text.dropWhile (!endsAuthority ·)) else none

/-- The path and the query of a text. -/
def readPath (lenient : Bool) (text : List Char) : Option (String × Option String) :=
  let isForeign (c : Char) : Bool := lenient && 128 ≤ c.toNat
  let path := text.takeWhile fun c => c != '?' && c != '#'
  if !path.all fun c => isPathChar c || isForeign c then none
  else
    match text.dropWhile fun c => c != '?' && c != '#' with
    | '?' :: rest =>
      let query := rest.takeWhile (· != '#')
      if query.all fun c => isQueryChar c || isForeign c then
        some (String.ofList path, some (String.ofList query))
      else none
    -- A fragment is cut off, and nobody looks at its characters.
    | _ => some (String.ofList path, none)

/-- The target that is an authority alone. -/
def readBare (text : List Char) : Option Target := do
  let (authority, rest) ← readAuthority text
  if rest.isEmpty then some ⟨none, some (String.ofList authority), "", none⟩ else none

/-- The target that a text spells to a reader that may be lenient. -/
def parse? (lenient : Bool) (text : String) : Option Target :=
  if text.utf8ByteSize > maxLength then none
  else
    match text.toList with
    | [] => none
    | ['*'] => some ⟨none, none, "*", none⟩
    | '/' :: rest => do
      let (path, query) ← readPath lenient ('/' :: rest)
      some ⟨none, none, path, query⟩
    -- A single character is too short for a scheme, whatever it is.
    | [c] => readBare [c]
    | chars => do
      match ← readScheme chars with
      | (none, rest) => readBare rest
      | (some scheme, rest) =>
        let (authority, rest) ← readAuthority rest
        if authority.isEmpty then none
        else
          let (path, query) ← readPath lenient rest
          some ⟨some scheme, some (String.ofList authority), path, query⟩

end Target

end Inbound.Http
