import Inbound.Url.Basic

/-!
# Reading URLs

Reads a URL, alone or relative to another one, as browsers do. Blanks around it and line breaks
within it are dropped. A backslash counts as a slash in the schemes that browsers know.
-/

namespace Inbound.Url

/-! ### Characters -/

/-- Whether `c` separates segments. -/
def isSlash (c : Char) : Bool :=
  c == '/' || c == '\\'

/-- Whether `c` breaks a line; such characters are no part of a URL. -/
def isBreak (c : Char) : Bool :=
  c == '\t' || c == '\n' || c == '\r'

/-- The characters without line breaks. -/
def unbroken (cs : List Char) : List Char :=
  cs.filter (!isBreak ·)

/-- Whether the characters, latest first, end in a colon and a letter that begin a segment. -/
def endsInDrive : List Char → Bool
  | ':' :: letter :: c :: _ => letter.isAlpha && (isSlash c || c == ':')
  | _ => false

/-- Drops line breaks. One that parts a disk drive from more of its segment stays, as a tab. The
characters in front of these are `before`, latest first, and breaks if they are `broken`. -/
def dropBreaks (before : List Char) (broken : Bool) : List Char → List Char
  | [] => []
  | c :: rest =>
    if isBreak c then dropBreaks before true rest
    else
      let rest := c :: dropBreaks (c :: before.take 2) false rest
      if broken && endsInDrive before && !(isSlash c || c == '?' || c == '#') then '\t' :: rest
      else rest

/-- The characters of a URL without blanks around them and line breaks within them, but for those
behind a disk drive. -/
def clean (text : String) : List Char :=
  let trimmed := (text.toList.dropWhile (· ≤ ' ')).reverse.dropWhile (· ≤ ' ')
  dropBreaks [] false trimmed.reverse

/-- Whether `c` separates segments in a scheme of this kind. -/
def SchemeKind.separates (kind : SchemeKind) (c : Char) : Bool :=
  c == '/' || (kind.isSpecial && c == '\\')

/-- Whether `c` ends an authority. -/
def SchemeKind.endsAuthority (kind : SchemeKind) (c : Char) : Bool :=
  kind.separates c || c == '?' || c == '#'

/-- Whether the characters are a letter and a colon or bar, as disk drives are named. -/
def isDrive : List Char → Bool
  | [letter, colon] => letter.isAlpha && (colon == ':' || colon == '|')
  | _ => false

/-- Whether the characters begin with a complete segment that names a disk drive. -/
def startsWithDrive (cs : List Char) : Bool :=
  isDrive (cs.take 2) &&
    ((cs.drop 2).head?.map fun c => isSlash c || c == '?' || c == '#').getD true

/-- Whether the segment names a disk drive in its normal form. -/
def isNormalDrive (segment : String) : Bool :=
  isDrive segment.toList && segment.toList.getLast? == some ':'

/-! ### Scheme -/

/-- Reads a scheme up to its colon. -/
def readScheme? (cs : List Char) : Option (String × List Char) :=
  let scheme := cs.takeWhile fun c => c.isAlphanum || c == '+' || c == '-' || c == '.'
  match cs.drop scheme.length with
  | ':' :: rest =>
    if (scheme.head?.map Char.isAlpha).getD false then
      some ((String.ofList scheme).toLower, rest)
    else none
  | _ => none

/-! ### Authority -/

/-- Reads user name and password up to the last at sign of the authority. -/
def readUser? (kind : SchemeKind) (cs : List Char) :
    Option ((String × Option String) × List Char) :=
  let area := cs.takeWhile (!kind.endsAuthority ·)
  if !area.contains '@' then some (("", none), cs)
  else
    let behind := area.reverse.takeWhile (· != '@')
    let info := area.take (area.length - behind.length - 1)
    let rest := cs.drop (info.length + 1)
    -- An at sign with nothing on either side is out of place.
    if info.isEmpty && (rest.head?.map kind.endsAuthority).getD false then none
    else
      let username := info.takeWhile (· != ':')
      let password := info.drop (username.length + 1)
      let encode (cs : List Char) := percentEncode .userInfo (String.ofList cs)
      some ((encode username, if password.isEmpty then none else some (encode password)), rest)

/-- The characters of a host: up to a colon outside brackets, or the end of the authority. -/
def takeHost (kind : SchemeKind) (inBrackets : Bool) : List Char → List Char
  | [] => []
  | c :: rest =>
    if kind.endsAuthority c || (c == ':' && !inBrackets) then []
    else c :: takeHost kind (c == '[' || (inBrackets && c != ']')) rest

/-- Reads a port; no digits are as good as none. -/
def readPort? (scheme : String) (cs : List Char) : Option (Option Nat × List Char) :=
  let digits := cs.takeWhile Char.isDigit
  let rest := cs.drop digits.length
  let port := digits.foldl (fun port c => min 65536 (10 * port + (c.toNat - 48))) 0
  if 65535 < port then none
  else if (rest.head?.map fun c => isSlash c || c == '?' || c == '#').getD true then
    some (if digits.isEmpty || usualPort? scheme = some port then none else some port, rest)
  else none

/-- Reads an authority. -/
def readAuthority? (scheme : String) (cs : List Char) : Option (Authority × List Char) := do
  let kind := SchemeKind.ofScheme scheme
  let ((username, password), cs) ← readUser? kind cs
  let hostChars := takeHost kind false cs
  let hostText := String.ofList hostChars
  let cs := cs.drop hostChars.length
  if hostChars.isEmpty then
    -- Only a scheme that browsers do not know may do without a host, and then without all else,
    -- too.
    if kind.isSpecial || cs.head? == some ':' || username != "" || password.isSome then failure
    return (⟨username, password, .name "", none⟩, cs)
  let host ← if kind.isSpecial then Host.parse? hostText else Host.parseOpaque? hostText
  match cs with
  | ':' :: cs =>
    let (port, cs) ← readPort? scheme cs
    return (⟨username, password, host, port⟩, cs)
  | cs => return (⟨username, password, host, none⟩, cs)

/-! ### Path -/

/-- Whether the segment stands for the directory itself. -/
def isDot (segment : String) : Bool :=
  segment == "." || segment.toLower == "%2e"

/-- Whether the segment stands for the directory above. -/
def isDoubleDot (segment : String) : Bool :=
  ["..", ".%2e", "%2e.", "%2e%2e"].contains segment.toLower

/-- Splits characters at the separators of segments. -/
def splitSegments (kind : SchemeKind) : List Char → List (List Char)
  | [] => [[]]
  | c :: rest =>
    if kind.separates c then [] :: splitSegments kind rest
    else
      match splitSegments kind rest with
      | [] => [[c]]
      | segment :: segments => (c :: segment) :: segments

/-- Goes up one directory, from segments in reverse order. A disk drive stays. -/
def goUp : List String → List String
  | [] => []
  | last :: rest => if startsWithDrive (last.toList ++ ['/']) then last :: rest else rest

/-- A path as read. -/
structure ReadPath where
  /-- The segments in order. -/
  segments : List String
  /-- A disk drive takes the place of the host. -/
  dropsHost : Bool

/-- Resolves segments behind those that are done, which are in reverse order. A disk drive in front
of a line break is a segment, and what is behind the break is another, even if it is dots. -/
def resolve (kind : SchemeKind) (done : List String) (dropsHost : Bool) :
    List (List Char) → ReadPath
  | [] => ⟨done.reverse, dropsHost⟩
  | chars :: rest =>
    let segment := percentEncode .path (String.ofList (unbroken chars))
    if kind == .file && done.isEmpty && (chars.drop 2).head? == some '\t' then
      let behind := percentEncode .path (String.ofList (chars.drop 3))
      resolve kind [behind, String.ofList (chars.take 2)] dropsHost rest
    else if isDoubleDot segment then
      match rest with
      | [] => ⟨("" :: goUp done).reverse, dropsHost⟩
      | _ => resolve kind (goUp done) dropsHost rest
    else if isDot segment then
      match rest with
      | [] => ⟨("" :: done).reverse, dropsHost⟩
      | _ => resolve kind done dropsHost rest
    else if kind == .file && done.isEmpty && isDrive segment.toList then
      resolve kind (String.ofList (segment.toList.take 1 ++ [':']) :: done) true rest
    else resolve kind (segment :: done) dropsHost rest

/-- Reads a path up to the query, behind segments that are done, which are in reverse order. -/
def readPath (kind : SchemeKind) (done : List String) (cs : List Char) : ReadPath × List Char :=
  let chars := cs.takeWhile fun c => c != '?' && c != '#'
  let path := resolve kind done false (splitSegments kind chars)
  let path :=
    if kind == .file then
      -- The path of a file has no empty segments in front.
      match path.segments.dropWhile String.isEmpty with
      | [] => { path with segments := [""] }
      | segments => { path with segments }
    else path
  (path, cs.drop chars.length)

/-- Reads the path behind an authority. -/
def readPathStart (kind : SchemeKind) (cs : List Char) : ReadPath × List Char :=
  match cs with
  | [] => if kind.isSpecial then (⟨[""], false⟩, []) else (⟨[], false⟩, [])
  | c :: rest =>
    if kind.separates c then readPath kind [] rest
    else if !kind.isSpecial && (c == '?' || c == '#') then (⟨[], false⟩, cs)
    else readPath kind [] cs

/-! ### Query and fragment -/

/-- Reads a fragment and its number sign, if there is one. -/
def readFragment : List Char → Option String
  | '#' :: cs => some (percentEncode .fragment (String.ofList (unbroken cs)))
  | _ => none

/-- Completes a URL with the query and the fragment behind its path. -/
def withTail (url : Url) (cs : List Char) : Url :=
  match cs with
  | '?' :: cs =>
    let chars := cs.takeWhile (· != '#')
    let part : Part := if url.kind.isSpecial then .specialQuery else .query
    { url with
      query := some (percentEncode part (String.ofList (unbroken chars)))
      fragment := readFragment (cs.drop chars.length) }
  | cs => { url with query := none, fragment := readFragment cs }

/-! ### Whole URLs -/

/-- Reads a URL behind the two slashes of its scheme. -/
def readAfterSlashes? (scheme : String) (cs : List Char) : Option Url := do
  let (authority, cs) ← readAuthority? scheme cs
  let (path, cs) := readPathStart (.ofScheme scheme) cs
  return withTail ⟨scheme, some authority, .segments path.segments, none, none⟩ cs

/-- Reads a URL of a scheme that browsers do not know. -/
def readOther? (scheme : String) (cs : List Char) : Option Url :=
  match cs with
  | '/' :: '/' :: cs => readAfterSlashes? scheme cs
  | '/' :: cs =>
    let (path, cs) := readPath .other [] cs
    some (withTail ⟨scheme, none, .segments path.segments, none, none⟩ cs)
  | cs =>
    -- Without a slash the path is taken as it is.
    let chars := cs.takeWhile fun c => c != '?' && c != '#'
    let path := percentEncode .opaquePart (String.ofList chars)
    some (withTail ⟨scheme, none, .plain path, none, none⟩ (cs.drop chars.length))

/-- The segments of the directory that a path names a file in, in reverse order. -/
def directory (kind : SchemeKind) (segments : List String) : List String :=
  match segments.reverse with
  | [] => []
  | last :: rest => if kind == .file && isNormalDrive last then last :: rest else rest

/-- Reads what is relative to the directory of `base`, a URL that is no file. -/
def readRelative? (base : Url) (cs : List Char) : Option Url :=
  let place (path : ReadPath × List Char) : Url :=
    withTail { base with path := .segments path.1.segments } path.2
  match cs with
  | [] => some { base with fragment := none }
  | '?' :: _ => some (withTail base cs)
  | '#' :: _ => some { base with fragment := readFragment cs }
  | c :: rest =>
    if isSlash c then
      match cs with
      | '/' :: '/' :: cs => readAfterSlashes? base.scheme cs
      | _ =>
        if (rest.head?.map isSlash).getD false then
          readAfterSlashes? base.scheme (cs.dropWhile isSlash)
        else some (place (readPath base.kind [] rest))
    else some (place (readPath base.kind (directory base.kind base.segments) cs))

/-- Reads the host of a file, and whether it is one at all. -/
def readFileHost? (cs : List Char) : Option (Option Host × List Char) :=
  let chars := cs.takeWhile fun c => !(isSlash c || c == '?' || c == '#')
  -- What looks like a drive belongs to the path.
  if isDrive chars then some (none, cs)
  else if chars.isEmpty then some (none, cs)
  else
    match Host.parse? (String.ofList (unbroken chars)) with
    | none => none
    | some host =>
      some (if host = .name "localhost" then none else some host, cs.drop chars.length)

/-- The URL of a file on a host. -/
def fileUrl (host : Option Host) (path : ReadPath × List Char) : Url :=
  let host := if path.1.dropsHost then none else host
  let authority := { Authority.blank with host := host.getD (.name "") }
  withTail ⟨"file", some authority, .segments path.1.segments, none, none⟩ path.2

/-- The segments and the host that a path with one slash takes over from `base`. -/
def fileRoot (base : Option Url) (cs : List Char) : List String × Option Host :=
  match base with
  | none => ([], none)
  | some base =>
    if startsWithDrive cs then ([], none)
    else
      match base.segments with
      | first :: _ =>
        if isNormalDrive first then ([first], none) else ([], base.authority.map (·.host))
      | [] => ([], base.authority.map (·.host))

/-- Reads the path of a file behind its one slash. -/
def readRooted (base : Option Url) (cs : List Char) : Url :=
  let (done, host) := fileRoot base cs
  let (path, cs) := readPath .file done cs
  fileUrl host ({ path with dropsHost := false }, cs)

/-- Reads the URL of a file, perhaps relative to another one. -/
def readFile? (base : Option Url) (cs : List Char) : Option Url :=
  match cs with
  | c :: rest =>
    if isSlash c then
      match rest with
      | d :: cs =>
        if isSlash d then do
          let (host, cs) ← readFileHost? cs
          match host with
          | some host => return fileUrl (some host) (readPathStart .file cs)
          | none => return fileUrl none (readPath .file [] cs)
        else some (readRooted base rest)
      | [] => some (readRooted base rest)
    else
      match base with
      | none => some (fileUrl none (readPath .file [] cs))
      | some base =>
        if c == '?' then some (withTail base cs)
        else if c == '#' then some { base with fragment := readFragment cs }
        else if startsWithDrive cs then some (fileUrl none (readPath .file [] cs))
        else
          let (path, cs) := readPath .file (directory .file base.segments) cs
          some (withTail { base with path := .segments path.segments } cs)
  | [] =>
    match base with
    | none => some (fileUrl none (readPath .file [] []))
    | some base => some { base with fragment := none }

/-- Reads a URL behind its scheme. -/
def readWithScheme? (base : Option Url) (scheme : String) (cs : List Char) : Option Url :=
  let sameScheme := base.filter (·.scheme == scheme)
  match SchemeKind.ofScheme scheme with
  | .file => readFile? sameScheme cs
  | .other => readOther? scheme (unbroken cs)
  | .special =>
    let cs := unbroken cs
    let slashes := cs.takeWhile isSlash
    match sameScheme with
    | some base =>
      -- The scheme says nothing new, so what follows may be relative to the base all the same.
      if slashes.length < 2 then readRelative? base cs
      else readAfterSlashes? scheme (cs.drop slashes.length)
    | none => readAfterSlashes? scheme (cs.drop slashes.length)

/-- Reads a URL, perhaps relative to `base`. -/
def read? (base : Option Url) (cs : List Char) : Option Url :=
  match readScheme? cs, base with
  | some (scheme, rest), _ => readWithScheme? base scheme rest
  | none, none => none
  | none, some base =>
    if cs.head? == some '#' then some { base with fragment := readFragment cs }
    else if base.isOpaque then none
    else if base.kind == .file then readFile? (some base) cs
    else readRelative? base (unbroken cs)

/-- Reads a URL that stands alone. -/
def parse? (text : String) : Option Url :=
  read? none (clean text)

/-- Reads a URL that may be relative to `base`. -/
def join? (base : Url) (text : String) : Option Url :=
  read? (some base) (clean text)

end Inbound.Url
