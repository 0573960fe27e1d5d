import Inbound.Url.Host

/-!
# URLs

A URL in its normal form: every part encoded, dots in the path resolved, and a port only where it
is not the usual one of the scheme.
-/

namespace Inbound

namespace Url

/-- What stands between the two slashes and the path. -/
structure Authority where
  /-- The encoded user name. -/
  username : String
  /-- The encoded password, which is never empty. -/
  password : Option String
  /-- The host; its name may be empty where the scheme allows it. -/
  host : Host
  /-- The port, if it is not the usual one. -/
  port : Option Nat
  deriving DecidableEq, Repr

/-- The path of a URL. -/
inductive Path where
  /-- Any text behind a scheme without slashes. -/
  | plain (text : String)
  /-- Segments, each behind a slash. -/
  | segments (list : List String)
  deriving DecidableEq, Repr

/-- The path as it stands in a URL. -/
def Path.text : Path → String
  | .plain text => text
  | .segments list => list.foldl (fun text segment => text ++ "/" ++ segment) ""

/-- Who a user is, as it stands in front of the host. -/
def Authority.userInfo (authority : Authority) : String :=
  if authority.username.isEmpty && authority.password.isNone then ""
  else authority.username ++ ((authority.password.map (":" ++ ·)).getD "") ++ "@"

/-- The authority as it stands in a URL. -/
def Authority.text (authority : Authority) : String :=
  authority.userInfo ++ authority.host.text
    ++ ((authority.port.map fun port => s!":{port}").getD "")

/-- The authority without user, host and port. -/
def Authority.blank : Authority := ⟨"", none, .name "", none⟩

/-- How a scheme is treated. -/
inductive SchemeKind where
  /-- Files, with their drive letters. -/
  | file
  /-- The schemes that browsers know. -/
  | special
  | other
  deriving DecidableEq, Repr

/-- How the scheme is treated. -/
def SchemeKind.ofScheme (scheme : String) : SchemeKind :=
  if scheme == "file" then .file
  else if ["http", "https", "ws", "wss", "ftp"].contains scheme then .special
  else .other

/-- Whether browsers know the scheme. -/
def SchemeKind.isSpecial : SchemeKind → Bool
  | .other => false
  | _ => true

/-- The usual port of a scheme. -/
def usualPort? (scheme : String) : Option Nat :=
  match scheme with
  | "http" | "ws" => some 80
  | "https" | "wss" => some 443
  | "ftp" => some 21
  | _ => none

end Url

/-- A URL. -/
structure Url where
  /-- The scheme in lower case. -/
  scheme : String
  /-- User, host and port, if there are slashes behind the scheme. -/
  authority : Option Url.Authority
  /-- The path. -/
  path : Url.Path
  /-- The encoded query behind the question mark. -/
  query : Option String
  /-- The encoded fragment behind the number sign. -/
  fragment : Option String
  deriving DecidableEq, Repr

namespace Url

/-- How the URL's scheme is treated. -/
def kind (url : Url) : SchemeKind :=
  .ofScheme url.scheme

/-- Whether the path is text without structure, against which nothing can be resolved. -/
def isOpaque (url : Url) : Bool :=
  match url.path with
  | .plain _ => true
  | .segments _ => false

/-- The segments of the path. -/
def segments (url : Url) : List String :=
  match url.path with
  | .plain _ => []
  | .segments list => list

/-- The URL up to its path. A path that begins with two slashes must not look like an authority. -/
def beginning (url : Url) : String :=
  match url.authority with
  | some authority => url.scheme ++ "://" ++ authority.text
  | none => url.scheme ++ ":" ++ (if url.path.text.startsWith "//" then "/." else "")

/-- The URL as text. -/
def text (url : Url) : String :=
  url.beginning ++ url.path.text ++ ((url.query.map ("?" ++ ·)).getD "")
    ++ ((url.fragment.map ("#" ++ ·)).getD "")

end Url

end Inbound
