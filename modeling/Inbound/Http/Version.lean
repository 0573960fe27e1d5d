/-!
# Protocol versions

The versions of HTTP in their order of age.
-/

namespace Inbound.Http

/-- A version of HTTP. -/
inductive Version where
  | http09
  | http10
  | http11
  | http2
  | http3
  deriving DecidableEq, Repr, Inhabited

namespace Version

/-- The version of a request that states none. -/
def default : Version := .http11

/-- The version of a number. -/
def ofNumber? : String → Option Version
  | "0.9" => some .http09
  | "1.0" => some .http10
  | "1.1" => some .http11
  | "2" => some .http2
  | "3" => some .http3
  | _ => none

/-- The major and the minor number. -/
def pair : Version → Nat × Nat
  | .http09 => (0, 9)
  | .http10 => (1, 0)
  | .http11 => (1, 1)
  | .http2 => (2, 0)
  | .http3 => (3, 0)

/-- The version as it stands in a request line. -/
def text : Version → String
  | .http09 => "HTTP/0.9"
  | .http10 => "HTTP/1.0"
  | .http11 => "HTTP/1.1"
  | .http2 => "HTTP/2"
  | .http3 => "HTTP/3"

/-- The version as a diagnostic shows it. -/
def describe : Version → String
  | .http09 => "Http0_9"
  | .http10 => "Http1_0"
  | .http11 => "Http1_1"
  | .http2 => "Http2"
  | .http3 => "Http3"

/-- An older version is smaller. -/
instance : Ord Version where
  compare a b := compare (10 * a.pair.1 + a.pair.2) (10 * b.pair.1 + b.pair.2)

end Version

end Inbound.Http
