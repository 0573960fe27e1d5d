import Inbound.Charset

/-!
# Body errors

Why the body of a request cannot be had, as bytes or as text, and the status that a response to
the failure carries.
-/

namespace Inbound

/-- Why a body cannot be read. -/
inductive BodyError where
  /-- As many bytes came as the limit says, or more. -/
  | tooLarge (limit actual : Nat)
  /-- The transport failed. -/
  | failed (text : String)
  /-- The request was cancelled. -/
  | cancelled
  /-- Some of the body was pulled by an operation that did not keep it. -/
  | consumed
  deriving DecidableEq, Repr

namespace BodyError

/-- The error in words. -/
def message : BodyError → String
  | .tooLarge limit actual =>
    s!"request body of at least {actual} bytes exceeds the {limit} byte limit"
  | .failed text => s!"failed to read request body: {text}"
  | .cancelled => "request was cancelled while reading the body"
  | .consumed => "request body was partially consumed by a failed read"

/-- The status of a response to the error. -/
def status : BodyError → Nat
  | .tooLarge .. => 413
  | .failed _ => 400
  | .cancelled => 499
  | .consumed => 400

end BodyError

/-- Why a body cannot be had as text. -/
inductive TextError where
  /-- It cannot be read. -/
  | body (cause : BodyError)
  /-- It is not valid in its character set. -/
  | notValid (charset : Charset)
  /-- Nobody knows its character set. -/
  | unsupportedCharset (name : String)
  deriving DecidableEq, Repr

namespace TextError

/-- The error in words. -/
def message : TextError → String
  | .body cause => cause.message
  | .notValid charset => "request body is not valid " ++ charset.name
  | .unsupportedCharset name => s!"unsupported charset '{name}'"

/-- The status of a response to the error. -/
def status : TextError → Nat
  | .body cause => cause.status
  | .notValid _ => 400
  | .unsupportedCharset _ => 415

end TextError

/-- The text of a body in the character set called `name`. -/
def decodeBody (name : String) (bytes : ByteArray) : Except TextError String :=
  match Charset.ofName? name with
  | none => .error (.unsupportedCharset name)
  | some charset =>
    match charset.decode? bytes with
    | none => .error (.notValid charset)
    | some text => .ok text

end Inbound
