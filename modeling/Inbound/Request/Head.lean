import Inbound.Config.Basic
import Inbound.Http.Method
import Inbound.Http.Query
import Inbound.Http.Version
import Inbound.MediaType
import Inbound.Url.Parser

/-!
# Request heads

The head of a request is what the transport parsed, as bytes and texts. Everything else that can
be said about a request without its body is a function of the head; these functions are defined
here. The identity of a request is one of them only if the head carries it.
-/

namespace Inbound

/-- What a request was built from. -/
structure Head where
  /-- The scheme of the connection. -/
  scheme : String
  /-- The method as it came. -/
  rawMethod : String
  /-- The path without the query. -/
  path : String
  /-- The encoded query. -/
  rawQuery : ByteArray
  /-- The pairs of names and values as they came. -/
  rawHeaders : List (ByteArray × ByteArray)
  /-- The version of the protocol. -/
  version : Http.Version
  /-- How many bytes of body are too many; zero stands for no limit. -/
  clientMaxSize : Nat
  /-- The character set of bodies that declare none. -/
  defaultCharset : String
  /-- The header that may carry the identity. -/
  uidHeader : String
  /-- Whether that header is believed. -/
  trustForwardedUid : Bool

/-- The identity of a request. -/
inductive Uid where
  /-- The identity that a header carries. -/
  | forwarded (text : String)
  /-- An identity of its own, told apart from others by a number. -/
  | generated (serial : Nat)
  deriving DecidableEq, Repr

namespace Head

/-- The head of a request about which nothing is said. -/
def default : Head where
  scheme := "http"
  rawMethod := "GET"
  path := "/"
  rawQuery := .empty
  rawHeaders := []
  version := .default
  clientMaxSize := Config.default.clientMaxSize
  defaultCharset := Config.default.defaultCharset
  uidHeader := Config.default.uidHeader
  trustForwardedUid := Config.default.trustForwardedUid

instance : Inhabited Head := ⟨default⟩

/-- The head under settings; a limit of its own comes first. -/
def configure (head : Head) (config : Config) (clientMaxSize : Option Nat) : Head :=
  { head with
    clientMaxSize := clientMaxSize.getD config.clientMaxSize
    defaultCharset := config.defaultCharset
    uidHeader := config.uidHeader
    trustForwardedUid := config.trustForwardedUid }

/-- The method. -/
def method (head : Head) : Http.Method :=
  .parse head.rawMethod

/-- The headers as texts. -/
def headers (head : Head) : Http.MultiMap :=
  .ofPairs (head.rawHeaders.map fun (name, value) =>
    (Text.decodeLossy name, Text.decodeLossy value))

/-- The query as text. -/
def queryString (head : Head) : String :=
  Text.decodeLossy head.rawQuery

/-- The parameters of the query. -/
def query (head : Head) : Http.MultiMap :=
  Http.readQuery head.rawQuery

/-- The path with the query behind it. -/
def relUrlOf (path queryString : String) : String :=
  if queryString.isEmpty then path else path ++ "?" ++ queryString

/-- The path with the query behind it. -/
def relUrl (head : Head) : String :=
  relUrlOf head.path head.queryString

/-- The host of the first header that names one. -/
def host (head : Head) : Option String :=
  head.headers.get? "host"

/-- The URL of a path on a host. -/
def urlOf (scheme : String) (host : Option String) (relUrl : String) : Option Url :=
  match host with
  | none => none
  | some host =>
    match Url.parse? (scheme ++ "://" ++ host) with
    | none => none
    | some base => base.join? relUrl

/-- The complete URL, if the host is one. -/
def url (head : Head) : Option Url :=
  urlOf head.scheme head.host head.relUrl

/-- The media type of the body, if the first header that names one is well-formed. -/
def contentType (head : Head) : Option MediaType :=
  (head.headers.get? "content-type").bind MediaType.parse?

/-- The identity among headers, if they carry one that is believed. -/
def forwardedUid (head : Head) (headers : Http.MultiMap) : Option String :=
  if head.trustForwardedUid then headers.get? head.uidHeader else none

/-- The identity, given the number of a new one. -/
def uid (head : Head) (fresh : Nat) : Uid :=
  match head.forwardedUid head.headers with
  | some text => .forwarded text
  | none => .generated fresh

/-- The request as a diagnostic shows it. -/
def describeWith (head : Head) (method : Http.Method) : String :=
  "<Request " ++ method.text ++ " " ++ Text.escapeInline head.path ++ ">"

/-- The request as a diagnostic shows it. -/
def describe (head : Head) : String :=
  head.describeWith head.method

end Head

end Inbound
