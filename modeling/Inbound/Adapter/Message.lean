import Inbound.Http.Fields
import Inbound.Http.Target
import Inbound.Request.Basic

/-!
# Messages on the wire

A message is a request as an HTTP server parses it. It is converted into the head and the payload
of a request: the header comes first, and the authority of the target stands in for a host that
the header lacks.
-/

namespace Inbound.Adapter

/-- A request as it was parsed. -/
structure Message where
  /-- The method as it came. -/
  method : String
  /-- The target. -/
  target : Http.Target
  /-- The header. -/
  fields : Http.Fields
  /-- The version of the protocol. -/
  version : Http.Version
  /-- The body: what the connection does when it is polled for more. -/
  body : List Payload.Item

namespace Message

/-- The punctuation that may stand in a method. -/
def methodMarks : List Char := ['!', '*', '+', '-', '.', '^', '_', '\x60', '|', '~']

/-- Whether `text` may be the method of a message. -/
def isMethod (text : String) : Bool :=
  !text.isEmpty && text.all fun c => c.isAlphanum || methodMarks.contains c

/-- The message of these parts, unless one of them may not stand in a message. -/
def ofParts? (method target : String) (fields : List (ByteArray × ByteArray))
    (version : Http.Version) (body : List Payload.Item) : Option Message := do
  if !isMethod method then none
  let target ← Http.Target.parse? false target
  let fields ← Http.Fields.ofPairs? fields
  some ⟨method, target, fields, version, body⟩

/-- The failure of a connection in words. -/
def connectionFailure (text : String) : String :=
  "error reading a body from connection: " ++ text

/-- The methods of requests that come without a body unless they say otherwise. -/
def bodilessMethods : List String := ["GET", "HEAD", "OPTIONS"]

/-- Whether a message is taken to have no body: it says that its length is zero, or it says nothing
about a body and its method needs none. -/
def isBodiless (message : Message) : Bool :=
  match (message.fields.get? "content-length").bind Http.Fields.visible? with
  | some length => length.trimAscii.copy == "0"
  | none =>
    !message.fields.contains "transfer-encoding" && bodilessMethods.contains message.method

/-- What an item of the body is to a payload: a failure is put in words, and anything else stays as
it is. -/
def item : Payload.Item → Payload.Item
  | .failure text => .failure (connectionFailure text)
  | .chunk bytes => .chunk bytes
  | .stall polls => .stall polls
  | .hang => .hang

/-- The payload. -/
def payload (message : Message) : Payload :=
  if message.isBodiless then .empty else .stream (message.body.map item)

/-- The header, with the authority of the target as host if there is no other. -/
def headers (message : Message) : List (ByteArray × ByteArray) :=
  let own := message.fields.pairs.map fun (name, value) => (name.toUTF8, value)
  match message.fields.contains "host", message.target.authority with
  | false, some authority => own ++ [("host".toUTF8, authority.toUTF8)]
  | _, _ => own

/-- The head, under settings. -/
def head (message : Message) (config : Config) : Head :=
  { Head.default with
    scheme := message.target.scheme.getD "http"
    rawMethod := message.method
    path := message.target.path
    rawQuery := (message.target.query.getD "").toUTF8
    rawHeaders := message.headers
    version := message.version }.configure config none

/-- The request, under settings. -/
def convert (message : Message) (config : Config) (registry : RegistryId)
    (runtime : Option RuntimeId) : Request :=
  .build (message.head config) message.payload registry runtime none

end Message

end Inbound.Adapter
