import Inbound.Http.Fields
import Inbound.Http.Target
import Inbound.Text.Base64
import Inbound.Text.Utf8
import Inbound.WebSocket.Sha1

/-!
# Opening handshakes

A client opens a session with an HTTP request that asks for an upgrade; the server shows with a
digest of the client's key that it has understood. The head of the request is read from bytes of
which only a beginning may have arrived.
-/

namespace Inbound.WebSocket

/-- What a reader makes of the beginning of a text. -/
inductive Reading (α : Type) where
  /-- More bytes are needed to tell. -/
  | more
  /-- It cannot become right. -/
  | bad
  /-- It is this, and the rest follows. -/
  | got (value : α) (rest : List UInt8)

/-- Reads one thing behind another. -/
def Reading.bind {α β : Type} (reading : Reading α) (next : α → List UInt8 → Reading β) :
    Reading β :=
  match reading with
  | .more => .more
  | .bad => .bad
  | .got value rest => next value rest

namespace Handshake

/-- The head of a request. -/
structure Head where
  /-- The method. -/
  method : List UInt8
  /-- The target. -/
  target : List UInt8
  /-- The digit behind `HTTP/1.`. -/
  minor : Nat
  /-- Names and values. -/
  fields : List (List UInt8 × List UInt8)

/-- The most fields that a head may have. -/
def maxFields : Nat := 124

/-- Reads the end of a line, with or without a carriage return. -/
def readNewline : List UInt8 → Reading Unit
  | [] => .more
  | 10 :: rest => .got () rest
  | [13] => .more
  | 13 :: 10 :: rest => .got () rest
  | _ => .bad

/-- Passes over empty lines. -/
def skipBlankLines : List UInt8 → Reading Unit
  | [] => .more
  | 10 :: rest => skipBlankLines rest
  | 13 :: [] => .more
  | 13 :: 10 :: rest => skipBlankLines rest
  | 13 :: _ => .bad
  | bytes => .got () bytes

/-- Reads what consists of certain bytes, is not empty and is followed by a certain byte. -/
def readUntil (stop : UInt8) (allowed : UInt8 → Bool) (bytes : List UInt8) :
    Reading (List UInt8) :=
  let word := bytes.takeWhile allowed
  match bytes.dropWhile allowed with
  | [] => .more
  | b :: rest => if b = stop ∧ ¬ word.isEmpty then .got word rest else .bad

/-- Reads a text that is given. -/
def readExactly : List UInt8 → List UInt8 → Reading Unit
  | [], rest => .got () rest
  | _ :: _, [] => .more
  | expected :: text, b :: rest => if b = expected then readExactly text rest else .bad

/-- Reads the version of the protocol, up to the digit behind the point. -/
def readVersion (bytes : List UInt8) : Reading Nat :=
  (readExactly "HTTP/1.".toUTF8.data.toList bytes).bind fun _ rest =>
    match rest with
    | [] => .more
    | 48 :: rest => .got 0 rest
    | 49 :: rest => .got 1 rest
    | _ => .bad

/-- Whether the byte is a blank or a tab. -/
def isBlankByte (b : UInt8) : Bool := b == 32 || b == 9

/-- Reads the value of a field with the end of its line. Blanks around it do not count. -/
def readValue (bytes : List UInt8) : Reading (List UInt8) :=
  let line := bytes.dropWhile isBlankByte
  let value := line.takeWhile Http.Fields.isValueByte
  (readNewline (line.dropWhile Http.Fields.isValueByte)).bind fun _ rest =>
    .got (value.reverse.dropWhile isBlankByte).reverse rest

/-- Reads fields up to the empty line, given how many there may still be and that `fuel` is more
than there can be. -/
def readFields (fuel room : Nat) (bytes : List UInt8) :
    Reading (List (List UInt8 × List UInt8)) :=
  match fuel, bytes with
  | 0, _ => .bad
  | _, [] => .more
  | fuel + 1, b :: rest =>
    if b = 10 ∨ b = 13 then (readNewline (b :: rest)).bind fun _ rest => .got [] rest
    else
      (readUntil 58 Http.isTokenByte (b :: rest)).bind fun name rest =>
        (readValue rest).bind fun value rest =>
          -- That there are too many is found out behind the first one too many.
          match room with
          | 0 => .bad
          | room + 1 =>
            (readFields fuel room rest).bind fun fields rest => .got ((name, value) :: fields) rest

/-- Whether a target may contain the byte. -/
def isTargetByte (b : UInt8) : Bool := 33 ≤ b && b != 127

/-- Reads the head of a request. -/
def readHead (bytes : List UInt8) : Reading Head :=
  (skipBlankLines bytes).bind fun _ rest =>
    (readUntil 32 Http.isTokenByte rest).bind fun method rest =>
      (readUntil 32 isTargetByte rest).bind fun target rest =>
        if (Text.decodeUtf8? ⟨target.toArray⟩).isNone then .bad
        else (readVersion rest).bind fun minor rest =>
          (readNewline rest).bind fun _ rest =>
            (readFields (rest.length + 1) maxFields rest).bind fun fields rest =>
              .got ⟨method, target, minor, fields⟩ rest

/-- Whether two texts differ at most in ASCII case. -/
def sameFolded (text other : String) : Bool :=
  text.toLower == other.toLower

/-- Whether a list of connection options names the upgrade. -/
def asksForUpgrade (options : String) : Bool :=
  (options.splitToList fun c => c == ' ' || c == ',').any (sameFolded · "upgrade")

/-- What every server appends to the key of its client. -/
def keySuffix : String := "258EAFA5-E914-47DA-95CA-C5AB0DC85B11"

/-- The digest that answers a key. -/
def acceptKey (key : ByteArray) : String :=
  Text.base64 (Sha1.hash (key ++ keySuffix.toUTF8))

/-- The key in the head of a request, if that opens a session as it should. -/
def key? (head : Head) : Option ByteArray := do
  let bytes (list : List UInt8) : ByteArray := ⟨list.toArray⟩
  if head.method ≠ "GET".toUTF8.data.toList ∨ head.minor ≠ 1 then none
  let fields ← Http.Fields.ofPairs? (head.fields.map fun (name, value) => (bytes name, bytes value))
  -- The target has to be one, but nothing is made of it.
  let _ ← (Text.decodeUtf8? (bytes head.target)).bind (Http.Target.parse? true)
  let text (name : String) : Option String := (fields.get? name).bind Http.Fields.visible?
  if !((text "connection").any asksForUpgrade) then none
  if !((text "upgrade").any (sameFolded · "websocket")) then none
  if text "sec-websocket-version" ≠ some "13" then none
  fields.get? "sec-websocket-key"

/-- The response that completes the handshake for a key. -/
def response (key : ByteArray) : ByteArray :=
  let lines := ["HTTP/1.1 101 Switching Protocols", "connection: Upgrade", "upgrade: websocket",
    "sec-websocket-accept: " ++ acceptKey key, "", ""]
  ("\r\n".intercalate lines).toUTF8

/-- How far the reading of a request has come. -/
structure Progress where
  /-- The bytes that have arrived. -/
  received : ByteArray
  /-- In how many pieces they came. -/
  pieces : Nat

/-- Before the first piece. -/
def Progress.start : Progress := ⟨.empty, 0⟩

/-- The longest head. -/
def maxReceived : Nat := 65536

/-- The most pieces. -/
def maxPieces : Nat := 512

/-- Whether the client sends so many bytes in so many pieces that it means no good. -/
def Progress.isSuspect (progress : Progress) : Bool :=
  progress.received.size > maxReceived || progress.pieces > maxPieces
    || (progress.pieces > 64 && progress.pieces * 128 > progress.received.size)

/-- What is made of one more piece. -/
inductive Fed where
  /-- More has to come. -/
  | waiting (progress : Progress)
  /-- The handshake fails. -/
  | refused
  /-- The handshake succeeds once this is written. -/
  | respond (bytes : ByteArray)

/-- Takes one more piece; the empty piece is the end. Nothing may follow the head of the
request. -/
def Progress.feed (progress : Progress) (piece : ByteArray) : Fed :=
  let progress : Progress := ⟨progress.received ++ piece, progress.pieces + 1⟩
  if piece.isEmpty || progress.isSuspect then .refused
  else
    match readHead progress.received.data.toList with
    | .more => .waiting progress
    | .bad => .refused
    | .got head rest =>
      match rest, key? head with
      -- A client that does not wait for the response is refused.
      | [], some key => .respond (response key)
      | _, _ => .refused

end Handshake

end Inbound.WebSocket
