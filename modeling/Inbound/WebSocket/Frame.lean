import Inbound.Text.Utf8

/-!
# Frames

The frames that a session over bytes consists of. A frame from the client is masked, one from the
server is not. A close frame carries a code and a reason, or nothing.
-/

namespace Inbound.WebSocket

/-- The kinds of frames. -/
inductive Opcode where
  | continuation
  | text
  | binary
  | close
  | ping
  | pong
  deriving DecidableEq, Repr

namespace Opcode

/-- The number of a kind. -/
def code : Opcode → Nat
  | .continuation => 0
  | .text => 1
  | .binary => 2
  | .close => 8
  | .ping => 9
  | .pong => 10

/-- The kind that has a number. -/
def ofCode? : Nat → Option Opcode
  | 0 => some .continuation
  | 1 => some .text
  | 2 => some .binary
  | 8 => some .close
  | 9 => some .ping
  | 10 => some .pong
  | _ => none

theorem ofCode?_code (opcode : Opcode) : ofCode? opcode.code = some opcode := by
  cases opcode <;> rfl

end Opcode

/-- What stands before the payload of a frame. -/
structure FrameHeader where
  /-- The frame is the last one of its message. -/
  final : Bool
  /-- A bit is set that has no meaning. -/
  reserved : Bool
  /-- The kind. -/
  opcode : Opcode
  /-- The mask, if there is one. -/
  mask : Option (List UInt8)
  /-- The length of the payload. -/
  length : Nat
  deriving DecidableEq, Repr

/-- What can be made of the beginning of a frame. -/
inductive HeaderReading where
  /-- More bytes are needed. -/
  | more
  /-- The kind has no meaning. -/
  | unknown
  /-- It is this, and so many bytes long. -/
  | got (header : FrameHeader) (size : Nat)

/-- The number that bytes spell, the highest first. -/
def bigEndianValue (bytes : List UInt8) : Nat :=
  bytes.foldl (fun n b => n * 256 + b.toNat) 0

/-- Reads a header from the first bytes of a frame. -/
def FrameHeader.read (bytes : List UInt8) : HeaderReading :=
  match bytes with
  | first :: second :: rest =>
    let short := second.toNat % 128
    let width := if short = 126 then 2 else if short = 127 then 8 else 0
    let masked := 128 ≤ second.toNat
    let size := 2 + width + if masked then 4 else 0
    -- The opcode is looked at only once the whole header is there.
    if bytes.length < size then .more
    else
      match Opcode.ofCode? (first.toNat % 16) with
      | none => .unknown
      | some opcode =>
        .got
          { final := 128 ≤ first.toNat
            reserved := first.toNat / 16 % 8 != 0
            opcode
            mask := if masked then some ((rest.drop width).take 4) else none
            length := if width = 0 then short else bigEndianValue (rest.take width) }
          size
  | _ => .more

/-- The longest header. -/
def FrameHeader.maxSize : Nat := 14

/-- The payload with a mask put on or taken off. -/
def applyMask (mask : List UInt8) (payload : ByteArray) : ByteArray :=
  ⟨payload.data.mapIdx fun i b => b ^^^ mask.getD (i % 4) 0⟩

/-- The big-endian bytes of a number that `width` bytes can hold. -/
def bigEndianBytes (width n : Nat) : List UInt8 :=
  (List.range width).reverse.map fun i => (n >>> (8 * i)).toUInt8

/-- The bytes of a frame of the server that is a message of its own. -/
def serverFrame (opcode : Opcode) (payload : ByteArray) : ByteArray :=
  let length : List UInt8 :=
    if payload.size < 126 then [payload.size.toUInt8]
    else if payload.size < 65536 then 126 :: bigEndianBytes 2 payload.size
    else 127 :: bigEndianBytes 8 payload.size
  ⟨((128 + opcode.code).toUInt8 :: length).toArray⟩ ++ payload

/-- What a close frame may say. -/
structure Farewell where
  /-- The code. -/
  code : Nat
  /-- The reason in words. -/
  reason : String
  deriving DecidableEq, Repr

namespace Farewell

/-- Whether a peer may send the code: those that stand for the lack of one, or that nobody has
given a meaning, may not be sent. -/
def isAllowed (farewell : Farewell) : Bool :=
  let code := farewell.code
  !(code < 1000 || code == 1004 || code == 1005 || code == 1006
    || (1014 ≤ code && code < 3000) || 5000 ≤ code)

/-- What is answered to a code that may not be sent. -/
def protocolViolation : Farewell := ⟨1002, "Protocol violation"⟩

/-- The payload of a close frame. -/
def payload : Option Farewell → ByteArray
  | none => .empty
  | some farewell =>
    ⟨(bigEndianBytes 2 farewell.code).toArray⟩ ++ farewell.reason.toUTF8

/-- Reads the payload of a close frame; one byte is no code, and the reason has to be text. -/
def ofPayload? (payload : ByteArray) : Option (Option Farewell) :=
  match payload.data.toList with
  | [] => some none
  | [_] => none
  | high :: low :: reason =>
    (Text.decodeUtf8? ⟨reason.toArray⟩).map fun reason =>
      some ⟨high.toNat * 256 + low.toNat, reason⟩

end Farewell

end Inbound.WebSocket
