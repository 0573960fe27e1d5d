import Inbound.WebSocket.Duplex
import Inbound.WebSocket.Frame

/-!
# The wire

The server's side of a session over bytes, once the handshake is done: frames are cut out of what
arrives, messages are put together from fragments, pings and closes are answered, and what is to
be sent waits in a buffer until the connection takes it.

An operation that finds the connection blocked keeps what it has done so far and is repeated.
-/

namespace Inbound.WebSocket

/-- How far the closing handshake is. -/
inductive WireState where
  /-- Neither side has closed. -/
  | active
  /-- The server has sent a close frame. -/
  | closedByUs
  /-- The client has sent a close frame, and the server has not finished the answer. -/
  | closedByPeer
  /-- The client has answered the server's close frame. -/
  | closeAcknowledged
  /-- Everything is over. -/
  | terminated
  deriving DecidableEq, Repr

/-- Whether frames may still arrive. -/
def WireState.canRead (state : WireState) : Bool :=
  state = .active || state = .closedByUs

/-- Why an operation on the wire does not go on. -/
inductive WireFault where
  /-- The connection is blocked for now. -/
  | blocked
  /-- The other end of the connection is gone. -/
  | broken
  /-- The session has come to its regular end. -/
  | connectionClosed
  /-- The session had come to its end before. -/
  | alreadyClosed
  /-- Something is to be sent after the close frame. -/
  | sendAfterClosing
  /-- The client does not keep to the protocol. -/
  | violation
  deriving DecidableEq, Repr

/-- Whether a fault only says that the session is over. -/
def WireFault.isEnd (fault : WireFault) : Bool :=
  fault = .connectionClosed || fault = .alreadyClosed || fault = .sendAfterClosing

/-- What arrives on the wire. -/
inductive Incoming where
  | text (content : String)
  | binary (bytes : ByteArray)
  /-- A ping or its answer. -/
  | probe
  /-- A close frame. -/
  | close

/-- The first fragments of a message. -/
structure Fragments where
  /-- The message is text. -/
  isText : Bool
  /-- The bytes so far. -/
  bytes : ByteArray

/-- The server's side of a session. -/
structure Wire where
  /-- Bytes that have arrived and belong to no frame yet. -/
  inBuffer : ByteArray
  /-- The header of the frame whose payload is awaited. -/
  header : Option FrameHeader
  /-- Bytes that are still to be sent. -/
  outBuffer : ByteArray
  /-- How far the closing handshake is. -/
  state : WireState
  /-- A pong or close frame that is to be sent next. -/
  reply : Option (Opcode × ByteArray)
  /-- A reply could not be flushed. -/
  unflushed : Bool
  /-- The message whose last fragment has not arrived. -/
  fragments : Option Fragments

/-- A wire together with the connection that it runs over. -/
structure Link where
  /-- The wire. -/
  wire : Wire
  /-- The connection. -/
  duplex : Duplex

namespace Wire

/-- The wire after the handshake. -/
def fresh : Wire := ⟨.empty, none, .empty, .active, none, false, none⟩

/-- How many bytes are read at once. -/
def readSize : Nat := 131072

/-- How many bytes may wait to be sent before an attempt is made. -/
def writeThreshold : Nat := 131072

/-- The longest payload of a frame. -/
def maxFrame : Nat := 16777216

/-- The longest message. -/
def maxMessage : Nat := 67108864

/-- The longest payload of a control frame. -/
def maxControl : Nat := 125

/-- An operation on a wire; what it has done stays done when it fails. -/
abbrev Operation := ExceptT WireFault (StateM Link)

/-- Changes the wire. -/
def change (f : Wire → Wire) : Operation Unit :=
  modify fun link => { link with wire := f link.wire }

/-! ### Sending -/

/-- Sends what waits in the buffer. -/
def writeOut : Operation Unit := do
  let link ← get
  let (flushed, duplex) := link.duplex.serverWrite link.wire.outBuffer
  match flushed with
  | .done => set ({ wire := { link.wire with outBuffer := .empty }, duplex } : Link)
  | .blocked rest =>
    set ({ wire := { link.wire with outBuffer := rest }, duplex } : Link)
    throw .blocked
  | .broken => throw .broken

/-- Puts a frame into the buffer, which is sent when it has grown long. -/
def bufferFrame (opcode : Opcode) (payload : ByteArray) : Operation Unit := do
  change fun wire => { wire with outBuffer := wire.outBuffer ++ serverFrame opcode payload }
  if (← get).wire.outBuffer.size > writeThreshold then writeOut

/-- Puts a frame and the reply that waits into the buffer, and tells whether to flush. After the
last reply of a closing handshake the session ends. -/
def enqueue (frame : Option (Opcode × ByteArray)) : Operation Bool := do
  if let some (opcode, payload) := frame then bufferFrame opcode payload
  let wire := (← get).wire
  let flushNow ← match wire.reply with
    | some (opcode, payload) => do
      change fun wire => { wire with reply := none }
      bufferFrame opcode payload
      pure true
    | none => pure wire.unflushed
  if (← get).wire.state.canRead then return flushNow
  -- That was the last reply, so all that waits has to go now.
  writeOut
  change fun wire => { wire with state := .terminated }
  throw .connectionClosed

/-- Sends everything that is to be sent. -/
def flush : Operation Unit := do
  discard <| enqueue none
  writeOut
  change fun wire => { wire with unflushed := false }

/-- Sends a text. -/
def write (text : String) : Operation Unit := do
  let state := (← get).wire.state
  if state = .terminated then throw .alreadyClosed
  if state ≠ .active then throw .sendAfterClosing
  if ← enqueue (some (.text, text.toUTF8)) then flush

/-- Begins the closing handshake, or finishes that of the client. -/
def close : Operation Unit := do
  if (← get).wire.state = .active then
    change fun wire => { wire with state := .closedByUs }
    discard <| enqueue (some (.close, .empty))
  flush

/-! ### Receiving -/

/-- Reads at least one and at most `count` bytes into the buffer; the flag tells whether there
were any before the end. -/
def readIn (count : Nat) : Operation Bool := do
  let link ← get
  match link.duplex.serverRead count with
  | (.pending, _) => throw .blocked
  | (.ready bytes, duplex) =>
    set ({ wire := { link.wire with inBuffer := link.wire.inBuffer ++ bytes }, duplex } : Link)
    return !bytes.isEmpty

/-- Takes the header off the buffer, if it is complete. -/
def takeHeader : Operation (Option FrameHeader) := do
  let wire := (← get).wire
  match FrameHeader.read (wire.inBuffer.extract 0 FrameHeader.maxSize).data.toList with
  | .more => return none
  | .unknown => throw .violation
  | .got header size =>
    change fun wire => { wire with
      inBuffer := wire.inBuffer.extract size wire.inBuffer.size
      header := some header }
    if header.length > maxFrame then throw .violation
    return some header

/-- The header of the next frame, or none at the end. -/
def nextHeader : Operation (Option FrameHeader) := do
  if let some header := (← get).wire.header then return some header
  if let some header ← takeHeader then return some header
  if !(← readIn readSize) then return none
  if let some header ← takeHeader then return some header
  if !(← readIn readSize) then return none
  takeHeader

/-- Waits until so many bytes are in the buffer; the flag tells whether they come before the
end. -/
def await (needed : Nat) : Operation Bool := do
  let missing := needed - (← get).wire.inBuffer.size
  if missing = 0 then return true
  if !(← readIn ((missing + readSize - 1) / readSize * readSize)) then return false
  if needed ≤ (← get).wire.inBuffer.size then return true
  readIn 1

/-- The next frame with its payload unmasked, or none at the end. -/
def nextFrame : Operation (Option (FrameHeader × ByteArray)) := do
  match ← nextHeader with
  | none => return none
  | some header =>
    if !(← await header.length) then return none
    let payload := (← get).wire.inBuffer.extract 0 header.length
    change fun wire => { wire with
      inBuffer := wire.inBuffer.extract header.length wire.inBuffer.size
      header := none }
    match header.mask with
    -- That a client does not mask is found out only when its frame is complete.
    | none => throw .violation
    | some mask => return some (header, applyMask mask payload)

/-- Lets a reply wait to be sent; only a pong gives way to a later one. -/
def setReply (opcode : Opcode) (payload : ByteArray) : Operation Unit :=
  change fun wire =>
    match wire.reply with
    | some (.pong, _) | none => { wire with reply := some (opcode, payload) }
    | _ => wire

/-- The client has sent a close frame. -/
def receiveClose (farewell : Option Farewell) : Operation (Option Incoming) := do
  match (← get).wire.state with
  | .active =>
    change fun wire => { wire with state := .closedByPeer }
    let answer := farewell.map fun farewell =>
      if farewell.isAllowed then farewell else Farewell.protocolViolation
    setReply .close (Farewell.payload answer)
    return some .close
  | .closedByUs =>
    change fun wire => { wire with state := .closeAcknowledged }
    return some .close
  -- In the other states nothing is received any more.
  | _ => return none

/-- A message that consists of a single frame. -/
def completeMessage (isText : Bool) (bytes : ByteArray) : Operation (Option Incoming) :=
  if isText then
    match Text.decodeUtf8? bytes with
    | some content => return some (.text content)
    | none => throw .violation
  else return some (.binary bytes)

/-- Takes a fragment of a message, and gives the message if it was the last one. A text has to be
valid as far as it is known. -/
def addFragment (fragments : Fragments) (payload : ByteArray) (final : Bool) :
    Operation (Option Incoming) := do
  let bytes := fragments.bytes ++ payload
  if bytes.size > maxMessage then throw .violation
  -- A character may be cut in two by the end of a fragment.
  if fragments.isText && !Text.isUtf8Beginning bytes then throw .violation
  if final then
    change fun wire => { wire with fragments := none }
    completeMessage fragments.isText bytes
  else
    change fun wire => { wire with fragments := some { fragments with bytes } }
    return none

/-- Takes a data frame. -/
def receiveData (isText : Bool) (payload : ByteArray) (final : Bool) :
    Operation (Option Incoming) := do
  if (← get).wire.fragments.isSome then throw .violation
  if final then completeMessage isText payload
  else addFragment ⟨isText, .empty⟩ payload false

/-- Takes a frame, and gives what arrives with it, if it completes anything. -/
def receiveFrame (header : FrameHeader) (payload : ByteArray) : Operation (Option Incoming) := do
  let wire := (← get).wire
  if !wire.state.canRead then throw .violation
  if header.reserved then throw .violation
  let isControl := header.opcode = .close || header.opcode = .ping || header.opcode = .pong
  if isControl && (!header.final || payload.size > maxControl) then throw .violation
  match header.opcode with
  | .close =>
    match Farewell.ofPayload? payload with
    | none => throw .violation
    | some farewell => receiveClose farewell
  | .ping =>
    -- A ping during the closing handshake is not answered.
    if wire.state = .active then setReply .pong payload
    return some .probe
  | .pong => return some .probe
  | .continuation =>
    match wire.fragments with
    | none => throw .violation
    | some fragments => addFragment fragments payload header.final
  | .text => receiveData true payload header.final
  | .binary => receiveData false payload header.final

/-- Flushes a reply before anything is read; a connection that is blocked is no reason not to
read. After a closing handshake nothing is read. -/
def settleReplies : Operation Unit := do
  let wire := (← get).wire
  if wire.reply.isSome || wire.unflushed then
    try flush
    catch
      | .blocked => change fun wire => { wire with unflushed := true }
      | fault => throw fault
  else if !wire.state.canRead then
    change fun wire => { wire with state := .terminated }
    throw .connectionClosed

/-- Takes the next frame; the end of the bytes is in order only after a closing handshake. -/
def receiveNext : Operation (Option Incoming) := do
  match ← nextFrame with
  | some (header, payload) => receiveFrame header payload
  | none =>
    let state := (← get).wire.state
    change fun wire => { wire with state := .terminated }
    if state = .closedByPeer || state = .closeAcknowledged then throw .connectionClosed
    throw .violation

/-- What arrives next, if it arrives within so many frames. -/
def readWithin (frames : Nat) : Operation Incoming := do
  match frames with
  | 0 => throw .blocked
  | frames + 1 =>
    settleReplies
    match ← receiveNext with
    | some incoming => return incoming
    | none => readWithin frames

/-- More than the number of frames that can have arrived. -/
def frameBound (link : Link) : Nat :=
  link.wire.inBuffer.size + link.duplex.toServer.buffer.size + 2

/-- What arrives next. -/
def read : Operation Incoming := do
  let link ← get
  if link.wire.state = .terminated then throw .alreadyClosed
  readWithin (frameBound link)

end Wire

end Inbound.WebSocket
