import Inbound.WebSocket.Handshake
import Inbound.WebSocket.Session
import Inbound.WebSocket.Wire

/-!
# Sockets over byte streams

A transport that hands over a raw connection leaves the handshake and the framing to the server.
The connection is given to the handshake once; if that fails or is abandoned, the connection is
gone. Closing takes the wire away for good, so that the client sees the end of the bytes.
-/

namespace Inbound.WebSocket

/-- A wire with what the stream of its messages keeps besides. -/
structure Messages where
  /-- The wire. -/
  wire : Wire
  /-- The last message that could be sent did not wait for the connection. -/
  ready : Bool
  /-- No message comes any more. -/
  ended : Bool
  /-- A close frame is on its way. -/
  closing : Bool

/-- The stream of messages after the handshake. -/
def Messages.fresh : Messages := ⟨.fresh, true, false, false⟩

/-- A socket over a connection. -/
structure Stream where
  /-- The connection. -/
  duplex : Duplex
  /-- The handshake has been begun. -/
  started : Bool
  /-- The messages, from the end of the handshake to the beginning of the close. -/
  messages : Option Messages

namespace Stream

/-- The socket before the handshake. -/
def fresh : Stream := ⟨.fresh, false, none⟩

/-- The server lets go of the connection. -/
def dropServer (stream : Stream) : Stream :=
  { stream with duplex := stream.duplex.hangUp, messages := none }

/-- An operation of the server in progress. -/
inductive Work where
  /-- The answer is known. -/
  | settled (reply : Except Error Reply)
  /-- It reads the request of the handshake. -/
  | greeting (progress : Handshake.Progress)
  /-- It writes the response of the handshake. -/
  | responding (rest : ByteArray)
  /-- It sends this, or flushes what it has sent. -/
  | sending (text : Option String)
  /-- It waits for a message. -/
  | receiving
  /-- It closes the messages that it has taken away. -/
  | closing (messages : Messages)

/-- The outcome of polling an operation. -/
abbrev Outcome := Poll (Except Error Reply) × Work × Stream

/-- An outcome that is final. -/
def finish (stream : Stream) (reply : Except Error Reply) : Outcome :=
  (.ready reply, .settled reply, stream)

/-- Runs an operation on the wire of a socket. -/
def onWire {α : Type} (stream : Stream) (messages : Messages) (operation : Wire.Operation α) :
    Except WireFault α × Messages × Duplex :=
  let (result, link) := operation.run ⟨messages.wire, stream.duplex⟩
  (result, { messages with wire := link.wire }, link.duplex)

/-! ### The handshake -/

/-- How many bytes of a handshake are read at once. -/
def greetingSize : Nat := 4096

/-- Writes the response of the handshake. -/
def pollResponding (stream : Stream) (rest : ByteArray) : Outcome :=
  let (flushed, duplex) := stream.duplex.serverWrite rest
  let stream := { stream with duplex }
  match flushed with
  | .done => { stream with messages := some .fresh }.finish (.ok .done)
  | .blocked rest => (.pending, .responding rest, stream)
  | .broken => stream.dropServer.finish (.error (.handshake none))

/-- Reads the request of the handshake, of which at most so many pieces are there. -/
def pollGreeting (stream : Stream) (progress : Handshake.Progress) (pieces : Nat) : Outcome :=
  match pieces with
  | 0 => (.pending, .greeting progress, stream)
  | pieces + 1 =>
    match stream.duplex.serverRead greetingSize with
    -- What has been read so far goes with the operation, and is lost if that is abandoned.
    | (.pending, _) => (.pending, .greeting progress, stream)
    | (.ready piece, duplex) =>
      let stream := { stream with duplex }
      match progress.feed piece with
      | .waiting progress => stream.pollGreeting progress pieces
      | .refused => stream.dropServer.finish (.error (.handshake none))
      | .respond bytes => stream.pollResponding bytes

/-! ### Messages -/

/-- Flushes what has been sent. -/
def pollFlushing (stream : Stream) (messages : Messages) : Outcome :=
  let (result, messages, duplex) := stream.onWire messages Wire.flush
  match result with
  | .error .blocked => (.pending, .sending none, { stream with duplex, messages := some messages })
  | .ok () | .error .connectionClosed =>
    { stream with duplex, messages := some { messages with ready := true } }.finish (.ok .done)
  | .error _ =>
    { stream with duplex, messages := some { messages with ready := true } }.finish
      (.error (.transport none))

/-- Hands a text to the wire and flushes it. -/
def pollFeeding (stream : Stream) (messages : Messages) (text : String) : Outcome :=
  let (result, messages, duplex) := stream.onWire messages (Wire.write text)
  match result with
  | .ok () => { stream with duplex }.pollFlushing { messages with ready := true }
  | .error .blocked => { stream with duplex }.pollFlushing { messages with ready := false }
  | .error _ =>
    { stream with duplex, messages := some { messages with ready := true } }.finish
      (.error (.transport none))

/-- Sends a text once the one before it is on its way. -/
def pollSending (stream : Stream) (messages : Messages) (text : String) : Outcome :=
  if messages.ready then stream.pollFeeding messages text
  else
    let (result, messages, duplex) := stream.onWire messages Wire.flush
    match result with
    | .error .blocked =>
      (.pending, .sending (some text), { stream with duplex, messages := some messages })
    | .ok () => { stream with duplex }.pollFeeding { messages with ready := true } text
    | .error _ =>
      { stream with duplex, messages := some { messages with ready := true } }.finish
        (.error (.transport none))

/-- Waits for a message, passing over at most so many pings and pongs. -/
def pollReceiving (stream : Stream) (messages : Messages) (probes : Nat) : Outcome :=
  if messages.ended then
    { stream with messages := some messages }.finish (.ok (.message none))
  else
    let (result, messages, duplex) := stream.onWire messages Wire.read
    let stream := { stream with duplex, messages := some messages }
    match result with
    | .ok (.text content) => stream.finish (.ok (.message (some (.text content))))
    | .ok (.binary bytes) => stream.finish (.ok (.message (some (.binary bytes))))
    | .ok .close => stream.finish (.ok (.message none))
    | .ok .probe =>
      match probes with
      | 0 => (.pending, .receiving, stream)
      | probes + 1 => stream.pollReceiving messages probes
    | .error .blocked => (.pending, .receiving, stream)
    | .error fault =>
      let stream := { stream with messages := some { messages with ended := true } }
      if fault.isEnd then stream.finish (.ok (.message none))
      else stream.finish (.error (.transport none))

/-- Closes the messages, and lets go of the connection when that is done. -/
def pollClosing (stream : Stream) (messages : Messages) : Outcome :=
  -- The close frame is sent once. After that, all there is to do is to flush it.
  let operation := if messages.closing then Wire.flush else Wire.close
  let (result, messages, duplex) := stream.onWire messages operation
  let stream := { stream with duplex }
  match result with
  | .error .blocked => (.pending, .closing { messages with ready := true, closing := true }, stream)
  | .ok () => stream.dropServer.finish (.ok .done)
  | .error fault =>
    if fault.isEnd then stream.dropServer.finish (.ok .done)
    else stream.dropServer.finish (.error (.transport none))

/-! ### The backend -/

/-- Begins an operation. -/
def start (order : Order) (stream : Stream) : Work × Stream :=
  match order with
  | .accept =>
    if stream.started then (.settled (.error .closed), stream)
    else (.greeting .start, { stream with started := true })
  | .send text => (.sending (some text), stream)
  | .receive => (.receiving, stream)
  | .close =>
    match stream.messages with
    -- Without a handshake, or a second time, there is nothing to close.
    | none => (.settled (.ok .done), stream)
    | some messages => (.closing messages, { stream with messages := none })

/-- Polls an operation. -/
def poll (work : Work) (stream : Stream) : Outcome :=
  match work with
  | .settled reply => stream.finish reply
  | .greeting progress =>
    -- So many pieces cannot be there, so the bound is never what ends the loop.
    stream.pollGreeting progress (stream.duplex.toServer.buffer.size / greetingSize + 2)
  | .responding rest => stream.pollResponding rest
  | .sending text =>
    match stream.messages, text with
    | none, _ => stream.finish (.error .notAccepted)
    | some messages, some text => stream.pollSending messages text
    | some messages, none => stream.pollFlushing messages
  | .receiving =>
    match stream.messages with
    | none => stream.finish (.error .notAccepted)
    | some messages =>
      stream.pollReceiving messages (Wire.frameBound ⟨messages.wire, stream.duplex⟩)
  | .closing messages => stream.pollClosing messages

/-- Abandons an operation; what it had taken for itself is gone. -/
def abandon (work : Work) (stream : Stream) : Stream :=
  match work with
  | .greeting _ | .responding _ | .closing _ => stream.dropServer
  | .settled _ | .sending _ | .receiving => stream

/-- Byte streams as sockets. -/
def backend : Backend Stream Work where
  start := start
  poll := poll
  abandon := abandon

end Stream

end Inbound.WebSocket
