import Inbound.Proofs.WebSocket.Carrying
import Inbound.Proofs.WebSocket.Greeting
import Inbound.Proofs.WebSocket.Outgoing

/-!
# Sockets with room

What the operations of a socket come to where the transport has room, for both kinds of sockets: a
text is sent at once, a message is received if there is one, and a close gets out. Only for the
handshake and for messages there may be something to wait for.

## Main results

* `Stream.poll_greeting_of_opens`, `Channel.poll_connecting_of_connect`: a client is answered;
* `Stream.exists_poll_receiving`, `Channel.poll_receiving_of_event`: what it says is received;
* `Stream.poll_closing_of_talking`, `Stream.poll_closing_of_reply`,
  `Channel.poll_closing_of_hasRoom`: the server's own close, and its answer to one, get out.
-/

namespace Inbound.WebSocket

/-! ### What a client says, on either kind of socket -/

namespace Utterance

/-- The message that it is, if the client does not want to leave. -/
def message? : Utterance → Option Message
  | .text content => some (.text content)
  | .binary bytes => some (.binary bytes)
  | .close .. => none

theorem eq_close_of_message? {utterance : Utterance} (h : utterance.message? = none) :
    ∃ farewell fits, utterance = .close farewell fits := by
  cases utterance with
  | text | binary => cases h
  | close farewell fits => exact ⟨farewell, fits, rfl⟩

/-- A message is not the end, and there is nothing to answer. -/
theorem state_of_message? {utterance : Utterance} {message : Message}
    (h : utterance.message? = some message) :
    utterance.state = .active ∧ utterance.reply = none := by
  cases utterance with
  | text | binary => exact ⟨rfl, rfl⟩
  | close => cases h

/-- The code of a close frame that has none. -/
def noCode : Nat := 1005

/-- The event that it is where the transport frames messages itself. -/
def event : Utterance → Event
  | .text content => .text content
  | .binary bytes => .binary bytes
  | .close farewell _ => .disconnect ((farewell.map Farewell.code).getD noCode)

end Utterance

/-- The bytes of what a client says, one thing behind the other. -/
def frames (said : List (Utterance × Mask)) : ByteArray :=
  said.foldr (fun one rest => one.1.frame one.2 ++ rest) .empty

theorem frames_append (said later : List (Utterance × Mask)) :
    frames (said ++ later) = frames said ++ frames later := by
  induction said with
  | nil => exact ByteArray.empty_append.symm
  | cons one said ih =>
    show one.1.frame one.2 ++ frames (said ++ later) = _
    rw [ih, ← ByteArray.append_assoc]
    rfl

namespace Stream

/-- A socket between two messages, by what has been read of its connection in advance. -/
abbrev talking (duplex : Duplex) (inBuffer : ByteArray) : Stream :=
  ⟨duplex, true, some ⟨.idle inBuffer, true, false, false⟩⟩

theorem onWire_of_run {α : Type} {operation : Wire.Operation α} {stream : Stream}
    {messages : Messages} {result : Except WireFault α} {link : Link}
    (h : operation.run ⟨messages.wire, stream.duplex⟩ = (result, link)) :
    stream.onWire messages operation =
      (result, { messages with wire := link.wire }, link.duplex) := by
  simp only [onWire, h]

/-- Without a handshake there is nothing to do yet. -/
theorem poll_greeting_of_empty {stream : Stream} (h : stream.duplex.toServer = ⟨.empty, false⟩) :
    poll (.greeting .start) stream = (.pending, .greeting .start, stream) := by
  obtain ⟨⟨toServer, toClient, hasClient⟩, started, messages⟩ := stream
  cases h
  rfl

theorem pollResponding_of_hasRoom {stream : Stream} {bytes : ByteArray}
    (h : stream.duplex.HasRoom bytes) :
    stream.pollResponding bytes = (.ready (.ok .done), .settled (.ok .done),
      { stream with duplex := stream.duplex.sent bytes, messages := some .fresh }) := by
  simp only [pollResponding, Duplex.serverWrite_of_hasRoom h, finish]

section Greeting

open Handshake

variable {head key : ByteArray} (hopens : Opens head key) {stream : Stream}

include hopens

/-- A handshake of which the rest has arrived is answered. -/
theorem poll_greeting_of_rest {progress : Progress}
    (hhead : progress.received ++ stream.duplex.toServer.buffer = head)
    (hsome : 0 < stream.duplex.toServer.buffer.size)
    (hfew : progress.pieces + stream.duplex.toServer.buffer.size / greetingSize < 64)
    (hclosed : stream.duplex.toServer.closed = false)
    (hroom : stream.duplex.HasRoom (response key)) :
    poll (.greeting progress) stream =
      (.ready (.ok .done), .settled (.ok .done),
        ⟨(stream.duplex.holding .empty).sent (response key), stream.started, some .fresh⟩) := by
  obtain ⟨⟨⟨buffer, closed⟩, toClient, hasClient⟩, started, messages⟩ := stream
  cases hclosed
  simp only [poll]
  rw [pollGreeting_of_opens hopens hhead hsome hfew (Nat.lt_succ_of_lt (Nat.lt_succ_self _))]
  exact pollResponding_of_hasRoom ⟨hroom.closed, hroom.size_le⟩

/-- A handshake that has arrived is answered. -/
theorem poll_greeting_of_opens (h : stream.duplex.toServer = ⟨head, false⟩)
    (hroom : stream.duplex.HasRoom (response key)) :
    poll (.greeting .start) stream =
      (.ready (.ok .done), .settled (.ok .done),
        ⟨(stream.duplex.holding .empty).sent (response key), stream.started, some .fresh⟩) := by
  have hsize := hopens.size_le
  refine poll_greeting_of_rest hopens ?_ ?_ ?_ (by rw [h]) hroom
  all_goals rw [h]
  · exact ByteArray.empty_append
  · exact hopens.size_pos
  · simp only [Progress.start, greetingSize, maxReceived] at hsize ⊢
    omega

end Greeting

section Talking

variable {duplex : Duplex} {inBuffer buffer rest : ByteArray}

/-- A text is sent at once. -/
theorem poll_sending_of_talking {text : String}
    (h : duplex.HasRoom (serverFrame .text text.toUTF8)) :
    poll (.sending (some text)) (talking duplex inBuffer) =
      (.ready (.ok .done), .settled (.ok .done),
        talking (duplex.sent (serverFrame .text text.toUTF8)) inBuffer) := by
  obtain ⟨out, duplex', hwrite, hroom, hsent⟩ := Wire.exists_run_write inBuffer h
  simp only [poll, pollSending, if_true, pollFeeding]
  rw [onWire_of_run hwrite]
  simp only [pollFlushing]
  rw [onWire_of_run (Wire.run_flush rfl hroom), hsent]
  rfl

/-- Where the client has said nothing, there is nothing to receive yet. -/
theorem poll_receiving_of_empty :
    poll .receiving (talking (duplex.holding .empty) .empty) =
      (.pending, .receiving, talking (duplex.holding .empty) .empty) := by
  rfl

/-- What is read is received. -/
theorem pollReceiving_of_run (stream : Stream) (messages : Messages) {utterance : Utterance}
    {link : Link} (hended : messages.ended = false)
    (h : Wire.read.run ⟨messages.wire, stream.duplex⟩ = (.ok utterance.incoming, link))
    (probes : Nat) :
    stream.pollReceiving messages probes =
      (.ready (.ok (.message utterance.message?)), .settled (.ok (.message utterance.message?)),
        { stream with
          duplex := link.duplex, messages := some { messages with wire := link.wire } }) := by
  obtain ⟨wire, ready, ended, closing⟩ := messages
  cases hended
  rw [pollReceiving, onWire_of_run h]
  cases utterance <;> rfl

/-- What the client says is received. -/
theorem exists_poll_receiving (duplex : Duplex) {utterance : Utterance} {mask : Mask}
    (h : inBuffer ++ buffer = utterance.frame mask ++ rest)
    (hsize : utterance.payload.size ≤ Wire.maxFrame) :
    ∃ inBuffer' buffer',
      poll .receiving (talking (duplex.holding buffer) inBuffer) =
        (.ready (.ok (.message utterance.message?)), .settled (.ok (.message utterance.message?)),
          ⟨duplex.holding buffer', true, some
            ⟨.poised inBuffer' .empty utterance.state utterance.reply, true, false, false⟩⟩) ∧
      inBuffer' ++ buffer' = rest := by
  obtain ⟨inBuffer', buffer', hread, hrest⟩ := Wire.exists_run_read duplex h hsize
  exact ⟨inBuffer', buffer', pollReceiving_of_run (talking (duplex.holding buffer) inBuffer)
    ⟨.idle inBuffer, true, false, false⟩ rfl hread _, hrest⟩

/-- The server's close gets out, and the connection is let go. -/
theorem poll_closing_of_talking (h : duplex.HasRoom (serverFrame .close .empty)) :
    poll (start .close (talking duplex inBuffer)).1 (start .close (talking duplex inBuffer)).2 =
      (.ready (.ok .done), .settled (.ok .done),
        ⟨(duplex.sent (serverFrame .close .empty)).hangUp, true, none⟩) := by
  show pollClosing ⟨duplex, true, none⟩ ⟨.idle inBuffer, true, false, false⟩ = _
  have hrun : (⟨duplex, true, none⟩ : Stream).onWire ⟨.idle inBuffer, true, false, false⟩
      (if false = true then Wire.flush else Wire.close) = _ := onWire_of_run (Wire.run_close h)
  rw [pollClosing, hrun]
  rfl

/-- The answer to the client's close gets out, and the connection is let go. -/
theorem poll_closing_of_reply {opcode : Opcode} {payload : ByteArray}
    (h : duplex.HasRoom (serverFrame opcode payload)) :
    let stream : Stream := ⟨duplex, true, some
      ⟨.poised inBuffer .empty .closedByPeer (some (opcode, payload)), true, false, false⟩⟩
    poll (start .close stream).1 (start .close stream).2 =
      (.ready (.ok .done), .settled (.ok .done),
        ⟨(duplex.sent (serverFrame opcode payload)).hangUp, true, none⟩) := by
  intro stream
  show pollClosing ⟨duplex, true, none⟩
    ⟨.poised inBuffer .empty .closedByPeer (some (opcode, payload)), true, false, false⟩ = _
  have hrun : (⟨duplex, true, none⟩ : Stream).onWire
      ⟨.poised inBuffer .empty .closedByPeer (some (opcode, payload)), true, false, false⟩
      (if false = true then Wire.flush else Wire.close) = _ :=
    onWire_of_run (Wire.run_close_of_reply h)
  rw [pollClosing, hrun]
  rfl

end Talking

end Stream

/-- There is somebody to receive an event, and room for it. -/
structure Lane.HasRoom (lane : Lane) : Prop where
  hasReceiver : lane.hasReceiver = true
  length_lt : lane.events.length < lane.capacity

theorem Lane.put_of_hasRoom {lane : Lane} (h : lane.HasRoom) (event : Event) :
    lane.put event = .sent (lane.extend [event]) := by
  simp [put, extend, h.hasReceiver, h.length_lt]

namespace Channel

/-- The channels with just these events on the way to the server. -/
def holding (channel : Channel) (events : List Event) : Channel :=
  { channel with incoming := { channel.incoming with events } }

/-- The channels with these events on the way to the client, behind all others. -/
def sent (channel : Channel) (event : Event) : Channel :=
  { channel with outgoing := channel.outgoing.extend [event] }

variable {channel : Channel}

/-- Where the client has not connected, there is nothing to do yet. -/
theorem poll_connecting_of_nil (hevents : channel.incoming.events = [])
    (hsender : channel.incoming.hasSender = true) :
    poll .connecting channel = (.pending, .connecting, channel) := by
  simp only [poll, hevents, hsender, if_true]

/-- A client that has connected is answered. -/
theorem poll_connecting_of_connect {events : List Event}
    (hevents : channel.incoming.events = .connect :: events) (hroom : channel.outgoing.HasRoom) :
    poll .connecting channel =
      (.ready (.ok .done), .emitting .accept, (channel.holding events).sent .accept) := by
  simp only [poll, hevents, emit, Lane.put_of_hasRoom hroom]
  rfl

/-- A text is sent at once. -/
theorem poll_emitting_of_hasRoom (hroom : channel.outgoing.HasRoom) (event : Event) :
    poll (.emitting event) channel = (.ready (.ok .done), .emitting event, channel.sent event) := by
  simp only [poll, emit, Lane.put_of_hasRoom hroom]
  rfl

/-- Where the client has said nothing, there is nothing to receive yet. -/
theorem poll_receiving_of_nil (hevents : channel.incoming.events = [])
    (hsender : channel.incoming.hasSender = true) :
    poll .receiving channel = (.pending, .receiving, channel) := by
  obtain ⟨⟨capacity, events, hasSender, hasReceiver⟩, outgoing⟩ := channel
  cases hevents
  cases hsender
  rfl

/-- What the client says is received. -/
theorem poll_receiving_of_event {utterance : Utterance} {events : List Event}
    (hevents : channel.incoming.events = utterance.event :: events) :
    poll .receiving channel =
      (.ready (.ok (.message utterance.message?)), .receiving, channel.holding events) := by
  simp only [poll, hevents]
  cases utterance <;> rfl

/-- The close gets out. -/
theorem poll_closing_of_hasRoom (hroom : channel.outgoing.HasRoom) :
    poll .closing channel =
      (.ready (.ok .done), .closing, channel.sent (.close normalClosure)) := by
  simp only [poll, Lane.put_of_hasRoom hroom]
  rfl

end Channel

end Inbound.WebSocket
