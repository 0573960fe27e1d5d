import Inbound.Proofs.WebSocket.Protocol
import Inbound.Proofs.WebSocket.Sides

/-!
# Both kinds of sockets look the same

Where the transports have room and the client keeps to the protocol, a session over a connection
and one over event channels go through the same phases with the same answers, and the client hears
the same of both. They differ in one thing. The handshake takes the connection away with it: if the
handler drops `prepare` while it waits, there is nothing left to try again, whereas event channels
are as they were.

## Main results

* `Sides.Standing.outside`, `Sides.Standing.begins`, `Sides.Standing.drops`, `Sides.Standing.polls`:
  sessions that stand alike do so after one step, unless a handshake is tried again;
* `Sides.lookAlike_iff_not_retries`: both look the same at all times exactly if none is.
-/

namespace Inbound.WebSocket

section Acts

variable {duplex : Duplex} {channel : Channel}

theorem Duplex.act_write_toClient (duplex : Duplex) (bytes : ByteArray) :
    (duplex.act (.write bytes)).toClient = duplex.toClient ∧
      (duplex.act (.write bytes)).hasClient = duplex.hasClient := by
  obtain ⟨toServer, toClient, hasClient⟩ := duplex
  cases hasClient <;> exact ⟨rfl, rfl⟩

theorem Duplex.act_write_of_room {bytes : ByteArray} (hclient : duplex.hasClient = true)
    (hclosed : duplex.toServer.closed = false)
    (hroom : duplex.toServer.buffer.size + bytes.size ≤ Pipe.capacity) :
    duplex.act (.write bytes) = duplex.holding (duplex.toServer.buffer ++ bytes) := by
  obtain ⟨⟨buffer, closed⟩, toClient, hasClient⟩ := duplex
  cases hclient
  cases hclosed
  show (⟨(flushInto ⟨buffer, false⟩ bytes).2, toClient, true⟩ : Duplex) = _
  rw [flushInto_of_room rfl hroom]
  rfl

theorem Channel.act_send_of_room (event : Event) (hsender : channel.incoming.hasSender = true)
    (hreceiver : channel.incoming.hasReceiver = true)
    (hroom : channel.incoming.events.length < channel.incoming.capacity) :
    channel.act (.send event) = channel.holding (channel.incoming.events ++ [event]) := by
  simp [act, clientAct?, clientPut, hsender, Lane.put, hreceiver, hroom, holding]

theorem Channel.outgoing_act_send (channel : Channel) (event : Event) :
    (channel.act (.send event)).outgoing = channel.outgoing := by
  have hput := outgoing_clientPut channel event
  cases hsender : channel.incoming.hasSender with
  | true => simpa [act, clientAct?, hsender] using hput
  | false => simp [act, clientAct?, hsender]

/-- The connection after the client has read all there was. -/
def Duplex.drained (duplex : Duplex) : Duplex :=
  { duplex with toClient := { duplex.toClient with buffer := .empty } }

/-- The channels after the client has taken all there was. -/
def Channel.drained (channel : Channel) : Channel :=
  { channel with outgoing := { channel.outgoing with events := [] } }

theorem Duplex.act_read (h : duplex.hasClient = true) :
    duplex.act .read = duplex.drained ∧ duplex.reads = duplex.toClient.buffer := by
  obtain ⟨toServer, toClient, hasClient⟩ := duplex
  cases h
  exact ⟨rfl, rfl⟩

theorem Duplex.act_read_of_gone (h : duplex.hasClient = false) :
    duplex.act .read = duplex ∧ duplex.reads = .empty := by
  obtain ⟨toServer, toClient, hasClient⟩ := duplex
  cases h
  exact ⟨rfl, rfl⟩

theorem Channel.act_take (h : channel.outgoing.hasReceiver = true) :
    channel.act (.take channel.outgoing.events.length) = channel.drained ∧
      channel.takes (.take channel.outgoing.events.length) = channel.outgoing.events := by
  obtain ⟨incoming, ⟨capacity, events, hasSender, hasReceiver⟩⟩ := channel
  cases h
  simp [act, takes, clientAct?, clientTake, Lane.take, drained]

theorem Channel.act_take_of_gone (h : channel.outgoing.hasReceiver = false) (count : Nat) :
    channel.act (.take count) = channel ∧ channel.takes (.take count) = [] := by
  obtain ⟨incoming, ⟨capacity, events, hasSender, hasReceiver⟩⟩ := channel
  cases h
  exact ⟨rfl, rfl⟩

end Acts

namespace Sides

open Session Course

/-! ### What both sockets have in common -/

/-- The client is there, and the server is there to receive what it sends. -/
structure IsPresent (duplex : Duplex) (channel : Channel) : Prop where
  hasClient : duplex.hasClient = true
  hasSender : channel.incoming.hasSender = true
  hasReceiver : channel.incoming.hasReceiver = true
  hasListener : channel.outgoing.hasReceiver = true

/-- The actions in progress: both are the same and either not polled, or wait for the same thing. -/
inductive Abreast : Option Purpose → Option (Action × Session.Stage Stream.Work) →
    Option (Action × Session.Stage Channel.Work) → Prop where
  | none : Abreast none none none
  | fresh (action : Action) :
    Abreast none (some (action, .fresh action)) (some (action, .fresh action))
  | greeting : Abreast (some .accepting)
    (some (.prepare, Purpose.accepting.stage (.greeting .start)))
    (some (.prepare, Purpose.accepting.stage .connecting))
  | receiving : Abreast (some .receiving) (some (.next, Purpose.receiving.stage .receiving))
    (some (.next, Purpose.receiving.stage .receiving))

/-- How both sockets stand in a phase, by whether the client has asked for a session, whether the
handler has given up to wait for that, and what it waits for. -/
inductive Stands (client : Client) (opened spoiled : Bool) :
    Phase → Option Purpose → Stream → Channel → Prop where
  /-- There was no handshake. If one was given up, the connection is gone. -/
  | created {purpose : Option Purpose} {stream : Stream} {channel : Channel}
    (hpurpose : purpose = none ∨ purpose = some .accepting ∧ spoiled = false)
    (hpresent : IsPresent stream.duplex channel)
    (hstarted : stream.started = (spoiled || purpose.isSome))
    (hpipes : spoiled = false → stream.duplex.toClient.closed = false ∧
      stream.duplex.toServer = ⟨if opened then client.head else .empty, false⟩)
    (hevents : channel.incoming.events = if opened then [.connect] else []) :
    Stands client opened spoiled .created purpose stream channel
  /-- What the client has said is to be received. -/
  | accepted {purpose : Option Purpose} {duplex : Duplex} {inBuffer buffer : ByteArray}
    {channel : Channel} {said : List (Utterance × Mask)}
    (hopened : opened = true) (hpurpose : purpose = none ∨ purpose = some .receiving)
    (hpresent : IsPresent duplex channel) (hpipe : duplex.toClient.closed = false)
    (hbytes : inBuffer ++ buffer = frames said)
    (hsmall : ∀ one ∈ said, one.1.payload.size ≤ Wire.maxFrame)
    (hevents : channel.incoming.events = said.map (·.1.event)) :
    Stands client opened spoiled .accepted purpose (.talking (duplex.holding buffer) inBuffer)
      channel
  /-- Nobody asks for anything any more. -/
  | closed {stream : Stream} {channel : Channel} :
    Stands client opened spoiled .closed none stream channel

theorem Stands.phase_of_accepting {client : Client} {opened spoiled : Bool} {phase : Phase}
    {stream : Stream} {channel : Channel}
    (h : Stands client opened spoiled phase (some .accepting) stream channel) :
    phase = .created := by
  cases h with
  | created => rfl
  | accepted _ hpurpose => simp at hpurpose

theorem Stands.phase_of_receiving {client : Client} {opened spoiled : Bool} {phase : Phase}
    {stream : Stream} {channel : Channel}
    (h : Stands client opened spoiled phase (some .receiving) stream channel) :
    phase = .accepted := by
  cases h with
  | created hpurpose => simp at hpurpose
  | accepted => rfl

/-- Both sessions stand alike. -/
inductive Standing (client : Client) (opened spoiled : Bool) : Sides → Prop where
  | mk {phase : Phase} {purpose : Option Purpose} {stream : Stream} {channel : Channel}
    {current current' past bytes events} {heard coming : List Item}
    (hcurrent : Abreast purpose current current')
    (hstands : Stands client opened spoiled phase purpose stream channel)
    (horderly : Orderly phase (heard ++ coming))
    (hhears : Hears client heard coming stream.duplex channel.outgoing bytes events) :
    Standing client opened spoiled
      ⟨⟨⟨stream, phase⟩, current, past⟩, ⟨⟨channel, phase⟩, current', past⟩, bytes, events⟩

theorem Standing.lookAlike {client : Client} {opened spoiled : Bool} {sides : Sides}
    (h : Standing client opened spoiled sides) : sides.LookAlike client := by
  cases h with
  | mk hcurrent hstands horderly hhears =>
    refine ⟨rfl, ?_, rfl, _, _, horderly, hhears⟩
    cases hcurrent <;> rfl

theorem standing_start (client : Client) (incoming outgoing : Nat) :
    Standing client false false (start incoming outgoing) := by
  have hsilent : Orderly .created ([] ++ []) := .silent (by simp)
  exact .mk .none (.created (.inl rfl) ⟨rfl, rfl, rfl, rfl⟩ rfl (fun _ => ⟨rfl, rfl⟩) rfl) hsilent
    ⟨rfl, rfl, rfl, fun _ => rfl, fun _ => rfl⟩

/-! ### What the client does -/

section Outside

variable {client : Client} {opened spoiled : Bool}

/-- When the client listens, it hears what was on its way, of either session. -/
theorem Hears.listens {heard coming : List Item} {duplex : Duplex} {channel : Channel}
    {bytes : ByteArray} {events : List Event}
    (h : Hears client heard coming duplex channel.outgoing bytes events) :
    ∃ heard' coming', heard' ++ coming' = heard ++ coming ∧
      Hears client heard' coming' (duplex.act .read)
        (channel.act (.take channel.outgoing.events.length)).outgoing (bytes ++ duplex.reads)
        (events ++ channel.takes (.take channel.outgoing.events.length)) := by
  -- A client that is there hears all that is coming; one that has left hears nothing of it.
  cases hclient : duplex.hasClient with
  | true =>
    have hlistener := h.hasClient.symm.trans hclient
    obtain ⟨hread, hreads⟩ := Duplex.act_read hclient
    obtain ⟨htake, htakes⟩ := Channel.act_take hlistener
    rw [hread, hreads, htake, htakes]
    refine ⟨heard ++ coming, [], List.append_nil _, ?_, ?_, h.hasClient, fun _ => rfl, fun _ => rfl⟩
    · rw [h.bytes, h.buffer hclient, Item.spell_append]
    · rw [h.events, h.lane hlistener, List.map_append]
  | false =>
    obtain ⟨hread, hreads⟩ := Duplex.act_read_of_gone hclient
    obtain ⟨htake, htakes⟩ :=
      Channel.act_take_of_gone (h.hasClient.symm.trans hclient) channel.outgoing.events.length
    rw [hread, hreads, htake, htakes, ByteArray.append_empty, List.append_nil]
    exact ⟨heard, coming, rfl, h⟩

theorem Stands.listens {phase : Phase} {purpose : Option Purpose} {stream : Stream}
    {channel : Channel} (h : Stands client opened spoiled phase purpose stream channel) :
    Stands client opened spoiled phase purpose (Move.onStream client .listens stream)
      (Move.onChannel .listens channel) := by
  cases h with
  | created hpurpose hpresent hstarted hpipes hevents =>
    rw [Move.onStream, Move.onChannel, (Duplex.act_read hpresent.hasClient).1,
      (Channel.act_take hpresent.hasListener).1]
    exact .created hpurpose ⟨hpresent.hasClient, hpresent.hasSender, hpresent.hasReceiver,
      hpresent.hasListener⟩ hstarted hpipes hevents
  | @accepted purpose duplex inBuffer buffer channel said hopened hpurpose hpresent hpipe hbytes
      hsmall hevents =>
    have hclient : (duplex.holding buffer).hasClient = true := hpresent.hasClient
    rw [Move.onStream, Move.onChannel, (Duplex.act_read hclient).1,
      (Channel.act_take hpresent.hasListener).1]
    have hdrained : IsPresent duplex.drained channel.drained :=
      ⟨hpresent.hasClient, hpresent.hasSender, hpresent.hasReceiver, hpresent.hasListener⟩
    exact .accepted hopened hpurpose hdrained hpipe hbytes hsmall hevents
  | closed => exact .closed

theorem Stands.opens {phase : Phase} {purpose : Option Purpose} {stream : Stream}
    {channel : Channel} (h : Stands client false spoiled phase purpose stream channel)
    (hroom : channel.incoming.events.length < channel.incoming.capacity) :
    Stands client true spoiled phase purpose (Move.onStream client .opens stream)
      (Move.onChannel .opens channel) := by
  cases h with
  | created hpurpose hpresent hstarted hpipes hevents =>
    have hwrite := Duplex.act_write_toClient stream.duplex client.head
    have hsend := Channel.act_send_of_room .connect hpresent.hasSender hpresent.hasReceiver hroom
    rw [Move.onStream, Move.onChannel, hsend, hevents]
    refine .created hpurpose ⟨hwrite.2.trans hpresent.hasClient, hpresent.hasSender,
      hpresent.hasReceiver, hpresent.hasListener⟩ hstarted (fun hspoiled => ?_) rfl
    obtain ⟨hclosed, hpipe⟩ := hpipes hspoiled
    refine ⟨(congrArg Pipe.closed hwrite.1).trans hclosed, ?_⟩
    -- The pipe is empty, and takes more than the longest head.
    have hsize : stream.duplex.toServer.buffer.size + client.head.size ≤ Pipe.capacity := by
      have hhead := client.opens.size_le
      rw [hpipe, Pipe.capacity]
      rw [Handshake.maxReceived] at hhead
      simpa using Nat.le_trans hhead (by omega)
    rw [Duplex.act_write_of_room hpresent.hasClient (by rw [hpipe]) hsize, hpipe]
    simp [Duplex.holding]
  | accepted hopened => cases hopened
  | closed => exact .closed

theorem Stands.tells {phase : Phase} {purpose : Option Purpose} {stream : Stream}
    {channel : Channel} (h : Stands client opened spoiled phase purpose stream channel)
    (hphase : phase ≠ .created) {utterance : Utterance} {mask : Mask}
    (hlane : channel.incoming.events.length < channel.incoming.capacity)
    (hpipe : stream.duplex.toServer.buffer.size + (utterance.frame mask).size ≤ Pipe.capacity) :
    Stands client opened spoiled phase purpose (Move.onStream client (.tells utterance mask) stream)
      (Move.onChannel (.tells utterance mask) channel) := by
  cases h with
  | created => exact absurd rfl hphase
  | @accepted purpose duplex inBuffer buffer channel said hopened hpurpose hpresent hclosed hbytes
      hsmall hevents =>
    have hwrite : (duplex.holding buffer).act (.write (utterance.frame mask)) =
        duplex.holding (buffer ++ utterance.frame mask) :=
      Duplex.act_write_of_room hpresent.hasClient rfl hpipe
    have hsend := Channel.act_send_of_room utterance.event hpresent.hasSender hpresent.hasReceiver
      hlane
    rw [Move.onStream, Move.onChannel, hsend, hwrite, hevents]
    have hsaid : inBuffer ++ (buffer ++ utterance.frame mask) =
        frames (said ++ [(utterance, mask)]) := by
      rw [frames_append, ← hbytes, ByteArray.append_assoc]
      simp [frames]
    refine .accepted hopened hpurpose ⟨hpresent.hasClient, hpresent.hasSender, hpresent.hasReceiver,
      hpresent.hasListener⟩ hclosed hsaid (fun one hone => ?_) (by simp [Channel.holding])
    rcases List.mem_append.mp hone with hone | hone
    · exact hsmall one hone
    · rw [List.mem_singleton.mp hone]
      -- What fits into the pipe is small enough for a frame.
      have hframe := size_clientFrame utterance.opcode mask utterance.payload
      rw [Utterance.frame, hframe, Pipe.capacity] at hpipe
      show utterance.payload.size ≤ 16777216
      omega
  | closed => exact .closed

theorem Hears.send {heard coming : List Item} {duplex : Duplex} {channel : Channel}
    {bytes : ByteArray} {events : List Event}
    (h : Hears client heard coming duplex channel.outgoing bytes events) (written : ByteArray)
    (event : Event) :
    Hears client heard coming (duplex.act (.write written)) (channel.act (.send event)).outgoing
      (bytes ++ .empty) (events ++ []) := by
  obtain ⟨hpipe, hclient⟩ := Duplex.act_write_toClient duplex written
  rw [Channel.outgoing_act_send, ByteArray.append_empty, List.append_nil]
  exact ⟨h.bytes, h.events, hclient.trans h.hasClient,
    fun hthere => (congrArg Pipe.buffer hpipe).trans (h.buffer (hclient.symm.trans hthere)), h.lane⟩

theorem Hears.departs {heard coming : List Item} {duplex : Duplex} {channel : Channel}
    {bytes : ByteArray} {events : List Event}
    (h : Hears client heard coming duplex channel.outgoing bytes events) :
    Hears client heard coming (duplex.act .leave)
      (Move.onChannel .departs channel).outgoing (bytes ++ .empty) (events ++ []) := by
  have hclient : (duplex.act .leave).hasClient = false := by
    obtain ⟨toServer, toClient, hasClient⟩ := duplex
    cases hasClient <;> rfl
  have hlistener : (Move.onChannel .departs channel).outgoing.hasReceiver = false := by
    obtain ⟨⟨_, _, hasSender, _⟩, ⟨_, _, _, hasReceiver⟩⟩ := channel
    cases hasSender <;> cases hasReceiver <;> rfl
  rw [ByteArray.append_empty, List.append_nil]
  refine ⟨h.bytes, h.events, hclient.trans hlistener.symm, ?_, ?_⟩
  · simp [hclient]
  · simp [hlistener]

/-- Whatever the client does, it does the same to both sessions. -/
theorem Standing.outside {sides : Sides} (h : Standing client opened spoiled sides) {move : Move}
    (hopens : move.isOpening = true → opened = false) {before : List (Step Move)}
    (hpermits : sides.Permits before (.outside move))
    (hroom : sides.HasRoom client (.outside move)) :
    Standing client (opened || move.isOpening) spoiled (sides.step client (.outside move)) := by
  cases h with
  | @mk phase purpose stream channel current current' past bytes events heard coming hcurrent
      hstands horderly hhears =>
    cases move with
    | opens =>
      cases hopens rfl
      exact .mk hcurrent (hstands.opens hroom) horderly (hhears.send _ _)
    | tells utterance mask =>
      rw [Move.isOpening, Bool.or_false]
      exact .mk hcurrent (hstands.tells hpermits hroom.1 hroom.2) horderly (hhears.send _ _)
    | listens =>
      obtain ⟨heard', coming', hsame, hlistens⟩ := hhears.listens
      rw [← hsame] at horderly
      rw [Move.isOpening, Bool.or_false]
      exact .mk hcurrent hstands.listens horderly hlistens
    | departs =>
      -- It is permitted to leave only once both sessions are closed, and then nothing is read any
      -- more.
      cases hpermits
      rw [Move.isOpening, Bool.or_false]
      have hclosed : purpose = none := by cases hstands; rfl
      cases hclosed
      exact .mk hcurrent .closed horderly hhears.departs

end Outside

/-! ### What the handler does -/

section Handler

variable {client : Client} {opened spoiled : Bool} {phase : Phase} {stream : Stream}
  {channel : Channel} {heard coming : List Item} {bytes : ByteArray} {events : List Event}
  {past : List (Action × Option (Except Error Session.Answer))}

theorem step_of_silent {sides : Sides} {next : Step Move} (h : sides.heard next = (.empty, [])) :
    sides.step client next = ⟨sides.stream.step Stream.backend (Move.onStream client) next,
      sides.channel.step Channel.backend Move.onChannel next, sides.bytes, sides.events⟩ := by
  simp only [step, h, ByteArray.append_empty, List.append_nil]

theorem Standing.begins {sides : Sides} (h : Standing client opened spoiled sides)
    (action : Action) : Standing client opened spoiled (sides.step client (.begins action)) := by
  rw [step_of_silent rfl]
  cases h with
  | mk hcurrent hstands horderly hhears =>
    cases hcurrent with
    | none => exact .mk (.fresh action) hstands horderly hhears
    | fresh other => exact .mk (.fresh other) hstands horderly hhears
    | greeting => exact .mk .greeting hstands horderly hhears
    | receiving => exact .mk .receiving hstands horderly hhears

theorem Abreast.isGreeting_iff {purpose : Option Purpose} {current current'}
    (h : Abreast purpose current current') {session : Session Stream} {session' : Session Channel} :
    IsGreeting ⟨⟨session, current, past⟩, ⟨session', current', past⟩, bytes, events⟩ ↔
      purpose = some .accepting := by
  cases h <;> simp [IsGreeting, order?, Stage.order?, Purpose.stage]

/-- What is dropped is dropped on both sides; but if it is the handshake, then the connection is
lost. -/
theorem Standing.drops {sides : Sides} (h : Standing client opened spoiled sides)
    {spoiled' : Bool} (hspoiled : spoiled' = true ↔ spoiled = true ∨ sides.IsGreeting) :
    Standing client opened spoiled' (sides.step client .drops) := by
  rw [step_of_silent rfl]
  cases h with
  | @mk phase purpose stream channel current current' past bytes events heard coming hcurrent
      hstands horderly hhears =>
    rw [hcurrent.isGreeting_iff] at hspoiled
    cases hcurrent with
    | none =>
      obtain rfl : spoiled' = spoiled := Bool.eq_iff_iff.mpr (by simpa using hspoiled)
      exact .mk .none hstands horderly hhears
    | fresh other =>
      obtain rfl : spoiled' = spoiled := Bool.eq_iff_iff.mpr (by simpa using hspoiled)
      exact .mk .none hstands horderly hhears
    | greeting =>
      -- The handshake has taken the connection for itself, and takes it along.
      obtain rfl : spoiled' = true := hspoiled.mpr (.inr rfl)
      cases hstands with
      | created _ hpresent hstarted _ hevents =>
        have hgone : Stands client opened true .created none stream.dropServer channel :=
          .created (.inl rfl) ⟨hpresent.hasClient, hpresent.hasSender, hpresent.hasReceiver,
            hpresent.hasListener⟩ (hstarted.trans (Bool.or_true _)) (by simp) hevents
        exact .mk .none hgone horderly
          ⟨hhears.bytes, hhears.events, hhears.hasClient, hhears.buffer, hhears.lane⟩
      | accepted _ hpurpose => simp at hpurpose
    | receiving =>
      obtain rfl : spoiled' = spoiled := Bool.eq_iff_iff.mpr (by simpa using hspoiled)
      cases hstands with
      | created hpurpose => simp at hpurpose
      | accepted hopened _ hpresent hpipe hbytes hsmall hevents =>
        exact .mk .none (.accepted hopened (.inl rfl) hpresent hpipe hbytes hsmall hevents) horderly
          hhears

/-- What the server sends is on its way. -/
theorem Hears.sent {duplex : Duplex} {lane : Lane}
    (h : Hears client heard coming duplex lane bytes events) (item : Item) :
    Hears client heard (coming ++ [item]) (duplex.sent (item.bytes client.key))
      (lane.extend [item.event]) bytes events := by
  refine ⟨h.bytes, h.events, h.hasClient, fun hclient => ?_, fun hlistener => ?_⟩
  · show duplex.toClient.buffer ++ item.bytes client.key = _
    rw [h.buffer hclient, Item.spell_append]
    simp [Item.spell]
  · show lane.events ++ [item.event] = _
    rw [h.lane hlistener, List.map_append]
    rfl

/-- What is on its way to the server, and whether the server is there, makes no difference to what
is heard. -/
theorem Hears.of_same {duplex duplex' : Duplex} {lane : Lane}
    (h : Hears client heard coming duplex lane bytes events)
    (hclient : duplex'.hasClient = duplex.hasClient)
    (hbuffer : duplex'.toClient.buffer = duplex.toClient.buffer) :
    Hears client heard coming duplex' lane bytes events :=
  ⟨h.bytes, h.events, hclient.trans h.hasClient,
    fun hthere => hbuffer.trans (h.buffer (hclient.symm.trans hthere)), h.lane⟩

/-- An action that begins with an order is polled like that order, on both sides. -/
theorem step_polls_of_opening {action : Action} {order : Order} {phase' : Phase}
    (hopening : action.opening phase = (.inr order, phase')) :
    Sides.step client ⟨⟨⟨stream, phase⟩, some (action, .fresh action), past⟩,
        ⟨⟨channel, phase⟩, some (action, .fresh action), past⟩, bytes, events⟩ .polls =
      Sides.step client
        ⟨⟨⟨(Stream.backend.start order stream).2, phase'⟩,
            some (action, (purposeOf order).stage (Stream.backend.start order stream).1), past⟩,
          ⟨⟨(Channel.backend.start order channel).2, phase'⟩,
            some (action, (purposeOf order).stage (Channel.backend.start order channel).1), past⟩,
          bytes, events⟩ .polls := by
  rw [step_of_silent rfl, step_of_silent rfl, step_polls_of_inr hopening,
    step_polls_of_inr hopening]

/-- An action that has its answer without a backend has the same on both sides. -/
theorem Standing.answers {action : Action} {answer : Except Error Session.Answer} {phase' : Phase}
    (hopening : action.opening phase = (.inl answer, phase'))
    (hstands : Stands client opened spoiled phase none stream channel)
    (horderly : Orderly phase (heard ++ coming))
    (hhears : Hears client heard coming stream.duplex channel.outgoing bytes events) :
    Standing client opened spoiled (Sides.step client
      ⟨⟨⟨stream, phase⟩, some (action, .fresh action), past⟩,
        ⟨⟨channel, phase⟩, some (action, .fresh action), past⟩, bytes, events⟩ .polls) := by
  rw [step_of_silent rfl, step_polls_of_inl rfl hopening, step_polls_of_inl rfl hopening]
  have hphase : phase' = phase ∨ phase = .created ∧ phase' = .closed := by
    cases action <;> cases phase <;> cases hopening <;> simp
  rcases hphase with rfl | ⟨rfl, rfl⟩
  · exact .mk .none hstands horderly hhears
  · exact .mk .none .closed horderly.ends hhears

/-- The handshake is waited for on both sides, or it is answered on both. -/
theorem Standing.greets
    (hstands : Stands client opened spoiled .created (some .accepting) stream channel)
    (horderly : Orderly .created (heard ++ coming))
    (hhears : Hears client heard coming stream.duplex channel.outgoing bytes events)
    (hlane : channel.outgoing.events.length < channel.outgoing.capacity)
    (hpipe : stream.duplex.toClient.buffer.size + needs client .prepare ≤ Pipe.capacity) :
    Standing client opened spoiled (Sides.step client
      ⟨⟨⟨stream, .created⟩, some (.prepare, Purpose.accepting.stage (.greeting .start)), past⟩,
        ⟨⟨channel, .created⟩, some (.prepare, Purpose.accepting.stage .connecting), past⟩,
        bytes, events⟩ .polls) := by
  rw [step_of_silent rfl]
  cases hstands with
  | created hpurpose hpresent hstarted hpipes hevents =>
    obtain rfl : spoiled = false := by simpa using hpurpose
    obtain ⟨hclosed, htoServer⟩ := hpipes rfl
    -- Both sessions wait for the client to open, or both find that it has.
    cases opened with
    | false =>
      have hstream : Stream.backend.poll (.greeting .start) stream =
          (.pending, .greeting .start, stream) := Stream.poll_greeting_of_empty htoServer
      have hchannel : Channel.backend.poll .connecting channel = (.pending, .connecting, channel) :=
        Channel.poll_connecting_of_nil hevents hpresent.hasSender
      rw [step_polls_of_pending hstream, step_polls_of_pending hchannel]
      exact .mk .greeting (.created hpurpose hpresent hstarted hpipes hevents) horderly hhears
    | true =>
      have hstream : Stream.backend.poll (.greeting .start) stream = _ :=
        Stream.poll_greeting_of_opens client.opens htoServer ⟨hclosed, hpipe⟩
      have hchannel : Channel.backend.poll .connecting channel = _ :=
        Channel.poll_connecting_of_connect hevents ⟨hpresent.hasListener, hlane⟩
      have hdone : Purpose.accepting.conclusion .created (.ok .done) =
        some (.ok .done, .accepted) := rfl
      have htalking : Stands client true false .accepted none
          (.talking ((stream.duplex.sent (Handshake.response client.key)).holding .empty) .empty)
          ((channel.holding []).sent .accept) :=
        .accepted rfl (.inl rfl) ⟨hpresent.hasClient, hpresent.hasSender, hpresent.hasReceiver,
          hpresent.hasListener⟩ hclosed (rfl : _ = frames []) (by simp) rfl
      have hstarted : stream.started = true := hstarted
      rw [step_polls_of_conclusion hstream hdone, step_polls_of_conclusion hchannel hdone, hstarted]
      exact .mk .none htalking horderly.accept.assoc (Hears.of_same (hhears.sent .accept) rfl rfl)

/-- A message is waited for on both sides, or it is received on both; and if the client wants to
leave, both sessions are closed. -/
theorem Standing.receives
    (hstands : Stands client opened spoiled .accepted (some .receiving) stream channel)
    (horderly : Orderly .accepted (heard ++ coming))
    (hhears : Hears client heard coming stream.duplex channel.outgoing bytes events)
    (hlane : channel.outgoing.events.length < channel.outgoing.capacity)
    (hpipe : stream.duplex.toClient.buffer.size + needs client .next ≤ Pipe.capacity) :
    Standing client opened spoiled (Sides.step client
      ⟨⟨⟨stream, .accepted⟩, some (.next, Purpose.receiving.stage .receiving), past⟩,
        ⟨⟨channel, .accepted⟩, some (.next, Purpose.receiving.stage .receiving), past⟩,
        bytes, events⟩ .polls) := by
  rw [step_of_silent rfl]
  cases hstands with
  | @accepted purpose duplex inBuffer buffer channel said hopened _ hpresent hclosed hbytes hsmall
      hevents =>
    rcases said with - | ⟨⟨utterance, mask⟩, said⟩
    · obtain ⟨rfl, rfl⟩ := ByteArray.append_eq_empty_iff.mp hbytes
      have hstream : Stream.backend.poll .receiving (.talking (duplex.holding .empty) .empty) =
          (.pending, .receiving, .talking (duplex.holding .empty) .empty) :=
        Stream.poll_receiving_of_empty
      have hchannel : Channel.backend.poll .receiving channel = (.pending, .receiving, channel) :=
        Channel.poll_receiving_of_nil hevents hpresent.hasSender
      rw [step_polls_of_pending hstream, step_polls_of_pending hchannel]
      exact .mk .receiving
        (.accepted hopened (.inr rfl) hpresent hclosed hbytes hsmall hevents) horderly hhears
    · obtain ⟨inBuffer', buffer', hreceive, hrest⟩ :=
        Stream.exists_poll_receiving duplex hbytes (hsmall (utterance, mask) (.head _))
      have hstream : Stream.backend.poll .receiving
          (.talking (duplex.holding buffer) inBuffer) = _ := hreceive
      have hchannel : Channel.backend.poll .receiving channel = _ :=
        Channel.poll_receiving_of_event hevents
      rcases hmessage : utterance.message? with - | message
      -- The close of the client is answered in the same poll, by its echo on the one side.
      · obtain ⟨farewell, fits, rfl⟩ := Utterance.eq_close_of_message? hmessage
        have hleft : Purpose.receiving.conclusion .accepted (.ok (.message none)) = none := rfl
        have hroom : (duplex.holding buffer').HasRoom
            (serverFrame .close (Farewell.payload (Farewell.answer farewell))) := by
          refine ⟨hclosed, Nat.le_trans (Nat.add_le_add_left ?_ _) hpipe⟩
          have hanswer := fits.size_answer_le
          rw [size_serverFrame_close hanswer, needs]
          omega
        have hclose : Channel.backend.poll
            (Channel.backend.start .close (channel.holding (said.map (·.1.event)))).1
            (Channel.backend.start .close (channel.holding (said.map (·.1.event)))).2 = _ :=
          Channel.poll_closing_of_hasRoom ⟨hpresent.hasListener, hlane⟩
        rw [step_polls_of_no_conclusion hchannel hleft hclose,
          step_polls_of_no_conclusion hstream hleft (Stream.poll_closing_of_reply hroom)]
        exact .mk .none .closed (horderly.close _).assoc
          (Hears.of_same (hhears.sent (.close _)) rfl rfl)
      · obtain ⟨hstate, hreply⟩ := Utterance.state_of_message? hmessage
        rw [hmessage] at hstream hchannel
        rw [hstate, hreply] at hstream
        have hdone : Purpose.receiving.conclusion .accepted (.ok (.message (some message))) =
          some (.ok (.item (some (.ok message))), .accepted) := rfl
        have htalking : Stands client opened spoiled .accepted none
            (.talking (duplex.holding buffer') inBuffer')
            (channel.holding (said.map (·.1.event))) :=
          .accepted hopened (.inl rfl) ⟨hpresent.hasClient, hpresent.hasSender,
            hpresent.hasReceiver, hpresent.hasListener⟩ hclosed hrest
            (fun one hone => hsmall one (.tail _ hone)) rfl
        rw [step_polls_of_conclusion hstream hdone, step_polls_of_conclusion hchannel hdone]
        exact .mk .none htalking horderly (hhears.of_same rfl rfl)

/-- A text is sent on both sides. -/
theorem Standing.sends {text : String}
    (hstands : Stands client opened spoiled .accepted none stream channel)
    (horderly : Orderly .accepted (heard ++ coming))
    (hhears : Hears client heard coming stream.duplex channel.outgoing bytes events)
    (hlane : channel.outgoing.events.length < channel.outgoing.capacity)
    (hpipe : stream.duplex.toClient.buffer.size + needs client (.send text) ≤ Pipe.capacity) :
    Standing client opened spoiled (Sides.step client
      ⟨⟨⟨stream, .accepted⟩, some (.send text, .fresh (.send text)), past⟩,
        ⟨⟨channel, .accepted⟩, some (.send text, .fresh (.send text)), past⟩, bytes, events⟩
      .polls) := by
  have hopening : (Action.send text).opening .accepted = (.inr (.send text), .accepted) := rfl
  have hdone : (purposeOf (.send text)).conclusion .accepted (.ok .done) =
    some (.ok .done, .accepted) := rfl
  cases hstands with
  | @accepted purpose duplex inBuffer buffer channel said hopened hpurpose hpresent hclosed hbytes
      hsmall hevents =>
    -- There is room on both ways out, so neither session has to wait.
    have hroom : (duplex.holding buffer).HasRoom (serverFrame .text text.toUTF8) :=
      ⟨hclosed, hpipe⟩
    have hstream : Stream.backend.poll (.sending (some text))
        (.talking (duplex.holding buffer) inBuffer) = _ := Stream.poll_sending_of_talking hroom
    have hchannel : Channel.backend.poll (.emitting (.text text)) channel = _ :=
      Channel.poll_emitting_of_hasRoom ⟨hpresent.hasListener, hlane⟩ (.text text)
    have htalking : Stands client opened spoiled .accepted none
        (.talking ((duplex.sent (serverFrame .text text.toUTF8)).holding buffer) inBuffer)
        (channel.sent (.text text)) :=
      .accepted hopened (.inl rfl) ⟨hpresent.hasClient, hpresent.hasSender, hpresent.hasReceiver,
        hpresent.hasListener⟩ hclosed hbytes hsmall hevents
    rw [step_of_silent rfl, step_polls_of_order hopening hstream hdone,
      step_polls_of_order hopening hchannel hdone]
    exact .mk .none htalking (horderly.text text).assoc
      (Hears.of_same (hhears.sent (.text text)) rfl rfl)

/-- Both sessions are closed. -/
theorem Standing.closes
    (hstands : Stands client opened spoiled .accepted none stream channel)
    (horderly : Orderly .accepted (heard ++ coming))
    (hhears : Hears client heard coming stream.duplex channel.outgoing bytes events)
    (hlane : channel.outgoing.events.length < channel.outgoing.capacity)
    (hpipe : stream.duplex.toClient.buffer.size + needs client .close ≤ Pipe.capacity) :
    Standing client opened spoiled (Sides.step client
      ⟨⟨⟨stream, .accepted⟩, some (.close, .fresh .close), past⟩,
        ⟨⟨channel, .accepted⟩, some (.close, .fresh .close), past⟩, bytes, events⟩ .polls) := by
  have hopening : Action.close.opening .accepted = (.inr .close, .closed) := rfl
  have hdone : (purposeOf .close).conclusion .closed (.ok .done) = some (.ok .done, .closed) := rfl
  cases hstands with
  | @accepted purpose duplex inBuffer buffer channel said hopened hpurpose hpresent hclosed hbytes
      hsmall hevents =>
    have hroom : (duplex.holding buffer).HasRoom (serverFrame .close .empty) := by
      refine ⟨hclosed, Nat.le_trans (Nat.add_le_add_left ?_ _) hpipe⟩
      -- The frame says nothing more, so it is as small as a close frame can be.
      rw [size_serverFrame_close (Nat.zero_le _)]
      show 2 + 0 ≤ Wire.maxControl + 2
      omega
    have hstream : Stream.backend.poll
        (Stream.backend.start .close (.talking (duplex.holding buffer) inBuffer)).1
        (Stream.backend.start .close (.talking (duplex.holding buffer) inBuffer)).2 = _ :=
      Stream.poll_closing_of_talking hroom
    have hchannel : Channel.backend.poll .closing channel = _ :=
      Channel.poll_closing_of_hasRoom ⟨hpresent.hasListener, hlane⟩
    rw [step_of_silent rfl, step_polls_of_order hopening hstream hdone,
      step_polls_of_order hopening hchannel hdone]
    exact .mk .none .closed (horderly.close _).assoc
      (Hears.of_same (hhears.sent (.close .empty)) rfl rfl)

/-- A handshake is waited for that was not given up. -/
theorem Standing.prepares (hspoiled : spoiled = false)
    (hstands : Stands client opened spoiled .created none stream channel)
    (horderly : Orderly .created (heard ++ coming))
    (hhears : Hears client heard coming stream.duplex channel.outgoing bytes events)
    (hlane : channel.outgoing.events.length < channel.outgoing.capacity)
    (hpipe : stream.duplex.toClient.buffer.size + needs client .prepare ≤ Pipe.capacity) :
    Standing client opened spoiled (Sides.step client
      ⟨⟨⟨stream, .created⟩, some (.prepare, .fresh .prepare), past⟩,
        ⟨⟨channel, .created⟩, some (.prepare, .fresh .prepare), past⟩, bytes, events⟩ .polls) := by
  have hopening : Action.prepare.opening .created = (.inr .accept, .created) := rfl
  rw [step_polls_of_opening hopening]
  subst hspoiled
  cases hstands with
  | created hpurpose hpresent hstarted hpipes hevents =>
    have hstart : Stream.backend.start .accept stream =
        (.greeting .start, { stream with started := true }) := by
      have hfresh : stream.started = false := by simpa using hstarted
      simp [Stream.backend, Stream.start, hfresh]
    -- Only a handshake that was started before could be found out, and none was.
    have hwaits : Stands client opened false .created (some .accepting)
        { stream with started := true } channel :=
      .created (.inr ⟨rfl, rfl⟩) hpresent rfl hpipes hevents
    rw [hstart]
    exact .greets hwaits horderly hhears hlane hpipe

/-- A message is waited for. -/
theorem Standing.asks (hstands : Stands client opened spoiled .accepted none stream channel)
    (horderly : Orderly .accepted (heard ++ coming))
    (hhears : Hears client heard coming stream.duplex channel.outgoing bytes events)
    (hlane : channel.outgoing.events.length < channel.outgoing.capacity)
    (hpipe : stream.duplex.toClient.buffer.size + needs client .next ≤ Pipe.capacity) :
    Standing client opened spoiled (Sides.step client
      ⟨⟨⟨stream, .accepted⟩, some (.next, .fresh .next), past⟩,
        ⟨⟨channel, .accepted⟩, some (.next, .fresh .next), past⟩, bytes, events⟩ .polls) := by
  have hopening : Action.next.opening .accepted = (.inr .receive, .accepted) := rfl
  rw [step_polls_of_opening hopening]
  cases hstands with
  | accepted hopened _ hpresent hclosed hbytes hsmall hevents =>
    exact .receives (.accepted hopened (.inr rfl) hpresent hclosed hbytes hsmall hevents) horderly
      hhears hlane hpipe

/-- Whatever the handler polls, it is the same on both sides, unless it tries a handshake again. -/
theorem Standing.polls {sides : Sides} (h : Standing client opened spoiled sides)
    (hroom : sides.HasRoom client .polls) (hretries : spoiled = true → ¬ sides.IsPreparing) :
    Standing client opened spoiled (sides.step client .polls) := by
  cases h with
  | @mk phase purpose stream channel current current' past bytes events heard coming hcurrent
      hstands horderly hhears =>
    cases hcurrent with
    | none =>
      rw [step_of_silent rfl]
      exact .mk .none hstands horderly hhears
    | greeting =>
      obtain ⟨hlane, hpipe⟩ := hroom _ _ rfl
      obtain rfl := hstands.phase_of_accepting
      exact .greets hstands horderly hhears hlane hpipe
    | receiving =>
      obtain ⟨hlane, hpipe⟩ := hroom _ _ rfl
      obtain rfl := hstands.phase_of_receiving
      exact .receives hstands horderly hhears hlane hpipe
    -- An action is answered at once on both sides, or begins with the same order on both.
    | fresh action =>
      obtain ⟨hlane, hpipe⟩ := hroom _ _ rfl
      rcases hopening : action.opening phase with ⟨answer | order, phase'⟩
      · exact .answers hopening hstands horderly hhears
      · cases action with
        | prepare =>
          cases phase <;> cases hopening
          have hfirst : spoiled = false :=
            Bool.eq_false_iff.mpr fun hspoiled => hretries hspoiled ⟨rfl, rfl⟩
          exact .prepares hfirst hstands horderly hhears hlane hpipe
        | send text =>
          cases phase <;> cases hopening
          exact .sends hstands horderly hhears hlane hpipe
        | next =>
          cases phase <;> cases hopening
          exact .asks hstands horderly hhears hlane hpipe
        | close =>
          cases phase <;> cases hopening
          exact .closes hstands horderly hhears hlane hpipe

/-- Once the connection is gone, a handshake that is tried again fails on it, and over event
channels it does not. -/
theorem Standing.not_lookAlike {sides : Sides} (h : Standing client opened true sides)
    (hroom : sides.HasRoom client .polls) (hpreparing : sides.IsPreparing) :
    ¬ (sides.step client .polls).LookAlike client := by
  cases h with
  | @mk phase purpose stream channel current current' past bytes events heard coming hcurrent
      hstands horderly hhears =>
    obtain ⟨hphase, hprepare⟩ := hpreparing
    cases hphase
    cases hprepare
    obtain ⟨hlane, -⟩ := hroom _ _ rfl
    cases hcurrent
    cases hstands with
    | created _ hpresent hstarted _ hevents =>
      have hopening : Action.prepare.opening .created = (.inr .accept, .created) := rfl
      have hstart : Stream.backend.start .accept stream = (.settled (.error .closed), stream) := by
        have hbegun : stream.started = true := hstarted
        simp [Stream.backend, Stream.start, hbegun]
      have hstream : Stream.backend.poll (Stream.backend.start .accept stream).1
          (Stream.backend.start .accept stream).2 =
            (.ready (.error .closed), .settled (.error .closed), stream) := by
        rw [hstart]
        rfl
      have hfails : (purposeOf .accept).conclusion .created (.error .closed) =
        some (.error .closed, .closed) := rfl
      -- The answer is an error here. On the other side there is none yet, or it is none.
      intro hlook
      have hpast := hlook.past
      rw [step_of_silent rfl, step_polls_of_order hopening hstream hfails] at hpast
      cases opened with
      | false =>
        have hchannel : Channel.backend.poll .connecting channel =
            (.pending, .connecting, channel) :=
          Channel.poll_connecting_of_nil hevents hpresent.hasSender
        rw [step_polls_of_order_pending hopening hchannel] at hpast
        simp at hpast
      | true =>
        have hchannel : Channel.backend.poll .connecting channel = _ :=
          Channel.poll_connecting_of_connect hevents ⟨hpresent.hasListener, hlane⟩
        have hdone : (purposeOf .accept).conclusion .created (.ok .done) =
          some (.ok .done, .accepted) := rfl
        rw [step_polls_of_order hopening hchannel hdone] at hpast
        simp at hpast

end Handler

/-! ### All steps together -/

section Runs

variable {client : Client} {incoming outgoing : Nat} {steps before : List (Step Move)}

theorem run_concat (last : Step Move) : run client incoming outgoing (steps ++ [last]) =
    (run client incoming outgoing steps).step client last := by
  rw [run, List.foldl_append]
  rfl

theorem Fair.of_prefix (h : Fair client incoming outgoing steps) (hbefore : before <+: steps) :
    Fair client incoming outgoing before :=
  fun earlier next hnext => h earlier next (hnext.trans hbefore)

theorem Retries.of_prefix (h : Retries client incoming outgoing before)
    (hbefore : before <+: steps) : Retries client incoming outgoing steps :=
  h.imp fun _ hpolls => ⟨hpolls.1.trans hbefore, hpolls.2⟩

/-- Without a retry, both sessions stand alike after all steps. -/
theorem exists_standing (hfair : Fair client incoming outgoing steps)
    (hretries : ¬ Retries client incoming outgoing steps) :
    ∃ opened spoiled, (opened = true ↔ .outside .opens ∈ steps) ∧
      (spoiled = true ↔ HasGivenUp client incoming outgoing steps) ∧
      Standing client opened spoiled (run client incoming outgoing steps) := by
  -- By induction on the steps, of which the last keeps what was so before.
  induction steps using List.reverseRecOn with
  | nil =>
    have hnone : ¬ HasGivenUp client incoming outgoing [] := by simp [HasGivenUp]
    exact ⟨false, false, by simp, by simp [hnone], standing_start client incoming outgoing⟩
  | append_singleton steps last ih =>
    have hbefore : steps <+: steps ++ [last] := List.prefix_append _ _
    obtain ⟨opened, spoiled, hopened, hspoiled, hstanding⟩ :=
      ih (hfair.of_prefix hbefore) fun h => hretries (h.of_prefix hbefore)
    obtain ⟨hpermits, hroom⟩ := hfair steps last List.prefix_rfl
    rw [run_concat, HasGivenUp, exists_before_concat, ← HasGivenUp, ← hspoiled]
    cases last with
    | begins action => exact ⟨opened, spoiled, by simpa, by simp, hstanding.begins action⟩
    | polls =>
      have hfirst (hgiven : spoiled = true) : ¬ (run client incoming outgoing steps).IsPreparing :=
        fun hpreparing => hretries ⟨steps, List.prefix_rfl, hspoiled.mp hgiven, hpreparing⟩
      exact ⟨opened, spoiled, by simpa, by simp, hstanding.polls hroom hfirst⟩
    | drops =>
      -- That the handler waits for the handshake is an existence: the flag is chosen classically.
      obtain ⟨spoiled', hspoiled'⟩ : ∃ spoiled' : Bool, spoiled' = true ↔
          spoiled = true ∨ (run client incoming outgoing steps).IsGreeting :=
        ⟨@decide (spoiled = true ∨ (run client incoming outgoing steps).IsGreeting)
          (Classical.propDecidable _), by simp⟩
      exact ⟨opened, spoiled', by simpa, by simp [hspoiled'], hstanding.drops hspoiled'⟩
    | outside move =>
      have hopens (hmove : move.isOpening = true) : opened = false := by
        cases move <;> cases hmove
        exact Bool.eq_false_iff.mpr fun hopen => hpermits (hopened.mp hopen)
      refine ⟨opened || move.isOpening, spoiled, ?_, by simp,
        hstanding.outside hopens hpermits hroom⟩
      cases move <;> simp [hopened, Move.isOpening]

/-- A retry can be told from outside. -/
theorem exists_not_lookAlike (hfair : Fair client incoming outgoing steps)
    (hretries : Retries client incoming outgoing steps) :
    ∃ before, before <+: steps ∧ ¬ (run client incoming outgoing before).LookAlike client := by
  -- By induction on the steps, since only up to the first retry both sessions stand alike.
  induction steps using List.reverseRecOn with
  | nil => simp [Retries] at hretries
  | append_singleton steps last ih =>
    have hbefore : steps <+: steps ++ [last] := List.prefix_append _ _
    by_cases hearlier : Retries client incoming outgoing steps
    · obtain ⟨before, hprefix, hdiffers⟩ := ih (hfair.of_prefix hbefore) hearlier
      exact ⟨before, hprefix.trans hbefore, hdiffers⟩
    · rw [Retries, exists_before_concat, ← Retries] at hretries
      obtain ⟨rfl, hgiven, hpreparing⟩ := hretries.resolve_left hearlier
      obtain ⟨opened, spoiled, -, hspoiled, hstanding⟩ :=
        exists_standing (hfair.of_prefix hbefore) hearlier
      rw [hspoiled.mpr hgiven] at hstanding
      refine ⟨steps ++ [.polls], List.prefix_rfl, ?_⟩
      rw [run_concat]
      exact hstanding.not_lookAlike (hfair steps .polls List.prefix_rfl).2 hpreparing

end Runs

/-- Where the transports have room, handler and client cannot tell a session over a connection from
one over event channels at any time, unless the handler waits for the handshake, drops that, and
tries it again: the connection is gone then, and the channels are not. -/
theorem lookAlike_iff_not_retries (client : Client) (incoming outgoing : Nat)
    (steps : List (Step Move)) (hfair : Fair client incoming outgoing steps) :
    (∀ before, before <+: steps → (run client incoming outgoing before).LookAlike client) ↔
      ¬ Retries client incoming outgoing steps := by
  constructor
  · intro hlook hretries
    obtain ⟨before, hbefore, hdiffers⟩ := exists_not_lookAlike hfair hretries
    exact hdiffers (hlook before hbefore)
  · intro hretries before hbefore
    obtain ⟨_, _, -, -, hstanding⟩ :=
      exists_standing (hfair.of_prefix hbefore) fun h => hretries (h.of_prefix hbefore)
    exact hstanding.lookAlike

/-- A client with the key of the protocol's own example. -/
def visitor : Client where
  head := ("GET / HTTP/1.1\r\nHost: example.com\r\nConnection: Upgrade\r\n" ++
    "Upgrade: websocket\r\nSec-WebSocket-Version: 13\r\n" ++
    "Sec-WebSocket-Key: dGhlIHNhbXBsZSBub25jZQ==\r\n\r\n").toUTF8
  key := "dGhlIHNhbXBsZSBub25jZQ==".toUTF8
  opens := by decide +kernel

/-- The handler waits for the handshake and for a message, answers it and closes the session. -/
def visit : List (Step Move) :=
  [.begins .prepare, .polls, .outside .opens, .polls, .outside .listens, .begins .next, .polls,
    .outside (.tells (.text "hello") ⟨[1, 2, 3, 4], rfl⟩), .polls, .begins (.send "welcome"),
    .polls, .begins .close, .polls, .outside .listens, .outside .departs]

theorem lookAlike_of_visit : Fair visitor 4 4 visit ∧ ¬ Retries visitor 4 4 visit ∧
    ∀ before, before <+: visit → (run visitor 4 4 before).LookAlike visitor := by
  have hfair : Fair visitor 4 4 visit := by decide +kernel
  have hretries : ¬ Retries visitor 4 4 visit := by
    rintro ⟨before, hbefore, ⟨earlier, hearlier, -⟩, -⟩
    have hdrops : Step.drops ∈ visit :=
      (hearlier.trans ((List.prefix_append _ _).trans hbefore)).subset (by simp)
    exact absurd hdrops (by decide)
  exact ⟨hfair, hretries, (lookAlike_iff_not_retries visitor 4 4 visit hfair).mpr hretries⟩

/-- The handler waits for the handshake, drops that, and tries it again when it has arrived. -/
def revisit : List (Step Move) :=
  [.begins .prepare, .polls, .drops, .outside .opens, .begins .prepare, .polls, .outside .listens]

/-- Over event channels the session is opened and the client hears so; over a connection it is
closed, and the client hears nothing. -/
theorem not_lookAlike_of_revisit : Fair visitor 4 4 revisit ∧
    (run visitor 4 4 revisit).channel.past = [(.prepare, none), (.prepare, some (.ok .done))] ∧
    (run visitor 4 4 revisit).events = [.accept] ∧
    (run visitor 4 4 revisit).stream.past = [(.prepare, none), (.prepare, some (.error .closed))] ∧
    (run visitor 4 4 revisit).bytes = .empty ∧
    ¬ (run visitor 4 4 revisit).LookAlike visitor := by
  have hchannel : (run visitor 4 4 revisit).channel.past =
    [(.prepare, none), (.prepare, some (.ok .done))] := by rfl
  have hstream : (run visitor 4 4 revisit).stream.past =
    [(.prepare, none), (.prepare, some (.error .closed))] := by rfl
  refine ⟨by decide +kernel, hchannel, by rfl, hstream, by decide +kernel, fun hlook => ?_⟩
  have hpast := hlook.past
  rw [hchannel, hstream] at hpast
  cases hpast

end Sides

end Inbound.WebSocket
