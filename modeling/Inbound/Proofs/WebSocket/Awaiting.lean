import Inbound.Proofs.WebSocket.Sides

/-!
# Waiting for the handshake

A session is opened once the handshake of its client has arrived, however often it was polled before
and whatever of it had arrived by then. On event channels the handshake is a single event, which is
taken when it is answered. On a connection it is a text that may come in pieces, and each poll takes
what is there.

## Main definitions

* `Course.untouched`: a socket as its client alone would have left it;
* `Course.Gateway`: what can be told of the handshake from there;
* `Course.Accepts`: the session is opened once the handshake has arrived.

## Main results

* `Course.accepts_of_waits`: what has to be kept while the handshake is waited for;
* `Channel.accepts`, `Stream.accepts`: it is so over channels and over connections.
-/

namespace Inbound.WebSocket

variable {σ κ ω : Type}

namespace Course

open Session

/-! ### What is left to the other end -/

/-- What a step does to a socket that the handler leaves alone. -/
def Step.touch (world : ω → σ → σ) (next : Step ω) (socket : σ) : σ :=
  match next with
  | .outside act => world act socket
  | .begins _ | .polls | .drops => socket

/-- A socket after the steps, if the handler had left it alone. -/
def untouched (world : ω → σ → σ) (socket : σ) (steps : List (Step ω)) : σ :=
  steps.foldl (fun socket next => next.touch world socket) socket

section Untouched

variable {world : ω → σ → σ} {socket : σ}

theorem untouched_concat (steps : List (Step ω)) (last : Step ω) :
    untouched world socket (steps ++ [last]) =
      last.touch world (untouched world socket steps) := by
  rw [untouched, List.foldl_append]
  rfl

/-- What the other end does not change is as it was. -/
theorem untouched_keeps {Keeps : σ → Prop} (hact : ∀ act socket, Keeps socket →
    Keeps (world act socket)) (h : Keeps socket) (steps : List (Step ω)) :
    Keeps (untouched world socket steps) := by
  induction steps using List.reverseRecOn with
  | nil => exact h
  | append_singleton steps last ih =>
    rw [untouched_concat]
    cases last with
    | outside act => exact hact act _ ih
    | begins | polls | drops => exact ih

end Untouched

/-! ### Sessions that are to be opened -/

/-- What can be told of the handshake from a socket that the handler has left alone. -/
structure Gateway (σ : Type) where
  /-- The server has its end, unless it is of no use any more. -/
  IsOpen : σ → Prop
  /-- Something of the handshake is missing, and it has not been polled too often to be waited
  for. -/
  Awaits : Nat → σ → Prop
  /-- The handshake is there, and there is room for the answer. -/
  Arrived : Nat → σ → Prop

/-- The action in progress is polled. -/
def Step.isPoll : Step ω → Bool
  | .polls => true
  | .begins _ | .drops | .outside _ => false

/-- The handler only polls the handshake, which has not arrived before any of these polls. -/
def IsPatient (world : ω → σ → σ) (gateway : Gateway σ) (socket : σ) (steps : List (Step ω)) :
    Prop :=
  ∀ before next, before ++ [next] <+: steps →
    match next with
    | .polls => gateway.Awaits (before.countP Step.isPoll) (untouched world socket before)
    | .outside _ => True
    | .begins _ | .drops => False

/-- Once the handshake has arrived, however often it was polled before, it is answered, and the
session is opened. -/
def Accepts (backend : Backend σ κ) (world : ω → σ → σ) (gateway : Gateway σ) (socket : σ)
    (course : Course σ κ) : Prop :=
  ∀ steps, IsPatient world gateway socket steps →
    gateway.Arrived (steps.countP Step.isPoll) (untouched world socket steps) →
    ∃ socket', course.run backend world (.begins .prepare :: steps ++ [.polls]) =
      ⟨⟨socket', .accepted⟩, none, course.past ++ [(.prepare, some (.ok .done))]⟩

/-- What holds while the handshake is waited for leads to its being answered. -/
theorem accepts_of_waits {backend : Backend σ κ} {world : ω → σ → σ} {gateway : Gateway σ}
    {socket : σ} (Waits : Nat → σ → Course σ κ → Prop)
    (hbegins : Waits 0 socket ⟨.create socket, some (.prepare, .fresh .prepare), []⟩)
    (houtside : ∀ polls socket course act, Waits polls socket course →
      Waits polls (world act socket) (course.step backend world (.outside act)))
    (hpolls : ∀ polls socket course, Waits polls socket course → gateway.Awaits polls socket →
      Waits (polls + 1) socket (course.step backend world .polls))
    (harrives : ∀ polls socket course, Waits polls socket course → gateway.Arrived polls socket →
      ∃ socket', course.step backend world .polls =
        ⟨⟨socket', .accepted⟩, none, [(.prepare, some (.ok .done))]⟩) :
    (start socket).Accepts backend world gateway socket := by
  intro steps hpatient harrived
  -- By induction on the steps before the last poll.
  have hwaits : Waits (steps.countP Step.isPoll) (untouched world socket steps)
      ((start socket).run backend world (.begins .prepare :: steps)) := by
    clear harrived
    induction steps using List.reverseRecOn with
    | nil => exact hbegins
    | append_singleton steps last ih =>
      have hwaits := ih fun before next hnext =>
        hpatient before next (hnext.trans (List.prefix_append _ _))
      have hlast := hpatient steps last List.prefix_rfl
      rw [← List.cons_append, run_concat, untouched_concat, List.countP_append]
      cases last with
      | begins | drops => exact hlast.elim
      | polls => exact hpolls _ _ _ hwaits hlast
      | outside act => exact houtside _ _ _ act hwaits
  rw [run_concat]
  exact harrives _ _ _ hwaits harrived

end Course

/-! ### Event channels -/

namespace Channel

open Session Course

/-- The handshake is a single event. -/
def gateway : Gateway Channel where
  IsOpen channel := channel.incoming.hasReceiver = true ∧ channel.outgoing.hasSender = true
  Awaits _ channel := channel.incoming.events = [] ∧ channel.incoming.hasSender = true
  Arrived _ channel :=
    (∃ later, channel.incoming.events = .connect :: later) ∧ channel.outgoing.HasRoom

theorem isOpen_act (act : ClientAct) (channel : Channel) (h : gateway.IsOpen channel) :
    gateway.IsOpen (channel.act act) := by
  obtain ⟨⟨capacity, events, hasSender, hasReceiver⟩, ⟨capacity', events', hasSender', hears⟩⟩ :=
    channel
  obtain ⟨rfl, rfl⟩ := h
  cases act with
  | send event =>
    cases hasSender with
    | false => exact ⟨rfl, rfl⟩
    | true =>
      by_cases hroom : events.length < capacity <;>
        simp [act, clientAct?, clientPut, Lane.put, hroom, gateway]
  | dropSender => cases hasSender <;> exact ⟨rfl, rfl⟩
  | take | dropReceiver => cases hears <;> exact ⟨rfl, rfl⟩
  | _ => exact ⟨rfl, rfl⟩

/-- A client that connects is answered. -/
theorem accepts (channel : Channel) :
    (start channel).Accepts backend Channel.act gateway channel := by
  refine accepts_of_waits (fun _ channel course => ∃ stage, (stage = .fresh .prepare ∨
    stage = .accepting .connecting) ∧ course = ⟨.create channel, some (.prepare, stage), []⟩)
    ⟨_, .inl rfl, rfl⟩ ?_ ?_ ?_
  · rintro - channel - act ⟨stage, hstage, rfl⟩
    exact ⟨stage, hstage, rfl⟩
  · rintro - channel - ⟨stage, hstage, rfl⟩ ⟨hnone, hsender⟩
    have hpoll : backend.poll .connecting channel = _ := poll_connecting_of_nil hnone hsender
    have hstep : Course.step backend Channel.act ⟨.create channel,
        some (.prepare, Purpose.accepting.stage .connecting), []⟩ .polls = _ :=
      step_polls_of_pending hpoll
    refine ⟨_, .inr rfl, ?_⟩
    -- The first poll gives the order, which is polled at once.
    rcases hstage with rfl | rfl <;> exact hstep
  · rintro - channel - ⟨stage, hstage, rfl⟩ ⟨⟨later, hconnect⟩, hroom⟩
    have hpoll : backend.poll .connecting channel = _ := poll_connecting_of_connect hconnect hroom
    have hdone : Purpose.accepting.conclusion .created (.ok .done) =
      some (.ok .done, .accepted) := rfl
    have hstep : Course.step backend Channel.act ⟨.create channel,
        some (.prepare, Purpose.accepting.stage .connecting), []⟩ .polls = _ :=
      step_polls_of_conclusion hpoll hdone
    refine ⟨(channel.holding later).sent .accept, ?_⟩
    rcases hstage with rfl | rfl <;> exact hstep

end Channel

/-! ### Connections -/

namespace Stream

open Session Course Handshake

/-- The client does something at its end. -/
def act (act : ClientAct) (stream : Stream) : Stream :=
  { stream with duplex := stream.duplex.act act }

/-- A handshake is at most so often polled. A client from which many small pieces come is not waited
for any longer. -/
def maxPolls : Nat := 48

/-- The handshake is a text, which may arrive in pieces. -/
def gateway (client : Client) : Gateway Stream where
  IsOpen stream := stream.duplex.toClient.closed = true → stream.duplex.hasClient = false
  Awaits polls stream :=
    (∃ rest, 0 < rest.size ∧ stream.duplex.toServer.buffer ++ rest = client.head) ∧
      stream.duplex.toServer.closed = false ∧ polls < maxPolls
  Arrived polls stream :=
    stream.duplex.toServer = ⟨client.head, false⟩ ∧
      stream.duplex.HasRoom (response client.key) ∧ polls < maxPolls

theorem isOpen_act (client : Client) (act : ClientAct) (stream : Stream)
    (h : (gateway client).IsOpen stream) : (gateway client).IsOpen (stream.act act) := by
  obtain ⟨⟨toServer, toClient, hasClient⟩, started, messages⟩ := stream
  cases hasClient with
  | false => cases act <;> exact fun _ => rfl
  | true => cases act <;> first | exact fun _ => rfl | exact h

end Stream

/-! ### What has been read -/

/-- A pipe with these bytes still to be read, before all others. -/
def Pipe.unread (received : ByteArray) (pipe : Pipe) : Pipe :=
  { pipe with buffer := received ++ pipe.buffer }

namespace Duplex

/-- The connection as it would be if the server had not read these bytes. -/
def unread (received : ByteArray) (duplex : Duplex) : Duplex :=
  { duplex with toServer := duplex.toServer.unread received }

theorem flushInto_of_closed {pipe : Pipe} (h : pipe.closed = true) (bytes : ByteArray) :
    (flushInto pipe bytes).2 = pipe := by
  simp only [flushInto, Pipe.write, h, if_true]
  split <;> rfl

/-- As much is written as there is room for. -/
theorem flushInto_of_open {pipe : Pipe} (h : pipe.closed = false) (bytes : ByteArray) :
    (flushInto pipe bytes).2 = ⟨pipe.buffer ++
      bytes.extract 0 (min bytes.size (Pipe.capacity - pipe.buffer.size)), false⟩ := by
  obtain ⟨buffer, closed⟩ := pipe
  cases h
  by_cases hempty : bytes.isEmpty = true
  · cases (Payload.isEmpty_iff bytes).mp hempty
    simp [flushInto]
  · simp only [flushInto, hempty, Pipe.write, Bool.false_eq_true, if_false]
    generalize min bytes.size (Pipe.capacity - buffer.size) = count
    by_cases hcount : count = 0
    · simp [hcount]
    · simp only [hcount, if_false]
      split <;> rfl

theorem size_flushInto_le (pipe : Pipe) (bytes : ByteArray) :
    pipe.buffer.size ≤ (flushInto pipe bytes).2.buffer.size := by
  cases h : pipe.closed with
  | true => rw [flushInto_of_closed h]
  | false =>
    rw [flushInto_of_open h, ByteArray.size_append]
    exact Nat.le_add_right _ _

/-- What was read before makes no difference to what is written, as long as there is room. -/
theorem flushInto_unread {pipe : Pipe} {received bytes : ByteArray}
    (h : (flushInto (pipe.unread received) bytes).2.buffer.size < Pipe.capacity) :
    (flushInto (pipe.unread received) bytes).2 = (flushInto pipe bytes).2.unread received := by
  obtain ⟨buffer, closed⟩ := pipe
  cases closed with
  | true => rw [flushInto_of_closed rfl, flushInto_of_closed rfl]
  | false =>
    rw [flushInto_of_open rfl] at h
    simp only [Pipe.unread, ByteArray.size_append, ByteArray.size_extract] at h
    have hall : min bytes.size (Pipe.capacity - (received ++ buffer).size) = bytes.size := by
      rw [ByteArray.size_append]
      omega
    have hall' : min bytes.size (Pipe.capacity - buffer.size) = bytes.size := by omega
    rw [flushInto_of_open rfl, flushInto_of_open rfl]
    simp only [Pipe.unread, hall, hall', ByteArray.append_assoc]

theorem size_act_le (act : ClientAct) (duplex : Duplex) :
    duplex.toServer.buffer.size ≤ (duplex.act act).toServer.buffer.size := by
  obtain ⟨toServer, toClient, hasClient⟩ := duplex
  cases hasClient with
  | false => cases act <;> exact Nat.le_refl _
  | true =>
    cases act with
    | write bytes => exact size_flushInto_le toServer bytes
    | _ => exact Nat.le_refl _

theorem act_unread {act : ClientAct} {duplex : Duplex} {received : ByteArray}
    (h : ((duplex.unread received).act act).toServer.buffer.size < Pipe.capacity) :
    (duplex.unread received).act act = (duplex.act act).unread received := by
  obtain ⟨toServer, toClient, hasClient⟩ := duplex
  cases hasClient with
  | false => cases act <;> rfl
  | true =>
    cases act with
    | write bytes =>
      show (⟨(flushInto (toServer.unread received) bytes).2, toClient, true⟩ : Duplex) = _
      rw [flushInto_unread h]
      rfl
    | _ => rfl

end Duplex

namespace Stream

open Session Course Handshake

/-- The handshake is polled, or is about to be, where the client alone would have left the socket
like this. All that was read of it is a part, and came in few pieces. -/
inductive Waits (client : Client) (polls : Nat) (socket : Stream) : Course Stream Work → Prop where
  | fresh (hstarted : socket.started = false) :
    Waits client polls socket ⟨.create socket, some (.prepare, .fresh .prepare), []⟩
  | reads {stream : Stream} {progress : Progress}
    (hduplex : socket.duplex = stream.duplex.unread progress.received)
    (hpieces : progress.pieces ≤ polls + progress.received.size / greetingSize)
    (hpart : progress.received.size < client.head.size) :
    Waits client polls socket
      ⟨.create stream, some (.prepare, Purpose.accepting.stage (.greeting progress)), []⟩

variable {client : Client} {polls : Nat} {socket : Stream} {course : Course Stream Work}

theorem Waits.outside (h : Waits client polls socket course) {act : ClientAct}
    (hsize : (socket.act act).duplex.toServer.buffer.size < Pipe.capacity) :
    Waits client polls (socket.act act) (course.step backend Stream.act (.outside act)) := by
  cases h with
  | fresh hstarted => exact .fresh hstarted
  | @reads stream progress hduplex hpieces hpart =>
    refine .reads ?_ hpieces hpart
    simp only [Stream.act, hduplex] at hsize ⊢
    exact Duplex.act_unread hsize

/-- What is polled is a handshake, some of which may have been read. -/
theorem Waits.exists_greeting (h : Waits client polls socket course) :
    ∃ (stream : Stream) (progress : Progress),
      Waits client polls socket
        ⟨.create stream, some (.prepare, Purpose.accepting.stage (.greeting progress)), []⟩ ∧
      course.step backend Stream.act .polls =
        Course.step backend Stream.act
          ⟨.create stream, some (.prepare, Purpose.accepting.stage (.greeting progress)), []⟩
          .polls := by
  cases h with
  | @fresh hstarted =>
    -- The first poll starts the handshake, of which nothing has been read yet.
    refine ⟨{ socket with started := true }, .start, .reads ?_ (Nat.zero_le _)
      client.opens.size_pos, ?_⟩
    · simp [Duplex.unread, Pipe.unread, Progress.start]
    · have hopening : Action.prepare.opening .created = (.inr .accept, .created) := rfl
      obtain ⟨duplex, started, messages⟩ := socket
      cases hstarted
      exact step_polls_of_inr hopening
  | @reads stream progress hduplex hpieces hpart =>
    exact ⟨stream, progress, .reads hduplex hpieces hpart, rfl⟩

/-- What has been read and what has arrived since do not come in too many pieces together. -/
theorem few_pieces {stream : Stream} {progress : Progress} {rest : ByteArray}
    (hhead : progress.received ++ stream.duplex.toServer.buffer ++ rest = client.head)
    (hpolls : polls < maxPolls)
    (hpieces : progress.pieces ≤ polls + progress.received.size / greetingSize) :
    progress.pieces + stream.duplex.toServer.buffer.size / greetingSize < 64 := by
  have hsize := client.opens.size_le
  rw [← hhead, ByteArray.size_append, ByteArray.size_append, maxReceived] at hsize
  simp only [maxPolls, greetingSize] at hpolls hpieces ⊢
  omega

theorem Waits.awaits (h : Waits client polls socket course)
    (hawaits : (gateway client).Awaits polls socket) :
    Waits client (polls + 1) socket (course.step backend Stream.act .polls) := by
  obtain ⟨stream, progress, hgreeting, hstep⟩ := h.exists_greeting
  obtain ⟨⟨rest, hrest, hhead⟩, hclosed, hpolls⟩ := hawaits
  rw [hstep]
  cases hgreeting with
  | reads hduplex hpieces hpart =>
    rw [hduplex] at hhead hclosed
    obtain ⟨count, hcount, hpoll⟩ := exists_pollGreeting_of_rest client.opens hhead hrest hclosed
      (few_pieces hhead hpolls hpieces) (Nat.lt_succ_of_lt (Nat.lt_succ_self _))
    have hpoll : backend.poll (.greeting progress) stream = _ := hpoll
    have hsize := congrArg ByteArray.size hhead
    simp only [ByteArray.size_append, Duplex.unread, Pipe.unread] at hsize
    simp only [greetingSize] at hpieces hcount
    rw [create, step_polls_of_pending hpoll]
    refine .reads ?_ ?_ ?_
    · simp [hduplex, Duplex.unread, Pipe.unread, emptied]
    · simp only [ByteArray.size_append, greetingSize]
      omega
    · rw [ByteArray.size_append]
      omega

theorem Waits.arrives (h : Waits client polls socket course)
    (harrived : (gateway client).Arrived polls socket) :
    ∃ stream, course.step backend Stream.act .polls =
      ⟨⟨stream, .accepted⟩, none, [(.prepare, some (.ok .done))]⟩ := by
  obtain ⟨stream, progress, hgreeting, hstep⟩ := h.exists_greeting
  obtain ⟨hhead, hroom, hpolls⟩ := harrived
  rw [hstep]
  cases hgreeting with
  | reads hduplex hpieces hpart =>
    rw [hduplex] at hhead hroom
    have hbytes := congrArg Pipe.buffer hhead
    have hsome := congrArg ByteArray.size hbytes
    simp only [ByteArray.size_append, Duplex.unread, Pipe.unread] at hbytes hsome
    have hpoll : backend.poll (.greeting progress) stream = _ :=
      poll_greeting_of_rest client.opens hbytes (by omega)
        (few_pieces (by rw [hbytes, ByteArray.append_empty]) hpolls hpieces)
        (congrArg Pipe.closed hhead) ⟨hroom.closed, hroom.size_le⟩
    have hdone : Purpose.accepting.conclusion .created (.ok .done) =
      some (.ok .done, .accepted) := rfl
    exact ⟨_, step_polls_of_conclusion hpoll hdone⟩

/-- A client whose handshake arrives is answered. -/
theorem accepts (client : Client) (hstarted : socket.started = false) :
    (Course.start socket).Accepts backend Stream.act (gateway client) socket := by
  -- What cannot be a handshake any more because it is too long may get lost in the connection.
  refine accepts_of_waits (fun polls socket course =>
    socket.duplex.toServer.buffer.size ≤ maxReceived → Waits client polls socket course)
    (fun _ => .fresh hstarted) ?_ ?_ ?_
  · intro polls socket course act hwaits hsize
    refine (hwaits ((Duplex.size_act_le act socket.duplex).trans hsize)).outside
      (Nat.lt_of_le_of_lt hsize ?_)
    decide
  · intro polls socket course hwaits hawaits _
    obtain ⟨⟨rest, -, hhead⟩, -⟩ := id hawaits
    have hsize := client.opens.size_le
    rw [← hhead, ByteArray.size_append] at hsize
    exact (hwaits (Nat.le_of_add_right_le hsize)).awaits hawaits
  · intro polls socket course hwaits harrived
    refine (hwaits ?_).arrives harrived
    rw [harrived.1]
    exact client.opens.size_le

end Stream

end Inbound.WebSocket
