import Inbound.Proofs.WebSocket.Spacious

/-!
# Both kinds of sockets at once

One handler does the same with two sessions, one over a connection and one over event channels, and
one client does the same at the other ends: it asks for a session with its handshake, says what it
has to say, listens and goes away. What can be told apart is what the handler is answered, the phase
of its session, and what the client hears.

## Main definitions

* `Sides.run`: what becomes of fresh sockets;
* `Sides.LookAlike`: handler and client cannot tell the sessions apart;
* `Sides.Fair`: the client keeps to the protocol, and the transports have room;
* `Sides.Retries`: a handshake is tried again after one was dropped while it waited.
-/

namespace Inbound.WebSocket

/-! ### The client of both sockets -/

/-- A client, by the handshake with which it opens a session over a connection. -/
structure Client where
  /-- The head of its request. -/
  head : ByteArray
  /-- The key in it. -/
  key : ByteArray
  opens : Handshake.Opens head key

/-- What a client does at a time. Its handshake and each of its frames are written at once. -/
inductive Move where
  /-- It asks for a session. -/
  | opens
  /-- It says something. -/
  | tells (utterance : Utterance) (mask : Mask)
  /-- It takes all that has arrived. -/
  | listens
  /-- It goes away. -/
  | departs
  deriving DecidableEq

/-- The client does something at its end of a connection, if it can. -/
def Duplex.act (act : ClientAct) (duplex : Duplex) : Duplex :=
  ((duplex.clientAct? act).map (·.2)).getD duplex

/-- The bytes that the client reads. -/
def Duplex.reads (duplex : Duplex) : ByteArray :=
  match duplex.clientAct? .read with
  | some (.bytes bytes _, _) => bytes
  | _ => .empty

/-- The client asks for a session. -/
def Move.isOpening : Move → Bool
  | .opens => true
  | .tells .. | .listens | .departs => false

/-- What the client does, at its end of a connection. -/
def Move.onStream (client : Client) (move : Move) (stream : Stream) : Stream :=
  let act : ClientAct :=
    match move with
    | .opens => .write client.head
    | .tells utterance mask => .write (utterance.frame mask)
    | .listens => .read
    | .departs => .leave
  { stream with duplex := stream.duplex.act act }

/-- The same at its ends of the event channels. -/
def Move.onChannel (move : Move) (channel : Channel) : Channel :=
  match move with
  | .opens => channel.act (.send .connect)
  | .tells utterance _ => channel.act (.send utterance.event)
  | .listens => channel.act (.take channel.outgoing.events.length)
  | .departs => (channel.act .dropSender).act .dropReceiver

/-- What a client can hear. -/
inductive Item where
  /-- The session is opened. -/
  | accept
  | text (content : String)
  /-- The server ends the session, where the payload of the close frame may differ. -/
  | close (payload : ByteArray)

namespace Item

/-- The event that it is where the transport frames messages itself. -/
def event : Item → Event
  | .accept => .accept
  | .text content => .text content
  | .close _ => .close normalClosure

/-- The bytes that it is on a connection, for a client with this key. -/
def bytes (key : ByteArray) : Item → ByteArray
  | .accept => Handshake.response key
  | .text content => serverFrame .text content.toUTF8
  | .close payload => serverFrame .close payload

/-- The bytes of all that a client hears, one thing behind the other. -/
def spell (key : ByteArray) (items : List Item) : ByteArray :=
  items.foldr (fun item rest => item.bytes key ++ rest) .empty

@[simp]
theorem spell_nil (key : ByteArray) : spell key [] = .empty := rfl

theorem spell_append (key : ByteArray) (items later : List Item) :
    spell key (items ++ later) = spell key items ++ spell key later := by
  induction items with
  | nil => exact ByteArray.empty_append.symm
  | cons item items ih =>
    show item.bytes key ++ spell key (items ++ later) = _
    rw [ih, ← ByteArray.append_assoc]
    rfl

end Item

/-- What a client hears until a session is in some phase: nothing, or that the session is opened and
then texts, and that it is closed once it is. -/
inductive Orderly : Phase → List Item → Prop where
  | silent {phase : Phase} (hphase : phase ≠ .accepted) : Orderly phase []
  | speaking (texts : List String) : Orderly .accepted (.accept :: texts.map .text)
  | closed (texts : List String) (payload : ByteArray) :
    Orderly .closed (.accept :: texts.map .text ++ [.close payload])

namespace Orderly

variable {items : List Item}

theorem assoc {phase : Phase} {heard coming later : List Item}
    (h : Orderly phase (heard ++ coming ++ later)) :
    Orderly phase (heard ++ (coming ++ later)) := by
  rwa [List.append_assoc] at h

/-- A session may be closed that was never opened. -/
theorem ends (h : Orderly .created items) : Orderly .closed items := by
  cases h
  exact .silent (by simp)

theorem accept (h : Orderly .created items) : Orderly .accepted (items ++ [.accept]) := by
  cases h
  exact .speaking []

theorem text (h : Orderly .accepted items) (content : String) :
    Orderly .accepted (items ++ [.text content]) := by
  cases h with
  | silent hphase => exact absurd rfl hphase
  | speaking texts =>
    have hmore := speaking (texts ++ [content])
    rwa [List.map_append, ← List.cons_append] at hmore

theorem close (h : Orderly .accepted items) (payload : ByteArray) :
    Orderly .closed (items ++ [.close payload]) := by
  cases h with
  | silent hphase => exact absurd rfl hphase
  | speaking texts => exact .closed texts payload

end Orderly

/-! ### Both sessions -/

/-- The courses of two sessions, and what their client has heard of either. -/
structure Sides where
  /-- The session over a connection. -/
  stream : Course Stream Stream.Work
  /-- The session over event channels. -/
  channel : Course Channel Channel.Work
  /-- The bytes that the client has read. -/
  bytes : ByteArray
  /-- The events that it has taken. -/
  events : List Event

namespace Sides

open Session Course

/-- Fresh sockets, one of which has channels with these capacities. -/
def start (incoming outgoing : Nat) : Sides :=
  ⟨.start .fresh, .start (.ofCapacities incoming outgoing), .empty, []⟩

/-- What the client hears next, of either session. -/
def heard (sides : Sides) : Step Move → ByteArray × List Event
  | .outside .listens =>
    let channel := sides.channel.session.socket
    (sides.stream.session.socket.duplex.reads, channel.takes (.take channel.outgoing.events.length))
  | _ => (.empty, [])

/-- The same happens to both sessions. -/
def step (client : Client) (sides : Sides) (next : Step Move) : Sides where
  stream := sides.stream.step Stream.backend (Move.onStream client) next
  channel := sides.channel.step Channel.backend Move.onChannel next
  bytes := sides.bytes ++ (sides.heard next).1
  events := sides.events ++ (sides.heard next).2

/-- What becomes of fresh sockets. -/
def run (client : Client) (incoming outgoing : Nat) (steps : List (Step Move)) : Sides :=
  steps.foldl (step client) (start incoming outgoing)

/-- What the client has heard, and what is on its way to it, on a connection and a lane. If it has
gone away, it does not matter what is on its way. -/
structure Hears (client : Client) (heard coming : List Item) (duplex : Duplex) (lane : Lane)
    (bytes : ByteArray) (events : List Event) : Prop where
  bytes : bytes = Item.spell client.key heard
  events : events = heard.map Item.event
  hasClient : duplex.hasClient = lane.hasReceiver
  buffer : duplex.hasClient = true → duplex.toClient.buffer = Item.spell client.key coming
  lane : lane.hasReceiver = true → lane.events = coming.map Item.event

/-- Handler and client cannot tell the sessions apart: the handler was given the same answers and is
in the middle of the same action, the sessions are in the same phase, and the client has heard the
same and will hear the same. -/
structure LookAlike (client : Client) (sides : Sides) : Prop where
  past : sides.stream.past = sides.channel.past
  current : sides.stream.current.map (·.1) = sides.channel.current.map (·.1)
  phase : sides.stream.session.phase = sides.channel.session.phase
  hears : ∃ heard coming, Orderly sides.stream.session.phase (heard ++ coming) ∧
    Hears client heard coming sides.stream.session.socket.duplex
      sides.channel.session.socket.outgoing sides.bytes sides.events

/-- How many bytes an action may send. -/
def needs (client : Client) : Action → Nat
  | .prepare => (Handshake.response client.key).size
  | .send text => (serverFrame .text text.toUTF8).size
  | .next | .close => Wire.maxControl + 2

/-- The transports have room for what happens next. -/
def HasRoom (client : Client) (sides : Sides) : Step Move → Prop
  | .polls => ∀ action stage, sides.channel.current = some (action, stage) →
    sides.channel.session.socket.outgoing.events.length <
        sides.channel.session.socket.outgoing.capacity ∧
      sides.stream.session.socket.duplex.toClient.buffer.size + needs client action ≤ Pipe.capacity
  | .outside .opens =>
    sides.channel.session.socket.incoming.events.length <
      sides.channel.session.socket.incoming.capacity
  | .outside (.tells utterance mask) =>
    sides.channel.session.socket.incoming.events.length <
        sides.channel.session.socket.incoming.capacity ∧
      sides.stream.session.socket.duplex.toServer.buffer.size + (utterance.frame mask).size ≤
        Pipe.capacity
  | _ => True

/-- The client keeps to the protocol: it asks for a session once, says nothing before the session is
opened, and goes away only after the session is closed. -/
def Permits (sides : Sides) (before : List (Step Move)) : Step Move → Prop
  | .outside .opens => .outside .opens ∉ before
  | .outside (.tells ..) => sides.channel.session.phase ≠ .created
  | .outside .departs => sides.channel.session.phase = .closed
  | _ => True

instance (client : Client) (sides : Sides) (next : Step Move) :
    Decidable (sides.HasRoom client next) :=
  match next with
  | .polls =>
    match hcurrent : sides.channel.current with
    | none => .isTrue (by simp [HasRoom, hcurrent])
    | some (action, _) =>
      decidable_of_iff (sides.channel.session.socket.outgoing.events.length <
          sides.channel.session.socket.outgoing.capacity ∧
        sides.stream.session.socket.duplex.toClient.buffer.size + needs client action ≤
          Pipe.capacity) (by simp [HasRoom, hcurrent])
  | .outside .opens => inferInstanceAs (Decidable (_ < _))
  | .outside (.tells ..) => inferInstanceAs (Decidable (_ ∧ _))
  | .outside .listens | .outside .departs | .begins _ | .drops => inferInstanceAs (Decidable True)

instance (sides : Sides) (before : List (Step Move)) (next : Step Move) :
    Decidable (sides.Permits before next) :=
  match next with
  | .outside .opens => inferInstanceAs (Decidable (_ ∉ before))
  | .outside (.tells ..) => inferInstanceAs (Decidable (_ ≠ _))
  | .outside .departs => inferInstanceAs (Decidable (_ = _))
  | .outside .listens | .begins _ | .polls | .drops => inferInstanceAs (Decidable True)

/-- The client keeps to the protocol in all steps, and the transports have room. -/
def Fair (client : Client) (incoming outgoing : Nat) (steps : List (Step Move)) : Prop :=
  ∀ before next, before ++ [next] <+: steps →
    (run client incoming outgoing before).Permits before next ∧
      (run client incoming outgoing before).HasRoom client next

/-- Whether it is so can be seen from one step after the other. -/
theorem fair_iff {client : Client} {incoming outgoing : Nat} {steps : List (Step Move)} :
    Fair client incoming outgoing steps ↔ ∀ n : Fin steps.length,
      (run client incoming outgoing (steps.take n)).Permits (steps.take n) steps[n] ∧
        (run client incoming outgoing (steps.take n)).HasRoom client steps[n] := by
  constructor
  · intro h n
    refine h _ _ ?_
    rw [Fin.getElem_fin, List.take_append_getElem]
    exact List.take_prefix _ _
  · rintro h before next ⟨later, rfl⟩
    simpa using h ⟨before.length, by simp⟩

instance (client : Client) (incoming outgoing : Nat) (steps : List (Step Move)) :
    Decidable (Fair client incoming outgoing steps) :=
  decidable_of_iff _ fair_iff.symm

/-- The handler waits for the handshake. -/
def IsGreeting (sides : Sides) : Prop := ∃ work, sides.channel.order? = some (.accepting, work)

/-- The handler waited for the handshake at some time, and dropped that. -/
def HasGivenUp (client : Client) (incoming outgoing : Nat) (steps : List (Step Move)) : Prop :=
  ∃ before, before ++ [.drops] <+: steps ∧ (run client incoming outgoing before).IsGreeting

/-- A handshake is about to be tried. -/
def IsPreparing (sides : Sides) : Prop :=
  sides.channel.session.phase = .created ∧
    sides.channel.current = some (.prepare, .fresh .prepare)

/-- The handler waited for the handshake, dropped that, and tries it again. -/
def Retries (client : Client) (incoming outgoing : Nat) (steps : List (Step Move)) : Prop :=
  ∃ before, before ++ [.polls] <+: steps ∧ HasGivenUp client incoming outgoing before ∧
    (run client incoming outgoing before).IsPreparing

end Sides

end Inbound.WebSocket
