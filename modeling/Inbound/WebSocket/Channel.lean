import Inbound.WebSocket.Session

/-!
# Event channels

A transport that frames messages itself exchanges events with the server over two bounded
channels, one in each direction. A channel has a sending and a receiving end, and each end knows
whether the other one is gone.
-/

namespace Inbound.WebSocket

/-- What passes through an event channel. -/
inductive Event where
  /-- The client wants to open a session. -/
  | connect
  /-- The server has accepted. -/
  | accept
  | text (content : String)
  | binary (bytes : ByteArray)
  /-- The client went away. -/
  | disconnect (code : Nat)
  /-- The server has ended the session. -/
  | close (code : Nat)

/-- The code of an ordinary end. -/
def normalClosure : Nat := 1000

/-- The event as a diagnostic shows it. -/
def Event.describe : Event → String
  | .connect => "Connect"
  | .accept => "Accept"
  | .text content => "Text(" ++ Text.quote content ++ ")"
  | .binary bytes => "Binary(" ++ Text.quoteBytes bytes ++ ")"
  | .disconnect code => "Disconnect \x7b code: " ++ toString code ++ " \x7d"
  | .close code => "Close \x7b code: " ++ toString code ++ " \x7d"

/-- A bounded channel in one direction. -/
structure Lane where
  /-- How many events it holds. -/
  capacity : Nat
  /-- The events in it, the oldest first. -/
  events : List Event
  /-- The sending end is there. -/
  hasSender : Bool
  /-- The receiving end is there. -/
  hasReceiver : Bool

namespace Lane

/-- A lane without events. -/
def ofCapacity (capacity : Nat) : Lane := ⟨capacity, [], true, true⟩

/-- What becomes of an event that is to be put on a lane. -/
inductive Put where
  | sent (lane : Lane)
  | full
  | gone

/-- Puts an event on the lane. -/
def put (lane : Lane) (event : Event) : Put :=
  if !lane.hasReceiver then .gone
  else if lane.events.length < lane.capacity then
    .sent { lane with events := lane.events ++ [event] }
  else .full

/-- The sending end goes away. -/
def dropSender (lane : Lane) : Lane := { lane with hasSender := false }

/-- The receiving end goes away, and the events with it. -/
def dropReceiver (lane : Lane) : Lane := { lane with hasReceiver := false, events := [] }

/-- Takes up to so many events. -/
def take (lane : Lane) (count : Nat) : List Event × Lane :=
  (lane.events.take count, { lane with events := lane.events.drop count })

end Lane

/-- The two lanes between a client and a server. -/
structure Channel where
  /-- From the client to the server. -/
  incoming : Lane
  /-- From the server to the client. -/
  outgoing : Lane

namespace Channel

/-- Lanes of these capacities. -/
def ofCapacities (incoming outgoing : Nat) : Channel :=
  ⟨.ofCapacity incoming, .ofCapacity outgoing⟩

/-- The server's ends go away. -/
def dropServer (channel : Channel) : Channel :=
  ⟨channel.incoming.dropReceiver, channel.outgoing.dropSender⟩

/-- An operation of the server in progress. -/
inductive Work where
  /-- It waits for the client to connect. -/
  | connecting
  /-- It waits for room for an event. -/
  | emitting (event : Event)
  /-- It waits for room for the closing event, which may also get lost. -/
  | closing
  /-- It waits for a message. -/
  | receiving

/-- Puts an event on the outgoing lane. -/
def emit (channel : Channel) (event : Event) : Poll (Except Error Reply) × Work × Channel :=
  match channel.outgoing.put event with
  | .sent outgoing => (.ready (.ok .done), .emitting event, { channel with outgoing })
  | .full => (.pending, .emitting event, channel)
  | .gone => (.ready (.error .closed), .emitting event, channel)

/-- The first message among events, or none if the client leaves before it; and the events behind
it. The other way round, there may be nothing to go by yet. -/
def firstMessage (hasSender : Bool) : List Event → Poll (Option Message) × List Event
  | [] => if hasSender then (.pending, []) else (.ready none, [])
  | .text content :: rest => (.ready (some (.text content)), rest)
  | .binary bytes :: rest => (.ready (some (.binary bytes)), rest)
  | .disconnect _ :: rest => (.ready none, rest)
  | _ :: rest => firstMessage hasSender rest

/-- Polls an operation. -/
def poll (work : Work) (channel : Channel) : Poll (Except Error Reply) × Work × Channel :=
  match work with
  | .connecting =>
    match channel.incoming.events with
    | [] =>
      if channel.incoming.hasSender then (.pending, work, channel)
      else (.ready (.error .closed), work, channel)
    | event :: events =>
      let channel := { channel with incoming := { channel.incoming with events } }
      match event with
      | .connect => channel.emit .accept
      | .disconnect _ => (.ready (.error .closed), work, channel)
      | event =>
        let cause := "expected a connect event, got " ++ event.describe
        (.ready (.error (.handshake (some cause))), work, channel)
  | .emitting event => channel.emit event
  | .closing =>
    match channel.outgoing.put (.close normalClosure) with
    | .sent outgoing => (.ready (.ok .done), work, { channel with outgoing })
    | .full => (.pending, work, channel)
    -- Nobody listens any more, so nobody has to be told.
    | .gone => (.ready (.ok .done), work, channel)
  | .receiving =>
    let (found, events) := firstMessage channel.incoming.hasSender channel.incoming.events
    let channel := { channel with incoming := { channel.incoming with events } }
    (found.map fun message => .ok (.message message), work, channel)

/-- Event channels as sockets. An operation that is abandoned has not put its event on the
lane. -/
def backend : Backend Channel Work where
  start order channel :=
    match order with
    | .accept => (.connecting, channel)
    | .send text => (.emitting (.text text), channel)
    | .receive => (.receiving, channel)
    | .close => (.closing, channel)
  poll := poll
  abandon _ channel := channel

/-! ### The client's ends -/

/-- What the client finds on the outgoing lane behind the events that it took. -/
inductive Remainder where
  /-- There is nothing yet. -/
  | empty
  /-- There is nothing any more. -/
  | disconnected
  /-- There may be more. -/
  | more

/-- The name of what the client finds. -/
def Remainder.name : Remainder → String
  | .empty => "empty"
  | .disconnected => "disconnected"
  | .more => "more"

/-- The client puts an event on the incoming lane. -/
def clientPut (channel : Channel) (event : Event) : Lane.Put × Channel :=
  match channel.incoming.put event with
  | .sent incoming => (.sent incoming, { channel with incoming })
  | result => (result, channel)

/-- The client takes up to so many events from the outgoing lane. -/
def clientTake (channel : Channel) (count : Nat) : List Event × Remainder × Channel :=
  let (events, outgoing) := channel.outgoing.take count
  let remainder : Remainder :=
    if count ≤ events.length then .more
    else if outgoing.hasSender then .empty
    else .disconnected
  (events, remainder, { channel with outgoing })

/-- The client drops its sending end. -/
def clientDropSender (channel : Channel) : Channel :=
  { channel with incoming := channel.incoming.dropSender }

/-- The client drops its receiving end. -/
def clientDropReceiver (channel : Channel) : Channel :=
  { channel with outgoing := channel.outgoing.dropReceiver }

end Channel

end Inbound.WebSocket
