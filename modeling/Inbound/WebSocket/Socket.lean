import Inbound.WebSocket.Channel
import Inbound.WebSocket.Scripted
import Inbound.WebSocket.Stream

/-!
# Sockets

The socket that comes with a request is of one of two kinds, depending on the transport. Once it
is claimed, a session runs over it. A third kind is for trying out sessions.
-/

namespace Inbound.WebSocket

/-- A socket with the session over it. -/
inductive Socket where
  /-- The transport frames messages itself. -/
  | channel (session : Session Channel)
  /-- The transport hands over a raw connection. -/
  | stream (session : Session Stream)
  /-- The answers are laid down beforehand. -/
  | scripted (session : Session Script)

namespace Socket

/-- A socket over event channels of these capacities. -/
def ofCapacities (incoming outgoing : Nat) : Socket :=
  .channel (.create (.ofCapacities incoming outgoing))

/-- A socket over a fresh connection. -/
def ofStream : Socket := .stream (.create .fresh)

/-- A socket with these answers. -/
def ofScript (script : Script) : Socket := .scripted (.create script)

instance : Inhabited Socket := ⟨ofStream⟩

/-- The stage of the session. -/
def phase : Socket → Phase
  | .channel session => session.phase
  | .stream session => session.phase
  | .scripted session => session.phase

/-- Performs an action if it can be done within so many polls. -/
def drive (socket : Socket) (action : Session.Action) (polls : Nat) :
    Poll (Except Error Session.Answer) × Socket :=
  match socket with
  | .channel session =>
    let (answer, session) := session.drive Channel.backend action polls
    (answer, .channel session)
  | .stream session =>
    let (answer, session) := session.drive Stream.backend action polls
    (answer, .stream session)
  | .scripted session =>
    let (answer, session) := session.drive Script.backend action polls
    (answer, .scripted session)

/-- Performs an order without regard to the session, if it can be done within so many polls. -/
def driveBare (socket : Socket) (order : Order) (polls : Nat) :
    Poll (Except Error Reply) × Socket :=
  match socket with
  | .channel session =>
    let (reply, socket) := Channel.backend.drive session.socket order polls
    (reply, .channel { session with socket })
  | .stream session =>
    let (reply, socket) := Stream.backend.drive session.socket order polls
    (reply, .stream { session with socket })
  | .scripted session =>
    let (reply, socket) := Script.backend.drive session.socket order polls
    (reply, .scripted { session with socket })

/-- Takes up to so many messages, each within so many polls. -/
def collect (socket : Socket) (polls count : Nat) :
    List (Except Error Message) × Session.Tail × Socket :=
  match socket with
  | .channel session =>
    let (items, tail, session) := session.collect Channel.backend polls count
    (items, tail, .channel session)
  | .stream session =>
    let (items, tail, session) := session.collect Stream.backend polls count
    (items, tail, .stream session)
  | .scripted session =>
    let (items, tail, session) := session.collect Script.backend polls count
    (items, tail, .scripted session)

/-- The server lets go of the socket. -/
def dropServer : Socket → Socket
  | .channel session => .channel { session with socket := session.socket.dropServer }
  | .stream session => .stream { session with socket := session.socket.dropServer }
  | .scripted session => .scripted session

/-- What a scripted socket was asked for so far. -/
def asked : Socket → List Order
  | .scripted session => session.socket.asked
  | _ => []

end Socket

end Inbound.WebSocket
