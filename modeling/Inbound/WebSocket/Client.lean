import Inbound.WebSocket.Socket

/-!
# Clients

What the client at the other end of a socket can do: on event channels it sends and takes events,
on a connection it writes and reads bytes. An end that it has dropped is of no more use.
-/

namespace Inbound.WebSocket

/-- What a client does. -/
inductive ClientAct where
  /-- It sends an event. -/
  | send (event : Event)
  /-- It takes up to so many events. -/
  | take (count : Nat)
  /-- It drops the end of the channel that it sends on. -/
  | dropSender
  /-- It drops the end of the channel that it receives on. -/
  | dropReceiver
  /-- It writes bytes. -/
  | write (bytes : ByteArray)
  /-- It reads all there is. -/
  | read
  /-- It announces that it writes no more. -/
  | shutDown
  /-- It goes away. -/
  | leave

/-- What comes of it. -/
inductive ClientResult where
  | sent (put : Lane.Put)
  | taken (events : List Event) (remainder : Channel.Remainder)
  | written (flushed : Duplex.Flushed)
  /-- These bytes were there, and there can be more or not. -/
  | bytes (bytes : ByteArray) (isOpen : Bool)
  | done

/-- What a client does on event channels, if it has the end for it. It may drop an end more than
once. -/
def Channel.clientAct? (channel : Channel) : ClientAct → Option (ClientResult × Channel)
  | .send event =>
    if !channel.incoming.hasSender then none
    else
      let (put, channel) := channel.clientPut event
      some (.sent put, channel)
  | .take count =>
    if !channel.outgoing.hasReceiver then none
    else
      let (events, remainder, channel) := channel.clientTake count
      some (.taken events remainder, channel)
  | .dropSender =>
    some (.done, if channel.incoming.hasSender then channel.clientDropSender else channel)
  | .dropReceiver =>
    some (.done, if channel.outgoing.hasReceiver then channel.clientDropReceiver else channel)
  | _ => none

/-- What a client does on a connection, if it is there. It may go away more than once. -/
def Duplex.clientAct? (duplex : Duplex) (act : ClientAct) : Option (ClientResult × Duplex) :=
  match act, duplex.hasClient with
  | .leave, true => some (.done, duplex.dropClient)
  | .leave, false => some (.done, duplex)
  | .write bytes, true =>
    let (flushed, duplex) := duplex.clientWrite bytes
    some (.written flushed, duplex)
  | .read, true =>
    let (bytes, isOpen, duplex) := duplex.clientRead
    some (.bytes bytes isOpen, duplex)
  | .shutDown, true => some (.done, duplex.clientShutdown)
  | _, _ => none

/-- What a client does at the other end of a socket, if it can. -/
def Socket.clientAct? (socket : Socket) (act : ClientAct) : Option (ClientResult × Socket) :=
  match socket with
  | .channel session =>
    (session.socket.clientAct? act).map fun outcome =>
      (outcome.1, .channel { session with socket := outcome.2 })
  | .stream session =>
    (session.socket.duplex.clientAct? act).map fun outcome =>
      (outcome.1, .stream { session with socket := { session.socket with duplex := outcome.2 } })
  | .scripted _ => none

end Inbound.WebSocket
