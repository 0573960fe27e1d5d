import Inbound.Async.Poll
import Inbound.WebSocket.Basic

/-!
# Socket backends

A backend carries out the operations of a session on one family of sockets. An operation is
begun, polled until it is ready, or abandoned.
-/

namespace Inbound.WebSocket

/-- What a session asks of its backend. -/
inductive Order where
  /-- Complete the opening handshake. -/
  | accept
  /-- Send a text. -/
  | send (content : String)
  /-- Wait for a message. -/
  | receive
  /-- Start or complete the closing handshake. -/
  | close
  deriving DecidableEq, Repr

/-- What a backend answers: for `receive` a message, or none if the peer has left. -/
inductive Reply where
  | done
  | message (message : Option Message)

/-- A family of sockets: `σ` is a socket and `κ` an operation in progress. -/
structure Backend (σ κ : Type) where
  /-- Begins an operation. -/
  start : Order → σ → κ × σ
  /-- Polls an operation. -/
  poll : κ → σ → Poll (Except Error Reply) × κ × σ
  /-- Abandons an operation that was not ready. -/
  abandon : κ → σ → σ

end Inbound.WebSocket
