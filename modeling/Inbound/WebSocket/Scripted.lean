import Inbound.WebSocket.Session

/-!
# Scripted sockets

A socket whose answers are laid down beforehand, each at once, for trying out what a session makes
of them. It keeps a list of what it was asked for. Where the script is at its end everything
succeeds, and the peer has left.
-/

namespace Inbound.WebSocket

/-- The answers that are still to be given, and what was asked for so far. -/
structure Script where
  /-- Whether the handshakes fail, and how. -/
  accepts : List (Option Error)
  /-- Whether the texts cannot be sent, and why. -/
  sends : List (Option Error)
  /-- What arrives: messages, the end, or failures. -/
  receives : List (Except Error (Option Message))
  /-- Whether the closes fail, and how. -/
  closes : List (Option Error)
  /-- What was asked for, in order. -/
  asked : List Order

namespace Script

/-- An answer to something that can only succeed or fail. -/
def answer (failures : List (Option Error)) : Except Error Reply :=
  match failures.head?.join with
  | some error => .error error
  | none => .ok .done

/-- Notes what is asked for, and gives the next answer to it. -/
def ask (order : Order) (script : Script) : Except Error Reply × Script :=
  let script := { script with asked := script.asked ++ [order] }
  match order with
  | .accept => (answer script.accepts, { script with accepts := script.accepts.tail })
  | .send _ => (answer script.sends, { script with sends := script.sends.tail })
  | .receive =>
    let reply : Except Error Reply :=
      match script.receives with
      | [] => .ok (.message none)
      | received :: _ => received.map .message
    (reply, { script with receives := script.receives.tail })
  | .close => (answer script.closes, { script with closes := script.closes.tail })

/-- Scripts as sockets. -/
def backend : Backend Script (Except Error Reply) where
  start := ask
  poll reply script := (.ready reply, reply, script)
  abandon _ script := script

end Script

end Inbound.WebSocket
