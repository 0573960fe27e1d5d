import Inbound.Text.Quoted

/-!
# WebSocket messages and errors

What a WebSocket session delivers, and why it may not.
-/

namespace Inbound.WebSocket

/-- A message from the peer. -/
inductive Message where
  | text (content : String)
  | binary (bytes : ByteArray)

instance : DecidableEq Message
  | .text a, .text b => decidable_of_iff (a = b) ⟨congrArg Message.text, Message.text.inj⟩
  | .binary a, .binary b =>
    decidable_of_iff (a.data = b.data) ⟨fun h => congrArg Message.binary (ByteArray.ext h),
      fun h => congrArg ByteArray.data (Message.binary.inj h)⟩
  | .text _, .binary _ | .binary _, .text _ => isFalse nofun

/-- The message as text, if it is one. -/
def Message.asText? : Message → Option String
  | .text content => some content
  | .binary _ => none

/-- Why a session cannot do what is asked for. The cause of a failure on the wire has no words. -/
inductive Error where
  /-- The request came without a socket. -/
  | unavailable
  /-- The socket has been claimed before. -/
  | taken
  /-- The session has not been accepted. -/
  | notAccepted
  /-- The session is closed. -/
  | closed
  /-- The opening handshake failed. -/
  | handshake (cause : Option String)
  /-- The transport failed. -/
  | transport (cause : Option String)
  deriving DecidableEq, Repr

/-- The error in words, if its cause has words. -/
def Error.message : Error → Option String
  | .unavailable => some "request has no websocket transport"
  | .taken => some "websocket transport was already taken"
  | .notAccepted => some "websocket has not been accepted"
  | .closed => some "websocket is closed"
  | .handshake cause => cause.map ("websocket handshake failed: " ++ ·)
  | .transport cause => cause.map ("websocket transport error: " ++ ·)

/-- The stages of a session. -/
inductive Phase where
  /-- The handshake is still to come. -/
  | created
  /-- The handshake is done. -/
  | accepted
  /-- The session is over. -/
  | closed
  deriving DecidableEq, Repr, Inhabited

/-- The name of the stage. -/
def Phase.name : Phase → String
  | .created => "created"
  | .accepted => "accepted"
  | .closed => "closed"

/-- The stage as a diagnostic shows it. -/
def Phase.describe : Phase → String
  | .created => "Created"
  | .accepted => "Accepted"
  | .closed => "Closed"

end Inbound.WebSocket
