import Inbound.WebSocket.Backend

/-!
# WebSocket sessions

A session looks the same whatever its backend. Its stage only moves forward, from created over
accepted to closed, and decides which operations reach the backend.
-/

namespace Inbound.WebSocket

/-- A session over a socket. -/
structure Session (σ : Type) where
  /-- The socket. -/
  socket : σ
  /-- The stage. -/
  phase : Phase

namespace Session

/-- A session whose handshake is still to come. -/
def create {σ : Type} (socket : σ) : Session σ := ⟨socket, .created⟩

/-- What a handler asks of a session. -/
inductive Action where
  /-- Perform the opening handshake. -/
  | prepare
  /-- Send a text. -/
  | send (content : String)
  /-- Wait for the next message. -/
  | next
  /-- End the session. -/
  | close
  deriving DecidableEq, Repr

/-- What a session answers: for `next` a message or an error, or nothing once it is over. -/
inductive Answer where
  | done
  | item (item : Option (Except Error Message))

instance : DecidableEq Answer
  | .done, .done | .item none, .item none => isTrue rfl
  | .item (some (.error a)), .item (some (.error b)) =>
    decidable_of_iff (a = b) ⟨fun h => h ▸ rfl, fun h => by cases h; rfl⟩
  | .item (some (.ok a)), .item (some (.ok b)) =>
    decidable_of_iff (a = b) ⟨fun h => h ▸ rfl, fun h => by cases h; rfl⟩
  | .done, .item _ | .item _, .done | .item none, .item (some _) | .item (some _), .item none
  | .item (some (.error _)), .item (some (.ok _))
  | .item (some (.ok _)), .item (some (.error _)) => isFalse nofun

/-- How far an action has come. -/
inductive Stage (κ : Type) where
  /-- It has not been polled. -/
  | fresh (action : Action)
  /-- The backend is accepting. -/
  | accepting (order : κ)
  /-- The backend is sending. -/
  | sending (order : κ)
  /-- The backend is receiving. -/
  | receiving (order : κ)
  /-- The backend is closing. -/
  | closing (order : κ)
  /-- The peer has left, and the backend is closing. -/
  | leaving (order : κ)

variable {σ κ : Type}

/-- The outcome of polling an action. -/
abbrev Outcome (σ κ : Type) := Poll (Except Error Answer) × Stage κ × Session σ

/-- Polls an order of `prepare`. -/
def pollAccepting (backend : Backend σ κ) (session : Session σ) (order : κ) : Outcome σ κ :=
  match backend.poll order session.socket with
  | (.pending, order, socket) => (.pending, .accepting order, { session with socket })
  | (.ready (.ok _), order, socket) =>
    (.ready (.ok .done), .accepting order, ⟨socket, .accepted⟩)
  | (.ready (.error error), order, socket) =>
    (.ready (.error error), .accepting order, ⟨socket, .closed⟩)

/-- Polls an order of `send`. -/
def pollSending (backend : Backend σ κ) (session : Session σ) (order : κ) : Outcome σ κ :=
  match backend.poll order session.socket with
  | (.pending, order, socket) => (.pending, .sending order, { session with socket })
  | (.ready (.ok _), order, socket) =>
    (.ready (.ok .done), .sending order, { session with socket })
  | (.ready (.error error), order, socket) =>
    (.ready (.error error), .sending order, { session with socket })

/-- Polls an order of `close`. -/
def pollClosing (backend : Backend σ κ) (session : Session σ) (order : κ) : Outcome σ κ :=
  match backend.poll order session.socket with
  | (.pending, order, socket) => (.pending, .closing order, { session with socket })
  | (.ready (.ok _), order, socket) =>
    (.ready (.ok .done), .closing order, { session with socket })
  | (.ready (.error error), order, socket) =>
    (.ready (.error error), .closing order, { session with socket })

/-- Polls the order that closes a session whose peer has left; its failure is nobody's concern. -/
def pollLeaving (backend : Backend σ κ) (session : Session σ) (order : κ) : Outcome σ κ :=
  match backend.poll order session.socket with
  | (.pending, order, socket) => (.pending, .leaving order, { session with socket })
  | (.ready _, order, socket) =>
    (.ready (.ok (.item none)), .leaving order, { session with socket })

/-- Polls an order of `next`. A peer that has left is answered by closing. -/
def pollReceiving (backend : Backend σ κ) (session : Session σ) (order : κ) : Outcome σ κ :=
  match backend.poll order session.socket with
  | (.pending, order, socket) => (.pending, .receiving order, { session with socket })
  | (.ready (.ok (.message (some message))), order, socket) =>
    (.ready (.ok (.item (some (.ok message)))), .receiving order, { session with socket })
  -- The session counts as closed before the answer to the peer is on its way.
  | (.ready (.ok _), _, socket) =>
    let (order, socket) := backend.start .close socket
    pollLeaving backend ⟨socket, .closed⟩ order
  | (.ready (.error error), order, socket) =>
    (.ready (.ok (.item (some (.error error)))), .receiving order, { session with socket })

/-- Polls an action for the first time. -/
def pollFresh (backend : Backend σ κ) (session : Session σ) (action : Action) : Outcome σ κ :=
  match action, session.phase with
  | .prepare, .created =>
    let (order, socket) := backend.start .accept session.socket
    pollAccepting backend { session with socket } order
  | .prepare, .accepted => (.ready (.ok .done), .fresh action, session)
  | .prepare, .closed => (.ready (.error .closed), .fresh action, session)
  | .send _, .created => (.ready (.error .notAccepted), .fresh action, session)
  | .send text, .accepted =>
    let (order, socket) := backend.start (.send text) session.socket
    pollSending backend { session with socket } order
  | .send _, .closed => (.ready (.error .closed), .fresh action, session)
  | .next, .created =>
    -- The complaint is the first item and the last one.
    (.ready (.ok (.item (some (.error .notAccepted)))), .fresh action,
      { session with phase := .closed })
  | .next, .accepted =>
    let (order, socket) := backend.start .receive session.socket
    pollReceiving backend { session with socket } order
  | .next, .closed => (.ready (.ok (.item none)), .fresh action, session)
  | .close, .created => (.ready (.ok .done), .fresh action, { session with phase := .closed })
  | .close, .accepted =>
    let (order, socket) := backend.start .close session.socket
    pollClosing backend ⟨socket, .closed⟩ order
  | .close, .closed => (.ready (.ok .done), .fresh action, session)

/-- Polls an action. -/
def poll (backend : Backend σ κ) (session : Session σ) : Stage κ → Outcome σ κ
  | .fresh action => pollFresh backend session action
  | .accepting order => pollAccepting backend session order
  | .sending order => pollSending backend session order
  | .receiving order => pollReceiving backend session order
  | .closing order => pollClosing backend session order
  | .leaving order => pollLeaving backend session order

/-- Abandons an action. -/
def abandon (backend : Backend σ κ) (session : Session σ) : Stage κ → Session σ
  | .fresh _ => session
  | .accepting order => { session with socket := backend.abandon order session.socket }
  | .sending order => { session with socket := backend.abandon order session.socket }
  | .receiving order => { session with socket := backend.abandon order session.socket }
  | .closing order => { session with socket := backend.abandon order session.socket }
  | .leaving order => { session with socket := backend.abandon order session.socket }

/-- Polls an action up to so many times and then abandons it. -/
def driveStage (backend : Backend σ κ) (session : Session σ) (stage : Stage κ) (polls : Nat) :
    Poll (Except Error Answer) × Session σ :=
  match polls with
  | 0 => (.pending, session.abandon backend stage)
  | polls + 1 =>
    match session.poll backend stage with
    | (.ready answer, _, session) => (.ready answer, session)
    | (.pending, stage, session) => session.driveStage backend stage polls

/-- Performs an action if it can be done within so many polls. -/
def drive (backend : Backend σ κ) (session : Session σ) (action : Action) (polls : Nat) :
    Poll (Except Error Answer) × Session σ :=
  session.driveStage backend (.fresh action) polls

/-! ### Sessions as streams -/

/-- How a stream of messages stands after those that were taken from it. -/
inductive Tail where
  /-- It has ended. -/
  | ended
  /-- The next message has not arrived. -/
  | pending
  /-- There may be more. -/
  | more
  deriving DecidableEq, Repr

/-- The name of how a stream stands. -/
def Tail.name : Tail → String
  | .ended => "end"
  | .pending => "pending"
  | .more => "more"

/-- Takes up to so many messages from a session, each within so many polls. -/
def collect (backend : Backend σ κ) (session : Session σ) (polls : Nat) :
    Nat → List (Except Error Message) × Tail × Session σ
  | 0 => ([], .more, session)
  | count + 1 =>
    match session.drive backend .next polls with
    | (.ready (.ok (.item (some item))), session) =>
      let (items, tail, session) := session.collect backend polls count
      (item :: items, tail, session)
    | (.ready _, session) => ([], .ended, session)
    | (.pending, session) => ([], .pending, session)

end Session

/-- Performs an order on a bare socket if it can be done within so many polls. -/
def Backend.drive {σ κ : Type} (backend : Backend σ κ) (socket : σ) (order : Order)
    (polls : Nat) : Poll (Except Error Reply) × σ :=
  let (state, socket) := backend.start order socket
  let rec go (state : κ) (socket : σ) : Nat → Poll (Except Error Reply) × σ
    | 0 => (.pending, backend.abandon state socket)
    | polls + 1 =>
      match backend.poll state socket with
      | (.ready reply, _, socket) => (.ready reply, socket)
      | (.pending, state, socket) => go state socket polls
  go state socket polls

end Inbound.WebSocket
