import Inbound.Proofs.WebSocket.Course

/-!
# How a session drives its backend

A backend that takes down what it is asked for sees the same of any session: handshakes, each of
which is tried again only if the one before was dropped; once one has succeeded, texts and waiting
for messages; and then at most one close, after which it is never asked for anything again. Whatever
the handler does in any order, and whatever the backend answers, the phase of the session goes along
with that and never back.

## Main results

* `Conforms`: what the backend has been asked for in each phase;
* `Course.Moves.follows`: every move keeps to that, and goes forward;
* `Course.follows_protocol`: so does every handler, and what a closed session refuses.
-/

namespace Inbound.WebSocket

variable {σ κ ω : Type}

/-! ### Taking down what is asked for -/

/-- What has become of an order. -/
inductive Ending where
  /-- It is in progress. -/
  | underway
  /-- It was dropped before it was carried out. -/
  | dropped
  /-- It has been replied to. -/
  | replied (reply : Except Error Reply)

/-- An order that a backend was given. -/
structure Call where
  /-- The order. -/
  order : Order
  /-- What has become of it. -/
  ending : Ending

/-- The same calls, of which the last one has come to an end. -/
def endLast (ending : Ending) (calls : List Call) : List Call :=
  calls.dropLast ++ calls.getLast?.toList.map fun call => { call with ending }

@[simp]
theorem endLast_concat (ending : Ending) (calls : List Call) (call : Call) :
    endLast ending (calls ++ [call]) = calls ++ [{ call with ending }] := by
  simp [endLast]

/-- A socket with all calls of its backend so far. -/
structure Recorded (σ : Type) where
  /-- The socket. -/
  socket : σ
  /-- The calls, in order. -/
  calls : List Call

/-- A backend that takes down all its calls. -/
def Backend.recorded (backend : Backend σ κ) : Backend (Recorded σ) κ where
  start order recorded :=
    let (work, socket) := backend.start order recorded.socket
    (work, ⟨socket, recorded.calls ++ [⟨order, .underway⟩]⟩)
  poll work recorded :=
    match backend.poll work recorded.socket with
    | (.pending, work, socket) => (.pending, work, { recorded with socket })
    | (.ready reply, work, socket) =>
      (.ready reply, work, ⟨socket, endLast (.replied reply) recorded.calls⟩)
  abandon work recorded :=
    ⟨backend.abandon work recorded.socket, endLast .dropped recorded.calls⟩

/-- What the other end does is not a call. -/
def Recorded.world (world : ω → σ → σ) (act : ω) (recorded : Recorded σ) : Recorded σ :=
  { recorded with socket := world act recorded.socket }

theorem Backend.recorded_extends (backend : Backend σ κ) :
    backend.recorded.Extends backend Recorded.socket where
  start _ _ := rfl
  poll work recorded := by
    show backend.poll work recorded.socket = _
    rcases hpoll : backend.poll work recorded.socket with ⟨reply | -, work', socket'⟩ <;>
      simp only [Backend.recorded, hpoll]
  abandon _ _ := rfl

theorem Backend.calls_poll {backend : Backend σ κ} {work work' : κ} {socket socket' : Recorded σ}
    {reply : Poll (Except Error Reply)}
    (h : backend.recorded.poll work socket = (reply, work', socket')) :
    (reply = .pending ∧ socket'.calls = socket.calls) ∨
      ∃ answer, reply = .ready answer ∧ socket'.calls = endLast (.replied answer) socket.calls := by
  simp only [recorded] at h
  rcases hpoll : backend.poll work socket.socket with ⟨answer | -, _, _⟩ <;> rw [hpoll] at h <;>
    cases h
  · exact .inr ⟨_, rfl, rfl⟩
  · exact .inl ⟨rfl, rfl⟩

/-! ### What is asked for in each phase -/

/-- Orders for a session that has been accepted and not closed. -/
def Order.IsTraffic : Order → Prop
  | .send _ | .receive => True
  | .accept | .close => False

/-- Handshakes that were all dropped. -/
def Attempts (calls : List Call) : Prop :=
  ∀ call ∈ calls, call = ⟨.accept, .dropped⟩

/-- A handshake that succeeded after any that were dropped, and then texts and waiting for
messages, one after the other. -/
def Accepted (calls : List Call) : Prop :=
  ∃ attempts reply traffic, Attempts attempts ∧
    calls = attempts ++ ⟨.accept, .replied (.ok reply)⟩ :: traffic ∧
    ∀ call ∈ traffic, call.order.IsTraffic ∧ call.ending ≠ .underway

/-- What the backend of a session in some phase has been asked for, by what its order in progress
is given for. -/
inductive Conforms : Phase → Option Session.Purpose → List Call → Prop where
  /-- No handshake has come to an end, also if the session is closed. -/
  | unaccepted {phase : Phase} {calls : List Call} (hphase : phase ≠ .accepted)
    (hcalls : Attempts calls) : Conforms phase none calls
  /-- A handshake is in progress. -/
  | accepting {calls : List Call} (hcalls : Attempts calls) :
    Conforms .created (some .accepting) (calls ++ [⟨.accept, .underway⟩])
  /-- A handshake has failed. -/
  | refused {calls : List Call} {error : Error} (hcalls : Attempts calls) :
    Conforms .closed none (calls ++ [⟨.accept, .replied (.error error)⟩])
  /-- A handshake has succeeded. -/
  | accepted {calls : List Call} (hcalls : Accepted calls) : Conforms .accepted none calls
  /-- A text is sent. -/
  | sending {calls : List Call} {text : String} (hcalls : Accepted calls) :
    Conforms .accepted (some .sending) (calls ++ [⟨.send text, .underway⟩])
  /-- A message is awaited. -/
  | receiving {calls : List Call} (hcalls : Accepted calls) :
    Conforms .accepted (some .receiving) (calls ++ [⟨.receive, .underway⟩])
  /-- The session is closed by the handler, or because the peer has left. -/
  | closing {calls : List Call} {purpose : Session.Purpose}
    (hpurpose : purpose = .closing ∨ purpose = .leaving) (hcalls : Accepted calls) :
    Conforms .closed (some purpose) (calls ++ [⟨.close, .underway⟩])
  /-- The session has been closed. -/
  | closed {calls : List Call} {ending : Ending} (hending : ending ≠ .underway)
    (hcalls : Accepted calls) : Conforms .closed none (calls ++ [⟨.close, ending⟩])

/-- How far a session has come. -/
def Phase.rank : Phase → Nat
  | .created => 0
  | .accepted => 1
  | .closed => 2

/-- A later phase with what has been asked for until then: the phase never goes back, and once it is
closed nothing more is asked for. -/
structure Advances (phase : Phase) (calls : List Call) (phase' : Phase) (calls' : List Call) :
    Prop where
  rank : phase.rank ≤ phase'.rank
  orders : phase = .closed → calls'.map (·.order) = calls.map (·.order)

theorem Advances.refl (phase : Phase) (calls : List Call) : Advances phase calls phase calls :=
  ⟨Nat.le_refl _, fun _ => rfl⟩

theorem Advances.trans {a b c : Phase} {x y z : List Call} (hab : Advances a x b y)
    (hbc : Advances b y c z) : Advances a x c z := by
  -- What is closed before is closed in between, since the phase does not go back.
  refine ⟨Nat.le_trans hab.rank hbc.rank, fun hclosed => ?_⟩
  have hb : b = .closed := by
    have hrank := hab.rank
    rw [hclosed] at hrank
    cases b <;> simp [Phase.rank] at hrank ⊢
  exact (hbc.orders hb).trans (hab.orders hclosed)

/-- An order comes to an end, which is not one more. -/
theorem Advances.endLast {phase phase' : Phase} (hrank : phase.rank ≤ phase'.rank)
    (calls : List Call) (call : Call) (ending : Ending) :
    Advances phase (calls ++ [call]) phase' (calls ++ [{ call with ending }]) :=
  ⟨hrank, fun _ => by simp⟩

theorem Accepted.concat {calls : List Call} (h : Accepted calls) {order : Order} {ending : Ending}
    (horder : order.IsTraffic) (hending : ending ≠ .underway) :
    Accepted (calls ++ [⟨order, ending⟩]) := by
  obtain ⟨attempts, reply, traffic, hattempts, rfl, htraffic⟩ := h
  refine ⟨attempts, reply, traffic ++ [⟨order, ending⟩], hattempts, by simp, fun call hcall => ?_⟩
  rcases List.mem_append.mp hcall with hcall | hcall
  · exact htraffic call hcall
  · rw [List.mem_singleton.mp hcall]
    exact ⟨horder, hending⟩

namespace Conforms

variable {phase phase' : Phase} {purpose : Session.Purpose} {calls : List Call}

theorem attempts_of_created (h : Conforms .created none calls) : Attempts calls := by
  cases h with
  | unaccepted _ hcalls => exact hcalls

theorem accepted_of_accepted (h : Conforms .accepted none calls) : Accepted calls := by
  cases h with
  | unaccepted hphase => exact absurd rfl hphase
  | accepted hcalls => exact hcalls

/-- An action may have its answer without the backend. -/
theorem answers (h : Conforms phase none calls) {action : Session.Action}
    {answer : Except Error Session.Answer}
    (hopening : action.opening phase = (.inl answer, phase')) :
    Conforms phase' none calls ∧ Advances phase calls phase' calls := by
  -- Then the phase is the same as before, or a session is closed that was never accepted.
  have hphase : phase' = phase ∨ phase = .created ∧ phase' = .closed := by
    cases action <;> cases phase <;> cases hopening <;> simp
  rcases hphase with rfl | ⟨rfl, rfl⟩
  · exact ⟨h, .refl _ _⟩
  · exact ⟨.unaccepted (by simp) h.attempts_of_created, by simp [Phase.rank], by simp⟩

/-- An action may begin with an order. -/
theorem orders (h : Conforms phase none calls) {action : Session.Action} {order : Order}
    (hopening : action.opening phase = (.inr order, phase')) :
    Conforms phase' (some (Session.purposeOf order)) (calls ++ [⟨order, .underway⟩]) ∧
      Advances phase calls phase' (calls ++ [⟨order, .underway⟩]) := by
  -- Of all actions in all phases these are the four that have an order for the backend.
  cases action <;> cases phase <;> cases hopening
  case prepare.created => exact ⟨.accepting h.attempts_of_created, by simp, by simp⟩
  case send.accepted => exact ⟨.sending h.accepted_of_accepted, by simp, by simp⟩
  case next.accepted => exact ⟨.receiving h.accepted_of_accepted, by simp, by simp⟩
  case close.accepted =>
    exact ⟨.closing (.inl rfl) h.accepted_of_accepted, by simp [Phase.rank], by simp⟩

/-- The order in progress may be carried out, and the action has its answer. -/
theorem concludes (h : Conforms phase (some purpose) calls) {reply : Except Error Reply}
    {answer : Except Error Session.Answer}
    (hconclusion : purpose.conclusion phase reply = some (answer, phase')) :
    Conforms phase' none (endLast (.replied reply) calls) ∧
      Advances phase calls phase' (endLast (.replied reply) calls) := by
  have hending : Ending.replied reply ≠ .underway := by rintro ⟨⟩
  cases h with
  | accepting hcalls =>
    -- A refused handshake closes the session for good.
    rw [endLast_concat]
    cases reply with
    | error error =>
      cases hconclusion
      exact ⟨.refused hcalls, .endLast (by simp [Phase.rank]) _ _ _⟩
    | ok reply =>
      cases hconclusion
      refine ⟨.accepted ⟨_, reply, [], hcalls, rfl, by simp⟩, .endLast (by simp [Phase.rank]) _ _ _⟩
  | sending hcalls =>
    rw [endLast_concat]
    cases reply <;> cases hconclusion <;>
      exact ⟨.accepted (hcalls.concat trivial hending), .endLast (Nat.le_refl _) _ _ _⟩
  | receiving hcalls =>
    have hphase : phase' = .accepted := by
      rcases reply with error | (⟨⟩ | ⟨⟨⟩ | message⟩) <;> cases hconclusion <;> rfl
    subst hphase
    rw [endLast_concat]
    exact ⟨.accepted (hcalls.concat trivial hending), .endLast (Nat.le_refl _) _ _ _⟩
  | closing hpurpose hcalls =>
    have hphase : phase' = .closed := by
      rcases hpurpose with rfl | rfl <;> cases reply <;> cases hconclusion <;> rfl
    subst hphase
    rw [endLast_concat]
    exact ⟨.closed hending hcalls, .endLast (Nat.le_refl _) _ _ _⟩

/-- The peer may turn out to have left, which is answered by closing. -/
theorem leaves (h : Conforms phase (some purpose) calls) {reply : Except Error Reply}
    (hconclusion : purpose.conclusion phase reply = none) :
    Conforms .closed (some .leaving)
        (endLast (.replied reply) calls ++ [⟨.close, .underway⟩]) ∧
      Advances phase calls .closed
        (endLast (.replied reply) calls ++ [⟨.close, .underway⟩]) := by
  cases h with
  | receiving hcalls =>
    rw [endLast_concat]
    exact ⟨.closing (.inr rfl) (hcalls.concat trivial (by rintro ⟨⟩)), by simp [Phase.rank],
      by simp⟩
  | closing hpurpose =>
    rcases hpurpose with rfl | rfl <;> cases reply <;> cases hconclusion
  | _ => cases reply <;> cases hconclusion

/-- The action in progress may be dropped, and its order with it. -/
theorem abandons (h : Conforms phase (some purpose) calls) :
    Conforms phase none (endLast .dropped calls) ∧
      Advances phase calls phase (endLast .dropped calls) := by
  have hending : Ending.dropped ≠ .underway := by rintro ⟨⟩
  cases h with
  | accepting hcalls =>
    -- A dropped handshake is one attempt more, after which another may be made.
    rw [endLast_concat]
    refine ⟨.unaccepted (by simp) fun call hcall => ?_, .endLast (Nat.le_refl _) _ _ _⟩
    rcases List.mem_append.mp hcall with hcall | hcall
    · exact hcalls call hcall
    · exact List.mem_singleton.mp hcall
  | sending hcalls | receiving hcalls =>
    rw [endLast_concat]
    exact ⟨.accepted (hcalls.concat trivial hending), .endLast (Nat.le_refl _) _ _ _⟩
  | closing hpurpose hcalls =>
    rw [endLast_concat]
    exact ⟨.closed hending hcalls, .endLast (Nat.le_refl _) _ _ _⟩

end Conforms

/-! ### Handlers -/

namespace Course

open Session

/-- The calls that the backend of a session has got. -/
def calls (course : Course (Recorded σ) κ) : List Call := course.session.socket.calls

/-- The backend has been asked for what is right in the phase of its session. -/
def Follows (course : Course (Recorded σ) κ) : Prop :=
  Conforms course.session.phase (course.order?.map Prod.fst) course.calls

/-- Every move keeps to what is right, and goes forward. -/
theorem Moves.follows {backend : Backend σ κ} {world : ω → σ → σ}
    {before after : Course (Recorded σ) κ}
    (hmove : Moves backend.recorded (Recorded.world world) before after) (h : before.Follows) :
    after.Follows ∧
      Advances before.session.phase before.calls after.session.phase after.calls := by
  -- What the handler is in the middle of has an order in progress just if it has a purpose.
  cases hmove with
  | begins | forgets | outside => exact ⟨h, .refl _ _⟩
  | answers hopening => exact Conforms.answers h hopening
  | @orders socket socket' phase phase' action order work past hopening hstart =>
    have horders := Conforms.orders h hopening
    cases hstart
    simpa only [Follows, order?, calls, Option.bind_some, order?_stage, Option.map_some] using
      horders
  | @waits socket socket' phase action purpose work work' past hpoll =>
    rcases Backend.calls_poll hpoll with ⟨-, hcalls⟩ | ⟨_, ⟨⟩, -⟩
    simp only [Follows, order?, calls, Option.bind_some, order?_stage, Option.map_some, hcalls]
      at h ⊢
    exact ⟨h, .refl _ _⟩
  | @concludes socket socket' phase phase' action purpose work work' reply answer past hpoll
      hconclusion =>
    rcases Backend.calls_poll hpoll with ⟨⟨⟩, -⟩ | ⟨_, heq, hcalls⟩
    cases heq
    simp only [Follows, order?, calls, Option.bind_some, order?_stage, Option.map_some] at h
    simp only [Follows, order?, calls, Option.bind_none, Option.map_none, hcalls]
    exact h.concludes hconclusion
  | @leaves socket socket' socket'' phase action purpose work work' closing reply past hpoll
      hconclusion hstart =>
    rcases Backend.calls_poll hpoll with ⟨⟨⟩, -⟩ | ⟨_, heq, hcalls⟩
    cases heq
    cases hstart
    simp only [Follows, order?, calls, Option.bind_some, order?_stage, Option.map_some] at h
    simp only [Follows, order?, calls, Option.bind_some, order?_stage, Option.map_some, hcalls]
    exact h.leaves hconclusion
  | @abandons socket phase action purpose work past =>
    simp only [Follows, order?, calls, Option.bind_some, order?_stage, Option.map_some] at h
    exact h.abandons

/-- The course of a session over a socket whose backend takes down its calls. -/
def recorded (backend : Backend σ κ) (world : ω → σ → σ) (socket : σ) (steps : List (Step ω)) :
    Course (Recorded σ) κ :=
  (start ⟨socket, []⟩).run backend.recorded (Recorded.world world) steps

section Recording

variable (backend : Backend σ κ) (world : ω → σ → σ) (socket : σ) (steps : List (Step ω))

theorem map_recorded :
    (recorded backend world socket steps).map Recorded.socket =
      (start socket).run backend world steps :=
  (run_map backend.recorded_extends (fun _ _ => rfl) (start ⟨socket, []⟩) steps).symm

theorem follows_recorded : (recorded backend world socket steps).Follows := by
  refine invariant_run Follows (proper_of_none rfl) (fun _ hmove h => (hmove.follows h).1) ?_ steps
  exact .unaccepted (by rintro ⟨⟩) (by rintro _ ⟨⟩)

/-- From any moment on the session goes forward only. -/
theorem advances_recorded (later : List (Step ω)) :
    let before := recorded backend world socket steps
    let after := recorded backend world socket (steps ++ later)
    Advances before.session.phase before.calls after.session.phase after.calls := by
  intro before after
  have hafter : after = before.run backend.recorded (Recorded.world world) later :=
    run_append _ _ _ _ _
  rw [hafter]
  -- To have come forward from this moment is an invariant of what follows.
  refine (invariant_run (fun course => course.Follows ∧
    Advances before.session.phase before.calls course.session.phase course.calls)
    ((proper_of_none rfl).run steps) (fun _ hmove h => ?_)
    ⟨follows_recorded backend world socket steps, .refl _ _⟩ later).2
  obtain ⟨hfollows, hadvances⟩ := hmove.follows h.1
  exact ⟨hfollows, h.2.trans hadvances⟩

end Recording

/-- An action that has its answer without the backend is over when it is polled for the first
time. -/
theorem step_polls_of_inl {backend : Backend σ κ} {world : ω → σ → σ} {course : Course σ κ}
    {action : Action} {answer : Except Error Session.Answer} {phase : Phase}
    (hcurrent : course.current = some (action, .fresh action))
    (h : action.opening course.session.phase = (.inl answer, phase)) :
    course.step backend world .polls =
      ⟨⟨course.session.socket, phase⟩, none, course.past ++ [(action, some answer)]⟩ := by
  simp only [step, hcurrent, poll_fresh_of_inl backend h]

/-- What a closed session makes of an action. -/
def refusal : Action → Except Error Session.Answer
  | .prepare | .send _ => .error .closed
  | .next => .ok (.item none)
  | .close => .ok .done

theorem opening_closed (action : Action) :
    action.opening .closed = (.inl (refusal action), .closed) := by
  cases action <;> rfl

/-- Whatever a handler does with a session over any backend, and whatever happens at the other end
of the socket: the backend is asked for what is right in the phase of the session; the phase goes
forward only, and once the session is closed nothing more is asked for; a closed session refuses
every action and is left as it is; and a session that was never prepared refuses to send, and is
closed by waiting for a message. -/
theorem follows_protocol (backend : Backend σ κ) (world : ω → σ → σ) (socket : σ)
    (steps : List (Step ω)) :
    let course := recorded backend world socket steps
    let session := course.session
    course.map Recorded.socket = (start socket).run backend world steps ∧
    Conforms session.phase (course.order?.map Prod.fst) course.calls ∧
    (∀ later, Advances session.phase course.calls
      (recorded backend world socket (steps ++ later)).session.phase
      (recorded backend world socket (steps ++ later)).calls) ∧
    ∀ action, course.current = some (action, .fresh action) →
      let polled := course.step backend.recorded (Recorded.world world) .polls
      (session.phase = .closed → polled =
        ⟨session, none, course.past ++ [(action, some (refusal action))]⟩) ∧
      (session.phase = .created → ∀ text, action = .send text → polled =
        ⟨session, none, course.past ++ [(action, some (.error .notAccepted))]⟩) ∧
      (session.phase = .created → action = .next → polled =
        ⟨{ session with phase := .closed }, none,
          course.past ++ [(action, some (.ok (.item (some (.error .notAccepted)))))]⟩) := by
  intro course session
  refine ⟨map_recorded _ _ _ _, follows_recorded _ _ _ _, advances_recorded _ _ _ _,
    fun action hcurrent => ⟨fun hphase => ?closed, fun hphase text htext => ?send,
      fun hphase hnext => ?next⟩⟩
  case closed =>
    have hopening : action.opening session.phase = (.inl (refusal action), session.phase) := by
      rw [hphase]
      exact opening_closed action
    rw [step_polls_of_inl hcurrent hopening]
  case send =>
    subst htext
    have hopening : (Action.send text).opening session.phase =
        (.inl (.error .notAccepted), session.phase) := by
      rw [hphase]
      rfl
    rw [step_polls_of_inl hcurrent hopening]
  case next =>
    subst hnext
    have hopening : Action.next.opening session.phase =
        (.inl (.ok (.item (some (.error .notAccepted)))), .closed) := by
      rw [hphase]
      rfl
    rw [step_polls_of_inl hcurrent hopening]

end Course

end Inbound.WebSocket
