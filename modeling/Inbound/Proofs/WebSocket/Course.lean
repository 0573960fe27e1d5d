import Mathlib.Data.List.Induction
import Mathlib.Logic.Relation
import Inbound.Proofs.Histories
import Inbound.WebSocket.Session

/-!
# The course of a session

A handler does one thing after the other with a session: it begins an action, polls it until it is
ready, or drops it before. Between any two polls the other end of the socket may do what it likes.
Whatever holds after every sequence of such steps holds for all handlers, backends and peers.

## Main results

* `Course.Moves`: everything that a session does at a time;
* `Course.run_drive`: an action that is performed within so many polls is such a course;
* `Course.moves_step`: a step is a sequence of moves;
* `Course.invariant_run`: what every move keeps holds after all steps.
-/

namespace Inbound.WebSocket

variable {σ κ : Type}

namespace Session

/-! ### What a session makes of an action -/

/-- What a session in some phase makes of an action that is polled for the first time: it has an
answer, or there is an order for its backend; and the phase from then on. -/
def Action.opening : Action → Phase → (Except Error Session.Answer ⊕ Order) × Phase
  | .prepare, .created => (.inr .accept, .created)
  | .prepare, .accepted => (.inl (.ok .done), .accepted)
  | .prepare, .closed => (.inl (.error .closed), .closed)
  | .send _, .created => (.inl (.error .notAccepted), .created)
  | .send text, .accepted => (.inr (.send text), .accepted)
  | .send _, .closed => (.inl (.error .closed), .closed)
  | .next, .created => (.inl (.ok (.item (some (.error .notAccepted)))), .closed)
  | .next, .accepted => (.inr .receive, .accepted)
  | .next, .closed => (.inl (.ok (.item none)), .closed)
  | .close, .created => (.inl (.ok .done), .closed)
  | .close, .accepted => (.inr .close, .closed)
  | .close, .closed => (.inl (.ok .done), .closed)

/-- What an order is given for. -/
inductive Purpose where
  /-- The session is prepared. -/
  | accepting
  /-- A text is sent. -/
  | sending
  /-- A message is awaited. -/
  | receiving
  /-- The session is closed. -/
  | closing
  /-- The session is closed because the peer has left. -/
  | leaving
  deriving DecidableEq

/-- How far an action has come whose order is in progress. -/
def Purpose.stage : Purpose → κ → Stage κ
  | .accepting => .accepting
  | .sending => .sending
  | .receiving => .receiving
  | .closing => .closing
  | .leaving => .leaving

/-- The order in progress, and what it is given for. -/
def Stage.order? : Stage κ → Option (Purpose × κ)
  | .fresh _ => none
  | .accepting work => some (.accepting, work)
  | .sending work => some (.sending, work)
  | .receiving work => some (.receiving, work)
  | .closing work => some (.closing, work)
  | .leaving work => some (.leaving, work)

@[simp]
theorem order?_stage (purpose : Purpose) (work : κ) :
    (purpose.stage work).order? = some (purpose, work) := by
  cases purpose <;> rfl

/-- What orders may be given for in the course of an action. -/
def Purpose.IsOf : Purpose → Action → Prop
  | .accepting, action => action = .prepare
  | .sending, action => ∃ text, action = .send text
  | .receiving, action => action = .next
  | .closing, action => action = .close
  | .leaving, action => action = .next

/-- What an order is given for with which an action begins. -/
def purposeOf : Order → Purpose
  | .accept => .accepting
  | .send _ => .sending
  | .receive => .receiving
  | .close => .closing

/-- What a session in some phase makes of the reply to an order: the answer to the action, and the
phase from then on. There is no answer yet if the peer turns out to have left, since the session is
closed first. -/
def Purpose.conclusion (phase : Phase) : Purpose → Except Error Reply →
    Option (Except Error Session.Answer × Phase)
  | .accepting, .ok _ => some (.ok .done, .accepted)
  | .accepting, .error error => some (.error error, .closed)
  | .sending, .ok _ => some (.ok .done, phase)
  | .sending, .error error => some (.error error, phase)
  | .receiving, .ok (.message (some message)) => some (.ok (.item (some (.ok message))), phase)
  | .receiving, .ok _ => none
  | .receiving, .error error => some (.ok (.item (some (.error error))), phase)
  | .closing, .ok _ => some (.ok .done, phase)
  | .closing, .error error => some (.error error, phase)
  | .leaving, _ => some (.ok (.item none), phase)

/-- An action that is in progress has not been polled, or has an order in progress. -/
theorem exists_stage_eq (stage : Stage κ) :
    (∃ action, stage = .fresh action) ∨
      ∃ (purpose : Purpose) (work : κ), stage = purpose.stage work := by
  cases stage with
  | fresh action => exact .inl ⟨action, rfl⟩
  | accepting work => exact .inr ⟨.accepting, work, rfl⟩
  | sending work => exact .inr ⟨.sending, work, rfl⟩
  | receiving work => exact .inr ⟨.receiving, work, rfl⟩
  | closing work => exact .inr ⟨.closing, work, rfl⟩
  | leaving work => exact .inr ⟨.leaving, work, rfl⟩

section Polling

variable (backend : Backend σ κ) {socket : σ} {phase : Phase}

/-- An action may have its answer without the backend. -/
theorem poll_fresh_of_inl {action : Action} {answer : Except Error Session.Answer} {phase' : Phase}
    (h : action.opening phase = (.inl answer, phase')) :
    poll backend ⟨socket, phase⟩ (.fresh action) =
      (.ready answer, .fresh action, ⟨socket, phase'⟩) := by
  cases action <;> cases phase <;> cases h <;> rfl

/-- Otherwise it begins with an order, which is polled at once. -/
theorem poll_fresh_of_inr {action : Action} {order : Order} {phase' : Phase}
    (h : action.opening phase = (.inr order, phase')) :
    poll backend ⟨socket, phase⟩ (.fresh action) =
      poll backend ⟨(backend.start order socket).2, phase'⟩
        ((purposeOf order).stage (backend.start order socket).1) := by
  cases action <;> cases phase <;> cases h <;> rfl

variable {purpose : Purpose} {work work' : κ} {socket' : σ}

theorem poll_of_pending (h : backend.poll work socket = (.pending, work', socket')) :
    poll backend ⟨socket, phase⟩ (purpose.stage work) =
      (.pending, purpose.stage work', ⟨socket', phase⟩) := by
  -- Whatever the order is for, its action waits as long as the backend does.
  cases purpose <;>
    simp only [Purpose.stage, poll, pollAccepting, pollSending, pollReceiving, pollClosing,
      pollLeaving, h]

theorem poll_of_conclusion {reply : Except Error Reply} {answer : Except Error Session.Answer}
    {phase' : Phase} (h : backend.poll work socket = (.ready reply, work', socket'))
    (hanswer : purpose.conclusion phase reply = some (answer, phase')) :
    poll backend ⟨socket, phase⟩ (purpose.stage work) =
      (.ready answer, purpose.stage work', ⟨socket', phase'⟩) := by
  cases purpose with
  | accepting =>
    cases reply <;> cases hanswer <;> simp only [Purpose.stage, poll, pollAccepting, h]
  | sending => cases reply <;> cases hanswer <;> simp only [Purpose.stage, poll, pollSending, h]
  | receiving =>
    -- Only a message or a failure is an answer.
    rcases reply with error | (⟨⟩ | ⟨⟨⟩ | message⟩)
    · cases hanswer
      simp only [Purpose.stage, poll, pollReceiving, h]
    · cases hanswer
    · cases hanswer
    · cases hanswer
      simp only [Purpose.stage, poll, pollReceiving, h]
  | closing => cases reply <;> cases hanswer <;> simp only [Purpose.stage, poll, pollClosing, h]
  | leaving =>
    cases hanswer
    simp only [Purpose.stage, poll, pollLeaving, h]

/-- A peer that has left is answered by closing. -/
theorem poll_of_no_conclusion {reply : Except Error Reply}
    (h : backend.poll work socket = (.ready reply, work', socket'))
    (hleft : purpose.conclusion phase reply = none) :
    poll backend ⟨socket, phase⟩ (purpose.stage work) =
      poll backend ⟨(backend.start .close socket').2, .closed⟩
        (Purpose.leaving.stage (backend.start .close socket').1) := by
  cases purpose with
  | receiving =>
    -- There was no failure and no message, so the peer is not there any more.
    rcases reply with error | (⟨⟩ | ⟨⟨⟩ | message⟩)
    · cases hleft
    · simp only [Purpose.stage, poll, pollReceiving, h]
    · simp only [Purpose.stage, poll, pollReceiving, h]
    · cases hleft
  | leaving => cases hleft
  | _ => cases reply <;> cases hleft

end Polling

end Session

/-- A session with the action that a handler is in the middle of, and all that it has done. -/
structure Course (σ κ : Type) where
  /-- The session. -/
  session : Session σ
  /-- The action in progress, and how far it has come. -/
  current : Option (Session.Action × Session.Stage κ)
  /-- The actions that are over, in order. There is no answer to one that was dropped. -/
  past : List (Session.Action × Option (Except Error Session.Answer))

namespace Course

open Session

variable {ω : Type}

/-- The order in progress, if there is one, and what it is given for. -/
def order? (course : Course σ κ) : Option (Purpose × κ) :=
  course.current.bind (·.2.order?)

/-! ### Steps -/

/-- What can happen next, where `ω` is what the other end of the socket can do. -/
inductive Step (ω : Type) where
  /-- The handler begins an action, unless it is in the middle of one. -/
  | begins (action : Action)
  /-- The action in progress is polled. -/
  | polls
  /-- The action in progress is dropped. -/
  | drops
  /-- The other end of the socket does something. -/
  | outside (act : ω)
  deriving DecidableEq

/-- The course before anything is done with a session over a socket. -/
def start (socket : σ) : Course σ κ := ⟨.create socket, none, []⟩

/-- One thing happens. An action that was never polled has done nothing and is forgotten. -/
def step (backend : Backend σ κ) (world : ω → σ → σ) (course : Course σ κ) : Step ω → Course σ κ
  | .begins action =>
    match course.current with
    | none => { course with current := some (action, .fresh action) }
    | some _ => course
  | .polls =>
    match course.current with
    | none => course
    | some (action, stage) =>
      match course.session.poll backend stage with
      | (.pending, stage, session) => { course with session, current := some (action, stage) }
      | (.ready answer, _, session) => ⟨session, none, course.past ++ [(action, some answer)]⟩
  | .drops =>
    match course.current with
    | none => course
    | some (_, .fresh _) => { course with current := none }
    | some (action, stage) =>
      ⟨course.session.abandon backend stage, none, course.past ++ [(action, none)]⟩
  | .outside act =>
    { course with session := { course.session with socket := world act course.session.socket } }

/-- One thing happens after the other. -/
def run (backend : Backend σ κ) (world : ω → σ → σ) (course : Course σ κ) (steps : List (Step ω)) :
    Course σ κ :=
  steps.foldl (step backend world) course

section Running

variable (backend : Backend σ κ) (world : ω → σ → σ) (course : Course σ κ)

@[simp]
theorem run_nil : course.run backend world [] = course := rfl

theorem run_append (before after : List (Step ω)) :
    course.run backend world (before ++ after) =
      (course.run backend world before).run backend world after :=
  List.foldl_append

theorem run_concat (steps : List (Step ω)) (last : Step ω) :
    course.run backend world (steps ++ [last]) =
      (course.run backend world steps).step backend world last := by
  rw [run_append]
  rfl

/-- Without an action in progress there is nothing to poll or to drop. -/
theorem run_replicate_polls_of_none {session : Session σ} {past} (polls : Nat) :
    (⟨session, none, past⟩ : Course σ κ).run backend world (.replicate polls .polls ++ [.drops]) =
      ⟨session, none, past⟩ := by
  induction polls with
  | zero => rfl
  | succ polls ih => exact ih

theorem run_driveStage (session : Session σ) (action : Action) (stage : Stage κ) (past)
    (polls : Nat) :
    ∃ past', (⟨session, some (action, stage), past⟩ : Course σ κ).run backend world
        (.replicate polls .polls ++ [.drops]) =
          ⟨(session.driveStage backend stage polls).2, none, past'⟩ ∧
      ∀ answer, (session.driveStage backend stage polls).1 = .ready answer →
        past' = past ++ [(action, some answer)] := by
  -- By induction on the polls that are left. Once there is an answer they come to nothing.
  induction polls generalizing session stage with
  | zero => cases stage <;> exact ⟨_, rfl, by rintro _ ⟨⟩⟩
  | succ polls ih =>
    have hfirst : (⟨session, some (action, stage), past⟩ : Course σ κ).run backend world
        (.replicate (polls + 1) .polls ++ [.drops]) =
          ((⟨session, some (action, stage), past⟩ : Course σ κ).step backend world .polls).run
            backend world (.replicate polls .polls ++ [.drops]) := rfl
    rw [hfirst]
    simp only [step, driveStage]
    rcases session.poll backend stage with ⟨answer | -, stage', session'⟩
    · refine ⟨_, run_replicate_polls_of_none backend world polls, ?_⟩
      rintro _ ⟨⟩
      rfl
    · exact ih session' stage'

/-- To perform an action within so many polls is to begin it, to poll it as often and to drop it if
it is not ready. -/
theorem run_drive (session : Session σ) (action : Action) (past) (polls : Nat) :
    ∃ past', (⟨session, none, past⟩ : Course σ κ).run backend world
        (.begins action :: .replicate polls .polls ++ [.drops]) =
          ⟨(session.drive backend action polls).2, none, past'⟩ ∧
      ∀ answer, (session.drive backend action polls).1 = .ready answer →
        past' = past ++ [(action, some answer)] :=
  run_driveStage backend world session action (.fresh action) past polls

end Running

/-! ### Moves -/

/-- What the session is polled for is the action in progress. -/
structure Proper (course : Course σ κ) : Prop where
  fresh : ∀ action other, course.current = some (action, .fresh other) → other = action
  ordered : ∀ action stage, course.current = some (action, stage) →
    ∀ purpose work, stage.order? = some (purpose, work) → purpose.IsOf action

theorem proper_of_none {course : Course σ κ} (h : course.current = none) : course.Proper := by
  constructor <;> intro _ _ hcurrent <;> rw [h] at hcurrent <;> cases hcurrent

theorem proper_of_fresh {course : Course σ κ} {action : Action}
    (h : course.current = some (action, .fresh action)) : course.Proper := by
  constructor <;> intro _ _ hcurrent <;> rw [h] at hcurrent <;> cases hcurrent
  · rfl
  · rintro _ _ ⟨⟩

theorem proper_of_stage {course : Course σ κ} {action : Action} {purpose : Purpose} {work : κ}
    (h : course.current = some (action, purpose.stage work)) (hpurpose : purpose.IsOf action) :
    course.Proper := by
  constructor
  · intro _ _ hcurrent
    rw [h] at hcurrent
    cases purpose <;> cases hcurrent
  · intro _ _ hcurrent _ _ horder
    rw [h] at hcurrent
    cases hcurrent
    rw [order?_stage] at horder
    cases horder
    exact hpurpose

/-- What happens with a session at a time. -/
inductive Moves (backend : Backend σ κ) (world : ω → σ → σ) : Course σ κ → Course σ κ → Prop where
  /-- An action is begun. -/
  | begins {session : Session σ} {past} (action : Action) :
    Moves backend world ⟨session, none, past⟩ ⟨session, some (action, .fresh action), past⟩
  /-- An action that was never polled is forgotten. -/
  | forgets {session : Session σ} {action : Action} {past} :
    Moves backend world ⟨session, some (action, .fresh action), past⟩ ⟨session, none, past⟩
  /-- An action has its answer without the backend. -/
  | answers {socket : σ} {phase phase' : Phase} {action : Action} {answer} {past}
    (hopening : action.opening phase = (.inl answer, phase')) :
    Moves backend world ⟨⟨socket, phase⟩, some (action, .fresh action), past⟩
      ⟨⟨socket, phase'⟩, none, past ++ [(action, some answer)]⟩
  /-- An action begins with an order. -/
  | orders {socket socket' : σ} {phase phase' : Phase} {action : Action} {order : Order}
    {work : κ} {past} (hopening : action.opening phase = (.inr order, phase'))
    (hstart : backend.start order socket = (work, socket')) :
    Moves backend world ⟨⟨socket, phase⟩, some (action, .fresh action), past⟩
      ⟨⟨socket', phase'⟩, some (action, (purposeOf order).stage work), past⟩
  /-- The order in progress takes longer. -/
  | waits {socket socket' : σ} {phase : Phase} {action : Action} {purpose : Purpose}
    {work work' : κ} {past}
    (hpoll : backend.poll work socket = (.pending, work', socket')) :
    Moves backend world ⟨⟨socket, phase⟩, some (action, purpose.stage work), past⟩
      ⟨⟨socket', phase⟩, some (action, purpose.stage work'), past⟩
  /-- The order in progress is carried out, and the action has its answer. -/
  | concludes {socket socket' : σ} {phase phase' : Phase} {action : Action} {purpose : Purpose}
    {work work' : κ} {reply answer} {past}
    (hpoll : backend.poll work socket = (.ready reply, work', socket'))
    (hconclusion : purpose.conclusion phase reply = some (answer, phase')) :
    Moves backend world ⟨⟨socket, phase⟩, some (action, purpose.stage work), past⟩
      ⟨⟨socket', phase'⟩, none, past ++ [(action, some answer)]⟩
  /-- The peer turns out to have left, which is answered by closing. -/
  | leaves {socket socket' socket'' : σ} {phase : Phase} {action : Action} {purpose : Purpose}
    {work work' closing : κ} {reply} {past}
    (hpoll : backend.poll work socket = (.ready reply, work', socket'))
    (hconclusion : purpose.conclusion phase reply = none)
    (hstart : backend.start .close socket' = (closing, socket'')) :
    Moves backend world ⟨⟨socket, phase⟩, some (action, purpose.stage work), past⟩
      ⟨⟨socket'', .closed⟩, some (action, Purpose.leaving.stage closing), past⟩
  /-- The action in progress is dropped, and its order with it. -/
  | abandons {socket : σ} {phase : Phase} {action : Action} {purpose : Purpose} {work : κ} {past} :
    Moves backend world ⟨⟨socket, phase⟩, some (action, purpose.stage work), past⟩
      ⟨⟨backend.abandon work socket, phase⟩, none, past ++ [(action, none)]⟩
  /-- The other end does something. -/
  | outside {socket : σ} {phase : Phase} {current past} (act : ω) :
    Moves backend world ⟨⟨socket, phase⟩, current, past⟩ ⟨⟨world act socket, phase⟩, current, past⟩

section Steps

open Relation

variable {backend : Backend σ κ} {world : ω → σ → σ} {socket : σ} {phase : Phase} {action : Action}
  {purpose : Purpose} {work : κ} {past : List (Action × Option (Except Error Session.Answer))}

/-- The order that closes a session whose peer has left takes longer, or the action is over. -/
theorem moves_polls_leaving :
    Moves backend world ⟨⟨socket, phase⟩, some (action, Purpose.leaving.stage work), past⟩
      (step backend world ⟨⟨socket, phase⟩, some (action, Purpose.leaving.stage work), past⟩
        .polls) := by
  rcases hpoll : backend.poll work socket with ⟨reply | -, work', socket'⟩
  · have hdone : Purpose.leaving.conclusion phase reply = some (.ok (.item none), phase) := rfl
    simp only [step, poll_of_conclusion backend hpoll hdone]
    exact .concludes hpoll hdone
  · simp only [step, poll_of_pending backend hpoll]
    exact .waits hpoll

/-- The order in progress takes longer or is carried out; and another one may follow in the same
poll. -/
theorem moves_polls_ordered :
    ReflTransGen (Moves backend world) ⟨⟨socket, phase⟩, some (action, purpose.stage work), past⟩
      (step backend world ⟨⟨socket, phase⟩, some (action, purpose.stage work), past⟩ .polls) := by
  rcases hpoll : backend.poll work socket with ⟨reply | -, work', socket'⟩
  · rcases hconclusion : purpose.conclusion phase reply with - | ⟨answer, phase'⟩
    -- The order to close is polled at once, which is a second move in the same step.
    · refine .head (.leaves hpoll hconclusion rfl) ?_
      have hclosing : Moves backend world ⟨⟨(backend.start .close socket').2, .closed⟩,
          some (action, Purpose.leaving.stage (backend.start .close socket').1), past⟩ _ :=
        moves_polls_leaving
      simp only [step, poll_of_no_conclusion backend hpoll hconclusion] at hclosing ⊢
      exact .single hclosing
    · simp only [step, poll_of_conclusion backend hpoll hconclusion]
      exact .single (.concludes hpoll hconclusion)
  · simp only [step, poll_of_pending backend hpoll]
    exact .single (.waits hpoll)

/-- An action that is polled for the first time has an answer, or an order is given and polled. -/
theorem moves_polls_fresh :
    ReflTransGen (Moves backend world) ⟨⟨socket, phase⟩, some (action, .fresh action), past⟩
      (step backend world ⟨⟨socket, phase⟩, some (action, .fresh action), past⟩ .polls) := by
  rcases hopening : action.opening phase with ⟨answer | order, phase'⟩
  · simp only [step, poll_fresh_of_inl backend hopening]
    exact .single (.answers hopening)
  -- The order is polled at once, so its own moves follow in the same step.
  · refine .head (.orders hopening rfl) ?_
    have hordered : ReflTransGen (Moves backend world) ⟨⟨(backend.start order socket).2, phase'⟩,
        some (action, (purposeOf order).stage (backend.start order socket).1), past⟩ _ :=
      moves_polls_ordered
    simp only [step, poll_fresh_of_inr backend hopening] at hordered ⊢
    exact hordered

/-- A step is a sequence of moves. -/
theorem moves_step {course : Course σ κ} (h : course.Proper) (next : Step ω) :
    ReflTransGen (Moves backend world) course (course.step backend world next) := by
  obtain ⟨⟨socket, phase⟩, current, past⟩ := course
  cases next with
  | begins action =>
    cases current with
    | none => exact .single (.begins action)
    | some _ => exact .refl
  | polls =>
    rcases current with - | ⟨action, stage⟩
    · exact .refl
    · rcases exists_stage_eq stage with ⟨other, rfl⟩ | ⟨purpose, work, rfl⟩
      · cases h.fresh action other rfl
        exact moves_polls_fresh
      · exact moves_polls_ordered
  | drops =>
    rcases current with - | ⟨action, stage⟩
    · exact .refl
    -- Without an order there is nothing to abandon, and nothing that would belong to the past.
    · rcases exists_stage_eq stage with ⟨other, rfl⟩ | ⟨purpose, work, rfl⟩
      · cases h.fresh action other rfl
        exact .single .forgets
      · have habandons : Moves backend world
            ⟨⟨socket, phase⟩, some (action, purpose.stage work), past⟩
            ⟨⟨backend.abandon work socket, phase⟩, none, past ++ [(action, none)]⟩ := .abandons
        cases purpose <;> exact .single habandons
  | outside act => exact .single (.outside act)

end Steps

section Polled

variable {backend : Backend σ κ} {world : ω → σ → σ} {socket socket' : σ} {phase phase' : Phase}
  {action : Action} {purpose : Purpose} {work work' : κ} {reply : Except Error Reply}
  {past : List (Action × Option (Except Error Session.Answer))}

/-- An action that begins with an order is polled like that order. -/
theorem step_polls_of_inr {order : Order} (hopening : action.opening phase = (.inr order, phase')) :
    step backend world ⟨⟨socket, phase⟩, some (action, .fresh action), past⟩ .polls =
      step backend world ⟨⟨(backend.start order socket).2, phase'⟩,
        some (action, (purposeOf order).stage (backend.start order socket).1), past⟩ .polls := by
  simp only [step, poll_fresh_of_inr backend hopening]

theorem step_polls_of_pending (h : backend.poll work socket = (.pending, work', socket')) :
    step backend world ⟨⟨socket, phase⟩, some (action, purpose.stage work), past⟩ .polls =
      ⟨⟨socket', phase⟩, some (action, purpose.stage work'), past⟩ := by
  simp only [step, poll_of_pending backend h]

theorem step_polls_of_conclusion {answer : Except Error Session.Answer}
    (h : backend.poll work socket = (.ready reply, work', socket'))
    (hanswer : purpose.conclusion phase reply = some (answer, phase')) :
    step backend world ⟨⟨socket, phase⟩, some (action, purpose.stage work), past⟩ .polls =
      ⟨⟨socket', phase'⟩, none, past ++ [(action, some answer)]⟩ := by
  simp only [step, poll_of_conclusion backend h hanswer]

theorem step_polls_of_order_pending {order : Order}
    (hopening : action.opening phase = (.inr order, phase'))
    (h : backend.poll (backend.start order socket).1 (backend.start order socket).2 =
      (.pending, work', socket')) :
    step backend world ⟨⟨socket, phase⟩, some (action, .fresh action), past⟩ .polls =
      ⟨⟨socket', phase'⟩, some (action, (purposeOf order).stage work'), past⟩ := by
  rw [step_polls_of_inr hopening, step_polls_of_pending h]

/-- The order may be carried out in the same poll. -/
theorem step_polls_of_order {order : Order} {phase'' : Phase} {answer : Except Error Session.Answer}
    (hopening : action.opening phase = (.inr order, phase'))
    (h : backend.poll (backend.start order socket).1 (backend.start order socket).2 =
      (.ready reply, work', socket'))
    (hanswer : (purposeOf order).conclusion phase' reply = some (answer, phase'')) :
    step backend world ⟨⟨socket, phase⟩, some (action, .fresh action), past⟩ .polls =
      ⟨⟨socket', phase''⟩, none, past ++ [(action, some answer)]⟩ := by
  rw [step_polls_of_inr hopening, step_polls_of_conclusion h hanswer]

/-- A peer that has left is answered by closing, which may be done in the same poll. -/
theorem step_polls_of_no_conclusion {reply' : Except Error Reply} {work'' : κ} {socket'' : σ}
    (h : backend.poll work socket = (.ready reply, work', socket'))
    (hleft : purpose.conclusion phase reply = none)
    (hclose : backend.poll (backend.start .close socket').1 (backend.start .close socket').2 =
      (.ready reply', work'', socket'')) :
    step backend world ⟨⟨socket, phase⟩, some (action, purpose.stage work), past⟩ .polls =
      ⟨⟨socket'', .closed⟩, none, past ++ [(action, some (.ok (.item none)))]⟩ := by
  have hdone : Purpose.leaving.conclusion .closed reply' = some (.ok (.item none), .closed) := rfl
  simp only [step, poll_of_no_conclusion backend h hleft, poll_of_conclusion backend hclose hdone]

end Polled

section Invariants

open Relation

variable {backend : Backend σ κ} {world : ω → σ → σ} {course course' : Course σ κ}

theorem Moves.proper (hmove : Moves backend world course course') (h : course.Proper) :
    course'.Proper := by
  cases hmove with
  | begins action => exact proper_of_fresh rfl
  | @orders socket socket' phase phase' action order work past hopening hstart =>
    -- Each action gives the order that it is for.
    refine proper_of_stage rfl ?_
    cases action <;> cases phase <;> cases hopening
    · exact rfl
    · exact ⟨_, rfl⟩
    · exact rfl
    · exact rfl
  | waits => exact proper_of_stage rfl (h.ordered _ _ rfl _ _ (order?_stage _ _))
  | @leaves socket socket' socket'' phase action purpose work work' closing reply past hpoll
      hconclusion hstart =>
    -- Only who waits for a message finds out that the peer has left.
    have hpurpose : purpose = .receiving := by
      cases purpose <;> cases reply <;> first | rfl | cases hconclusion
    have hnext := h.ordered _ _ rfl _ _ (order?_stage _ _)
    rw [hpurpose] at hnext
    exact proper_of_stage rfl hnext
  | outside act => exact ⟨h.fresh, h.ordered⟩
  | _ => exact proper_of_none rfl

theorem Proper.of_moves (h : course.Proper)
    (hmoves : ReflTransGen (Moves backend world) course course') : course'.Proper := by
  induction hmoves with
  | refl => exact h
  | tail _ hmove ih => exact hmove.proper ih

/-- All steps together are a sequence of moves. -/
theorem moves_run (h : course.Proper) (steps : List (Step ω)) :
    ReflTransGen (Moves backend world) course (course.run backend world steps) := by
  induction steps using List.reverseRecOn with
  | nil => exact .refl
  | append_singleton steps last ih =>
    rw [run_concat]
    exact ih.trans (moves_step (h.of_moves ih) last)

theorem Proper.run (h : course.Proper) (steps : List (Step ω)) :
    (course.run backend world steps).Proper :=
  h.of_moves (moves_run h steps)

/-- What every move keeps is so after all steps if it was so before. -/
theorem invariant_run (Invariant : Course σ κ → Prop) (hproper : course.Proper)
    (hmoves : ∀ {before after : Course σ κ}, before.Proper → Moves backend world before after →
      Invariant before → Invariant after)
    (h : Invariant course) (steps : List (Step ω)) :
    Invariant (course.run backend world steps) := by
  -- By induction on the moves rather than the steps, for one step may be several moves.
  have hrun : ReflTransGen (Moves backend world) course (course.run backend world steps) :=
    moves_run hproper steps
  generalize course.run backend world steps = reached at hrun ⊢
  induction hrun with
  | refl => exact h
  | tail hbefore hmove ih => exact hmoves (hproper.of_moves hbefore) hmove ih

end Invariants

end Course

/-! ### Backends that keep more -/

/-- Sockets `τ` are sockets `σ` with something kept besides, which makes no difference to them. -/
structure Backend.Extends {τ : Type} (detailed : Backend τ κ) (backend : Backend σ κ)
    (forget : τ → σ) : Prop where
  start : ∀ order socket, backend.start order (forget socket) =
    ((detailed.start order socket).1, forget (detailed.start order socket).2)
  poll : ∀ work socket, backend.poll work (forget socket) =
    ((detailed.poll work socket).1, (detailed.poll work socket).2.1,
      forget (detailed.poll work socket).2.2)
  abandon : ∀ work socket,
    backend.abandon work (forget socket) = forget (detailed.abandon work socket)

section Forgetting

open Session

variable {τ : Type} {detailed : Backend τ κ} {backend : Backend σ κ} {forget : τ → σ}

/-- The session over what is left of a socket. -/
def Session.map (forget : τ → σ) (session : Session τ) : Session σ :=
  ⟨forget session.socket, session.phase⟩

/-- The course of the session over what is left of a socket. -/
def Course.map (forget : τ → σ) (course : Course τ κ) : Course σ κ :=
  ⟨course.session.map forget, course.current, course.past⟩

/-- The outcome for the session over what is left of a socket. -/
def Session.Outcome.map (forget : τ → σ) (outcome : Outcome τ κ) : Outcome σ κ :=
  (outcome.1, outcome.2.1, outcome.2.2.map forget)

/-- What is kept besides makes no difference to an order in progress if it makes none to the order
with which a peer that has left is answered. -/
theorem Session.poll_map_of_left (h : detailed.Extends backend forget) {purpose : Purpose}
    (hleft : purpose ≠ .leaving → ∀ socket : τ,
      poll backend ⟨(backend.start .close (forget socket)).2, .closed⟩
          (Purpose.leaving.stage (backend.start .close (forget socket)).1) =
        Outcome.map forget (poll detailed ⟨(detailed.start .close socket).2, .closed⟩
          (Purpose.leaving.stage (detailed.start .close socket).1)))
    (socket : τ) (phase : Phase) (work : κ) :
    poll backend ⟨forget socket, phase⟩ (purpose.stage work) =
      Outcome.map forget (poll detailed ⟨socket, phase⟩ (purpose.stage work)) := by
  have hforget := h.poll work socket
  -- The order waits, or ends the action, or leads to an order of closing, which `hleft` is about.
  rcases hpoll : detailed.poll work socket with ⟨reply | -, work', socket'⟩
  · rw [hpoll] at hforget
    rcases hconclusion : purpose.conclusion phase reply with - | ⟨answer, phase'⟩
    · rw [poll_of_no_conclusion backend hforget hconclusion,
        poll_of_no_conclusion detailed hpoll hconclusion]
      exact hleft (by rintro rfl; cases hconclusion) socket'
    · rw [poll_of_conclusion backend hforget hconclusion,
        poll_of_conclusion detailed hpoll hconclusion]
      rfl
  · rw [hpoll] at hforget
    rw [poll_of_pending backend hforget, poll_of_pending detailed hpoll]
    rfl

/-- What is kept besides makes no difference to an order in progress. -/
theorem Session.poll_map_ordered (h : detailed.Extends backend forget) (socket : τ) (phase : Phase)
    (purpose : Purpose) (work : κ) :
    poll backend ⟨forget socket, phase⟩ (purpose.stage work) =
      Outcome.map forget (poll detailed ⟨socket, phase⟩ (purpose.stage work)) := by
  refine poll_map_of_left h (fun _ socket => ?_) socket phase work
  rw [h.start]
  exact poll_map_of_left h (absurd rfl) _ _ _

/-- What is kept besides makes no difference to a session. -/
theorem Session.poll_map (h : detailed.Extends backend forget) (session : Session τ)
    (stage : Stage κ) :
    (session.map forget).poll backend stage = Outcome.map forget (session.poll detailed stage) := by
  obtain ⟨socket, phase⟩ := session
  show poll backend ⟨forget socket, phase⟩ stage = _
  rcases exists_stage_eq stage with ⟨action, rfl⟩ | ⟨purpose, work, rfl⟩
  · rcases hopening : action.opening phase with ⟨answer | order, phase'⟩
    · rw [poll_fresh_of_inl backend hopening, poll_fresh_of_inl detailed hopening]
      rfl
    · rw [poll_fresh_of_inr backend hopening, poll_fresh_of_inr detailed hopening, h.start]
      exact poll_map_ordered h _ _ _ _
  · exact poll_map_ordered h _ _ _ _

variable {ω : Type} {world : ω → σ → σ} {detailedWorld : ω → τ → τ}

theorem Course.step_map (h : detailed.Extends backend forget)
    (hworld : ∀ act socket, world act (forget socket) = forget (detailedWorld act socket))
    (course : Course τ κ) (next : Step ω) :
    (course.map forget).step backend world next =
      (course.step detailed detailedWorld next).map forget := by
  obtain ⟨session, current, past⟩ := course
  cases next with
  | begins action => cases current <;> rfl
  | polls =>
    rcases current with - | ⟨action, stage⟩
    · rfl
    · have hpoll := session.poll_map h stage
      simp only [step, map, hpoll, Outcome.map]
      rcases session.poll detailed stage with ⟨answer | -, stage', session'⟩ <;> rfl
  | drops =>
    rcases current with - | ⟨action, stage⟩
    · rfl
    · cases stage with
      | fresh other => rfl
      | _ => simp only [step, map, Session.map, abandon, h.abandon]
  | outside act => simp only [step, map, Session.map, hworld]

/-- Nobody notices what a backend keeps besides. -/
theorem Course.run_map (h : detailed.Extends backend forget)
    (hworld : ∀ act socket, world act (forget socket) = forget (detailedWorld act socket))
    (course : Course τ κ) (steps : List (Step ω)) :
    (course.map forget).run backend world steps =
      (course.run detailed detailedWorld steps).map forget := by
  induction steps generalizing course with
  | nil => rfl
  | cons next rest ih =>
    show Course.run backend world (step backend world _ next) rest = _
    rw [step_map h hworld, ih]
    rfl

end Forgetting

end Inbound.WebSocket
