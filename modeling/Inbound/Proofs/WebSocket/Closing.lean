import Inbound.Proofs.WebSocket.Outgoing

/-!
# Whether the client hears of the end

A session over event channels counts as closed as soon as its closing event is to go out, which may
have to wait for room. If the handler drops the action that waits, nobody tries again: whoever asks
is told that the session is closed, but the client never hears of it. That is the only way in which
the closing event gets lost while the client has its receiving end.

## Main results

* `Course.forsaken_iff`: when the closing event was given up;
* `Course.closes_iff_not_dropped`: the client hears of the end just if it was not;
* `Course.told_unheard`: handlers that are told of an end of which the client does not hear.
-/

namespace Inbound.WebSocket

section Polling

open Session

variable {σ κ α : Type} {backend : Backend σ κ} {view : σ → α}
  (hstart : ∀ order socket, view (backend.start order socket).2 = view socket)
  (hpoll : ∀ work socket, view (backend.poll work socket).2.2 = view socket)

include hpoll in
theorem Session.view_poll_leaving (socket : σ) (phase : Phase) (work : κ) :
    view (poll backend ⟨socket, phase⟩ (Purpose.leaving.stage work)).2.2.socket = view socket := by
  have hkeeps := hpoll work socket
  rcases hpolled : backend.poll work socket with ⟨reply | -, work', socket'⟩ <;>
    rw [hpolled] at hkeeps
  · have hdone : Purpose.leaving.conclusion phase reply = some (.ok (.item none), phase) := rfl
    rw [poll_of_conclusion backend hpolled hdone]
    exact hkeeps
  · rw [poll_of_pending backend hpolled]
    exact hkeeps

include hstart hpoll

theorem Session.view_poll_ordered (socket : σ) (phase : Phase) (purpose : Purpose) (work : κ) :
    view (poll backend ⟨socket, phase⟩ (purpose.stage work)).2.2.socket = view socket := by
  have hkeeps := hpoll work socket
  rcases hpolled : backend.poll work socket with ⟨reply | -, work', socket'⟩ <;>
    rw [hpolled] at hkeeps
  · rcases hconclusion : purpose.conclusion phase reply with - | ⟨answer, phase'⟩
    · rw [poll_of_no_conclusion backend hpolled hconclusion, view_poll_leaving hpoll, hstart]
      exact hkeeps
    · rw [poll_of_conclusion backend hpolled hconclusion]
      exact hkeeps
  · rw [poll_of_pending backend hpolled]
    exact hkeeps

/-- What neither the beginning nor a poll of an order changes about a socket is the same after an
action was polled. -/
theorem Session.view_poll (session : Session σ) (stage : Stage κ) :
    view (session.poll backend stage).2.2.socket = view session.socket := by
  obtain ⟨socket, phase⟩ := session
  rcases exists_stage_eq stage with ⟨action, rfl⟩ | ⟨purpose, work, rfl⟩
  · rcases hopening : action.opening phase with ⟨answer | order, phase'⟩
    · rw [poll_fresh_of_inl backend hopening]
    · rw [poll_fresh_of_inr backend hopening, view_poll_ordered hstart hpoll, hstart]
  · exact view_poll_ordered hstart hpoll socket phase purpose work

end Polling

section Told

open Session

variable {past : List (Action × Option (Except Error Session.Answer))}

theorem countP_greeting : (greeting past).countP (·.IsClose) = 0 := by
  rw [List.countP_eq_zero]
  intro event hevent
  simpa using not_isClose_of_mem_greeting hevent

/-- What has been put out when the handler of an opened session was told that it is closed. -/
theorem Speaks.posted_of_told {hasReceiver forsaken isBusy : Bool} {phase : Phase}
    {posted : List Event} (h : Speaks hasReceiver forsaken phase isBusy posted past)
    (hopened : IsOpened past) (htold : IsTold past) :
    forsaken = false ∧ posted = greeting past ++ [.close normalClosure] ∨
      (forsaken = true ∨ hasReceiver = false) ∧ posted = greeting past := by
  cases h with
  | silent _ _ hnot => exact absurd hopened hnot
  | speaking _ hnot => exact absurd htold hnot
  | closed hforsaken => exact .inl ⟨hforsaken, rfl⟩
  | unheard hunheard => exact .inr ⟨hunheard, rfl⟩

end Told

namespace Course

open Session Channel

/-- The closing event waits for room. -/
def IsClosing (course : Course Feed Work) : Prop :=
  ∃ purpose, course.order? = some (purpose, .closing)

/-- The closing event is given up by dropping the action in which it waits. -/
theorem forsaken_step (course : Course Feed Work) (next : Step ClientAct) :
    (course.step Feed.backend Feed.act next).session.socket.forsaken = true ↔
      course.session.socket.forsaken = true ∨ next = .drops ∧ course.IsClosing := by
  obtain ⟨session, current, past⟩ := course
  cases next with
  | begins action => cases current <;> simp [step]
  | polls =>
    rcases current with - | ⟨action, stage⟩
    · simp [step]
    · have hforsaken : (session.poll Feed.backend stage).2.2.socket.forsaken =
          session.socket.forsaken :=
        session.view_poll (fun order socket => by rw [Feed.start_snd]) (fun _ _ => rfl) stage
      simp only [step, reduceCtorEq, false_and, or_false]
      rcases hpolled : session.poll Feed.backend stage with ⟨answer | -, stage', session'⟩ <;>
        rw [hpolled] at hforsaken <;> exact Bool.eq_iff_iff.mp hforsaken
  | drops =>
    rcases current with - | ⟨action, stage⟩
    · simp [step, IsClosing, order?]
    -- An action that has not been polled has no order that it could give up.
    · rcases exists_stage_eq stage with ⟨other, rfl⟩ | ⟨purpose, work, rfl⟩
      · simp [step, IsClosing, order?, Stage.order?]
      · have hclosing : IsClosing ⟨session, some (action, purpose.stage work), past⟩ ↔
            work.isClosing = true := by
          cases work <;> simp [IsClosing, order?, Work.isClosing]
        rw [hclosing]
        cases purpose <;> simp [step, Purpose.stage, abandon]
  | outside act => simp [step, Feed.act]

section Fed

variable (incoming outgoing : Nat)

theorem fed_concat (steps : List (Step ClientAct)) (last : Step ClientAct) :
    fed incoming outgoing (steps ++ [last]) =
      (fed incoming outgoing steps).step Feed.backend Feed.act last :=
  run_concat _ _ _ _ _

/-- The closing event was given up if at some moment the action was dropped in which it waited. -/
theorem forsaken_iff (steps : List (Step ClientAct)) :
    (fed incoming outgoing steps).session.socket.forsaken = true ↔
      ∃ before, before ++ [.drops] <+: steps ∧ (fed incoming outgoing before).IsClosing := by
  -- By induction on the steps, the last of which may be the one that did it.
  induction steps using List.reverseRecOn with
  | nil => simp [fed, start, Feed.ofCapacities, Session.create]
  | append_singleton steps last ih =>
    rw [fed_concat, forsaken_step, ih, exists_before_concat]

end Fed

/-- How many closing events have been put out. -/
def closings (course : Course Feed Work) : Nat :=
  course.session.socket.posted.countP (·.IsClose)

/-- Once a handler is told that an opened session is closed, the closing event has been put out, or
it was given up or nobody was there to receive it. -/
theorem IsInOrder.closings_cases {course : Course Feed Work} (h : course.IsInOrder)
    (hopened : IsOpened course.past) (htold : IsTold course.past) :
    course.session.socket.forsaken = false ∧ course.closings = 1 ∨
      (course.session.socket.forsaken = true ∨ course.session.socket.hasReceiver = false) ∧
        course.closings = 0 := by
  rcases h.speaks.posted_of_told hopened htold with ⟨hforsaken, hposted⟩ | ⟨hunheard, hposted⟩
  · refine .inl ⟨hforsaken, ?_⟩
    rw [closings, hposted, List.countP_append, countP_greeting]
    rfl
  · exact .inr ⟨hunheard, by rw [closings, hposted, countP_greeting]⟩

/-- Of a session over event channels that was opened, the handler was told that it is closed, by
`close` or by the end of the messages. If the client has kept its receiving end, then exactly one
`close` has been put out, unless the handler has dropped an action in which it waited for room; in
that case there was none, and there will be none. -/
theorem closes_iff_not_dropped (incoming outgoing : Nat) (steps : List (Step ClientAct))
    (hopened : IsOpened (fed incoming outgoing steps).past)
    (htold : IsTold (fed incoming outgoing steps).past)
    (hreceiver : (fed incoming outgoing steps).session.socket.hasReceiver = true) :
    let dropped : Prop :=
      ∃ before, before ++ [.drops] <+: steps ∧ (fed incoming outgoing before).IsClosing
    ((fed incoming outgoing steps).closings = 1 ↔ ¬ dropped) ∧
      (dropped → ∀ later, (fed incoming outgoing (steps ++ later)).closings = 0) := by
  intro dropped
  have hdropped (later : List (Step ClientAct)) (h : dropped) :
      (fed incoming outgoing (steps ++ later)).session.socket.forsaken = true := by
    obtain ⟨before, hbefore, hclosing⟩ := h
    exact (forsaken_iff _ _ _).mpr ⟨before, hbefore.trans (List.prefix_append _ _), hclosing⟩
  refine ⟨⟨fun hcount h => ?_, fun h => ?_⟩, fun h later => ?_⟩
  · have hforsaken := hdropped [] h
    rw [List.append_nil] at hforsaken
    rcases (isInOrder_fed incoming outgoing steps).closings_cases hopened htold with
      ⟨hkept, -⟩ | ⟨-, hnone⟩
    · simp [hforsaken] at hkept
    · simp [hcount] at hnone
  · rcases (isInOrder_fed incoming outgoing steps).closings_cases hopened htold with
      ⟨-, hcount⟩ | ⟨hforsaken | hgone, -⟩
    · exact hcount
    · exact absurd ((forsaken_iff _ _ _).mp hforsaken) h
    · simp [hreceiver] at hgone
  · -- What the handler was told it is told for good.
    obtain ⟨entries, -, hpast, -⟩ := yields_fed incoming outgoing steps later
    have hopened' : IsOpened (fed incoming outgoing (steps ++ later)).past := by
      rw [hpast]
      exact List.mem_append_left _ hopened
    have htold' : IsTold (fed incoming outgoing (steps ++ later)).past := by
      rw [hpast]
      exact htold.imp (List.mem_append_left _) (List.mem_append_left _)
    rcases (isInOrder_fed incoming outgoing (steps ++ later)).closings_cases hopened' htold' with
      ⟨hkept, -⟩ | ⟨-, hnone⟩
    · simp [hdropped later h] at hkept
    · exact hnone

/-- The client takes the answer to its `connect` only after the handler has begun to close the
session, and the handler waits for that. -/
def patient : List (Step ClientAct) :=
  [.outside (.send .connect), .begins .prepare, .polls, .begins .close, .polls,
    .outside (.take 1), .polls]

theorem closes_of_patient :
    IsOpened (fed 1 1 patient).past ∧ IsTold (fed 1 1 patient).past ∧
      (fed 1 1 patient).session.socket.hasReceiver = true ∧
      (fed 1 1 patient).closings = 1 ∧
      ¬ ∃ before, before ++ [.drops] <+: patient ∧ (fed 1 1 before).IsClosing := by
  have hpast : (fed 1 1 patient).past =
      [(.prepare, some (.ok .done)), (.close, some (.ok .done))] := rfl
  have hopened : IsOpened (fed 1 1 patient).past := by simp [IsOpened, hpast]
  have htold : IsTold (fed 1 1 patient).past := by simp [IsTold, hpast]
  exact ⟨hopened, htold, rfl, rfl, (closes_iff_not_dropped 1 1 patient hopened htold rfl).1.mp rfl⟩

/-- The client does not take the answer to its `connect`, so that there is no room for a `close`
when the handler closes the session, drops that, and closes it again. -/
def hasty : List (Step ClientAct) :=
  [.outside (.send .connect), .begins .prepare, .polls, .begins .close, .polls, .drops,
    .begins .close, .polls]

/-- There is no room either when the handler waits for a message, the client having left; it drops
that, and asks for a message again. -/
def forgetful : List (Step ClientAct) :=
  [.outside (.send .connect), .begins .prepare, .polls, .outside (.send (.disconnect 1001)),
    .begins .next, .polls, .drops, .begins .next, .polls]

/-- Both handlers are told that the session is closed, and their clients hear nothing of it. -/
theorem told_unheard :
    (IsOpened (fed 1 1 hasty).past ∧ (.close, some (.ok .done)) ∈ (fed 1 1 hasty).past ∧
      (fed 1 1 hasty).session.socket.hasReceiver = true ∧ (fed 1 1 hasty).closings = 0) ∧
    (IsOpened (fed 1 1 forgetful).past ∧ IsEnded (fed 1 1 forgetful).past ∧
      (fed 1 1 forgetful).session.socket.hasReceiver = true ∧
        (fed 1 1 forgetful).closings = 0) := by
  have hhasty : (fed 1 1 hasty).past =
      [(.prepare, some (.ok .done)), (.close, none), (.close, some (.ok .done))] := rfl
  have hforgetful : (fed 1 1 forgetful).past =
      [(.prepare, some (.ok .done)), (.next, none), (.next, some (.ok (.item none)))] := rfl
  exact ⟨⟨by simp [IsOpened, hhasty], by simp [hhasty], rfl, rfl⟩,
    by simp [IsOpened, hforgetful], by simp [IsEnded, hforgetful], rfl, rfl⟩

end Course

end Inbound.WebSocket
