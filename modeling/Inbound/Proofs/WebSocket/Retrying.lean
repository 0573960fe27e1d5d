import Inbound.Proofs.WebSocket.Alike
import Inbound.Proofs.WebSocket.Awaiting

/-!
# Trying the handshake again

As long as the handshake has not been answered, the handler may drop it and begin anew. Event
channels are none the worse for that: what the client says stays on its lane until it is answered,
so that everything goes on as if nothing had been tried. A connection is only the same as long as
the handshake has not been polled. From then on it belongs to that handshake, and is gone with it.

## Main definitions

* `Course.OnlyTried`: whatever the handler did, the handshake has not been answered;
* `Course.IsRetryable`: it has made no difference;
* `Stream.IsSpoilt`: the session is still to be opened, but never can be.

## Main results

* `Course.run_behind`: what is past does not matter for what comes;
* `Channel.untried_or_decided`, `Stream.standing_or_decided`: what comes of handshakes that are
  dropped;
* `Course.retryable_of_tried`: over channels they make no difference, and over a connection just if
  none was polled.
-/

namespace Inbound.WebSocket

variable {σ κ ω : Type}

namespace Course

open Session

/-! ### What is past -/

section Past

variable (backend : Backend σ κ) (world : ω → σ → σ)

/-- The course with other actions before all that were over. -/
def behind (past : List (Action × Option (Except Error Session.Answer))) (course : Course σ κ) :
    Course σ κ :=
  { course with past := past ++ course.past }

theorem step_behind (past) (course : Course σ κ) (next : Step ω) :
    (course.behind past).step backend world next =
      (course.step backend world next).behind past := by
  obtain ⟨session, current, recent⟩ := course
  cases next with
  | begins action => cases current <;> rfl
  | polls =>
    rcases current with - | ⟨action, stage⟩
    · rfl
    · simp only [behind, step]
      rcases session.poll backend stage with ⟨answer | -, stage', session'⟩
      · simp only [List.append_assoc]
      · rfl
  | drops =>
    rcases current with - | ⟨action, stage⟩
    · rfl
    · cases stage <;> simp only [behind, step, List.append_assoc]
  | outside act => rfl

/-- What is past does not matter for what comes. -/
theorem run_behind (past) (course : Course σ κ) (steps : List (Step ω)) :
    (course.behind past).run backend world steps =
      (course.run backend world steps).behind past := by
  induction steps using List.reverseRecOn with
  | nil => rfl
  | append_singleton steps last ih => rw [run_concat, run_concat, ih, step_behind]

/-- What is past stays so. -/
theorem past_prefix_step (course : Course σ κ) (next : Step ω) :
    course.past <+: (course.step backend world next).past := by
  have hbehind : course = (⟨course.session, course.current, []⟩ : Course σ κ).behind course.past :=
    by rw [behind, List.append_nil]
  rw [hbehind, step_behind]
  simp [behind]

end Past

/-- Something other than a text that was to be sent has been answered. -/
def IsDecided (course : Course σ κ) : Prop :=
  ∃ action answer, (action, some answer) ∈ course.past ∧ ∀ text, action ≠ .send text

theorem IsDecided.step {backend : Backend σ κ} {world : ω → σ → σ} {course : Course σ κ}
    (h : course.IsDecided) (next : Step ω) : (course.step backend world next).IsDecided := by
  obtain ⟨action, answer, hmem, haction⟩ := h
  exact ⟨action, answer, (past_prefix_step backend world course next).subset hmem, haction⟩

/-- The handler is in the middle of nothing, and has got no answer but that texts cannot be sent
yet. Each handshake that it tried was dropped before it was answered. -/
structure OnlyTried (course : Course σ κ) : Prop where
  idle : course.current = none
  undecided : ¬ course.IsDecided

/-! ### Sessions that can be tried again -/

/-- Nothing that the handler has done makes a difference to the session over a socket: whatever
comes now comes as if the handler had left the socket alone so far. -/
structure IsRetryable (backend : Backend σ κ) (world : ω → σ → σ) (gateway : Gateway σ) (socket : σ)
    (course : Course σ κ) : Prop where
  created : course.session.phase = .created
  isOpen : gateway.IsOpen course.session.socket
  alike : ∀ later : List (Step ω), course.run backend world later =
    ((start socket).run backend world later).behind course.past
  accepts : course.Accepts backend world gateway socket

/-- A session over a socket that was left alone is still as good as new. -/
theorem isRetryable_of_untouched {backend : Backend σ κ} {world : ω → σ → σ} {gateway : Gateway σ}
    {socket : σ} {course : Course σ κ} (hsession : course.session = .create socket)
    (hidle : course.current = none) (hopen : gateway.IsOpen socket)
    (haccepts : (start socket).Accepts backend world gateway socket) :
    course.IsRetryable backend world gateway socket := by
  have hbehind : course = (start socket).behind course.past := by
    rw [start, behind, List.append_nil, ← hsession, ← hidle]
  refine ⟨by rw [hsession, create], by rwa [hsession], fun later => ?_,
    fun steps hpatient harrived => ?_⟩
  · rw [← run_behind, ← hbehind]
  · obtain ⟨socket', hrun⟩ := haccepts steps hpatient harrived
    refine ⟨socket', ?_⟩
    calc
      _ = ((start socket).behind course.past).run backend world _ := by rw [← hbehind]
      _ = _ := by rw [run_behind, hrun]; rfl

/-! ### Before the handshake is polled -/

/-- No action is in progress that has been polled. -/
inductive Unpolled : Option (Action × Stage κ) → Prop where
  | none : Unpolled none
  | fresh (action : Action) : Unpolled (some (action, .fresh action))

/-- Before the handshake is polled, nothing happens to the socket but what the other end does. -/
theorem Unpolled.step (backend : Backend σ κ) (world : ω → σ → σ) {current} (h : Unpolled current)
    (socket : σ) (past) (next : Step ω) :
    (∃ current' past', Unpolled current' ∧
        (⟨.create socket, current, past⟩ : Course σ κ).step backend world next =
          ⟨.create (next.touch world socket), current', past'⟩) ∨
      ((⟨.create socket, current, past⟩ : Course σ κ).step backend world next).IsDecided ∨
      current = some (.prepare, .fresh .prepare) ∧ next = .polls := by
  cases next with
  | begins action =>
    cases h with
    | none => exact .inl ⟨_, past, .fresh action, rfl⟩
    | fresh other => exact .inl ⟨_, past, .fresh other, rfl⟩
  | drops => cases h <;> exact .inl ⟨_, past, .none, rfl⟩
  | outside act => exact .inl ⟨_, past, h, rfl⟩
  | polls =>
    cases h with
    | none => exact .inl ⟨_, past, .none, rfl⟩
    | fresh action =>
      -- The handshake is what is polled. A text is refused, and all else decides what the session
      -- is.
      cases action with
      | prepare => exact .inr (.inr ⟨rfl, rfl⟩)
      | send text => exact .inl ⟨_, _, .none, rfl⟩
      | next | close => exact .inr (.inl ⟨_, _, List.mem_concat_self, by simp⟩)

end Course

/-! ### Handshakes over event channels -/

namespace Channel

open Session Course

/-- The handshake is in progress, if anything is, and has changed nothing. -/
inductive IsTrying : Option (Action × Stage Work) → Prop where
  | unpolled {current} (h : Unpolled current) : IsTrying current
  | polled : IsTrying (some (.prepare, .accepting .connecting))

/-- Before the client connects, a poll of the handshake comes to nothing, unless it is the last. -/
theorem polls_connecting {channel : Channel} (h : .connect ∉ channel.incoming.events) (past) :
    (⟨.create channel, some (.prepare, .accepting .connecting), past⟩ : Course Channel Work).step
        backend Channel.act .polls =
      ⟨.create channel, some (.prepare, .accepting .connecting), past⟩ ∨
    ((⟨.create channel, some (.prepare, .accepting .connecting), past⟩ : Course Channel Work).step
      backend Channel.act .polls).IsDecided := by
  obtain ⟨⟨capacity, events, hasSender, hasReceiver⟩, outgoing⟩ := channel
  rcases events with - | ⟨event, events⟩
  · cases hasSender with
    | true => exact .inl rfl
    | false => exact .inr ⟨_, _, List.mem_concat_self, by simp⟩
  · right
    cases event with
    | connect => exact absurd (List.mem_cons_self) h
    | _ => exact ⟨_, _, List.mem_concat_self, by simp⟩

/-- As long as the client has not connected, tries of the handshake change nothing. -/
theorem untried_or_decided {channel : Channel} {steps : List (Step ClientAct)}
    (hsilent : ∀ before, before ++ [.polls] <+: steps →
      .connect ∉ (untouched Channel.act channel before).incoming.events) :
    ((start channel).run backend Channel.act steps).IsDecided ∨
      ∃ current past, IsTrying current ∧ (start channel).run backend Channel.act steps =
        ⟨.create (untouched Channel.act channel steps), current, past⟩ := by
  induction steps using List.reverseRecOn with
  | nil => exact .inr ⟨_, [], .unpolled .none, rfl⟩
  | append_singleton steps last ih =>
    rw [run_concat, untouched_concat]
    rcases ih fun before hbefore => hsilent before (hbefore.trans (List.prefix_append _ _)) with
      hdecided | ⟨current, past, htrying, hrun⟩
    · exact .inl (hdecided.step last)
    rw [hrun]
    generalize hsocket : untouched Channel.act channel steps = socket
    have hpolls (hlast : last = .polls) : .connect ∉ socket.incoming.events := by
      rw [← hsocket]
      exact hsilent steps (hlast ▸ List.prefix_rfl)
    cases htrying with
    | unpolled hunpolled =>
      rcases hunpolled.step backend Channel.act socket past last with
        ⟨current', past', hnext, hstep⟩ | hdecided | ⟨rfl, rfl⟩
      · exact .inr ⟨current', past', .unpolled hnext, hstep⟩
      · exact .inl hdecided
      -- The first poll gives the order, which is polled at once.
      · rcases polls_connecting (hpolls rfl) past with hstep | hdecided
        · exact .inr ⟨_, past, .polled, hstep⟩
        · exact .inl hdecided
    | polled =>
      cases last with
      | begins action => exact .inr ⟨_, past, .polled, rfl⟩
      | polls =>
        rcases polls_connecting (hpolls rfl) past with hstep | hdecided
        · exact .inr ⟨_, past, .polled, hstep⟩
        · exact .inl hdecided
      | drops => exact .inr ⟨_, _, .unpolled .none, rfl⟩
      | outside act => exact .inr ⟨_, past, .polled, rfl⟩

end Channel

/-! ### Handshakes over connections -/

namespace Stream

open Session Course Handshake

variable {socket : Stream}

/-- The operation is a handshake, which has the connection to itself. -/
inductive Work.IsHandshake : Work → Prop where
  | greeting (progress : Progress) : IsHandshake (.greeting progress)
  | responding (rest : ByteArray) : IsHandshake (.responding rest)

/-- A poll of a handshake has an answer, or leaves a handshake that goes on. -/
def Outcome.GoesOn (outcome : Outcome) : Prop :=
  outcome.1 = .pending → outcome.2.1.IsHandshake ∧ outcome.2.2.started = true

theorem goesOn_pollResponding {stream : Stream} (h : stream.started = true) (rest : ByteArray) :
    (stream.pollResponding rest).GoesOn := by
  simp only [pollResponding]
  split
  · rintro ⟨⟩
  · exact fun _ => ⟨.responding _, h⟩
  · rintro ⟨⟩

theorem goesOn_pollGreeting {stream : Stream} (h : stream.started = true) (progress : Progress)
    (pieces : Nat) : (stream.pollGreeting progress pieces).GoesOn := by
  induction pieces generalizing stream progress with
  | zero => exact fun _ => ⟨.greeting progress, h⟩
  | succ pieces ih =>
    simp only [pollGreeting]
    split
    · exact fun _ => ⟨.greeting progress, h⟩
    · split
      · refine ih ?_ _
        exact h
      · rintro ⟨⟩
      · refine goesOn_pollResponding ?_ _
        exact h

theorem Work.IsHandshake.goesOn {work : Work} (hwork : work.IsHandshake) {stream : Stream}
    (h : stream.started = true) : (poll work stream).GoesOn := by
  cases hwork with
  | greeting progress => exact goesOn_pollGreeting h progress _
  | responding rest => exact goesOn_pollResponding h rest

/-- The connection is gone. -/
structure IsGone (stream : Stream) : Prop where
  started : stream.started = true
  toServer : stream.duplex.toServer.closed = true
  toClient : stream.duplex.toClient.closed = true

theorem IsGone.act {stream : Stream} (h : stream.IsGone) (act : ClientAct) :
    (stream.act act).IsGone := by
  obtain ⟨⟨toServer, toClient, hasClient⟩, started, messages⟩ := stream
  obtain ⟨hstarted, htoServer, htoClient⟩ := h
  cases hasClient with
  | false => cases act <;> exact ⟨hstarted, htoServer, htoClient⟩
  | true =>
    cases act with
    | write bytes =>
      refine ⟨hstarted, ?_, htoClient⟩
      show (Duplex.flushInto toServer bytes).2.closed = true
      rw [Duplex.flushInto_of_closed htoServer]
      exact htoServer
    | shutDown => exact ⟨hstarted, rfl, htoClient⟩
    | leave => exact ⟨hstarted, rfl, rfl⟩
    | _ => exact ⟨hstarted, htoServer, htoClient⟩

/-- How a session stands whose handshake has not been answered, where the client alone would have
left the socket like this. -/
inductive Standing (socket : Stream) (givenUp : Prop) : Course Stream Work → Prop where
  /-- The handshake has not been polled. -/
  | whole (hgiven : ¬ givenUp) (hstarted : socket.started = false) {current past}
    (hcurrent : Unpolled current) : Standing socket givenUp ⟨.create socket, current, past⟩
  /-- The handshake is polled. -/
  | trying (hgiven : ¬ givenUp) {stream : Stream} {work : Work} {past}
    (hstarted : stream.started = true) (hwork : work.IsHandshake) :
    Standing socket givenUp ⟨.create stream, some (.prepare, Purpose.accepting.stage work), past⟩
  /-- The handshake was dropped after it had been polled. -/
  | spoilt (hgiven : givenUp) {stream : Stream} {current past} (hgone : stream.IsGone)
    (hcurrent : Unpolled current) : Standing socket givenUp ⟨.create stream, current, past⟩

section Steps

variable {givenUp : Prop} {course : Course Stream Work}

theorem Standing.of_iff {givenUp' : Prop} (h : Standing socket givenUp course)
    (hiff : givenUp' ↔ givenUp) : Standing socket givenUp' course := by
  rwa [propext hiff]

/-- A handshake that is polled goes on, or is answered. -/
theorem polls_handshake {stream : Stream} {work : Work} (hgiven : ¬ givenUp)
    (hstarted : stream.started = true) (hwork : work.IsHandshake) (past) :
    (Course.step backend Stream.act
        ⟨.create stream, some (.prepare, Purpose.accepting.stage work), past⟩ .polls).IsDecided ∨
      Standing socket givenUp (Course.step backend Stream.act
        ⟨.create stream, some (.prepare, Purpose.accepting.stage work), past⟩ .polls) := by
  have hgoes := hwork.goesOn hstarted
  -- An answer decides the session. Without one the handshake is still what is polled next.
  rcases hpoll : backend.poll work stream with ⟨reply | -, work', stream'⟩
  · left
    cases reply with
    | error | ok =>
      rw [create, step_polls_of_conclusion hpoll rfl]
      exact ⟨_, _, List.mem_concat_self, by simp⟩
  · right
    have hpolled : poll work stream = _ := hpoll
    rw [hpolled] at hgoes
    rw [create, step_polls_of_pending hpoll]
    exact .trying hgiven (hgoes rfl).2 (hgoes rfl).1

end Steps

/-- What comes of a fresh connection. -/
def overWire (steps : List (Step ClientAct)) : Course Stream Work :=
  (Course.start .fresh).run backend Stream.act steps

/-- A handshake that had been polled was dropped. -/
def GivesUp (steps : List (Step ClientAct)) : Prop :=
  ∃ before, before ++ [.drops] <+: steps ∧ (overWire before).order?.isSome

/-- One more step with a session whose handshake has not been answered. -/
theorem Standing.step {givenUp : Prop} {course : Course Stream Work}
    (h : Standing socket givenUp course) (next : Step ClientAct) :
    (course.step backend Stream.act next).IsDecided ∨
      Standing (next.touch Stream.act socket) (givenUp ∨ next = .drops ∧ course.order?.isSome)
        (course.step backend Stream.act next) := by
  cases h with
  | @whole hgiven hstarted current past hcurrent =>
    have hgiven' : ¬ (givenUp ∨ next = .drops ∧
        (⟨.create socket, current, past⟩ : Course Stream Work).order?.isSome) := by
      cases hcurrent <;> simp [hgiven, order?, Stage.order?]
    rcases hcurrent.step backend Stream.act socket past next with
      ⟨current', past', hnext, hstep⟩ | hdecided | ⟨rfl, rfl⟩
    · rw [hstep]
      refine .inr (.whole hgiven' ?_ hnext)
      cases next <;> exact hstarted
    · exact .inl hdecided
    -- The first poll takes the connection.
    · have hopening : Action.prepare.opening .created = (.inr .accept, .created) := rfl
      rw [create, step_polls_of_inr hopening]
      obtain ⟨duplex, started, messages⟩ := socket
      cases hstarted
      exact polls_handshake hgiven' rfl (.greeting .start) past
  | @trying hgiven stream work past hstarted hwork =>
    cases next with
    | begins action => exact .inr (.trying (by simpa) hstarted hwork)
    | polls => exact polls_handshake (by simpa) hstarted hwork past
    | drops =>
      refine .inr (.spoilt (.inr ⟨rfl, rfl⟩) ?_ .none)
      cases hwork <;> exact ⟨hstarted, rfl, rfl⟩
    | outside act => exact .inr (.trying (by simpa) hstarted hwork)
  | @spoilt hgiven stream current past hgone hcurrent =>
    rcases hcurrent.step backend Stream.act stream past next with
      ⟨current', past', hnext, hstep⟩ | hdecided | ⟨rfl, rfl⟩
    · rw [hstep]
      refine .inr (.spoilt (.inl hgiven) ?_ hnext)
      cases next with
      | outside act => exact hgone.act act
      | begins | polls | drops => exact hgone
    · exact .inl hdecided
    -- There is no connection that could be taken.
    · obtain ⟨duplex, started, messages⟩ := stream
      cases hgone.started
      exact .inl ⟨_, _, List.mem_concat_self, by simp⟩

/-- As long as the handshake is not answered, the session stands in one of three ways. -/
theorem standing_or_decided (steps : List (Step ClientAct)) :
    (overWire steps).IsDecided ∨
      Standing (untouched Stream.act .fresh steps) (GivesUp steps) (overWire steps) := by
  induction steps using List.reverseRecOn with
  | nil =>
    have hnone : ¬ GivesUp [] := by simp [GivesUp]
    exact .inr (.whole hnone rfl .none)
  | append_singleton steps last ih =>
    rw [overWire, run_concat, ← overWire, untouched_concat]
    rcases ih with hdecided | hstanding
    · exact .inl (hdecided.step last)
    · refine (hstanding.step last).imp_right fun h => h.of_iff ?_
      rw [GivesUp, exists_before_concat]
      rfl

/-- The session is still to be opened, but its connection is gone: however often the handshake is
tried again, whatever the client does, it is told that the session is closed. -/
structure IsSpoilt (course : Course Stream Work) : Prop where
  created : course.session.phase = .created
  gone : course.session.socket.IsGone
  refuses : ∀ acts : List ClientAct, ∃ stream, course.run backend Stream.act
    (acts.map .outside ++ [.begins .prepare, .polls]) =
      ⟨⟨stream, .closed⟩, none, course.past ++ [(.prepare, some (.error .closed))]⟩

theorem isSpoilt_of_gone {stream : Stream} (h : stream.IsGone) (past) :
    IsSpoilt ⟨.create stream, none, past⟩ := by
  refine ⟨rfl, h, fun acts => ?_⟩
  -- By induction on what the client does, which does not bring the connection back.
  induction acts generalizing stream with
  | nil =>
    obtain ⟨duplex, started, messages⟩ := stream
    cases h.started
    exact ⟨_, rfl⟩
  | cons act acts ih => exact ih (h.act act)

end Stream

/-- What comes of fresh channels. -/
def Channel.overLanes (incoming outgoing : Nat) (steps : List (Course.Step ClientAct)) :
    Course Channel Channel.Work :=
  (Course.start (.ofCapacities incoming outgoing)).run Channel.backend Channel.act steps

/-- A handler has done no more to a session than to try the handshake, and has dropped each of these
tries. Over event channels, where the client had not connected yet when it was tried, that makes no
difference. Over a connection it makes none just if the handshake was never polled; else the session
is spoilt. -/
theorem Course.retryable_of_tried (client : Client) (incoming outgoing : Nat)
    {onLanes onWire : List (Step ClientAct)}
    (hlanes : (Channel.overLanes incoming outgoing onLanes).OnlyTried)
    (hsilent : ∀ before, before ++ [.polls] <+: onLanes → .connect ∉
      (untouched Channel.act (.ofCapacities incoming outgoing) before).incoming.events)
    (hwire : (Stream.overWire onWire).OnlyTried) :
    (Channel.overLanes incoming outgoing onLanes).IsRetryable Channel.backend Channel.act
        Channel.gateway (untouched Channel.act (.ofCapacities incoming outgoing) onLanes) ∧
      ((Stream.overWire onWire).IsRetryable Stream.backend Stream.act (Stream.gateway client)
          (untouched Stream.act .fresh onWire) ∧ ¬ Stream.GivesUp onWire ∨
        Stream.IsSpoilt (Stream.overWire onWire) ∧ Stream.GivesUp onWire) := by
  constructor
  · obtain ⟨current, past, -, hrun⟩ :=
      (Channel.untried_or_decided hsilent).resolve_left hlanes.undecided
    have hopen := untouched_keeps Channel.isOpen_act
      (⟨rfl, rfl⟩ : Channel.gateway.IsOpen (.ofCapacities incoming outgoing)) onLanes
    have hsession : (Channel.overLanes incoming outgoing onLanes).session = .create _ :=
      congrArg Course.session hrun
    exact isRetryable_of_untouched hsession hlanes.idle hopen (Channel.accepts _)
  · have hstanding := (Stream.standing_or_decided onWire).resolve_left hwire.undecided
    have hidle := hwire.idle
    generalize Stream.overWire onWire = course at hstanding hidle ⊢
    cases hstanding with
    | whole hgiven hstarted =>
      have hfresh : (Stream.gateway client).IsOpen .fresh := by rintro ⟨⟩
      have hopen := untouched_keeps (Stream.isOpen_act client) hfresh onWire
      exact .inl ⟨isRetryable_of_untouched rfl hidle hopen (Stream.accepts client hstarted), hgiven⟩
    | trying => cases hidle
    | spoilt hgiven hgone =>
      cases hidle
      exact .inr ⟨Stream.isSpoilt_of_gone hgone _, hgiven⟩

namespace Course

/-- The handshake is tried twice over channels. The client connects when the second one is not
polled any more. -/
def triedTwice : List (Step ClientAct) :=
  [.begins .prepare, .polls, .drops, .begins .prepare, .polls, .outside (.send .connect), .drops]

/-- What arrives first of a handshake. -/
def beginning : ByteArray := Sides.visitor.head.extract 0 40

/-- What arrives later. -/
def remainder : ByteArray := Sides.visitor.head.extract 40 Sides.visitor.head.size

/-- The handshake is tried over a connection when some of it has arrived. -/
def triedEarly : List (Step ClientAct) :=
  [.outside (.write beginning), .begins .prepare, .polls, .drops]

/-- It is tried again, and the rest of it arrives. -/
def triedAgain : List (Step ClientAct) := [.begins .prepare, .outside (.write remainder), .polls]

theorem exists_take_of_prefix {α : Type} {before steps : List α} {next : α}
    (h : before ++ [next] <+: steps) :
    ∃ n, ∃ hn : n < steps.length, before = steps.take n ∧ steps[n] = next := by
  obtain ⟨later, rfl⟩ := h
  exact ⟨before.length, by simp, by simp, by simp⟩

theorem undecided_of_tries {σ κ : Type} {course : Course σ κ}
    (h : ∀ entry ∈ course.past, entry.2.isNone) : ¬ course.IsDecided := by
  rintro ⟨action, answer, hmem, -⟩
  cases h _ hmem

theorem retryable_of_triedTwice :
    (Channel.overLanes 4 4 triedTwice).OnlyTried ∧ (Stream.overWire triedEarly).OnlyTried ∧
      (Channel.overLanes 4 4 triedTwice).IsRetryable Channel.backend Channel.act Channel.gateway
        (untouched Channel.act (.ofCapacities 4 4) triedTwice) ∧
      Stream.IsSpoilt (Stream.overWire triedEarly) := by
  have hlanes : (Channel.overLanes 4 4 triedTwice).OnlyTried :=
    ⟨rfl, undecided_of_tries (by decide +kernel)⟩
  have hwire : (Stream.overWire triedEarly).OnlyTried :=
    ⟨Option.isNone_iff_eq_none.mp (by decide +kernel), undecided_of_tries (by decide +kernel)⟩
  have hsilent : ∀ before, before ++ [.polls] <+: triedTwice → .connect ∉
      (untouched Channel.act (.ofCapacities 4 4) before).incoming.events := by
    intro before hbefore
    obtain ⟨n, hn, rfl, hpolls⟩ := exists_take_of_prefix hbefore
    have hn : n < 7 := hn
    interval_cases n
    all_goals first | exact List.not_mem_nil | cases hpolls
  have hgiven : Stream.GivesUp triedEarly := ⟨triedEarly.take 3, List.prefix_rfl, by decide +kernel⟩
  obtain ⟨hretryable, hwired⟩ := retryable_of_tried Sides.visitor 4 4 hlanes hsilent hwire
  exact ⟨hlanes, hwire, hretryable, (hwired.resolve_left fun h => h.2 hgiven).1⟩

/-- Some of the handshake has arrived when it is tried first. Once the rest has arrived too, the
session is closed, which would have been opened if the handshake had not been tried before. -/
theorem not_retryable_of_triedEarly :
    (Stream.overWire triedEarly).OnlyTried ∧
      (Stream.gateway Sides.visitor).Awaits 0 (untouched Stream.act .fresh triedEarly) ∧
      (Stream.overWire (triedEarly ++ triedAgain)).past =
        [(.prepare, none), (.prepare, some (.error .closed))] ∧
      ((start (untouched Stream.act .fresh triedEarly)).run Stream.backend Stream.act
        triedAgain).past = [(.prepare, some (.ok .done))] ∧
      ¬ (Stream.overWire triedEarly).IsRetryable Stream.backend Stream.act
        (Stream.gateway Sides.visitor) (untouched Stream.act .fresh triedEarly) := by
  have hbegun : untouched Stream.act .fresh triedEarly =
      ⟨Duplex.fresh.holding beginning, false, none⟩ := by
    simp only [triedEarly, untouched, Step.touch, List.foldl_cons, List.foldl_nil, Stream.act]
    rw [Duplex.act_write_of_room rfl rfl (by decide +kernel)]
    simp only [Stream.fresh, Duplex.fresh, Pipe.fresh, ByteArray.empty_append]
  have hwhole : beginning ++ remainder = Sides.visitor.head := Payload.extract_append_rest _ _
  have htried : (Stream.overWire (triedEarly ++ triedAgain)).past =
    [(.prepare, none), (.prepare, some (.error .closed))] := by decide +kernel
  have huntried : ((start (untouched Stream.act .fresh triedEarly)).run Stream.backend Stream.act
      triedAgain).past = [(.prepare, some (.ok .done))] := by
    rw [hbegun]
    have hpatient : IsPatient Stream.act (Stream.gateway Sides.visitor)
        ⟨Duplex.fresh.holding beginning, false, none⟩ [.outside (.write remainder)] := by
      intro before next hbefore
      obtain ⟨n, hn, rfl, hnext⟩ := exists_take_of_prefix hbefore
      have hn : n < 1 := hn
      interval_cases n
      cases hnext
      trivial
    have harrived : untouched Stream.act ⟨Duplex.fresh.holding beginning, false, none⟩
        [.outside (.write remainder)] = ⟨Duplex.fresh.holding Sides.visitor.head, false, none⟩ := by
      simp only [untouched, Step.touch, List.foldl_cons, List.foldl_nil, Stream.act]
      rw [Duplex.act_write_of_room rfl rfl (by decide +kernel), ← hwhole]
      simp only [Duplex.holding]
    obtain ⟨socket, hrun⟩ := Stream.accepts Sides.visitor rfl [.outside (.write remainder)] hpatient
      (by rw [harrived]; exact ⟨rfl, ⟨rfl, by decide +kernel⟩, by decide⟩)
    exact congrArg past hrun
  have honly : (Stream.overWire triedEarly).OnlyTried :=
    ⟨Option.isNone_iff_eq_none.mp (by decide +kernel), undecided_of_tries (by decide +kernel)⟩
  have hawaits : (Stream.gateway Sides.visitor).Awaits 0
      (untouched Stream.act .fresh triedEarly) := by
    rw [hbegun]
    exact ⟨⟨remainder, by decide +kernel, hwhole⟩, rfl, by decide⟩
  refine ⟨honly, hawaits, htried, huntried, fun hretryable => ?_⟩
  have halike := congrArg past (hretryable.alike triedAgain)
  rw [Stream.overWire, ← run_append, ← Stream.overWire, htried, behind, huntried] at halike
  simpa using congrArg List.getLast? halike

end Course

end Inbound.WebSocket
