import Inbound.Proofs.Body.Completeness

/-!
# Nobody but reads

As long as nobody but reads is at a body, and the client is there, the gates are in good order. The
gate in front of the payload is free but for the read that drains, and the reads that wait for
their turn stand in line, each of them once.

## Main results

* `Traffic.Quiet.effect`: no event of reads disturbs the order;
* `Traffic.quiet_run`: who is at which gate, however reads are interleaved.
-/

namespace Inbound

namespace Request

/-- Nothing has been done to the body of a request. -/
def IsFresh (request : Request) : Prop :=
  request.body = .ofPayload request.body.payload request.body.limit

theorem isFresh_build (head : Head) (payload : Payload) (registry : RegistryId)
    (runtime : Option RuntimeId) (socket : Option SocketId) :
    (build head payload registry runtime socket).IsFresh := rfl

theorem IsFresh.cache {request : Request} (h : request.IsFresh) : request.body.cache = none := by
  rw [h]
  rfl

end Request

namespace Traffic

/-! ### Lines -/

/-- Those who wait at a gate are reads in flight, each of them waits once, and nobody waits at a
gate that nobody is inside of. -/
structure Line (gate : Gate) (inFlight : InFlight) : Prop where
  nodup : gate.queue.Nodup
  apart : ∀ {ticket : Ticket}, gate.holder = some ticket → ticket ∉ gate.queue
  empty : gate.holder = none → gate.queue = []
  present : ∀ {ticket : Ticket}, gate.holder = some ticket ∨ ticket ∈ gate.queue →
    ∃ wanted read, inFlight ticket = some ⟨wanted, .reading read⟩

namespace Line

variable {gate : Gate} {inFlight : InFlight} {ticket : Ticket}

theorem idle (inFlight : InFlight) : Line .idle inFlight :=
  ⟨List.nodup_nil, by rintro _ ⟨⟩, fun _ => rfl, by simp [Gate.idle]⟩

/-- A read replaces one that was in flight under the same ticket. -/
theorem update (h : Line gate inFlight) {wanted : BodyCall} {read : Body.Read} :
    Line gate (Function.update inFlight ticket (some ⟨wanted, .reading read⟩)) := by
  refine ⟨h.nodup, h.apart, h.empty, fun {other} hother => ?_⟩
  by_cases heq : other = ticket
  · subst heq
    exact ⟨wanted, read, Function.update_self ..⟩
  · rw [Function.update_of_ne heq]
    exact h.present hother

theorem iff_lined : Line gate inFlight ↔
    gate.Lined fun ticket => ∃ wanted read, inFlight ticket = some ⟨wanted, .reading read⟩ :=
  ⟨fun h => ⟨h.nodup, h.apart, h.empty, h.present⟩,
    fun h => ⟨h.nodup, h.apart, h.empty, h.present⟩⟩

/-- A read comes to the gate. -/
theorem enter (h : Line gate inFlight) {wanted : BodyCall} {read : Body.Read}
    (hcall : inFlight ticket = some ⟨wanted, .reading read⟩) :
    Line (gate.enter ticket).2 inFlight :=
  iff_lined.mpr ((iff_lined.mp h).enter ⟨wanted, read, hcall⟩)

/-- A read that may come in does. -/
theorem take (h : Line gate inFlight) {wanted : BodyCall} {read : Body.Read}
    (hcall : inFlight ticket = some ⟨wanted, .reading read⟩)
    (hturn : gate.holder = none ∨ gate.holder = some ticket) :
    Line ⟨some ticket, gate.queue⟩ inFlight := by
  have henter := h.enter hcall
  rwa [Gate.enter_of_free hturn] at henter

/-- A read leaves the gate, and is gone. -/
theorem leave (h : Line gate inFlight) {new : Option Call} :
    Line (gate.leave ticket) (Function.update inFlight ticket new) := by
  refine iff_lined.mpr ((iff_lined.mp h).leave.imp fun _ hother => ?_)
  obtain ⟨hpresent, hne⟩ := hother
  rwa [Function.update_of_ne hne]

end Line

/-! ### Nobody but reads -/

/-- An event belongs to reads, or to whoever polls them. -/
def Event.IsReading : Event → Prop
  | .begins wanted => wanted ≠ .release ∧ wanted ≠ .readAny
  | .cancels => False
  | _ => True

/-- Nothing happens but what belongs to reads. -/
def OnlyReads (events : List Event) : Prop :=
  ∀ event ∈ events, event.IsReading

theorem OnlyReads.withoutBarePulls {events : List Event} (h : OnlyReads events) :
    WithoutBarePulls events := by
  rintro event hevent rfl
  exact (h _ hevent).2 rfl

theorem onlyReads_concat {events : List Event} {event : Event} :
    OnlyReads (events ++ [event]) ↔ OnlyReads events ∧ event.IsReading := by
  simp [OnlyReads, or_imp, forall_and]

/-- There are only reads, the client is there, nobody but a read that drains is at the gate in
front of the payload, and the reads that wait for their turn stand in line. -/
structure Quiet (body : Body) (inFlight : InFlight) : Prop where
  reading : ∀ {ticket : Ticket} {call : Call}, inFlight ticket = some call →
    ∃ wanted read, call = ⟨wanted, .reading read⟩
  client : body.cancelled = false
  nobody : body.pulling.queue = []
  puller : ∀ {ticket : Ticket}, body.pulling.holder = some ticket →
    ∃ wanted read, inFlight ticket = some ⟨wanted, .reading read⟩ ∧ read.started = true
  line : Line body.draining inFlight
  intact : ∀ {ticket : Ticket} {wanted : BodyCall} {read : Body.Read},
    inFlight ticket = some ⟨wanted, .reading read⟩ → read.started = true → body.spoiled = false
  done : ∀ {bytes : ByteArray}, body.cache = some bytes → body.draining = .idle

namespace Quiet

variable {body body' : Body} {inFlight : InFlight} {stage : Stage} {ticket : Ticket}

/-- If no other read drains, a read is alone at the gate in front of the payload. -/
theorem isFor (h : Quiet body inFlight)
    (hothers : ∀ other, other ≠ ticket → Unstarted inFlight other) :
    body.pulling.IsFor ticket := by
  refine ⟨h.nobody, ?_⟩
  -- Whoever is inside has had its turn, and there is only one who may have had it.
  cases hholder : body.pulling.holder with
  | none => exact Or.inl rfl
  | some other =>
    obtain ⟨wanted, read, hcall, hstarted⟩ := h.puller hholder
    refine Or.inr ?_
    by_contra hne
    have hnot := hothers other (fun heq => hne (congrArg some heq)) hcall
    rw [hstarted] at hnot
    cases hnot

theorem reading_update (h : Quiet body inFlight) {new : Option Call}
    (hnew : ∀ {call : Call}, new = some call → ∃ wanted read, call = ⟨wanted, .reading read⟩)
    {other : Ticket} {call : Call} (hcall : Function.update inFlight ticket new other = some call) :
    ∃ wanted read, call = ⟨wanted, .reading read⟩ := by
  rcases InFlight.update_eq_some_iff.mp hcall with ⟨-, hself⟩ | ⟨-, hold⟩
  · exact hnew hself
  · exact h.reading hold

/-- Whoever is at the gate in front of the payload stays in flight if something is done under the
ticket of a read that has not had its turn. -/
theorem puller_update (h : Quiet body inFlight) {wanted : BodyCall} {read : Body.Read}
    (hcall : inFlight ticket = some ⟨wanted, .reading read⟩) (hstarted : read.started = false)
    {new : Option Call} {other : Ticket} (hholder : body.pulling.holder = some other) :
    ∃ wanted read, Function.update inFlight ticket new other = some ⟨wanted, .reading read⟩ ∧
      read.started = true := by
  obtain ⟨wanted', read', hother, hstarted'⟩ := h.puller hholder
  -- One has had its turn and the other has not, so they are different.
  have hne : other ≠ ticket := by
    rintro rfl
    rw [hcall] at hother
    cases hother
    rw [hstarted] at hstarted'
    cases hstarted'
  rw [Function.update_of_ne hne]
  exact ⟨wanted', read', hother, hstarted'⟩

theorem intact_update (h : Quiet body inFlight) {new : Option Call}
    (hnew : ∀ {wanted : BodyCall} {read : Body.Read}, new = some ⟨wanted, .reading read⟩ →
      read.started = false)
    {other : Ticket} {wanted : BodyCall} {read : Body.Read}
    (hcall : Function.update inFlight ticket new other = some ⟨wanted, .reading read⟩)
    (hstarted : read.started = true) : body.spoiled = false := by
  rcases InFlight.update_eq_some_iff.mp hcall with ⟨-, hself⟩ | ⟨-, hold⟩
  · rw [hnew hself] at hstarted
    cases hstarted
  · exact h.intact hold hstarted

/-- A read that drains leaves everything in order, whether it goes on or not. -/
theorem of_drain (h : Quiet body inFlight) {mid : Body} {wanted : BodyCall}
    {read read' : Body.Read} {result : Poll (Except BodyError ByteArray)}
    (hdrain : mid.drain read = (result, read', body')) (hticket : read.ticket = ticket)
    (hstarted : read.started = true) (hclient : mid.cancelled = false) (hcache : mid.cache = none)
    (hspoiled : mid.spoiled = false)
    (hothers : ∀ other, other ≠ ticket → Unstarted inFlight other)
    (halone : mid.pulling.IsFor ticket) (hline : Line mid.draining inFlight) :
    Quiet body' (Function.update inFlight ticket
      (unlessReady result ⟨wanted, .reading read'⟩)) := by
  subst hticket
  have hspec := Body.drain_spec mid read
  have hgate := Body.alone_drain halone
  rw [hdrain] at hspec hgate
  refine {
    reading := h.reading_update ?reading
    client := hspec.cancelled.trans hclient
    nobody := hgate.1.1
    puller := ?puller
    line := ?line
    intact := ?intact
    done := ?done }
  case reading =>
    intro call hnew
    cases result with
    | ready => cases hnew
    | pending =>
      cases hnew
      exact ⟨wanted, read', rfl⟩
  case puller =>
    intro other hholder
    cases result with
    | pending =>
      obtain hnone | hself := hgate.1.2
      · rw [hnone] at hholder
        cases hholder
      · rw [hself] at hholder
        cases hholder
        exact ⟨wanted, read', Function.update_self .., hspec.started.trans hstarted⟩
    | ready value =>
      rw [hgate.2 (by simp)] at hholder
      cases hholder
  case line =>
    -- A success lets everybody go at once, a failure only the next one in line.
    rcases result with (error | bytes) | -
    · rw [(hspec.failure error rfl).2.1]
      exact hline.leave
    · rw [(hspec.success bytes rfl).2.2.1]
      exact .idle _
    · rw [(hspec.pending rfl).1]
      exact hline.update
  case intact =>
    intro other _ found hcall hfound
    cases result with
    | pending => rw [(hspec.pending rfl).2.2, hspoiled]
    | ready value =>
      have hnot := AtStage.unstarted_update_none hothers other hcall
      rw [hfound] at hnot
      cases hnot
  case done =>
    intro bytes hsome
    rcases result with (error | bytes) | -
    · rw [(hspec.failure error rfl).2.2.2.1, hcache] at hsome
      cases hsome
    · exact (hspec.success bytes rfl).2.2.1
    · rw [(hspec.pending rfl).2.1, hcache] at hsome
      cases hsome

/-- A poll of a read leaves everything in order. -/
theorem of_reads (h : Quiet body inFlight) (hstage : AtStage body inFlight stage)
    (horderly : Orderly body inFlight) {wanted : BodyCall} {read read' : Body.Read}
    {result : Poll (Except BodyError ByteArray)}
    (hcall : inFlight ticket = some ⟨wanted, .reading read⟩)
    (hreads : body.Reads read result read' body') :
    Quiet body' (Function.update inFlight ticket
      (unlessReady result ⟨wanted, .reading read'⟩)) := by
  obtain ⟨rfl, -, -⟩ := horderly.read hcall
  cases hreads with
  | cached cache =>
    -- With bytes in the cache nobody is draining any more.
    have hstarted : read.started = false := by
      cases hstage with
      | resting none | draining none =>
        rw [cache] at none
        cases none
      | done cache' unstarted => exact unstarted _ hcall
    have hidle := h.done cache
    refine ⟨h.reading_update (by rintro _ ⟨⟩), h.client, h.nobody,
      h.puller_update hcall hstarted, ?_, h.intact_update (by rintro _ _ ⟨⟩), h.done⟩
    rw [hidle]
    exact .idle _
  | spent cache started =>
    refine ⟨h.reading_update ?_, h.client, h.nobody, h.puller_update hcall started,
      h.line.update, h.intact_update ?_, h.done⟩
    · rintro _ ⟨⟩
      exact ⟨wanted, read, rfl⟩
    · rintro _ _ ⟨⟩
      exact started
  | waits cache started =>
    refine ⟨h.reading_update ?_, h.client, h.nobody, h.puller_update hcall started,
      (h.line.enter hcall).update, h.intact_update ?_, fun hsome => ?_⟩
    · rintro _ ⟨⟩
      exact ⟨wanted, read, rfl⟩
    · rintro _ _ ⟨⟩
      exact started
    · rw [show body.cache = some _ from hsome] at cache
      cases cache
  | refused cache started turn =>
    refine ⟨h.reading_update (by rintro _ ⟨⟩), h.client, h.nobody, h.puller_update hcall started,
      (h.line.take hcall turn).leave, fun hother hfound => ?_, fun hsome => ?_⟩
    -- Nobody else has had its turn, and this read is gone.
    · obtain ⟨-, hothers⟩ := hstage.resting_of_turn cache hcall started turn
      have hnot := AtStage.unstarted_update_none (fun other _ => hothers other) _ hother
      rw [hfound] at hnot
      cases hnot
    · rw [show body.cache = some _ from hsome] at cache
      cases cache
  | begins cache started turn spoiled drain =>
    obtain ⟨-, hothers⟩ := hstage.resting_of_turn cache hcall started turn
    have hline : Line (body.takeTurn read.ticket).draining inFlight := h.line.take hcall turn
    exact h.of_drain drain rfl rfl h.client cache spoiled (fun other _ => hothers other)
      (h.isFor fun other _ => hothers other) hline
  | goesOn cache started drain =>
    obtain ⟨-, -, hothers⟩ := hstage.draining_of_started hcall started
    exact h.of_drain drain rfl started h.client cache (h.intact hcall started) hothers
      (h.isFor hothers) h.line

/-- A read that is dropped leaves everything in order. -/
theorem of_dropsRead (h : Quiet body inFlight) (hstage : AtStage body inFlight stage)
    (horderly : Orderly body inFlight)
    {wanted : BodyCall} {read : Body.Read}
    (hcall : inFlight ticket = some ⟨wanted, .reading read⟩) :
    Quiet (body.abandonRead read) (Function.update inFlight ticket none) := by
  obtain ⟨rfl, hknows, hfresh⟩ := horderly.read hcall
  -- Nobody waits for the payload, so nobody moves up when the read goes.
  have hqueue : (body.pulling.leave read.ticket).queue = [] := by
    unfold Gate.leave
    split
    · rw [h.nobody]
    · dsimp only
      rw [h.nobody]
      rfl
  have hpuller : ∀ {other : Ticket}, (body.pulling.leave read.ticket).holder = some other →
      other ≠ read.ticket ∧ body.pulling.holder = some other := by
    intro other hother
    unfold Gate.leave at hother
    rw [h.nobody] at hother
    split at hother
    · cases hother
    · next hne =>
      refine ⟨?_, hother⟩
      rintro rfl
      exact hne hother
  refine ⟨h.reading_update (by rintro _ ⟨⟩), h.client, hqueue, fun hother => ?_, h.line.leave,
    fun hother hfound => ?_, fun hsome => ?_⟩
  · obtain ⟨hne, hholder⟩ := hpuller hother
    rw [Function.update_of_ne hne]
    exact h.puller hholder
  -- A read without its turn has pulled nothing; one with its turn was the only one.
  · cases hstarted : read.started with
    | false =>
      change (body.spoiled || read.consumed) = false
      rw [h.intact_update (by rintro _ _ ⟨⟩) hother hfound, hknows, hfresh hstarted]
      rfl
    | true =>
      obtain ⟨-, -, hothers⟩ := hstage.draining_of_started hcall hstarted
      have hnot := AtStage.unstarted_update_none hothers _ hother
      rw [hfound] at hnot
      cases hnot
  · have hidle : body.draining = .idle := h.done hsome
    change body.draining.leave read.ticket = .idle
    rw [hidle]
    rfl

/-- No event of reads disturbs them. -/
theorem effect {event : Event} {inFlight' : InFlight} (h : Quiet body inFlight)
    (hstage : AtStage body inFlight stage) (horderly : Orderly body inFlight)
    (hevent : event.IsReading) (heffect : Effect body inFlight event body' inFlight') :
    Quiet body' inFlight' := by
  cases heffect with
  | none => exact h
  | beginsRead =>
    -- The new read has a ticket that nobody in flight has, so nobody who pulls is replaced.
    refine ⟨h.reading_update ?_, h.client, h.nobody, fun hother => ?_, h.line.update,
      h.intact_update ?_, h.done⟩
    · rintro _ ⟨⟩
      exact ⟨_, _, rfl⟩
    · obtain ⟨wanted, read, hcall, hstarted⟩ := h.puller hother
      refine ⟨wanted, read, ?_, hstarted⟩
      rw [Function.update_of_ne (Nat.ne_of_lt (horderly.known hcall)), hcall]
    · rintro _ _ ⟨⟩
      rfl
  | beginsRelease => exact absurd rfl hevent.1
  | beginsPull => exact absurd rfl hevent.2
  | reads hcall hreads => exact h.of_reads hstage horderly hcall hreads
  | dropsRead hcall => exact h.of_dropsRead hstage horderly hcall
  | releases hcall | pulls hcall | dropsRelease hcall =>
    obtain ⟨wanted, read, heq⟩ := h.reading hcall
    cases heq
  | cancels => exact hevent.elim
  | allows => exact ⟨h.reading, h.client, h.nobody, h.puller, h.line, h.intact, h.done⟩

end Quiet

section Started

variable {request : Request} {events : List Event}

/-- After any events of reads, nobody but reads is at a body, and they are in order. -/
theorem quiet_run (hrequest : request.IsFresh) (h : OnlyReads events) :
    Quiet ((start request).run events).body ((start request).run events).inFlight := by
  -- The stage is known from the accounts, so only the gates are carried through the induction.
  induction events using List.reverseRecOn with
  | nil =>
    change Quiet request.body _
    rw [hrequest]
    exact ⟨by rintro _ _ ⟨⟩, rfl, rfl, by rintro _ ⟨⟩, .idle _, by rintro _ _ _ ⟨⟩,
      by rintro _ ⟨⟩⟩
  | append_singleton events event ih =>
    obtain ⟨hevents, hevent⟩ := onlyReads_concat.mp h
    obtain ⟨stage, hstage, -⟩ := accounts_run hrequest.cache rfl hevents.withoutBarePulls
    rw [run_concat]
    exact (ih hevents).effect hstage (orderly_run hevents.withoutBarePulls) hevent
      (effect_step _ event)

/-- Reads throw nothing away. -/
theorem not_discarded (hrequest : request.IsFresh)
    (h : OnlyReads events) : ¬ Discarded (start request) events := by
  rintro ⟨before, event, after, rfl, ticket, wanted, release, -, hcall, -⟩
  have hbefore : OnlyReads before := fun e he => h e (List.mem_append_left _ he)
  obtain ⟨wanted', read, hread⟩ := (quiet_run hrequest hbefore).reading hcall
  cases hread

end Started

end Traffic

end Inbound
