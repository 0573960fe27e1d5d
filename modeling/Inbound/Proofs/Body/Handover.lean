import Inbound.Proofs.Body.Quiet

/-!
# Concurrent reads

Any number of reads of one body get along as long as nobody else is at it. One at a time drains,
and all that get the body get the same bytes. A read that fails or is dropped hands its turn to
the next in line. If it has pulled nothing the next one misses nothing, and else nobody will ever
get the body.

## Main results

* `Traffic.run_withPayload`: once the bytes are in the cache the payload does not matter;
* `Traffic.barren_run`: once bytes are missing no read succeeds;
* `Traffic.handsOver_of_givesUp`: how the turn is handed over;
* `Traffic.concurrent_reads`: all of it together.
-/

namespace Inbound

/-! ### The payload left alone -/

namespace Body

/-- The body with another payload behind it. -/
def withPayload (body : Body) (payload : Payload) : Body :=
  { body with payload }

/-- A poll of a read that finds the bytes in the cache, or another read draining, leaves the
payload alone: it comes to the same with any other. -/
theorem pollRead_withPayload {body : Body} {read : Read}
    (h : body.cache ≠ none ∨ read.started = false ∧
      ∃ other, body.draining.holder = some other ∧ other ≠ read.ticket) (payload : Payload) :
    (body.withPayload payload).pollRead read =
      ((body.pollRead read).1, (body.pollRead read).2.1,
        (body.pollRead read).2.2.withPayload payload) := by
  -- Of all that a poll comes to only a drain looks at the payload, and neither case is one.
  cases hcache : body.cache with
  | some bytes =>
    have hcache' : (body.withPayload payload).cache = some bytes := hcache
    rw [pollRead_of_cache hcache, pollRead_of_cache hcache']
  | none =>
    have hcache' : (body.withPayload payload).cache = none := hcache
    obtain hsome | ⟨hstarted, other, hholder, hne⟩ := h
    · exact absurd hcache hsome
    · cases hspent : body.isSpent with
      | true =>
        have hspent' : (body.withPayload payload).isSpent = true := hspent
        rw [pollRead_of_spent hcache hstarted hspent,
          pollRead_of_spent hcache' hstarted hspent']
      | false =>
        have hspent' : (body.withPayload payload).isSpent = false := hspent
        have hholder' : (body.withPayload payload).draining.holder = some other := hholder
        rw [pollRead_of_waiting hcache hstarted hspent hholder hne,
          pollRead_of_waiting hcache' hstarted hspent' hholder' hne]
        rfl

end Body

namespace Request

/-- The request with another payload behind its body. -/
def withPayload (request : Request) (payload : Payload) : Request :=
  { request with body := request.body.withPayload payload }

theorem charset_withPayload (request : Request) (payload : Payload) :
    Request.charset (request.withPayload payload) =
      ((Request.charset request).1, (Request.charset request).2.withPayload payload) := by
  obtain ⟨head, views, _, store, events, choice, resolution, matchdict, socket, registry,
    runtime⟩ := request
  cases choice <;> rfl

/-- If the poll of a read leaves the payload alone, so does that of the call. -/
theorem pollCall_withPayload {request : Request} {wanted : BodyCall} {read : Body.Read}
    {payload : Payload}
    (h : (request.body.withPayload payload).pollRead read =
      ((request.body.pollRead read).1, (request.body.pollRead read).2.1,
        (request.body.pollRead read).2.2.withPayload payload)) :
    (request.withPayload payload).pollCall ⟨wanted, .reading read⟩ =
      ((request.pollCall ⟨wanted, .reading read⟩).1,
        (request.pollCall ⟨wanted, .reading read⟩).2.1,
        (request.pollCall ⟨wanted, .reading read⟩).2.2.withPayload payload) := by
  have h' : (request.withPayload payload).body.pollRead read = _ := h
  simp only [pollCall, h']
  -- The charset is read off the head, which is the same with any payload.
  rcases request.body.pollRead read with ⟨result | -, read', body⟩
  · have hcharset := charset_withPayload { request with body } payload
    have hbody : ({ request with body } : Request).withPayload payload =
      { request.withPayload payload with body := body.withPayload payload } := rfl
    rw [hbody] at hcharset
    simp only [hcharset]
    rfl
  · rfl

end Request

namespace Traffic

/-- The traffic with another payload behind the body. -/
def withPayload (traffic : Traffic) (payload : Payload) : Traffic :=
  { traffic with request := traffic.request.withPayload payload }

/-- A poll leaves the payload alone if it finds the bytes in the cache, or another read
draining. -/
theorem polls_withPayload {traffic : Traffic} {ticket : Ticket}
    (hreading : ∀ {call : Call}, traffic.inFlight ticket = some call →
      ∃ wanted read, call = ⟨wanted, .reading read⟩ ∧
        (traffic.body.cache ≠ none ∨ read.started = false ∧
          ∃ other, traffic.body.draining.holder = some other ∧ other ≠ read.ticket))
    (payload : Payload) :
    (traffic.withPayload payload).step (.polls ticket) =
        (traffic.step (.polls ticket)).withPayload payload ∧
      (traffic.withPayload payload).answer? ticket = traffic.answer? ticket := by
  -- The same call is in flight with any payload.
  cases hcall : traffic.inFlight ticket with
  | none =>
    have hcall' : (traffic.withPayload payload).inFlight ticket = none := hcall
    refine ⟨?_, ?_⟩
    · simp only [step, hcall, hcall']
    · rw [answer?, answer?, hcall, hcall']
      rfl
  | some call =>
    have hcall' : (traffic.withPayload payload).inFlight ticket = some call := hcall
    obtain ⟨wanted, read, rfl, halone⟩ := hreading hcall
    have hpoll : (traffic.withPayload payload).request.pollCall ⟨wanted, .reading read⟩ = _ :=
      Request.pollCall_withPayload (Body.pollRead_withPayload halone payload)
    refine ⟨?_, ?_⟩
    · rw [step_polls hcall, step_polls hcall', hpoll]
      rfl
    · rw [answer?, answer?, hcall, hcall', Option.map_some, Option.map_some, hpoll]

/-- Once the bytes are in the cache, nothing that reads do has anything to do with the payload. -/
theorem step_withPayload {traffic : Traffic} (hcache : traffic.body.cache ≠ none)
    (hquiet : Quiet traffic.body traffic.inFlight) {event : Event} (hevent : event.IsReading)
    (payload : Payload) :
    (traffic.withPayload payload).step event = (traffic.step event).withPayload payload := by
  -- Only polls look at the payload at all.
  cases event with
  | begins wanted => cases wanted <;> rfl
  | polls ticket =>
    refine (polls_withPayload (fun hcall => ?_) payload).1
    obtain ⟨wanted, read, rfl⟩ := hquiet.reading hcall
    exact ⟨wanted, read, rfl, Or.inl hcache⟩
  | drops ticket =>
    cases hcall : traffic.inFlight ticket with
    | none =>
      have hcall' : (traffic.withPayload payload).inFlight ticket = none := hcall
      simp only [step, hcall, hcall']
    | some call =>
      have hcall' : (traffic.withPayload payload).inFlight ticket = some call := hcall
      obtain ⟨wanted, read, rfl⟩ := hquiet.reading hcall
      simp only [step, hcall, hcall']
      rfl
  | cancels => exact hevent.elim
  | allows passes => rfl

section Started

variable {request : Request} {events later : List Event}

/-- Bytes that are in the cache stay there. -/
theorem cache_run (hrequest : request.body.cache = none) (h : WithoutBarePulls (events ++ later))
    {bytes : ByteArray} (hcache : ((start request).run events).body.cache = some bytes) :
    ((start request).run (events ++ later)).body.cache = some bytes := by
  have hevents : WithoutBarePulls events := fun e he => h e (List.mem_append_left _ he)
  have hlater : WithoutBarePulls later := fun e he => h e (List.mem_append_right _ he)
  obtain ⟨stage, hstage, -⟩ := accounts_run hrequest rfl hevents
  -- Bytes in the cache are a final stage, and a final stage lasts.
  cases hstage with
  | resting none | draining none =>
    rw [hcache] at none
    cases none
  | done cache unstarted =>
    obtain ⟨-, hstage', -, -⟩ :=
      final_run hlater (orderly_run hevents) (.done cache unstarted) (Stage.isFinal_done _ _)
    rw [← run_append] at hstage'
    rw [hcache] at cache
    cases cache
    cases hstage'
    assumption

/-- Once the bytes are in the cache, reads go on in the same way whatever is behind the body. -/
theorem run_withPayload (hrequest : request.IsFresh) (h : OnlyReads (events ++ later))
    {bytes : ByteArray} (hcache : ((start request).run events).body.cache = some bytes)
    (payload : Payload) :
    (((start request).run events).withPayload payload).run later =
      ((start request).run (events ++ later)).withPayload payload := by
  -- The cache is never emptied again, so each event in turn finds it filled.
  induction later using List.reverseRecOn with
  | nil => rw [List.append_nil, run_nil]
  | append_singleton later event ih =>
    rw [← List.append_assoc] at h ⊢
    obtain ⟨hbefore, hevent⟩ := onlyReads_concat.mp h
    have hsome := cache_run hrequest.cache hbefore.withoutBarePulls hcache
    rw [run_concat, run_concat, ih hbefore]
    exact step_withPayload (by simp [hsome]) (quiet_run hrequest hbefore) hevent payload

/-- Once the bytes are in the cache, reads answer the same whatever is behind the body. -/
theorem answer?_withPayload (hrequest : request.IsFresh) (h : OnlyReads events)
    {bytes : ByteArray} (hcache : ((start request).run events).body.cache = some bytes)
    (payload : Payload) (ticket : Ticket) :
    (((start request).run events).withPayload payload).answer? ticket =
      ((start request).run events).answer? ticket := by
  refine (polls_withPayload (fun hcall => ?_) payload).2
  obtain ⟨wanted, read, rfl⟩ := (quiet_run hrequest h).reading hcall
  exact ⟨wanted, read, rfl, Or.inl (by simp [hcache])⟩

end Started

/-! ### Handing over -/

/-- A read that has its turn gives it up without success: it fails, or it is dropped. -/
def GivesUp (traffic : Traffic) (event : Event) : Prop :=
  (∃ ticket error, event = .polls ticket ∧
    traffic.read? ticket = some (.ready (.error error)) ∧ error ≠ .consumed) ∨
  ∃ ticket wanted read, event = .drops ticket ∧
    traffic.inFlight ticket = some ⟨wanted, .reading read⟩ ∧ read.started = true

/-- The turn goes to the first read that waited for it, which is told so. Nobody drains any more,
and whichever read is polled that may have the turn drains from the beginning. -/
structure HandsOver (before after : Traffic) : Prop where
  turn : after.body.draining = ⟨before.body.draining.queue.head?, before.body.draining.queue.tail⟩
  told : ∀ {ticket : Ticket}, before.body.draining.queue.head? = some ticket →
    ticket ∈ after.body.woken
  waiting : ∀ {ticket : Ticket}, after.body.draining.holder = some ticket →
    ∃ wanted read, after.inFlight ticket = some ⟨wanted, .reading read⟩
  free : after.body.pulling = .idle
  drains : ∀ {ticket : Ticket} {wanted : BodyCall} {read : Body.Read},
    after.inFlight ticket = some ⟨wanted, .reading read⟩ →
    (after.body.draining.holder = none ∨ after.body.draining.holder = some ticket) →
    after.body.isSpent = false →
      read.got = .empty ∧
        after.body.pollRead read = (after.body.takeTurn ticket).drain { read with started := true }

/-- What a read that gives up its turn leaves behind of a body, having got some bytes of it. -/
structure Leaves (whole : ByteArray) (before after : Traffic) (got : ByteArray) : Prop where
  stage : AtStage after.body after.inFlight .resting
  bytes : got ++ after.body.payload.bytes = whole
  spoiled : after.body.spoiled = !got.isEmpty
  turn : after.body.draining = ⟨before.body.draining.queue.head?, before.body.draining.queue.tail⟩
  told : ∀ {ticket : Ticket}, before.body.draining.queue.head? = some ticket →
    ticket ∈ after.body.woken

/-- A drain that fails leaves the body to the others. -/
theorem leaves_of_drains {whole : ByteArray} {before after : Traffic} {mid : Body}
    {ticket : Ticket} {read read' : Body.Read} {error : BodyError}
    (hspec : mid.Drains read (.ready (.error error)) read' after.body)
    (hticket : read.ticket = ticket) (hknows : read.Knows) (hcache : mid.cache = none)
    (hdraining : mid.draining = ⟨some ticket, before.body.draining.queue⟩)
    (hspoiled : mid.spoiled = false) (hothers : ∀ other, Unstarted after.inFlight other)
    (hwhole : read.got ++ mid.payload.bytes = whole) : Leaves whole before after read'.got := by
  subst hticket
  obtain ⟨-, hturn, htold, hcache', hspoiled'⟩ := hspec.failure error rfl
  -- The turn was this read's own, so the first in line has it now.
  rw [hdraining, Gate.leave_holder] at hturn
  rw [hdraining, Gate.successor?_holder] at htold
  rw [hspoiled, Bool.false_or, hspec.knows hknows] at hspoiled'
  exact ⟨.resting (hcache'.trans hcache) hothers, hspec.bytes.trans hwhole, hspoiled', hturn,
    fun h => htold _ h⟩

section Leaving

variable {whole : ByteArray} {before : Traffic} {stage : Stage} {ticket : Ticket}
  {wanted : BodyCall} {read : Body.Read}

/-- A read that fails leaves what it has not got to the others. -/
theorem exists_leaves_of_fails {error : BodyError}
    (hread : before.read? ticket = some (.ready (.error error))) (herror : error ≠ .consumed)
    (hquiet : Quiet before.body before.inFlight) (horderly : Orderly before.body before.inFlight)
    (hstage : AtStage before.body before.inFlight stage)
    (haccounts : Accounts whole False before.body stage) :
    ∃ got, Leaves whole before (before.step (.polls ticket)) got := by
  have hwhole := haccounts.complete id
  obtain ⟨wanted, read, hcall, hresult⟩ := read?_eq_some.mp hread
  obtain ⟨rfl, hknows, hfresh⟩ := horderly.read hcall
  have hreads := Body.pollRead_spec before.body read
  obtain ⟨hbody, hinFlight⟩ := step_polls_reading hcall
  rw [hresult] at hreads hinFlight
  -- What the poll leaves is given a name, so that its cases can be told apart.
  generalize before.step (.polls read.ticket) = after at hbody hinFlight ⊢
  generalize (before.body.pollRead read).2 = left at hreads hbody hinFlight
  obtain ⟨read', body'⟩ := left
  dsimp only at hreads hbody
  cases hreads with
  | refused => exact absurd rfl herror
  | begins cache started turn spoiled drain =>
    obtain ⟨rfl, hothers⟩ := hstage.resting_of_turn cache hcall started turn
    have hspec := Body.drain_spec (before.body.takeTurn read.ticket) { read with started := true }
    rw [drain, ← hbody] at hspec
    have hgot : read.got ++ before.body.payload.bytes = whole := by
      rw [hfresh started]
      exact hwhole fun _ => spoiled
    refine ⟨read'.got, leaves_of_drains hspec rfl hknows cache rfl spoiled ?_ hgot⟩
    rw [hinFlight]
    exact AtStage.unstarted_update_none fun other _ => hothers other
  | goesOn cache started drain =>
    obtain ⟨rfl, hholder, hothers⟩ := hstage.draining_of_started hcall started
    have hspec := Body.drain_spec before.body read
    rw [drain, ← hbody] at hspec
    have hdraining : before.body.draining =
        ⟨some read.ticket, before.body.draining.queue⟩ := by rw [← hholder]
    refine ⟨read'.got, leaves_of_drains hspec rfl hknows cache hdraining
      (hquiet.intact hcall started) ?_ (hwhole (by simp))⟩
    rw [hinFlight]
    exact AtStage.unstarted_update_none hothers

/-- A read that is dropped while it has its turn leaves what it has not got to the others. -/
theorem exists_leaves_of_dropped (hcall : before.inFlight ticket = some ⟨wanted, .reading read⟩)
    (hstarted : read.started = true) (hquiet : Quiet before.body before.inFlight)
    (horderly : Orderly before.body before.inFlight)
    (hstage : AtStage before.body before.inFlight stage)
    (haccounts : Accounts whole False before.body stage) :
    ∃ got, Leaves whole before (before.step (.drops ticket)) got := by
  obtain ⟨rfl, hknows, -⟩ := horderly.read hcall
  -- Whoever has started holds the turn, and nobody else has started.
  obtain ⟨rfl, hholder, hothers⟩ := hstage.draining_of_started hcall hstarted
  have hstep : before.step (.drops read.ticket) =
      before.put read.ticket none (before.request.abandonCall ⟨wanted, .reading read⟩) := by
    simp only [step, hcall]
  have hcache : before.body.cache = none := by
    cases hstage
    assumption
  have hdraining : before.body.draining =
      ⟨some read.ticket, before.body.draining.queue⟩ := by rw [← hholder]
  rw [hstep]
  refine ⟨read.got, {
    stage := .resting hcache (AtStage.unstarted_update_none hothers)
    bytes := haccounts.complete id (by simp)
    spoiled := ?spoiled
    turn := ?turn
    told := fun {next} hnext => List.mem_append_right _ ?told }⟩
  case spoiled =>
    change (before.body.spoiled || read.consumed) = _
    rw [hquiet.intact hcall hstarted, hknows, Bool.false_or]
  case turn =>
    change before.body.draining.leave read.ticket = _
    rw [hdraining, Gate.leave_holder]
  case told =>
    change next ∈ (before.body.draining.successor? read.ticket).toList
    rw [hdraining, Gate.successor?_holder, hnext]
    exact List.mem_singleton_self next

end Leaving

/-- A read that gives up its turn leaves what it has not got to the others. -/
theorem exists_leaves {whole : ByteArray} {before : Traffic} {stage : Stage} {event : Event}
    (h : before.GivesUp event) (hquiet : Quiet before.body before.inFlight)
    (horderly : Orderly before.body before.inFlight)
    (hstage : AtStage before.body before.inFlight stage)
    (haccounts : Accounts whole False before.body stage) :
    ∃ got, Leaves whole before (before.step event) got := by
  rcases h with ⟨ticket, error, rfl, hread, herror⟩ | ⟨ticket, wanted, read, rfl, hcall, hstarted⟩
  · exact exists_leaves_of_fails hread herror hquiet horderly hstage haccounts
  · exact exists_leaves_of_dropped hcall hstarted hquiet horderly hstage haccounts

/-- If nothing is missing, the next read takes over. -/
theorem Leaves.handsOver {whole : ByteArray} {before after : Traffic}
    (h : Leaves whole before after .empty) (hquiet : Quiet after.body after.inFlight)
    (horderly : Orderly after.body after.inFlight) : HandsOver before after := by
  obtain ⟨hcache, hunstarted⟩ := h.stage
  have hspoiled : after.body.spoiled = false := h.spoiled
  refine {
    turn := h.turn
    told := h.told
    waiting := fun hholder => hquiet.line.present (Or.inl hholder)
    free := ?free
    drains := ?drains }
  case free =>
    -- Only a read that has had its turn can be inside, and nobody in flight has.
    have hholder : after.body.pulling.holder = none := by
      cases hholder : after.body.pulling.holder with
      | none => rfl
      | some ticket =>
        obtain ⟨wanted, read, hcall, hstarted⟩ := hquiet.puller hholder
        rw [hunstarted ticket hcall] at hstarted
        cases hstarted
    have hqueue := hquiet.nobody
    generalize after.body.pulling = gate at hholder hqueue
    cases gate
    cases hholder
    cases hqueue
    rfl
  case drains =>
    intro ticket wanted read hcall hturn hspent
    obtain ⟨rfl, -, hfresh⟩ := horderly.read hcall
    have hstarted := hunstarted _ hcall
    refine ⟨hfresh hstarted, ?_⟩
    rw [Body.pollRead_of_turn hcache hstarted hspent hturn, hspoiled]
    rfl

/-- Nobody will get the body: it is not kept, and every read that ends finds bytes missing. -/
structure Barren (traffic : Traffic) : Prop where
  cache : traffic.body.cache = none
  consumed : ∀ {ticket : Ticket} {result : Except BodyError ByteArray},
    traffic.read? ticket = some (.ready result) → result = .error .consumed

/-- Once bytes are missing and no read drains, nobody gets the body whatever happens. -/
theorem barren_run {traffic : Traffic} {later : List Event} (h : WithoutBarePulls later)
    (horderly : Orderly traffic.body traffic.inFlight)
    (hstage : AtStage traffic.body traffic.inFlight .resting)
    (hspoiled : traffic.body.spoiled = true) : (traffic.run later).Barren := by
  obtain ⟨horderly', ⟨hcache, hunstarted⟩, -, hspoiled'⟩ :=
    final_run h horderly hstage (hspoiled ▸ Stage.isFinal_resting)
  refine ⟨hcache, fun {ticket result} hread => ?_⟩
  obtain ⟨wanted, read, hcall, hresult⟩ := read?_eq_some.mp hread
  have hreads := Body.pollRead_spec (traffic.run later).body read
  rw [hresult] at hreads
  have hstarted := hunstarted ticket hcall
  generalize ((traffic.run later).body.pollRead read).2 = left at hreads
  obtain ⟨read', body'⟩ := left
  dsimp only at hreads
  -- A read that ends does so from the cache, for missing bytes, or by a drain; and only a body that
  -- is not spoiled lets a drain begin.
  cases hreads with
  | cached cache =>
    rw [hcache] at cache
    cases cache
  | refused => rfl
  | begins cache started turn spoiled =>
    rw [hspoiled' hspoiled] at spoiled
    cases spoiled
  | goesOn cache started =>
    rw [hstarted] at started
    cases started

/-- One read at most drains. Nobody else is at the gate in front of the payload, and nobody else
who is polled has anything to do with the payload. -/
structure OneDrains (traffic : Traffic) : Prop where
  unique : ∀ {ticket other : Ticket} {wanted wanted' : BodyCall} {read read' : Body.Read},
    traffic.inFlight ticket = some ⟨wanted, .reading read⟩ → read.started = true →
    traffic.inFlight other = some ⟨wanted', .reading read'⟩ → read'.started = true →
      ticket = other
  queue : traffic.body.pulling.queue = []
  holder : ∀ {ticket : Ticket}, traffic.body.pulling.holder = some ticket →
    ∃ wanted read, traffic.inFlight ticket = some ⟨wanted, .reading read⟩ ∧ read.started = true
  others : ∀ {ticket other : Ticket} {wanted : BodyCall} {read : Body.Read},
    traffic.inFlight ticket = some ⟨wanted, .reading read⟩ → read.started = true →
    other ≠ ticket → ∀ payload : Payload,
      (traffic.withPayload payload).step (.polls other) =
        (traffic.step (.polls other)).withPayload payload

theorem oneDrains_of_quiet {traffic : Traffic} {stage : Stage}
    (hquiet : Quiet traffic.body traffic.inFlight)
    (horderly : Orderly traffic.body traffic.inFlight)
    (hstage : AtStage traffic.body traffic.inFlight stage) : traffic.OneDrains := by
  have hunique : ∀ {ticket other : Ticket} {wanted wanted' : BodyCall} {read read' : Body.Read},
      traffic.inFlight ticket = some ⟨wanted, .reading read⟩ → read.started = true →
      traffic.inFlight other = some ⟨wanted', .reading read'⟩ → read'.started = true →
        ticket = other := by
    -- The stage names the read that drains, and it names only one.
    intro ticket other wanted wanted' read read' hcall hstarted hcall' hstarted'
    obtain ⟨rfl, -, -⟩ := horderly.read hcall
    obtain ⟨rfl, -, -⟩ := horderly.read hcall'
    obtain ⟨rfl, -, -⟩ := hstage.draining_of_started hcall hstarted
    obtain ⟨hsame, -, -⟩ := hstage.draining_of_started hcall' hstarted'
    cases hsame
    rfl
  refine ⟨hunique, hquiet.nobody, hquiet.puller, ?_⟩
  intro ticket other wanted read hcall hstarted hother payload
  obtain ⟨rfl, -, -⟩ := horderly.read hcall
  obtain ⟨rfl, hholder, hothers⟩ := hstage.draining_of_started hcall hstarted
  refine (polls_withPayload (fun hcall' => ?_) payload).1
  obtain ⟨wanted', read', rfl⟩ := hquiet.reading hcall'
  obtain ⟨rfl, -, -⟩ := horderly.read hcall'
  exact ⟨wanted', read', rfl, Or.inr ⟨hothers _ hother hcall', read.ticket, hholder, hother.symm⟩⟩

theorem GivesUp.isReading {traffic : Traffic} {event : Event} (h : traffic.GivesUp event) :
    event.IsReading := by
  rcases h with ⟨ticket, error, rfl, -⟩ | ⟨ticket, wanted, read, rfl, -⟩ <;> trivial

section Started

variable {request : Request} {events : List Event}

/-- Once the bytes are in the cache, reads go on and answer in the same way whatever is behind the
body. -/
theorem run_and_answer?_withPayload (hrequest : request.IsFresh) (h : OnlyReads events)
    {bytes : ByteArray} (hcache : ((start request).run events).body.cache = some bytes)
    {later : List Event} (hlater : OnlyReads later) (payload : Payload) :
    let traffic := (start request).run events
    (traffic.withPayload payload).run later = (traffic.run later).withPayload payload ∧
      ∀ ticket, ((traffic.withPayload payload).run later).answer? ticket =
        (traffic.run later).answer? ticket := by
  intro traffic
  have hall : OnlyReads (events ++ later) := by
    intro event hevent
    rcases List.mem_append.mp hevent with hbefore | hafter
    · exact h event hbefore
    · exact hlater event hafter
  have hrun := run_withPayload hrequest hall hcache payload
  have hcache' := cache_run hrequest.cache hall.withoutBarePulls hcache
  rw [run_append] at hrun
  refine ⟨hrun, fun ticket => ?_⟩
  rw [hrun]
  have hanswer := answer?_withPayload hrequest hall hcache' payload ticket
  rw [run_append] at hanswer
  exact hanswer

/-- A read that gives up its turn hands it over if nothing is missing from the payload, and else
nobody gets the body. -/
theorem handsOver_of_givesUp (hrequest : request.IsFresh) (h : OnlyReads events) {event : Event}
    (hgives : ((start request).run events).GivesUp event) :
    let traffic := (start request).run events
    let after := traffic.step event
    (after.body.payload.bytes = request.body.payload.bytes →
      after.body.cache = none ∧ HandsOver traffic after) ∧
    (after.body.payload.bytes ≠ request.body.payload.bytes →
      ∀ {later}, OnlyReads later → (after.run later).Barren) := by
  intro traffic after
  have hbare := h.withoutBarePulls
  have hquiet : Quiet traffic.body traffic.inFlight := quiet_run hrequest h
  have horderly : Orderly traffic.body traffic.inFlight := orderly_run hbare
  have hall : OnlyReads (events ++ [event]) := onlyReads_concat.mpr ⟨h, hgives.isReading⟩
  have hquiet' := quiet_run hrequest hall
  rw [run_concat] at hquiet'
  have horderly' : Orderly after.body after.inFlight :=
    horderly.effect (hall.withoutBarePulls event (by simp)) (effect_step traffic event)
  -- Reads throw nothing away, so what has been got and what is left is everything.
  obtain ⟨stage, hstage, haccounts⟩ := accounts_run hrequest.cache rfl hbare
  rw [eq_false (not_discarded hrequest h)] at haccounts
  obtain ⟨got, hleaves⟩ := exists_leaves hgives hquiet horderly hstage haccounts
  refine ⟨fun hwhole => ?_, fun hwhole => ?_⟩
  · obtain rfl : got = .empty := by
      have hbytes := hleaves.bytes
      rw [← hwhole, Payload.append_eq_right_iff] at hbytes
      exact hbytes
    obtain ⟨hcache, -⟩ := hleaves.stage
    exact ⟨hcache, hleaves.handsOver hquiet' horderly'⟩
  · have hgot : got ≠ .empty := by
      rintro rfl
      exact hwhole (by rw [← hleaves.bytes, ByteArray.empty_append])
    have hspoiled : after.body.spoiled = true := by
      rw [hleaves.spoiled, Bool.not_eq_true', Bool.eq_false_iff]
      exact fun hempty => hgot ((Payload.isEmpty_iff got).mp hempty)
    exact fun {later} hlater =>
      barren_run hlater.withoutBarePulls horderly' hleaves.stage hspoiled

end Started

/-- However reads are interleaved on a request, one at a time drains, and those that obtain the
body obtain the whole of it. Once one has, the payload is not polled any more. A read that gives up
its turn while nothing is missing from the payload hands it over, and else nobody gets the body. -/
theorem concurrent_reads (head : Head) (payload : Payload) (registry : RegistryId)
    (runtime : Option RuntimeId) (socket : Option SocketId) {events : List Event}
    (h : OnlyReads events) :
    let traffic := (start (Request.build head payload registry runtime socket)).run events
    traffic.OneDrains ∧
    (∀ {ticket bytes}, traffic.Obtains ticket bytes → bytes = payload.bytes) ∧
    (∀ {bytes}, traffic.body.cache = some bytes →
      bytes = payload.bytes ∧ ∀ {later}, OnlyReads later → ∀ other,
        (traffic.withPayload other).run later = (traffic.run later).withPayload other ∧
        ∀ ticket, ((traffic.withPayload other).run later).answer? ticket =
          (traffic.run later).answer? ticket) ∧
    ∀ {event}, traffic.GivesUp event →
      let after := traffic.step event
      (after.body.payload.bytes = payload.bytes →
        after.body.cache = none ∧ HandsOver traffic after) ∧
      (after.body.payload.bytes ≠ payload.bytes →
        ∀ {later}, OnlyReads later → (after.run later).Barren) := by
  intro traffic
  have hfresh := Request.isFresh_build head payload registry runtime socket
  have hnothing := not_discarded hfresh h
  have hbare := h.withoutBarePulls
  obtain ⟨stage, hstage, -⟩ := accounts_run hfresh.cache rfl hbare
  refine ⟨oneDrains_of_quiet (quiet_run hfresh h) (orderly_run hbare) hstage, ?_, ?_, ?_⟩
  · exact fun hobtains => (obtained_iff hfresh.cache rfl hbare hobtains).mpr hnothing
  · intro bytes hcache
    refine ⟨(cached_iff hfresh.cache rfl hbare hcache).mpr hnothing, fun {later} hlater other => ?_⟩
    exact run_and_answer?_withPayload hfresh h hcache hlater other
  · exact fun hgives => handsOver_of_givesUp hfresh h hgives

/-- A chunk that has to be waited for, and another one. -/
def hesitant : Payload :=
  .stream [.stall 1, .chunk ⟨#[97, 98]⟩, .stall 1, .chunk ⟨#[99, 100]⟩]

/-- Two reads are in flight. The first one may be dropped before it has got the first chunk, and
the second one takes over; or afterwards, and the second one finds that bytes are missing. -/
theorem dropped_of_hesitant :
    let before := start (Request.build .default hesitant 0 none none)
    let early := [.begins .read, .begins .text, .polls 0, .polls 1]
    let late := early ++ [.polls 0]
    (OnlyReads early ∧ (before.run early).GivesUp (.drops 0) ∧
      HandsOver (before.run early) ((before.run early).step (.drops 0))) ∧
    OnlyReads late ∧ (before.run late).GivesUp (.drops 0) ∧
      (((before.run late).step (.drops 0)).run [.polls 1]).Barren := by
  have hearly : OnlyReads [.begins .read, .begins .text, .polls 0, .polls 1] := by
    simp [OnlyReads, Event.IsReading]
  have hlate : OnlyReads [.begins .read, .begins .text, .polls 0, .polls 1, .polls 0] := by
    simp [OnlyReads, Event.IsReading]
  have hdrops : ((start (Request.build .default hesitant 0 none none)).run
      [.begins .read, .begins .text, .polls 0, .polls 1]).GivesUp (.drops 0) :=
    Or.inr ⟨0, .read, ⟨0, true, .empty, false⟩, rfl, by cbv, rfl⟩
  have hdrops' : ((start (Request.build .default hesitant 0 none none)).run
      [.begins .read, .begins .text, .polls 0, .polls 1, .polls 0]).GivesUp (.drops 0) :=
    Or.inr ⟨0, .read, ⟨0, true, ⟨#[97, 98]⟩, true⟩, rfl, by cbv, rfl⟩
  obtain ⟨-, -, -, hgives⟩ := concurrent_reads .default hesitant 0 none none hearly
  obtain ⟨-, -, -, hgives'⟩ := concurrent_reads .default hesitant 0 none none hlate
  refine ⟨⟨hearly, hdrops, ((hgives hdrops).1 (by cbv)).2⟩, hlate, hdrops',
    (hgives' hdrops').2 ?_ (by simp [OnlyReads, Event.IsReading])⟩
  cbv
  decide

end Traffic

end Inbound
