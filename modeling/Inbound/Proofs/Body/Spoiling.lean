import Mathlib
import Inbound.Proofs.Body.Traffic

/-!
# Spoiled bodies

Bytes that a call has pulled are missing from the payload. As long as the call is in flight, it is
the call that knows; once it has ended, it is the body, which is spoiled then. Nobody needs to know
if the bytes are kept. A body that is spoiled stays so.

## Main results

* `Body.Reads.consumed_iff`, `Body.Discards.consumed_iff`: a call knows whether it has pulled bytes;
* `Traffic.knowing_run`: who knows what, however the calls are interleaved;
* `Traffic.Effect.spoiled`: no event makes a spoiled body sound again;
* `Traffic.spoiled_iff_pulled_at_rest`: what the mark says when nothing is in flight.
-/

namespace Inbound

namespace Body

/-! ### What one poll lets a call know -/

/-- A read that drains knows afterwards whether it has pulled bytes, be it now or before. -/
theorem Drains.consumed_iff {body rest : Body} {read read' : Read}
    {result : Poll (Except BodyError ByteArray)} (h : body.Drains read result read' rest)
    (hknows : read.Knows) :
    read'.consumed = true ↔ read.consumed = true ∨ rest.payload.bytes ≠ body.payload.bytes := by
  have hknows' := h.knows hknows
  have hbytes := h.bytes
  constructor
  · intro hconsumed
    by_contra hnone
    rw [not_or, not_not] at hnone
    -- With the payload as it was, and nothing got before, nothing has been got.
    rw [hnone.2] at hbytes
    unfold Read.Knows at hknows hknows'
    have hgot : read.got = .empty := by
      rw [← Payload.isEmpty_iff, ← Bool.not_eq_false', ← hknows]
      simpa using hnone.1
    rw [hgot, ByteArray.empty_append, Payload.append_eq_right_iff] at hbytes
    rw [hknows', hbytes] at hconsumed
    cases hconsumed
  · rintro (hconsumed | hbytes')
    · exact h.consumed hconsumed
    · rw [hknows', Bool.not_eq_true']
      by_contra hempty
      rw [Bool.not_eq_false, Payload.isEmpty_iff] at hempty
      rw [hempty, ByteArray.empty_append] at hbytes
      -- What has been got is no less than before, so there was nothing then either.
      have hgot : read.got = .empty := by
        by_contra hgot
        have hbefore : read.consumed = true := by
          rw [hknows, Bool.not_eq_true', ← Bool.not_eq_true, Payload.isEmpty_iff]
          exact hgot
        have hafter := h.consumed hbefore
        rw [hknows', hempty] at hafter
        cases hafter
      rw [hgot, ByteArray.empty_append] at hbytes
      exact hbytes' hbytes

/-- A read knows after a poll whether it has pulled bytes, be it now or before. -/
theorem Reads.consumed_iff {body rest : Body} {read read' : Read}
    {result : Poll (Except BodyError ByteArray)} (h : body.Reads read result read' rest)
    (hknows : read.Knows) :
    read'.consumed = true ↔ read.consumed = true ∨ rest.payload.bytes ≠ body.payload.bytes := by
  cases h with
  | cached | spent | waits => simp
  | refused => simp [leaveDraining, spoilIf, takeTurn, spend]
  | begins cache started turn spoiled drain =>
    exact (drains_of_eq drain).consumed_iff hknows
  | goesOn cache started drain =>
    exact (drains_of_eq drain).consumed_iff hknows

/-- A read that is pending has told the body nothing. -/
theorem Reads.of_pending {body rest : Body} {read read' : Read}
    (h : body.Reads read .pending read' rest) :
    rest.cache = body.cache ∧ rest.spoiled = body.spoiled := by
  cases h with
  | spent | waits => exact ⟨rfl, rfl⟩
  | begins cache started turn spoiled drain =>
    exact ((drains_of_eq drain).pending rfl).2
  | goesOn cache started drain =>
    exact ((drains_of_eq drain).pending rfl).2

/-- A read that fails has told the body whether it has pulled bytes. -/
theorem Reads.of_error {body rest : Body} {read read' : Read} {error : BodyError}
    (h : body.Reads read (.ready (.error error)) read' rest) :
    rest.cache = body.cache ∧ rest.spoiled = (body.spoiled || read'.consumed) := by
  cases h with
  | refused => exact ⟨rfl, rfl⟩
  | begins cache started turn spoiled drain =>
    exact ((drains_of_eq drain).failure error rfl).2.2.2
  | goesOn cache started drain =>
    exact ((drains_of_eq drain).failure error rfl).2.2.2

/-- A release knows after a poll whether it has pulled bytes, be it now or before. -/
theorem Discards.consumed_iff {body rest : Body} {release release' : Release}
    {result : Poll (Except BodyError Unit)} (h : body.Discards release result release' rest) :
    release'.consumed = true ↔
      release.consumed = true ∨ rest.payload.bytes ≠ body.payload.bytes := by
  obtain ⟨lost, hbytes, hconsumed⟩ := h.bytes
  have hlost : rest.payload.bytes ≠ body.payload.bytes ↔ lost ≠ .empty := by
    rw [hbytes, ne_comm, Ne, Payload.append_eq_right_iff]
  rw [hconsumed, Bool.or_eq_true, Bool.not_eq_true', hlost, ← Bool.not_eq_true, Payload.isEmpty_iff]

/-! ### Spoiled bodies stay spoiled -/

theorem Drains.spoiled {body rest : Body} {read read' : Read}
    {result : Poll (Except BodyError ByteArray)} (h : body.Drains read result read' rest)
    (hspoiled : body.spoiled = true) : rest.spoiled = true := by
  rcases result with (error | bytes) | -
  · rw [(h.failure error rfl).2.2.2.2, hspoiled, Bool.true_or]
  · rw [(h.success bytes rfl).2.2.2.2, hspoiled]
  · rw [(h.pending rfl).2.2, hspoiled]

theorem Reads.spoiled {body rest : Body} {read read' : Read}
    {result : Poll (Except BodyError ByteArray)} (h : body.Reads read result read' rest)
    (hspoiled : body.spoiled = true) : rest.spoiled = true := by
  cases h with
  | cached | spent | waits => exact hspoiled
  | refused cache started turn spoiled =>
    change (body.spoiled || read.consumed) = true
    rw [spoiled, Bool.true_or]
  | begins cache started turn spoiled drain =>
    -- A read begins to drain a sound body only.
    rw [hspoiled] at spoiled
    cases spoiled
  | goesOn cache started drain => exact (drains_of_eq drain).spoiled hspoiled

theorem Discards.spoiled {body rest : Body} {release release' : Release}
    {result : Poll (Except BodyError Unit)} (h : body.Discards release result release' rest)
    (hspoiled : body.spoiled = true) : rest.spoiled = true := by
  cases result with
  | pending => rw [(h.pending rfl).2, hspoiled]
  | ready value => rw [h.ended (by simp), hspoiled, Bool.true_or]

end Body

/-- The call has pulled bytes that it does not know to be kept. -/
def Call.consumed (call : Call) : Bool :=
  match call.stage with
  | .reading read => read.consumed
  | .releasing release => release.consumed
  | .pulling _ => false

namespace Traffic

/-! ### What calls have pulled -/

/-- One of the events is a poll of the call under a ticket that takes bytes off the payload. -/
def HasPulled (traffic : Traffic) (events : List Event) (ticket : Ticket) : Prop :=
  ∃ before event after, events = before ++ event :: after ∧ event = .polls ticket ∧
    ((traffic.run before).step event).body.payload.bytes ≠
      (traffic.run before).body.payload.bytes

theorem hasPulled_concat {traffic : Traffic} {events : List Event} {event : Event}
    {ticket : Ticket} :
    traffic.HasPulled (events ++ [event]) ticket ↔ traffic.HasPulled events ticket ∨
      event = .polls ticket ∧ ((traffic.run events).step event).body.payload.bytes ≠
        (traffic.run events).body.payload.bytes :=
  exists_split_concat

/-- Every call in flight knows whether it has pulled bytes. Unless bytes are kept, the body is
spoiled exactly if a call has that has ended. -/
structure Knowing (pulled : Ticket → Prop) (body : Body) (inFlight : InFlight) : Prop where
  known : ∀ {ticket : Ticket}, pulled ticket → ticket < body.nextTicket
  consumed : ∀ {ticket : Ticket} {call : Call}, inFlight ticket = some call →
    (call.consumed = true ↔ pulled ticket)
  spoiled : body.cache = none →
    (body.spoiled = true ↔ ∃ ticket, pulled ticket ∧ inFlight ticket = none)

namespace Knowing

variable {pulled pulled' : Ticket → Prop} {body body' : Body} {inFlight : InFlight}
  {ticket : Ticket} {call call' : Call} {more : Prop}

/-- It does not matter how it is said who has pulled. -/
theorem congr (h : Knowing pulled body inFlight) (hpulled : ∀ other, pulled' other ↔ pulled other) :
    Knowing pulled' body inFlight :=
  (funext fun other => propext (hpulled other) : pulled' = pulled) ▸ h

/-- What has nothing to do with bytes changes nobody's knowledge. -/
theorem frame (h : Knowing pulled body inFlight) (hnext : body'.nextTicket = body.nextTicket)
    (hcache : body'.cache = body.cache) (hspoiled : body'.spoiled = body.spoiled) :
    Knowing pulled body' inFlight := by
  refine ⟨fun hother => hnext ▸ h.known hother, h.consumed, fun hnone => ?_⟩
  rw [hspoiled]
  exact h.spoiled (hcache.symm.trans hnone)

/-- A call that has just begun has pulled nothing. -/
theorem begins (h : Knowing pulled body inFlight) (hcall : call.consumed = false) :
    Knowing pulled { body with nextTicket := body.nextTicket + 1 }
      (Function.update inFlight body.nextTicket (some call)) := by
  have hfresh : ¬ pulled body.nextTicket := fun hpulled => absurd (h.known hpulled) (lt_irrefl _)
  refine ⟨fun hother => Nat.lt_succ_of_lt (h.known hother), fun {other _} hother => ?_,
    fun hnone => ?_⟩
  · rcases InFlight.update_eq_some_iff.mp hother with ⟨rfl, hself⟩ | ⟨-, hold⟩
    · cases hself
      simp [hcall, hfresh]
    · exact h.consumed hold
  · -- Nobody who has pulled has the ticket that is given out now.
    rw [show ({ body with nextTicket := body.nextTicket + 1 } : Body).spoiled = body.spoiled
      from rfl, h.spoiled hnone]
    refine exists_congr fun other => and_congr_right fun hother => ?_
    have hne : other ≠ body.nextTicket := fun heq => hfresh (heq ▸ hother)
    rw [Function.update_of_ne hne]

/-- Who has pulled, or is in flight and pulls now, has a ticket that was given. -/
theorem known_of_inFlight (h : Knowing pulled body inFlight) (horderly : Orderly body inFlight)
    (hcall : inFlight ticket = some call) (hnext : body'.nextTicket = body.nextTicket)
    {other : Ticket} (hother : pulled other ∨ other = ticket ∧ more) :
    other < body'.nextTicket := by
  rw [hnext]
  rcases hother with hpulled | ⟨rfl, -⟩
  · exact h.known hpulled
  · exact horderly.known hcall

/-- A call goes on. -/
theorem goesOn (h : Knowing pulled body inFlight) (horderly : Orderly body inFlight)
    (hcall : inFlight ticket = some call)
    (hconsumed : call'.consumed = true ↔ call.consumed = true ∨ more)
    (hnext : body'.nextTicket = body.nextTicket) (hcache : body'.cache = body.cache)
    (hspoiled : body'.spoiled = body.spoiled) :
    Knowing (fun other => pulled other ∨ other = ticket ∧ more) body'
      (Function.update inFlight ticket (some call')) := by
  refine ⟨h.known_of_inFlight horderly hcall hnext, fun {other _} hother => ?consumed,
    fun hnone => ?spoiled⟩
  case consumed =>
    rcases InFlight.update_eq_some_iff.mp hother with ⟨rfl, hself⟩ | ⟨hne, hold⟩
    · cases hself
      simp [hconsumed, h.consumed hcall]
    · simp [h.consumed hold, hne]
  case spoiled =>
    rw [hspoiled, h.spoiled (hcache.symm.trans hnone)]
    -- The call is still in flight, so it is none of those that are over.
    refine exists_congr fun other => ?_
    by_cases heq : other = ticket
    · subst heq
      simp [hcall]
    · simp [heq]

/-- A call ends, and tells the body what it knows. -/
theorem ends (h : Knowing pulled body inFlight) (horderly : Orderly body inFlight)
    (hcall : inFlight ticket = some call) {consumed : Bool}
    (hconsumed : consumed = true ↔ call.consumed = true ∨ more)
    (hnext : body'.nextTicket = body.nextTicket)
    (htold : body'.cache = none →
      body.cache = none ∧ body'.spoiled = (body.spoiled || consumed)) :
    Knowing (fun other => pulled other ∨ other = ticket ∧ more) body'
      (Function.update inFlight ticket none) := by
  refine ⟨h.known_of_inFlight horderly hcall hnext, fun {other _} hother => ?consumed,
    fun hnone => ?spoiled⟩
  case consumed =>
    rcases InFlight.update_eq_some_iff.mp hother with ⟨-, hself⟩ | ⟨hne, hold⟩
    · cases hself
    · simp [h.consumed hold, hne]
  case spoiled =>
    obtain ⟨hcache, hspoiled⟩ := htold hnone
    rw [hspoiled, Bool.or_eq_true, h.spoiled hcache, hconsumed, h.consumed hcall]
    -- Those that are over are the ones of before and the call itself, which is not among those of
    -- before, as it was in flight.
    constructor
    · rintro (⟨other, hother, hended⟩ | hself)
      · have hne : other ≠ ticket := by
          rintro rfl
          rw [hcall] at hended
          cases hended
        exact ⟨other, Or.inl hother, by rw [Function.update_of_ne hne, hended]⟩
      · exact ⟨ticket, hself.imp_right fun hmore => ⟨rfl, hmore⟩, Function.update_self ..⟩
    · rintro ⟨other, hother, hended⟩
      by_cases heq : other = ticket
      · subst heq
        exact Or.inr (hother.imp_right And.right)
      · rw [Function.update_of_ne heq] at hended
        exact Or.inl ⟨other, hother.resolve_right fun hself => heq hself.1, hended⟩

/-- A call is dropped, and tells the body what it knows. -/
theorem dropped (h : Knowing pulled body inFlight) (horderly : Orderly body inFlight)
    (hcall : inFlight ticket = some call) (hnext : body'.nextTicket = body.nextTicket)
    (htold : body'.cache = none →
      body.cache = none ∧ body'.spoiled = (body.spoiled || call.consumed)) :
    Knowing pulled body' (Function.update inFlight ticket none) := by
  have hconsumed : call.consumed = true ↔ call.consumed = true ∨ False := (or_iff_left id).symm
  exact (h.ends horderly hcall hconsumed hnext htold).congr (by simp)

/-- What a call pulls it pulls when it is polled. -/
theorem polled
    (h : Knowing (fun other => pulled other ∨ other = ticket ∧ more) body inFlight) :
    Knowing (fun other => pulled other ∨ Event.polls ticket = .polls other ∧ more) body inFlight :=
  h.congr (by simp [eq_comm])

/-- Whatever happens, those who pull know it, and tell the body when they end. -/
theorem effect {event : Event} {inFlight' : InFlight} (h : Knowing pulled body inFlight)
    (horderly : Orderly body inFlight) (hevent : event ≠ .begins .readAny)
    (heffect : Effect body inFlight event body' inFlight') :
    Knowing (fun other => pulled other ∨
      event = .polls other ∧ body'.payload.bytes ≠ body.payload.bytes) body' inFlight' := by
  cases heffect with
  | none => exact h.congr (by simp)
  | beginsRead | beginsRelease => exact (h.begins rfl).congr (by simp)
  | beginsPull => exact absurd rfl hevent
  | pulls hcall => exact absurd hcall horderly.not_pulling
  | cancels =>
    have hsame : Knowing pulled body.cancel inFlight := h.frame rfl rfl rfl
    exact hsame.congr (by simp)
  | @allows passes =>
    have hsame : Knowing pulled { body with passes } inFlight := h.frame rfl rfl rfl
    exact hsame.congr (by simp)
  | @reads ticket wanted read read' _ result hcall hreads =>
    obtain ⟨-, hknows, -⟩ := horderly.read hcall
    have hconsumed := hreads.consumed_iff hknows
    have hnext := hreads.frame.2.1
    refine .polled ?_
    rcases result with (error | bytes) | -
    · obtain ⟨hcache, hspoiled⟩ := hreads.of_error
      exact h.ends horderly hcall hconsumed hnext fun hnone => ⟨hcache.symm.trans hnone, hspoiled⟩
    -- Where bytes are kept nothing has to be known.
    · have hcache := hreads.cache_of_ok
      exact h.ends horderly hcall hconsumed hnext fun hnone => by
        rw [hcache] at hnone
        cases hnone
    · obtain ⟨hcache, hspoiled⟩ := hreads.of_pending
      exact h.goesOn horderly hcall hconsumed hnext hcache hspoiled
  | @releases ticket wanted release release' _ result hcall hpoll =>
    obtain ⟨-, hwaits⟩ := horderly.release hcall
    have hspec := Body.pollRelease_spec body hwaits
    rw [hpoll] at hspec
    have hconsumed := hspec.consumed_iff
    refine .polled ?_
    cases result with
    | ready value =>
      exact h.ends horderly hcall hconsumed hspec.nextTicket fun hnone =>
        ⟨hspec.cache.symm.trans hnone, hspec.ended (by simp)⟩
    | pending =>
      exact h.goesOn horderly hcall hconsumed hspec.nextTicket hspec.cache (hspec.pending rfl).2
  | @dropsRead ticket wanted read hcall =>
    have hdropped : Knowing pulled (body.abandonRead read) (Function.update inFlight ticket none) :=
      h.dropped horderly hcall rfl fun hnone => ⟨hnone, rfl⟩
    exact hdropped.congr (by simp)
  | @dropsRelease ticket wanted release hcall =>
    have hdropped : Knowing pulled (body.abandonRelease release)
        (Function.update inFlight ticket none) :=
      h.dropped horderly hcall rfl fun hnone => ⟨hnone, rfl⟩
    exact hdropped.congr (by simp)

end Knowing

/-- After any events, bare pulls apart, every call in flight knows whether it has pulled bytes, and
the body whether one has that has ended. -/
theorem knowing_run {request : Request} {events : List Event}
    (hspoiled : request.body.spoiled = false) (h : WithoutBarePulls events) :
    Knowing ((start request).HasPulled events) ((start request).run events).body
      ((start request).run events).inFlight := by
  induction events using List.reverseRecOn with
  | nil =>
    have hnobody : ∀ ticket, ¬ (start request).HasPulled [] ticket := by
      rintro ticket ⟨before, event, after, heq, -⟩
      simp at heq
    refine ⟨fun hpulled => absurd hpulled (hnobody _), by rintro _ _ ⟨⟩, fun _ => ?_⟩
    change request.body.spoiled = true ↔ _
    simp [hspoiled, hnobody]
  | append_singleton events event ih =>
    have hevents : WithoutBarePulls events := fun e he => h e (List.mem_append_left _ he)
    rw [run_concat]
    exact ((ih hevents).effect (orderly_run hevents) (h event (by simp))
      (effect_step _ event)).congr fun other => hasPulled_concat

/-! ### Bodies at rest -/

/-- Nothing is in flight. -/
def AtRest (traffic : Traffic) : Prop :=
  ∀ ticket, traffic.inFlight ticket = none

/-- Whatever happens to a spoiled body, it stays spoiled. -/
theorem Effect.spoiled {body body' : Body} {inFlight inFlight' : InFlight} {event : Event}
    (heffect : Effect body inFlight event body' inFlight') (horderly : Orderly body inFlight)
    (hevent : event ≠ .begins .readAny) (hspoiled : body.spoiled = true) :
    body'.spoiled = true := by
  cases heffect with
  | none | beginsRead | beginsRelease | cancels | allows => exact hspoiled
  | beginsPull => exact absurd rfl hevent
  | pulls hcall => exact absurd hcall horderly.not_pulling
  | reads hcall hreads => exact hreads.spoiled hspoiled
  | @releases _ _ release _ _ _ hcall hpoll =>
    have hspec := Body.pollRelease_spec body (horderly.release hcall).2
    rw [hpoll] at hspec
    exact hspec.spoiled hspoiled
  -- Who is dropped may spoil the body, and does nothing else to the mark.
  | @dropsRead _ _ read hcall =>
    change (body.spoiled || read.consumed) = true
    rw [hspoiled, Bool.true_or]
  | @dropsRelease _ _ release hcall =>
    change (body.spoiled || release.consumed) = true
    rw [hspoiled, Bool.true_or]

/-- A body that is spoiled after some events is so after any that follow. -/
theorem spoiled_run_append {request : Request} {before later : List Event}
    (h : WithoutBarePulls (before ++ later))
    (hspoiled : ((start request).run before).body.spoiled = true) :
    ((start request).run (before ++ later)).body.spoiled = true := by
  induction later using List.reverseRecOn with
  | nil => rwa [List.append_nil]
  | append_singleton later event ih =>
    rw [← List.append_assoc] at h ⊢
    have hevents : WithoutBarePulls (before ++ later) := fun e he => h e (List.mem_append_left _ he)
    rw [run_concat]
    exact (effect_step _ event).spoiled (orderly_run hevents) (h event (by simp)) (ih hevents)

/-- However reads and releases have been interleaved, dropped and cancelled: when none of them is in
flight and no bytes are kept, the body is spoiled exactly if one of them has pulled bytes off the
payload. Once it is spoiled it stays so, whatever follows. -/
theorem spoiled_iff_pulled_at_rest (head : Head) (payload : Payload) (registry : RegistryId)
    (runtime : Option RuntimeId) (socket : Option SocketId) {events : List Event}
    (h : WithoutBarePulls events) :
    let fresh := start (Request.build head payload registry runtime socket)
    let traffic := fresh.run events
    (traffic.body.cache = none → traffic.AtRest →
      (traffic.body.spoiled = true ↔ ∃ ticket, fresh.HasPulled events ticket)) ∧
    ∀ {before later}, events = before ++ later → (fresh.run before).body.spoiled = true →
      traffic.body.spoiled = true := by
  intro fresh traffic
  refine ⟨fun hcache hrest => ?_, fun heq hspoiled => ?_⟩
  · have hknowing : Knowing (fresh.HasPulled events) traffic.body traffic.inFlight :=
      knowing_run rfl h
    rw [hknowing.spoiled hcache]
    -- Everybody who has pulled has ended, since nobody is in flight.
    exact exists_congr fun ticket => and_iff_left (hrest ticket)
  · subst heq
    exact spoiled_run_append h hspoiled

/-- A release has pulled the first chunk, and a read waits behind it, when the client goes away. The
release is dropped and the read fails; nothing is in flight any more, and the body is spoiled, as it
is since the drop. -/
theorem spoiled_of_dropped :
    let payload := Payload.stream [.chunk ⟨#[97, 98]⟩, .stall 1, .chunk ⟨#[99, 100]⟩]
    let fresh := start (Request.build .default payload 0 none none)
    let before : List Event :=
      [.begins .release, .begins .read, .polls 0, .polls 1, .cancels, .drops 0]
    let events := before ++ [.polls 1]
    WithoutBarePulls events ∧ (fresh.run events).body.cache = none ∧ (fresh.run events).AtRest ∧
      (fresh.run before).body.spoiled = true ∧ (fresh.run events).body.spoiled = true ∧
        ∃ ticket, fresh.HasPulled events ticket := by
  intro payload fresh before events
  have hbare : WithoutBarePulls events := by simp [WithoutBarePulls, events, before]
  have hcache : (fresh.run events).body.cache = none := by cbv
  have hrest : (fresh.run events).AtRest := by
    intro ticket
    -- Two tickets have been given out, and both calls have ended.
    have hnext : (fresh.run events).body.nextTicket = 2 := by cbv
    cases hcall : (fresh.run events).inFlight ticket with
    | none => rfl
    | some call =>
      have hlt : ticket < 2 := hnext ▸ (orderly_run hbare).known hcall
      have hended : (fresh.run events).inFlight 0 = none ∧ (fresh.run events).inFlight 1 = none :=
        ⟨by cbv, by cbv⟩
      interval_cases ticket
      · rw [hended.1] at hcall
        cases hcall
      · rw [hended.2] at hcall
        cases hcall
  have hspoiled : (fresh.run before).body.spoiled = true := by cbv
  obtain ⟨hiff, hstays⟩ := spoiled_iff_pulled_at_rest .default payload 0 none none hbare
  have hstill : (fresh.run events).body.spoiled = true := hstays rfl hspoiled
  exact ⟨hbare, hcache, hrest, hspoiled, hstill, (hiff hcache hrest).mp hstill⟩

end Traffic

end Inbound
