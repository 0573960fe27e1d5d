import Mathlib
import Inbound.Proofs.Body.Spoiling

/-!
# Cancelled requests

When the client goes away, the body stays as it is. Whatever calls are in flight then, or are begun
later, none of them pulls anything more, and nothing is kept that was not kept before. Bytes that
are kept can still be had; without them a call that ends fails, but for a release that has nothing
left to throw away.

## Main results

* `Body.Reads.of_cancelled`, `Body.pollRelease_of_cancelled`: what a poll comes to;
* `Traffic.freezes_run`: nothing is pulled or kept, however the calls are interleaved;
* `Traffic.frozen_once_cancelled`: how every call comes out.
-/

namespace Inbound

namespace Body

/-- Nothing is pulled and nothing is kept between two bodies. -/
structure Freezes (body rest : Body) : Prop where
  payload : rest.payload = body.payload
  cache : rest.cache = body.cache
  cancelled : rest.cancelled = body.cancelled

theorem Freezes.refl (body : Body) : body.Freezes body := ⟨rfl, rfl, rfl⟩

theorem Freezes.trans {first second third : Body} (h : first.Freezes second)
    (h' : second.Freezes third) : first.Freezes third where
  payload := h'.payload.trans h.payload
  cache := h'.cache.trans h.cache
  cancelled := h'.cancelled.trans h.cancelled

/-! ### What a poll comes to -/

section Cancelled

variable {body : Body}

/-- A pull finds out first that the client is gone. -/
theorem freezes_pull (h : body.cancelled = true) {rest : Body} {ticket : Ticket}
    {result : Poll (Except BodyError ByteArray)} (hpull : body.pull ticket = (result, rest)) :
    body.Freezes rest ∧ (result = .pending ∨ result = .ready (.error .cancelled)) := by
  rw [pull, h, if_pos rfl] at hpull
  split at hpull
  · cases hpull
    exact ⟨.refl body, Or.inl rfl⟩
  · cases hpull
    exact ⟨⟨rfl, rfl, rfl⟩, Or.inr rfl⟩

/-- A read that drains fails with its next pull. -/
theorem drain_of_cancelled (h : body.cancelled = true) (read : Read) :
    ((body.drain read).1 = .pending ∨ (body.drain read).1 = .ready (.error .cancelled)) ∧
      body.Freezes (body.drain read).2.2 := by
  unfold drain
  split
  next rest hpull => exact ⟨Or.inl rfl, (freezes_pull h hpull).1⟩
  next error rest hpull =>
    obtain ⟨hfreezes, hresult | hresult⟩ := freezes_pull h hpull
    · cases hresult
    · cases hresult
      exact ⟨Or.inr rfl, ⟨hfreezes.payload, hfreezes.cache, hfreezes.cancelled⟩⟩
  next chunk rest hpull =>
    -- No chunk is given any more.
    obtain ⟨-, hresult | hresult⟩ := freezes_pull h hpull <;> cases hresult

/-- A release that has something to throw away fails with its next pull. -/
theorem discard_of_cancelled (h : body.cancelled = true) (release : Release) :
    ((body.discard release).1 = .pending ∨
        (body.discard release).1 = .ready (.error .cancelled)) ∧
      body.Freezes (body.discard release).2.2 := by
  unfold discard
  split
  next rest hpull => exact ⟨Or.inl rfl, (freezes_pull h hpull).1⟩
  next error rest hpull =>
    obtain ⟨hfreezes, hresult | hresult⟩ := freezes_pull h hpull
    · cases hresult
    · cases hresult
      exact ⟨Or.inr rfl, ⟨hfreezes.payload, hfreezes.cache, hfreezes.cancelled⟩⟩
  next chunk rest hpull =>
    obtain ⟨-, hresult | hresult⟩ := freezes_pull h hpull <;> cases hresult

/-- A read of a cancelled request pulls nothing. If it ends, it has the bytes that were kept, or
else it fails, for one of two reasons. -/
theorem Reads.of_cancelled (h : body.cancelled = true) {rest : Body} {read read' : Read}
    {result : Poll (Except BodyError ByteArray)} (hreads : body.Reads read result read' rest) :
    body.Freezes rest ∧ (body.cache = none → result = .pending ∨
      result = .ready (.error .cancelled) ∨
        result = .ready (.error .consumed) ∧ body.spoiled = true) := by
  -- Only the reads that drain get as far as the payload, and there the cancellation is found first.
  cases hreads with
  | cached cache =>
    refine ⟨.refl body, fun hnone => ?_⟩
    rw [hnone] at cache
    cases cache
  | spent | waits => exact ⟨⟨rfl, rfl, rfl⟩, fun _ => Or.inl rfl⟩
  | refused cache started turn spoiled =>
    exact ⟨⟨rfl, rfl, rfl⟩, fun _ => Or.inr (Or.inr ⟨rfl, spoiled⟩)⟩
  | begins cache started turn spoiled drain =>
    have hturn : (body.takeTurn read.ticket).cancelled = true := h
    obtain ⟨hresult, hfreezes⟩ := drain_of_cancelled hturn { read with started := true }
    rw [drain] at hresult hfreezes
    exact ⟨⟨hfreezes.payload, hfreezes.cache, hfreezes.cancelled⟩,
      fun _ => hresult.imp_right Or.inl⟩
  | goesOn cache started drain =>
    obtain ⟨hresult, hfreezes⟩ := drain_of_cancelled h read
    rw [drain] at hresult hfreezes
    exact ⟨hfreezes, fun _ => hresult.imp_right Or.inl⟩

/-- A release of a cancelled request pulls nothing. If it ends, it fails, or it was at the end
already. -/
theorem pollRelease_of_cancelled (h : body.cancelled = true) (release : Release) :
    body.Freezes (body.pollRelease release).2.2 ∧ ((body.pollRelease release).1 = .pending ∨
      (body.pollRelease release).1 = .ready (.error .cancelled) ∨
        (body.pollRelease release).1 = .ready (.ok ()) ∧ body.payload.atEof = true) := by
  unfold pollRelease
  split
  next hend =>
    rw [Bool.and_eq_true] at hend
    exact ⟨.refl body, Or.inr (Or.inr ⟨rfl, hend.1⟩)⟩
  next =>
    obtain ⟨hresult, hfreezes⟩ := discard_of_cancelled h release
    exact ⟨hfreezes, hresult.imp_right Or.inl⟩

end Cancelled

end Body

/-! ### How calls fail -/

/-- What the body had to do with it that a call failed. -/
def CallError.bodyError? : CallError → Option BodyError
  | .body cause | .text (.body cause) | .jsonText (.body cause) => some cause
  | _ => none

/-- A call fails because the body cannot be read. -/
def FailsWith (error : BodyError) (answer : Except CallError BodyAnswer) : Prop :=
  ∃ cause, answer = .error cause ∧ cause.bodyError? = some error

/-- Whatever a handler wants of the body, it fails with the read. -/
theorem failsWith_finishCall (wanted : BodyCall) (charset : String) (error : BodyError) :
    FailsWith error (Request.finishCall wanted charset (.error error)) := by
  cases wanted <;> exact ⟨_, rfl, rfl⟩

namespace Traffic

/-- What one event can do once the client is gone: nothing is pulled and nothing is kept. -/
theorem Effect.freezes {body body' : Body} {inFlight inFlight' : InFlight} {event : Event}
    (heffect : Effect body inFlight event body' inFlight') (h : body.cancelled = true)
    (horderly : Orderly body inFlight) (hevent : event ≠ .begins .readAny) :
    body.Freezes body' := by
  cases heffect with
  | none => exact .refl body
  | beginsRead | beginsRelease | dropsRead | dropsRelease | allows => exact ⟨rfl, rfl, rfl⟩
  | cancels => exact ⟨rfl, rfl, h.symm⟩
  | beginsPull => exact absurd rfl hevent
  | pulls hcall => exact absurd hcall horderly.not_pulling
  | reads hcall hreads => exact (hreads.of_cancelled h).1
  | @releases _ _ release _ _ _ hcall hpoll =>
    have hfreezes := (Body.pollRelease_of_cancelled h release).1
    rw [hpoll] at hfreezes
    exact hfreezes

section Started

variable {request : Request} {before later : List Event}

/-- Once the client is gone, no event pulls or keeps anything, so nobody has pulled anything who
had not before. -/
theorem freezes_run (hbare : WithoutBarePulls (before ++ later))
    (h : ((start request).run before).body.cancelled = true) :
    ((start request).run before).body.Freezes ((start request).run (before ++ later)).body ∧
      ∀ ticket, (start request).HasPulled (before ++ later) ticket ↔
        (start request).HasPulled before ticket := by
  -- By induction on what comes later, with the last event added: what it finds is still cancelled.
  induction later using List.reverseRecOn with
  | nil =>
    rw [List.append_nil]
    exact ⟨.refl _, fun _ => Iff.rfl⟩
  | append_singleton later event ih =>
    rw [← List.append_assoc] at hbare ⊢
    have hevents : WithoutBarePulls (before ++ later) :=
      fun e he => hbare e (List.mem_append_left _ he)
    obtain ⟨hfreezes, hpulled⟩ := ih hevents
    have hstep := (effect_step ((start request).run (before ++ later)) event).freezes
      (hfreezes.cancelled.trans h) (orderly_run hevents) (hbare event (by simp))
    refine ⟨?_, fun ticket => ?_⟩
    · rw [run_concat]
      exact hfreezes.trans hstep
    · rw [hasPulled_concat, hpulled ticket, or_iff_left]
      rintro ⟨-, hbytes⟩
      exact hbytes (by rw [hstep.payload])

end Started

/-- A read that is polled where bytes are kept obtains them. -/
theorem obtains_of_cache {traffic : Traffic} {ticket : Ticket} {bytes : ByteArray}
    {result : Poll (Except BodyError ByteArray)} (hcache : traffic.body.cache = some bytes)
    (h : traffic.read? ticket = some result) : traffic.Obtains ticket bytes := by
  obtain ⟨wanted, read, hcall, -⟩ := read?_eq_some.mp h
  refine read?_eq_some.mpr ⟨wanted, read, hcall, ?_⟩
  rw [Body.pollRead_of_cache hcache]

/-- How a call that ends comes out once the client is gone, where no bytes are kept. -/
theorem answer_of_cancelled {traffic : Traffic} {ticket : Ticket}
    {answer : Except CallError BodyAnswer} (h : traffic.body.cancelled = true)
    (horderly : Orderly traffic.body traffic.inFlight) (hcache : traffic.body.cache = none)
    (hanswer : traffic.answer? ticket = some (.ready answer)) :
    FailsWith .cancelled answer ∨ FailsWith .consumed answer ∧ traffic.body.spoiled = true ∨
      (∃ wanted release, traffic.inFlight ticket = some ⟨wanted, .releasing release⟩) ∧
        answer = .ok .released ∧ traffic.body.payload.atEof = true := by
  -- A read fails, a release may end well, and a bare pull is not in flight here.
  obtain ⟨⟨wanted, read | release | visitor⟩, hcall, hpoll⟩ := Option.map_eq_some_iff.mp hanswer
  · have hreading := (traffic.request.pollCall_reading wanted read).1
    obtain ⟨-, hresult⟩ := (Body.pollRead_spec traffic.body read).of_cancelled h
    rw [hreading] at hpoll
    rcases hresult hcache with hpending | hcancelled | ⟨hconsumed, hspoiled⟩
    · rw [show (traffic.request.body.pollRead read).1 = .pending from hpending] at hpoll
      cases hpoll
    · rw [show (traffic.request.body.pollRead read).1 = _ from hcancelled] at hpoll
      cases hpoll
      exact Or.inl (failsWith_finishCall ..)
    · rw [show (traffic.request.body.pollRead read).1 = _ from hconsumed] at hpoll
      cases hpoll
      exact Or.inr (Or.inl ⟨failsWith_finishCall .., hspoiled⟩)
  · have hreleasing := traffic.request.pollCall_releasing wanted release
    obtain ⟨-, hresult⟩ := Body.pollRelease_of_cancelled h release
    rw [hreleasing] at hpoll
    rcases hresult with hpending | hcancelled | ⟨hreleased, heof⟩
    · rw [show (traffic.request.body.pollRelease release).1 = .pending from hpending] at hpoll
      cases hpoll
    · rw [show (traffic.request.body.pollRelease release).1 = _ from hcancelled] at hpoll
      cases hpoll
      exact Or.inl ⟨_, rfl, rfl⟩
    · rw [show (traffic.request.body.pollRelease release).1 = _ from hreleased] at hpoll
      cases hpoll
      exact Or.inr (Or.inr ⟨⟨wanted, release, hcall⟩, rfl, heof⟩)
  · exact absurd hcall horderly.not_pulling

/-- Once the client is gone, whatever is in flight then and whatever happens later, nothing more is
pulled from the payload, and the bytes that are kept are those that were kept before. Where bytes
are kept, whoever reads obtains them. Where none are, a call that ends fails because the request is
cancelled; or because bytes are missing that a call has pulled before and that has ended; or it is a
release that was at the end already. -/
theorem frozen_once_cancelled (head : Head) (payload : Payload) (registry : RegistryId)
    (runtime : Option RuntimeId) (socket : Option SocketId) {before later : List Event}
    (h : WithoutBarePulls (before ++ .cancels :: later)) :
    let fresh := start (Request.build head payload registry runtime socket)
    let traffic := fresh.run (before ++ .cancels :: later)
    traffic.body.payload = (fresh.run before).body.payload ∧
    traffic.body.cache = (fresh.run before).body.cache ∧
    (∀ {bytes ticket result}, traffic.body.cache = some bytes →
      traffic.read? ticket = some result → traffic.Obtains ticket bytes) ∧
    ∀ {ticket answer}, traffic.body.cache = none →
      traffic.answer? ticket = some (.ready answer) →
        FailsWith .cancelled answer ∨
        FailsWith .consumed answer ∧
          (∃ other, fresh.HasPulled before other ∧ traffic.inFlight other = none) ∨
        (∃ wanted release, traffic.inFlight ticket = some ⟨wanted, .releasing release⟩) ∧
          answer = .ok .released ∧ traffic.body.payload.atEof = true := by
  intro fresh traffic
  -- The cancelling is the last of the events that come first, and the first one that freezes.
  have hsplit : before ++ .cancels :: later = (before ++ [.cancels]) ++ later := by simp
  have hbare : WithoutBarePulls ((before ++ [.cancels]) ++ later) := hsplit ▸ h
  have hcancelled : (fresh.run (before ++ [.cancels])).body.cancelled = true := by
    rw [run_concat]
    rfl
  obtain ⟨hfreezes, hpulled⟩ := freezes_run hbare hcancelled
  have htraffic : traffic = fresh.run ((before ++ [.cancels]) ++ later) := by rw [← hsplit]
  rw [← htraffic] at hfreezes
  have horderly : Orderly traffic.body traffic.inFlight := orderly_run h
  refine ⟨?payload, ?cache, obtains_of_cache, fun hcache hanswer => ?answer⟩
  case payload =>
    rw [hfreezes.payload, run_concat]
    rfl
  case cache =>
    rw [hfreezes.cache, run_concat]
    rfl
  case answer =>
    have hcome := answer_of_cancelled (hfreezes.cancelled.trans hcancelled) horderly hcache hanswer
    refine hcome.imp_right (Or.imp_left (And.imp_right fun hspoiled => ?_))
    -- The body is spoiled by a call that had pulled when the client went away.
    have hknowing := @knowing_run (Request.build head payload registry runtime socket) _ rfl h
    obtain ⟨other, hother, hended⟩ := (hknowing.spoiled hcache).mp hspoiled
    refine ⟨other, ?_, hended⟩
    rw [hsplit, hpulled other, hasPulled_concat] at hother
    exact hother.resolve_right (by simp)

/-- A read has pulled the first chunk when the client goes away, and a call for the text waits for
its turn. The read fails because the request is cancelled; then the other call finds that bytes are
missing, which the read has pulled. -/
theorem consumed_once_cancelled :
    let payload := Payload.stream [.chunk ⟨#[97, 98]⟩, .stall 1, .chunk ⟨#[99, 100]⟩]
    let fresh := start (Request.build .default payload 0 none none)
    let before := [.begins .read, .begins .text, .polls 0, .polls 1]
    let events := before ++ .cancels :: [.polls 0]
    WithoutBarePulls events ∧ (fresh.run events).body.cache = none ∧
      (fresh.run events).answer? 1 = some (.ready (.error (.text (.body .consumed)))) ∧
        ∃ other, fresh.HasPulled before other ∧ (fresh.run events).inFlight other = none := by
  intro payload fresh before events
  have hbare : WithoutBarePulls events := by simp [WithoutBarePulls, events, before]
  have hcache : (fresh.run events).body.cache = none := by cbv
  have hanswer : (fresh.run events).answer? 1 =
      some (.ready (.error (.text (.body .consumed)))) := by cbv
  obtain ⟨-, -, -, hends⟩ := frozen_once_cancelled .default payload 0 none none hbare
  refine ⟨hbare, hcache, hanswer, ?_⟩
  -- The error is not that of a call which finds the request cancelled itself.
  rcases hends hcache hanswer with ⟨cause, hcause, hcancelled⟩ | ⟨-, hpulled⟩ | ⟨-, hreleased, -⟩
  · cases hcause
    cases hcancelled
  · exact hpulled
  · cases hreleased

end Traffic

end Inbound
