import Mathlib
import Inbound.Proofs.Body.Turn

/-!
# Complete bodies

A read that succeeds while releases are going on gives the whole body if, and only if, no release
has thrown away any of it. Nothing but releases can make bytes go missing from a success: a read
that fails, or is dropped, after it has pulled some keeps all later reads from succeeding.

A release does the same once it has ended. While it is still in flight it does not, so a read that
has its turn in the meantime pulls what is left and takes it for everything.

## Main results

* `Traffic.accounts_run`: what has been got and what is left, however the calls are interleaved;
* `Traffic.whole_iff_not_discarded`: which successes are complete;
* `Traffic.exists_obtains_truncated`: a success that is not.
-/

namespace Inbound.Traffic

/-- One of the events is a poll of a release that takes bytes off the payload. -/
def Discarded (traffic : Traffic) (events : List Event) : Prop :=
  ∃ before event after, events = before ++ event :: after ∧
    Takes (traffic.run before).body (traffic.run before).inFlight event
      ((traffic.run before).step event).body

theorem discarded_concat {traffic : Traffic} {events : List Event} {event : Event} :
    Discarded traffic (events ++ [event]) ↔ Discarded traffic events ∨
      Takes (traffic.run events).body (traffic.run events).inFlight event
        ((traffic.run events).step event).body :=
  exists_split_concat

/-- The bytes that have been got at a stage. -/
def Stage.got : Stage → ByteArray
  | .resting => .empty
  | .draining read => read.got
  | .done bytes => bytes

theorem Stage.Has.eq_got {stage : Stage} {spoiled : Bool} {got : ByteArray}
    (h : stage.Has spoiled got) : got = stage.got ∧ (stage = .resting → spoiled = false) := by
  cases stage with
  | resting => exact ⟨h.2, fun _ => h.1⟩
  | draining read => exact ⟨h, by simp⟩
  | done bytes => exact h.elim

/-- The bytes that have been got and those that are left are no more than there were. They are
fewer once a release has thrown some away. Until then they are all of them, unless the body knows
that it is spoiled. -/
structure Accounts (whole : ByteArray) (discarded : Prop) (body : Body) (stage : Stage) : Prop where
  bound : stage.got.size + body.payload.bytes.size ≤ whole.size
  short : discarded → stage.got.size + body.payload.bytes.size < whole.size
  complete : ¬ discarded → (stage = .resting → body.spoiled = false) →
    stage.got ++ body.payload.bytes = whole
  finished : ∀ {bytes : ByteArray}, stage = .done bytes → body.payload.bytes = .empty

namespace Accounts

variable {whole : ByteArray} {discarded : Prop} {body body' : Body} {stage stage' : Stage}

/-- What a read has got when it is polled belongs to everything, unless a release has thrown some
away. -/
theorem of_has (h : Accounts whole discarded body stage) {got : ByteArray}
    (hhas : stage.Has body.spoiled got) :
    got.size + body.payload.bytes.size ≤ whole.size ∧
      (discarded → got.size + body.payload.bytes.size < whole.size) ∧
      (¬ discarded → got ++ body.payload.bytes = whole) := by
  obtain ⟨rfl, hspoiled⟩ := hhas.eq_got
  exact ⟨h.bound, h.short, fun hnot => h.complete hnot hspoiled⟩

/-- What a release takes off the payload is missing from then on. -/
theorem releases {lost : ByteArray} (h : Accounts whole discarded body stage)
    (hbytes : body.payload.bytes = lost ++ body'.payload.bytes)
    (hspoiled : body.spoiled = true → body'.spoiled = true) :
    Accounts whole (discarded ∨ lost ≠ .empty) body' stage := by
  have hsize := congrArg ByteArray.size hbytes
  rw [ByteArray.size_append] at hsize
  have hbound := h.bound
  refine ⟨by omega, ?short, ?complete, fun hstage => ?finished⟩
  case short =>
    rintro (hdiscarded | hlost)
    · have := h.short hdiscarded
      omega
    · have : lost.size ≠ 0 := fun hzero => hlost (ByteArray.size_eq_zero_iff.mp hzero)
      omega
  case complete =>
    intro hnot hclean
    rw [not_or, not_not] at hnot
    obtain ⟨hnot, rfl⟩ := hnot
    rw [ByteArray.empty_append] at hbytes
    rw [← hbytes]
    -- A body is not spoiled before if it is not spoiled afterwards.
    refine h.complete hnot fun hresting => ?_
    by_contra hbefore
    rw [Bool.not_eq_false] at hbefore
    rw [hspoiled hbefore] at hclean
    cases hclean hresting
  case finished =>
    have hempty := h.finished hstage
    rw [hbytes, ByteArray.append_eq_empty_iff] at hempty
    exact hempty.2

/-- What a read has pulled is not missing while the read drains. -/
theorem pulls (h : Accounts whole discarded body stage) {got : ByteArray} {read : Body.Read}
    (hhas : stage.Has body.spoiled got)
    (hbytes : read.got ++ body'.payload.bytes = got ++ body.payload.bytes) :
    Accounts whole discarded body' (.draining read) := by
  obtain ⟨hbound, hshort, hcomplete⟩ := h.of_has hhas
  have hsize := congrArg ByteArray.size hbytes
  rw [ByteArray.size_append, ByteArray.size_append] at hsize
  rw [← hsize] at hbound hshort
  rw [← hbytes] at hcomplete
  exact ⟨hbound, hshort, fun hnot _ => hcomplete hnot, by simp⟩

/-- A read that pulls everything has got what was there. -/
theorem finishes (h : Accounts whole discarded body stage) {got : ByteArray}
    (hhas : stage.Has body.spoiled got) (hempty : body'.payload.bytes = .empty) :
    Accounts whole discarded body' (.done (got ++ body.payload.bytes)) := by
  obtain ⟨hbound, hshort, hcomplete⟩ := h.of_has hhas
  rw [← ByteArray.size_append] at hbound hshort
  refine ⟨?bound, ?short, fun hnot _ => ?complete, fun _ => hempty⟩
  case bound =>
    rw [hempty]
    exact hbound
  case short =>
    rw [hempty]
    exact hshort
  case complete =>
    rw [hempty, ByteArray.append_empty]
    exact hcomplete hnot

/-- What a read has pulled is missing once it fails or is dropped, and the body is spoiled then. -/
theorem fails (h : Accounts whole discarded body stage) {got pulled : ByteArray}
    (hhas : stage.Has body.spoiled got)
    (hbytes : pulled ++ body'.payload.bytes = got ++ body.payload.bytes)
    (hspoiled : body'.spoiled = (body.spoiled || !pulled.isEmpty)) :
    Accounts whole discarded body' .resting := by
  obtain ⟨hbound, hshort, hcomplete⟩ := h.of_has hhas
  have hsize := congrArg ByteArray.size hbytes
  rw [ByteArray.size_append, ByteArray.size_append] at hsize
  refine ⟨?bound, fun hdiscarded => ?short, fun hnot hclean => ?complete, by simp⟩
  case bound =>
    rw [Stage.got, ByteArray.size_empty]
    omega
  case short =>
    have := hshort hdiscarded
    rw [Stage.got, ByteArray.size_empty]
    omega
  case complete =>
    -- If the body is not spoiled, then nothing was pulled, and nothing is missing.
    have hkept := hclean rfl
    rw [hspoiled, Bool.or_eq_false_iff, Bool.not_eq_false', Payload.isEmpty_iff] at hkept
    rw [← hcomplete hnot, ← hbytes, hkept.2]
    rfl

/-- Whatever becomes of the bytes is accounted for. -/
theorem move {lost : ByteArray} (h : Accounts whole discarded body stage)
    (hmove : Move body body' lost stage stage') :
    Accounts whole (discarded ∨ lost ≠ .empty) body' stage' := by
  -- Only a release throws anything away; after every other move as much is discarded as before.
  have hnone : (discarded ∨ ByteArray.empty ≠ .empty) = discarded := by simp
  cases hmove with
  | stays payload spoiled =>
    obtain ⟨hbound, hshort, hcomplete, hfinished⟩ := h
    rw [← payload] at hbound hshort hcomplete hfinished
    rw [← spoiled] at hcomplete
    rw [hnone]
    exact ⟨hbound, hshort, hcomplete, hfinished⟩
  | releases bytes spoiled => exact h.releases bytes spoiled
  | pulls has bytes =>
    rw [hnone]
    exact h.pulls has bytes
  | finishes has bytes =>
    rw [hnone]
    exact h.finishes has bytes
  | fails has bytes spoiled =>
    rw [hnone]
    exact h.fails has bytes spoiled

/-- The bytes in the cache are everything exactly if nothing was thrown away. -/
theorem whole_iff {inFlight : InFlight} (h : Accounts whole discarded body stage)
    (hstage : AtStage body inFlight stage) {bytes : ByteArray} (hcache : body.cache = some bytes) :
    bytes = whole ↔ ¬ discarded := by
  cases hstage with
  | resting none | draining none =>
    rw [hcache] at none
    cases none
  | done cache =>
    rw [hcache] at cache
    cases cache
    -- Nothing is left in the payload, so the cache alone has to make up for everything.
    have hempty := h.finished rfl
    constructor
    · rintro rfl hdiscarded
      have hshort := h.short hdiscarded
      rw [hempty] at hshort
      exact absurd hshort (Nat.lt_irrefl _)
    · intro hnot
      have hcomplete := h.complete hnot (by simp)
      rwa [hempty, ByteArray.append_empty] at hcomplete

end Accounts

/-- After any events the body is at some stage, and its bytes are accounted for. -/
theorem accounts_run {request : Request} {whole : ByteArray} {events : List Event}
    (hrequest : request.body.cache = none) (hwhole : request.body.payload.bytes = whole)
    (h : WithoutBarePulls events) :
    ∃ stage,
      AtStage ((start request).run events).body ((start request).run events).inFlight stage ∧
        Accounts whole (Discarded (start request) events) ((start request).run events).body
          stage := by
  -- The events are taken in order, so each is added behind those that have happened.
  induction events using List.reverseRecOn with
  | nil =>
    refine ⟨.resting, .resting hrequest (by rintro _ _ _ ⟨⟩), Nat.le_of_eq ?_, ?_, fun _ _ => ?_,
      by simp⟩
    · rw [Stage.got, ByteArray.size_empty, Nat.zero_add, ← hwhole]
      rfl
    · rintro ⟨before, event, after, heq, -⟩
      simp at heq
    · rw [Stage.got, ByteArray.empty_append, ← hwhole]
      rfl
  | append_singleton events event ih =>
    have hevents : WithoutBarePulls events := fun e he => h e (List.mem_append_left _ he)
    obtain ⟨stage, hstage, haccounts⟩ := ih hevents
    obtain ⟨stage', lost, hstage', hmove, htakes⟩ := move_of_effect hstage (orderly_run hevents)
      (h event (by simp)) (effect_step _ event)
    rw [run_concat, discarded_concat, htakes]
    exact ⟨stage', hstage', haccounts.move hmove⟩

/-- A call that obtains bytes throws none away. -/
theorem not_takes_of_obtains {traffic : Traffic} {ticket : Ticket} {bytes : ByteArray}
    (h : traffic.Obtains ticket bytes) (body' : Body) :
    ¬ Takes traffic.body traffic.inFlight (.polls ticket) body' := by
  obtain ⟨wanted, read, hcall, -⟩ := read?_eq_some.mp h
  rintro ⟨_, _, _, ⟨⟩, hrelease, -⟩
  rw [hcall] at hrelease
  cases hrelease

section Started

variable {request : Request} {whole : ByteArray} {events : List Event}

/-- The bytes in the cache are the whole body exactly if nothing was thrown away. -/
theorem cached_iff (hrequest : request.body.cache = none)
    (hwhole : request.body.payload.bytes = whole) (h : WithoutBarePulls events)
    {bytes : ByteArray} (hcache : ((start request).run events).body.cache = some bytes) :
    bytes = whole ↔ ¬ Discarded (start request) events := by
  obtain ⟨stage, hstage, haccounts⟩ := accounts_run hrequest hwhole h
  exact haccounts.whole_iff hstage hcache

/-- The bytes that a call obtains are the whole body exactly if nothing was thrown away. -/
theorem obtained_iff (hrequest : request.body.cache = none)
    (hwhole : request.body.payload.bytes = whole) (h : WithoutBarePulls events) {ticket : Ticket}
    {bytes : ByteArray} (hobtains : ((start request).run events).Obtains ticket bytes) :
    bytes = whole ↔ ¬ Discarded (start request) events := by
  -- The poll of the read is no bare pull either.
  have hevents : WithoutBarePulls (events ++ [.polls ticket]) := by
    intro event hevent
    rcases List.mem_append.mp hevent with hbefore | hlast
    · exact h event hbefore
    · rw [List.mem_singleton] at hlast
      rw [hlast]
      simp
  -- The poll that obtains the bytes is one event more, and throws nothing away.
  have hcache := cache_of_obtains hobtains
  rw [← run_concat] at hcache
  rw [cached_iff hrequest hwhole hevents hcache, discarded_concat,
    or_iff_left (not_takes_of_obtains hobtains _)]

end Started

/-- However calls are interleaved on a request, the bytes that any of them obtains, and those that
are kept for later calls, are the whole body exactly if no release has taken any of it off the
payload. -/
theorem whole_iff_not_discarded (head : Head) (payload : Payload) (registry : RegistryId)
    (runtime : Option RuntimeId) (socket : Option SocketId) {events : List Event}
    (h : WithoutBarePulls events) :
    let before := start (Request.build head payload registry runtime socket)
    let traffic := before.run events
    (∀ {ticket bytes}, traffic.Obtains ticket bytes →
      (bytes = payload.bytes ↔ ¬ Discarded before events)) ∧
    ∀ {bytes}, traffic.body.cache = some bytes →
      (bytes = payload.bytes ↔ ¬ Discarded before events) :=
  ⟨fun hobtains => obtained_iff rfl rfl h hobtains, fun hcache => cached_iff rfl rfl h hcache⟩

/-- Two chunks with a pause between them. -/
def paused : Payload :=
  .stream [.chunk ⟨#[97, 98]⟩, .stall 1, .chunk ⟨#[99, 100]⟩]

/-- The whole of a body can be read that comes in two chunks, since no release has taken any. -/
theorem whole_of_paused :
    let before := start (Request.build .default paused 0 none none)
    let events := [.begins .read, .polls 0]
    WithoutBarePulls events ∧ (before.run events).Obtains 0 ⟨#[97, 98, 99, 100]⟩ ∧
      ¬ Discarded before events := by
  have hevents : WithoutBarePulls [.begins .read, .polls 0] := by simp [WithoutBarePulls]
  have hobtains : ((start (Request.build .default paused 0 none none)).run
      [.begins .read, .polls 0]).Obtains 0 ⟨#[97, 98, 99, 100]⟩ := by
    unfold Obtains
    cbv
  exact ⟨hevents, hobtains,
    ((whole_iff_not_discarded .default paused 0 none none hevents).1 hobtains).mp (by decide)⟩

/-- A release pulls the first chunk and waits for more; a read has its turn; the release is
dropped. The read then succeeds with the second chunk alone. -/
theorem exists_obtains_truncated :
    ¬ ∀ (head : Head) (payload : Payload) (registry : RegistryId) (runtime : Option RuntimeId)
        (socket : Option SocketId) (events : List Event) (ticket : Ticket) (bytes : ByteArray),
      WithoutBarePulls events →
        ((start (Request.build head payload registry runtime socket)).run events).Obtains
          ticket bytes → bytes = payload.bytes := by
  intro h
  have hevents : WithoutBarePulls
      [.begins .release, .polls 0, .begins .read, .polls 1, .drops 0] := by
    simp [WithoutBarePulls]
  have hobtains : ((start (Request.build .default paused 0 none none)).run
      [.begins .release, .polls 0, .begins .read, .polls 1, .drops 0]).Obtains 1
        ⟨#[99, 100]⟩ := by
    unfold Obtains
    cbv
  have htruncated := h .default paused 0 none none _ 1 ⟨#[99, 100]⟩ hevents hobtains
  exact absurd htruncated (by decide)

end Inbound.Traffic
