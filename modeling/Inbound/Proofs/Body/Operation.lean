import Inbound.Proofs.Async.Gate
import Inbound.Proofs.Body.Payload

/-!
# Polls of reads and releases

What one poll of a read or of a release does to a body: which bytes it takes off the payload, what
becomes of them, and what it leaves alone. Everything that is proved about several operations at
once rests on these statements, and none of it looks into the loops again.

## Main results

* `Body.pull_spec`: what one pull takes, and that it changes nothing but the payload and the gate;
* `Body.drain_spec`: how a read that has its turn ends, or pauses;
* `Body.discard_spec`: the same for a release.
-/

namespace Inbound

namespace Body

/-! ### Pulling -/

/-- Two bodies differ at most in the payload, the gate in front of it, the passes, and the
operations that can go on. -/
structure SameButPulling (body rest : Body) : Prop where
  limit : rest.limit = body.limit
  draining : rest.draining = body.draining
  cache : rest.cache = body.cache
  spoiled : rest.spoiled = body.spoiled
  cancelled : rest.cancelled = body.cancelled
  nextTicket : rest.nextTicket = body.nextTicket

theorem SameButPulling.refl (body : Body) : body.SameButPulling body :=
  ⟨rfl, rfl, rfl, rfl, rfl, rfl⟩

theorem SameButPulling.trans {first second third : Body} (h : first.SameButPulling second)
    (h' : second.SameButPulling third) : first.SameButPulling third where
  limit := h'.limit.trans h.limit
  draining := h'.draining.trans h.draining
  cache := h'.cache.trans h.cache
  spoiled := h'.spoiled.trans h.spoiled
  cancelled := h'.cancelled.trans h.cancelled
  nextTicket := h'.nextTicket.trans h.nextTicket

/-- What a pull does, whatever it gives: it takes the bytes of a chunk and leaves the others. The
empty chunk is given at the end, and nowhere else. Whoever is alone at the gate stays alone there,
and leaves it with a result. -/
structure Pulls {ε : Type} (body : Body) (ticket : Ticket) (result : Poll (Except ε ByteArray))
    (rest : Body) : Prop where
  same : body.SameButPulling rest
  bytes : body.payload.bytes = Payload.taken result ++ rest.payload.bytes
  finished : result = .ready (.ok .empty) →
    body.payload.bytes = .empty ∧ rest.payload.atEof = true
  alone : body.pulling.IsFor ticket →
    rest.pulling.IsFor ticket ∧ (result ≠ .pending → rest.pulling = .idle)

theorem payload_wakeIfStalled (body : Body) (ticket : Ticket) :
    (body.wakeIfStalled ticket).payload = body.payload := by
  unfold wakeIfStalled
  split <;> rfl

theorem pulling_wakeIfStalled (body : Body) (ticket : Ticket) :
    (body.wakeIfStalled ticket).pulling = body.pulling := by
  unfold wakeIfStalled
  split <;> rfl

theorem same_wakeIfStalled (body : Body) (ticket : Ticket) :
    body.SameButPulling (body.wakeIfStalled ticket) := by
  unfold wakeIfStalled
  split <;> exact ⟨rfl, rfl, rfl, rfl, rfl, rfl⟩

theorem same_leavePulling (body : Body) (ticket : Ticket) :
    body.SameButPulling (body.leavePulling ticket) :=
  ⟨rfl, rfl, rfl, rfl, rfl, rfl⟩

theorem alone_leavePulling {body : Body} {ticket : Ticket} (h : body.pulling.IsFor ticket)
    {p : Prop} :
    (body.leavePulling ticket).pulling.IsFor ticket ∧
      (p → (body.leavePulling ticket).pulling = .idle) := by
  have hleave : (body.leavePulling ticket).pulling = .idle := Gate.leave_of_isFor h
  rw [hleave]
  exact ⟨Gate.isFor_idle ticket, fun _ => rfl⟩

theorem same_payload (body : Body) (payload : Payload) :
    body.SameButPulling { body with payload } :=
  ⟨rfl, rfl, rfl, rfl, rfl, rfl⟩

theorem pullInside_spec (body : Body) (ticket : Ticket) :
    body.Pulls ticket (body.pullInside ticket).1 (body.pullInside ticket).2 := by
  have hbytes := Payload.bytes_eq_taken_append body.payload
  unfold pullInside
  split
  -- The stream has to be waited for: whoever was inside stays inside.
  next payload hpull =>
    rw [hpull] at hbytes
    refine ⟨(same_payload body payload).trans (same_wakeIfStalled _ ticket), ?_, by simp, ?_⟩
    · rw [payload_wakeIfStalled]
      exact hbytes
    · rw [pulling_wakeIfStalled]
      exact fun halone => ⟨halone, by simp⟩
  -- The stream has an answer, and whoever asked goes.
  next result payload hpull =>
    rw [hpull] at hbytes
    refine ⟨(same_payload body payload).trans (same_leavePulling _ ticket), hbytes, ?_, ?_⟩
    · intro h
      cases h
      obtain ⟨hempty, rfl⟩ := Payload.pull_of_isEmpty hpull rfl
      exact ⟨hempty, rfl⟩
    · exact fun halone => alone_leavePulling halone

theorem pullAny_spec (body : Body) (ticket : Ticket) :
    body.Pulls ticket (body.pullAny ticket).1 (body.pullAny ticket).2 := by
  unfold pullAny
  split
  · exact pullInside_spec body ticket
  · split
    · exact ⟨.refl body, by simp, by simp, fun halone => ⟨halone, by simp⟩⟩
    · split
      -- Somebody else is inside, so this is nobody who was alone at the gate.
      next pulling henter =>
        refine ⟨⟨rfl, rfl, rfl, rfl, rfl, rfl⟩, by simp, by simp, fun halone => ?_⟩
        rw [Gate.enter_of_isFor halone] at henter
        cases henter
      next pulling henter =>
        obtain ⟨hsame, hbytes, hfinished, halone⟩ :=
          pullInside_spec { body with pulling }.spend ticket
        refine ⟨⟨hsame.1, hsame.2, hsame.3, hsame.4, hsame.5, hsame.6⟩, hbytes, hfinished, ?_⟩
        intro hbefore
        -- Whoever was alone at the gate comes in at once, and leaves nobody behind.
        rw [Gate.enter_of_isFor hbefore] at henter
        cases henter
        exact halone ⟨rfl, Or.inr rfl⟩

/-- A pull takes the bytes that it gives, loses none, and leaves everything alone but the payload
and the gate in front of it. -/
theorem pull_spec (body : Body) (ticket : Ticket) :
    body.Pulls ticket (body.pull ticket).1 (body.pull ticket).2 := by
  have hany := pullAny_spec body ticket
  unfold pull
  -- Who may not pass a gate waits, and once the client is gone all that is done is to leave the
  -- gate. Everybody else pulls.
  split
  · exact ⟨.refl body, by simp, by simp, fun halone => ⟨halone, by simp⟩⟩
  · split
    · exact ⟨same_leavePulling body ticket, by simp [leavePulling], by simp,
        fun halone => alone_leavePulling halone⟩
    · split
      next rest hpull =>
        rw [hpull] at hany
        exact ⟨hany.same, hany.bytes, by simp, fun h => ⟨(hany.alone h).1, by simp⟩⟩
      next bytes rest hpull =>
        rw [hpull] at hany
        exact ⟨hany.same, hany.bytes, fun h => hany.finished (by cases h; rfl),
          fun h => ⟨(hany.alone h).1, fun _ => (hany.alone h).2 (by simp)⟩⟩
      next text rest hpull =>
        rw [hpull] at hany
        exact ⟨hany.same, hany.bytes, by simp,
          fun h => ⟨(hany.alone h).1, fun _ => (hany.alone h).2 (by simp)⟩⟩

/-- Cancelling is the only reason for a pull to fail that is not the transport's, and nothing is
pulled then. -/
theorem pull_error {body rest : Body} {ticket : Ticket} {error : BodyError}
    (h : body.pull ticket = (.ready (.error error), rest)) :
    error = .cancelled ∧ body.cancelled = true ∨
      (∃ text, error = .failed text) ∧ body.cancelled = false := by
  unfold pull at h
  split at h
  · simp at h
  · split at h
    next hcancelled =>
      simp only [Prod.mk.injEq, Poll.ready.injEq, Except.error.injEq] at h
      exact Or.inl ⟨h.1.symm, hcancelled⟩
    next hcancelled =>
      split at h
      · simp at h
      · simp at h
      · simp only [Prod.mk.injEq, Poll.ready.injEq, Except.error.injEq] at h
        exact Or.inr ⟨⟨_, h.1.symm⟩, by simpa using hcancelled⟩

/-! ### Draining -/

/-- A read knows whether it has pulled bytes. -/
def Read.Knows (read : Read) : Prop :=
  read.consumed = !read.got.isEmpty

/-- The read after it has pulled a chunk. -/
def Read.add (read : Read) (chunk : ByteArray) : Read :=
  { read with
    got := read.got ++ chunk
    consumed := read.consumed || !chunk.isEmpty }

theorem Read.knows_add {read : Read} (h : read.Knows) (chunk : ByteArray) :
    (read.add chunk).Knows := by
  -- Two chunks are empty together if both are.
  unfold Knows at h ⊢
  simp only [add, h]
  rw [Payload.isEmpty_append, Bool.not_and]

theorem Read.add_empty (read : Read) : read.add .empty = read := by
  simp [add]

/-- How a poll of a read that has its turn comes out. The bytes that it took off the payload it
has got. A success keeps them, a failure loses them, and both give up the turn. -/
structure Drains (body : Body) (read : Read) (result : Poll (Except BodyError ByteArray))
    (read' : Read) (rest : Body) : Prop where
  ticket : read'.ticket = read.ticket
  started : read'.started = read.started
  limit : rest.limit = body.limit
  cancelled : rest.cancelled = body.cancelled
  nextTicket : rest.nextTicket = body.nextTicket
  bytes : read'.got ++ rest.payload.bytes = read.got ++ body.payload.bytes
  knows : read.Knows → read'.Knows
  consumed : read.consumed = true → read'.consumed = true
  pending : result = .pending →
    rest.draining = body.draining ∧ rest.cache = body.cache ∧ rest.spoiled = body.spoiled
  success : ∀ bytes, result = .ready (.ok bytes) →
    bytes = read'.got ∧ rest.payload.bytes = .empty ∧ rest.draining = .idle ∧
      rest.cache = some bytes ∧ rest.spoiled = body.spoiled
  failure : ∀ error, result = .ready (.error error) → error ≠ .consumed ∧
    rest.draining = body.draining.leave read.ticket ∧
      (∀ next, body.draining.successor? read.ticket = some next → next ∈ rest.woken) ∧
        rest.cache = body.cache ∧ rest.spoiled = (body.spoiled || read'.consumed)

theorem failRead_spec (body : Body) (read : Read) {error : BodyError} (h : error ≠ .consumed) :
    body.Drains read (body.failRead read error).1 (body.failRead read error).2.1
      (body.failRead read error).2.2 where
  ticket := rfl
  started := rfl
  limit := rfl
  cancelled := rfl
  nextTicket := rfl
  bytes := rfl
  knows := id
  consumed := id
  pending := by simp [failRead]
  success := by simp [failRead]
  failure := by
    intro found hfound
    cases hfound
    refine ⟨h, rfl, fun next hnext => ?_, rfl, rfl⟩
    exact List.mem_append_right _ (by simp [show (body.spoilIf read.consumed).draining.successor?
      read.ticket = some next from hnext])

theorem finishRead_spec (body : Body) (read : Read) (h : body.payload.bytes = .empty) :
    body.Drains read (body.finishRead read).1 (body.finishRead read).2.1
      (body.finishRead read).2.2 where
  ticket := rfl
  started := rfl
  limit := rfl
  cancelled := rfl
  nextTicket := rfl
  bytes := rfl
  knows := id
  consumed := id
  pending := by simp [finishRead]
  success := by
    intro bytes hbytes
    cases hbytes
    exact ⟨rfl, h, rfl, rfl, rfl⟩
  failure := by simp [finishRead]

/-- What a read has pulled it has got, and it is still draining. -/
theorem Pulls.drains {ε : Type} {body rest : Body} {read : Read}
    {result : Poll (Except ε ByteArray)}
    (h : body.Pulls read.ticket result rest) :
    body.Drains read .pending (read.add (Payload.taken result)) rest where
  ticket := rfl
  started := rfl
  limit := h.same.limit
  cancelled := h.same.cancelled
  nextTicket := h.same.nextTicket
  bytes := by rw [h.bytes, Read.add, ByteArray.append_assoc]
  knows := fun hknows => Read.knows_add hknows _
  consumed := fun hconsumed => by simp [Read.add, hconsumed]
  pending := fun _ => ⟨h.same.draining, h.same.cache, h.same.spoiled⟩
  success := by simp
  failure := by simp

/-- A read goes on where it was left. -/
theorem Drains.trans {first second third : Body} {read read' read'' : Read}
    {result : Poll (Except BodyError ByteArray)} (h : first.Drains read .pending read' second)
    (h' : second.Drains read' result read'' third) :
    first.Drains read result read'' third where
  ticket := h'.ticket.trans h.ticket
  started := h'.started.trans h.started
  limit := h'.limit.trans h.limit
  cancelled := h'.cancelled.trans h.cancelled
  nextTicket := h'.nextTicket.trans h.nextTicket
  bytes := h'.bytes.trans h.bytes
  knows := fun hknows => h'.knows (h.knows hknows)
  consumed := fun hconsumed => h'.consumed (h.consumed hconsumed)
  pending := by
    -- As long as the read is pending, it changes nothing that is compared afterwards.
    obtain ⟨hdraining, hcache, hspoiled⟩ := h.pending rfl
    rw [← hdraining, ← hcache, ← hspoiled]
    exact h'.pending
  success := by
    obtain ⟨-, -, hspoiled⟩ := h.pending rfl
    rw [← hspoiled]
    exact h'.success
  failure := by
    obtain ⟨hdraining, hcache, hspoiled⟩ := h.pending rfl
    rw [← hdraining, ← hcache, ← hspoiled, ← h.ticket]
    exact h'.failure

/-- What one poll of a read that has its turn comes to. -/
theorem drain_spec (body : Body) (read : Read) :
    body.Drains read (body.drain read).1 (body.drain read).2.1 (body.drain read).2.2 := by
  -- One case for each way in which a pull ends: only a chunk within the limit makes the read go on.
  fun_induction drain body read with
  | case1 body read rest hpull =>
    have hspec := (pull_spec body read.ticket).drains
    rwa [hpull, Payload.taken_pending, Read.add_empty] at hspec
  | case2 body read error rest hpull =>
    have hspec := (pull_spec body read.ticket).drains
    rw [hpull, Payload.taken_error, Read.add_empty] at hspec
    have herror : error ≠ .consumed := by
      rcases pull_error hpull with ⟨rfl, -⟩ | ⟨⟨text, rfl⟩, -⟩ <;> simp
    exact hspec.trans (failRead_spec rest read herror)
  | case3 body read chunk rest hpull read' hexceeds =>
    have hspec := (pull_spec body read.ticket).drains
    rw [hpull] at hspec
    exact hspec.trans (failRead_spec rest (read.add chunk) (by simp))
  | case4 body read chunk rest hpull read' hexceeds hchunk =>
    have hspec := pull_spec body read.ticket
    rw [hpull] at hspec
    -- The empty chunk is the end, so nothing is missing from what the read has got.
    obtain ⟨hempty, -⟩ := hspec.finished (by rw [(Payload.isEmpty_iff chunk).mp hchunk])
    rw [hspec.bytes, ByteArray.append_eq_empty_iff] at hempty
    exact hspec.drains.trans (finishRead_spec rest (read.add chunk) hempty.2)
  | case5 body read chunk rest hpull read' hexceeds hchunk ih =>
    have hspec := (pull_spec body read.ticket).drains
    rw [hpull] at hspec
    exact hspec.trans ih

theorem drains_of_eq {body rest : Body} {read read' : Read}
    {result : Poll (Except BodyError ByteArray)} (h : body.drain read = (result, read', rest)) :
    body.Drains read result read' rest := by
  have hspec := drain_spec body read
  rwa [h] at hspec

/-- A read that is alone at the gate in front of the payload stays alone there while it drains, and
leaves it when it ends. -/
theorem alone_drain {body : Body} {read : Read} (h : body.pulling.IsFor read.ticket) :
    (body.drain read).2.2.pulling.IsFor read.ticket ∧
      ((body.drain read).1 ≠ .pending → (body.drain read).2.2.pulling = .idle) := by
  -- The recursion of the drain again. A pull that gives a chunk leaves the gate, so the next one
  -- finds it free.
  fun_induction drain body read with
  | case1 body read rest hpull =>
    have hspec := (pull_spec body read.ticket).alone h
    rw [hpull] at hspec
    exact ⟨hspec.1, by simp⟩
  | case2 body read error rest hpull | case3 body read chunk rest hpull read' hexceeds
  | case4 body read chunk rest hpull read' hexceeds hchunk =>
    have hspec := (pull_spec body read.ticket).alone h
    rw [hpull] at hspec
    exact ⟨hspec.1, fun _ => hspec.2 (by simp)⟩
  | case5 body read chunk rest hpull read' hexceeds hchunk ih =>
    have hspec := (pull_spec body read.ticket).alone h
    rw [hpull] at hspec
    exact ih hspec.1

/-! ### Turns -/

/-- The body once a read has its turn. -/
def takeTurn (body : Body) (ticket : Ticket) : Body :=
  { body with draining := ⟨some ticket, body.draining.queue⟩ }.spend

/-- Everything that a poll of a read can come to. -/
inductive Reads (body : Body) (read : Read) :
    Poll (Except BodyError ByteArray) → Read → Body → Prop where
  /-- The bytes are there already. -/
  | cached {bytes : ByteArray} (cache : body.cache = some bytes) :
    Reads body read (.ready (.ok bytes)) read body
  /-- No gate may be passed any more. -/
  | spent (cache : body.cache = none) (started : read.started = false)
    (spent : body.isSpent = true) : Reads body read .pending read body
  /-- Another read has its turn. -/
  | waits {other : Ticket} (cache : body.cache = none) (started : read.started = false)
    (holder : body.draining.holder = some other) (other : other ≠ read.ticket) :
    Reads body read .pending read
      { body with draining := (body.draining.enter read.ticket).2 }
  /-- The read has its turn, but bytes are missing. -/
  | refused (cache : body.cache = none) (started : read.started = false)
    (turn : body.draining.holder = none ∨ body.draining.holder = some read.ticket)
    (spoiled : body.spoiled = true) :
    Reads body read (.ready (.error .consumed)) read
      (((body.takeTurn read.ticket).spoilIf read.consumed).leaveDraining read.ticket)
  /-- The read has its turn, and drains. -/
  | begins {result : Poll (Except BodyError ByteArray)} {read' : Read} {rest : Body}
    (cache : body.cache = none) (started : read.started = false)
    (turn : body.draining.holder = none ∨ body.draining.holder = some read.ticket)
    (spoiled : body.spoiled = false)
    (drain : (body.takeTurn read.ticket).drain { read with started := true } =
      (result, read', rest)) : Reads body read result read' rest
  /-- The read goes on draining. -/
  | goesOn {result : Poll (Except BodyError ByteArray)} {read' : Read} {rest : Body}
    (cache : body.cache = none) (started : read.started = true)
    (drain : body.drain read = (result, read', rest)) : Reads body read result read' rest

section Polls

variable {body : Body} {read : Read}

theorem pollRead_of_cache {bytes : ByteArray} (hcache : body.cache = some bytes) :
    body.pollRead read = (.ready (.ok bytes), read, body) := by
  simp only [pollRead, hcache]

theorem pollRead_of_started (hcache : body.cache = none) (hstarted : read.started = true) :
    body.pollRead read = body.drain read := by
  simp only [pollRead, hcache, hstarted, ↓reduceIte]

theorem pollRead_of_spent (hcache : body.cache = none) (hstarted : read.started = false)
    (hspent : body.isSpent = true) : body.pollRead read = (.pending, read, body) := by
  simp only [pollRead, hcache, hstarted, hspent, Bool.false_eq_true, ↓reduceIte]

theorem pollRead_of_waiting (hcache : body.cache = none) (hstarted : read.started = false)
    (hspent : body.isSpent = false) {other : Ticket} (hholder : body.draining.holder = some other)
    (hother : other ≠ read.ticket) :
    body.pollRead read =
      (.pending, read, { body with draining := (body.draining.enter read.ticket).2 }) := by
  have henter := Gate.enter_of_holder hholder hother
  unfold pollRead
  -- The gate decides what happens, and it is known how.
  split
  next hsome => simp [hcache] at hsome
  next =>
    rw [if_neg (by simp [hstarted]), if_neg (by simp [hspent])]
    split
    next hentered => rw [hentered]
    next hentered => simp [hentered] at henter

theorem pollRead_of_turn (hcache : body.cache = none) (hstarted : read.started = false)
    (hspent : body.isSpent = false)
    (hturn : body.draining.holder = none ∨ body.draining.holder = some read.ticket) :
    body.pollRead read =
      if body.spoiled then (body.takeTurn read.ticket).failRead read .consumed
      else (body.takeTurn read.ticket).drain { read with started := true } := by
  unfold pollRead
  split
  next hsome => simp [hcache] at hsome
  next =>
    rw [if_neg (by simp [hstarted]), if_neg (by simp [hspent]), Gate.enter_of_free hturn]
    rfl

end Polls

/-- What one poll of a read comes to. -/
theorem pollRead_spec (body : Body) (read : Read) :
    body.Reads read (body.pollRead read).1 (body.pollRead read).2.1 (body.pollRead read).2.2 := by
  -- The questions are asked in the order of the poll: cache, turn, passes, gate, spoiled.
  cases hcache : body.cache with
  | some bytes =>
    rw [pollRead_of_cache hcache]
    exact .cached hcache
  | none =>
    cases hstarted : read.started with
    | true =>
      rw [pollRead_of_started hcache hstarted]
      exact .goesOn hcache hstarted rfl
    | false =>
      cases hspent : body.isSpent with
      | true =>
        rw [pollRead_of_spent hcache hstarted hspent]
        exact .spent hcache hstarted hspent
      | false =>
        rcases body.draining.free_or_holder read.ticket with hturn | ⟨other, hholder, hother⟩
        · rw [pollRead_of_turn hcache hstarted hspent hturn]
          cases hspoiled : body.spoiled with
          | true => exact .refused hcache hstarted hturn hspoiled
          | false => exact .begins hcache hstarted hturn hspoiled rfl
        · rw [pollRead_of_waiting hcache hstarted hspent hholder hother]
          exact .waits hcache hstarted hholder hother

/-- Whatever a poll of a read comes to, the read keeps its name, and it has pulled nothing if it
has not had its turn. -/
theorem Reads.frame {body rest : Body} {read read' : Read}
    {result : Poll (Except BodyError ByteArray)} (h : body.Reads read result read' rest) :
    read'.ticket = read.ticket ∧ rest.nextTicket = body.nextTicket ∧
      (read.Knows → read'.Knows) ∧ (read'.started = false → read' = read) := by
  -- Only a read that drains changes, and a read that drains has had its turn.
  cases h with
  | cached | spent | waits | refused => exact ⟨rfl, rfl, id, fun _ => rfl⟩
  | begins cache started turn spoiled drain =>
    have hspec := drains_of_eq drain
    refine ⟨hspec.ticket, hspec.nextTicket, hspec.knows, fun h => ?_⟩
    rw [hspec.started] at h
    cases h
  | goesOn cache started drain =>
    have hspec := drains_of_eq drain
    refine ⟨hspec.ticket, hspec.nextTicket, hspec.knows, fun h => ?_⟩
    rw [hspec.started, started] at h
    cases h

/-- Bytes that a read succeeds with are in the cache from then on. -/
theorem Reads.cache_of_ok {body rest : Body} {read read' : Read} {bytes : ByteArray}
    (h : body.Reads read (.ready (.ok bytes)) read' rest) : rest.cache = some bytes := by
  cases h with
  | cached cache => exact cache
  | begins cache started turn spoiled drain =>
    exact ((drains_of_eq drain).success bytes rfl).2.2.2.1
  | goesOn cache started drain =>
    exact ((drains_of_eq drain).success bytes rfl).2.2.2.1

/-! ### Discarding -/

/-- A release that has pulled bytes is in the middle of a pull. -/
def Release.Waits (release : Release) : Prop :=
  release.consumed = true → release.waiting = true

/-- How a poll of a release comes out. What it takes off the payload is lost, which the release
knows as long as it goes on, and the body when it ends. -/
structure Discards (body : Body) (release : Release) (result : Poll (Except BodyError Unit))
    (release' : Release) (rest : Body) : Prop where
  ticket : release'.ticket = release.ticket
  limit : rest.limit = body.limit
  cancelled : rest.cancelled = body.cancelled
  nextTicket : rest.nextTicket = body.nextTicket
  draining : rest.draining = body.draining
  cache : rest.cache = body.cache
  bytes : ∃ lost, body.payload.bytes = lost ++ rest.payload.bytes ∧
    release'.consumed = (release.consumed || !lost.isEmpty)
  pending : result = .pending → release'.waiting = true ∧ rest.spoiled = body.spoiled
  ended : result ≠ .pending → rest.spoiled = (body.spoiled || release'.consumed)
  success : result = .ready (.ok ()) → rest.payload.atEof = true

/-- A release that ends tells the body whether it has pulled bytes. -/
theorem discards_of_pull {ε : Type} {body rest : Body} {release : Release}
    {pulled : Poll (Except ε ByteArray)} {result : Poll (Except BodyError Unit)}
    (h : body.Pulls release.ticket pulled rest) (hended : result ≠ .pending)
    (hsuccess : result = .ready (.ok ()) → rest.payload.atEof = true) :
    let release' : Release :=
      { release with consumed := release.consumed || !(Payload.taken pulled).isEmpty }
    body.Discards release result release' (rest.spoilIf release'.consumed) where
  ticket := rfl
  limit := h.same.limit
  cancelled := h.same.cancelled
  nextTicket := h.same.nextTicket
  draining := h.same.draining
  cache := h.same.cache
  bytes := ⟨_, h.bytes, rfl⟩
  pending := fun hpending => absurd hpending hended
  ended := fun _ => by rw [spoilIf, h.same.spoiled]
  success := hsuccess

/-- What one poll of a release comes to that has something to pull. -/
theorem discard_spec (body : Body) (release : Release) :
    body.Discards release (body.discard release).1 (body.discard release).2.1
      (body.discard release).2.2 := by
  -- One case for each way in which a pull ends: the release goes on after a chunk before the end.
  fun_induction discard body release with
  | case1 body release rest hpull =>
    have hspec := pull_spec body release.ticket
    rw [hpull] at hspec
    exact {
      ticket := rfl
      limit := hspec.same.limit
      cancelled := hspec.same.cancelled
      nextTicket := hspec.same.nextTicket
      draining := hspec.same.draining
      cache := hspec.same.cache
      bytes := ⟨.empty, hspec.bytes, by simp⟩
      pending := fun _ => ⟨rfl, hspec.same.spoiled⟩
      ended := fun h => absurd rfl h
      success := by simp }
  | case2 body release error rest hpull =>
    have hspec := pull_spec body release.ticket
    rw [hpull] at hspec
    have hended : (.ready (.error error) : Poll (Except BodyError Unit)) ≠ .pending := by simp
    simpa using discards_of_pull hspec hended (by simp)
  | case3 body release chunk rest hpull release' hchunk =>
    have hspec := pull_spec body release.ticket
    rw [hpull] at hspec
    -- An empty chunk is given at the end only.
    refine discards_of_pull hspec (by simp) fun _ => ?_
    exact (hspec.finished (by rw [(Payload.isEmpty_iff chunk).mp hchunk])).2
  | case4 body release chunk rest hpull release' hchunk heof =>
    have hspec := pull_spec body release.ticket
    rw [hpull] at hspec
    exact discards_of_pull hspec (by simp) fun _ => heof
  | case5 body release chunk rest hpull release' hchunk heof ih =>
    have hspec := pull_spec body release.ticket
    rw [hpull] at hspec
    -- What is lost is this chunk and whatever is lost after it.
    obtain ⟨lost, hlost, hconsumed⟩ := ih.bytes
    exact {
      ticket := ih.ticket
      limit := ih.limit.trans hspec.same.limit
      cancelled := ih.cancelled.trans hspec.same.cancelled
      nextTicket := ih.nextTicket.trans hspec.same.nextTicket
      draining := ih.draining.trans hspec.same.draining
      cache := ih.cache.trans hspec.same.cache
      bytes := by
        refine ⟨chunk ++ lost, ?_, ?_⟩
        · rw [hspec.bytes, hlost, Payload.taken_ok, ByteArray.append_assoc]
        · rw [hconsumed, Bool.or_assoc, Payload.isEmpty_append, Bool.not_and]
      pending := by
        rw [← hspec.same.spoiled]
        exact ih.pending
      ended := by
        rw [← hspec.same.spoiled]
        exact ih.ended
      success := ih.success }

/-- What one poll of a release comes to. -/
theorem pollRelease_spec (body : Body) {release : Release} (h : release.Waits) :
    body.Discards release (body.pollRelease release).1 (body.pollRelease release).2.1
      (body.pollRelease release).2.2 := by
  unfold pollRelease
  split
  next hend =>
    simp only [Bool.and_eq_true, Bool.not_eq_true'] at hend
    -- A release that is not waiting has pulled nothing yet, so there is nothing to tell.
    have hconsumed : release.consumed = false := by
      cases hconsumed : release.consumed with
      | false => rfl
      | true => exact absurd (h hconsumed) (by simp [hend.2])
    exact {
      ticket := rfl
      limit := rfl
      cancelled := rfl
      nextTicket := rfl
      draining := rfl
      cache := rfl
      bytes := ⟨.empty, by simp, by simp⟩
      pending := by simp
      ended := fun _ => by simp [hconsumed]
      success := fun _ => hend.1 }
  next => exact discard_spec body release

end Body

end Inbound
