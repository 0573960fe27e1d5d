import Mathlib
import Inbound.Proofs.Body.Traffic
import Inbound.Proofs.Body.Walk

/-!
# Operations one at a time

Reads and releases that come one after the other, each of them finished or dropped before the next
one begins, do what walks over the payload do. Between them it is enough to know which items are
left, whether bytes are missing, and the bytes that a read has kept.

## Main results

* `Body.drain_walk` and `Body.discard_walk`: one poll is one walk;
* `Request.drive_reading` and `Request.drive_releasing`: so are many;
* `Request.performs_as_walked`: every sequence of operations goes on as it would over the items.
-/

namespace Inbound

/-! ### Single polls -/

/-- What a read makes of a walk. -/
def Walk.outcome (limit : Nat) (walk : Walk) : Poll (Except BodyError ByteArray) :=
  match walk.stop with
  | .finished => .ready (.ok walk.got)
  | .failed text => .ready (.error (.failed text))
  | .tooLarge => .ready (.error (.tooLarge limit walk.got.size))
  | .pending => .pending

namespace Body

/-- Nobody disturbs an operation: it is alone at the gate in front of the payload, the client is
there, and gates may be passed without limit. -/
structure Undisturbed (body : Body) (ticket : Ticket) : Prop where
  alone : body.pulling.IsFor ticket
  client : body.cancelled = false
  passes : body.passes = none

section Pull

variable {body rest : Body} {ticket : Ticket}

theorem pullInside_undisturbed (body : Body) (ticket : Ticket) :
    (body.pullInside ticket).1 = body.payload.pull.1 ∧
      (body.pullInside ticket).2.payload = body.payload.pull.2 ∧
      (body.pullInside ticket).2.passes = body.passes := by
  unfold pullInside
  split
  next payload hpull =>
    rw [hpull, payload_wakeIfStalled]
    refine ⟨rfl, rfl, ?_⟩
    unfold wakeIfStalled
    split <;> rfl
  next result payload hpull =>
    rw [hpull]
    exact ⟨rfl, rfl, rfl⟩

theorem pullAny_undisturbed (h : body.Undisturbed ticket) :
    (body.pullAny ticket).1 = body.payload.pull.1 ∧
      (body.pullAny ticket).2.payload = body.payload.pull.2 ∧
      (body.pullAny ticket).2.passes = none := by
  unfold pullAny
  split
  · rw [← h.passes]
    exact pullInside_undisturbed body ticket
  -- Nobody is inside but the operation itself, so the gate lets it in.
  · rw [if_neg (by simp [isSpent, h.passes]), Gate.enter_of_isFor h.alone]
    have hpull := pullInside_undisturbed { body with pulling := ⟨some ticket, []⟩ }.spend ticket
    have hpasses : { body with pulling := ⟨some ticket, []⟩ }.spend.passes = none := by
      simp [spend, h.passes]
    rw [hpasses] at hpull
    exact hpull

/-- A pull that nobody disturbs is one of the payload. -/
theorem pull_undisturbed (h : body.Undisturbed ticket) :
    (body.pull ticket).1 = body.payload.pull.1.map (Except.mapError .failed) ∧
      (body.pull ticket).2.payload = body.payload.pull.2 ∧
      (body.pull ticket).2.Undisturbed ticket := by
  have hspec := pull_spec body ticket
  obtain ⟨hresult, hpayload, hpasses⟩ := pullAny_undisturbed h
  -- The client is there and passes are left, so only the pull behind the gate is left of this one.
  have heq : body.pull ticket =
      ((body.pullAny ticket).1.map (Except.mapError .failed), (body.pullAny ticket).2) := by
    unfold pull
    rw [if_neg (by simp [isSpent, h.passes]), if_neg (by simp [h.client])]
    rcases body.pullAny ticket with ⟨(text | bytes) | -, rest⟩ <;> rfl
  refine ⟨?_, ?_, (hspec.alone h.alone).1, hspec.same.cancelled.trans h.client, ?_⟩
  · rw [heq, hresult]
  · rw [heq, hpayload]
  · rw [heq, hpasses]

theorem exists_pulled {result : Poll (Except BodyError ByteArray)} (h : body.Undisturbed ticket)
    (hpull : body.pull ticket = (result, rest)) :
    ∃ pulled, body.payload.pull = (pulled, rest.payload) ∧
      result = pulled.map (Except.mapError .failed) := by
  obtain ⟨hresult, hpayload, -⟩ := pull_undisturbed h
  rw [hpull] at hresult hpayload
  exact ⟨body.payload.pull.1, Prod.ext rfl hpayload.symm, hresult⟩

variable (limit : Nat) (got : ByteArray)

theorem walk_of_pending (h : body.Undisturbed ticket)
    (hpull : body.pull ticket = (.pending, rest)) :
    Walk.walk limit 1 got body.payload.items = ⟨.pending, got, rest.payload.items⟩ := by
  obtain ⟨pulled, hpulled, hresult⟩ := exists_pulled h hpull
  rw [Payload.pull_walk, hpulled]
  rcases pulled with (text | bytes) | -
  · cases hresult
  · cases hresult
  · rfl

theorem walk_of_error {error : BodyError} (h : body.Undisturbed ticket)
    (hpull : body.pull ticket = (.ready (.error error), rest)) :
    ∃ text, error = .failed text ∧
      Walk.walk limit 1 got body.payload.items = ⟨.failed text, got, rest.payload.items⟩ := by
  obtain ⟨pulled, hpulled, hresult⟩ := exists_pulled h hpull
  rw [Payload.pull_walk, hpulled]
  rcases pulled with (text | bytes) | -
  · cases hresult
    exact ⟨text, rfl, rfl⟩
  · cases hresult
  · cases hresult

theorem walk_of_chunk {chunk : ByteArray} (h : body.Undisturbed ticket)
    (hpull : body.pull ticket = (.ready (.ok chunk), rest)) :
    Walk.walk limit 1 got body.payload.items =
      if chunk.isEmpty then ⟨.finished, got, []⟩
      else if Walk.exceeds limit (got ++ chunk).size then
        ⟨.tooLarge, got ++ chunk, rest.payload.items⟩
      else Walk.walk limit 1 (got ++ chunk) rest.payload.items := by
  obtain ⟨pulled, hpulled, hresult⟩ := exists_pulled h hpull
  rw [Payload.pull_walk, hpulled]
  rcases pulled with (text | bytes) | -
  · cases hresult
  · cases hresult
    rfl
  · cases hresult

end Pull

/-- What a poll leaves of the payload is what a walk over it leaves. -/
structure Walks (body : Body) (walk : Walk) (rest : Body) : Prop where
  left : rest.payload.items = walk.left
  sound : body.payload.IsSound → rest.payload.IsSound
  passes : rest.passes = none

/-- An operation goes on undisturbed after a pull. -/
theorem after_pull {body rest : Body} {ticket : Ticket}
    {result : Poll (Except BodyError ByteArray)} (h : body.Undisturbed ticket)
    (hpull : body.pull ticket = (result, rest)) :
    rest.Undisturbed ticket ∧ (body.payload.IsSound → rest.payload.IsSound) ∧
      rest.limit = body.limit ∧ (result ≠ .pending → rest.pulling = .idle) := by
  obtain ⟨-, hpayload, hundisturbed⟩ := pull_undisturbed h
  have hspec := pull_spec body ticket
  rw [hpull] at hpayload hundisturbed hspec
  refine ⟨hundisturbed, fun hsound => ?_, hspec.same.limit, (hspec.alone h.alone).2⟩
  dsimp only at hpayload
  rw [hpayload]
  exact Payload.isSound_pull hsound

theorem items_of_finished {body rest : Body} {ticket : Ticket} {chunk : ByteArray}
    (h : body.Undisturbed ticket) (hpull : body.pull ticket = (.ready (.ok chunk), rest))
    (hchunk : chunk.isEmpty = true) : rest.payload.items = [] := by
  obtain ⟨pulled, hpulled, hresult⟩ := exists_pulled h hpull
  rcases pulled with (text | bytes) | -
  · cases hresult
  · cases hresult
    obtain ⟨-, hrest⟩ := Payload.pull_of_isEmpty hpulled hchunk
    rw [hrest]
    rfl
  · cases hresult

/-- One poll of a read that drains undisturbed is a walk over what is left of the payload. -/
theorem drain_walk {body : Body} {read : Read} (h : body.Undisturbed read.ticket)
    (hgot : Walk.exceeds body.limit read.got.size = false) :
    let walk := Walk.walk body.limit 1 read.got body.payload.items
    (body.drain read).1 = walk.outcome body.limit ∧ (body.drain read).2.1.got = walk.got ∧
      body.Walks walk (body.drain read).2.2 := by
  -- The drain goes on after a chunk within the limit, and so does the walk: one case for each pull.
  fun_induction drain body read with
  | case1 body read rest hpull =>
    obtain ⟨hafter, hsound, -⟩ := after_pull h hpull
    rw [walk_of_pending body.limit read.got h hpull]
    exact ⟨rfl, rfl, rfl, hsound, hafter.passes⟩
  | case2 body read error rest hpull =>
    obtain ⟨hafter, hsound, -⟩ := after_pull h hpull
    obtain ⟨text, rfl, hwalk⟩ := walk_of_error body.limit read.got h hpull
    rw [hwalk]
    exact ⟨rfl, rfl, rfl, hsound, hafter.passes⟩
  | case3 body read chunk rest hpull read' hexceeds =>
    obtain ⟨hafter, hsound, hlimit, -⟩ := after_pull h hpull
    have hlarge : Walk.exceeds body.limit (read.got ++ chunk).size = true := by
      rw [← hlimit]
      exact hexceeds
    -- An empty chunk cannot be too much, since what was there before it was not.
    have hchunk : ¬ chunk.isEmpty = true := by
      intro hempty
      rw [(Payload.isEmpty_iff chunk).mp hempty, ByteArray.append_empty, hgot] at hlarge
      cases hlarge
    rw [walk_of_chunk body.limit read.got h hpull, if_neg hchunk, if_pos hlarge, ← hlimit]
    exact ⟨rfl, rfl, rfl, hsound, hafter.passes⟩
  | case4 body read chunk rest hpull read' hexceeds hchunk =>
    obtain ⟨hafter, hsound, -⟩ := after_pull h hpull
    have hitems := items_of_finished h hpull hchunk
    -- The empty chunk adds nothing, so the walk is at its end with the same bytes.
    have hadd : read.got ++ chunk = read.got := by
      rw [(Payload.isEmpty_iff chunk).mp hchunk, ByteArray.append_empty]
    rw [walk_of_chunk body.limit read.got h hpull, if_pos hchunk]
    refine ⟨?_, hadd, hitems, hsound, hafter.passes⟩
    change Poll.ready (Except.ok (read.got ++ chunk)) = _
    rw [hadd]
    rfl
  | case5 body read chunk rest hpull read' hexceeds hchunk ih =>
    obtain ⟨hafter, hsound, hlimit, -⟩ := after_pull h hpull
    rw [Bool.not_eq_true] at hexceeds
    have hfits : Walk.exceeds body.limit (read.got ++ chunk).size = false := by
      rw [← hlimit]
      exact hexceeds
    obtain ⟨hresult, hgot', hleft⟩ := ih hafter hexceeds
    rw [hlimit] at hresult hgot' hleft
    rw [walk_of_chunk body.limit read.got h hpull, if_neg hchunk, hfits]
    exact ⟨hresult, hgot', hleft.left, fun h => hleft.sound (hsound h), hleft.passes⟩

theorem consumed_add {consumed : Bool} {got : ByteArray} (h : consumed = !got.isEmpty)
    (chunk : ByteArray) : (consumed || !chunk.isEmpty) = !(got ++ chunk).isEmpty := by
  rw [h, Payload.isEmpty_append, Bool.not_and]

/-- One poll of a release that has something to pull, and that nobody disturbs, is a walk without
a limit. It knows whether it has gathered bytes. -/
theorem discard_walk {body : Body} {release : Release} {got : ByteArray}
    (h : body.Undisturbed release.ticket) (hsound : body.payload.IsSound)
    (hgot : release.consumed = !got.isEmpty) :
    let walk := Walk.walk 0 1 got body.payload.items
    (body.discard release).1 = (walk.outcome 0).map (Except.map fun _ => ()) ∧
      (body.discard release).2.1.consumed = !walk.got.isEmpty ∧
      body.Walks walk (body.discard release).2.2 ∧
      ((body.discard release).2.2.pulling.IsFor release.ticket ∧
        ((body.discard release).1 ≠ .pending → (body.discard release).2.2.pulling = .idle)) := by
  -- The bytes are no part of the release, so each of its pulls adds to others.
  revert got
  fun_induction discard body release with
  | case1 body release rest hpull =>
    intro got hgot
    obtain ⟨hafter, hsound', -⟩ := after_pull h hpull
    rw [walk_of_pending 0 got h hpull]
    exact ⟨rfl, hgot, ⟨rfl, hsound', hafter.passes⟩, hafter.alone, fun hend => absurd rfl hend⟩
  | case2 body release error rest hpull =>
    intro got hgot
    obtain ⟨hafter, hsound', -, hidle⟩ := after_pull h hpull
    obtain ⟨text, rfl, hwalk⟩ := walk_of_error 0 got h hpull
    rw [hwalk]
    exact ⟨rfl, hgot, ⟨rfl, hsound', hafter.passes⟩, hafter.alone, fun _ => hidle (by simp)⟩
  | case3 body release chunk rest hpull release' hchunk =>
    intro got hgot
    obtain ⟨hafter, hsound', -, hidle⟩ := after_pull h hpull
    have hitems := items_of_finished h hpull hchunk
    rw [walk_of_chunk 0 got h hpull, if_pos hchunk]
    refine ⟨rfl, ?_, ⟨hitems, hsound', hafter.passes⟩, hafter.alone, fun _ => hidle (by simp)⟩
    change (release.consumed || !chunk.isEmpty) = !got.isEmpty
    rw [hgot, hchunk, Bool.not_true, Bool.or_false]
  | case4 body release chunk rest hpull release' hchunk heof =>
    intro got hgot
    obtain ⟨hafter, hsound', -, hidle⟩ := after_pull h hpull
    -- The release stops behind the last chunk, where the walk finds nothing any more.
    have hitems := hsound' hsound heof
    rw [walk_of_chunk 0 got h hpull, if_neg hchunk, hitems]
    exact ⟨rfl, consumed_add hgot chunk, ⟨hitems, hsound', hafter.passes⟩, hafter.alone,
      fun _ => hidle (by simp)⟩
  | case5 body release chunk rest hpull release' hchunk heof ih =>
    intro got hgot
    obtain ⟨hafter, hsound', -⟩ := after_pull h hpull
    obtain ⟨hresult, hconsumed, hleft, halone⟩ :=
      ih hafter (hsound' hsound) (consumed_add hgot chunk)
    rw [walk_of_chunk 0 got h hpull, if_neg hchunk]
    exact ⟨hresult, hconsumed, ⟨hleft.left, fun h => hleft.sound (hsound' h), hleft.passes⟩, halone⟩

/-- One poll of a release that nobody disturbs is a walk without a limit. -/
theorem pollRelease_walk {body : Body} {release : Release} {got : ByteArray}
    (h : body.Undisturbed release.ticket) (hsound : body.payload.IsSound)
    (hgot : release.consumed = !got.isEmpty)
    (hidle : release.waiting = false → body.pulling = .idle) :
    let walk := Walk.walk 0 1 got body.payload.items
    (body.pollRelease release).1 = (walk.outcome 0).map (Except.map fun _ => ()) ∧
      (body.pollRelease release).2.1.consumed = !walk.got.isEmpty ∧
      body.Walks walk (body.pollRelease release).2.2 ∧
      ((body.pollRelease release).2.2.pulling.IsFor release.ticket ∧
        ((body.pollRelease release).1 ≠ .pending →
          (body.pollRelease release).2.2.pulling = .idle)) := by
  unfold pollRelease
  split
  -- At the end, and not waiting: there is nothing to pull.
  next hend =>
    simp only [Bool.and_eq_true, Bool.not_eq_true'] at hend
    have hitems := hsound hend.1
    rw [hitems]
    exact ⟨rfl, hgot, ⟨hitems, id, h.passes⟩, h.alone, fun _ => hidle hend.2⟩
  next => exact discard_walk h hsound hgot

end Body

/-! ### Histories -/

/-- What has become of a body after some operations. -/
structure History where
  /-- The items that have not been pulled. -/
  left : List Payload.Item
  /-- Bytes were pulled and not kept. -/
  lost : Bool
  /-- The bytes that a read has kept. -/
  kept : Option ByteArray

/-- What a walk leaves behind if its bytes are kept at the end, and lost else. -/
def Walk.history (walk : Walk) : History :=
  match walk.stop with
  | .finished => ⟨walk.left, false, some walk.got⟩
  | _ => ⟨walk.left, !walk.got.isEmpty, none⟩

section Outcome

variable {limit : Nat} {walk : Walk}

theorem Walk.outcome_eq_pending_iff : walk.outcome limit = .pending ↔ walk.stop = .pending := by
  unfold outcome
  cases walk.stop <;> simp

theorem Walk.stop_of_ok {bytes : ByteArray} (h : walk.outcome limit = .ready (.ok bytes)) :
    walk.stop = .finished := by
  unfold outcome at h
  cases hstop : walk.stop with
  | finished => rfl
  | failed text | tooLarge | pending =>
    rw [hstop] at h
    cases h

theorem Walk.history_of_error {error : BodyError}
    (h : walk.outcome limit = .ready (.error error)) :
    walk.history = ⟨walk.left, !walk.got.isEmpty, none⟩ := by
  unfold outcome at h
  unfold history
  cases hstop : walk.stop with
  | finished =>
    rw [hstop] at h
    cases h
  | failed text | tooLarge | pending => rfl

end Outcome

/-- An operation, with the number of times that it is polled before it is dropped. -/
inductive Operation where
  | read (polls : Nat)
  | release (polls : Nat)

/-- What an operation answers. -/
abbrev Answer := Poll (Except CallError BodyAnswer)

/-- What a read answers, given the bytes or the reason why it has none. -/
def readAnswer : Except BodyError ByteArray → Except CallError BodyAnswer
  | .ok bytes => .ok (.bytes bytes)
  | .error error => .error (.body error)

/-- What a release answers that has walked so far. -/
def Walk.released (walk : Walk) : Answer :=
  (walk.outcome 0).map fun result => Request.finishRelease (result.map fun _ => ())

theorem Walk.released_eq (walk : Walk) :
    walk.released = ((walk.outcome 0).map (Except.map fun _ => ())).map Request.finishRelease := by
  rw [released]
  cases walk.outcome 0 <;> rfl

/-- A history after a walk the bytes of which are lost. -/
def History.after (history : History) (walk : Walk) : History :=
  { history with left := walk.left, lost := history.lost || !walk.got.isEmpty }

namespace History

/-- A read gives the bytes that were kept. If there are none, it fails if bytes were lost, and else
walks over the items that are left. -/
def read (history : History) (limit polls : Nat) : Answer × History :=
  if polls = 0 then (.pending, history)
  else
    match history.kept with
    | some bytes => (.ready (readAnswer (.ok bytes)), history)
    | none =>
      if history.lost then (.ready (readAnswer (.error .consumed)), history)
      else
        let walk := Walk.walk limit polls .empty history.left
        ((walk.outcome limit).map readAnswer, walk.history)

/-- A release walks over the items that are left, and the bytes are lost. -/
def release (history : History) (polls : Nat) : Answer × History :=
  let walk := Walk.walkFor 0 polls .empty history.left
  (walk.released, history.after walk)

/-- What an operation comes to. -/
def perform (history : History) (limit : Nat) : Operation → Answer × History
  | .read polls => history.read limit polls
  | .release polls => history.release polls

end History

/-- A body is as a history says, and nothing is going on. -/
structure Body.Rests (body : Body) (limit : Nat) (history : History) : Prop where
  limit : body.limit = limit
  pulling : body.pulling = .idle
  draining : body.draining = .idle
  client : body.cancelled = false
  passes : body.passes = none
  sound : body.payload.IsSound
  left : body.payload.items = history.left
  lost : body.spoiled = history.lost
  kept : body.cache = history.kept

namespace Request

/-- Does an operation from beginning to end. -/
def perform (request : Request) : Operation → Answer × Request
  | .read polls =>
    let (call, request) := request.beginCall .read
    request.driveCall call polls
  | .release polls =>
    let (call, request) := request.beginCall .release
    request.driveCall call polls

theorem finishCall_read (charset : String) : finishCall .read charset = readAnswer := by
  funext result
  cases result <;> rfl

section Drive

variable {request : Request} {call : Call} {polls : Nat}

theorem driveCall_of_ready {answer : Except CallError BodyAnswer}
    (h : (request.pollCall call).1 = .ready answer) :
    request.driveCall call (polls + 1) = (.ready answer, (request.pollCall call).2.2) := by
  rw [driveCall]
  generalize request.pollCall call = polled at h ⊢
  obtain ⟨result, call', request'⟩ := polled
  cases h
  rfl

theorem driveCall_of_pending (h : (request.pollCall call).1 = .pending) :
    request.driveCall call (polls + 1) =
      (request.pollCall call).2.2.driveCall (request.pollCall call).2.1 polls := by
  rw [driveCall]
  generalize request.pollCall call = polled at h ⊢
  obtain ⟨result, call', request'⟩ := polled
  cases h
  rfl

end Drive

/-! ### Reads -/

/-- A read that has its turn and nothing to fear. -/
structure Drives (request : Request) (read : Body.Read) : Prop where
  undisturbed : request.body.Undisturbed read.ticket
  sound : request.body.payload.IsSound
  draining : request.body.draining = ⟨some read.ticket, []⟩
  cache : request.body.cache = none
  spoiled : request.body.spoiled = false
  started : read.started = true
  knows : read.Knows
  fits : Walk.exceeds request.body.limit read.got.size = false

theorem leave_only (ticket : Ticket) : (Gate.mk (some ticket) []).leave ticket = .idle := by
  simp [Gate.leave, Gate.idle]

/-- A read that is dropped leaves what it has not pulled, and loses what it has. -/
theorem rests_of_abandoned {request : Request} {read : Body.Read} (h : Drives request read) :
    (request.body.abandonRead read).Rests request.body.limit
      ⟨request.body.payload.items, !read.got.isEmpty, none⟩ where
  limit := rfl
  pulling := Gate.leave_of_isFor h.undisturbed.alone
  draining := by
    change request.body.draining.leave read.ticket = .idle
    rw [h.draining, leave_only]
  client := h.undisturbed.client
  passes := h.undisturbed.passes
  sound := h.sound
  left := rfl
  lost := by
    change (request.body.spoiled || read.consumed) = _
    rw [h.spoiled, h.knows, Bool.false_or]
  kept := h.cache

/-- A read that has to wait can go on. -/
theorem drives_of_pending {request : Request} {read read' : Body.Read} {body' : Body}
    (h : Drives request read) (hdrain : request.body.drain read = (.pending, read', body'))
    (hfits : Walk.exceeds request.body.limit read'.got.size = false) (hpasses : body'.passes = none)
    (hsound : body'.payload.IsSound) {request' : Request} (hbody : request'.body = body') :
    Drives request' read' := by
  have hspec := Body.drain_spec request.body read
  have halone := Body.alone_drain h.undisturbed.alone
  rw [hdrain] at hspec halone
  -- A pending poll touches nothing but the payload and the gate in front of it.
  obtain ⟨hdraining, hcache, hspoiled⟩ := hspec.pending rfl
  subst hbody
  refine ⟨⟨?_, hspec.cancelled.trans h.undisturbed.client, hpasses⟩, hsound, ?_,
    hcache.trans h.cache, hspoiled.trans h.spoiled, hspec.started.trans h.started,
    hspec.knows h.knows, ?_⟩
  · rw [hspec.ticket]
    exact halone.1
  · rw [hdraining, h.draining, hspec.ticket]
  · rwa [hspec.limit]

/-- A read that has ended leaves what it has not pulled. It keeps what it has pulled if it has
succeeded, and loses it else. -/
theorem rests_of_ready {request : Request} {read read' : Body.Read} {body' : Body} {walk : Walk}
    {result : Except BodyError ByteArray} (h : Drives request read)
    (hdrain : request.body.drain read = (.ready result, read', body'))
    (hwalk : .ready result = walk.outcome request.body.limit) (hgot : read'.got = walk.got)
    (hleft : request.body.Walks walk body') : body'.Rests request.body.limit walk.history := by
  have hspec := Body.drain_spec request.body read
  have halone := Body.alone_drain h.undisturbed.alone
  rw [hdrain] at hspec halone
  have hpulling := halone.2 (by simp)
  have hclient := hspec.cancelled.trans h.undisturbed.client
  -- What the walk leaves behind depends on whether its bytes are kept.
  cases result with
  | ok bytes =>
    obtain ⟨hbytes, -, hdraining, hcache, hspoiled⟩ := hspec.success bytes rfl
    have hstop := Walk.stop_of_ok hwalk.symm
    refine ⟨hspec.limit, hpulling, hdraining, hclient, hleft.passes, hleft.sound h.sound, ?_, ?_,
      ?_⟩
    all_goals simp only [Walk.history, hstop]
    · exact hleft.left
    · exact hspoiled.trans h.spoiled
    · rw [hcache, hbytes, hgot]
  | error error =>
    obtain ⟨-, hdraining, -, hcache, hspoiled⟩ := hspec.failure error rfl
    rw [h.draining, leave_only] at hdraining
    rw [h.spoiled, hspec.knows h.knows, hgot, Bool.false_or] at hspoiled
    rw [Walk.history_of_error hwalk.symm]
    exact ⟨hspec.limit, hpulling, hdraining, hclient, hleft.passes, hleft.sound h.sound,
      hleft.left, hspoiled, hcache.trans h.cache⟩

/-- A read that is polled some times and then dropped walks as far as that. -/
theorem drive_reading {request : Request} {read : Body.Read} (h : Drives request read)
    (polls : Nat) :
    let walk := Walk.walkFor request.body.limit polls read.got request.body.payload.items
    let driven := request.driveCall ⟨.read, .reading read⟩ polls
    driven.1 = (walk.outcome request.body.limit).map readAnswer ∧
      driven.2.body.Rests request.body.limit walk.history := by
  -- Each poll is one walk, and what it leaves is walked over by the polls that are left.
  induction polls generalizing request read with
  | zero => exact ⟨rfl, rests_of_abandoned h⟩
  | succ polls ih =>
    obtain ⟨hanswer, hcall, hbody⟩ := pollCall_reading request .read read
    obtain ⟨hresult, hgot, hleft⟩ := Body.drain_walk h.undisturbed h.fits
    rw [Body.pollRead_of_started h.cache h.started] at hanswer hcall hbody
    rw [finishCall_read] at hanswer
    have hfits : (Walk.walk request.body.limit 1 read.got request.body.payload.items).stop =
        .pending → _ := Walk.fits_of_pending h.fits
    rw [Walk.walkFor_succ]
    generalize Walk.walk request.body.limit 1 read.got request.body.payload.items = walk at *
    rcases hdrain : request.body.drain read with ⟨result | -, read', body'⟩
    all_goals
      rw [hdrain] at hanswer hcall hbody hresult hgot hleft
      dsimp only at hanswer hcall hbody hresult hgot hleft
    -- The read has ended with this poll, and so has the walk.
    · have hstop : walk.stop ≠ .pending := by
        rw [ne_eq, ← Walk.outcome_eq_pending_iff, ← hresult]
        simp
      rw [Walk.resume_of_ne hstop, driveCall_of_ready hanswer]
      refine ⟨congrArg (Poll.map readAnswer) hresult, ?_⟩
      change (request.pollCall _).2.2.body.Rests _ _
      rw [hbody]
      exact rests_of_ready h hdrain hresult hgot hleft
    -- The read has to wait, and the walk goes on where it has stopped.
    · have hstop : walk.stop = .pending := Walk.outcome_eq_pending_iff.mp hresult.symm
      have hspec := Body.drain_spec request.body read
      rw [hdrain] at hspec
      have hdriven := ih (drives_of_pending h hdrain (by rw [hgot]; exact hfits hstop)
        hleft.passes (hleft.sound h.sound) hbody)
      rw [hbody, hspec.limit, hgot, hleft.left] at hdriven
      rw [Walk.resume_of_pending hstop, driveCall_of_pending hanswer, hcall]
      exact hdriven

/-- A read that gets its turn at once is like one that has it. -/
theorem driveCall_takeTurn {request : Request} {read : Body.Read} {polls : Nat}
    (hpoll : request.body.pollRead read =
      (request.body.takeTurn read.ticket).drain { read with started := true })
    (hcache : request.body.cache = none) :
    request.driveCall ⟨.read, .reading read⟩ (polls + 1) =
      { request with body := request.body.takeTurn read.ticket }.driveCall
        ⟨.read, .reading { read with started := true }⟩ (polls + 1) := by
  have hpoll' : (request.body.takeTurn read.ticket).pollRead { read with started := true } =
      (request.body.takeTurn read.ticket).drain { read with started := true } :=
    Body.pollRead_of_started hcache rfl
  have hcall : request.pollCall ⟨.read, .reading read⟩ =
      { request with body := request.body.takeTurn read.ticket }.pollCall
        ⟨.read, .reading { read with started := true }⟩ := by
    simp only [pollCall, hpoll, hpoll']
  rw [driveCall, driveCall, hcall]

section Rests

variable {history : History}

/-- A body that nothing is going on with is not changed by a read that is never polled. -/
theorem rests_of_unpolled {body : Body} {limit : Nat} (h : body.Rests limit history)
    (ticket : Ticket) : (body.abandonRead ⟨ticket, false, .empty, false⟩).Rests limit history where
  limit := h.limit
  pulling := by
    change body.pulling.leave ticket = .idle
    rw [h.pulling]
    rfl
  draining := by
    change body.draining.leave ticket = .idle
    rw [h.draining]
    rfl
  client := h.client
  passes := h.passes
  sound := h.sound
  left := h.left
  lost := by
    change (body.spoiled || false) = history.lost
    rw [Bool.or_false, h.lost]
  kept := h.kept

/-- A read that finds bytes missing leaves everything as it is. -/
theorem rests_of_refused {body : Body} {limit : Nat} (h : body.Rests limit history)
    (ticket : Ticket) : ((body.takeTurn ticket).failRead ⟨ticket, false, .empty, false⟩
      .consumed).2.2.Rests limit history where
  limit := h.limit
  pulling := h.pulling
  draining := by
    change (Gate.mk (some ticket) body.draining.queue).leave ticket = .idle
    rw [h.draining]
    exact leave_only ticket
  client := h.client
  passes := by
    change body.passes.map (· - 1) = none
    rw [h.passes]
    rfl
  sound := h.sound
  left := h.left
  lost := by
    change (body.spoiled || false) = history.lost
    rw [Bool.or_false, h.lost]
  kept := h.kept

/-- A read that gets its turn while no bytes are missing has nothing to fear. -/
theorem drives_of_rests {request : Request} {limit : Nat}
    (h : request.body.Rests limit history) (hcache : request.body.cache = none)
    (hlost : history.lost = false) (ticket : Ticket) :
    Drives { request with body := request.body.takeTurn ticket } ⟨ticket, true, .empty, false⟩ where
  undisturbed := by
    refine ⟨?_, h.client, ?_⟩
    · change request.body.pulling.IsFor ticket
      rw [h.pulling]
      exact Gate.isFor_idle ticket
    · change request.body.passes.map (· - 1) = none
      rw [h.passes]
      rfl
  sound := h.sound
  -- Nobody queues at the gate, so the read is alone behind it.
  draining := by
    change Gate.mk (some ticket) request.body.draining.queue = _
    rw [h.draining]
    rfl
  cache := hcache
  spoiled := h.lost.trans hlost
  started := rfl
  knows := rfl
  fits := Walk.exceeds_zero _

/-- A read of a body that nothing is going on with comes to what the history says. -/
theorem drive_read {request : Request} {limit : Nat} (h : request.body.Rests limit history)
    (ticket : Ticket) (polls : Nat) :
    let driven := request.driveCall ⟨.read, .reading ⟨ticket, false, .empty, false⟩⟩ polls
    driven.1 = (history.read limit polls).1 ∧
      driven.2.body.Rests limit (history.read limit polls).2 := by
  cases polls with
  | zero => exact ⟨rfl, rests_of_unpolled h ticket⟩
  | succ polls =>
    obtain ⟨hanswer, -, hbody⟩ := pollCall_reading request .read ⟨ticket, false, .empty, false⟩
    rw [finishCall_read] at hanswer
    simp only [History.read, Nat.succ_ne_zero, ↓reduceIte]
    -- Kept bytes are given, lost ones are missed, and else the read drains.
    cases hkept : history.kept with
    | some bytes =>
      rw [Body.pollRead_of_cache (h.kept.trans hkept)] at hanswer hbody
      rw [driveCall_of_ready hanswer]
      refine ⟨rfl, ?_⟩
      change (request.pollCall _).2.2.body.Rests _ _
      rw [hbody]
      exact h
    | none =>
      have hcache := h.kept.trans hkept
      have hspent : request.body.isSpent = false := by simp [Body.isSpent, h.passes]
      -- Nothing is going on, so the read has its turn at once.
      have hturn : request.body.draining.holder = none ∨
          request.body.draining.holder = some ticket := by
        rw [h.draining]
        exact Or.inl rfl
      have hpoll : request.body.pollRead ⟨ticket, false, .empty, false⟩ = _ :=
        Body.pollRead_of_turn hcache rfl hspent hturn
      rw [h.lost] at hpoll
      cases hlost : history.lost with
      | true =>
        rw [hlost, if_pos rfl] at hpoll
        rw [hpoll] at hanswer hbody
        rw [driveCall_of_ready hanswer]
        refine ⟨rfl, ?_⟩
        change (request.pollCall _).2.2.body.Rests _ _
        rw [hbody]
        exact rests_of_refused h ticket
      | false =>
        rw [hlost, if_neg Bool.false_ne_true] at hpoll
        rw [driveCall_takeTurn hpoll hcache]
        have hdrives := drives_of_rests h hcache hlost ticket
        have hdriven := drive_reading hdrives (polls + 1)
        dsimp only at hdriven
        rw [show (request.body.takeTurn ticket).limit = limit from h.limit,
          show (request.body.takeTurn ticket).payload.items = history.left from h.left,
          Walk.walkFor, if_neg (Nat.succ_ne_zero polls)] at hdriven
        exact hdriven

end Rests

/-! ### Releases -/

/-- A release that has thrown away some bytes, and nothing to fear. -/
structure Discharges (request : Request) (release : Body.Release) (limit : Nat)
    (history : History) (got : ByteArray) : Prop where
  undisturbed : request.body.Undisturbed release.ticket
  sound : request.body.payload.IsSound
  limit : request.body.limit = limit
  draining : request.body.draining = .idle
  lost : request.body.spoiled = history.lost
  kept : request.body.cache = history.kept
  consumed : release.consumed = !got.isEmpty
  waits : release.Waits
  idle : release.waiting = false → request.body.pulling = .idle

section Discharges

variable {request : Request} {release : Body.Release} {limit : Nat} {history : History}
  {got : ByteArray}

theorem Discharges.rests_of_abandoned (h : Discharges request release limit history got) :
    (request.body.abandonRelease release).Rests limit
      (history.after ⟨.pending, got, request.body.payload.items⟩) where
  limit := h.limit
  pulling := Gate.leave_of_isFor h.undisturbed.alone
  draining := h.draining
  client := h.undisturbed.client
  passes := h.undisturbed.passes
  sound := h.sound
  left := rfl
  lost := by
    change (request.body.spoiled || release.consumed) = (history.lost || !got.isEmpty)
    rw [h.lost, h.consumed]
  kept := h.kept

section Poll

variable {result : Poll (Except BodyError Unit)} {release' : Body.Release} {body' : Body}
  {walk : Walk}

/-- A release that has to wait can go on. -/
theorem Discharges.of_pending (h : Discharges request release limit history got)
    (hspec : request.body.Discards release .pending release' body')
    (hgot : release'.consumed = !walk.got.isEmpty) (hleft : request.body.Walks walk body')
    (halone : body'.pulling.IsFor release.ticket) :
    Discharges { request with body := body' } release' limit history walk.got := by
  obtain ⟨hwaiting, hspoiled⟩ := hspec.pending rfl
  refine ⟨⟨?_, hspec.cancelled.trans h.undisturbed.client, hleft.passes⟩,
    hleft.sound h.sound, hspec.limit.trans h.limit, hspec.draining.trans h.draining,
    hspoiled.trans h.lost, hspec.cache.trans h.kept, hgot, fun _ => hwaiting, ?_⟩
  · rw [hspec.ticket]
    exact halone
  · intro hnot
    rw [hwaiting] at hnot
    cases hnot

/-- A release that has ended leaves what it has not thrown away, and has lost the rest. -/
theorem Discharges.rests_of_ready (h : Discharges request release limit history got)
    (hspec : request.body.Discards release result release' body') (hready : result ≠ .pending)
    (hgot : release'.consumed = !walk.got.isEmpty) (hleft : request.body.Walks walk body')
    (hidle : body'.pulling = .idle) : body'.Rests limit (history.after walk) where
  limit := hspec.limit.trans h.limit
  pulling := hidle
  draining := hspec.draining.trans h.draining
  client := hspec.cancelled.trans h.undisturbed.client
  passes := hleft.passes
  sound := hleft.sound h.sound
  left := hleft.left
  lost := by
    rw [hspec.ended hready, h.lost, hgot]
    rfl
  kept := hspec.cache.trans h.kept

end Poll

/-- A walk stops where the release does that walks it. -/
theorem stop_eq_pending_iff {walk : Walk} {result : Poll (Except BodyError Unit)}
    (h : result = (walk.outcome 0).map (Except.map fun _ => ())) :
    walk.stop = .pending ↔ result = .pending := by
  rw [← @Walk.outcome_eq_pending_iff 0, h]
  cases walk.outcome 0 <;> simp [Poll.map]

/-- A release that is polled some times and then dropped walks as far as that. -/
theorem drive_releasing (h : Discharges request release limit history got) (polls : Nat) :
    let walk := Walk.walkFor 0 polls got request.body.payload.items
    let driven := request.driveCall ⟨.release, .releasing release⟩ polls
    driven.1 = walk.released ∧ driven.2.body.Rests limit (history.after walk) ∧
      (driven.1 = .ready (.ok .released) → driven.2.body.payload.atEof = true) := by
  -- Each poll is one walk, and what it leaves is walked over by the polls that are left.
  induction polls generalizing request release got with
  | zero => exact ⟨rfl, h.rests_of_abandoned, by rintro ⟨⟩⟩
  | succ polls ih =>
    obtain ⟨hresult, hgot, hleft, halone⟩ :=
      Body.pollRelease_walk h.undisturbed h.sound h.consumed h.idle
    have hspec := Body.pollRelease_spec request.body h.waits
    have hpoll := pollCall_releasing request .release release
    rw [Walk.walkFor_succ]
    generalize Walk.walk 0 1 got request.body.payload.items = walk at *
    have hstop := stop_eq_pending_iff hresult
    rcases hpolled : request.body.pollRelease release with ⟨result | -, release', body'⟩
    all_goals
      rw [hpolled] at hresult hgot hleft halone hspec hpoll hstop
      dsimp only at hresult hgot hleft halone hspec hpoll hstop
    -- The release has ended with this poll, and so has the walk.
    · have hanswer : (request.pollCall ⟨.release, .releasing release⟩).1 =
          .ready (finishRelease result) := by
        rw [hpoll]
        rfl
      rw [Walk.resume_of_ne (by simp [hstop]), driveCall_of_ready hanswer, hpoll]
      refine ⟨?_, h.rests_of_ready hspec (by simp) hgot hleft (halone.2 (by simp)), fun hok => ?_⟩
      · rw [Walk.released_eq, ← hresult]
        rfl
      · cases result with
        | ok => exact hspec.success rfl
        | error => cases hok
    -- The release has to wait, and the walk goes on where it has stopped.
    · have hanswer : (request.pollCall ⟨.release, .releasing release⟩).1 = .pending := by
        rw [hpoll]
        rfl
      have hdriven := ih (h.of_pending hspec hgot hleft halone.1)
      dsimp only at hdriven
      rw [hleft.left] at hdriven
      rw [Walk.resume_of_pending (hstop.mpr rfl), driveCall_of_pending hanswer, hpoll]
      exact hdriven

end Discharges

/-! ### Sequences -/

/-- An operation on a body that nothing is going on with comes to what the history says, and leaves
it so. -/
theorem perform_as_walked {request : Request} {limit : Nat} {history : History}
    (h : request.body.Rests limit history) (operation : Operation) :
    (request.perform operation).1 = (history.perform limit operation).1 ∧
      (request.perform operation).2.body.Rests limit (history.perform limit operation).2 ∧
      (∀ {polls}, operation = .release polls →
        (request.perform operation).1 = .ready (.ok .released) →
          (request.perform operation).2.body.payload.atEof = true) := by
  cases operation with
  | read polls =>
    have hbegun : (request.beginCall .read).2.body.Rests limit history :=
      ⟨h.limit, h.pulling, h.draining, h.client, h.passes, h.sound, h.left, h.lost, h.kept⟩
    obtain ⟨hanswer, hrests⟩ := drive_read hbegun request.body.nextTicket polls
    exact ⟨hanswer, hrests, by simp⟩
  | release polls =>
    -- A release that has just begun has thrown nothing away.
    have hbegun : Discharges (request.beginCall .release).2 ⟨request.body.nextTicket, false, false⟩
        limit history .empty := by
      refine ⟨⟨?_, h.client, h.passes⟩, h.sound, h.limit, h.draining, h.lost, h.kept, rfl,
        by rintro ⟨⟩, fun _ => h.pulling⟩
      change request.body.pulling.IsFor _
      rw [h.pulling]
      exact Gate.isFor_idle _
    obtain ⟨hanswer, hrests, heof⟩ := drive_releasing hbegun polls
    have hleft : (request.beginCall .release).2.body.payload.items = history.left := h.left
    rw [hleft] at hanswer hrests
    exact ⟨hanswer, hrests, fun _ => heof⟩

/-- The request after some operations. -/
def performAll (request : Request) (operations : List Operation) : Request :=
  operations.foldl (fun request operation => (request.perform operation).2) request

end Request

/-- The history after some operations. -/
def History.performAll (history : History) (limit : Nat) (operations : List Operation) : History :=
  operations.foldl (fun history operation => (history.perform limit operation).2) history

/-- The payload that the transport hands over. -/
def Payload.ofSource : Payload.Source → Payload
  | .stream items => .stream items
  | .once bytes => .once bytes
  | .empty => .empty

theorem Payload.isSound_ofSource (source : Payload.Source) : (ofSource source).IsSound := by
  cases source with
  | stream items => rintro ⟨⟩
  | once bytes =>
    intro hempty
    exact if_pos hempty
  | empty => exact fun _ => rfl

namespace Request

theorem rests_performAll {request : Request} {limit : Nat} {history : History}
    (h : request.body.Rests limit history) (operations : List Operation) :
    (request.performAll operations).body.Rests limit (history.performAll limit operations) := by
  -- Every operation leaves the body at rest, which is all that the next one needs.
  induction operations generalizing request history with
  | nil => exact h
  | cons operation operations ih => exact ih (perform_as_walked h operation).2.1

/-- Whatever reads and releases have come before, each of them finished or dropped before the next
one, an operation answers what the history of the body says: the bytes that were kept, that bytes
were lost, or what the walk over the items comes to that are left. A release that succeeds has come
to the end. -/
theorem performs_as_walked (head : Head) (source : Payload.Source) (registry : RegistryId)
    (runtime : Option RuntimeId) (socket : Option SocketId) (operations : List Operation) :
    let payload := Payload.ofSource source
    let limit := head.clientMaxSize
    let request := (build head payload registry runtime socket).performAll operations
    let history := (History.mk payload.items false none).performAll limit operations
    request.body.payload.items = history.left ∧ request.body.cache = history.kept ∧
    (∀ operation,
      (request.perform operation).1 = (history.perform limit operation).1 ∧
      ∀ {polls}, operation = .release polls →
        (request.perform operation).1 = .ready (.ok .released) →
          (request.perform operation).2.body.payload.atEof = true) ∧
    ∀ limit polls, Walk.Explains limit .empty history.left
      (Walk.walk limit polls .empty history.left) := by
  intro payload limit request history
  have hstart : (build head payload registry runtime socket).body.Rests limit
      ⟨payload.items, false, none⟩ :=
    ⟨rfl, rfl, rfl, rfl, rfl, Payload.isSound_ofSource source, rfl, rfl, rfl⟩
  have hrests := rests_performAll hstart operations
  refine ⟨hrests.left, hrests.kept, fun operation => ?_, fun limit polls => ?_⟩
  · obtain ⟨hanswer, -, heof⟩ := perform_as_walked hrests operation
    exact ⟨hanswer, heof⟩
  · exact Walk.walk_explained (Walk.exceeds_zero limit)

/-- After a read has failed behind the first chunk, the next read finds that bytes are missing, and
leaves alone what is left. -/
theorem consumed_behind_failure :
    let items := [.chunk ⟨#[97, 98]⟩, .failure "reset", .chunk ⟨#[99, 100]⟩]
    let request := (build .default (.stream items) 0 none none).performAll [.read 1]
    (request.perform (.read 1)).1 = .ready (.error (.body .consumed)) ∧
      request.body.payload.items = [.chunk ⟨#[99, 100]⟩] := by
  obtain ⟨hleft, -, hanswer, -⟩ := performs_as_walked .default
    (.stream [.chunk ⟨#[97, 98]⟩, .failure "reset", .chunk ⟨#[99, 100]⟩]) 0 none none [.read 1]
  exact ⟨(hanswer (.read 1)).1.trans (by cbv), hleft.trans (by cbv)⟩

end Request

end Inbound
