import Inbound.Proofs.Body.Operation

/-!
# Walks over a payload

What an operation on a body comes to that nobody else disturbs is said in terms of the items of the
payload. The operation walks over them: it gathers the bytes of the chunks, passes over what is
empty, and waits where there is a stall for as long as it is polled. It stops at the first failure,
at the first chunk with which the bytes are too many, at a stall that outlasts it, or at the end.

## Main results

* `Walk.walk_explained`: where a walk stops, what it has gathered and what it leaves;
* `Walk.walk_eq_finished`: a walk that nothing stops gathers all bytes;
* `Walk.walk_add`: a walk that has to wait goes on where it was left;
* `Payload.pull_walk`: the walk that a single pull is a part of.
-/

namespace Inbound

/-- Why a walk stops. -/
inductive Walk.Stop where
  /-- There is nothing left. -/
  | finished
  /-- The stream fails. -/
  | failed (text : String)
  /-- The bytes are too many. -/
  | tooLarge
  /-- It is not polled any more. -/
  | pending
  deriving DecidableEq, Repr

/-- A walk that has stopped. -/
structure Walk where
  /-- Why it has stopped. -/
  stop : Walk.Stop
  /-- The bytes that have been gathered. -/
  got : ByteArray
  /-- The items that it leaves. -/
  left : List Payload.Item

namespace Walk

/-- Whether so many bytes are too many; zero stands for no limit. -/
def exceeds (limit size : Nat) : Bool :=
  limit != 0 && limit ≤ size

theorem exceeds_eq_false_iff {limit size : Nat} :
    exceeds limit size = false ↔ limit = 0 ∨ size < limit := by
  simp only [exceeds, Bool.and_eq_false_iff, bne_eq_false_iff_eq, decide_eq_false_iff_not,
    Nat.not_le]

theorem exceeds_eq_true_iff {limit size : Nat} :
    exceeds limit size = true ↔ 0 < limit ∧ limit ≤ size := by
  simp only [exceeds, Bool.and_eq_true, bne_iff_ne, decide_eq_true_eq, Nat.pos_iff_ne_zero]

@[simp]
theorem exceeds_zero (limit : Nat) : exceeds limit 0 = false := by
  cases limit <;> simp [exceeds]

/-- Walks on over items, with some bytes gathered already, for as long as so many polls last. -/
def walk (limit polls : Nat) (got : ByteArray) : List Payload.Item → Walk
  | [] => ⟨.finished, got, []⟩
  | .chunk bytes :: rest =>
    if bytes.isEmpty then walk limit polls got rest
    else if exceeds limit (got ++ bytes).size then ⟨.tooLarge, got ++ bytes, rest⟩
    else walk limit polls (got ++ bytes) rest
  | .failure text :: rest => ⟨.failed text, got, rest⟩
  | .stall stalled :: rest =>
    if stalled < polls then walk limit (polls - stalled) got rest
    else ⟨.pending, got, .stall (stalled - polls) :: rest⟩
  | .hang :: rest => ⟨.pending, got, .hang :: rest⟩

/-- A walk that is polled so often, be it never. -/
def walkFor (limit polls : Nat) (got : ByteArray) (items : List Payload.Item) : Walk :=
  if polls = 0 then ⟨.pending, got, items⟩ else walk limit polls got items

/-! ### Where walks stop -/

/-- No item is a failure. -/
def NoFailure (items : List Payload.Item) : Prop :=
  ∀ text, .failure text ∉ items

/-- What has been passed over when a walk stops. There was no failure among it, its bytes have been
gathered, and they were not too many, but for the chunk at which the walk stops. -/
inductive Explains (limit : Nat) (got : ByteArray) (items : List Payload.Item) : Walk → Prop where
  | finished (passed : NoFailure items)
    (fits : limit = 0 ∨ (got ++ Payload.bytesOf items).size < limit) :
    Explains limit got items ⟨.finished, got ++ Payload.bytesOf items, []⟩
  | failed {before after : List Payload.Item} {text : String}
    (split : items = before ++ .failure text :: after) (passed : NoFailure before)
    (fits : limit = 0 ∨ (got ++ Payload.bytesOf before).size < limit) :
    Explains limit got items ⟨.failed text, got ++ Payload.bytesOf before, after⟩
  | tooLarge {before after : List Payload.Item} {chunk : ByteArray}
    (split : items = before ++ .chunk chunk :: after) (passed : NoFailure before)
    (fits : limit = 0 ∨ (got ++ Payload.bytesOf before).size < limit)
    (limited : 0 < limit) (exceeds : limit ≤ (got ++ Payload.bytesOf before ++ chunk).size) :
    Explains limit got items ⟨.tooLarge, got ++ Payload.bytesOf before ++ chunk, after⟩
  | stalled {before after : List Payload.Item} {polls rest : Nat}
    (split : items = before ++ .stall polls :: after) (passed : NoFailure before)
    (fits : limit = 0 ∨ (got ++ Payload.bytesOf before).size < limit) :
    Explains limit got items ⟨.pending, got ++ Payload.bytesOf before, .stall rest :: after⟩
  | hangs {before after : List Payload.Item} (split : items = before ++ .hang :: after)
    (passed : NoFailure before)
    (fits : limit = 0 ∨ (got ++ Payload.bytesOf before).size < limit) :
    Explains limit got items ⟨.pending, got ++ Payload.bytesOf before, .hang :: after⟩

/-- A walk is explained from one item earlier on that it passes over. -/
theorem Explains.cons {limit : Nat} {got : ByteArray} {item : Payload.Item}
    {items : List Payload.Item} {walk : Walk} (h : Explains limit (got ++ item.bytes) items walk)
    (hitem : ∀ text, item ≠ .failure text) : Explains limit got (item :: items) walk := by
  have hpassed : ∀ {before : List Payload.Item}, NoFailure before → NoFailure (item :: before) := by
    intro before hbefore text hmem
    rcases List.mem_cons.mp hmem with heq | htail
    · exact hitem text heq.symm
    · exact hbefore text htail
  have hbytes : ∀ before : List Payload.Item,
      got ++ item.bytes ++ Payload.bytesOf before = got ++ Payload.bytesOf (item :: before) := by
    intro before
    rw [Payload.bytesOf_cons, ByteArray.append_assoc]
  -- The item joins those that are passed over, wherever the walk stops.
  cases h with
  | finished passed fits =>
    rw [hbytes] at fits ⊢
    exact .finished (hpassed passed) fits
  | failed split passed fits =>
    rw [hbytes] at fits ⊢
    exact .failed (by rw [split]; rfl) (hpassed passed) fits
  | tooLarge split passed fits limited exceeds =>
    rw [hbytes] at fits exceeds ⊢
    exact .tooLarge (by rw [split]; rfl) (hpassed passed) fits limited exceeds
  | stalled split passed fits =>
    rw [hbytes] at fits ⊢
    exact .stalled (by rw [split]; rfl) (hpassed passed) fits
  | hangs split passed fits =>
    rw [hbytes] at fits ⊢
    exact .hangs (by rw [split]; rfl) (hpassed passed) fits

/-- A walk that has not gathered too much already can be explained. -/
theorem walk_explained {limit polls : Nat} {got : ByteArray} {items : List Payload.Item}
    (h : exceeds limit got.size = false) :
    Explains limit got items (walk limit polls got items) := by
  have hnone : NoFailure [] := fun _ => List.not_mem_nil
  have hgot : limit = 0 ∨ (got ++ Payload.bytesOf []).size < limit := by
    rwa [Payload.bytesOf_nil, ByteArray.append_empty, ← exceeds_eq_false_iff]
  -- A walk that passes an item over is explained by the walk behind it, and one that stops at an
  -- item by nothing before it.
  fun_induction walk limit polls got items with
  | case1 polls got =>
    have hfinished := Explains.finished hnone hgot
    rwa [Payload.bytesOf_nil, ByteArray.append_empty] at hfinished
  | case2 polls got bytes rest hempty ih =>
    -- An empty chunk is passed over and adds nothing.
    rw [Payload.isEmpty_iff] at hempty
    subst hempty
    refine .cons ?_ (by simp)
    rw [Payload.Item.bytes, ByteArray.append_empty]
    exact ih h hgot
  | case3 polls got bytes rest hempty hexceeds =>
    obtain ⟨hlimited, hreached⟩ := exceeds_eq_true_iff.mp hexceeds
    have hlarge : Explains limit got ([] ++ .chunk bytes :: rest)
        ⟨.tooLarge, got ++ Payload.bytesOf [] ++ bytes, rest⟩ :=
      .tooLarge rfl hnone hgot hlimited
        (by rwa [Payload.bytesOf_nil, ByteArray.append_empty])
    rwa [Payload.bytesOf_nil, ByteArray.append_empty] at hlarge
  | case4 polls got bytes rest hempty hexceeds ih =>
    -- The chunk fits, so the walk behind it has not gathered too much.
    rw [Bool.not_eq_true] at hexceeds
    refine .cons (ih hexceeds ?_) (by simp)
    rwa [Payload.bytesOf_nil, ByteArray.append_empty, ← exceeds_eq_false_iff]
  | case5 polls got text rest =>
    have hfailed : Explains limit got ([] ++ .failure text :: rest)
        ⟨.failed text, got ++ Payload.bytesOf [], rest⟩ := .failed rfl hnone hgot
    rwa [Payload.bytesOf_nil, ByteArray.append_empty] at hfailed
  | case6 polls got stalled rest hlasts ih =>
    refine .cons ?_ (by simp)
    have hbytes : (Payload.Item.stall stalled).bytes = .empty := rfl
    rw [hbytes, ByteArray.append_empty]
    exact ih h hgot
  | case7 polls got stalled rest hlasts =>
    have hstalled : Explains limit got ([] ++ .stall stalled :: rest)
        ⟨.pending, got ++ Payload.bytesOf [], .stall (stalled - polls) :: rest⟩ :=
      .stalled rfl hnone hgot
    rwa [Payload.bytesOf_nil, ByteArray.append_empty] at hstalled
  | case8 polls got rest =>
    have hhangs : Explains limit got ([] ++ .hang :: rest)
        ⟨.pending, got ++ Payload.bytesOf [], .hang :: rest⟩ := .hangs rfl hnone hgot
    rwa [Payload.bytesOf_nil, ByteArray.append_empty] at hhangs

/-! ### Waiting and going on -/

/-- A walk that has to wait is polled some more times. -/
def resume (limit polls : Nat) (walk : Walk) : Walk :=
  if walk.stop = .pending then walkFor limit polls walk.got walk.left else walk

/-- It makes no difference whether a walk is polled so often in one go, or goes on later where it
was left. -/
theorem walk_add (limit polls more : Nat) (got : ByteArray) (items : List Payload.Item) :
    walk limit (polls + more) got items = resume limit more (walk limit polls got items) := by
  -- Only where the walk has to wait do the additional polls matter.
  fun_induction walk limit polls got items with
  | case1 => rfl
  | case2 polls got bytes rest hempty ih => rw [walk, if_pos hempty, ih]
  | case3 polls got bytes rest hempty hexceeds =>
    rw [walk, if_neg hempty, if_pos hexceeds]
    rfl
  | case4 polls got bytes rest hempty hexceeds ih =>
    rw [walk, if_neg hempty, if_neg hexceeds, ih]
  | case5 => rfl
  | case6 polls got stalled rest hlasts ih =>
    rw [walk, if_pos (by omega), ← ih]
    congr 1
    omega
  | case7 polls got stalled rest hlasts =>
    simp only [resume, walkFor, ↓reduceIte]
    -- The polls so far have been used up by the item, and the others go on with what is left of it.
    by_cases hmore : more = 0
    · subst hmore
      rw [if_pos rfl, Nat.add_zero, walk, if_neg hlasts]
    · rw [if_neg hmore, walk, walk]
      by_cases hlonger : stalled < polls + more
      · rw [if_pos hlonger, if_pos (by omega)]
        congr 1
        omega
      · rw [if_neg hlonger, if_neg (by omega)]
        congr 3
        omega
  | case8 polls got rest =>
    simp only [resume, walkFor, ↓reduceIte]
    split <;> rfl

/-- A walk that is polled once more than so many times is one that is polled once, and resumed. -/
theorem walkFor_succ (limit polls : Nat) (got : ByteArray) (items : List Payload.Item) :
    walkFor limit (polls + 1) got items = resume limit polls (walk limit 1 got items) := by
  rw [walkFor, if_neg (Nat.succ_ne_zero polls), Nat.add_comm, walk_add]

theorem resume_of_pending {limit polls : Nat} {walk : Walk} (h : walk.stop = .pending) :
    resume limit polls walk = walkFor limit polls walk.got walk.left :=
  if_pos h

theorem resume_of_ne {limit polls : Nat} {walk : Walk} (h : walk.stop ≠ .pending) :
    resume limit polls walk = walk :=
  if_neg h

/-- A walk that has to wait has not gathered too much. -/
theorem fits_of_pending {limit polls : Nat} {got : ByteArray} {items : List Payload.Item}
    (h : exceeds limit got.size = false) (hpending : (walk limit polls got items).stop = .pending) :
    exceeds limit (walk limit polls got items).got.size = false := by
  have hexplained : Explains limit got items (walk limit polls got items) := walk_explained h
  -- The explanation says it, for any walk that has stopped there.
  generalize walk limit polls got items = walked at hexplained hpending
  cases hexplained with
  | finished | failed | tooLarge => cases hpending
  | stalled split passed fits | hangs split passed fits => exact exceeds_eq_false_iff.mpr fits

/-- The number of polls that items let pass, one after the other. -/
def stalls : List Payload.Item → Nat
  | [] => 0
  | .stall polls :: rest => polls + stalls rest
  | .chunk _ :: rest | .failure _ :: rest | .hang :: rest => stalls rest

/-- A walk over items none of which hangs is not pending if it is polled often enough. -/
theorem stop_ne_pending {limit polls : Nat} {got : ByteArray} {items : List Payload.Item}
    (hhangs : .hang ∉ items) (hpolls : stalls items < polls) :
    (walk limit polls got items).stop ≠ .pending := by
  -- The polls that are left always outlast the items that are.
  fun_induction walk limit polls got items with
  | case1 | case3 | case5 => simp
  | case2 _ _ _ _ _ ih | case4 _ _ _ _ _ _ ih =>
    exact ih (fun hmem => hhangs (List.mem_cons_of_mem _ hmem)) hpolls
  | case6 polls got stalled rest hlasts ih =>
    rw [stalls] at hpolls
    exact ih (fun hmem => hhangs (List.mem_cons_of_mem _ hmem)) (by omega)
  | case7 polls got stalled rest hlasts =>
    rw [stalls] at hpolls
    omega
  | case8 => exact absurd List.mem_cons_self hhangs

/-- A walk that meets nothing that could stop it gathers the bytes of all items. -/
theorem walk_eq_finished {limit polls : Nat} {items : List Payload.Item}
    (hfailures : NoFailure items) (hhangs : .hang ∉ items) (hpolls : stalls items < polls)
    (hfits : limit = 0 ∨ (Payload.bytesOf items).size < limit) :
    walk limit polls .empty items = ⟨.finished, Payload.bytesOf items, []⟩ := by
  have hexplained : Explains limit .empty items (walk limit polls .empty items) :=
    walk_explained (exceeds_zero limit)
  have hstop := @stop_ne_pending limit polls .empty items hhangs hpolls
  -- Of the reasons to stop all but the end are excluded.
  generalize walk limit polls .empty items = walked at hexplained hstop
  cases hexplained with
  | finished passed fits => rw [ByteArray.empty_append]
  | @failed before after text split =>
    refine absurd ?_ (hfailures text)
    rw [split]
    exact List.mem_append_right _ List.mem_cons_self
  | @tooLarge before after chunk split passed fits limited exceeds =>
    rw [split, Payload.bytesOf_append, Payload.bytesOf_cons] at hfits
    simp only [ByteArray.empty_append, ByteArray.size_append, Payload.Item.bytes] at hfits exceeds
    omega
  | stalled | hangs => exact absurd rfl hstop

end Walk

/-! ### The walk of a pull -/

namespace Payload

/-- A payload whose end has been reached has nothing left. -/
def IsSound (payload : Payload) : Prop :=
  payload.atEof = true → payload.items = []

theorem isSound_exhausted (payload : Payload) : payload.exhausted.IsSound :=
  fun _ => rfl

/-- A walk over the items of a stream that is polled once starts as a poll of the stream does. -/
theorem pollStream_walk (limit : Nat) (got : ByteArray) (items : List Item) :
    Walk.walk limit 1 got items =
      match pollStream items with
      | (.pending, rest) => ⟨.pending, got, rest⟩
      | (.ready (.chunk bytes), rest) =>
        if Walk.exceeds limit (got ++ bytes).size then ⟨.tooLarge, got ++ bytes, rest⟩
        else Walk.walk limit 1 (got ++ bytes) rest
      | (.ready (.failure text), rest) => ⟨.failed text, got, rest⟩
      | (.ready .finished, _) => ⟨.finished, got, []⟩ := by
  fun_induction pollStream items with
  | case1 => rfl
  | case2 bytes rest hempty ih => rw [Walk.walk, if_pos hempty, ih]
  | case3 bytes rest hempty => rw [Walk.walk, if_neg hempty]
  | case4 text rest => rfl
  | case5 rest ih => rw [Walk.walk, if_pos Nat.zero_lt_one, ih]
  | case6 rest polls =>
    rw [Walk.walk, if_neg (by omega)]
    rfl
  | case7 rest => rfl

/-- A walk over a payload that is polled once starts as a pull does. -/
theorem pull_walk (limit : Nat) (got : ByteArray) (payload : Payload) :
    Walk.walk limit 1 got payload.items =
      match payload.pull with
      | (.pending, rest) => ⟨.pending, got, rest.items⟩
      | (.ready (.error text), rest) => ⟨.failed text, got, rest.items⟩
      | (.ready (.ok chunk), rest) =>
        if chunk.isEmpty then ⟨.finished, got, []⟩
        else if Walk.exceeds limit (got ++ chunk).size then ⟨.tooLarge, got ++ chunk, rest.items⟩
        else Walk.walk limit 1 (got ++ chunk) rest.items := by
  unfold pull
  -- A stream is polled, bytes that are there are one chunk, and an empty body is at its end.
  cases hsource : payload.source with
  | stream items =>
    have hitems : payload.items = items := by rw [Payload.items, hsource]
    have hwalk := pollStream_walk limit got items
    rw [hitems, hwalk]
    dsimp only
    rcases hpoll : pollStream items with ⟨(bytes | text | _) | -, rest⟩
    · have hchunk := not_isEmpty_of_chunk hpoll
      dsimp only
      rw [if_neg hchunk]
      rfl
    · rfl
    · rfl
    · rfl
  | once bytes =>
    have hitems : payload.items = if bytes.isEmpty then [] else [.chunk bytes] := by
      rw [Payload.items, hsource]
    rw [hitems]
    dsimp only
    by_cases hbytes : bytes.isEmpty = true
    · rw [if_pos hbytes, if_pos hbytes]
      rfl
    · rw [if_neg hbytes, if_neg hbytes, Walk.walk, if_neg hbytes]
      rfl
  | empty =>
    have hitems : payload.items = [] := by rw [Payload.items, hsource]
    rw [hitems]
    rfl

/-- A pull leaves a sound payload sound. -/
theorem isSound_pull {payload : Payload} (h : payload.IsSound) : payload.pull.2.IsSound := by
  unfold pull
  cases hsource : payload.source with
  | stream items =>
    -- At the end there are no items, so a poll of them leaves none.
    have hrest : payload.atEof = true → (pollStream items).2 = [] := by
      intro heof
      have hitems := h heof
      rw [Payload.items, hsource] at hitems
      subst hitems
      rfl
    dsimp only
    rcases hpoll : pollStream items with ⟨(bytes | text | _) | -, rest⟩
    all_goals rw [hpoll] at hrest
    · exact hrest
    · exact hrest
    · exact isSound_exhausted payload
    · exact hrest
  | once bytes => exact isSound_exhausted payload
  | empty => exact isSound_exhausted payload

end Payload

end Inbound
