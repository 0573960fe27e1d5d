import Inbound.Proofs.Body.Traffic

/-!
# Turns

At most one read has its turn. A body is at rest as long as none has, it is drained by the read
that has, and it is done once the bytes are in the cache. Releases go on at any of these stages.

## Main results

* `Traffic.move_of_effect`: from any stage an event leads to one of the three stages, and what
  becomes of the bytes on the way;
* `Traffic.final_run`: the stages that nothing leads away from.
-/

namespace Inbound.Traffic

/-- How far reading has come. -/
inductive Stage where
  /-- No read has started that has not ended. -/
  | resting
  /-- A read drains. -/
  | draining (read : Body.Read)
  /-- The bytes are in the cache. -/
  | done (bytes : ByteArray)

/-- If there is a read under a ticket, it has not had its turn. -/
def Unstarted (inFlight : InFlight) (ticket : Ticket) : Prop :=
  ∀ {wanted : BodyCall} {read : Body.Read},
    inFlight ticket = some ⟨wanted, .reading read⟩ → read.started = false

/-- A body is at a stage. -/
inductive AtStage (body : Body) (inFlight : InFlight) : Stage → Prop where
  | resting (cache : body.cache = none) (unstarted : ∀ ticket, Unstarted inFlight ticket) :
    AtStage body inFlight .resting
  | draining {wanted : BodyCall} {read : Body.Read} (cache : body.cache = none)
    (holder : body.draining.holder = some read.ticket) (started : read.started = true)
    (inFlight_eq : inFlight read.ticket = some ⟨wanted, .reading read⟩)
    (unstarted : ∀ ticket, ticket ≠ read.ticket → Unstarted inFlight ticket) :
    AtStage body inFlight (.draining read)
  | done {bytes : ByteArray} (cache : body.cache = some bytes)
    (unstarted : ∀ ticket, Unstarted inFlight ticket) : AtStage body inFlight (.done bytes)

/-- What a read that is polled now would have got already. Where bytes are missing, none would
get anything. -/
def Stage.Has (stage : Stage) (spoiled : Bool) (got : ByteArray) : Prop :=
  match stage with
  | .resting => spoiled = false ∧ got = .empty
  | .draining read => got = read.got
  | .done _ => False

/-- What becomes of the bytes from one stage to the next, given those that a release threw away. -/
inductive Move (body body' : Body) : (lost : ByteArray) → Stage → Stage → Prop where
  /-- Nothing happens to them. -/
  | stays {stage : Stage} (payload : body'.payload = body.payload)
    (spoiled : body'.spoiled = body.spoiled) : Move body body' .empty stage stage
  /-- A release goes on, or ends. -/
  | releases {stage : Stage} {lost : ByteArray}
    (bytes : body.payload.bytes = lost ++ body'.payload.bytes)
    (spoiled : body.spoiled = true → body'.spoiled = true) : Move body body' lost stage stage
  /-- A read pulls what there is, and has to wait for more. -/
  | pulls {stage : Stage} {got : ByteArray} {read : Body.Read}
    (has : stage.Has body.spoiled got)
    (bytes : read.got ++ body'.payload.bytes = got ++ body.payload.bytes) :
    Move body body' .empty stage (.draining read)
  /-- A read pulls everything. -/
  | finishes {stage : Stage} {got : ByteArray} (has : stage.Has body.spoiled got)
    (bytes : body'.payload.bytes = .empty) :
    Move body body' .empty stage (.done (got ++ body.payload.bytes))
  /-- A read fails or is dropped, and what it has pulled is lost. -/
  | fails {stage : Stage} {got pulled : ByteArray} (has : stage.Has body.spoiled got)
    (bytes : pulled ++ body'.payload.bytes = got ++ body.payload.bytes)
    (spoiled : body'.spoiled = (body.spoiled || !pulled.isEmpty)) :
    Move body body' .empty stage .resting

/-- An event is a poll of a release that takes bytes off the payload. -/
def Takes (body : Body) (inFlight : InFlight) (event : Event) (body' : Body) : Prop :=
  ∃ ticket wanted release, event = .polls ticket ∧
    inFlight ticket = some ⟨wanted, .releasing release⟩ ∧
    body'.payload.bytes ≠ body.payload.bytes

namespace AtStage

variable {body body' : Body} {inFlight : InFlight} {stage : Stage}

/-- A read without its turn is not the one that drains. -/
theorem ne_of_unstarted (h : AtStage body inFlight stage) {ticket : Ticket} {wanted : BodyCall}
    {read : Body.Read} (hcall : inFlight ticket = some ⟨wanted, .reading read⟩)
    (hread : read.started = false) {drainer : Body.Read} (hstage : stage = .draining drainer) :
    drainer.ticket ≠ ticket := by
  rintro rfl
  subst hstage
  cases h with
  | draining cache holder started inFlight_eq unstarted =>
    rw [inFlight_eq] at hcall
    cases hcall
    rw [started] at hread
    cases hread

/-- A release is not the read that drains. -/
theorem ne_of_releasing (h : AtStage body inFlight stage) {ticket : Ticket} {wanted : BodyCall}
    {release : Body.Release} (hcall : inFlight ticket = some ⟨wanted, .releasing release⟩)
    {drainer : Body.Read} (hstage : stage = .draining drainer) : drainer.ticket ≠ ticket := by
  rintro rfl
  subst hstage
  cases h with
  | draining cache holder started inFlight_eq unstarted =>
    rw [inFlight_eq] at hcall
    cases hcall

/-- What is begun next is not the read that drains. -/
theorem ne_of_fresh (h : AtStage body inFlight stage) (horderly : Orderly body inFlight)
    {drainer : Body.Read} (hstage : stage = .draining drainer) :
    drainer.ticket ≠ body.nextTicket := by
  intro heq
  subst hstage
  cases h with
  | draining cache holder started inFlight_eq unstarted =>
    rw [heq, horderly.fresh] at inFlight_eq
    cases inFlight_eq

/-- The stage depends on the cache and the turn only. -/
theorem congr (h : AtStage body inFlight stage) (hcache : body'.cache = body.cache)
    (hdraining : body'.draining = body.draining) : AtStage body' inFlight stage := by
  cases h with
  | resting cache unstarted => exact .resting (hcache.trans cache) unstarted
  | draining cache holder started inFlight_eq unstarted =>
    exact .draining (hcache.trans cache) (hdraining ▸ holder) started inFlight_eq unstarted
  | done cache unstarted => exact .done (hcache.trans cache) unstarted

/-- The stage stays what it is if something is done under another ticket than that of the read
that drains. -/
theorem elsewhere (h : AtStage body inFlight stage) {ticket : Ticket} {new : Option Call}
    (hticket : ∀ {drainer : Body.Read}, stage = .draining drainer → drainer.ticket ≠ ticket)
    (hcache : body'.cache = body.cache)
    (hholder : ∀ {drainer : Ticket}, drainer ≠ ticket → body.draining.holder = some drainer →
      body'.draining.holder = some drainer)
    (hnew : ∀ {wanted : BodyCall} {read : Body.Read}, new = some ⟨wanted, .reading read⟩ →
      read.started = false) :
    AtStage body' (Function.update inFlight ticket new) stage := by
  -- Whoever has not had its turn has not had it afterwards either.
  have hunstarted : ∀ {other : Ticket}, Unstarted inFlight other →
      Unstarted (Function.update inFlight ticket new) other := by
    intro other hother wanted read hcall
    rcases InFlight.update_eq_some_iff.mp hcall with ⟨-, hself⟩ | ⟨-, hold⟩
    · exact hnew hself
    · exact hother hold
  cases h with
  | resting cache unstarted =>
    exact .resting (hcache.trans cache) fun other => hunstarted (unstarted other)
  | draining cache holder started inFlight_eq unstarted =>
    -- The read that drains is not the one that something is done to.
    have hne := hticket rfl
    exact .draining (hcache.trans cache) (hholder hne holder) started
      (by rw [Function.update_of_ne hne]; exact inFlight_eq)
      fun other hother => hunstarted (unstarted other hother)
  | done cache unstarted =>
    exact .done (hcache.trans cache) fun other => hunstarted (unstarted other)

theorem unstarted_update {ticket : Ticket} {new : Option Call}
    (h : ∀ other, other ≠ ticket → Unstarted inFlight other) {other : Ticket}
    (hother : other ≠ ticket) : Unstarted (Function.update inFlight ticket new) other := by
  intro _ _ hcall
  rw [Function.update_of_ne hother] at hcall
  exact h other hother hcall

theorem unstarted_update_none {ticket : Ticket}
    (h : ∀ other, other ≠ ticket → Unstarted inFlight other) (other : Ticket) :
    Unstarted (Function.update inFlight ticket none) other := by
  intro _ _ hcall
  rcases InFlight.update_eq_some_iff.mp hcall with ⟨-, hself⟩ | ⟨hother, hold⟩
  · cases hself
  · exact h other hother hold

/-- A read drains that has its turn: it keeps the turn while it is pending, and else it leaves
the bytes in the cache, or nobody at all draining. -/
theorem of_drains {mid : Body} {ticket : Ticket} {wanted : BodyCall} {read read' : Body.Read}
    {result : Poll (Except BodyError ByteArray)} (hspec : mid.Drains read result read' body')
    (hticket : read.ticket = ticket) (hstarted : read.started = true) (hknows : read.Knows)
    (hcache : mid.cache = none) (hholder : mid.draining.holder = some ticket)
    (hothers : ∀ other, other ≠ ticket → Unstarted inFlight other)
    (hpayload : mid.payload = body.payload) (hspoiled : mid.spoiled = body.spoiled)
    (hhas : stage.Has body.spoiled read.got) :
    ∃ stage', AtStage body' (Function.update inFlight ticket
        (unlessReady result ⟨wanted, .reading read'⟩)) stage' ∧
      Move body body' .empty stage stage' := by
  subst hticket
  have hbytes := hspec.bytes
  rw [hpayload] at hbytes
  rcases result with (error | bytes) | -
  -- The read is gone, and nobody drains. It knew whether it had pulled bytes, so the body does.
  · obtain ⟨-, -, -, hcache', hspoiled'⟩ := hspec.failure error rfl
    rw [hspoiled, hspec.knows hknows] at hspoiled'
    exact ⟨.resting, .resting (hcache'.trans hcache) (unstarted_update_none hothers),
      .fails hhas hbytes hspoiled'⟩
  -- Nothing is left of the payload, so what was pulled is all that there was.
  · obtain ⟨rfl, hempty, -, hcache', -⟩ := hspec.success bytes rfl
    rw [hempty, ByteArray.append_empty] at hbytes
    rw [hbytes] at hcache'
    exact ⟨_, .done hcache' (unstarted_update_none hothers), .finishes hhas hempty⟩
  -- It is still this read that drains.
  · obtain ⟨hdraining, hcache', -⟩ := hspec.pending rfl
    have hcall : Function.update inFlight read.ticket (some ⟨wanted, .reading read'⟩)
        read'.ticket = some ⟨wanted, .reading read'⟩ := by
      rw [hspec.ticket, Function.update_self]
    refine ⟨.draining read', .draining (hcache'.trans hcache) ?_ (hspec.started.trans hstarted)
      hcall fun other hother => ?_, .pulls hhas hbytes⟩
    · rw [hdraining, hholder, hspec.ticket]
    · rw [hspec.ticket] at hother
      exact unstarted_update hothers hother

/-- If a read gets its turn, nobody has it. -/
theorem resting_of_turn (h : AtStage body inFlight stage) (hcache : body.cache = none)
    {ticket : Ticket} {wanted : BodyCall} {read : Body.Read}
    (hcall : inFlight ticket = some ⟨wanted, .reading read⟩) (hread : read.started = false)
    (hturn : body.draining.holder = none ∨ body.draining.holder = some ticket) :
    stage = .resting ∧ ∀ other, Unstarted inFlight other := by
  cases h with
  | resting cache unstarted => exact ⟨rfl, unstarted⟩
  | done cache unstarted =>
    rw [hcache] at cache
    cases cache
  | @draining _ drainer cache holder started inFlight_eq unstarted =>
    -- If a read drains, then it is inside. But this read may come in, and it has not drained.
    rw [holder] at hturn
    rcases hturn with hnone | hself
    · cases hnone
    · cases hself
      rw [inFlight_eq] at hcall
      cases hcall
      rw [started] at hread
      cases hread

/-- A read that has had its turn is the one that drains. -/
theorem draining_of_started (h : AtStage body inFlight stage) {wanted : BodyCall}
    {read : Body.Read} (hcall : inFlight read.ticket = some ⟨wanted, .reading read⟩)
    (hread : read.started = true) :
    stage = .draining read ∧ body.draining.holder = some read.ticket ∧
      ∀ other, other ≠ read.ticket → Unstarted inFlight other := by
  cases h with
  | resting cache unstarted | done cache unstarted =>
    -- Nobody has had a turn at these stages.
    have hnot := unstarted _ hcall
    rw [hread] at hnot
    cases hnot
  | @draining _ drainer cache holder started inFlight_eq unstarted =>
    -- Of all reads in flight, only the one that drains has had its turn.
    have hsame : read.ticket = drainer.ticket := by
      by_contra hne
      have hnot := unstarted _ hne hcall
      rw [hread] at hnot
      cases hnot
    rw [hsame, inFlight_eq] at hcall
    cases hcall
    exact ⟨rfl, holder, unstarted⟩

/-- What a poll of a read leads to. -/
theorem of_reads (h : AtStage body inFlight stage) {ticket : Ticket} {wanted : BodyCall}
    {read read' : Body.Read} {result : Poll (Except BodyError ByteArray)}
    (horderly : Orderly body inFlight)
    (hcall : inFlight ticket = some ⟨wanted, .reading read⟩)
    (hreads : body.Reads read result read' body') :
    ∃ stage', AtStage body' (Function.update inFlight ticket
        (unlessReady result ⟨wanted, .reading read'⟩)) stage' ∧
      Move body body' .empty stage stage' := by
  obtain ⟨rfl, hknows, hfresh⟩ := horderly.read hcall
  cases hreads with
  | cached cache =>
    -- With bytes in the cache nobody drains, so the read that goes is not the one that does.
    refine ⟨stage, h.elsewhere ?_ rfl (fun _ => id) (by rintro _ _ ⟨⟩), .stays rfl rfl⟩
    rintro drainer rfl
    cases h with
    | draining none =>
      rw [cache] at none
      cases none
  | spent cache started =>
    refine ⟨stage, h.elsewhere (h.ne_of_unstarted hcall started) rfl (fun _ => id) ?_,
      .stays rfl rfl⟩
    rintro _ _ ⟨⟩
    exact started
  | waits cache started holder other =>
    refine ⟨stage,
      h.elsewhere (h.ne_of_unstarted hcall started) rfl (fun _ => Gate.holder_enter) ?_,
      .stays rfl rfl⟩
    rintro _ _ ⟨⟩
    exact started
  | refused cache started turn spoiled =>
    -- It has its turn and gives it up again at once.
    obtain ⟨rfl, hothers⟩ := h.resting_of_turn cache hcall started turn
    refine ⟨.resting, .resting cache (unstarted_update_none fun other _ => hothers other),
      .stays rfl ?_⟩
    change (body.spoiled || read.consumed) = body.spoiled
    rw [spoiled, Bool.true_or]
  | begins cache started turn spoiled drain =>
    obtain ⟨rfl, hothers⟩ := h.resting_of_turn cache hcall started turn
    have hspec := Body.drains_of_eq drain
    exact of_drains hspec rfl rfl hknows cache rfl (fun other _ => hothers other) rfl rfl
      ⟨spoiled, hfresh started⟩
  | goesOn cache started drain =>
    obtain ⟨rfl, hholder, hothers⟩ := h.draining_of_started hcall started
    have hspec := Body.drains_of_eq drain
    exact of_drains hspec rfl started hknows cache hholder hothers rfl rfl rfl

/-- What comes of a read that is dropped. -/
theorem of_dropsRead (h : AtStage body inFlight stage) {ticket : Ticket} {wanted : BodyCall}
    {read : Body.Read} (horderly : Orderly body inFlight)
    (hcall : inFlight ticket = some ⟨wanted, .reading read⟩) :
    ∃ stage', AtStage (body.abandonRead read) (Function.update inFlight ticket none) stage' ∧
      Move body (body.abandonRead read) .empty stage stage' := by
  obtain ⟨rfl, hknows, hfresh⟩ := horderly.read hcall
  -- It matters whether the read has had its turn: before, it has pulled nothing.
  cases hstarted : read.started with
  | false =>
    refine ⟨stage, h.elsewhere (h.ne_of_unstarted hcall hstarted) rfl
      (fun hne holder => Gate.holder_leave holder hne.symm) (by simp), .stays rfl ?_⟩
    change (body.spoiled || read.consumed) = body.spoiled
    rw [hknows, hfresh hstarted]
    simp
  | true =>
    obtain ⟨rfl, hholder, hothers⟩ := h.draining_of_started hcall hstarted
    have hcache : body.cache = none := by
      cases h
      assumption
    refine ⟨.resting, .resting hcache (unstarted_update_none hothers), .fails rfl rfl ?_⟩
    change (body.spoiled || read.consumed) = _
    rw [hknows]

/-- What a poll of a release leads to. -/
theorem of_releases (h : AtStage body inFlight stage) {ticket : Ticket} {wanted : BodyCall}
    {release release' : Body.Release} {result : Poll (Except BodyError Unit)}
    (hcall : inFlight ticket = some ⟨wanted, .releasing release⟩)
    (hspec : body.Discards release result release' body') {call : Call}
    (hnew : call.stage = .releasing release') :
    AtStage body' (Function.update inFlight ticket (unlessReady result call)) stage := by
  -- A release never takes a turn, so the read that drains goes on as before.
  refine h.elsewhere (h.ne_of_releasing hcall) hspec.cache (fun _ holder => ?_) ?_
  · rw [hspec.draining]
    exact holder
  · intro _ _ hreading
    cases result with
    | ready => cases hreading
    | pending =>
      cases hreading
      cases hnew

end AtStage

/-- Any event leads from a stage to a stage. A release throws away just what it takes off the
payload. -/
theorem move_of_effect {body body' : Body} {inFlight inFlight' : InFlight} {stage : Stage}
    {event : Event} (h : AtStage body inFlight stage) (horderly : Orderly body inFlight)
    (hevent : event ≠ .begins .readAny) (heffect : Effect body inFlight event body' inFlight') :
    ∃ stage' lost, AtStage body' inFlight' stage' ∧ Move body body' lost stage stage' ∧
      (Takes body inFlight event body' ↔ lost ≠ .empty) := by
  -- What is polled is a read or a release, but not both.
  have hreading : ∀ {ticket wanted read}, inFlight ticket = some ⟨wanted, .reading read⟩ →
      ¬ Takes body inFlight (.polls ticket) body' := by
    rintro ticket wanted read hcall ⟨_, _, _, ⟨⟩, hrelease, -⟩
    rw [hcall] at hrelease
    cases hrelease
  cases heffect with
  | none =>
    refine ⟨stage, .empty, h, .stays rfl rfl, ?_⟩
    simp [Takes]
  | beginsRead =>
    refine ⟨stage, .empty, h.elsewhere (h.ne_of_fresh horderly) rfl (fun _ => id) ?_,
      .stays rfl rfl, by simp [Takes]⟩
    rintro _ _ ⟨⟩
    rfl
  | beginsRelease =>
    exact ⟨stage, .empty, h.elsewhere (h.ne_of_fresh horderly) rfl (fun _ => id) (by simp),
      .stays rfl rfl, by simp [Takes]⟩
  | beginsPull => exact absurd rfl hevent
  | pulls hcall => exact absurd hcall horderly.not_pulling
  | reads hcall hreads =>
    obtain ⟨stage', hstage', hmove⟩ := h.of_reads horderly hcall hreads
    exact ⟨stage', .empty, hstage', hmove, by simp [hreading hcall]⟩
  | @releases ticket wanted release release' _ result hcall hpoll =>
    have hspec := Body.pollRelease_spec body (horderly.release hcall).2
    rw [hpoll] at hspec
    -- What this poll takes is in nobody's hands afterwards.
    obtain ⟨lost, hbytes, -⟩ := hspec.bytes
    refine ⟨stage, lost, h.of_releases hcall hspec rfl, .releases hbytes ?_, ?_⟩
    · intro hspoiled
      cases result with
      | pending => rw [(hspec.pending rfl).2, hspoiled]
      | ready => rw [hspec.ended (by simp), hspoiled, Bool.true_or]
    -- The payload is left as it was exactly if nothing was lost.
    · have hsame : body'.payload.bytes = body.payload.bytes ↔ lost = .empty := by
        rw [hbytes, eq_comm, Payload.append_eq_right_iff]
      rw [ne_eq, ← hsame]
      constructor
      · rintro ⟨_, _, _, -, -, hne⟩
        exact hne
      · exact fun hne => ⟨ticket, wanted, release, rfl, hcall, hne⟩
  | dropsRead hcall =>
    obtain ⟨stage', hstage', hmove⟩ := h.of_dropsRead horderly hcall
    exact ⟨stage', .empty, hstage', hmove, by simp [Takes]⟩
  | @dropsRelease ticket wanted release hcall =>
    -- Dropping takes no bytes. It only makes known that some were taken before.
    refine ⟨stage, .empty, h.elsewhere (h.ne_of_releasing hcall) rfl (fun _ => id) (by simp),
      .releases ?_ ?_, by simp [Takes]⟩
    · rw [ByteArray.empty_append]
      rfl
    · intro hspoiled
      change (body.spoiled || release.consumed) = true
      rw [hspoiled, Bool.true_or]
  | cancels | allows =>
    refine ⟨stage, .empty, h.congr rfl rfl, .stays rfl rfl, by simp [Takes]⟩

/-! ### Final stages -/

/-- No read that is polled now would get anything that is not in the cache. -/
def Stage.IsFinal (stage : Stage) (spoiled : Bool) : Prop :=
  ∀ got, ¬ stage.Has spoiled got

theorem Stage.isFinal_done (bytes : ByteArray) (spoiled : Bool) :
    (Stage.done bytes).IsFinal spoiled :=
  fun _ => id

theorem Stage.isFinal_resting : Stage.resting.IsFinal true :=
  fun _ h => Bool.noConfusion h.1

/-- Nothing leads away from a final stage. -/
theorem Move.eq_of_isFinal {body body' : Body} {lost : ByteArray} {stage stage' : Stage}
    (h : Move body body' lost stage stage') (hfinal : stage.IsFinal body.spoiled) :
    stage' = stage ∧ stage.IsFinal body'.spoiled ∧
      (body.spoiled = true → body'.spoiled = true) := by
  cases h with
  | stays payload spoiled => exact ⟨rfl, spoiled ▸ hfinal, fun h => spoiled.trans h⟩
  | releases bytes spoiled =>
    -- A release can only spoil the body, which no stage but the resting one looks at.
    refine ⟨rfl, fun got hhas => hfinal got ?_, spoiled⟩
    cases hspoiled : body.spoiled with
    | false => cases stage with
      | resting => exact ⟨rfl, hhas.2⟩
      | draining | done => exact hhas
    | true => rwa [spoiled hspoiled] at hhas
  | pulls has | finishes has | fails has => exact absurd has (hfinal _)

/-- A final stage lasts. -/
theorem final_run {traffic : Traffic} {stage : Stage} {later : List Event}
    (h : WithoutBarePulls later) (horderly : Orderly traffic.body traffic.inFlight)
    (hstage : AtStage traffic.body traffic.inFlight stage)
    (hfinal : stage.IsFinal traffic.body.spoiled) :
    Orderly (traffic.run later).body (traffic.run later).inFlight ∧
      AtStage (traffic.run later).body (traffic.run later).inFlight stage ∧
      stage.IsFinal (traffic.run later).body.spoiled ∧
      (traffic.body.spoiled = true → (traffic.run later).body.spoiled = true) := by
  -- The invariant is that the stage is the same one and is final still.
  induction later using List.reverseRecOn with
  | nil => exact ⟨horderly, hstage, hfinal, id⟩
  | append_singleton later event ih =>
    obtain ⟨horderly', hstage', hfinal', hspoiled⟩ :=
      ih fun e he => h e (List.mem_append_left _ he)
    have hevent := h event (by simp)
    obtain ⟨_, lost, hnext, hmove, -⟩ :=
      move_of_effect hstage' horderly' hevent (effect_step _ event)
    obtain ⟨rfl, hfinal'', hspoiled'⟩ := hmove.eq_of_isFinal hfinal'
    rw [run_concat]
    exact ⟨horderly'.effect hevent (effect_step _ event), hnext, hfinal'', hspoiled' ∘ hspoiled⟩

end Inbound.Traffic
