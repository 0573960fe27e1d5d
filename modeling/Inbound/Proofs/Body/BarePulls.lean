import Mathlib
import Inbound.Proofs.Async.Gate
import Inbound.Proofs.Body.Sequence

/-!
# Bare pulls

A handler may pull the chunks of a body itself, with any number of calls at once. The calls stand in
line before the payload, and each gets one result, or is dropped while it waits. What they get, in
the order in which they get it, is what the payload has in store, each result once; and when there
is nothing any more, they get the empty chunk.

## Main results

* `Payload.HandsOut.pull`: a pull hands out the next result, or the end;
* `Traffic.Pulling.step`: who is in line before the payload, whatever happens;
* `Traffic.Pulling.payload_step`: an event pulls once, and whoever is polled gets what is pulled, or
  it leaves the payload alone;
* `Traffic.handed_out_once`: what calls have got that were interleaved and dropped in any way.
-/

namespace Inbound

/-! ### What a payload has in store -/

namespace Payload

/-- What a pull comes to that comes to an item, if it comes to anything. -/
def Item.result? : Item → Option (Except String ByteArray)
  | .chunk bytes => if bytes.isEmpty then none else some (.ok bytes)
  | .failure text => some (.error text)
  | .stall _ | .hang => none

/-- A poll passes over the item. -/
def Item.isVoid : Item → Bool
  | .chunk bytes => bytes.isEmpty
  | .stall polls => polls == 0
  | .failure _ | .hang => false

/-- The chunks of a payload that are not empty, and its failures. -/
def results (payload : Payload) : List (Except String ByteArray) :=
  payload.items.filterMap Item.result?

/-- What a poll of a stream comes to: the first item that counts, which may be to wait, or else the
end. -/
def dueOf (items : List Item) : Poll (Except String ByteArray) :=
  match items.find? (!·.isVoid) with
  | none => .ready (.ok .empty)
  | some item => item.result?.elim .pending .ready

/-- What a pull comes to. -/
def due (payload : Payload) : Poll (Except String ByteArray) :=
  dueOf payload.items

section Source

variable {payload : Payload}

theorem results_of_stream {items : List Item} (h : payload.source = .stream items) :
    payload.results = items.filterMap Item.result? := by
  rw [results, Payload.items, h]

theorem results_of_once {bytes : ByteArray} (h : payload.source = .once bytes) :
    payload.results = if bytes.isEmpty then [] else [.ok bytes] := by
  rw [results, items, h]
  by_cases hbytes : bytes.isEmpty = true <;> simp [hbytes, Item.result?]

theorem results_of_empty (h : payload.source = .empty) : payload.results = [] := by
  rw [results, items, h]
  rfl

end Source

/-- No empty chunk is in store. -/
theorem ok_empty_notMem_results (payload : Payload) : .ok .empty ∉ payload.results := by
  intro hmem
  obtain ⟨item, -, hitem⟩ := List.mem_filterMap.mp hmem
  cases item with
  | chunk bytes =>
    rw [Item.result?, Option.ite_none_left_eq_some, Option.some_inj] at hitem
    obtain ⟨hfull, hempty⟩ := hitem
    cases hempty
    exact hfull rfl
  | failure | stall | hang => cases hitem

/-- What a poll of a stream gives, unless that is the end. -/
def Pulled.given : Poll Pulled → List (Except String ByteArray)
  | .ready (.chunk bytes) => [.ok bytes]
  | .ready (.failure text) => [.error text]
  | _ => []

/-- What a pull makes of what a stream gives. -/
def Pulled.answer : Pulled → Except String ByteArray
  | .chunk bytes => .ok bytes
  | .failure text => .error text
  | .finished => .ok .empty

/-- A poll of a stream gives the first result, and leaves the others. -/
theorem results_pollStream (items : List Item) :
    items.filterMap Item.result? =
      Pulled.given (pollStream items).1 ++ (pollStream items).2.filterMap Item.result? := by
  -- What is passed over, or lets a poll wait, is no result.
  fun_induction pollStream items with
  | case1 => rfl
  | case2 bytes rest hempty ih => simpa [Item.result?, hempty] using ih
  | case3 bytes rest hempty => simp [Item.result?, hempty, Pulled.given]
  | case4 text rest => simp [Item.result?, Pulled.given]
  | case5 rest ih => exact ih
  | case6 polls rest => rfl
  | case7 rest => rfl

/-- What a stream has left behind its end is nothing. -/
theorem eq_nil_of_finished {items rest : List Item}
    (h : pollStream items = (.ready .finished, rest)) : rest = [] := by
  fun_induction pollStream items with
  | case1 => exact (Prod.mk.inj h).2.symm
  | case2 _ _ _ ih | case5 _ ih => exact ih h
  | case3 | case4 | case6 | case7 => simp at h

/-- A poll passes over what does not count. -/
theorem dueOf_pollStream (items : List Item) :
    dueOf items = (pollStream items).1.map Pulled.answer := by
  unfold dueOf
  fun_induction pollStream items with
  | case1 => rfl
  | case2 bytes rest hempty ih => simpa [Item.isVoid, hempty] using ih
  | case3 bytes rest hempty => simp [Item.isVoid, Item.result?, hempty, Pulled.answer]
  | case4 text rest => simp [Item.isVoid, Item.result?, Pulled.answer]
  | case5 rest ih => simpa [Item.isVoid] using ih
  | case6 polls rest => simp [Item.isVoid, Item.result?]
  | case7 rest => simp [Item.isVoid, Item.result?]

/-- A pull comes to what is due. -/
theorem due_eq_pull (payload : Payload) : payload.due = payload.pull.1 := by
  unfold due items pull
  cases hsource : payload.source with
  | stream items =>
    dsimp only
    rw [dueOf_pollStream]
    rcases pollStream items with ⟨(bytes | text | _) | -, rest⟩ <;> rfl
  | once bytes =>
    dsimp only
    by_cases hbytes : bytes.isEmpty = true
    · rw [if_pos hbytes, (isEmpty_iff bytes).mp hbytes]
      rfl
    · simp [dueOf, hbytes, Item.isVoid, Item.result?]
  | empty => rfl

/-- What has been pulled is what the payload had in store, in its order and up to some result; and
then, if anything, the end. Nothing can be pulled behind the end, as there is no stream any more. -/
def HandsOut (payload : Payload) (answers : List (Except String ByteArray)) (rest : Payload) :
    Prop :=
  ∃ given ends, answers = given ++ List.replicate ends (.ok .empty) ∧
    payload.results = given ++ rest.results ∧
    (0 < ends → rest.source = .empty ∧ rest.atEof = true)

theorem handsOut_nil (payload : Payload) : payload.HandsOut [] payload :=
  ⟨[], 0, rfl, rfl, fun h => absurd h (Nat.lt_irrefl 0)⟩

/-- A pull gives the first result that is in store, or the end, or leaves everything in store. -/
theorem results_pull (payload : Payload) :
    (∃ result, payload.pull.1 = .ready result ∧
      payload.results = result :: payload.pull.2.results) ∨
    payload.pull = (.ready (.ok .empty), payload.exhausted) ∧ payload.results = [] ∨
    payload.pull.1 = .pending ∧ payload.pull.2.results = payload.results := by
  unfold pull
  cases hsource : payload.source with
  | stream items =>
    have hgiven := results_pollStream items
    rw [results_of_stream hsource]
    dsimp only
    rcases hpoll : pollStream items with ⟨(bytes | text | _) | -, rest⟩ <;> rw [hpoll] at hgiven
    · exact .inl ⟨.ok bytes, rfl, hgiven⟩
    · exact .inl ⟨.error text, rfl, hgiven⟩
    · rw [eq_nil_of_finished hpoll] at hgiven
      exact .inr (.inl ⟨rfl, hgiven⟩)
    · exact .inr (.inr ⟨rfl, hgiven.symm⟩)
  | once bytes =>
    rw [results_of_once hsource]
    dsimp only
    by_cases hbytes : bytes.isEmpty = true
    -- No bytes at once are the end at once.
    · rw [if_pos hbytes, (isEmpty_iff bytes).mp hbytes]
      exact .inr (.inl ⟨rfl, rfl⟩)
    · rw [if_neg hbytes]
      exact .inl ⟨.ok bytes, rfl, rfl⟩
  | empty =>
    rw [results_of_empty hsource]
    exact .inr (.inl ⟨rfl, rfl⟩)

/-- Whatever has been pulled before, a pull hands out the next result, or the end. -/
theorem HandsOut.pull {payload rest : Payload} {answers : List (Except String ByteArray)}
    (h : payload.HandsOut answers rest) :
    payload.HandsOut (answers ++ rest.pull.1.toOption.toList) rest.pull.2 := by
  obtain ⟨given, ends, rfl, hresults, hends⟩ := h
  obtain ⟨result, hpull, hfirst⟩ | ⟨hpull, hnone⟩ | ⟨hpull, hsame⟩ := results_pull rest
  · -- There is a result in store, so nobody has come to the end yet.
    have hends : ends = 0 := by
      by_contra hne
      rw [results_of_empty (hends (Nat.pos_of_ne_zero hne)).1] at hfirst
      cases hfirst
    subst hends
    refine ⟨given ++ [result], 0, ?_, ?_, fun h => absurd h (Nat.lt_irrefl 0)⟩
    · rw [hpull]
      simp [Poll.toOption]
    · rw [hresults, hfirst]
      simp
  · rw [hpull]
    refine ⟨given, ends + 1, ?_, ?_, fun _ => ⟨rfl, rfl⟩⟩
    · rw [List.replicate_succ', ← List.append_assoc]
      rfl
    · rw [hresults, hnone]
      rfl
  · refine ⟨given, ends, ?_, ?_, fun hpos => ?_⟩
    · rw [hpull]
      exact List.append_nil _
    · rw [hresults, hsame]
    · -- Behind the end there is nothing to wait for.
      obtain ⟨hsource, -⟩ := hends hpos
      simp [Payload.pull, hsource] at hpull

/-- The end that has been reached stays reached. -/
theorem atEof_pull {payload : Payload} (h : payload.atEof = true) :
    payload.pull.2.atEof = true := by
  unfold pull
  cases payload.source with
  | stream items =>
    dsimp only
    rcases pollStream items with ⟨(bytes | text | _) | -, rest⟩
    · exact h
    · exact h
    · rfl
    · exact h
  | once | empty => rfl

end Payload

/-! ### Pulls of a body -/

namespace Body

section PullAny

variable {body : Body} {ticket : Ticket}

/-- An operation may pull: it is inside, or nobody is and a gate may be passed. -/
def HasTurn (body : Body) (ticket : Ticket) : Prop :=
  body.pulling.holder = some ticket ∨ body.pulling.holder = none ∧ body.isSpent = false

/-- An operation that may pull gets what the payload gives. -/
theorem pullAny_of_hasTurn (h : body.HasTurn ticket) :
    (body.pullAny ticket).1 = body.payload.pull.1 ∧
      (body.pullAny ticket).2.payload = body.payload.pull.2 := by
  unfold pullAny
  obtain hholder | ⟨hholder, hpasses⟩ := h
  · rw [if_pos hholder]
    obtain ⟨hresult, hpayload, -⟩ := pullInside_undisturbed body ticket
    exact ⟨hresult, hpayload⟩
  · have hnot : ¬ body.pulling.holder = some ticket := by simp [hholder]
    rw [if_neg hnot, hpasses, Gate.enter_of_free (.inl hholder)]
    obtain ⟨hresult, hpayload, -⟩ := pullInside_undisturbed
      { body with pulling := ⟨some ticket, body.pulling.queue⟩ }.spend ticket
    exact ⟨hresult, hpayload⟩

/-- An operation that may not pull waits, and leaves the payload alone. -/
theorem pullAny_of_not_hasTurn (h : ¬ body.HasTurn ticket) :
    (body.pullAny ticket).1 = .pending ∧ (body.pullAny ticket).2.payload = body.payload := by
  unfold pullAny
  obtain ⟨hnot, hentry⟩ := not_or.mp h
  rw [if_neg hnot]
  split
  · exact ⟨rfl, rfl⟩
  next hpasses =>
    -- Gates may be passed, so there is somebody else inside.
    obtain (hnone | hholder) | ⟨other, hholder, hne⟩ := body.pulling.free_or_holder ticket
    · exact absurd ⟨hnone, Bool.not_eq_true _ ▸ hpasses⟩ hentry
    · exact absurd hholder hnot
    · have henter := Gate.enter_of_holder hholder hne
      rcases hentered : body.pulling.enter ticket with ⟨inside, pulling⟩
      rw [hentered] at henter
      obtain rfl : inside = false := henter
      exact ⟨rfl, rfl⟩

/-- Whoever pulls stays at the gate in order, and leaves it with a result. -/
theorem lined_pullInside {present : Ticket → Prop} (h : body.pulling.Lined present) :
    (body.pullInside ticket).2.pulling.Lined fun other =>
      present other ∧ ((body.pullInside ticket).1 ≠ .pending → other ≠ ticket) := by
  unfold pullInside
  split
  next payload hpull =>
    rw [pulling_wakeIfStalled]
    exact h.imp fun _ hother => ⟨hother, fun hready => absurd rfl hready⟩
  next result payload hpull =>
    exact h.leave.imp fun _ hother => ⟨hother.1, fun _ => hother.2⟩

theorem lined_pullAny {present : Ticket → Prop} (h : body.pulling.Lined present)
    (hticket : present ticket) :
    (body.pullAny ticket).2.pulling.Lined fun other =>
      present other ∧ ((body.pullAny ticket).1 ≠ .pending → other ≠ ticket) := by
  unfold pullAny
  split
  · exact lined_pullInside h
  · split
    · exact h.imp fun _ hother => ⟨hother, fun hready => absurd rfl hready⟩
    · have hentered := h.enter hticket
      split
      next pulling henter =>
        rw [henter] at hentered
        exact hentered.imp fun _ hother => ⟨hother, fun hready => absurd rfl hready⟩
      next pulling henter =>
        rw [henter] at hentered
        exact @lined_pullInside { body with pulling }.spend ticket present hentered

end PullAny

end Body

/-! ### Calls that pull -/

namespace Traffic

/-- What a call comes to when something happens, if that is a poll and the call is ready. -/
def completion? (traffic : Traffic) : Event → Option (Except CallError BodyAnswer)
  | .polls ticket => (traffic.answer? ticket).bind Poll.toOption
  | _ => none

/-- What calls come to when things happen one after the other. -/
def completions (traffic : Traffic) : List Event → List (Except CallError BodyAnswer)
  | [] => []
  | event :: later => (traffic.completion? event).toList ++ (traffic.step event).completions later

theorem completions_concat (traffic : Traffic) (events : List Event) (event : Event) :
    traffic.completions (events ++ [event]) =
      traffic.completions events ++ ((traffic.run events).completion? event).toList := by
  induction events generalizing traffic with
  | nil => exact List.append_nil _
  | cons first events ih =>
    rw [List.cons_append, completions, completions, ih, List.append_assoc]
    rfl

/-- An event belongs to bare pulls, or to the client, or to whoever polls. -/
def Event.IsPulling : Event → Prop
  | .begins wanted => wanted = .readAny
  | _ => True

/-- Nothing is begun but bare pulls. -/
def OnlyPulls (events : List Event) : Prop :=
  ∀ event ∈ events, event.IsPulling

theorem onlyPulls_concat {events : List Event} {event : Event} :
    OnlyPulls (events ++ [event]) ↔ OnlyPulls events ∧ event.IsPulling := by
  simp [OnlyPulls, or_imp, forall_and]

/-- Every call in flight is a bare pull under its ticket, and those before the payload are in
flight, and in line. -/
structure Pulling (body : Body) (inFlight : InFlight) : Prop where
  calls : ∀ {ticket : Ticket} {call : Call}, inFlight ticket = some call →
    call = ⟨.readAny, .pulling ticket⟩
  line : body.pulling.Lined fun ticket => inFlight ticket ≠ none

section Pulling

variable {traffic : Traffic} {ticket : Ticket}

/-- A call answers what its pull comes to. -/
theorem Pulling.answer?_eq (h : Pulling traffic.body traffic.inFlight)
    (hcall : traffic.inFlight ticket ≠ none) :
    traffic.answer? ticket = some ((traffic.body.pullAny ticket).1.map Request.finishPull) := by
  obtain ⟨call, hcall⟩ := Option.ne_none_iff_exists'.mp hcall
  obtain rfl := h.calls hcall
  rw [answer?, hcall, Option.map_some, Request.pollCall_pulling]
  rfl

/-- Nothing happens to a call that is not in flight. -/
theorem step_of_none (h : traffic.inFlight ticket = none) :
    traffic.step (.polls ticket) = traffic ∧ traffic.step (.drops ticket) = traffic := by
  simp only [Traffic.step, h, and_self]

/-- A call that is polled leaves the body as its pull leaves it, and is in flight as long as that
is pending. -/
theorem Pulling.step_polls (h : Pulling traffic.body traffic.inFlight)
    (hcall : traffic.inFlight ticket ≠ none) :
    (traffic.step (.polls ticket)).body = (traffic.body.pullAny ticket).2 ∧
      (traffic.step (.polls ticket)).inFlight = Function.update traffic.inFlight ticket
        (unlessReady (traffic.body.pullAny ticket).1 ⟨.readAny, .pulling ticket⟩) := by
  obtain ⟨call, hcall⟩ := Option.ne_none_iff_exists'.mp hcall
  obtain rfl := h.calls hcall
  rw [Traffic.step_polls hcall, Request.pollCall_pulling, unlessReady_map]
  exact ⟨rfl, rfl⟩

/-- A call that is dropped leaves the line. -/
theorem Pulling.step_drops (h : Pulling traffic.body traffic.inFlight)
    (hcall : traffic.inFlight ticket ≠ none) :
    (traffic.step (.drops ticket)).body = traffic.body.leavePulling ticket ∧
      (traffic.step (.drops ticket)).inFlight =
        Function.update traffic.inFlight ticket none := by
  obtain ⟨call, hcall⟩ := Option.ne_none_iff_exists'.mp hcall
  obtain rfl := h.calls hcall
  simp only [Traffic.step, hcall]
  exact ⟨rfl, rfl⟩

/-- What is in flight under a ticket is replaced by a bare pull, or by nothing, and those who are at
the gate afterwards were in flight, but for the ticket if it is gone. -/
theorem Pulling.update {body body' : Body} {inFlight : InFlight} (h : Pulling body inFlight)
    {new : Option Call} (hnew : ∀ call, new = some call → call = ⟨.readAny, .pulling ticket⟩)
    (hline : body'.pulling.Lined fun other =>
      inFlight other ≠ none ∧ (new = none → other ≠ ticket)) :
    Pulling body' (Function.update inFlight ticket new) where
  calls {other call} hcall := by
    rcases InFlight.update_eq_some_iff.mp hcall with ⟨rfl, hself⟩ | ⟨-, hold⟩
    · exact hnew call hself
    · exact h.calls hold
  line := by
    refine hline.imp fun {other} _ hother => ?_
    obtain ⟨hpresent, hgone⟩ := hother
    by_cases heq : other = ticket
    · subst heq
      rw [Function.update_self]
      exact fun hnone => hgone hnone rfl
    · rwa [Function.update_of_ne heq]

/-- No event of bare pulls disturbs them. -/
theorem Pulling.step (h : Pulling traffic.body traffic.inFlight) {event : Event}
    (hevent : event.IsPulling) :
    Pulling (traffic.step event).body (traffic.step event).inFlight := by
  cases event with
  | begins wanted =>
    obtain rfl : wanted = .readAny := hevent
    have hline : traffic.body.pulling.Lined fun other => traffic.inFlight other ≠ none ∧
        (some (Call.mk .readAny (.pulling traffic.body.nextTicket)) = none →
          other ≠ traffic.body.nextTicket) :=
      h.line.imp fun _ hother => ⟨hother, by rintro ⟨⟩⟩
    exact h.update (by rintro _ ⟨⟩; rfl) hline
  | polls ticket =>
    by_cases hcall : traffic.inFlight ticket = none
    · rw [(step_of_none hcall).1]
      exact h
    · obtain ⟨hbody, hinFlight⟩ := h.step_polls hcall
      rw [hbody, hinFlight]
      -- The call is in flight, and may be at the gate, as long as its pull is pending.
      have hline := Body.lined_pullAny h.line hcall
      rcases hresult : (traffic.body.pullAny ticket).1 with result | - <;> rw [hresult] at hline
      · exact h.update (by rintro _ ⟨⟩) (hline.imp fun _ hother => hother.imp_right fun hne _ =>
          hne (by simp))
      · exact h.update (by rintro _ ⟨⟩; rfl) (hline.imp fun _ hother => hother.imp_right
          fun _ => by rintro ⟨⟩)
  | drops ticket =>
    by_cases hcall : traffic.inFlight ticket = none
    · rw [(step_of_none hcall).2]
      exact h
    · obtain ⟨hbody, hinFlight⟩ := h.step_drops hcall
      rw [hbody, hinFlight]
      exact h.update (by rintro _ ⟨⟩) (h.line.leave.imp fun _ hother => hother.imp_right
        fun hne _ => hne)
  | cancels => exact ⟨h.calls, h.line⟩
  | allows passes => exact ⟨h.calls, h.line⟩

/-- An event pulls once, and whoever is polled gets what is pulled, or it leaves the payload
alone. -/
theorem Pulling.payload_step (h : Pulling traffic.body traffic.inFlight) {event : Event}
    (hevent : event.IsPulling) :
    (traffic.step event).body.payload = traffic.body.payload.pull.2 ∧
        traffic.completion? event =
          traffic.body.payload.pull.1.toOption.map Request.finishPull ∨
      (traffic.step event).body.payload = traffic.body.payload ∧
        traffic.completion? event = none := by
  cases event with
  | begins wanted =>
    obtain rfl : wanted = .readAny := hevent
    exact .inr ⟨rfl, rfl⟩
  | polls ticket =>
    by_cases hcall : traffic.inFlight ticket = none
    · have hnothing : traffic.completion? (.polls ticket) = none := by
        rw [completion?, answer?, hcall]
        rfl
      rw [(step_of_none hcall).1]
      exact .inr ⟨rfl, hnothing⟩
    · rw [(h.step_polls hcall).1, completion?, h.answer?_eq hcall]
      -- Only the one whose turn it is gets to the payload; who waits leaves it alone.
      by_cases hturn : traffic.body.HasTurn ticket
      · obtain ⟨hresult, hpayload⟩ := Body.pullAny_of_hasTurn hturn
        rw [hresult]
        refine .inl ⟨hpayload, ?_⟩
        cases traffic.body.payload.pull.1 <;> rfl
      · obtain ⟨hresult, hpayload⟩ := Body.pullAny_of_not_hasTurn hturn
        rw [hresult]
        exact .inr ⟨hpayload, rfl⟩
  | drops ticket =>
    by_cases hcall : traffic.inFlight ticket = none
    · rw [(step_of_none hcall).2]
      exact .inr ⟨rfl, rfl⟩
    · rw [(h.step_drops hcall).1]
      exact .inr ⟨rfl, rfl⟩
  | cancels => exact .inr ⟨rfl, rfl⟩
  | allows passes => exact .inr ⟨rfl, rfl⟩

end Pulling

/-! ### Any number of bare pulls -/

section Run

variable {request : Request} {events : List Event}

/-- Bare pulls are in line before the payload, however they are interleaved. -/
theorem pulling_run (hidle : request.body.pulling = .idle) (h : OnlyPulls events) :
    Pulling ((start request).run events).body ((start request).run events).inFlight := by
  induction events using List.reverseRecOn with
  | nil =>
    refine ⟨by rintro _ _ ⟨⟩, ?_⟩
    change request.body.pulling.Lined _
    rw [hidle]
    exact .idle _
  | append_singleton events event ih =>
    obtain ⟨hevents, hevent⟩ := onlyPulls_concat.mp h
    rw [run_concat]
    exact (ih hevents).step hevent

/-- What calls have got is what the payload hands out. -/
theorem exists_handsOut (hidle : request.body.pulling = .idle)
    (hsound : request.body.payload.IsSound) (h : OnlyPulls events) :
    ∃ answers, (start request).completions events = answers.map Request.finishPull ∧
      request.body.payload.HandsOut answers ((start request).run events).body.payload ∧
      ((start request).run events).body.payload.IsSound := by
  -- Each event pulls once, and adds what it pulls to the answers, or changes neither.
  induction events using List.reverseRecOn with
  | nil => exact ⟨[], rfl, request.body.payload.handsOut_nil, hsound⟩
  | append_singleton events event ih =>
    obtain ⟨hevents, hevent⟩ := onlyPulls_concat.mp h
    obtain ⟨answers, hanswers, hhands, hleft⟩ := ih hevents
    rw [run_concat, completions_concat, hanswers]
    obtain ⟨hpayload, hgot⟩ | ⟨hpayload, hgot⟩ := (pulling_run hidle hevents).payload_step hevent
    · rw [hpayload, hgot]
      refine ⟨_, ?_, hhands.pull, Payload.isSound_pull hleft⟩
      rw [List.map_append, Option.toList_map]
    · rw [hpayload, hgot]
      exact ⟨answers, List.append_nil _, hhands, hleft⟩

/-- A payload that says that it is at its end says so after anything that follows. -/
theorem atEof_run (hidle : request.body.pulling = .idle) {before later : List Event}
    (h : OnlyPulls (before ++ later))
    (hend : ((start request).run before).body.payload.atEof = true) :
    ((start request).run (before ++ later)).body.payload.atEof = true := by
  induction later using List.reverseRecOn with
  | nil => rwa [List.append_nil]
  | append_singleton later event ih =>
    rw [← List.append_assoc] at h ⊢
    obtain ⟨hevents, hevent⟩ := onlyPulls_concat.mp h
    rw [run_concat]
    obtain ⟨hpayload, -⟩ | ⟨hpayload, -⟩ := (pulling_run hidle hevents).payload_step hevent
    · rw [hpayload]
      exact Payload.atEof_pull (ih hevents)
    · rw [hpayload]
      exact ih hevents

end Run

/-- However bare pulls are interleaved, dropped and cancelled: what they get, in the order in which
they get it, is what the payload has in store, each result once and no empty chunk, and behind the
end the empty chunk only. Nothing has been lost then, and the stream is gone, so nobody polls it any
more. The payload says that it is at its end only if nothing is left, and does not take it back. A
call whose turn it is gets what is due, everybody else waits, and nobody is inside who is not in
flight. -/
theorem handed_out_once (head : Head) (source : Payload.Source) (registry : RegistryId)
    (runtime : Option RuntimeId) (socket : Option SocketId) {events : List Event}
    (h : OnlyPulls events) :
    let payload := Payload.ofSource source
    let fresh := start (Request.build head payload registry runtime socket)
    let traffic := fresh.run events
    let rest := traffic.body.payload
    (∃ given ends,
      fresh.completions events =
        (given ++ List.replicate ends (.ok .empty)).map Request.finishPull ∧
      payload.results = given ++ rest.results ∧ .ok .empty ∉ given ∧
      (0 < ends → given = payload.results ∧ rest.source = .empty ∧ rest.atEof = true)) ∧
    (rest.atEof = true → rest.results = [] ∧ rest.bytes = .empty) ∧
    (∀ {before later}, events = before ++ later →
      (fresh.run before).body.payload.atEof = true → rest.atEof = true) ∧
    (∀ {ticket}, traffic.inFlight ticket ≠ none →
      (traffic.body.HasTurn ticket →
        traffic.answer? ticket = some (rest.due.map Request.finishPull)) ∧
      (¬ traffic.body.HasTurn ticket → traffic.answer? ticket = some .pending)) ∧
    ∀ {ticket}, traffic.body.pulling.holder = some ticket → traffic.inFlight ticket ≠ none := by
  intro payload fresh traffic rest
  have hidle : fresh.request.body.pulling = .idle := rfl
  have hstart : fresh.request.body.payload.IsSound := Payload.isSound_ofSource source
  have hpulling : Pulling traffic.body traffic.inFlight := pulling_run hidle h
  obtain ⟨answers, hanswers, ⟨given, ends, rfl, hresults, hends⟩, hsound⟩ :=
    exists_handsOut hidle hstart h
  have hsplit : payload.results = given ++ rest.results := hresults
  refine ⟨⟨given, ends, hanswers, hsplit, ?full, fun hpos => ?gone⟩, fun hend => ?ended, ?final,
    ?answers, fun hholder => hpulling.line.present (.inl hholder)⟩
  case full =>
    intro hmem
    refine payload.ok_empty_notMem_results ?_
    rw [hsplit]
    exact List.mem_append_left _ hmem
  case gone =>
    obtain ⟨hsource, hend⟩ := hends hpos
    have hnothing : rest.results = [] := Payload.results_of_empty hsource
    refine ⟨?_, hsource, hend⟩
    rw [hsplit, hnothing, List.append_nil]
  case ended =>
    have hitems : rest.items = [] := hsound hend
    rw [Payload.results, Payload.bytes, hitems]
    exact ⟨rfl, rfl⟩
  case final =>
    rintro before later rfl hend
    exact atEof_run hidle h hend
  case answers =>
    intro ticket hcall
    rw [hpulling.answer?_eq hcall, Payload.due_eq_pull]
    constructor
    · intro hturn
      rw [(Body.pullAny_of_hasTurn hturn).1]
    · intro hturn
      rw [(Body.pullAny_of_not_hasTurn hturn).1, Poll.map_pending]

/-- Of three calls the second one waits inside when it is dropped. The third one, which waited
behind it, gets the failure that was next, although the client has gone away; and two later calls
get the last chunk and the end. -/
theorem handed_out_of_dropped :
    let source := Payload.Source.stream
      [.chunk ⟨#[97, 98]⟩, .chunk .empty, .stall 1, .failure "reset", .chunk ⟨#[99]⟩]
    let fresh := start (Request.build .default (.ofSource source) 0 none none)
    let events : List Event :=
      [.begins .readAny, .begins .readAny, .begins .readAny, .polls 0, .polls 1, .polls 2, .drops 1,
        .cancels, .polls 2, .begins .readAny, .polls 3, .begins .readAny, .polls 4]
    OnlyPulls events ∧
    fresh.completions events =
      [.ok (.bytes ⟨#[97, 98]⟩), .error (.stream "reset"), .ok (.bytes ⟨#[99]⟩),
        .ok (.bytes .empty)] ∧
    (fresh.run events).body.payload.atEof = true ∧
    (fresh.run events).body.payload.results = [] := by
  intro source fresh events
  have hpulls : OnlyPulls events := by simp [OnlyPulls, Event.IsPulling, events]
  have hend : (fresh.run events).body.payload.atEof = true := by cbv
  obtain ⟨-, hover, -⟩ := handed_out_once .default source 0 none none hpulls
  -- Rewritten, as the two are compared by running both otherwise.
  have hfresh : start (Request.build .default (.ofSource source) 0 none none) = fresh := rfl
  rw [hfresh] at hover
  refine ⟨hpulls, ?_, hend, (hover hend).1⟩
  cbv

end Traffic

end Inbound
