import Mathlib
import Inbound.Proofs.Server.Eager
import Inbound.Proofs.Server.Entries

/-!
# Lazy requests pass for eager ones

Requests are built, handlers do things with them in scopes of any requests, and tasks run. Nobody
gets to know that views are computed on demand: if all views of each request were computed when it
is built, everybody would get the same answers. What anyone sees who looks at a view is what the
head of the request says, and of a new identity all see the one that the first one saw.

## Main results

* `Server.Operation`: what is done on a server;
* `Server.serials`: the numbers of new identities;
* `Server.lazy_passes_for_eager`: lazy requests and eager ones cannot be told apart.
-/

namespace Inbound

open Deferred

namespace Server

/-! ### Operations -/

/-- What is done on a server. -/
inductive Operation where
  /-- A request is built. -/
  | builds (head : Head) (payload : Payload) (registry : RegistryId) (runtime : Option RuntimeId)
      (socket : Option SocketId)
  /-- Code goes on in a scope of a request, or outside of all scopes. -/
  | goesOn (around : Option RequestId)
  /-- A handler does something with a request. -/
  | handles (id : RequestId) (what : Handling)
  /-- A handler claims the socket of a request. -/
  | claims (id : RequestId)
  /-- A handler looks up entries. -/
  | finds (id : RequestId) (name scope : String)
  /-- A handler counts the entries of a scope. -/
  | counts (id : RequestId) (scope : String)
  /-- Something else happens. -/
  | happens (event : Event) (isOther : ∀ request, event ≠ .builds request)

/-- What somebody gets for what he does on a server. -/
inductive Answer where
  | nothing
  | reply (reply : Reply)
  | socket (result : Except WebSocket.Error SocketId)
  | entries (result : Except Deferred.Error Info)
  | number (number : ℕ)
  | execution (result : Except Deferred.Error TaskId)
  | polled (answer : Option (Poll (Except CallError BodyAnswer)))
  | flag (flag : Bool)

/-- An outcome, with the answer in these words. -/
def reported {α : Type} (words : α → Answer) (outcome : α × Server) : Answer × Server :=
  (words outcome.1, outcome.2)

/-- What somebody gets who lets something happen. -/
def answer (server : Server) : Event → Answer
  | .registers id name scope job =>
    if id ∈ server.holders then .number (server.addEntry id name scope job).1 else .nothing
  | .executes id scope ambient =>
    if id ∈ server.holders then .execution (server.execute id scope ambient).1 else .nothing
  | .clears id => if id ∈ server.holders then .number (server.clearEntries id).1 else .nothing
  | .begins id wanted =>
    if id ∈ server.holders then .polled (some (server.startCall id wanted).1) else .nothing
  | .polls index => .polled (server.pollKept index).1
  | .abandons index => .flag (server.dropKept index).1
  | .shutsDown runtime => .flag (server.shutDown runtime).1
  | _ => .nothing

/-- Something is done on a server where requests are prepared in some way when they are built. -/
def operate (prepare : RequestId → Request → Request) (server : Server) :
    Operation → Answer × Server
  | .builds head payload registry runtime socket =>
    (.nothing, (server.build (prepare server.requests.length
      (.build head payload registry runtime socket))).2)
  | .goesOn around => (.nothing, server.inScope around)
  | .handles id what =>
    if id < server.requests.length then reported .reply (server.onRequest id (·.handle what))
    else (.nothing, server)
  | .claims id => reported .socket (server.claimSocket id)
  | .finds id name scope => (.entries (server.findEntry id name scope), server)
  | .counts id scope => (.number (server.pendingEntries id scope), server)
  | .happens event _ => (server.answer event, server.happen event)

/-- One thing is done after the other. -/
def operateAll (prepare : RequestId → Request → Request) (server : Server) :
    List Operation → List Answer × Server
  | [] => ([], server)
  | operation :: rest =>
    let (answer, server) := server.operate prepare operation
    let (answers, server) := server.operateAll prepare rest
    (answer :: answers, server)

/-- Nothing is done with a request when it is built. -/
def lazily : RequestId → Request → Request :=
  fun _ request => request

/-- All views of a request are computed when it is built, given the numbers of new identities. -/
def eagerly (serial : RequestId → ℕ) : RequestId → Request → Request :=
  fun id request => request.eager (serial id)

/-- What a request is built from, if one is built. -/
def Operation.head? : Operation → Option Head
  | .builds head _ _ _ _ => some head
  | _ => none

/-- The number that somebody gives who looks at the identity of a request, if anyone does. -/
def Operation.serial? (server : Server) (id : RequestId) : Operation → Option ℕ
  | .handles other (.looks (.uid fresh)) =>
    if other = id ∧ id < server.requests.length then some fresh else none
  | _ => none

/-- The numbers that those give who are the first to look at the identities of requests. -/
def serials (server : Server) : List Operation → RequestId → ℕ
  | [], _ => 0
  | operation :: rest, id =>
    (operation.serial? server id).getD ((server.operate lazily operation).2.serials rest id)

section Handles

variable {prepare : RequestId → Request → Request} {server : Server} {id : RequestId}

theorem operate_handles (hid : id < server.requests.length) (what : Handling) :
    server.operate prepare (.handles id what) =
      reported .reply (server.onRequest id (·.handle what)) :=
  if_pos hid

theorem operate_handles_of_le (hid : ¬id < server.requests.length) (what : Handling) :
    server.operate prepare (.handles id what) = (.nothing, server) :=
  if_neg hid

/-- Who does not look at the identity of a request does not give a number. -/
theorem serials_handles {what : Handling} {rest : List Operation}
    (h : ∀ fresh, what = .looks (.uid fresh) → server.requests.length ≤ id) :
    server.serials (.handles id what :: rest) =
      (server.operate lazily (.handles id what)).2.serials rest := by
  have hnone (other : RequestId) : (Operation.handles id what).serial? server other = none := by
    unfold Operation.serial?
    split
    · next heq =>
      cases heq
      refine if_neg ?_
      rintro ⟨rfl, hlt⟩
      exact absurd (h _ rfl) (Nat.not_le_of_lt hlt)
    · rfl
  funext other
  rw [serials, hnone]
  rfl

end Handles

/-! ### Side by side -/

section Abreast

variable {serial numbers : RequestId → ℕ} {heads : List Head} {lazy eager : Server}

/-- The identities that are known have the right numbers, and those that are not yet known will
get them. -/
def Expects (serial numbers : RequestId → ℕ) (outline : List (Head × Memo Uid)) : Prop :=
  ∀ id head memo, outline.getD id (.default, .fresh) = (head, memo) →
    memo.Keeps (· = head.uid (serial id)) ∧ (memo.value = none → serial id = numbers id)

/-- A lazy server and an eager one are abreast when requests with these heads have been built. -/
structure Abreast (serial numbers : RequestId → ℕ) (heads : List Head) (lazy eager : Server) :
    Prop where
  twins : Twins serial lazy.outline lazy eager
  heads_eq : lazy.outline.map Prod.fst = heads
  expects : Expects serial numbers lazy.outline

theorem abreast_fresh (numbers : RequestId → ℕ) : Abreast numbers numbers [] fresh fresh where
  twins := ⟨rfl, rfl, fun _ hrequest => absurd hrequest List.not_mem_nil⟩
  heads_eq := rfl
  expects _ _ _ hknown := by
    cases hknown
    exact ⟨Memo.keeps_fresh _, fun _ => rfl⟩

namespace Abreast

theorem known (h : Abreast serial numbers heads lazy eager) (id : RequestId) :
    lazy.outline.getD id (.default, .fresh) =
      ((lazy.request id).head, (lazy.request id).views.uid) := by
  rcases Nat.lt_or_ge id lazy.requests.length with hid | hid
  · rw [List.getD_eq_getElem?_getD, h.twins.getElem?_outline hid]
    rfl
  · rw [request, List.getD_eq_default _ _ hid, List.getD_eq_default]
    · rfl
    · rwa [outline, List.length_map]

/-- The requests that have been built are there, with their heads. -/
theorem request_of_head (h : Abreast serial numbers heads lazy eager) {id : RequestId} {head : Head}
    (hhead : heads[id]? = some head) :
    id < lazy.requests.length ∧ (lazy.request id).head = head := by
  rw [← h.heads_eq, List.getElem?_map] at hhead
  obtain ⟨⟨_, memo⟩, hknown, rfl⟩ := Option.map_eq_some_iff.mp hhead
  have hid : id < lazy.requests.length := by
    obtain ⟨hlength, -⟩ := List.getElem?_eq_some_iff.mp hknown
    rwa [outline, List.length_map] at hlength
  rw [h.twins.getElem?_outline hid] at hknown
  cases hknown
  exact ⟨hid, rfl⟩

/-- The outline stays as it is. -/
theorem of_twins (h : Abreast serial numbers heads lazy eager) {lazy' eager' : Server}
    (h' : Twins serial lazy.outline lazy' eager') : Abreast serial numbers heads lazy' eager' := by
  refine ⟨?_, ?_, ?_⟩ <;> rw [h'.outline_eq]
  · exact h'
  · exact h.heads_eq
  · exact h.expects

theorem length_eq (h : Abreast serial numbers heads lazy eager) :
    eager.requests.length = lazy.requests.length := by
  rw [h.twins.eager_eq, Server.eager, List.length_mapIdx]

/-- Whoever looks at a view sees what the head says. -/
theorem see_fst (h : Abreast serial numbers heads lazy eager) {id : RequestId}
    (hid : id < lazy.requests.length) {what : Look}
    (hnumber : ∀ fresh, what = .uid fresh → numbers id = fresh) :
    (Request.see what (lazy.request id)).1 = what.sight (lazy.request id).head (serial id) := by
  obtain ⟨hfaithful, -⟩ := h.twins.request_of_lt hid
  by_cases huid : ∃ fresh, what = .uid fresh
  · obtain ⟨fresh, rfl⟩ := huid
    obtain ⟨hkeeps, hnew⟩ := h.expects id _ _ (h.known id)
    exact (Request.see_uid hfaithful hkeeps fun hnone =>
      (hnumber fresh rfl).symm.trans (hnew hnone).symm).1
  · exact hfaithful.see_fst (fun fresh heq => huid ⟨fresh, heq⟩) _

/-- Nothing gets known of heads and identities. -/
theorem of_alike (h : Abreast serial numbers heads lazy eager)
    {outcome outcome' : Answer × Server} (h' : Alike serial lazy.outline outcome outcome') :
    outcome'.1 = outcome.1 ∧ Abreast serial numbers (heads ++ []) outcome.2 outcome'.2 := by
  rw [List.append_nil]
  exact ⟨h'.answer, h.of_twins h'.twins⟩

/-- A request is built, of whose identity nothing is known. -/
theorem build (h : Abreast serial numbers heads lazy eager) {request : Request}
    (hfaithful : request.Faithful) (hnew : request.views.uid = .fresh) :
    Abreast serial numbers (heads ++ [request.head]) (lazy.build request).2
      (eager.build (request.eager (serial lazy.requests.length))).2 := by
  have houtline : (lazy.build request).2.outline = lazy.outline ++ [(request.head, .fresh)] := by
    rw [← hnew]
    exact List.map_append
  refine ⟨⟨?_, rfl, fun other hother => ?_⟩, ?_, ?_⟩
  · rw [h.twins.eager_eq]
    unfold Server.build Server.newRequest Server.eager
    dsimp only
    rw [List.mapIdx_concat, List.length_mapIdx]
  · rcases List.mem_append.mp hother with hbefore | hlast
    · exact h.twins.faithful other hbefore
    · rwa [List.mem_singleton.mp hlast]
  · rw [houtline, List.map_append, h.heads_eq]
    rfl
  · intro id head memo hknown
    rw [houtline] at hknown
    have hbefore := h.expects id
    rcases Nat.lt_trichotomy id lazy.outline.length with hid | rfl | hid
    · rw [List.getD_append _ _ _ _ hid] at hknown
      exact hbefore head memo hknown
    · -- It is the new one.
      rw [List.getD_append_right _ _ _ _ le_rfl, Nat.sub_self] at hknown
      cases hknown
      rw [List.getD_eq_default _ _ le_rfl] at hbefore
      exact ⟨Memo.keeps_fresh _, (hbefore _ _ rfl).2⟩
    · rw [List.getD_eq_default _ _ (by simpa using hid)] at hknown
      rw [List.getD_eq_default _ _ hid.le] at hbefore
      exact hbefore head memo hknown

/-- Somebody looks at the identity of a request, so that it is known from then on. -/
theorem seeUid (h : Abreast serial numbers heads lazy eager) {id : RequestId} {fresh : ℕ}
    (hid : id < lazy.requests.length) (hnumber : numbers id = fresh)
    {numbers' : RequestId → ℕ} (hothers : ∀ other, other ≠ id → numbers' other = numbers other) :
    (eager.onRequest id (·.handle (.looks (.uid fresh)))).1 =
        (lazy.onRequest id (·.handle (.looks (.uid fresh)))).1 ∧
      Abreast serial numbers' heads (lazy.onRequest id (·.handle (.looks (.uid fresh)))).2
        (eager.onRequest id (·.handle (.looks (.uid fresh)))).2 := by
  obtain ⟨hfaithful, heager⟩ := h.twins.request_of_lt hid
  obtain ⟨hkeeps, hnew⟩ := h.expects id _ _ (h.known id)
  obtain ⟨hseen, hkept⟩ := Request.see_uid hfaithful hkeeps fun hnone =>
    hnumber.symm.trans (hnew hnone).symm
  have hleft : (Request.see (.uid fresh) (lazy.request id)).2.Faithful :=
    hfaithful.look (.uid fresh)
  have hset := h.twins.setRequest id hleft
  obtain ⟨hlength, hget⟩ := List.getElem?_eq_some_iff.mp (h.twins.getElem?_outline hid)
  rw [hkept] at hset
  -- The eager request has its identity, and nothing is done to it.
  have hdelivered : Twins serial
      (lazy.outline.set id
        ((lazy.request id).head, ⟨some ((lazy.request id).head.uid (serial id))⟩))
      (lazy.onRequest id (·.handle (.looks (.uid fresh)))).2
      (eager.onRequest id (·.handle (.looks (.uid fresh)))).2 := by
    unfold onRequest
    rw [heager]
    exact hset.deliver id
  refine ⟨?_, ?_⟩
  · show Reply.sight (Request.see (.uid fresh) (eager.request id)).1 =
      Reply.sight (Request.see (.uid fresh) (lazy.request id)).1
    rw [hseen, heager]
    rfl
  · refine ⟨?_, ?_, fun other head memo hknown => ?_⟩
    · rwa [hdelivered.outline_eq]
    · have hheads : id < (lazy.outline.map Prod.fst).length := by rwa [List.length_map]
      have hhead : (lazy.request id).head = (lazy.outline.map Prod.fst)[id] := by
        rw [List.getElem_map, hget]
      rw [hdelivered.outline_eq, List.map_set, ← h.heads_eq, hhead, List.set_getElem_self]
    · rw [hdelivered.outline_eq, List.getD_eq_getElem?_getD, List.getElem?_set] at hknown
      split at hknown
      · next heq =>
        subst heq
        cases hknown
        exact ⟨Memo.keeps_some rfl, by rintro ⟨⟩⟩
      · next hne =>
        rw [hothers other (Ne.symm hne)]
        exact h.expects other head memo (by rwa [List.getD_eq_getElem?_getD])

theorem answer (h : Abreast serial numbers heads lazy eager) (event : Event) :
    eager.answer event = lazy.answer event := by
  have hheld := h.twins.same holders rfl
  cases event with
  | registers id name scope job =>
    simp only [Server.answer, hheld, (h.twins.addEntry id name scope job).answer]
  | executes id scope ambient =>
    simp only [Server.answer, hheld, (h.twins.execute id scope ambient).answer]
  | clears id => simp only [Server.answer, hheld, (h.twins.clearEntries id).answer]
  | begins id wanted => simp only [Server.answer, hheld, (h.twins.startCall id wanted).answer]
  | polls index => simp only [Server.answer, (h.twins.pollKept index).answer]
  | abandons index => simp only [Server.answer, (h.twins.dropKept index).answer]
  | shutsDown runtime => simp only [Server.answer, (h.twins.shutDown runtime).answer]
  | _ => rfl

/-- A handler does something with a request. -/
theorem handles {id : RequestId} {what : Handling} {rest : List Operation}
    (h : Abreast serial (lazy.serials (.handles id what :: rest)) heads lazy eager)
    (hid : id < lazy.requests.length) :
    (eager.onRequest id (·.handle what)).1 = (lazy.onRequest id (·.handle what)).1 ∧
      Abreast serial ((lazy.onRequest id (·.handle what)).2.serials rest) heads
        (lazy.onRequest id (·.handle what)).2 (eager.onRequest id (·.handle what)).2 := by
  have hnext : (lazy.operate lazily (.handles id what)).2 =
      (lazy.onRequest id (·.handle what)).2 := congrArg Prod.snd (operate_handles hid what)
  -- Only a look at the identity may take a number. Everything else overlooks the views.
  by_cases huid : ∃ fresh, what = .looks (.uid fresh)
  · obtain ⟨fresh, rfl⟩ := huid
    refine h.seeUid hid ?_ fun other hother => ?_
    · rw [serials, Operation.serial?, if_pos ⟨rfl, hid⟩]
      rfl
    · rw [serials, Operation.serial?, if_neg fun hboth => hother hboth.1.symm, hnext]
      rfl
  · have hserials : lazy.serials (.handles id what :: rest) = _ :=
      serials_handles fun fresh heq => absurd ⟨fresh, heq⟩ huid
    have halike := h.twins.onRequest id
      (Request.overlooks_handle fun fresh heq => huid ⟨fresh, heq⟩)
    have hdone := h.of_twins halike.twins
    rw [hserials, hnext] at hdone
    exact ⟨halike.answer, hdone⟩

/-- Whatever is done on both servers, the answers are the same, and they stay abreast. -/
theorem operate {operation : Operation} {rest : List Operation}
    (h : Abreast serial (lazy.serials (operation :: rest)) heads lazy eager) :
    (eager.operate (eagerly serial) operation).1 = (lazy.operate lazily operation).1 ∧
      Abreast serial ((lazy.operate lazily operation).2.serials rest)
        (heads ++ operation.head?.toList) (lazy.operate lazily operation).2
        (eager.operate (eagerly serial) operation).2 := by
  cases operation with
  | builds head payload registry runtime socket =>
    refine ⟨rfl, ?_⟩
    have hbuilt := h.build (Request.faithful_build head payload registry runtime socket) rfl
    unfold Server.operate eagerly
    rw [h.length_eq]
    exact hbuilt
  | goesOn around => exact h.of_alike ⟨rfl, h.twins.of_blind (·.inScope around) rfl rfl⟩
  | handles id what =>
    have hheads : heads ++ (Operation.handles id what).head?.toList = heads := List.append_nil _
    rw [hheads]
    -- Without such a request there is no answer, and no number is taken.
    by_cases hid : id < lazy.requests.length
    · obtain ⟨hanswer, habreast⟩ := h.handles hid
      rw [operate_handles hid, operate_handles (h.length_eq ▸ hid)]
      exact ⟨congrArg Answer.reply hanswer, habreast⟩
    · rw [serials_handles fun _ _ => Nat.le_of_not_lt hid] at h
      rw [operate_handles_of_le hid] at h ⊢
      rw [operate_handles_of_le (h.length_eq ▸ hid)]
      exact ⟨rfl, h⟩
  | claims id =>
    have hclaimed := h.twins.claimSocket id
    exact h.of_alike ⟨congrArg Answer.socket hclaimed.answer, hclaimed.twins⟩
  | finds id name scope =>
    exact h.of_alike ⟨congrArg Answer.entries (h.twins.findEntry id name scope), h.twins⟩
  | counts id scope =>
    exact h.of_alike ⟨congrArg Answer.number (h.twins.pendingEntries id scope), h.twins⟩
  | happens event isOther => exact h.of_alike ⟨h.answer event, h.twins.happen isOther⟩

/-- One thing is done after the other, on both servers. -/
theorem operateAll {operations rest : List Operation}
    (h : Abreast serial (lazy.serials (operations ++ rest)) heads lazy eager) :
    (eager.operateAll (eagerly serial) operations).1 = (lazy.operateAll lazily operations).1 ∧
      Abreast serial ((lazy.operateAll lazily operations).2.serials rest)
        (heads ++ operations.filterMap Operation.head?) (lazy.operateAll lazily operations).2
        (eager.operateAll (eagerly serial) operations).2 := by
  induction operations generalizing heads lazy eager with
  | nil =>
    rw [List.filterMap_nil, List.append_nil]
    exact ⟨rfl, h⟩
  | cons operation operations ih =>
    obtain ⟨hanswer, hnext⟩ := h.operate
    obtain ⟨hanswers, hdone⟩ := ih hnext
    refine ⟨congrArg₂ List.cons hanswer hanswers, ?_⟩
    have hheads : heads ++ (operation :: operations).filterMap Operation.head? =
        heads ++ operation.head?.toList ++ operations.filterMap Operation.head? := by
      rw [List.append_assoc, List.filterMap_cons]
      cases operation.head? <;> rfl
    rw [hheads]
    exact hdone

end Abreast

end Abreast

/-- Requests that compute their views on demand pass for requests that compute all of them when they
are built, with the numbers of new identities that the first ones give who look at them. All
operations are answered alike, and in the end the servers are the same but for the views that have
been computed. Whoever looks at a view sees what the head says that the request was built from. No
computation of a view asks for a view that is being computed. -/
theorem lazy_passes_for_eager (operations : List Operation) :
    let serial := fresh.serials operations
    (fresh.operateAll (eagerly serial) operations =
      ((fresh.operateAll lazily operations).1,
        (fresh.operateAll lazily operations).2.eager serial)) ∧
    (∀ before id what after head, operations = before ++ .handles id (.looks what) :: after →
      (before.filterMap Operation.head?)[id]? = some head →
        ((fresh.operateAll lazily before).2.operate lazily (.handles id (.looks what))).1 =
          .reply (.sight (what.sight head (serial id)))) ∧
    ∀ (request : Request) (what : Look), what.askBy Views.heed request.head [] request.views =
      some ((Request.see what request).1, (Request.see what request).2.views) := by
  intro serial
  have hstart : Abreast serial (fresh.serials operations) [] fresh fresh := abreast_fresh serial
  refine ⟨?_, fun before id what after head hsplit hhead => ?_, fun request what => ?_⟩
  · rw [← List.append_nil operations] at hstart
    obtain ⟨hanswers, habreast⟩ := hstart.operateAll
    exact Prod.ext hanswers habreast.twins.eager_eq
  · rw [hsplit] at hstart
    obtain ⟨-, habreast⟩ := hstart.operateAll
    generalize (fresh.operateAll lazily before).2 = server at habreast ⊢
    obtain ⟨hid, rfl⟩ := habreast.request_of_head hhead
    rw [operate_handles hid]
    refine congrArg (Answer.reply ∘ Reply.sight) (habreast.see_fst hid fun fresh hwhat => ?_)
    subst hwhat
    rw [serials, Operation.serial?, if_pos ⟨rfl, hid⟩]
    rfl
  · rw [Look.runs_heedfully]
    cases what <;> rfl

-- The second one who looks at a new identity sees the one that the first one saw.
example :
    (fresh.operateAll lazily [.builds .default .empty 0 none none, .handles 0 (.looks (.uid 7)),
      .handles 0 .cancels, .handles 0 (.looks (.uid 8))]).1 =
      [.nothing, .reply (.sight (.uid (.generated 7))), .reply .nothing,
        .reply (.sight (.uid (.generated 7)))] := by
  cbv

end Server

end Inbound
