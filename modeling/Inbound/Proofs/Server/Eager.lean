import Mathlib.Data.List.GetD
import Inbound.Proofs.Deferred.Consumption
import Inbound.Proofs.Request.Eager

/-!
# Eager servers

A server whose requests compute their views on demand is compared with one whose requests have
computed all of them. Whatever happens to both, they are the same afterwards but for the views that
have been computed: nothing on a server looks at the views of a request but handlers, and calls on
bodies that ask for the character set.

## Main results

* `Server.eager`: the server with all views of its requests computed;
* `Server.Twins`, `Server.Alike`: two servers of which one is the eager one of the other, and two
  outcomes with the same answer besides;
* `Server.Twins.onRequest`: what is done with a request;
* `Server.Twins.step`, `Server.Twins.happen`: turns of tasks, and whatever happens.
-/

namespace Inbound

open Deferred

namespace Server

/-- The server with all views of its requests computed, given the numbers of new identities. -/
def eager (server : Server) (serial : RequestId → ℕ) : Server :=
  { server with requests := server.requests.mapIdx fun id request => request.eager (serial id) }

/-- The heads of all requests, and their identities as far as they are known. -/
def outline (server : Server) : List (Head × Memo Uid) :=
  server.requests.map fun request => (request.head, request.views.uid)

/-- One server is the eager one of the other, whose views are those of the heads. -/
structure Twins (serial : RequestId → ℕ) (outline : List (Head × Memo Uid))
    (lazy eager : Server) : Prop where
  /-- Only the views differ. -/
  eager_eq : eager = lazy.eager serial
  /-- What is known of the heads and the identities. -/
  outline_eq : lazy.outline = outline
  /-- The views that have been computed are those of the heads. -/
  faithful : ∀ request ∈ lazy.requests, request.Faithful

/-- The same has been answered, and the servers are twins. -/
structure Alike {α : Type} (serial : RequestId → ℕ) (outline : List (Head × Memo Uid))
    (lazy eager : α × Server) : Prop where
  answer : eager.1 = lazy.1
  twins : Twins serial outline lazy.2 eager.2

section Twins

variable {serial : RequestId → ℕ} {outline : List (Head × Memo Uid)} {lazy eager : Server}
  {α β ι : Type}

theorem Alike.exists_eq {outcome outcome' : α × Server}
    (h : Alike serial outline outcome outcome') :
    ∃ answer lazy eager, outcome = (answer, lazy) ∧ outcome' = (answer, eager) ∧
      Twins serial outline lazy eager :=
  ⟨outcome.1, outcome.2, outcome'.2, rfl, Prod.ext h.answer rfl, h.twins⟩

namespace Twins

/-- What leaves the requests alone, and does not look at them, makes twins of twins. -/
theorem of_blind (h : Twins serial outline lazy eager) (act : Server → Server)
    (hrequests : (act lazy).requests = lazy.requests)
    (hact : act (lazy.eager serial) = { act lazy with requests := (lazy.eager serial).requests }) :
    Twins serial outline (act lazy) (act eager) where
  eager_eq := by rw [h.eager_eq, hact, Server.eager, Server.eager, hrequests]
  outline_eq := by rw [Server.outline, hrequests, ← Server.outline, h.outline_eq]
  faithful := by
    rw [hrequests]
    exact h.faithful

/-- Twins have everything in common but their requests. -/
theorem same (h : Twins serial outline lazy eager) (part : Server → β)
    (hpart : part (lazy.eager serial) = part lazy) : part eager = part lazy := by
  rw [h.eager_eq, hpart]

theorem ite {lazy' eager' : Server} {condition : Prop} [Decidable condition]
    (h : Twins serial outline lazy eager) (h' : Twins serial outline lazy' eager') :
    Twins serial outline (if condition then lazy else lazy')
      (if condition then eager else eager') := by
  split
  · exact h
  · exact h'

/-- Whoever is to do something must have the request. -/
theorem whenHeld (h : Twins serial outline lazy eager) {lazy' eager' : Server} {id : RequestId}
    (h' : Twins serial outline lazy' eager') :
    Twins serial outline (if id ∈ lazy.holders then lazy' else lazy)
      (if id ∈ eager.holders then eager' else eager) := by
  rw [h.same holders rfl]
  exact h'.ite h

/-- Twins may go on and on. -/
theorem foldl (h : Twins serial outline lazy eager) {act : Server → ι → Server}
    (hact : ∀ (i : ι) {lazy eager : Server}, Twins serial outline lazy eager →
      Twins serial outline (act lazy i) (act eager i)) (list : List ι) :
    Twins serial outline (list.foldl act lazy) (list.foldl act eager) :=
  List.foldl_rel h fun i _ _ _ => hact i

/-! ### Requests -/

theorem request_of_lt (h : Twins serial outline lazy eager) {id : RequestId}
    (hid : id < lazy.requests.length) :
    (lazy.request id).Faithful ∧ eager.request id = (lazy.request id).eager (serial id) := by
  have hrequest : lazy.request id = lazy.requests[id] := List.getD_eq_getElem _ _ hid
  refine ⟨hrequest ▸ h.faithful _ (List.getElem_mem hid), ?_⟩
  rw [h.eager_eq, hrequest, request, Server.eager, List.getD_eq_getElem?_getD, List.getElem?_mapIdx,
    List.getElem?_eq_getElem hid]
  rfl

theorem request_of_le (h : Twins serial outline lazy eager) {id : RequestId}
    (hid : lazy.requests.length ≤ id) : eager.request id = lazy.request id := by
  rw [h.eager_eq, request, request, Server.eager, List.getD_eq_default _ _ hid,
    List.getD_eq_default _ _ (by rwa [List.length_mapIdx])]

/-- Twins agree in what has nothing to do with views. -/
theorem read (h : Twins serial outline lazy eager) (id : RequestId) (look : Request → β)
    (hlook : ∀ request serial, look (Request.eager request serial) = look request) :
    look (eager.request id) = look (lazy.request id) := by
  rcases Nat.lt_or_ge id lazy.requests.length with hid | hid
  · rw [(h.request_of_lt hid).2, hlook]
  · rw [h.request_of_le hid]

/-- Twins remain twins if a request is replaced by one whose views are those of its head. -/
theorem setRequest (h : Twins serial outline lazy eager) (id : RequestId) {request : Request}
    (hrequest : request.Faithful) :
    Twins serial (outline.set id (request.head, request.views.uid)) (lazy.setRequest id request)
      (eager.setRequest id (request.eager (serial id))) where
  eager_eq := by
    rw [h.eager_eq, Server.setRequest, Server.setRequest, Server.eager, Server.eager,
      List.mapIdx_set]
  outline_eq := by rw [← h.outline_eq, Server.outline, Server.outline, Server.setRequest,
    List.map_set]
  faithful other hother := by
    rcases List.mem_or_eq_of_mem_set hother with hbefore | rfl
    · exact h.faithful other hbefore
    · exact hrequest

theorem getElem?_outline (h : Twins serial outline lazy eager) {id : RequestId}
    (hid : id < lazy.requests.length) :
    outline[id]? = some ((lazy.request id).head, (lazy.request id).views.uid) := by
  rw [← h.outline_eq, Server.outline, List.getElem?_map, List.getElem?_eq_getElem hid, request,
    List.getD_eq_getElem _ _ hid]
  rfl

/-- Something is done with a request that overlooks which of its views have been computed. -/
theorem change (h : Twins serial outline lazy eager) (id : RequestId)
    {act : Request → α × Request} (hact : Request.Overlooks act) :
    Alike serial outline ((act (lazy.request id)).1, lazy.setRequest id (act (lazy.request id)).2)
      ((act (eager.request id)).1, eager.setRequest id (act (eager.request id)).2) := by
  rcases Nat.lt_or_ge id lazy.requests.length with hid | hid
  · obtain ⟨hfaithful, heager⟩ := h.request_of_lt hid
    obtain ⟨hstays, hsame⟩ := hact _ hfaithful
    have hset := h.setRequest id hstays.faithful
    obtain ⟨_, hknown⟩ := List.getElem?_eq_some_iff.mp (h.getElem?_outline hid)
    rw [heager, hsame]
    refine ⟨rfl, ?_⟩
    rwa [hstays.head, hstays.uid, ← hknown, List.set_getElem_self] at hset
  · -- There is no such request, so nothing is done.
    have hlength : eager.requests.length = lazy.requests.length := by
      rw [h.eager_eq, Server.eager, List.length_mapIdx]
    rw [h.request_of_le hid]
    refine ⟨rfl, ?_⟩
    rw [Server.setRequest, Server.setRequest, List.set_eq_of_length_le hid,
      List.set_eq_of_length_le (hlength ▸ hid)]
    exact h

/-! ### Waking -/

theorem wakeFrom (h : Twins serial outline lazy eager) (origin : Option RuntimeId) (id : TaskId) :
    Twins serial outline (lazy.wakeFrom origin id) (eager.wakeFrom origin id) := by
  unfold Server.wakeFrom
  rw [h.same Server.tasks rfl]
  dsimp only
  split
  · exact h
  · refine h.ite ?_
    have hready := h.of_blind (·.changeTask id fun task => { task with ready := true }) rfl rfl
    rw [hready.same Server.current rfl]
    exact hready.ite (hready.of_blind (·.changeRuntime _ _) rfl rfl)

theorem wake (h : Twins serial outline lazy eager) (id : TaskId) :
    Twins serial outline (lazy.wake id) (eager.wake id) := by
  rw [Server.wake, Server.wake, h.same currentRuntime rfl]
  exact h.wakeFrom _ id

theorem spawn (h : Twins serial outline lazy eager) (runtime : RuntimeId) (activity : Activity)
    (near : Bool) : Alike serial outline (lazy.spawn runtime activity near)
      (eager.spawn runtime activity near) := by
  unfold Server.spawn
  dsimp only
  rw [h.same Server.tasks rfl, h.same (·.runtime runtime) rfl]
  split
  · have hadded := h.of_blind (fun server =>
      { server with tasks := lazy.tasks ++ [⟨runtime, true, activity⟩] }) rfl rfl
    exact ⟨rfl, hadded.of_blind (·.changeRuntime _ _) rfl rfl⟩
  · exact ⟨rfl, h.of_blind (fun server =>
      { server with tasks := lazy.tasks ++ [⟨runtime, false, activity.cancelled⟩] }) rfl rfl⟩

theorem deliver (h : Twins serial outline lazy eager) (id : RequestId) :
    Twins serial outline (lazy.deliver id) (eager.deliver id) := by
  obtain ⟨hwoken, htaken⟩ := h.change id (Request.overlooks_onBody Body.takeWoken)
  unfold Server.deliver
  dsimp only at hwoken htaken ⊢
  rw [hwoken]
  refine htaken.foldl (fun ticket lazy eager h => ?_) _
  rw [h.same Server.readers rfl]
  split
  · exact h
  · exact h.wake _

/-- Something is done with a request, and the tasks are told that can go on because of it. -/
theorem onRequest (h : Twins serial outline lazy eager) (id : RequestId)
    {act : Request → α × Request} (hact : Request.Overlooks act) :
    Alike serial outline (lazy.onRequest id act) (eager.onRequest id act) := by
  obtain ⟨hanswer, htwins⟩ := h.change id hact
  exact ⟨hanswer, htwins.deliver id⟩

/-! ### Lifetimes and deferred work -/

/-- A registry and a socket are changed as the request says, whose views have no part in it. -/
theorem release (h : Twins serial outline lazy eager) (id : RequestId) :
    Twins serial outline (lazy.release id) (eager.release id) := by
  unfold Server.release
  dsimp only
  rw [h.read id Request.registry fun _ _ => rfl, h.read id Request.socket fun _ _ => rfl,
    h.same (·.registry _) rfl]
  have hdiscarded := h.of_blind (·.setRegistry (lazy.request id).registry
    ((lazy.registry (lazy.request id).registry).discard id).2) rfl rfl
  cases (lazy.request id).socket with
  | offered socket =>
    have hdropped := hdiscarded.of_blind
      (fun server => server.setSocket socket (server.socket socket).dropServer) rfl rfl
    exact hdropped.of_blind (fun server => { server with live := server.live.erase id }) rfl rfl
  | none | taken =>
    exact hdiscarded.of_blind (fun server => { server with live := server.live.erase id }) rfl rfl

theorem settle (h : Twins serial outline lazy eager) :
    Twins serial outline lazy.settle eager.settle := by
  -- The same requests have no handles, so the same ones are released, one after the other.
  induction lazy using settle.induct generalizing eager with
  | case1 server hnone =>
    have hfind := h.same (fun server => server.live.find? (!server.isHeld ·)) rfl
    rw [Server.settle, Server.settle, hfind, hnone]
    exact h
  | case2 server id hid ih =>
    have hfind := h.same (fun server => server.live.find? (!server.isHeld ·)) rfl
    rw [Server.settle, Server.settle, hfind, hid]
    exact ih (h.release id)

theorem dropHandle (h : Twins serial outline lazy eager) (index : ℕ) :
    Twins serial outline (lazy.dropHandle index) (eager.dropHandle index) :=
  (h.of_blind (·.takeHandle index) rfl rfl).settle

theorem closeScope (h : Twins serial outline lazy eager) (id : RequestId) :
    Twins serial outline (lazy.closeScope id) (eager.closeScope id) :=
  (h.of_blind (fun server => { server with within := server.within.erase id }) rfl rfl).settle

theorem addEntry (h : Twins serial outline lazy eager) (id : RequestId) (name scope : String)
    (job : Job) : Alike serial outline (lazy.addEntry id name scope job)
      (eager.addEntry id name scope job) := by
  unfold Server.addEntry Server.addEntryTo
  dsimp only
  rw [h.read id Request.registry fun _ _ => rfl, h.same (·.registry _) rfl, h.same clock rfl]
  refine ⟨rfl, ?_⟩
  exact (h.of_blind (fun server => { server with clock := lazy.clock + 1 }) rfl rfl).of_blind
    (·.setRegistry _ _) rfl rfl

theorem clearEntries (h : Twins serial outline lazy eager) (id : RequestId) :
    Alike serial outline (lazy.clearEntries id) (eager.clearEntries id) := by
  unfold Server.clearEntries Server.clearEntriesIn
  dsimp only
  rw [h.read id Request.registry fun _ _ => rfl, h.same (·.registry _) rfl]
  exact ⟨rfl, (h.of_blind (·.setRegistry _ _) rfl rfl).settle⟩

theorem execute (h : Twins serial outline lazy eager) (id : RequestId) (scope : String)
    (ambient : Option RuntimeId) : Alike serial outline (lazy.execute id scope ambient)
      (eager.execute id scope ambient) := by
  unfold Server.execute Server.executeFrom
  dsimp only
  rw [h.read id Request.registry fun _ _ => rfl, h.read id Request.runtime fun _ _ => rfl,
    h.same (·.registry _) rfl]
  split
  · exact ⟨rfl, h⟩
  · have htaken := h.of_blind (·.setRegistry (lazy.request id).registry
      ((lazy.registry (lazy.request id).registry).take ⟨id, scope⟩).2) rfl rfl
    rw [htaken.same currentRuntime rfl]
    obtain ⟨htask, hspawned⟩ := htaken.spawn _ _ _
    exact ⟨congrArg Except.ok htask, hspawned.settle⟩

theorem findEntry (h : Twins serial outline lazy eager) (id : RequestId) (name scope : String) :
    eager.findEntry id name scope = lazy.findEntry id name scope := by
  rw [Server.findEntry, Server.findEntry, h.read id Request.registry fun _ _ => rfl]
  exact h.same (·.findEntryIn _ id name scope) rfl

theorem pendingEntries (h : Twins serial outline lazy eager) (id : RequestId) (scope : String) :
    eager.pendingEntries id scope = lazy.pendingEntries id scope := by
  rw [Server.pendingEntries, Server.pendingEntries, h.read id Request.registry fun _ _ => rfl]
  exact h.same (·.pendingEntriesIn _ id scope) rfl

/-- The offer is all of a request that is looked at by whoever claims its socket. -/
theorem claimSocket (h : Twins serial outline lazy eager) (id : RequestId) :
    Alike serial outline (lazy.claimSocket id) (eager.claimSocket id) := by
  have htake : Request.Overlooks fun request => ((), { request with socket := .taken }) :=
    Request.overlooks_of_blind (fun _ => rfl) fun _ _ => rfl
  have htaken := (h.change id htake).twins
  unfold Server.claimSocket
  dsimp only
  rw [h.read id Request.socket fun _ _ => rfl]
  cases (lazy.request id).socket with
  | none | taken => exact ⟨rfl, h⟩
  | offered socket => exact ⟨rfl, htaken⟩

/-! ### Calls on bodies -/

theorem pollKept (h : Twins serial outline lazy eager) (index : ℕ) :
    Alike serial outline (lazy.pollKept index) (eager.pollKept index) := by
  unfold Server.pollKept
  rw [h.same calls rfl]
  split
  · exact ⟨rfl, h⟩
  · next id call _ =>
    generalize hlazy : lazy.onRequest id _ = polled
    generalize heager : eager.onRequest id _ = polled'
    have hpolled : Alike serial outline polled polled' := by
      rw [← hlazy, ← heager]
      exact h.onRequest id (Request.overlooks_polledCall call)
    obtain ⟨⟨answer, left⟩, lazy', eager', rfl, rfl, htwins⟩ := hpolled.exists_eq
    refine ⟨rfl, settle ?_⟩
    rw [htwins.same calls rfl]
    exact htwins.of_blind (fun server => { server with calls := lazy'.calls.set index _ }) rfl rfl

theorem startCall (h : Twins serial outline lazy eager) (id : RequestId) (wanted : BodyCall) :
    Alike serial outline (lazy.startCall id wanted) (eager.startCall id wanted) := by
  have hstart := (Request.overlooks_beginCall wanted).bind Request.overlooks_polledCall
  unfold Server.startCall
  generalize hlazy : lazy.onRequest id _ = polled
  generalize heager : eager.onRequest id _ = polled'
  have hpolled : Alike serial outline polled polled' := by
    rw [← hlazy, ← heager]
    exact h.onRequest id hstart
  obtain ⟨⟨answer, left⟩, lazy', eager', rfl, rfl, htwins⟩ := hpolled.exists_eq
  refine ⟨rfl, ?_⟩
  dsimp only
  rw [htwins.same calls rfl]
  exact htwins.of_blind (fun server => { server with calls := lazy'.calls ++ [_] }) rfl rfl

theorem dropKept (h : Twins serial outline lazy eager) (index : ℕ) :
    Alike serial outline (lazy.dropKept index) (eager.dropKept index) := by
  unfold Server.dropKept
  rw [h.same calls rfl]
  split
  · exact ⟨rfl, h⟩
  · next id call _ =>
    have hleft := (h.onRequest id (Request.overlooks_abandonCall call)).twins
    exact ⟨rfl, (hleft.of_blind (fun server => { server with
      calls := server.calls.set index none }) rfl rfl).settle⟩

/-! ### Entries -/

theorem write (h : Twins serial outline lazy eager) (line : String) :
    Twins serial outline (lazy.write line) (eager.write line) :=
  h.of_blind (·.write line) rfl rfl

theorem stepAside (h : Twins serial outline lazy eager) (task : TaskId) :
    Twins serial outline (lazy.stepAside task) (eager.stepAside task) := by
  unfold Server.stepAside
  rw [h.same Server.tasks rfl]
  split
  · exact h
  · exact h.of_blind (·.changeRuntime _ _) rfl rfl

theorem pollRead (h : Twins serial outline lazy eager) (name : String) (id : RequestId)
    (call : Call) :
    Alike serial outline (lazy.pollRead name id call) (eager.pollRead name id call) := by
  unfold Server.pollRead
  generalize hlazy : lazy.onRequest id _ = polled
  generalize heager : eager.onRequest id _ = polled'
  have hpolled : Alike serial outline polled polled' := by
    rw [← hlazy, ← heager]
    exact h.onRequest id (Request.overlooks_polledCall call)
  obtain ⟨⟨answer, left⟩, lazy', eager', rfl, rfl, htwins⟩ := hpolled.exists_eq
  dsimp only
  split
  · exact ⟨rfl, htwins⟩
  · exact ⟨rfl, htwins.write _⟩
  · exact ⟨rfl, htwins.write _⟩
  · exact ⟨rfl, htwins⟩

theorem beginRead (h : Twins serial outline lazy eager) (task : TaskId) (id : RequestId) :
    Alike serial outline (lazy.beginRead task id) (eager.beginRead task id) := by
  obtain ⟨hcall, htwins⟩ := h.change id (Request.overlooks_beginCall .read)
  unfold Server.beginRead
  dsimp only at hcall htwins ⊢
  refine ⟨hcall, ?_⟩
  rw [hcall, h.same readers rfl]
  exact htwins.of_blind (fun server => { server with readers := _ :: lazy.readers }) rfl rfl

theorem meet (h : Twins serial outline lazy eager) (task : TaskId) (name : String)
    (parties : ℕ) : Alike serial outline (lazy.meet task name parties)
      (eager.meet task name parties) := by
  unfold Server.meet
  dsimp only
  rw [h.same barriers rfl]
  generalize ((lazy.barriers.lookup name).getD (.ofParties parties)).arrive task = arrival
  obtain ⟨arrival, barrier⟩ := arrival
  have harrived := h.of_blind (fun server =>
    { server with barriers := Registry.put name barrier lazy.barriers }) rfl rfl
  cases arrival with
  | inl waiting => exact ⟨rfl, harrived.foldl (fun id _ _ h => h.wake id) waiting⟩
  | inr opening => exact ⟨rfl, harrived⟩

/-- What an entry does has nothing to do with views. -/
theorem perform (h : Twins serial outline lazy eager) (task : TaskId) (self : Running)
    (acts : List Act) :
    Alike serial outline (lazy.perform task self acts) (eager.perform task self acts) := by
  -- One act after the other makes twins of twins.
  induction acts generalizing lazy eager with
  | nil => exact ⟨rfl, h.write _⟩
  | cons act rest ih =>
    cases act with
    | pause times =>
      cases times with
      | zero => exact ih h
      | succ times => exact ⟨rfl, h.stepAside task⟩
    | note text => exact ih (h.write _)
    | keep key value =>
      have hset : Request.Overlooks (Request.set · key value) :=
        Request.overlooks_of_blind (fun _ => rfl) fun _ _ => rfl
      exact ih (h.change self.request hset).twins
    | register name scope panicOnCall acts => exact ih (h.addEntry _ _ _ _).twins
    | readBody =>
      rw [Server.perform, Server.perform]
      obtain ⟨call, lazy, eager, hlazy, heager, hbegun⟩ := (h.beginRead task self.request).exists_eq
      rw [hlazy, heager]
      dsimp only
      obtain ⟨left, lazy, eager, hlazy, heager, hpolled⟩ :=
        (hbegun.pollRead self.name self.request call).exists_eq
      rw [hlazy, heager]
      cases left with
      | some call => exact ⟨rfl, hpolled⟩
      | none => exact ih hpolled
    | meet barrier parties =>
      rw [Server.perform, Server.perform]
      obtain ⟨opening, lazy, eager, hlazy, heager, hmet⟩ := (h.meet task barrier parties).exists_eq
      rw [hlazy, heager]
      cases opening with
      | some opening => exact ⟨rfl, hmet⟩
      | none => exact ih (hmet.write _)
    | execute scope =>
      rw [Server.perform, Server.perform, h.same currentRuntime rfl]
      obtain ⟨result, lazy, eager, hlazy, heager, hexecuted⟩ :=
        (h.execute self.request scope lazy.currentRuntime).exists_eq
      rw [hlazy, heager]
      exact ih (hexecuted.write _)
    | checkBinding =>
      rw [Server.perform, Server.perform, h.same bound rfl]
      exact ih (h.write _)
    | hang | giveUp | panic => exact ⟨rfl, h⟩

theorem call (h : Twins serial outline lazy eager) (task : TaskId) (self : Running) :
    Alike serial outline (lazy.call task self) (eager.call task self) := by
  have hpath (id : RequestId) : (eager.request id).head.path = (lazy.request id).head.path :=
    h.read id (·.head.path) fun _ _ => rfl
  unfold Server.call
  dsimp only
  -- What is bound is the same on both servers, and so is the path of that request.
  rw [h.same bound rfl]
  cases lazy.bound with
  | none =>
    split
    · exact ⟨rfl, h.write _⟩
    · exact (h.write _).perform task self _
  | some id =>
    dsimp only
    rw [hpath]
    split
    · exact ⟨rfl, h.write _⟩
    · exact (h.write _).perform task self _

theorem resume (h : Twins serial outline lazy eager) (task : TaskId) (self : Running) :
    Alike serial outline (lazy.resume task self) (eager.resume task self) := by
  unfold Server.resume
  split
  · exact h.call task self
  · split
    · exact h.perform task self _
    · exact ⟨rfl, h.stepAside task⟩
  · next call _ =>
    obtain ⟨left, lazy, eager, hlazy, heager, hpolled⟩ :=
      (h.pollRead self.name self.request call).exists_eq
    rw [hlazy, heager]
    cases left with
    | some call => exact ⟨rfl, hpolled⟩
    | none => exact hpolled.perform task self _
  · rw [h.same barriers rfl]
    split
    · exact (h.write _).perform task self _
    · exact ⟨rfl, h⟩
  · exact ⟨rfl, h⟩

theorem setActivity (h : Twins serial outline lazy eager) (task : TaskId) (activity : Activity) :
    Twins serial outline (lazy.setActivity task activity) (eager.setActivity task activity) :=
  h.of_blind (·.setActivity task activity) rfl rfl

theorem finishEntry (h : Twins serial outline lazy eager) (task : TaskId) (self : Running)
    (outcome : Except Failure Unit) :
    Twins serial outline (lazy.finishEntry task self outcome)
      (eager.finishEntry task self outcome) := by
  have hover := h.setActivity task .over
  unfold Server.finishEntry
  dsimp only
  rw [hover.same (·.activity? self.execution) rfl]
  split
  · exact (hover.setActivity _ _).wake _
  · exact hover

theorem stepEntry (h : Twins serial outline lazy eager) (task : TaskId) (self : Running) :
    Twins serial outline (lazy.stepEntry task self) (eager.stepEntry task self) := by
  have hentered := h.of_blind (fun server => (server.enter self.request).2) rfl rfl
  obtain ⟨halt, lazy', eager', hlazy, heager, hresumed⟩ := (hentered.resume task self).exists_eq
  have hleft : Twins serial outline (lazy'.leave ⟨lazy.bound⟩) (eager'.leave ⟨eager.bound⟩) := by
    rw [h.same bound rfl]
    exact hresumed.of_blind (·.leave ⟨lazy.bound⟩) rfl rfl
  unfold Server.stepEntry Server.bind
  dsimp only at hlazy heager ⊢
  rw [hlazy, heager]
  cases halt with
  | waits wait acts => exact hleft.setActivity _ _
  | ends outcome => exact hleft.finishEntry _ _ _

/-! ### Tasks -/

theorem stepExecution (h : Twins serial outline lazy eager) (task : TaskId) (runtime : RuntimeId)
    (execution : Execution) :
    Twins serial outline (lazy.stepExecution task runtime execution)
      (eager.stepExecution task runtime execution) := by
  have hlaunch (entry : Entry Job) {lazy eager : Server} (h : Twins serial outline lazy eager) :
      Twins serial outline (lazy.launch task runtime execution.request entry)
        (eager.launch task runtime execution.request entry) := (h.spawn _ _ _).twins
  have hlaunched := h.foldl hlaunch execution.entries
  unfold Server.stepExecution
  dsimp only
  refine (hlaunched.setActivity _ _).ite ?_
  exact (hlaunched.setActivity _ _).ite ((hlaunched.setActivity _ _).wake _)

theorem takeTurn (h : Twins serial outline lazy eager) (task : TaskId) (runtime : RuntimeId)
    (activity : Activity) :
    Twins serial outline (lazy.takeTurn task runtime activity)
      (eager.takeTurn task runtime activity) := by
  cases activity with
  | executing execution => exact h.stepExecution task runtime execution
  | running self => exact h.stepEntry task self
  | probing =>
    rw [Server.takeTurn, Server.takeTurn, h.same bound rfl]
    exact h.setActivity _ _
  | _ => exact h

theorem leaveTurn (h : Twins serial outline lazy eager) (task : TaskId) (runtime : RuntimeId) :
    Twins serial outline (lazy.leaveTurn task runtime) (eager.leaveTurn task runtime) := by
  have hleft := h.of_blind (fun server => { server with current := none }) rfl rfl
  have hagain := h.same (fun server => server.tasks[task]?.any fun task =>
    task.ready && !task.activity.isOver) rfl
  unfold Server.leaveTurn
  dsimp only at hagain ⊢
  rw [hagain]
  exact (hleft.of_blind (·.changeRuntime runtime (·.push task true)) rfl rfl).ite hleft

theorem step (h : Twins serial outline lazy eager) (task : TaskId) :
    Twins serial outline (lazy.step task) (eager.step task) := by
  have htasks := h.same Server.tasks rfl
  rcases htask : lazy.tasks[task]? with - | ⟨runtime, ready, activity⟩
  · rw [Server.step, Server.step, htasks, htask]
    exact h
  · rw [step_of_getElem? htask, step_of_getElem? (htasks ▸ htask)]
    have hentered := h.of_blind (·.enterTurn task) rfl rfl
    exact ((hentered.takeTurn task runtime activity).leaveTurn task runtime).settle

theorem runTasks (h : Twins serial outline lazy eager) (runtime : RuntimeId) (count : ℕ) :
    Twins serial outline (lazy.runTasks runtime count) (eager.runTasks runtime count) := by
  induction count generalizing lazy eager with
  | zero => exact h
  | succ count ih =>
    have hnext := h.of_blind (·.changeRuntime runtime fun _ => (lazy.runtime runtime).next.2)
      rfl rfl
    rw [Server.runTasks, Server.runTasks, h.same (·.runtime runtime) rfl]
    dsimp only
    split
    · exact hnext
    · exact ih (hnext.step _)

theorem round (h : Twins serial outline lazy eager) (runtime : RuntimeId) :
    Twins serial outline (lazy.round runtime) (eager.round runtime) := by
  have htasks := h.runTasks runtime RunQueue.roundSize
  unfold Server.round
  dsimp only
  rw [htasks.same (·.runtime runtime) rfl]
  exact (htasks.of_blind (·.changeRuntime _ _) rfl rfl).foldl
    (fun task _ _ h => h.wakeFrom (some runtime) task) _

theorem cancelTask (h : Twins serial outline lazy eager) (task : TaskId) :
    Twins serial outline (lazy.cancelTask task) (eager.cancelTask task) := by
  unfold Server.cancelTask
  rw [h.same Server.tasks rfl]
  split
  · exact h
  · next activity _ =>
    have hcancelled := h.of_blind (·.changeTask task fun task =>
      { task with ready := false, activity := activity.cancelled }) rfl rfl
    dsimp only
    split
    · exact (hcancelled.onRequest _ (Request.overlooks_abandonCall _)).twins
    · exact hcancelled

theorem shutDown (h : Twins serial outline lazy eager) (runtime : RuntimeId) :
    Alike serial outline (lazy.shutDown runtime) (eager.shutDown runtime) := by
  have hshut := h.of_blind (·.changeRuntime runtime (·.shutDown)) rfl rfl
  unfold Server.shutDown
  dsimp only
  rw [h.same (·.runtime runtime) rfl, hshut.same Server.tasks rfl]
  split
  · exact ⟨rfl, (hshut.foldl (fun task _ _ h => h.cancelTask task) _).settle⟩
  · exact ⟨rfl, h⟩

/-! ### Whatever happens -/

/-- Whatever happens but the building of a request makes twins of twins. -/
theorem happen (h : Twins serial outline lazy eager) {event : Event}
    (hevent : ∀ request, event ≠ .builds request) :
    Twins serial outline (lazy.happen event) (eager.happen event) := by
  cases event with
  | opensRegistry => exact h.of_blind (·.newRegistry.2) rfl rfl
  | opensRuntime => exact h.of_blind (·.newRuntime.2) rfl rfl
  | builds request => exact absurd rfl (hevent request)
  | clones id => exact h.whenHeld (h.of_blind (fun server => (server.clone id).2) rfl rfl)
  | moves index => exact h.of_blind (·.takeHandle index) rfl rfl
  | drops index => exact h.dropHandle index
  | enters id => exact h.whenHeld (h.of_blind (·.openScope id) rfl rfl)
  | leaves id => exact h.closeScope id
  | registers id name scope job => exact h.whenHeld (h.addEntry id name scope job).twins
  | executes id scope ambient => exact h.whenHeld (h.execute id scope ambient).twins
  | clears id => exact h.whenHeld (h.clearEntries id).twins
  | begins id wanted => exact h.whenHeld (h.startCall id wanted).twins
  | polls index => exact (h.pollKept index).twins
  | abandons index => exact (h.dropKept index).twins
  | steps task => exact h.step task
  | rounds runtime => exact h.round runtime
  | shutsDown runtime => exact (h.shutDown runtime).twins

end Twins

end Twins

end Server

end Inbound
