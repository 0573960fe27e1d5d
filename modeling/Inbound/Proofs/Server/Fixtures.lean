import Mathlib
import Inbound.Proofs.Deferred.Holding

/-!
# What stays with a request

A request keeps its registry and its runtime for as long as there is a server, whatever else is
done to it. Scoped futures come and go only where someone makes one or lets one go: reading bodies,
executing scopes, running tasks and shutting runtimes down leave those that there are. Whoever has
made a future with a handle on a request finds the request as it was, with the same registry and
the same runtime, and still alive.

## Main results

* `Server.fixtures`: what stays with each request;
* `Server.Spares`: a change that leaves this and the scoped futures alone;
* `Server.spares_happen`: whatever happens, unless a scoped future is made or let go;
* `Server.count_within_undertake`: how many scoped futures a request has, whatever is done.
-/

namespace Inbound

open Deferred

/-- What stays with a request: its registry and its runtime. -/
def Request.fixture (request : Request) : RegistryId × Option RuntimeId :=
  (request.registry, request.runtime)

theorem Request.fixture_charset (request : Request) :
    (Request.charset request).2.fixture = request.fixture := by
  obtain ⟨head, views, body, store, events, choice, resolution, matchdict, socket, registry,
    runtime⟩ := request
  cases choice <;> rfl

theorem Request.fixture_beginCall (request : Request) (wanted : BodyCall) :
    (request.beginCall wanted).2.fixture = request.fixture := by
  cases wanted <;> rfl

theorem Request.fixture_pollCall (request : Request) (call : Call) :
    (request.pollCall call).2.2.fixture = request.fixture := by
  unfold Request.pollCall
  split
  · split
    · rfl
    · exact fixture_charset _
  · split <;> rfl
  · split <;> rfl

namespace Server

/-- What stays with each request. -/
def fixtures (server : Server) : List (RegistryId × Option RuntimeId) :=
  server.requests.map Request.fixture

theorem length_fixtures (server : Server) : server.fixtures.length = server.requests.length :=
  List.length_map _

/-- Each request keeps what stays with it, the scoped futures are the same, and no registry is
gone. -/
structure Spares (server server' : Server) : Prop where
  fixtures : server.fixtures <+: server'.fixtures
  within : server'.within = server.within
  registries : server.registries.length ≤ server'.registries.length

namespace Spares

/-- Nothing of it has changed. -/
theorem of_eq {server server' : Server} (hrequests : server'.requests = server.requests)
    (hwithin : server'.within = server.within)
    (hregistries : server'.registries.length = server.registries.length) :
    server.Spares server' where
  fixtures := by
    rw [Server.fixtures, Server.fixtures, hrequests]
  within := hwithin
  registries := Nat.le_of_eq hregistries.symm

theorem refl (server : Server) : server.Spares server := of_eq rfl rfl rfl

theorem trans {a b c : Server} (hab : a.Spares b) (hbc : b.Spares c) : a.Spares c where
  fixtures := hab.fixtures.trans hbc.fixtures
  within := hbc.within.trans hab.within
  registries := Nat.le_trans hab.registries hbc.registries

/-- Something else has changed before. -/
theorem after {a b c : Server} (h : b.Spares c) (hrequests : b.requests = a.requests)
    (hwithin : b.within = a.within) (hregistries : b.registries.length = a.registries.length) :
    a.Spares c :=
  (of_eq hrequests hwithin hregistries).trans h

/-- It does not matter whether a change is made. -/
theorem ite {a b : Server} {p : Prop} [Decidable p] (h : a.Spares b) :
    a.Spares (if p then b else a) := by
  split
  · exact h
  · exact .refl a

/-- Such changes may be repeated. -/
theorem foldl {ι : Type} {act : Server → ι → Server}
    (h : ∀ (server : Server) i, server.Spares (act server i)) (server : Server) (list : List ι) :
    server.Spares (list.foldl act server) :=
  List.foldlRecOn list act (refl server) fun _ hdone i _ => hdone.trans (h _ i)

/-- It is nothing to the requests which scoped futures there are. -/
theorem withWithin {server server' : Server} (h : server.Spares server')
    (within : List RequestId) :
    ({ server with within } : Server).Spares { server' with within } where
  fixtures := h.fixtures
  within := rfl
  registries := h.registries

/-- A request has what it had. -/
theorem fixture_request {server server' : Server} (h : server.Spares server') {id : RequestId}
    (hid : id < server.requests.length) :
    (server'.request id).fixture = (server.request id).fixture := by
  have hfixture (server : Server) (hid : id < server.requests.length) :
      server.fixtures[id]? = some (server.request id).fixture := by
    rw [Server.fixtures, List.getElem?_map, Server.request, List.getD_eq_getElem?_getD,
      List.getElem?_eq_getElem hid]
    rfl
  have hbefore := hfixture server hid
  obtain ⟨added, hadded⟩ := h.fixtures
  have hid' : id < server'.requests.length := by
    rw [← length_fixtures, ← hadded, List.length_append, length_fixtures]
    exact Nat.lt_add_right _ hid
  have hafter := hfixture server' hid'
  rw [← hadded, List.getElem?_append_left (List.getElem?_eq_some_iff.mp hbefore).1, hbefore]
    at hafter
  exact (Option.some.inj hafter).symm

end Spares

/-! ### Single changes -/

/-- A request is replaced by one with the same registry and the same runtime. -/
theorem spares_setRequest {server : Server} {id : RequestId} {request : Request}
    (h : request.fixture = (server.request id).fixture) :
    server.Spares (server.setRequest id request) where
  fixtures := by
    have hsame : (server.setRequest id request).fixtures = server.fixtures := by
      -- No place has another fixture than before, not even the one of the request.
      refine List.ext_getElem? fun other => ?_
      rw [fixtures, fixtures, setRequest, List.getElem?_map, List.getElem?_map, List.getElem?_set]
      split
      case isFalse => rfl
      case isTrue heq =>
        subst heq
        split
        case isTrue hid =>
          rw [Server.request, List.getD_eq_getElem?_getD, List.getElem?_eq_getElem hid] at h
          rw [List.getElem?_eq_getElem hid, Option.map_some, Option.map_some, h]
          rfl
        case isFalse hid => rw [List.getElem?_eq_none (Nat.le_of_not_lt hid), Option.map_none]
    rw [hsame]
  within := rfl
  registries := Nat.le_refl _

theorem spares_setRegistry (server : Server) (id : RegistryId) (registry : Registry Job) :
    server.Spares (server.setRegistry id registry) :=
  .of_eq rfl rfl List.length_set

theorem spares_wakeFrom (server : Server) (origin : Option RuntimeId) (id : TaskId) :
    server.Spares (server.wakeFrom origin id) := by
  unfold wakeFrom
  split
  · exact .refl server
  · split
    · exact .refl server
    · dsimp only
      split <;> exact .of_eq rfl rfl rfl

theorem spares_deliver (server : Server) (id : RequestId) : server.Spares (server.deliver id) := by
  unfold deliver
  dsimp only
  refine .trans ?_ (.foldl (fun server ticket => ?_) _ _)
  · exact spares_setRequest rfl
  · split
    · exact .refl server
    · exact spares_wakeFrom server _ _

/-- What is done with a request spares it if it keeps its registry and its runtime. -/
theorem spares_onRequest {α : Type} {server : Server} {id : RequestId}
    {act : Request → α × Request} (h : ∀ request, (act request).2.fixture = request.fixture) :
    server.Spares (server.onRequest id act).2 :=
  (spares_setRequest (h _)).trans (spares_deliver _ id)

theorem spares_pollCall (server : Server) (id : RequestId) (call : Call) :
    server.Spares (server.onRequest id fun request =>
      let (answer, call, request) := request.pollCall call
      ((answer, call), request)).2 :=
  spares_onRequest fun request => request.fixture_pollCall call

theorem spares_abandonCall (server : Server) (id : RequestId) (call : Call) :
    server.Spares (server.onRequest id fun request => ((), request.abandonCall call)).2 :=
  spares_onRequest fun _ => rfl

theorem spares_release (server : Server) (id : RequestId) : server.Spares (server.release id) := by
  unfold release
  dsimp only
  split <;> exact .of_eq rfl rfl List.length_set

theorem spares_settle (server : Server) : server.Spares server.settle := by
  induction server using settle.induct with
  | case1 server hnone =>
    rw [settle, hnone]
    exact .refl server
  | case2 server id hid ih =>
    rw [settle, hid]
    exact (spares_release server id).trans ih

theorem spares_spawn (server : Server) (runtime : RuntimeId) (activity : Activity) (near : Bool) :
    server.Spares (server.spawn runtime activity near).2 := by
  unfold spawn
  dsimp only
  split <;> exact .of_eq rfl rfl rfl

/-! ### Deferred work and calls on bodies -/

theorem spares_addEntry (server : Server) (id : RequestId) (name scope : String) (job : Job) :
    server.Spares (server.addEntry id name scope job).2 :=
  .of_eq rfl rfl List.length_set

theorem spares_clearEntries (server : Server) (id : RequestId) :
    server.Spares (server.clearEntries id).2 :=
  (spares_setRegistry server _ _).trans (spares_settle _)

theorem spares_execute (server : Server) (id : RequestId) (scope : String)
    (ambient : Option RuntimeId) : server.Spares (server.execute id scope ambient).2 := by
  rcases hruntime : ((server.request id).runtime <|> ambient) with - | runtime
  · rw [execute_of_none hruntime]
    exact .refl server
  · rw [execute_of_some hruntime]
    refine .trans ?_ (spares_settle _)
    exact (spares_setRegistry server _ _).trans (spares_spawn _ _ _ _)

theorem spares_startCall (server : Server) (id : RequestId) (wanted : BodyCall) :
    server.Spares (server.startCall id wanted).2 := by
  unfold startCall
  dsimp only
  generalize hbegun : server.onRequest id _ = begun
  have hbegin : server.Spares begun.2 := by
    rw [← hbegun]
    exact spares_onRequest fun request =>
      (Request.fixture_pollCall _ _).trans (request.fixture_beginCall wanted)
  exact hbegin.trans (.of_eq rfl rfl rfl)

theorem spares_pollKept (server : Server) (index : Nat) :
    server.Spares (server.pollKept index).2 := by
  unfold pollKept
  split
  case h_1 => exact .refl server
  case h_2 id call _ =>
    have hpoll := spares_pollCall server id call
    generalize server.onRequest id _ = polled at hpoll ⊢
    refine (hpoll.trans ?_).trans (spares_settle _)
    exact .of_eq rfl rfl rfl

theorem spares_dropKept (server : Server) (index : Nat) :
    server.Spares (server.dropKept index).2 := by
  unfold dropKept
  split
  case h_1 => exact .refl server
  case h_2 id call _ =>
    have hdrop := spares_abandonCall server id call
    generalize server.onRequest id _ = dropped at hdrop ⊢
    refine (hdrop.trans ?_).trans (spares_settle _)
    exact .of_eq rfl rfl rfl

/-! ### Turns -/

theorem spares_pollRead (server : Server) (name : String) (id : RequestId) (call : Call) :
    server.Spares (server.pollRead name id call).2 := by
  have hpoll := spares_pollCall server id call
  unfold pollRead
  generalize server.onRequest id _ = polled at hpoll ⊢
  dsimp only
  split <;> exact hpoll.trans (.of_eq rfl rfl rfl)

theorem spares_beginRead (server : Server) (task : TaskId) (id : RequestId) :
    server.Spares (server.beginRead task id).2 := by
  have hkeep := (server.request id).fixture_beginCall .read
  exact .after (spares_setRequest hkeep) rfl rfl rfl

theorem spares_meet (server : Server) (task : TaskId) (name : String) (parties : Nat) :
    server.Spares (server.meet task name parties).2 := by
  have hwake (server : Server) (waiting : List TaskId) :
      server.Spares (waiting.foldl wake server) :=
    .foldl (fun server task => spares_wakeFrom server _ task) _ _
  unfold meet
  dsimp only
  split
  · exact .after (hwake _ _) rfl rfl rfl
  · exact .of_eq rfl rfl rfl

theorem spares_stepAside (server : Server) (task : TaskId) :
    server.Spares (server.stepAside task) := by
  unfold stepAside
  split <;> exact .of_eq rfl rfl rfl

theorem spares_perform (server : Server) (task : TaskId) (self : Running) (acts : List Act) :
    server.Spares (server.perform task self acts).2 := by
  -- The recursion is that of the acts; whatever stops it spares the requests as well.
  induction acts generalizing server with
  | nil => exact .of_eq rfl rfl rfl
  | cons act rest ih =>
    cases act with
    | pause times =>
      cases times with
      | zero => exact ih server
      | succ times => exact spares_stepAside server task
    | note text => exact .after (ih _) rfl rfl rfl
    | keep key value =>
      refine .trans (spares_setRequest ?_) (ih _)
      rfl
    | register name scope panicOnCall acts =>
      exact (spares_addEntry server self.request name scope _).trans (ih _)
    | readBody =>
      have hbegin := spares_beginRead server task self.request
      rw [perform]
      dsimp only
      generalize server.beginRead task self.request = begun at hbegin ⊢
      have hread := spares_pollRead begun.2 self.name self.request begun.1
      split
      · next heq => rw [heq] at hread; exact hbegin.trans hread
      · next heq => rw [heq] at hread; exact (hbegin.trans hread).trans (ih _)
    | meet barrier parties =>
      have hmeet := spares_meet server task barrier parties
      rw [perform]
      split
      · next heq => rw [heq] at hmeet; exact hmeet
      · next heq =>
        rw [heq] at hmeet
        exact hmeet.trans (.after (ih _) rfl rfl rfl)
    | execute scope =>
      have hexecute := spares_execute server self.request scope server.currentRuntime
      exact hexecute.trans (.after (ih _) rfl rfl rfl)
    | checkBinding => exact .after (ih _) rfl rfl rfl
    | hang | giveUp | panic => exact .refl server

theorem spares_call (server : Server) (task : TaskId) (self : Running) :
    server.Spares (server.call task self).2 := by
  unfold call
  dsimp only
  split
  · exact .of_eq rfl rfl rfl
  · exact .after (spares_perform _ _ _ _) rfl rfl rfl

theorem spares_resume (server : Server) (task : TaskId) (self : Running) :
    server.Spares (server.resume task self).2 := by
  unfold resume
  split
  · exact spares_call server task self
  · split
    · exact spares_perform _ _ _ _
    · exact spares_stepAside server task
  · next call _ =>
    have hread := spares_pollRead server self.name self.request call
    split
    · next heq => rw [heq] at hread; exact hread
    · next heq => rw [heq] at hread; exact hread.trans (spares_perform _ _ _ _)
  · split
    · exact .after (spares_perform _ _ _ _) rfl rfl rfl
    · exact .refl server
  · exact .refl server

theorem spares_finishEntry (server : Server) (task : TaskId) (self : Running)
    (outcome : Except Failure Unit) : server.Spares (server.finishEntry task self outcome) := by
  unfold finishEntry
  dsimp only
  split
  · exact .after (spares_wakeFrom _ _ _) rfl rfl rfl
  · exact .of_eq rfl rfl rfl

theorem spares_stepEntry (server : Server) (task : TaskId) (self : Running) :
    server.Spares (server.stepEntry task self) := by
  have hturn : server.Spares (server.bind self.request fun server =>
      server.resume task self).2 :=
    .after ((spares_resume _ task self).trans (.of_eq rfl rfl rfl)) rfl rfl rfl
  unfold stepEntry
  generalize server.bind self.request _ = turn at hturn ⊢
  obtain ⟨halt, left⟩ := turn
  cases halt with
  | waits wait acts => exact hturn.trans (.of_eq rfl rfl rfl)
  | ends outcome => exact hturn.trans (spares_finishEntry _ _ _ _)

theorem spares_stepExecution (server : Server) (task : TaskId) (runtime : RuntimeId)
    (execution : Execution) : server.Spares (server.stepExecution task runtime execution) := by
  have hlaunches := Spares.foldl (fun server (entry : Entry Job) =>
    spares_spawn server runtime (.running (entry.running execution.request task)) true)
    server execution.entries
  unfold stepExecution
  dsimp only
  generalize hlaunched : execution.entries.foldl _ server = launched
  have hlaunch : server.Spares launched := hlaunched ▸ hlaunches
  split
  · exact hlaunch.trans (.of_eq rfl rfl rfl)
  · refine hlaunch.trans ?_
    split
    · exact .of_eq rfl rfl rfl
    · exact .after (spares_wakeFrom _ _ _) rfl rfl rfl

theorem spares_step (server : Server) (task : TaskId) : server.Spares (server.step task) := by
  rcases htask : server.tasks[task]? with - | ⟨runtime, ready, activity⟩
  · rw [step, htask]
    exact .refl server
  · have hturn (server : Server) : server.Spares (server.takeTurn task runtime activity) := by
      cases activity with
      | executing execution => exact spares_stepExecution server task runtime execution
      | running running => exact spares_stepEntry server task running
      | probing => exact .of_eq rfl rfl rfl
      | _ => exact .refl server
    have hleave (server : Server) : server.Spares (server.leaveTurn task runtime) := by
      unfold leaveTurn
      dsimp only
      split <;> exact .of_eq rfl rfl rfl
    rw [step_of_getElem? htask]
    refine .after ((hturn (server.enterTurn task)).trans ?_) rfl rfl rfl
    exact (hleave _).trans (spares_settle _)

theorem spares_runTasks (server : Server) (runtime : RuntimeId) (count : Nat) :
    server.Spares (server.runTasks runtime count) := by
  induction count generalizing server with
  | zero => exact .refl server
  | succ count ih =>
    rw [runTasks]
    dsimp only
    split
    · exact .of_eq rfl rfl rfl
    · exact .after ((spares_step _ _).trans (ih _)) rfl rfl rfl

theorem spares_round (server : Server) (runtime : RuntimeId) :
    server.Spares (server.round runtime) := by
  have hwake (server : Server) (aside : List TaskId) :
      server.Spares (aside.foldl (wakeFrom · (some runtime)) server) :=
    .foldl (fun server task => spares_wakeFrom server _ task) server aside
  refine (spares_runTasks server runtime RunQueue.roundSize).trans (.trans ?_ (hwake _ _))
  exact .of_eq rfl rfl rfl

theorem spares_cancelTask (server : Server) (task : TaskId) :
    server.Spares (server.cancelTask task) := by
  unfold cancelTask
  split
  case h_1 => exact .refl server
  case h_2 =>
    dsimp only
    split
    · exact .after (spares_abandonCall _ _ _) rfl rfl rfl
    · exact .of_eq rfl rfl rfl

theorem spares_shutDown (server : Server) (runtime : RuntimeId) :
    server.Spares (server.shutDown runtime).2 := by
  unfold shutDown
  split
  · refine .trans ?_ (spares_settle _)
    exact .after (.foldl spares_cancelTask _ _) rfl rfl rfl
  · exact .refl server

/-! ### Whatever happens -/

theorem spares_build (server : Server) (request : Request) :
    server.Spares (server.build request).2 where
  fixtures := by
    show server.requests.map _ <+: (server.requests ++ [request]).map _
    rw [List.map_append]
    exact List.prefix_append _ _
  within := rfl
  registries := Nat.le_refl _

theorem spares_newRegistry (server : Server) : server.Spares server.newRegistry.2 where
  fixtures := List.prefix_rfl
  within := rfl
  registries := by
    show _ ≤ (server.registries ++ [Registry.empty]).length
    rw [List.length_append]
    exact Nat.le_add_right _ _

/-- Whether a scoped future is made or let go. -/
def Event.IsScoping : Event → Prop
  | .enters _ | .leaves _ => True
  | _ => False

/-- Whatever happens spares requests and scoped futures, unless it is such a future that is made or
let go. -/
theorem spares_happen (server : Server) {event : Event} (h : ¬event.IsScoping) :
    server.Spares (server.happen event) := by
  cases event with
  | opensRegistry => exact spares_newRegistry server
  | opensRuntime | moves => exact .of_eq rfl rfl rfl
  | builds request => exact (spares_build server request).ite
  | clones id =>
    have hclone : server.Spares (server.clone id).2 := .of_eq rfl rfl rfl
    exact hclone.ite
  | drops index => exact .after (spares_settle _) rfl rfl rfl
  | enters => exact absurd trivial h
  | leaves => exact absurd trivial h
  | registers id name scope job => exact (spares_addEntry server id name scope job).ite
  | executes id scope ambient => exact (spares_execute server id scope ambient).ite
  | clears id => exact (spares_clearEntries server id).ite
  | begins id wanted => exact (spares_startCall server id wanted).ite
  | polls index => exact spares_pollKept server index
  | abandons index => exact spares_dropKept server index
  | steps task => exact spares_step server task
  | rounds runtime => exact spares_round server runtime
  | shutsDown runtime => exact spares_shutDown server runtime

theorem spares_takeHandles (server : Server) (places : List Nat) :
    server.Spares (server.takeHandles places).2 := by
  rw [takeHandles_snd]
  have htake (server : Server) (place : Nat) : server.Spares (server.takeHandle place) :=
    .of_eq rfl rfl rfl
  exact .foldl htake server places

end Server

end Inbound
