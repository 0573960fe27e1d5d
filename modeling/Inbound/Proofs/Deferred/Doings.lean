import Inbound.Proofs.Deferred.Dealings

/-!
# What the tasks are at

Most of what a server does leaves every task at what it is doing: it wakes tasks, reads bodies,
releases requests. New tasks come when a scope is executed, and runtimes and the log only grow; the
request that is bound stays bound. Such changes are not told apart here; what a task makes of its
own turn is said elsewhere.

## Main results

* `Server.doings`: what every task does, and on which runtime;
* `Server.Grows`: a change that leaves all tasks at what they do;
* `Server.grows_onRequest`, `Server.grows_settle`, `Server.grows_execute` and so on: such changes.
-/

namespace Inbound

open Deferred

/-- No entry runs, and nothing has been noted. -/
def Activity.IsIdle : Activity → Prop
  | .running _ | .probed _ => False
  | _ => True

namespace Server

/-- What every task does, and the runtime that it runs on. -/
def doings (server : Server) : List (RuntimeId × Activity) :=
  server.tasks.map fun task => (task.runtime, task.activity)

theorem getElem?_doings (server : Server) (id : TaskId) :
    server.doings[id]? = server.tasks[id]?.map fun task => (task.runtime, task.activity) :=
  List.getElem?_map

theorem activity?_eq_doings (server : Server) (id : TaskId) :
    server.activity? id = server.doings[id]?.map Prod.snd := by
  rw [getElem?_doings, Option.map_map]
  rfl

theorem length_doings (server : Server) : server.doings.length = server.tasks.length :=
  List.length_map _

/-! ### Changes -/

/-- All tasks are left at what they do, and those that are new run no entries; the runtimes that
are alive stay alive, what is in the log stays there, and the same request is bound. -/
structure Grows (server server' : Server) : Prop where
  /-- What the tasks do. -/
  doings : ∃ added, server'.doings = server.doings ++ added ∧ ∀ doing ∈ added, doing.2.IsIdle
  /-- The runtimes that are alive. -/
  alive : ∀ id, (server.runtime id).alive → (server'.runtime id).alive
  /-- The log. -/
  log : server.log <+: server'.log
  /-- The request that is bound. -/
  bound : server'.bound = server.bound

namespace Grows

/-- Nothing of it has changed. -/
theorem of_eq {server server' : Server} (htasks : server'.doings = server.doings)
    (halive : ∀ id, (server'.runtime id).alive = (server.runtime id).alive)
    (hlog : server'.log = server.log) (hbound : server'.bound = server.bound) :
    server.Grows server' where
  doings := ⟨[], by rw [htasks, List.append_nil], by rintro _ ⟨⟩⟩
  alive id h := by rw [halive, h]
  log := by simp only [hlog, List.prefix_rfl]
  bound := hbound

theorem refl (server : Server) : server.Grows server := of_eq rfl (fun _ => rfl) rfl rfl

theorem trans {a b c : Server} (hab : a.Grows b) (hbc : b.Grows c) : a.Grows c where
  doings := by
    obtain ⟨added, hadded, hidle⟩ := hab.doings
    obtain ⟨added', hadded', hidle'⟩ := hbc.doings
    refine ⟨added ++ added', by rw [hadded', hadded, List.append_assoc], fun doing hdoing => ?_⟩
    exact (List.mem_append.mp hdoing).elim (hidle doing) (hidle' doing)
  alive id h := hbc.alive id (hab.alive id h)
  log := hab.log.trans hbc.log
  bound := hbc.bound.trans hab.bound

/-- It does not matter whether a change is made. -/
theorem ite {a b : Server} {p : Prop} [Decidable p] (h : a.Grows b) :
    a.Grows (if p then b else a) := by
  split
  · exact h
  · exact .refl a

/-- Such changes may be repeated. -/
theorem foldl {ι : Type} {act : Server → ι → Server}
    (h : ∀ (server : Server) i, server.Grows (act server i)) (server : Server) (list : List ι) :
    server.Grows (list.foldl act server) :=
  List.foldlRecOn list act (refl server) fun _ hdone i _ => hdone.trans (h _ i)

/-- A task is at what it was at. -/
theorem getElem?_doings {server server' : Server} (h : server.Grows server') {id : TaskId}
    {doing : RuntimeId × Activity} (hdoing : server.doings[id]? = some doing) :
    server'.doings[id]? = some doing := by
  obtain ⟨added, hadded, -⟩ := h.doings
  rw [hadded, List.getElem?_append_left (List.getElem?_eq_some_iff.mp hdoing).1]
  exact hdoing

end Grows

/-! ### What leaves the tasks alone -/

/-- A runtime is changed, and is alive just if it was. -/
theorem alive_changeRuntime {change : RunQueue → RunQueue}
    (h : ∀ queue, (change queue).alive = queue.alive) (server : Server) (id other : RuntimeId) :
    ((server.changeRuntime id change).runtime other).alive = (server.runtime other).alive := by
  rw [runtime, runtime, changeRuntime, List.getD_eq_getElem?_getD, List.getD_eq_getElem?_getD,
    List.getElem?_modify]
  cases server.runtimes[other]? with
  | none => rfl
  | some queue => by_cases heq : id = other <;> simp [heq, h]

theorem grows_changeRuntime {change : RunQueue → RunQueue}
    (h : ∀ queue, (change queue).alive = queue.alive) (server : Server) (id : RuntimeId) :
    server.Grows (server.changeRuntime id change) :=
  .of_eq rfl (alive_changeRuntime h server id) rfl rfl

/-- The queue of a runtime is replaced by one that is alive just if it was. -/
theorem grows_setRuntime {server : Server} {queue : RunQueue} {id : RuntimeId}
    (hqueue : queue.alive = (server.runtime id).alive) :
    server.Grows (server.changeRuntime id fun _ => queue) := by
  refine .of_eq rfl (fun other => ?_) rfl rfl
  rw [runtime, changeRuntime, List.getD_eq_getElem?_getD, List.getElem?_modify]
  by_cases heq : id = other
  · subst heq
    rw [runtime, List.getD_eq_getElem?_getD] at hqueue ⊢
    cases hfound : server.runtimes[id]? with
    | none => rfl
    | some found =>
      rw [hfound] at hqueue
      simpa using hqueue
  · rw [runtime, List.getD_eq_getElem?_getD]
    cases server.runtimes[other]? <;> simp [heq]

theorem alive_push (queue : RunQueue) (task : TaskId) (near : Bool) :
    (queue.push task near).alive = queue.alive := by
  unfold RunQueue.push
  split
  · rfl
  · split <;> rfl

theorem grows_push (server : Server) (id : RuntimeId) (task : TaskId) (near : Bool) :
    server.Grows (server.changeRuntime id (·.push task near)) :=
  grows_changeRuntime (fun queue => alive_push queue task near) server id

theorem alive_putAside (queue : RunQueue) (task : TaskId) :
    (queue.putAside task).alive = queue.alive := by
  unfold RunQueue.putAside
  split <;> rfl

theorem alive_next (queue : RunQueue) : queue.next.2.alive = queue.alive := by
  unfold RunQueue.next
  dsimp only
  split <;> first | rfl | split <;> rfl

theorem doings_changeTask {server : Server} {id : TaskId} {change : Task → Task}
    (hruntime : ∀ task, (change task).runtime = task.runtime)
    (hactivity : ∀ task, (change task).activity = task.activity) :
    (server.changeTask id change).doings = server.doings := by
  refine List.ext_getElem? fun other => ?_
  rw [getElem?_doings, getElem?_doings, changeTask, List.getElem?_modify]
  cases server.tasks[other]? with
  | none => rfl
  | some task => by_cases heq : id = other <;> simp [heq, hruntime, hactivity]

theorem grows_write (server : Server) (line : String) : server.Grows (server.write line) :=
  ⟨(Grows.refl server).doings, fun _ => id, List.prefix_append _ _, rfl⟩

theorem grows_wakeFrom (server : Server) (origin : Option RuntimeId) (id : TaskId) :
    server.Grows (server.wakeFrom origin id) := by
  -- That a task is ready is no part of what it does.
  have hready : server.Grows (server.changeTask id fun task => { task with ready := true }) :=
    .of_eq (doings_changeTask (fun _ => rfl) fun _ => rfl) (fun _ => rfl) rfl rfl
  unfold wakeFrom
  split
  · exact .refl server
  · split
    · exact .refl server
    · dsimp only
      split
      · exact hready
      · exact hready.trans (grows_push _ _ _ _)

theorem grows_wake (server : Server) (id : TaskId) : server.Grows (server.wake id) :=
  grows_wakeFrom _ _ _

theorem grows_deliver (server : Server) (id : RequestId) : server.Grows (server.deliver id) := by
  unfold deliver
  dsimp only
  refine .trans ?_ (.foldl (fun server ticket => ?_) _ _)
  · exact .of_eq rfl (fun _ => rfl) rfl rfl
  · split
    · exact .refl server
    · exact grows_wake server _

theorem grows_onRequest {α : Type} (server : Server) (id : RequestId)
    (act : Request → α × Request) : server.Grows (server.onRequest id act).2 := by
  unfold onRequest
  dsimp only
  refine .trans ?_ (grows_deliver _ id)
  exact .of_eq rfl (fun _ => rfl) rfl rfl

theorem grows_stepAside (server : Server) (task : TaskId) :
    server.Grows (server.stepAside task) := by
  unfold stepAside
  split
  · exact .refl server
  · exact grows_changeRuntime (fun queue => alive_putAside queue _) _ _

theorem grows_meet (server : Server) (task : TaskId) (name : String) (parties : Nat) :
    server.Grows (server.meet task name parties).2 := by
  unfold meet
  dsimp only
  split
  case h_1 waiting _ =>
    have hwake (server : Server) : server.Grows (waiting.foldl wake server) := .foldl grows_wake _ _
    refine .trans ?_ (hwake _)
    exact .of_eq rfl (fun _ => rfl) rfl rfl
  case h_2 => exact .of_eq rfl (fun _ => rfl) rfl rfl

theorem grows_pollRead (server : Server) (name : String) (id : RequestId) (call : Call) :
    server.Grows (server.pollRead name id call).2 := by
  unfold pollRead
  dsimp only
  generalize hpolled : server.onRequest id _ = polled
  have hpoll : server.Grows polled.2 := hpolled ▸ grows_onRequest server id _
  split
  · exact hpoll
  · exact hpoll.trans (grows_write _ _)
  · exact hpoll.trans (grows_write _ _)
  · exact hpoll

theorem grows_release (server : Server) (id : RequestId) : server.Grows (server.release id) := by
  unfold release
  dsimp only
  split <;> exact .of_eq rfl (fun _ => rfl) rfl rfl

theorem grows_settle (server : Server) : server.Grows server.settle := by
  -- One release after the other, and none of them ends a task.
  induction server using settle.induct with
  | case1 server hnone =>
    rw [settle, hnone]
    exact .refl server
  | case2 server id hid ih =>
    rw [settle, hid]
    exact (grows_release server id).trans ih

theorem grows_newRuntime (server : Server) : server.Grows server.newRuntime.2 where
  doings := (Grows.refl server).doings
  alive id h := by
    have hid : id < server.runtimes.length := by
      by_contra hid
      rw [runtime, List.getD_eq_getElem?_getD, List.getElem?_eq_none (Nat.le_of_not_lt hid)] at h
      cases h
    rw [runtime, List.getD_eq_getElem?_getD] at h ⊢
    rwa [newRuntime, List.getElem?_append_left hid]
  log := List.prefix_rfl
  bound := rfl

theorem grows_pollKept (server : Server) (index : Nat) :
    server.Grows (server.pollKept index).2 := by
  unfold pollKept
  split
  case h_1 => exact .refl server
  case h_2 id call _ =>
    dsimp only
    generalize hpolled : server.onRequest id _ = polled
    have hpoll : server.Grows polled.2 := hpolled ▸ grows_onRequest server id _
    refine (hpoll.trans ?_).trans (grows_settle _)
    exact .of_eq rfl (fun _ => rfl) rfl rfl

theorem grows_dropKept (server : Server) (index : Nat) :
    server.Grows (server.dropKept index).2 := by
  unfold dropKept
  split
  case h_1 => exact .refl server
  case h_2 id call _ =>
    dsimp only
    generalize hdropped : server.onRequest id _ = dropped
    have hdrop : server.Grows dropped.2 := hdropped ▸ grows_onRequest server id _
    refine (hdrop.trans ?_).trans (grows_settle _)
    exact .of_eq rfl (fun _ => rfl) rfl rfl

theorem grows_startCall (server : Server) (id : RequestId) (wanted : BodyCall) :
    server.Grows (server.startCall id wanted).2 := by
  unfold startCall
  dsimp only
  generalize hbegun : server.onRequest id _ = begun
  have hbegin : server.Grows begun.2 := hbegun ▸ grows_onRequest server id _
  refine hbegin.trans ?_
  exact .of_eq rfl (fun _ => rfl) rfl rfl

/-! ### What makes new tasks -/

/-- There is a new task, and it does what it was made for if its runtime is alive. -/
theorem doings_spawn (server : Server) (runtime : RuntimeId) (activity : Activity) (near : Bool) :
    (server.spawn runtime activity near).2.doings = server.doings ++
      [(runtime, if (server.runtime runtime).alive then activity else activity.cancelled)] := by
  unfold spawn
  dsimp only
  split <;> exact List.map_append

theorem alive_spawn (server : Server) (runtime : RuntimeId) (activity : Activity) (near : Bool)
    (id : RuntimeId) :
    ((server.spawn runtime activity near).2.runtime id).alive = (server.runtime id).alive := by
  unfold spawn
  dsimp only
  split
  · exact alive_changeRuntime (fun queue => alive_push queue _ _) _ _ _
  · rfl

theorem log_spawn (server : Server) (runtime : RuntimeId) (activity : Activity) (near : Bool) :
    (server.spawn runtime activity near).2.log = server.log := by
  unfold spawn
  dsimp only
  split <;> rfl

theorem bound_spawn (server : Server) (runtime : RuntimeId) (activity : Activity) (near : Bool) :
    (server.spawn runtime activity near).2.bound = server.bound := by
  unfold spawn
  dsimp only
  split <;> rfl

/-- A new task that runs no entry leaves the others at what they do. -/
theorem grows_spawn (server : Server) (runtime : RuntimeId) {activity : Activity} (near : Bool)
    (h : activity.IsIdle) : server.Grows (server.spawn runtime activity near).2 where
  doings := by
    refine ⟨_, doings_spawn server runtime activity near, fun doing hdoing => ?_⟩
    rw [List.mem_singleton.mp hdoing]
    split
    · exact h
    · cases activity <;> trivial
  alive id halive := by rwa [alive_spawn]
  log := by simp only [log_spawn, List.prefix_rfl]
  bound := bound_spawn server runtime activity near

/-- The new task executes what was pending, or is cut off from it if its runtime is not alive. -/
theorem doings_handOver (server : Server) (id : RequestId) (scope : String) (runtime : RuntimeId) :
    (server.handOver id scope runtime).doings = server.doings ++
      [(runtime, if (server.runtime runtime).alive then
        .executing ⟨id, ((server.registry (server.request id).registry).take ⟨id, scope⟩).1, 0, 0,
          .start scope⟩
      else .executed .lost)] :=
  doings_spawn _ _ _ _

theorem grows_handOver (server : Server) (id : RequestId) (scope : String) (runtime : RuntimeId) :
    server.Grows (server.handOver id scope runtime) := by
  have hregistry (registry : Registry Job) :
      server.Grows (server.setRegistry (server.request id).registry registry) :=
    .of_eq rfl (fun _ => rfl) rfl rfl
  exact (hregistry _).trans (grows_spawn _ _ _ trivial)

theorem grows_execute (server : Server) (id : RequestId) (scope : String)
    (ambient : Option RuntimeId) : server.Grows (server.execute id scope ambient).2 := by
  rcases hruntime : ((server.request id).runtime <|> ambient) with - | runtime
  · rw [execute_of_none hruntime]
    exact .refl server
  · rw [execute_of_some hruntime]
    exact (grows_handOver server id scope runtime).trans (grows_settle _)

/-! ### Turns -/

theorem doings_changeTask_set {server : Server} {id : TaskId} {change : Task → Task}
    {runtime : RuntimeId} {activity activity' : Activity}
    (h : server.doings[id]? = some (runtime, activity))
    (hruntime : ∀ task, (change task).runtime = task.runtime)
    (hactivity : ∀ task, (change task).activity = activity') :
    (server.changeTask id change).doings = server.doings.set id (runtime, activity') := by
  refine List.ext_getElem? fun other => ?_
  rw [getElem?_doings, List.getElem?_set, changeTask, List.getElem?_modify]
  by_cases heq : id = other
  · subst heq
    rw [if_pos rfl, if_pos (List.getElem?_eq_some_iff.mp h).1]
    rw [getElem?_doings] at h
    obtain ⟨task, htask, hview⟩ := Option.map_eq_some_iff.mp h
    cases hview
    simp [htask, hruntime, hactivity]
  · rw [if_neg heq, getElem?_doings]
    cases server.tasks[other]? <;> simp [heq]

theorem doings_setActivity {server : Server} {id : TaskId} {runtime : RuntimeId}
    {activity : Activity} (h : server.doings[id]? = some (runtime, activity))
    (activity' : Activity) :
    (server.setActivity id activity').doings = server.doings.set id (runtime, activity') :=
  doings_changeTask_set h (fun _ => rfl) fun _ => rfl

theorem grows_enterTurn (server : Server) (task : TaskId) :
    server.Grows (server.enterTurn task) := by
  have hready (server : Server) :
      (server.changeTask task fun task => { task with ready := false }).doings = server.doings :=
    doings_changeTask (fun _ => rfl) fun _ => rfl
  exact .of_eq (hready _) (fun _ => rfl) rfl rfl

theorem grows_leaveTurn (server : Server) (task : TaskId) (runtime : RuntimeId) :
    server.Grows (server.leaveTurn task runtime) := by
  unfold leaveTurn
  dsimp only
  split
  · refine .trans ?_ (grows_push _ _ _ _)
    exact .of_eq rfl (fun _ => rfl) rfl rfl
  · exact .of_eq rfl (fun _ => rfl) rfl rfl

end Server

end Inbound
