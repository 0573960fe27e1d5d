import Inbound.Proofs.Deferred.Reporting

/-!
# What is bound stays bound

Whatever happens to a server, the same request is bound afterwards as before. Requests come and go,
scopes are executed, runtimes go round; where an entry takes its turn, its request is bound for as
long as the turn takes, and then what was bound before is bound again. A task that looks at the
bound request in its turn sees the one that is bound where its runtime is let run.

## Main results

* `Server.Sees`: the same request is bound, and tasks that have looked have seen it;
* `Server.sees_stepEntry`: the turn of an entry, which has another request bound;
* `Server.probe_fst`: what a task sees that has just been spawned;
* `Server.sees_happen`: whatever happens.
-/

namespace Inbound

open Deferred

/-- An activity of which nothing is known that a task has seen. -/
def Activity.HasNotLooked (activity : Activity) : Prop :=
  ∀ seen, activity ≠ .probed seen

theorem Activity.IsIdle.hasNotLooked {activity : Activity} (h : activity.IsIdle) :
    activity.HasNotLooked := by
  rintro seen rfl
  exact h

theorem Activity.HasNotLooked.cancelled {activity : Activity} (h : activity.HasNotLooked) :
    activity.cancelled.HasNotLooked := by
  intro seen hseen
  cases activity with
  | probed other => exact h other rfl
  | _ => cases hseen

namespace Server

/-- The same request is bound, and every task that has looked in the meantime has seen it. -/
structure Sees (server server' : Server) : Prop where
  /-- The request that is bound. -/
  bound : server'.bound = server.bound
  /-- What tasks have seen. -/
  noted : ∀ task seen, server'.activity? task = some (.probed seen) →
    server.activity? task = some (.probed seen) ∨ seen = server.bound

namespace Sees

/-- Nothing of it has changed. -/
theorem of_eq {server server' : Server} (htasks : server'.tasks = server.tasks)
    (hbound : server'.bound = server.bound) : server.Sees server' where
  bound := hbound
  noted task seen hseen := by
    rw [activity?, htasks] at hseen
    exact Or.inl hseen

theorem refl (server : Server) : server.Sees server := of_eq rfl rfl

theorem trans {a b c : Server} (hab : a.Sees b) (hbc : b.Sees c) : a.Sees c where
  bound := hbc.bound.trans hab.bound
  noted task seen hseen := by
    rcases hbc.noted task seen hseen with hbefore | hbound
    · exact hab.noted task seen hbefore
    · exact Or.inr (hbound.trans hab.bound)

/-- Such changes may be repeated. -/
theorem foldl {ι : Type} {act : Server → ι → Server}
    (h : ∀ (server : Server) i, server.Sees (act server i)) (server : Server) (list : List ι) :
    server.Sees (list.foldl act server) :=
  List.foldlRecOn list act (refl server) fun _ hdone i _ => hdone.trans (h _ i)

end Sees

/-- There are new tasks, none of which has looked. -/
theorem sees_of_doings {server server' : Server} {added : List (RuntimeId × Activity)}
    (hdoings : server'.doings = server.doings ++ added)
    (hadded : ∀ doing ∈ added, doing.2.HasNotLooked) (hbound : server'.bound = server.bound) :
    server.Sees server' where
  bound := hbound
  noted task seen hseen := by
    rw [activity?_eq_doings, hdoings] at hseen
    obtain ⟨⟨runtime, activity⟩, hdoing, rfl⟩ := Option.map_eq_some_iff.mp hseen
    rw [List.getElem?_append] at hdoing
    split at hdoing
    · left
      rw [activity?_eq_doings, hdoing]
      rfl
    · exact absurd rfl (hadded _ (List.mem_of_getElem? hdoing) seen)

/-- No task looks where all tasks are left at what they do. -/
theorem Grows.sees {server server' : Server} (h : server.Grows server') :
    server.Sees server' := by
  obtain ⟨added, hadded, hidle⟩ := h.doings
  exact sees_of_doings hadded (fun doing hdoing => (hidle doing hdoing).hasNotLooked) h.bound

/-! ### Single tasks -/

/-- One task is changed, and sees what is bound if it looks. -/
theorem sees_changeTask {server : Server} {id : TaskId} {change : Task → Task}
    (h : ∀ task, server.tasks[id]? = some task → ∀ seen, (change task).activity = .probed seen →
      task.activity = .probed seen ∨ seen = server.bound) :
    server.Sees (server.changeTask id change) where
  bound := rfl
  noted other seen hseen := by
    rw [activity?, changeTask, List.getElem?_modify] at hseen
    obtain ⟨task, htask, hactivity⟩ := Option.map_eq_some_iff.mp hseen
    obtain ⟨task, hbefore, rfl⟩ := Option.map_eq_some_iff.mp htask
    rw [activity?, hbefore]
    by_cases heq : id = other
    · subst heq
      rw [if_pos rfl] at hactivity
      exact (h task hbefore seen hactivity).imp_left fun hsame => congrArg some hsame
    · rw [if_neg heq] at hactivity
      exact Or.inl (congrArg some hactivity)

theorem sees_setActivity (server : Server) (id : TaskId) {activity : Activity}
    (h : activity.HasNotLooked) : server.Sees (server.setActivity id activity) :=
  sees_changeTask fun _ _ seen hseen => absurd hseen (h seen)

theorem sees_spawn (server : Server) (runtime : RuntimeId) {activity : Activity} (near : Bool)
    (h : activity.HasNotLooked) : server.Sees (server.spawn runtime activity near).2 := by
  refine sees_of_doings (doings_spawn server runtime activity near) (fun doing hdoing => ?_)
    (bound_spawn server runtime activity near)
  -- The runtime is alive, or the task is over at once.
  rw [List.mem_singleton.mp hdoing]
  split
  · exact h
  · exact h.cancelled

/-! ### Turns -/

theorem sees_finishEntry (server : Server) (task : TaskId) (self : Running)
    (outcome : Except Failure Unit) : server.Sees (server.finishEntry task self outcome) := by
  have hover : server.Sees (server.setActivity task .over) :=
    sees_setActivity server task (by rintro _ ⟨⟩)
  unfold finishEntry
  dsimp only
  split
  · refine hover.trans (.trans ?_ (grows_wake _ _).sees)
    exact sees_setActivity _ _ (by rintro _ ⟨⟩)
  · exact hover

/-- In the turn of an entry its own request is bound. When the turn ends, it is not any more. -/
theorem sees_stepEntry (server : Server) (task : TaskId) (self : Running) :
    server.Sees (server.stepEntry task self) := by
  have hturn := (performs_bind task self server self.request).grows.sees
  unfold stepEntry
  generalize server.bind self.request _ = turn at hturn
  obtain ⟨halt, left⟩ := turn
  cases halt with
  | waits wait acts => exact hturn.trans (sees_setActivity _ _ (by rintro _ ⟨⟩))
  | ends outcome => exact hturn.trans (sees_finishEntry _ _ _ _)

theorem sees_stepExecution (server : Server) (task : TaskId) (runtime : RuntimeId)
    (execution : Execution) : server.Sees (server.stepExecution task runtime execution) := by
  have hlaunch (server : Server) (entry : Entry Job) :
      server.Sees (server.launch task runtime execution.request entry) :=
    sees_spawn _ _ _ (by rintro _ ⟨⟩)
  have hlaunches := Sees.foldl hlaunch server execution.entries
  unfold stepExecution
  dsimp only
  generalize execution.entries.foldl _ server = launched at hlaunches ⊢
  split
  · exact hlaunches.trans (sees_setActivity _ _ (by rintro _ ⟨⟩))
  · refine hlaunches.trans ?_
    split
    · exact sees_setActivity _ _ (by rintro _ ⟨⟩)
    · exact (sees_setActivity _ _ (by rintro _ ⟨⟩)).trans (grows_wake _ _).sees

/-- A task that looks sees the request that is bound. -/
theorem sees_takeTurn (server : Server) (task : TaskId) (runtime : RuntimeId)
    (activity : Activity) : server.Sees (server.takeTurn task runtime activity) := by
  cases activity with
  | executing execution => exact sees_stepExecution server task runtime execution
  | running running => exact sees_stepEntry server task running
  | probing =>
    refine sees_changeTask fun _ _ seen hseen => Or.inr ?_
    cases hseen
    rfl
  | _ => exact .refl server

/-- Turn after turn, the same request is bound, and whoever looks sees it. -/
theorem persists_sees (server : Server) : Persists server.Sees where
  grows h hgrows := h.trans hgrows.sees
  takeTurn h _ := h.trans (sees_takeTurn _ _ _ _)

theorem sees_step (server : Server) (task : TaskId) : server.Sees (server.step task) :=
  (persists_sees server).step (.refl server) task

theorem sees_runTasks (server : Server) (runtime : RuntimeId) (count : Nat) :
    server.Sees (server.runTasks runtime count) :=
  (persists_sees server).runTasks (.refl server) runtime count

theorem sees_round (server : Server) (runtime : RuntimeId) : server.Sees (server.round runtime) :=
  (persists_sees server).round (.refl server) runtime

theorem sees_runUntil (server : Server) (runtime : RuntimeId) (done : Server → Bool)
    (rounds : ℕ) : server.Sees (server.runUntil runtime done rounds) := by
  induction rounds generalizing server with
  | zero => exact .refl server
  | succ rounds ih =>
    rw [runUntil]
    split
    · exact .refl server
    · exact (sees_round server runtime).trans (ih _)

/-- A task that has just been spawned sees the request that is bound where it is waited for, if it
gets to look. -/
theorem probe_fst (server : Server) : server.probe.1 = none ∨ server.probe.1 = server.bound := by
  have hid : (server.spawn mainRuntime .probing true).1 = server.tasks.length := by
    unfold spawn
    dsimp only
    split <;> rfl
  have hnew (seen : Option RequestId) : (server.spawn mainRuntime .probing true).2.activity?
      server.tasks.length ≠ some (.probed seen) := by
    intro hseen
    rw [activity?_eq_doings, doings_spawn, ← length_doings, List.getElem?_concat_length] at hseen
    split at hseen <;> cases hseen
  have hbound := bound_spawn server mainRuntime .probing true
  unfold probe
  dsimp only
  rw [hid]
  generalize (server.spawn mainRuntime .probing true).2 = spawned at hnew hbound ⊢
  generalize hwait : spawned.runUntil mainRuntime _ _ = left
  have hsees : spawned.Sees left := hwait ▸ sees_runUntil spawned _ _ _
  -- Either it has noted something by then, or nothing is known of it.
  split
  · next seen hseen =>
    have hnoted := (hsees.noted _ seen hseen).resolve_left (hnew seen)
    exact Or.inr (hnoted.trans hbound)
  · exact Or.inl rfl

/-! ### Whatever happens -/

/-- A task that is dropped does not look any more. -/
theorem sees_cancelTask (server : Server) (task : TaskId) :
    server.Sees (server.cancelTask task) := by
  unfold cancelTask
  split
  case h_1 => exact .refl server
  case h_2 runtime ready activity htask =>
    have hcancel : server.Sees (server.changeTask task fun task =>
        { task with ready := false, activity := activity.cancelled }) := by
      -- Only a probe that is over knows what it has seen, and it goes on knowing that.
      refine sees_changeTask fun found hfound seen hseen => Or.inl ?_
      cases htask.symm.trans hfound
      cases activity with
      | probed other => exact hseen
      | _ => cases hseen
    dsimp only
    generalize server.changeTask task _ = cancelled at hcancel ⊢
    split
    · exact hcancel.trans (grows_onRequest _ _ _).sees
    · exact hcancel

theorem sees_shutDown (server : Server) (runtime : RuntimeId) :
    server.Sees (server.shutDown runtime).2 := by
  unfold shutDown
  split
  · refine .trans ?_ (grows_settle _).sees
    refine .trans ?_ (.foldl sees_cancelTask _ _)
    exact .of_eq rfl rfl
  · exact .refl server

/-- Whatever happens, the same request is bound as before, and whoever has looked has seen it. -/
theorem sees_happen (server : Server) (event : Event) : server.Sees (server.happen event) := by
  by_cases hturn : event.IsTurn
  · cases event with
    | steps task => exact sees_step server task
    | rounds runtime => exact sees_round server runtime
    | _ => exact absurd hturn id
  · by_cases hshut : ∃ runtime, event = .shutsDown runtime
    · obtain ⟨runtime, rfl⟩ := hshut
      exact sees_shutDown server runtime
    · exact (grows_happen server hturn fun runtime heq => hshut ⟨runtime, heq⟩).sees

end Server

end Inbound
