import Mathlib
import Inbound.Proofs.Deferred.Reporting
import Inbound.Proofs.Histories

/-!
# Executions that are cut short

The entries leave the registry when a scope is executed, and it is not known then whether the
runtime will run them. If the runtime has been shut down by then, or is shut down before all of them
have ended, then nobody runs what is left of them, and whoever waits for the execution gets a report
that says nothing: not how many entries there were, nor in which scope. Once there is a report it is
never replaced, so in all other cases the report accounts for every entry that left the registry.

## Main results

* `Server.Reported.happen`: a report stays what it is whatever happens;
* `Server.getElem?_doings_shutDown`: what becomes of the tasks of a runtime that is shut down;
* `Server.Attends.comesTo`: what an execution has come to after any events;
* `Server.reports_execute`: what its report says;
* `Server.accounts_iff_not_cutShort`: which reports account for the entries that were handed over.
-/

namespace Inbound

open Deferred

namespace Server

variable {server server' : Server} {execution : TaskId} {runtime home : RuntimeId} {report : Report}

/-! ### Reports stay -/

/-- An execution that was spawned on a runtime has come to its report. -/
def Reported (server : Server) (execution : TaskId) (runtime : RuntimeId) (report : Report) :
    Prop :=
  server.doings[execution]? = some (runtime, .executed report)

theorem Reported.report?_eq (h : server.Reported execution runtime report) :
    server.report? execution = some report := by
  rw [report?, activity?_eq_doings, h]
  rfl

namespace Reported

theorem grows (h : server.Reported execution runtime report) (hgrows : server.Grows server') :
    server'.Reported execution runtime report :=
  hgrows.getElem?_doings h

/-- A task that has not come to a report may do something else. -/
theorem of_set (h : server.Reported execution runtime report) {task : TaskId}
    {activity activity' : Activity} (htask : server.doings[task]? = some (home, activity))
    (hbusy : ∀ report, activity ≠ .executed report)
    (hdoings : server'.doings = server.doings.set task (home, activity')) :
    server'.Reported execution runtime report := by
  have hne : task ≠ execution := by
    rintro rfl
    rw [Reported, htask] at h
    cases h
    exact hbusy report rfl
  rw [Reported, hdoings, List.getElem?_set_ne hne]
  exact h

/-- A task that has not come to a report may do something else. -/
theorem setActivity (h : server.Reported execution runtime report) {task : TaskId}
    {activity : Activity} (htask : server.doings[task]? = some (home, activity))
    (hbusy : ∀ report, activity ≠ .executed report) (activity' : Activity) :
    (server.setActivity task activity').Reported execution runtime report :=
  h.of_set htask hbusy (doings_setActivity htask activity')

theorem finishEntry (h : server.Reported execution runtime report) {task : TaskId}
    {self : Running} (htask : server.doings[task]? = some (home, .running self))
    (outcome : Except Failure Unit) :
    (server.finishEntry task self outcome).Reported execution runtime report := by
  have hover := h.setActivity htask (by rintro _ ⟨⟩) .over
  unfold Server.finishEntry
  dsimp only
  split
  next theirs htheirs =>
    rw [activity?_eq_doings] at htheirs
    obtain ⟨⟨other, activity⟩, hdoing, rfl⟩ := Option.map_eq_some_iff.mp htheirs
    exact (hover.setActivity hdoing (by rintro _ ⟨⟩) _).grows (grows_wake _ _)
  next => exact hover

theorem stepEntry (h : server.Reported execution runtime report) {task : TaskId}
    {self : Running} (htask : server.doings[task]? = some (home, .running self)) :
    (server.stepEntry task self).Reported execution runtime report := by
  have hgrows := (performs_bind task self server self.request).grows
  unfold Server.stepEntry
  generalize server.bind self.request (·.resume task self) = outcome at hgrows ⊢
  obtain ⟨halt, left⟩ := outcome
  have hleft := hgrows.getElem?_doings htask
  cases halt with
  | waits wait acts => exact (h.grows hgrows).setActivity hleft (by rintro _ ⟨⟩) _
  | ends outcome => exact (h.grows hgrows).finishEntry hleft outcome

theorem stepExecution (h : server.Reported execution runtime report) {task : TaskId}
    {theirs : Execution} (htask : server.doings[task]? = some (home, .executing theirs)) :
    (server.stepExecution task home theirs).Reported execution runtime report := by
  obtain ⟨hdoings, -, -⟩ :=
    Attends.doings_launches server task home theirs.request theirs.entries
  unfold Server.stepExecution
  dsimp only
  generalize theirs.entries.foldl _ server = launching at hdoings ⊢
  -- The tasks that begin are put behind the others, which stay where they were.
  have hstill {id : TaskId} {doing : RuntimeId × Activity}
      (hdoing : server.doings[id]? = some doing) : launching.doings[id]? = some doing := by
    rw [hdoings, List.getElem?_append_left (List.getElem?_eq_some_iff.mp hdoing).1, hdoing]
  have hset (activity : Activity) :
      (launching.setActivity task activity).Reported execution runtime report :=
    setActivity (hstill h) (hstill htask) (by rintro _ ⟨⟩) activity
  split
  · exact hset _
  · split
    · exact hset _
    · exact (hset _).grows (grows_wake _ _)

theorem takeTurn (h : server.Reported execution runtime report) {task : TaskId}
    {activity : Activity} (htask : server.doings[task]? = some (home, activity)) :
    (server.takeTurn task home activity).Reported execution runtime report := by
  cases activity with
  | executing theirs => exact h.stepExecution htask
  | running self => exact h.stepEntry htask
  | probing => exact h.setActivity htask (by rintro _ ⟨⟩) _
  | _ => exact h

theorem persists (execution : TaskId) (runtime : RuntimeId) (report : Report) :
    Persists fun server => server.Reported execution runtime report where
  grows h hgrows := h.grows hgrows
  takeTurn h htask := h.takeTurn htask

end Reported

/-! ### Shutting down -/

/-- A task that is dropped is cut off from what it does, and no other task is. -/
theorem getElem?_doings_cancelTask {id : TaskId} {activity : Activity}
    (h : server.doings[id]? = some (home, activity)) (task : TaskId) :
    (server.cancelTask task).doings[id]? =
      some (home, if task = id then activity.cancelled else activity) := by
  unfold cancelTask
  split
  next hnone =>
    have hne : task ≠ id := by
      rintro rfl
      rw [getElem?_doings, hnone] at h
      cases h
    rw [if_neg hne, h]
  next found ready theirs htask =>
    have hdoing : server.doings[task]? = some (found, theirs) := by
      rw [getElem?_doings, htask]
      rfl
    have hcancel : (server.changeTask task fun task =>
        { task with ready := false, activity := theirs.cancelled }).doings[id]? =
          some (home, if task = id then activity.cancelled else activity) := by
      have hset : (server.changeTask task fun task =>
          { task with ready := false, activity := theirs.cancelled }).doings =
            server.doings.set task (found, theirs.cancelled) :=
        doings_changeTask_set hdoing (fun _ => rfl) fun _ => rfl
      rw [hset]
      by_cases heq : task = id
      · subst heq
        rw [h] at hdoing
        cases hdoing
        rw [if_pos rfl, List.getElem?_set_self (List.getElem?_eq_some_iff.mp h).1]
      · rw [if_neg heq, List.getElem?_set_ne heq, h]
    dsimp only
    generalize server.changeTask task _ = cancelled at hcancel ⊢
    -- A call on a body that it had in flight is abandoned with it.
    split
    · exact (grows_onRequest _ _ _).getElem?_doings hcancel
    · exact hcancel

theorem getElem?_doings_cancelTasks {id : TaskId} {activity : Activity}
    (h : server.doings[id]? = some (home, activity)) (tasks : List TaskId) :
    (tasks.foldl cancelTask server).doings[id]? =
      some (home, if id ∈ tasks then activity.cancelled else activity) := by
  induction tasks generalizing server activity with
  | nil => exact h
  | cons task rest ih =>
    rw [List.foldl_cons, ih (getElem?_doings_cancelTask h task)]
    by_cases heq : task = id
    · -- Whoever is cut off already is not any more so when it is dropped again.
      have htwice : activity.cancelled.cancelled = activity.cancelled := by
        cases activity <;> rfl
      simp [heq, htwice]
    · have hne : id ≠ task := fun hid => heq hid.symm
      simp [heq, hne]

/-- When a runtime is shut down, its tasks are cut off from what they do, and no others are. -/
theorem getElem?_doings_shutDown {id : TaskId} {activity : Activity}
    (h : server.doings[id]? = some (home, activity)) (runtime : RuntimeId) :
    (server.shutDown runtime).2.doings[id]? = some (home,
      if home = runtime ∧ (server.runtime runtime).alive then activity.cancelled
      else activity) := by
  unfold shutDown
  split
  next halive =>
    have hsame : (server.changeRuntime runtime (·.shutDown)).doings[id]? = some (home, activity) :=
      h
    have hcancelled := getElem?_doings_cancelTasks hsame
      ((List.range server.tasks.length).filter fun task =>
        server.tasks[task]?.any (·.runtime = runtime))
    -- The tasks that are dropped are those of the runtime.
    have hmem : id ∈ (List.range server.tasks.length).filter (fun task =>
        server.tasks[task]?.any (·.runtime = runtime)) ↔ home = runtime := by
      rw [getElem?_doings] at h
      obtain ⟨task, htask, hview⟩ := Option.map_eq_some_iff.mp h
      cases hview
      simp only [List.mem_filter, List.mem_range, htask, Option.any_some, decide_eq_true_eq]
      exact and_iff_right (List.getElem?_eq_some_iff.mp htask).1
    simp only [hmem] at hcancelled
    simp only [halive, and_true]
    exact (grows_settle _).getElem?_doings hcancelled
  next hdead => simp [h, hdead]

namespace Reported

theorem shutDown (h : server.Reported execution runtime report) (other : RuntimeId) :
    (server.shutDown other).2.Reported execution runtime report := by
  rw [Reported, getElem?_doings_shutDown h other]
  split <;> rfl

/-- A report stays what it is whatever happens. -/
theorem happen (h : server.Reported execution runtime report) (event : Event) :
    (server.happen event).Reported execution runtime report := by
  by_cases hturn : event.IsTurn
  · cases event with
    | steps task => exact (persists execution runtime report).step h task
    | rounds other => exact (persists execution runtime report).round h other
    | _ => exact absurd hturn id
  · by_cases hshut : ∃ other, event = .shutsDown other
    · obtain ⟨other, rfl⟩ := hshut
      exact h.shutDown other
    · exact h.grows (grows_happen server hturn fun other heq => hshut ⟨other, heq⟩)

theorem run (h : server.Reported execution runtime report) (events : List Event) :
    (server.run events).Reported execution runtime report := by
  induction events generalizing server with
  | nil => exact h
  | cons event rest ih => exact ih (h.happen event)

/-- Whoever waits for the execution gets the report at once. -/
theorem eq_of_await (h : server.Reported execution runtime report) {waiting : RuntimeId}
    {rounds : ℕ} {got : Report}
    (hgot : (server.await execution waiting rounds).1 = some got) : got = report := by
  cases rounds with
  | zero => cases hgot
  | succ rounds =>
    rw [await, h.report?_eq] at hgot
    cases hgot
    rfl

end Reported

/-! ### What an execution comes to -/

variable {scope : String} {handed : List (Entry Job)}

/-- An execution whose runtime is shut down while it attends to its entries comes to a report that
says nothing. -/
theorem Attends.lost_of_shutDown (h : server.Attends execution runtime scope handed)
    (hnone : server.report? execution = none) :
    (server.shutDown runtime).2.Reported execution runtime .lost := by
  obtain ⟨endings, activity, hactivity, hstands, -⟩ := h.stands
  rw [Reported, getElem?_doings_shutDown hactivity, if_pos ⟨rfl, h.alive⟩]
  cases hstands with
  | executing => rfl
  | executed =>
    rw [report?, activity?_eq_doings, hactivity] at hnone
    cases hnone

/-- An execution that attends to its entries has come to a report only on its own runtime. -/
theorem Attends.reported (h : server.Attends execution runtime scope handed)
    (hreport : server.report? execution = some report) :
    server.Reported execution runtime report := by
  obtain ⟨endings, activity, hactivity, hstands, -⟩ := h.stands
  rw [report?, activity?_eq_doings, hactivity] at hreport
  cases hstands with
  | executing => cases hreport
  | executed =>
    cases hreport
    exact hactivity

/-- A runtime is shut down before an execution has come to its report. -/
def Interrupted (server : Server) (execution : TaskId) (runtime : RuntimeId)
    (events : List Event) : Prop :=
  ∃ before, before ++ [.shutsDown runtime] <+: events ∧
    (server.run before).report? execution = none

/-- What an execution has come to that was handed entries, if its runtime has interrupted it and if
not. -/
inductive ComesTo (scope : String) (handed : List (Entry Job)) (execution : TaskId)
    (runtime : RuntimeId) (interrupted : Prop) (server : Server) : Prop where
  /-- It attends to its entries. -/
  | attends (attends : server.Attends execution runtime scope handed) (whole : ¬ interrupted)
  /-- It has come to a report on all of them. -/
  | accounts {report : Report} (reported : server.Reported execution runtime report)
    (accounts : report.Accounts scope handed) (whole : ¬ interrupted)
  /-- It has come to a report that says nothing. -/
  | lost (reported : server.Reported execution runtime .lost) (cut : interrupted)

/-- Whatever happens to an execution that attends to its entries, its runtime being shut down or
not. -/
theorem Attends.comesTo (h : server.Attends execution runtime scope handed)
    (events : List Event) :
    ComesTo scope handed execution runtime (server.Interrupted execution runtime events)
      (server.run events) := by
  -- The events are taken in order, so each is added behind those that have happened.
  induction events using List.reverseRecOn with
  | nil =>
    refine .attends h ?_
    rintro ⟨before, hprefix, -⟩
    simp at hprefix
  | append_singleton events event ih =>
    rw [run_concat, Interrupted, exists_before_concat, ← Interrupted]
    cases ih with
    | lost reported cut => exact .lost (reported.happen event) (.inl cut)
    | accounts reported accounts whole =>
      refine .accounts (reported.happen event) accounts ?_
      rintro (hcut | ⟨-, hnone⟩)
      · exact whole hcut
      · rw [reported.report?_eq] at hnone
        cases hnone
    | attends attends whole =>
      by_cases hkept : event = .shutsDown runtime
      · subst hkept
        cases hreport : (server.run events).report? execution with
        | none => exact .lost (attends.lost_of_shutDown hreport) (.inr ⟨rfl, rfl⟩)
        | some report =>
          refine .accounts ((attends.reported hreport).happen _) (attends.accounts hreport).1 ?_
          rintro (hcut | ⟨-, hnone⟩)
          · exact whole hcut
          · cases hnone
      · refine .attends (attends.happen hkept) ?_
        rintro (hcut | ⟨heq, -⟩)
        · exact whole hcut
        · exact hkept heq

/-! ### The beginning -/

/-- Nothing is pending any more in a slot that has been executed. -/
theorem pendingEntries_execute {ledger : Ledger} {id : RequestId} {ambient : Option RuntimeId}
    (h : Books.Balanced ⟨server.stock, ledger⟩) (hholds : id ∈ server.holders)
    (hruntime : ((server.request id).runtime <|> ambient) = some runtime) (scope : String) :
    (server.execute id scope ambient).2.pendingEntries id scope = 0 := by
  have hbalanced := (deeds_execute h.orderly (h.holders id hholds) hruntime scope).balanced h
  have hentries := hbalanced.entries_home ⟨id, scope⟩
  rw [home_stock, Ledger.pendingIn_lose, Ledger.pendingIn_hand, if_pos rfl, ite_self] at hentries
  rw [pendingEntries, pendingEntriesIn, Registry.pending, List.length_eq_zero_iff]
  exact hentries

/-- An execution on a runtime that has been shut down comes at once to a report that says
nothing. -/
theorem lost_execute {id : RequestId} {ambient : Option RuntimeId}
    (hruntime : ((server.request id).runtime <|> ambient) = some runtime)
    (hdead : ¬ (server.runtime runtime).alive) (scope : String) :
    (server.execute id scope ambient).2.Reported server.tasks.length runtime .lost := by
  rw [execute_of_some hruntime]
  refine Reported.grows ?_ (grows_settle _)
  rw [Reported, doings_handOver, if_neg hdead, ← length_doings, List.getElem?_concat_length]

/-- An execution is cut short: its runtime has been shut down when it begins, or is shut down before
there is a report. -/
def CutShort (server begun : Server) (execution : TaskId) (runtime : RuntimeId)
    (after : List Event) : Prop :=
  ¬ (server.runtime runtime).alive ∨ begun.Interrupted execution runtime after

/-- What whoever waits for an execution is told of the entries that were pending. -/
theorem reports_execute {ledger : Ledger} {id : RequestId} {ambient : Option RuntimeId}
    (h : Books.Balanced ⟨server.stock, ledger⟩) (hholds : id ∈ server.holders)
    (hruntime : ((server.request id).runtime <|> ambient) = some runtime) {after : List Event}
    {waiting : RuntimeId} {rounds : ℕ}
    (hreport : (((server.execute id scope ambient).2.run after).await server.tasks.length waiting
      rounds).1 = some report) :
    (server.CutShort (server.execute id scope ambient).2 server.tasks.length runtime after ∧
        report = .lost) ∨
      (¬ server.CutShort (server.execute id scope ambient).2 server.tasks.length runtime after ∧
        report.Accounts scope
          ((server.registry (server.request id).registry).entries ⟨id, scope⟩)) := by
  -- On a runtime that has been shut down before, the execution is lost at once.
  by_cases halive : (server.runtime runtime).alive
  · have hbegun : (server.execute id scope ambient).2.Attends server.tasks.length runtime scope
        ((server.registry (server.request id).registry).entries ⟨id, scope⟩) := by
      have hattends : (server.happen (.executes id scope ambient)).Attends server.tasks.length
          runtime scope _ := attends_executes h hholds hruntime halive
      dsimp only [happen] at hattends
      rwa [if_pos hholds] at hattends
    have hwhole {interrupted : Prop} (hnot : ¬ interrupted) :
        ¬ (¬ (server.runtime runtime).alive ∨ interrupted) :=
      not_or.mpr ⟨not_not.mpr halive, hnot⟩
    -- Otherwise it is still at work, or has ended, or has been cut off.
    cases hbegun.comesTo after with
    | attends attends whole =>
      obtain ⟨hawait, hyields⟩ := attends.await waiting rounds
      exact .inr ⟨hwhole whole, (hawait.accounts (hyields report hreport)).1⟩
    | accounts reported accounts whole =>
      rw [reported.eq_of_await hreport]
      exact .inr ⟨hwhole whole, accounts⟩
    | lost reported cut => exact .inl ⟨.inr cut, reported.eq_of_await hreport⟩
  · exact .inl ⟨.inl halive, ((lost_execute hruntime halive scope).run after).eq_of_await hreport⟩

/-- Whoever executes a scope either gets to know that there is nothing to run it on, and everything
stays as it is, or has taken all that was pending off the registry. The report that whoever waits
for the execution gets then accounts for all of it exactly if the execution has not been cut short.
If it has, the report says nothing, which is right only if nothing was pending, in the scope that is
meant when none is named. -/
theorem accounts_iff_not_cutShort {before after : List Event} {id : RequestId} {scope : String}
    {ambient : Option RuntimeId} {waiting : RuntimeId} {rounds : ℕ}
    (hholds : id ∈ (fresh.run before).holders) :
    let server := fresh.run before
    let executed := server.execute id scope ambient
    (∀ error, executed.1 = .error error → error = .noRuntime ∧ executed.2 = server) ∧
    ∀ execution, executed.1 = .ok execution →
      executed.2.pendingEntries id scope = 0 ∧
      ∃ runtime, ((server.request id).runtime <|> ambient) = some runtime ∧
        ∀ report, ((executed.2.run after).await execution waiting rounds).1 = some report →
          ((report.scope = scope ∧ report.total = server.pendingEntries id scope) ↔
            ¬ server.CutShort executed.2 execution runtime after ∨
              scope = defaultScope ∧ server.pendingEntries id scope = 0) ∧
          (server.CutShort executed.2 execution runtime after → report = .lost) := by
  intro server executed
  obtain ⟨ledger, hbalanced⟩ := exists_balanced before
  rcases hruntime : ((server.request id).runtime <|> ambient) with - | runtime
  · have hexecuted : executed = (.error .noRuntime, server) := execute_of_none hruntime scope
    rw [hexecuted]
    refine ⟨fun error herror => ?_, fun execution hok => ?_⟩
    · cases herror
      exact ⟨rfl, rfl⟩
    · cases hok
  · have hfirst : executed.1 = .ok server.tasks.length :=
      congrArg Prod.fst (execute_of_some hruntime scope)
    rw [hfirst]
    refine ⟨fun error herror => ?_, fun execution hok => ?_⟩
    · cases herror
    · cases hok
      refine ⟨pendingEntries_execute hbalanced hholds hruntime scope, runtime, rfl,
        fun report hreport => ?_⟩
      rcases reports_execute hbalanced hholds hruntime hreport with ⟨hcut, rfl⟩ | ⟨hwhole, h⟩
      · refine ⟨?_, fun _ => rfl⟩
        rw [or_iff_right (not_not.mpr hcut)]
        exact and_congr eq_comm eq_comm
      · exact ⟨iff_of_true ⟨h.scope, h.total⟩ (.inl hwhole), fun hcut => absurd hcut hwhole⟩

/-- One entry is registered that goes on for a while, and another that fails. -/
def twoRegistered : List Event :=
  [.opensRegistry, .builds default, .registers 0 "mail" "end" ⟨[], none, [.pause 3]⟩,
    .registers 0 "audit" "end" ⟨[], none, [.giveUp "no reply"]⟩]

/-- Nobody shuts the runtime down, and both entries are accounted for. -/
theorem accounts_for_two :
    let report : Report := ⟨"end", 1, [("audit", "no reply")]⟩
    let executed := (fresh.run twoRegistered).execute 0 "end" (some 0)
    ((executed.2.run [.rounds 0]).await 0 0 5).1 = some report ∧
      report.scope = "end" ∧ report.total = (fresh.run twoRegistered).pendingEntries 0 "end" := by
  intro report executed
  have hholds : 0 ∈ (fresh.run twoRegistered).holders := List.mem_of_elem_eq_true (by cbv)
  have hruntime : (((fresh.run twoRegistered).request 0).runtime <|> some 0) = some 0 := by cbv
  have hexecuted : executed.1 = .ok 0 := by cbv
  have hreport : ((executed.2.run [.rounds 0]).await 0 0 5).1 = some report := by cbv
  obtain ⟨runtime, hsame, hreports⟩ :=
    ((accounts_iff_not_cutShort hholds).2 0 hexecuted).2
  rw [hruntime] at hsame
  cases hsame
  refine ⟨hreport, (hreports report hreport).1.mpr (.inl ?_)⟩
  have halive : ((fresh.run twoRegistered).runtime 0).alive := by cbv
  rintro (hdead | ⟨before, hprefix, -⟩)
  · exact hdead halive
  · have hmem : Event.shutsDown 0 ∈ [Event.rounds 0] :=
      hprefix.subset (List.mem_append_right _ (.head _))
    simp at hmem

/-- The runtime is shut down when one entry has ended and the other has begun. Both are off the
registry, and the report counts none. -/
theorem not_accounts_of_shutDown :
    ¬ ∀ (before after : List Event) (id : RequestId) (scope : String) (ambient : Option RuntimeId)
        (execution : TaskId) (waiting : RuntimeId) (rounds : ℕ) (report : Report),
      id ∈ (fresh.run before).holders →
        ((fresh.run before).execute id scope ambient).1 = .ok execution →
          ((((fresh.run before).execute id scope ambient).2.run after).await execution waiting
            rounds).1 = some report →
          report.scope = scope ∧ report.total = (fresh.run before).pendingEntries id scope := by
  intro h
  have hlost := h twoRegistered [.rounds 0, .shutsDown 0] 0 "end" (some 0) 0 0 1 .lost
    (List.mem_of_elem_eq_true (by cbv)) (by cbv) (by cbv)
  exact absurd hlost.1 (by decide)

end Server

end Inbound
