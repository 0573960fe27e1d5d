import Mathlib.Data.List.Induction
import Mathlib.Data.List.Perm.Subperm
import Inbound.Proofs.Deferred.Tasks
import Inbound.Proofs.Deferred.Verdict

/-!
# How an execution attends to its entries

An execution that was handed entries has each of them in one of three places: it has not given the
entry a task yet, or the task that it has given the entry runs it, or how the entry ended has been
taken down. No turn of any task changes that, whatever the others do, as long as the runtime of the
execution is alive; so when nothing is awaited any more all entries have been taken down.

## Main results

* `Report.summary_eq`: what the report says of the endings that were taken down;
* `Stands.told`, `Stands.collects`, `Stands.finishes`: what a turn makes of what is known;
* `Server.Attends`: where the entries of an execution are, and what is known so far;
* `Server.Attends.step`, `Server.Attends.shutDown`: what keeps it so.
-/

namespace Inbound

open Deferred

/-! ### Reports -/

namespace Deferred

/-- Who is expected to get to the end. -/
def succeeds : String × Option (Except Failure Unit) → Bool
  | (_, some (.ok ())) => true
  | _ => false

/-- What is to be reported of who is expected to fail. -/
def failure? : String × Option (Except Failure Unit) → Option (String × String)
  | (name, some (.error failure)) => some (name, failure.message)
  | _ => none

/-- What is written by who is expected to get to the end. -/
def doneLine? : String × Option (Except Failure Unit) → Option String
  | (name, some (.ok ())) => some (name ++ "|done")
  | _ => none

/-- How an entry ended, as it was expected. -/
def Report.row (ending : String × Except Failure Unit) : String × Option (Except Failure Unit) :=
  (ending.1, some ending.2)

/-- The report on a scope when these endings have been taken down. -/
def Report.summary (scope : String) (endings : List (String × Except Failure Unit)) : Report :=
  endings.foldl (fun report ending => report.record ending.1 ending.2) (.start scope)

theorem Report.summary_concat (scope : String) (endings : List (String × Except Failure Unit))
    (ending : String × Except Failure Unit) :
    summary scope (endings ++ [ending]) = (summary scope endings).record ending.1 ending.2 :=
  List.foldl_append

theorem Report.summary_eq (scope : String) (endings : List (String × Except Failure Unit)) :
    summary scope endings =
      ⟨scope, (endings.map row).countP succeeds, (endings.map row).filterMap failure?⟩ := by
  induction endings using List.reverseRecOn with
  | nil => rfl
  | append_singleton endings ending ih =>
    obtain ⟨name, outcome⟩ := ending
    rw [summary_concat, ih, List.map_append, List.countP_append, List.filterMap_append]
    cases outcome <;> simp [record, row, succeeds, failure?]

theorem Report.total_summary (scope : String) (endings : List (String × Except Failure Unit)) :
    (summary scope endings).total = endings.length := by
  induction endings using List.reverseRecOn with
  | nil => rfl
  | append_singleton endings ending ih =>
    rw [summary_concat, total_record, ih, List.length_append, List.length_singleton]

end Deferred

/-! ### Where the entries are -/

/-- An execution that has been told how an entry ended. -/
def Execution.told (execution : Execution) (name : String) (outcome : Except Failure Unit) :
    Execution :=
  { execution with
    ended := execution.ended + 1
    report := execution.report.record name outcome }

/-- What is to be expected of the entry that a task runs for an execution. -/
def attended? (execution : TaskId) :
    RuntimeId × Activity → Option (String × Option (Except Failure Unit))
  | (_, .running running) => if running.execution = execution then some running.prospect else none
  | _ => none

/-- What is to be expected of the entries that run for an execution. -/
def attending (execution : TaskId) (doings : List (RuntimeId × Activity)) :
    List (String × Option (Except Failure Unit)) :=
  doings.filterMap (attended? execution)

/-- What an execution knows that was handed entries of which this is to be expected, if those are
still running for it and these have ended. -/
inductive Stands (scope : String) (prospects running : List (String × Option (Except Failure Unit)))
    (endings : List (String × Except Failure Unit)) : Activity → Prop where
  /-- It awaits those that are running, and those whose ends it has not collected. -/
  | executing {execution : Execution} (hreport : execution.report = .summary scope endings)
    (hawaited : execution.awaited = running.length + execution.ended)
    (hprospects : prospects.Perm
      (execution.entries.map Entry.prospect ++ running ++ endings.map Report.row)) :
    Stands scope prospects running endings (.executing execution)
  /-- All of them have ended. -/
  | executed {report : Report} (hreport : report = .summary scope endings) (hrunning : running = [])
    (hprospects : prospects.Perm (endings.map Report.row)) :
    Stands scope prospects running endings (.executed report)

namespace Stands

variable {scope : String} {prospects running rest : List (String × Option (Except Failure Unit))}
  {endings : List (String × Except Failure Unit)} {mine : Execution}

/-- One of those that are running ends, and the execution is told how. -/
theorem told (h : Stands scope prospects running endings (.executing mine)) {name : String}
    {outcome : Except Failure Unit} (hrunning : running.Perm ((name, some outcome) :: rest)) :
    Stands scope prospects rest (endings ++ [(name, outcome)])
      (.executing (mine.told name outcome)) := by
  obtain ⟨hreport, hawaited, hprospects⟩ := h
  have hlength := hrunning.length_eq
  rw [List.length_cons] at hlength
  refine .executing ?report ?awaited ?prospects
  case report =>
    rw [Report.summary_concat, ← hreport]
    rfl
  case awaited =>
    simp only [Execution.told]
    omega
  -- The task that ends moves from those that are running to those that have ended.
  case prospects =>
    refine hprospects.trans ?_
    rw [List.map_append, List.append_assoc, List.append_assoc]
    refine List.Perm.append_left _ ((hrunning.append_right _).trans ?_)
    rw [List.cons_append, ← List.append_assoc]
    exact (List.perm_append_singleton _ _).symm

/-- All entries get tasks, and some that have ended are collected. -/
theorem collects (h : Stands scope prospects running endings (.executing mine)) {collected : Nat}
    (hcollected : collected ≤ mine.ended) :
    Stands scope prospects (running ++ mine.entries.map Entry.prospect) endings
      (.executing { mine with
        entries := []
        awaited := mine.awaited + mine.entries.length - collected
        ended := mine.ended - collected }) := by
  obtain ⟨hreport, hawaited, hprospects⟩ := h
  refine .executing hreport ?_ (hprospects.trans (List.perm_append_comm.append_right _))
  simp only [List.length_append, List.length_map]
  omega

/-- If nothing is awaited then, no entry was without a task, and none was running. -/
theorem finishes (h : Stands scope prospects running endings (.executing mine)) {collected : Nat}
    (hcollected : collected ≤ mine.ended)
    (hnothing : mine.awaited + mine.entries.length - collected = 0) :
    Stands scope prospects (running ++ mine.entries.map Entry.prospect) endings
      (.executed mine.report) := by
  obtain ⟨hreport, hawaited, hprospects⟩ := h
  have hlength : running.length = 0 ∧ mine.entries.length = 0 := by omega
  rw [List.length_eq_zero_iff, List.length_eq_zero_iff] at hlength
  rw [hlength.1, hlength.2] at hprospects ⊢
  exact .executed hreport rfl hprospects

end Stands

namespace Server

/-! ### Turn after turn -/

/-- What holds of a server goes on to hold as long as tasks are left at what they do and take their
turns. -/
structure Persists (p : Server → Prop) : Prop where
  /-- When tasks are left at what they do. -/
  grows : ∀ {server server' : Server}, p server → server.Grows server' → p server'
  /-- When a task takes its turn. -/
  takeTurn : ∀ {server : Server} {task : TaskId} {runtime : RuntimeId} {activity : Activity},
    p server → server.doings[task]? = some (runtime, activity) →
      p (server.takeTurn task runtime activity)

namespace Persists

variable {p : Server → Prop} {server : Server}

theorem step (h : Persists p) (hserver : p server) (task : TaskId) : p (server.step task) := by
  rcases htask : server.tasks[task]? with - | ⟨runtime, ready, activity⟩
  · rw [Server.step, htask]
    exact hserver
  · have hdoing : server.doings[task]? = some (runtime, activity) := by
      rw [getElem?_doings, htask]
      rfl
    rw [step_of_getElem? htask]
    have henter := grows_enterTurn server task
    have hturn := h.takeTurn (h.grows hserver henter) (henter.getElem?_doings hdoing)
    exact h.grows (h.grows hturn (grows_leaveTurn _ _ _)) (grows_settle _)

theorem runTasks (h : Persists p) (hserver : p server) (runtime : RuntimeId) (count : Nat) :
    p (server.runTasks runtime count) := by
  induction count generalizing server with
  | zero => exact hserver
  | succ count ih =>
    have hqueue := h.grows hserver (grows_setRuntime (alive_next (server.runtime runtime)))
    rw [Server.runTasks]
    dsimp only
    split
    · exact hqueue
    · exact ih (h.step hqueue _)

theorem round (h : Persists p) (hserver : p server) (runtime : RuntimeId) :
    p (server.round runtime) := by
  have hrun := h.runTasks hserver runtime RunQueue.roundSize
  unfold Server.round
  dsimp only
  generalize server.runTasks runtime RunQueue.roundSize = left at hrun ⊢
  have hqueue : left.Grows (left.changeRuntime runtime fun _ =>
      (left.runtime runtime).takeAside.2) := grows_setRuntime rfl
  exact h.grows (h.grows hrun hqueue) (.foldl (fun server task => grows_wakeFrom server _ task) _ _)

end Persists

/-! ### Where the entries of an execution are -/

/-- An execution on a runtime that is alive attends to the entries that it was handed. -/
structure Attends (server : Server) (execution : TaskId) (runtime : RuntimeId) (scope : String)
    (handed : List (Entry Job)) : Prop where
  /-- The runtime is alive. -/
  alive : (server.runtime runtime).alive
  /-- The entries run on the runtime of their execution. -/
  home : ∀ doing ∈ server.doings, (attended? execution doing).isSome → doing.1 = runtime
  /-- Each entry is in one place, and those that have got to their ends have written so. -/
  stands : ∃ endings activity, server.doings[execution]? = some (runtime, activity) ∧
    Stands scope (handed.map Entry.prospect) (attending execution server.doings) endings activity ∧
    ((endings.map Report.row).filterMap doneLine?).Subperm server.log

namespace Attends

variable {server server' : Server} {execution : TaskId} {runtime : RuntimeId} {scope : String}
  {handed : List (Entry Job)}

/-! ### What is nothing to an execution -/

/-- New tasks are nothing to an execution if they do not run its entries. -/
theorem of_append (h : server.Attends execution runtime scope handed)
    {added : List (RuntimeId × Activity)} (hdoings : server'.doings = server.doings ++ added)
    (hadded : ∀ doing ∈ added, attended? execution doing = none)
    (halive : ∀ id, (server.runtime id).alive → (server'.runtime id).alive)
    (hlog : server.log <+: server'.log) : server'.Attends execution runtime scope handed where
  alive := halive _ h.alive
  home doing hdoing hattended := by
    rw [hdoings] at hdoing
    rcases List.mem_append.mp hdoing with hdoing | hdoing
    · exact h.home doing hdoing hattended
    · rw [hadded doing hdoing] at hattended
      cases hattended
  stands := by
    obtain ⟨endings, activity, hactivity, hstands, hwritten⟩ := h.stands
    -- The new tasks add nothing to what the execution has running.
    have hsame : attending execution server'.doings = attending execution server.doings := by
      rw [attending, hdoings, List.filterMap_append, List.filterMap_eq_nil_iff.mpr hadded,
        List.append_nil, attending]
    refine ⟨endings, activity, ?_, by rwa [hsame], hwritten.trans hlog.sublist.subperm⟩
    rw [hdoings, List.getElem?_append_left (List.getElem?_eq_some_iff.mp hactivity).1]
    exact hactivity

theorem grows (h : server.Attends execution runtime scope handed) (hgrows : server.Grows server') :
    server'.Attends execution runtime scope handed := by
  obtain ⟨added, hadded, hidle⟩ := hgrows.doings
  refine h.of_append hadded (fun doing hdoing => ?_) hgrows.alive hgrows.log
  obtain ⟨other, activity⟩ := doing
  cases activity with
  | running running => exact (hidle _ hdoing).elim
  | _ => rfl

theorem attending_set {doings : List (RuntimeId × Activity)} {task : TaskId}
    {doing doing' : RuntimeId × Activity} (h : doings[task]? = some doing)
    (hsame : attended? execution doing' = attended? execution doing) :
    attending execution (doings.set task doing') = attending execution doings := by
  obtain ⟨htask, rfl⟩ := List.getElem?_eq_some_iff.mp h
  obtain ⟨before, after, hdoings, -, hset⟩ : ∃ before after,
      doings = before ++ doings[task] :: after ∧ before.length = task ∧
        doings.set task doing' = before ++ doing' :: after := List.exists_of_set htask
  rw [hset, attending, attending]
  conv => rhs; rw [hdoings]
  simp only [List.filterMap_append, List.filterMap_cons, hsame]

theorem attending_set_perm {doings : List (RuntimeId × Activity)} {task : TaskId}
    {doing doing' : RuntimeId × Activity} {prospect : String × Option (Except Failure Unit)}
    (h : doings[task]? = some doing) (hsome : attended? execution doing = some prospect)
    (hnone : attended? execution doing' = none) :
    (attending execution doings).Perm
      (prospect :: attending execution (doings.set task doing')) := by
  obtain ⟨htask, rfl⟩ := List.getElem?_eq_some_iff.mp h
  obtain ⟨before, after, hdoings, -, hset⟩ : ∃ before after,
      doings = before ++ doings[task] :: after ∧ before.length = task ∧
        doings.set task doing' = before ++ doing' :: after := List.exists_of_set htask
  rw [hset, attending, attending]
  conv => lhs; rw [hdoings]
  simp only [List.filterMap_append, List.filterMap_cons, hsome, hnone]
  exact List.perm_middle

/-- What another task does is nothing to an execution as long as it is to the same end. -/
theorem of_set (h : server.Attends execution runtime scope handed) {task : TaskId}
    {other : RuntimeId} {activity activity' : Activity} (hne : task ≠ execution)
    (hactivity : server.doings[task]? = some (other, activity))
    (hdoings : server'.doings = server.doings.set task (other, activity'))
    (hsame : attended? execution (other, activity') = attended? execution (other, activity))
    (halive : (server'.runtime runtime).alive) (hlog : server'.log = server.log) :
    server'.Attends execution runtime scope handed where
  alive := halive
  home doing hdoing hattended := by
    rw [hdoings] at hdoing
    rcases List.mem_or_eq_of_mem_set hdoing with hdoing | rfl
    · exact h.home doing hdoing hattended
    · rw [hsame] at hattended
      have hold := h.home _ (List.mem_of_getElem? hactivity) hattended
      exact hold
  stands := by
    obtain ⟨endings, mine, hmine, hstands, hwritten⟩ := h.stands
    refine ⟨endings, mine, ?_, ?_, by rwa [hlog]⟩
    · rw [hdoings, List.getElem?_set_ne hne, hmine]
    · rwa [hdoings, attending_set hactivity hsame]

/-! ### The turn of an entry -/

/-- A task that runs an entry is no execution. -/
theorem ne_of_running (h : server.Attends execution runtime scope handed) {task : TaskId}
    {other : RuntimeId} {running : Running}
    (hrunning : server.doings[task]? = some (other, .running running)) : task ≠ execution := by
  rintro rfl
  obtain ⟨endings, activity, hactivity, hstands, -⟩ := h.stands
  rw [hrunning] at hactivity
  cases hactivity
  cases hstands

/-- An entry of another execution may end. -/
theorem finishEntry_other (h : server.Attends execution runtime scope handed) {task : TaskId}
    {other : RuntimeId} {self : Running}
    (hself : server.doings[task]? = some (other, .running self)) (hne : self.execution ≠ execution)
    (outcome : Except Failure Unit) :
    (server.finishEntry task self outcome).Attends execution runtime scope handed := by
  have hover := doings_setActivity hself .over
  -- That its task is over is nothing to this execution, and neither is what the other one is told.
  have hidle : (server.setActivity task .over).Attends execution runtime scope handed :=
    h.of_set (h.ne_of_running hself) hself hover (if_neg hne).symm h.alive rfl
  unfold finishEntry
  dsimp only
  split
  case h_1 theirs htheirs =>
    rw [activity?_eq_doings] at htheirs
    obtain ⟨⟨home, activity⟩, hdoing, hactivity⟩ := Option.map_eq_some_iff.mp htheirs
    cases hactivity
    refine grows ?_ (grows_wake _ _)
    exact hidle.of_set hne hdoing (doings_setActivity hdoing _) rfl hidle.alive rfl
  case h_2 => exact hidle

/-- What is written of the endings is in the log, of the new one too. -/
theorem written_conclude {endings : List (String × Except Failure Unit)}
    (h : ((endings.map Report.row).filterMap doneLine?).Subperm server.log) (name : String)
    (outcome : Except Failure Unit) :
    (((endings ++ [(name, outcome)]).map Report.row).filterMap doneLine?).Subperm
      (server.conclude name outcome).log := by
  rw [List.map_append, List.filterMap_append]
  cases outcome with
  | error failure =>
    have hnone : ([(name, Except.error failure)].map Report.row).filterMap doneLine? = [] := rfl
    rw [hnone, List.append_nil]
    exact h
  | ok => exact h.append (List.Subperm.refl _)

/-- An entry of the execution may end: how it ended is taken down. -/
theorem finishEntry_own (h : server.Attends execution runtime scope handed) {task : TaskId}
    {other : RuntimeId} {self : Running}
    (hself : server.doings[task]? = some (other, .running self)) (hown : self.execution = execution)
    {outcome : Except Failure Unit} (hverdict : self.verdict? = some outcome) :
    ((server.conclude self.name outcome).finishEntry task self outcome).Attends execution runtime
      scope handed := by
  subst hown
  have hne := h.ne_of_running hself
  have hconcluded := (h.grows (grows_conclude server self.name outcome)).alive
  obtain ⟨endings, activity, hactivity, hstands, hwritten⟩ := h.stands
  have hwritten' := written_conclude hwritten self.name outcome
  have hdoings := doings_conclude server self.name outcome
  generalize server.conclude self.name outcome = concluded at hconcluded hwritten' hdoings ⊢
  have hover : (concluded.setActivity task .over).doings =
      server.doings.set task (other, .over) := by
    rw [← hdoings]
    exact doings_setActivity (hdoings ▸ hself) .over
  have hstill : (concluded.setActivity task .over).doings[self.execution]? =
      some (runtime, activity) := by
    rw [hover, List.getElem?_set_ne hne, hactivity]
  -- The entry was one of those that are running, and the others still are.
  have hattending : (attending self.execution server.doings).Perm ((self.name, some outcome) ::
      attending self.execution (server.doings.set task (other, .over))) := by
    refine attending_set_perm hself ?_ rfl
    rw [← hverdict]
    exact if_pos rfl
  cases hstands with
  | executed _ hrunning =>
    rw [hrunning] at hattending
    cases hattending.nil_eq
  | @executing mine hreport hawaited hprospects =>
    have hmine : (concluded.setActivity task .over).activity? self.execution =
        some (.executing mine) := by
      rw [activity?_eq_doings, hstill]
      rfl
    have hfinish : concluded.finishEntry task self outcome =
        ((concluded.setActivity task .over).setActivity self.execution
          (.executing (mine.told self.name outcome))).wake self.execution := by
      simp only [finishEntry, hmine]
      rfl
    rw [hfinish]
    refine grows ?_ (grows_wake _ _)
    have hafter := doings_setActivity hstill (.executing (mine.told self.name outcome))
    rw [hover] at hafter hstill
    refine ⟨hconcluded, fun doing hdoing hattended => ?home, endings ++ [(self.name, outcome)],
      .executing (mine.told self.name outcome), ?mine, ?stands, hwritten'⟩
    case home =>
      rw [hafter] at hdoing
      rcases List.mem_or_eq_of_mem_set hdoing with hdoing | rfl
      · rcases List.mem_or_eq_of_mem_set hdoing with hdoing | rfl
        · exact h.home doing hdoing hattended
        · cases hattended
      · cases hattended
    case mine => rw [hafter, List.getElem?_set_self (List.getElem?_eq_some_iff.mp hstill).1]
    case stands =>
      have hsame : attending self.execution ((server.doings.set task (other, .over)).set
          self.execution (runtime, .executing (mine.told self.name outcome))) =
          attending self.execution (server.doings.set task (other, .over)) :=
        attending_set hstill rfl
      rw [hafter, hsame]
      exact (Stands.executing hreport hawaited hprospects).told hattending

/-- The turn of any task that runs an entry. -/
theorem stepEntry (h : server.Attends execution runtime scope handed) {task : TaskId}
    {other : RuntimeId} {self : Running}
    (hself : server.doings[task]? = some (other, .running self)) :
    (server.stepEntry task self).Attends execution runtime scope handed := by
  have hperforms := performs_bind task self server self.request
  unfold Server.stepEntry
  generalize server.bind self.request (·.resume task self) = outcome at hperforms ⊢
  cases hperforms with
  | @waits wait acts left hgrows hverdict =>
    have hleft := hgrows.getElem?_doings hself
    refine (h.grows hgrows).of_set (h.ne_of_running hself) hleft (doings_setActivity hleft _) ?_
      (h.grows hgrows).alive rfl
    -- It waits for something else, and is to be expected to end in the same way.
    simp only [attended?, Running.prospect, hverdict]
  | @ends outcome before left hgrows hverdict hend =>
    subst hend
    have hbefore := hgrows.getElem?_doings hself
    by_cases hown : self.execution = execution
    · exact (h.grows hgrows).finishEntry_own hbefore hown hverdict
    · rw [← doings_conclude before self.name outcome] at hbefore
      have hconcluded := grows_conclude before self.name outcome
      exact ((h.grows hgrows).grows hconcluded).finishEntry_other hbefore hown outcome

/-! ### The turn of an execution -/

/-- What the tasks do that an execution makes for entries: they run them if the runtime is alive. -/
def launched (task : TaskId) (runtime : RuntimeId) (request : RequestId) (isAlive : Bool)
    (entry : Entry Job) : RuntimeId × Activity :=
  (runtime, if isAlive then .running (entry.running request task) else .over)

theorem doings_launches (server : Server) (task : TaskId) (runtime : RuntimeId)
    (request : RequestId) (entries : List (Entry Job)) :
    let server' := entries.foldl (fun server entry => server.launch task runtime request entry)
      server
    server'.doings = server.doings ++
        entries.map (launched task runtime request (server.runtime runtime).alive) ∧
      (∀ id, (server'.runtime id).alive = (server.runtime id).alive) ∧
      server'.log = server.log := by
  -- A new task does not change which runtimes are alive.
  induction entries generalizing server with
  | nil => exact ⟨(List.append_nil _).symm, fun _ => rfl, rfl⟩
  | cons entry rest ih =>
    obtain ⟨hdoings, halive, hlog⟩ := ih (server.launch task runtime request entry)
    refine ⟨?_, fun id => (halive id).trans (alive_spawn _ _ _ _ _), hlog.trans (log_spawn _ _ _ _)⟩
    have hfirst : (server.launch task runtime request entry).doings = server.doings ++
        [launched task runtime request (server.runtime runtime).alive entry] :=
      doings_spawn _ _ _ _
    have hsame : ((server.launch task runtime request entry).runtime runtime).alive =
        (server.runtime runtime).alive := alive_spawn _ _ _ _ _
    rw [List.foldl_cons, hdoings, hfirst, hsame, List.append_assoc]
    rfl

/-- Another execution may take its turn. -/
theorem stepExecution_other (h : server.Attends execution runtime scope handed) {task : TaskId}
    {other : RuntimeId} {theirs : Execution}
    (htask : server.doings[task]? = some (other, .executing theirs)) (hne : task ≠ execution) :
    (server.stepExecution task other theirs).Attends execution runtime scope handed := by
  obtain ⟨hdoings, halive, hlog⟩ :=
    doings_launches server task other theirs.request theirs.entries
  unfold Server.stepExecution
  dsimp only
  generalize theirs.entries.foldl _ server = launching at hdoings halive hlog ⊢
  have hlaunched : launching.Attends execution runtime scope handed := by
    refine h.of_append hdoings (fun doing hdoing => ?_) (fun id hid => by rwa [halive])
      (by simp only [hlog, List.prefix_rfl])
    obtain ⟨entry, -, rfl⟩ := List.mem_map.mp hdoing
    unfold launched
    split
    · exact if_neg hne
    · rfl
  have hstill : launching.doings[task]? = some (other, .executing theirs) := by
    rw [hdoings, List.getElem?_append_left (List.getElem?_eq_some_iff.mp htask).1, htask]
  -- The tasks that it makes run nothing for this execution, and neither does it.
  have hset {activity : Activity} (hnone : attended? execution (other, activity) = none) :
      (launching.setActivity task activity).Attends execution runtime scope handed :=
    hlaunched.of_set hne hstill (doings_setActivity hstill _) hnone hlaunched.alive rfl
  split
  · exact hset rfl
  · split
    · exact hset rfl
    · exact grows (hset rfl) (grows_wake _ _)

/-- The execution may go on with other entries in the hands of its tasks. -/
theorem setActivity_own (h : server.Attends execution runtime scope handed)
    {added : List (RuntimeId × Activity)} {activity : Activity}
    (hdoings : server'.doings = server.doings ++ added)
    (hadded : ∀ doing ∈ added, doing.1 = runtime)
    (halive : (server'.runtime runtime).alive) (hlog : server'.log = server.log)
    (hidle : ∀ activity, server.doings[execution]? = some (runtime, activity) →
      attended? execution (runtime, activity) = none)
    (hnone : attended? execution (runtime, activity) = none)
    (hstands : ∀ endings mine, server.doings[execution]? = some (runtime, mine) →
      Stands scope (handed.map Entry.prospect) (attending execution server.doings) endings mine →
      Stands scope (handed.map Entry.prospect)
        (attending execution server.doings ++ attending execution added) endings activity) :
    (server'.setActivity execution activity).Attends execution runtime scope handed := by
  obtain ⟨endings, mine, hmine, hbefore, hwritten⟩ := h.stands
  -- The new tasks are put behind the others, so the execution is still where it was.
  have hstill : server'.doings[execution]? = some (runtime, mine) := by
    rw [hdoings, List.getElem?_append_left (List.getElem?_eq_some_iff.mp hmine).1, hmine]
  have hafter := doings_setActivity hstill activity
  refine ⟨halive, fun doing hdoing hattended => ?home, endings, activity, ?mine, ?stands, ?written⟩
  case home =>
    rw [hafter] at hdoing
    rcases List.mem_or_eq_of_mem_set hdoing with hdoing | rfl
    · rw [hdoings] at hdoing
      rcases List.mem_append.mp hdoing with hold | hnew
      · exact h.home doing hold hattended
      · exact hadded doing hnew
    · rfl
  case mine =>
    rw [hafter, List.getElem?_set_self (List.getElem?_eq_some_iff.mp hstill).1]
  case stands =>
    have hsame : attended? execution (runtime, activity) = attended? execution (runtime, mine) :=
      hnone.trans (hidle mine hmine).symm
    rw [hafter, attending_set hstill hsame, hdoings, attending, List.filterMap_append]
    exact hstands endings mine hmine hbefore
  case written =>
    show List.Subperm _ server'.log
    rwa [hlog]

/-- The execution may take its turn: its entries get tasks, and what has ended is collected. -/
theorem stepExecution_own (h : server.Attends execution runtime scope handed) {mine : Execution}
    (hmine : server.doings[execution]? = some (runtime, .executing mine)) :
    (server.stepExecution execution runtime mine).Attends execution runtime scope handed := by
  obtain ⟨hdoings, halive, hlog⟩ :=
    doings_launches server execution runtime mine.request mine.entries
  rw [h.alive] at hdoings
  unfold Server.stepExecution
  dsimp only
  generalize mine.entries.foldl _ server = launching at hdoings halive hlog ⊢
  have hadded : attending execution
      (mine.entries.map (launched execution runtime mine.request true)) =
        mine.entries.map Entry.prospect := by
    rw [attending, List.filterMap_map, ← List.filterMap_eq_map]
    exact List.filterMap_congr fun entry _ => if_pos rfl
  -- In either way the tasks are the same, and they are those of the entries. So it remains to say
  -- what the execution does next.
  have hset {activity : Activity} (hnone : attended? execution (runtime, activity) = none)
      (hstands : ∀ endings,
        Stands scope (handed.map Entry.prospect) (attending execution server.doings) endings
          (.executing mine) →
        Stands scope (handed.map Entry.prospect)
          (attending execution server.doings ++ mine.entries.map Entry.prospect) endings activity) :
      (launching.setActivity execution activity).Attends execution runtime scope handed := by
    refine h.setActivity_own hdoings (fun doing hdoing => ?_) (by rw [halive, h.alive]) hlog
      (fun activity hactivity => ?_) hnone fun endings activity hactivity hbefore => ?_
    · obtain ⟨entry, -, rfl⟩ := List.mem_map.mp hdoing
      rfl
    · rw [hmine] at hactivity
      cases hactivity
      rfl
    · rw [hmine] at hactivity
      cases hactivity
      rw [hadded]
      exact hstands endings hbefore
  have hcollected : min mine.ended collectedPerStep ≤ mine.ended := Nat.min_le_left _ _
  split
  case isTrue hnothing => exact hset rfl fun endings hbefore => hbefore.finishes hcollected hnothing
  case isFalse =>
    have hexecuting : (launching.setActivity execution (.executing { mine with
        entries := []
        awaited := mine.awaited + mine.entries.length - min mine.ended collectedPerStep
        ended := mine.ended - min mine.ended collectedPerStep })).Attends execution runtime scope
          handed := hset rfl fun endings hbefore => hbefore.collects hcollected
    split
    · exact hexecuting
    · exact hexecuting.grows (grows_wake _ _)

/-! ### Turns, rounds and shutting down -/

/-- Whatever a task does in its turn. -/
theorem takeTurn (h : server.Attends execution runtime scope handed) {task : TaskId}
    {other : RuntimeId} {activity : Activity}
    (htask : server.doings[task]? = some (other, activity)) :
    (server.takeTurn task other activity).Attends execution runtime scope handed := by
  cases activity with
  | executing theirs =>
    -- The execution may be the one that takes its turn here, or another one.
    by_cases hne : task = execution
    · subst hne
      obtain ⟨endings, activity, hactivity, -⟩ := h.stands
      rw [htask] at hactivity
      cases hactivity
      exact h.stepExecution_own htask
    · exact h.stepExecution_other htask hne
  | running self => exact h.stepEntry htask
  | probing =>
    -- An execution never probes.
    have hne : task ≠ execution := by
      rintro rfl
      obtain ⟨endings, activity, hactivity, hstands, -⟩ := h.stands
      rw [htask] at hactivity
      cases hactivity
      cases hstands
    exact h.of_set hne htask (doings_setActivity htask _) rfl h.alive rfl
  | _ => exact h

theorem persists (execution : TaskId) (runtime : RuntimeId) (scope : String)
    (handed : List (Entry Job)) :
    Persists fun server => server.Attends execution runtime scope handed where
  grows h hgrows := h.grows hgrows
  takeTurn h htask := h.takeTurn htask

theorem step (h : server.Attends execution runtime scope handed) (task : TaskId) :
    (server.step task).Attends execution runtime scope handed :=
  (persists execution runtime scope handed).step h task

theorem round (h : server.Attends execution runtime scope handed) (other : RuntimeId) :
    (server.round other).Attends execution runtime scope handed :=
  (persists execution runtime scope handed).round h other

/-- A task that is dropped stays on its runtime. -/
theorem runtimes_cancelTask (server : Server) (task : TaskId) :
    server.doings.map Prod.fst <+: (server.cancelTask task).doings.map Prod.fst := by
  -- Nothing that is done to a task moves it. What it drops may begin new ones, at the end.
  have hsame (change : Task → Task) (hchange : ∀ task, (change task).runtime = task.runtime) :
      (server.changeTask task change).doings.map Prod.fst = server.doings.map Prod.fst := by
    refine List.ext_getElem? fun other => ?_
    rw [List.getElem?_map, List.getElem?_map, getElem?_doings, getElem?_doings, changeTask,
      List.getElem?_modify]
    cases server.tasks[other]? with
    | none => rfl
    | some found => by_cases heq : task = other <;> simp [heq, hchange]
  unfold Server.cancelTask
  split
  case h_1 => exact List.prefix_rfl
  case h_2 runtime ready activity _ =>
    have hcancelled := hsame (fun task =>
      { task with ready := false, activity := activity.cancelled }) fun _ => rfl
    dsimp only
    generalize server.changeTask task _ = cancelled at hcancelled ⊢
    rw [← hcancelled]
    split
    case h_1 =>
      obtain ⟨added, hadded, -⟩ := (grows_onRequest cancelled _ _).doings
      rw [hadded, List.map_append]
      exact List.prefix_append _ _
    case h_2 => exact List.prefix_rfl

/-- A task of another runtime may be dropped. -/
theorem cancelTask (h : server.Attends execution runtime scope handed) {task : TaskId}
    {other : RuntimeId} (htask : (server.doings.map Prod.fst)[task]? = some other)
    (hother : other ≠ runtime) :
    (server.cancelTask task).Attends execution runtime scope handed := by
  unfold Server.cancelTask
  split
  case h_1 => exact h
  case h_2 found ready activity hfound =>
    have hdoing : server.doings[task]? = some (found, activity) := by
      rw [getElem?_doings, hfound]
      rfl
    obtain rfl : found = other := by
      rw [List.getElem?_map, hdoing] at htask
      exact Option.some.inj htask
    have hne : task ≠ execution := by
      rintro rfl
      obtain ⟨endings, mine, hmine, -⟩ := h.stands
      rw [hdoing] at hmine
      cases hmine
      exact hother rfl
    -- It ran no entry of the execution, since those run on another runtime.
    have hidle : attended? execution (found, activity) = none := by
      rw [← Option.not_isSome_iff_eq_none]
      exact fun hsome => hother (h.home _ (List.mem_of_getElem? hdoing) hsome)
    have hnone : attended? execution (found, activity.cancelled) = none := by
      cases activity <;> rfl
    have hcancelled : (server.changeTask task fun task =>
        { task with ready := false, activity := activity.cancelled }).Attends execution runtime
          scope handed :=
      h.of_set hne hdoing (doings_changeTask_set hdoing (fun _ => rfl) fun _ => rfl)
        (hnone.trans hidle.symm) h.alive rfl
    dsimp only
    generalize server.changeTask task _ = cancelled at hcancelled ⊢
    split
    -- A call on a body that it had in flight is abandoned with it.
    case h_1 => exact hcancelled.grows (grows_onRequest _ _ _)
    case h_2 => exact hcancelled

theorem cancelTasks {tasks : List TaskId} {other : RuntimeId} (hother : other ≠ runtime)
    (h : server.Attends execution runtime scope handed)
    (htasks : ∀ task ∈ tasks, (server.doings.map Prod.fst)[task]? = some other) :
    (tasks.foldl Server.cancelTask server).Attends execution runtime scope handed := by
  induction tasks generalizing server with
  | nil => exact h
  | cons task rest ih =>
    have hcancel := h.cancelTask (htasks task (.head _)) hother
    refine ih hcancel fun task' htask => ?_
    have hbefore := htasks task' (.tail _ htask)
    obtain ⟨added, hadded⟩ := runtimes_cancelTask server task
    rw [← hadded, List.getElem?_append_left (List.getElem?_eq_some_iff.mp hbefore).1, hbefore]

/-- Another runtime may be shut down. -/
theorem shutDown (h : server.Attends execution runtime scope handed) {other : RuntimeId}
    (hother : other ≠ runtime) :
    (server.shutDown other).2.Attends execution runtime scope handed := by
  unfold Server.shutDown
  split
  case isFalse => exact h
  case isTrue =>
    have hruntime : (server.changeRuntime other (·.shutDown)).Attends execution runtime scope
        handed := by
      refine ⟨?_, h.home, h.stands⟩
      have hsame : (server.changeRuntime other (·.shutDown)).runtime runtime =
          server.runtime runtime := by
        rw [Server.runtime, changeRuntime, List.getD_eq_getElem?_getD, List.getElem?_modify,
          Server.runtime, List.getD_eq_getElem?_getD]
        cases server.runtimes[runtime]? <;> simp [hother]
      rw [hsame, h.alive]
    dsimp only
    refine grows (cancelTasks hother hruntime fun task htask => ?_) (grows_settle _)
    -- Only tasks of the runtime that goes are cancelled.
    have hon : server.tasks[task]?.any (·.runtime = other) := (List.mem_filter.mp htask).2
    show ((server.tasks.map _).map Prod.fst)[task]? = some other
    rw [List.getElem?_map, List.getElem?_map]
    rcases hfound : server.tasks[task]? with - | found
    · rw [hfound] at hon
      cases hon
    · rw [hfound, Option.any_some, decide_eq_true_iff] at hon
      exact congrArg some hon

end Attends

end Server

end Inbound
