import Mathlib
import Inbound.Proofs.Deferred.Attendance
import Inbound.Proofs.Deferred.Consumption

/-!
# The report on an execution

Whoever waits for an execution gets a report when all entries have ended that were handed to it.
The report has one line for each of them that failed, under its own name, and counts the others;
nothing is counted twice or left out, in whatever order the tasks take their turns, and a failure
does not keep the other entries from getting to their ends.

## Main results

* `Server.attends_executes`: an execution begins to attend to all that was pending in its slot;
* `Server.Attends.run`: it does so whatever happens, unless its runtime is shut down;
* `Server.accounts_for_all`: the report that whoever waits for it gets.
-/

namespace Inbound

open Deferred

/-- What a report has to say of the entries that were handed to an execution. -/
structure Deferred.Report.Accounts (report : Report) (scope : String) (handed : List (Entry Job)) :
    Prop where
  /-- The scope is the one that was executed. -/
  scope : report.scope = scope
  /-- It counts the entries that get to their ends. -/
  succeeded : report.succeeded = (handed.map Entry.prospect).countP succeeds
  /-- It has one line for each entry that fails, in some order. -/
  failed : report.failed.Perm ((handed.map Entry.prospect).filterMap failure?)
  /-- Altogether these are all of them. -/
  total : report.total = handed.length

namespace Server

/-! ### Events -/

/-- Tasks are left at what they do when nobody takes a turn and no runtime is shut down. -/
theorem grows_happen (server : Server) {event : Event} (hturn : ¬event.IsTurn)
    (hkept : ∀ runtime, event ≠ .shutsDown runtime) : server.Grows (server.happen event) := by
  have hsame {server' : Server} (htasks : server'.tasks = server.tasks)
      (hruntimes : server'.runtimes = server.runtimes) (hlog : server'.log = server.log)
      (hbound : server'.bound = server.bound) : server.Grows server' :=
    .of_eq (by rw [doings, htasks, doings]) (fun id => by rw [runtime, hruntimes, runtime]) hlog
      hbound
  cases event with
  | opensRuntime => exact grows_newRuntime server
  | opensRegistry | moves index => exact hsame rfl rfl rfl rfl
  | drops index | leaves id =>
    refine .trans ?_ (grows_settle _)
    exact hsame rfl rfl rfl rfl
  | builds | clones | enters | registers =>
    refine .ite ?_
    exact hsame rfl rfl rfl rfl
  | executes id scope ambient => exact (grows_execute server id scope ambient).ite
  | clears id =>
    refine .ite (.trans ?_ (grows_settle _))
    exact hsame rfl rfl rfl rfl
  | begins id wanted => exact (grows_startCall server id wanted).ite
  | polls index => exact grows_pollKept server index
  | abandons index => exact grows_dropKept server index
  | steps task => exact absurd trivial hturn
  | rounds runtime => exact absurd trivial hturn
  | shutsDown runtime => exact absurd rfl (hkept runtime)

namespace Attends

variable {server : Server} {execution : TaskId} {runtime : RuntimeId} {scope : String}
  {handed : List (Entry Job)}

theorem happen (h : server.Attends execution runtime scope handed) {event : Event}
    (hkept : event ≠ .shutsDown runtime) :
    (server.happen event).Attends execution runtime scope handed := by
  by_cases hturn : event.IsTurn
  · cases event with
    | steps task => exact h.step task
    | rounds other => exact h.round other
    | _ => exact absurd hturn id
  · by_cases hshut : ∃ other, event = .shutsDown other
    · obtain ⟨other, rfl⟩ := hshut
      exact h.shutDown fun heq => hkept (congrArg _ heq)
    · exact h.grows (grows_happen server hturn fun other heq => hshut ⟨other, heq⟩)

/-- Whatever happens, an execution attends to its entries unless its runtime is shut down. -/
theorem run (h : server.Attends execution runtime scope handed) {events : List Event}
    (hkept : .shutsDown runtime ∉ events) :
    (server.run events).Attends execution runtime scope handed := by
  induction events generalizing server with
  | nil => exact h
  | cons event rest ih =>
    rw [List.mem_cons, not_or] at hkept
    exact ih (h.happen fun heq => hkept.1 heq.symm) hkept.2

/-- Whoever waits for the execution lets a runtime go round. -/
theorem await (h : server.Attends execution runtime scope handed) (waiting : RuntimeId)
    (rounds : Nat) :
    (server.await execution waiting rounds).2.Attends execution runtime scope handed ∧
      ∀ report, (server.await execution waiting rounds).1 = some report →
        (server.await execution waiting rounds).2.report? execution = some report := by
  induction rounds generalizing server with
  | zero => exact ⟨h, by rintro _ ⟨⟩⟩
  | succ rounds ih =>
    rw [Server.await]
    split
    case h_1 report hreport => exact ⟨h, fun other hother => hreport.trans hother⟩
    case h_2 => exact ih (h.round waiting)

/-- When the execution has a report, all its entries have ended, and the report accounts for
them. -/
theorem accounts (h : server.Attends execution runtime scope handed) {report : Report}
    (hreport : server.report? execution = some report) :
    report.Accounts scope handed ∧
      ((handed.map Entry.prospect).filterMap doneLine?).Subperm server.log ∧
      ∀ task running, server.activity? task = some (.running running) →
        running.execution ≠ execution := by
  obtain ⟨endings, activity, hactivity, hstands, hwritten⟩ := h.stands
  rw [report?, activity?_eq_doings, hactivity] at hreport
  cases hstands with
  | executing => cases hreport
  | executed hsummary hrunning hprospects =>
    cases hreport
    refine ⟨⟨?scope, ?succeeded, ?failed, ?total⟩, ?written, fun task running hrunner hown => ?none⟩
    case scope => rw [hsummary, Report.summary_eq]
    case succeeded => rw [hsummary, Report.summary_eq, hprospects.countP_eq]
    case failed =>
      rw [hsummary, Report.summary_eq]
      exact (hprospects.filterMap failure?).symm
    case total =>
      have hlength := hprospects.length_eq
      rw [List.length_map, List.length_map] at hlength
      rw [hsummary, Report.total_summary, hlength]
    case written => exact (hprospects.filterMap doneLine?).subperm.trans hwritten
    case none =>
      -- An entry that ran would be one to attend to.
      rw [activity?_eq_doings] at hrunner
      obtain ⟨⟨other, _⟩, hdoing, hrunner⟩ := Option.map_eq_some_iff.mp hrunner
      cases hrunner
      have hattended : running.prospect ∈ attending execution server.doings :=
        List.mem_filterMap.mpr ⟨_, List.mem_of_getElem? hdoing, if_pos hown⟩
      rw [hrunning] at hattended
      cases hattended

end Attends

/-! ### The beginning -/

/-- Nothing runs for a task that is still to come. -/
theorem attended?_length {server : Server} {ledger : Ledger}
    (h : Books.Balanced ⟨server.stock, ledger⟩) {doing : RuntimeId × Activity}
    (hdoing : doing ∈ server.doings) : attended? server.tasks.length doing = none := by
  obtain ⟨runtime, activity⟩ := doing
  cases activity with
  | running running =>
    obtain ⟨task, htask⟩ := List.getElem?_of_mem hdoing
    have hactivity : server.activity? task = some (.running running) := by
      rw [activity?_eq_doings, htask]
      rfl
    -- The ledger knows for which execution the entry runs, and that is one of the tasks.
    have hlt : running.execution < server.tasks.length := by
      obtain ⟨-, hbacked⟩ := h.backed _ _ (getElem?_stakes_of_activity? hactivity)
      rw [← length_stakes]
      unfold Running.stake at hbacked
      split at hbacked
      · obtain ⟨record, hrecord, hfate, -⟩ := hbacked
        exact h.consistent.execution_lt record hrecord _ (by rw [hfate]; rfl)
      · obtain ⟨record, hrecord, hfate, -⟩ := hbacked
        exact h.consistent.execution_lt record hrecord _ (by rw [hfate]; rfl)
    exact if_neg (Nat.ne_of_lt hlt)
  | _ => rfl

/-- An execution begins with all that is pending in its slot in its hands. -/
theorem attends_handOver {server : Server} {id : RequestId} {scope : String} {runtime : RuntimeId}
    (hnobody : ∀ doing ∈ server.doings, attended? server.tasks.length doing = none)
    (halive : (server.runtime runtime).alive) :
    (server.handOver id scope runtime).Attends server.tasks.length runtime scope
      ((server.registry (server.request id).registry).take ⟨id, scope⟩).1 := by
  have hdoings : (server.handOver id scope runtime).doings = server.doings ++ [(runtime,
      .executing ⟨id, ((server.registry (server.request id).registry).take ⟨id, scope⟩).1, 0, 0,
        .start scope⟩)] := by
    rw [doings_handOver, if_pos halive]
  generalize ((server.registry (server.request id).registry).take ⟨id, scope⟩).1 = taken
    at hdoings ⊢
  -- The only new task is the execution itself, which is none of its entries.
  have hnone : ∀ doing ∈ (server.handOver id scope runtime).doings,
      attended? server.tasks.length doing = none := by
    intro doing hdoing
    rw [hdoings] at hdoing
    rcases List.mem_append.mp hdoing with hdoing | hdoing
    · exact hnobody doing hdoing
    · rw [List.mem_singleton.mp hdoing]
      rfl
  have hattending : attending server.tasks.length (server.handOver id scope runtime).doings = [] :=
    List.filterMap_eq_nil_iff.mpr hnone
  refine ⟨(grows_handOver server id scope runtime).alive _ halive, fun doing hdoing hsome => ?_,
    [], .executing ⟨id, taken, 0, 0, .start scope⟩, ?_, ?_, List.nil_subperm⟩
  · rw [hnone doing hdoing] at hsome
    cases hsome
  · rw [hdoings, ← length_doings, List.getElem?_concat_length]
  · rw [hattending]
    exact .executing rfl rfl (by simp)

/-- Whoever executes a scope begins an execution that attends to all that is pending in it. -/
theorem attends_executes {server : Server} {ledger : Ledger} {id : RequestId} {scope : String}
    {ambient : Option RuntimeId} {runtime : RuntimeId}
    (h : Books.Balanced ⟨server.stock, ledger⟩) (hholds : id ∈ server.holders)
    (hruntime : ((server.request id).runtime <|> ambient) = some runtime)
    (halive : (server.runtime runtime).alive) :
    (server.happen (.executes id scope ambient)).Attends server.tasks.length runtime scope
      ((server.registry (server.request id).registry).entries ⟨id, scope⟩) := by
  have hwellFormed : (server.registry (server.request id).registry).WellFormed := by
    have hhome := h.wellFormed_home id
    rw [home_stock] at hhome
    exact hhome
  dsimp only [happen]
  rw [if_pos hholds, execute_of_some hruntime, ← hwellFormed.take_fst]
  exact (attends_handOver (fun _ => attended?_length h) halive).grows (grows_settle _)

/-- Whatever the entries do that are pending in a slot when it is executed on a runtime that is
alive, and whatever happens from then on, unless that runtime is shut down: the report that whoever
waits for the execution gets accounts for all of these entries. Those that it counts have written
that they are done, and no entry is left running. -/
theorem accounts_for_all {before after : List Event} {id : RequestId} {scope : String}
    {ambient : Option RuntimeId} {runtime waiting : RuntimeId} {execution : TaskId} {rounds : Nat}
    {report : Report} (hholds : id ∈ (fresh.run before).holders)
    (hruntime : (((fresh.run before).request id).runtime <|> ambient) = some runtime)
    (halive : ((fresh.run before).runtime runtime).alive)
    (hexecutes : ((fresh.run before).execute id scope ambient).1 = .ok execution)
    (hkept : .shutsDown runtime ∉ after)
    (hreport : ((fresh.run (before ++ .executes id scope ambient :: after)).await execution waiting
      rounds).1 = some report) :
    let home := (fresh.run before).registry ((fresh.run before).request id).registry
    let handed := home.entries ⟨id, scope⟩
    let server := ((fresh.run (before ++ .executes id scope ambient :: after)).await execution
      waiting rounds).2
    report.Accounts scope handed ∧
      ((handed.map Entry.prospect).filterMap doneLine?).Subperm server.log ∧
      ∀ task running, server.activity? task = some (.running running) →
        running.execution ≠ execution := by
  intro home handed server
  obtain ⟨ledger, hbalanced⟩ := exists_balanced before
  have hexecution : execution = (fresh.run before).tasks.length := by
    rw [execute_of_some hruntime] at hexecutes
    cases hexecutes
    rfl
  have hbegun : ((fresh.run before).happen (.executes id scope ambient)).Attends execution runtime
      scope handed := by
    rw [hexecution]
    exact attends_executes hbalanced hholds hruntime halive
  have hrun : (fresh.run (before ++ .executes id scope ambient :: after)).Attends execution runtime
      scope handed := by
    have hattends := hbegun.run hkept
    rwa [run, List.foldl_append]
  obtain ⟨hawait, hyields⟩ := hrun.await waiting rounds
  exact hawait.accounts (hyields report hreport)

/-- Three entries are registered: one gives up after a pause, one panics when it is called, and one
gets to its end. -/
def threeRegistered : List Event :=
  [.opensRegistry, .builds default,
    .registers 0 "gives up" "end" ⟨[], none, [.pause 1, .giveUp "no reply"]⟩,
    .registers 0 "panics" "end" ⟨[], some (.text "empty"), []⟩,
    .registers 0 "ends" "end" ⟨[], none, [.note "sent"]⟩]

/-- The one that panics ends before the one that gives up. -/
theorem accounts_for_three :
    let report : Report :=
      ⟨"end", 1, [("panics", "panicked: empty"), ("gives up", "no reply")]⟩
    ((fresh.run (threeRegistered ++ [.executes 0 "end" (some 0)])).await 0 0 3).1 = some report ∧
      report.Accounts "end" (((fresh.run threeRegistered).registry 0).entries ⟨0, "end"⟩) := by
  intro report
  have hholds : 0 ∈ (fresh.run threeRegistered).holders := List.mem_of_elem_eq_true (by cbv)
  have hruntime : (((fresh.run threeRegistered).request 0).runtime <|> some 0) = some 0 := by cbv
  have halive : ((fresh.run threeRegistered).runtime 0).alive := by cbv
  have hexecutes : ((fresh.run threeRegistered).execute 0 "end" (some 0)).1 = .ok 0 := by cbv
  have hkept : Event.shutsDown 0 ∉ ([] : List Event) := List.not_mem_nil
  have hreport : ((fresh.run (threeRegistered ++ [.executes 0 "end" (some 0)])).await 0 0 3).1 =
      some report := by cbv
  have hhome : ((fresh.run threeRegistered).request 0).registry = 0 := by cbv
  have haccounts := (accounts_for_all hholds hruntime halive hexecutes hkept hreport).1
  rw [hhome] at haccounts
  exact ⟨hreport, haccounts⟩

end Server

end Inbound
