import Mathlib
import Inbound.Proofs.Server.Bound

/-!
# Entries see their own request

Entries of many requests take their turns one after the other, in any order. Code anywhere lets
them: outside of all scopes, in a scope of another request, or in an entry that executes in its
turn. Wherever an entry looks in one of its turns, from the one in which it is called to the last,
it sees the request that it was registered for, and this is the request that it works with. When the
turn ends, what was bound before is bound again, so that neither the code that let the entry run nor
the next task sees anything of it.

The points at which an entry can look are told by cutting it short: an entry that would have to
hang behind some of its acts gets to that point just if it hangs there.

## Main results

* `Server.arrived?`: the server as an entry finds it when it has performed some of its acts;
* `Server.resume_of_arrived`: from there the entry goes on;
* `Server.Event.Takes`: the turns in something that happens;
* `Server.entries_see_own`: what entries see in all their turns.
-/

namespace Inbound

open Deferred

namespace Server

/-! ### Points in a turn -/

/-- The server when an entry has performed these acts in a turn, unless the turn has ended before:
an entry that has only them before it, and is to hang then, hangs. -/
def arrived? (server : Server) (task : TaskId) (self : Running) (performed : List Act) :
    Option Server :=
  match server.resume task { self with acts := performed ++ [.hang] } with
  | (.waits .hang [], server) => some server
  | _ => none

/-- What an entry performs depends on its name and its request only. -/
theorem perform_withActs (server : Server) (task : TaskId) (self : Running)
    (acts other : List Act) :
    server.perform task { self with acts := other } acts = server.perform task self acts := by
  -- An act that waits puts down what is left to do, whatever was put down before.
  induction acts generalizing server with
  | nil => rfl
  | cons act rest ih =>
    cases act with
    | pause times =>
      cases times with
      | zero => exact ih server
      | succ times => rfl
    | readBody =>
      rw [perform, perform]
      dsimp only
      split
      · rfl
      · exact ih _
    | meet barrier parties =>
      rw [perform, perform]
      split
      · rfl
      · exact ih _
    | note | keep | register | execute | checkBinding => exact ih _
    | hang | giveUp | panic => rfl

/-- Acts that an entry gets through are performed before all others. -/
theorem perform_append {server inside : Server} {task : TaskId} {self : Running}
    {performed : List Act}
    (h : server.perform task self (performed ++ [.hang]) = (.waits .hang [], inside))
    (rest : List Act) :
    server.perform task self (performed ++ rest) = inside.perform task self rest := by
  induction performed generalizing server with
  | nil =>
    cases h
    rfl
  | cons act performed ih =>
    rw [List.cons_append] at h ⊢
    cases act with
    | pause times =>
      cases times with
      | zero => exact ih h
      | succ times => cases h
    | readBody =>
      rw [perform] at h ⊢
      dsimp only at h ⊢
      split at h
      · cases h
      · exact ih h
    | meet barrier parties =>
      rw [perform] at h ⊢
      split at h
      · cases h
      · exact ih h
    | note | keep | register | execute | checkBinding => exact ih h
    | hang =>
      -- It would hang before the others are performed.
      cases performed <;> cases h
    | giveUp | panic => cases h

/-- From a point that it has got to in a turn, an entry goes on with the acts that are left. -/
theorem resume_of_arrived {server inside : Server} {task : TaskId} {self : Running}
    {performed rest : List Act} (h : server.arrived? task self performed = some inside)
    (hacts : self.acts = performed ++ rest) :
    server.resume task self = inside.perform task self rest := by
  obtain ⟨name, request, execution, held, panicOnCall, wait, acts⟩ := self
  dsimp only at hacts
  subst hacts
  have hcut : server.resume task ⟨name, request, execution, held, panicOnCall, wait,
      performed ++ [.hang]⟩ = (.waits .hang [], inside) := by
    unfold arrived? at h
    dsimp only at h
    split at h
    · next heq =>
      cases h
      exact heq
    · cases h
  -- The entry performs the same acts in the end, whatever stands before it as acts.
  have hgoes {begun : Server}
      (hcut : begun.perform task ⟨name, request, execution, held, panicOnCall, wait,
        performed ++ [.hang]⟩ (performed ++ [.hang]) = (.waits .hang [], inside)) :
      begun.perform task ⟨name, request, execution, held, panicOnCall, wait, performed ++ rest⟩
        (performed ++ rest) = inside.perform task ⟨name, request, execution, held, panicOnCall,
          wait, performed ++ rest⟩ rest := by
    refine perform_append ?_ rest
    rw [← hcut]
    exact perform_withActs begun task ⟨name, request, execution, held, panicOnCall, wait,
      performed ++ [.hang]⟩ _ (performed ++ rest)
  cases wait with
  | start =>
    cases panicOnCall with
    | some panic => cases hcut
    | none => exact hgoes hcut
  | pause times =>
    simp only [resume] at hcut ⊢
    split at hcut
    · next hlast =>
      rw [if_pos hlast]
      exact hgoes hcut
    · cases hcut
  | body call =>
    simp only [resume] at hcut ⊢
    split at hcut
    · cases hcut
    · exact hgoes hcut
  | barrier barrier opening =>
    simp only [resume] at hcut ⊢
    split at hcut
    · next hopened =>
      rw [if_pos hopened]
      exact hgoes hcut
    · cases hcut
  | hang =>
    simp only [resume] at hcut
    cases performed <;> cases hcut

/-- Wherever an entry is in a turn, the request is bound that was bound when it went on. -/
theorem bound_arrived {server inside : Server} {task : TaskId} {self : Running}
    {performed : List Act} (h : server.arrived? task self performed = some inside) :
    inside.bound = server.bound := by
  have hgrows := (performs_resume task { self with acts := performed ++ [.hang] } server).grows
  unfold arrived? at h
  split at h
  · next heq =>
    cases h
    rw [heq] at hgrows
    exact hgrows.bound
  · cases h

/-! ### Turns of an entry -/

/-- The server as the code of an entry finds it when a turn of the entry begins. -/
def found (server : Server) (task : TaskId) (self : Running) : Server :=
  ((server.enterTurn task).enter self.request).2

/-- The server when the code of an entry has stopped, and the task has left its turn. -/
def afterCode (server : Server) (task : TaskId) (runtime : RuntimeId) (self : Running)
    (outcome : Halt × Server) : Server :=
  let left := outcome.2.leave ⟨server.bound⟩
  let ended := match outcome.1 with
    | .waits wait acts => left.setActivity task (.running { self with wait, acts })
    | .ends outcome => left.finishEntry task self outcome
  (ended.leaveTurn task runtime).settle

/-- In a turn of an entry its own request is bound wherever it may look. -/
structure SeesOwn (server : Server) (task : TaskId) (self : Running) : Prop where
  /-- The turn consists of what the code does that finds its own request bound; then what was bound
  before is bound again. -/
  turn : (server.found task self).bound = some self.request ∧ ∃ runtime, server.step task =
    server.afterCode task runtime self ((server.found task self).resume task self)
  /-- Wherever the code gets to, its own request is bound, and from there it goes on. -/
  points : ∀ performed rest inside, self.acts = performed ++ rest →
    (server.found task self).arrived? task self performed = some inside →
      inside.bound = some self.request ∧
        (server.found task self).resume task self = inside.perform task self rest

theorem seesOwn {server : Server} {task : TaskId} {self : Running}
    (h : server.activity? task = some (.running self)) : server.SeesOwn task self where
  turn := by
    obtain ⟨⟨runtime, ready, _⟩, htask, rfl⟩ := Option.map_eq_some_iff.mp h
    exact ⟨rfl, runtime, step_of_getElem? htask⟩
  points performed rest inside hacts hinside :=
    ⟨bound_arrived hinside, resume_of_arrived hinside hacts⟩

/-! ### Turns of all tasks -/

/-- The turn that a task takes after so many others while a runtime runs its tasks, with the server
in which it begins, if there are so many turns. -/
def turnAfter? (server : Server) (runtime : RuntimeId) (turns : ℕ) : Option (Server × TaskId) :=
  let server := server.runTasks runtime turns
  let (task, queue) := (server.runtime runtime).next
  task.map fun task => (server.changeRuntime runtime fun _ => queue, task)

/-- A queue from which no task could be taken has no task for anyone who asks again. -/
theorem next_of_none {queue : RunQueue} (h : queue.next.1 = none) : queue.next.2.next.1 = none := by
  unfold RunQueue.next at h ⊢
  dsimp only at h ⊢
  split at h
  · next hnear hremote =>
    simp only [hnear, hremote]
  · cases h
  · cases h
  · split at h <;> cases h

theorem next_changeRuntime {server : Server} {runtime : RuntimeId}
    (h : (server.runtime runtime).next.1 = none) :
    ((server.changeRuntime runtime fun _ => (server.runtime runtime).next.2).runtime
      runtime).next.1 = none := by
  rw [Server.runtime, changeRuntime, List.getD_eq_getElem?_getD, List.getElem?_modify_eq]
  cases server.runtimes[runtime]? with
  | none => rfl
  | some queue => exact next_of_none h

/-- The turns come one after the other. -/
theorem runTasks_of_turnAfter {server before : Server} {runtime : RuntimeId} {turns : ℕ}
    {task : TaskId} (h : server.turnAfter? runtime turns = some (before, task)) :
    server.runTasks runtime (turns + 1) = before.step task := by
  induction turns generalizing server with
  | zero =>
    unfold turnAfter? at h
    rw [runTasks]
    dsimp only [runTasks] at h ⊢
    split
    · next hnone => rw [hnone] at h; cases h
    · next hsome =>
      rw [hsome] at h
      cases h
      rfl
  | succ turns ih =>
    rw [runTasks]
    dsimp only
    split
    · next hnone =>
      -- There was no turn at all, so there is none now.
      rw [turnAfter?, runTasks] at h
      dsimp only at h
      rw [hnone] at h
      dsimp only at h
      rw [next_changeRuntime hnone] at h
      cases h
    · next first hsome =>
      refine ih ?_
      rw [← h, turnAfter?, turnAfter?]
      conv => rhs; rw [runTasks]
      dsimp only
      rw [hsome]

/-- A task takes a turn in the course of something that happens, which the server begins like
this. -/
def Event.Takes (server : Server) (event : Event) (before : Server) (task : TaskId) : Prop :=
  match event with
  | .steps other => before = server ∧ task = other
  | .rounds runtime => ∃ turns < RunQueue.roundSize,
      server.turnAfter? runtime turns = some (before, task)
  | _ => False

/-- The server when so many tasks have taken their turns, and another one is to take its turn. -/
theorem eq_of_turnAfter {server before : Server} {runtime : RuntimeId} {turns : ℕ} {task : TaskId}
    (h : server.turnAfter? runtime turns = some (before, task)) :
    before = (server.runTasks runtime turns).changeRuntime runtime
      fun _ => ((server.runTasks runtime turns).runtime runtime).next.2 := by
  unfold turnAfter? at h
  dsimp only at h
  obtain ⟨other, -, hpair⟩ := Option.map_eq_some_iff.mp h
  cases hpair
  rfl

/-- Whatever tasks have taken their turns before, the next one begins with the same request
bound. -/
theorem Event.Takes.bound {server before : Server} {event : Event} {task : TaskId}
    (h : event.Takes server before task) : before.bound = server.bound := by
  cases event with
  | steps other => exact congrArg Server.bound h.1
  | rounds runtime =>
    obtain ⟨turns, -, hturn⟩ := h
    rw [eq_of_turnAfter hturn]
    exact (sees_runTasks server runtime turns).bound
  | _ => exact h.elim

/-- What has happened to deferred work before a turn amounts to deeds. -/
theorem Event.Takes.becomes {server before : Server} {event : Event} {task : TaskId}
    (h : event.Takes server before task) (hcurrent : server.current = none) :
    server.stock.Becomes before.stock ∧ before.current = none := by
  cases event with
  | steps other =>
    rw [h.1]
    exact ⟨.refl _, hcurrent⟩
  | rounds runtime =>
    obtain ⟨turns, -, hturn⟩ := h
    rw [eq_of_turnAfter hturn]
    exact becomes_runTasks runtime turns hcurrent
  | _ => exact h.elim

/-! ### What happens in scopes -/

/-- Something that happens where the scopes around the code bind this request, if they do. -/
structure Occurrence where
  around : Option RequestId
  event : Event

/-- The server for code in a scope of a request, or outside of all scopes. -/
def inScope (server : Server) (around : Option RequestId) : Server :=
  { server with bound := around }

/-- Something happens in a scope. -/
def undergo (server : Server) (occurrence : Occurrence) : Server :=
  (server.inScope occurrence.around).happen occurrence.event

/-- One thing happens after the other, each in scopes of its own. -/
def endure (server : Server) (history : List Occurrence) : Server :=
  history.foldl undergo server

theorem endure_concat (server : Server) (history : List Occurrence) (occurrence : Occurrence) :
    server.endure (history ++ [occurrence]) = (server.endure history).undergo occurrence :=
  List.foldl_append

theorem current_undergo {server : Server} (h : server.current = none) (occurrence : Occurrence) :
    (server.undergo occurrence).current = none := by
  have hidle : (server.inScope occurrence.around).current = none := h
  exact current_happen hidle occurrence.event

theorem current_endure (history : List Occurrence) : (fresh.endure history).current = none := by
  induction history using List.reverseRecOn with
  | nil => rfl
  | append_singleton history occurrence ih =>
    rw [endure_concat]
    exact current_undergo ih occurrence

/-- One ledger for each history says for which request every entry was registered, and what has
become of it. -/
structure Chronicles (ledgers : List Occurrence → Ledger) : Prop where
  /-- Nothing has been registered at the beginning. -/
  start : ledgers [] = []
  /-- Whatever happens amounts to deeds. -/
  deeds : ∀ history occurrence,
    Deeds ⟨(fresh.endure history).stock, ledgers history⟩
      ⟨(fresh.endure (history ++ [occurrence])).stock, ledgers (history ++ [occurrence])⟩
  /-- Turns apart, it is known what is entered. -/
  entered : ∀ history occurrence, ¬occurrence.event.IsTurn →
    ledgers (history ++ [occurrence]) =
      (occurrence.event.entered (fresh.endure history) (ledgers history)).lose
        (fresh.endure (history ++ [occurrence])).live

/-- The books balance at every moment. -/
theorem Chronicles.balanced {ledgers : List Occurrence → Ledger} (h : Chronicles ledgers)
    (history : List Occurrence) :
    Books.Balanced ⟨(fresh.endure history).stock, ledgers history⟩ := by
  induction history using List.reverseRecOn with
  | nil =>
    rw [h.start]
    exact balanced_fresh
  | append_singleton history occurrence ih => exact (h.deeds history occurrence).balanced ih

section Carrying

variable {σ ι κ : Type}

/-- A history is gone through, and something is carried along with it. -/
def carry (act : σ → ι → σ) (next : σ → κ → ι → κ) (begun : σ × κ) (history : List ι) : σ × κ :=
  history.foldl (fun pair i => (act pair.1 i, next pair.1 pair.2 i)) begun

theorem carry_concat (act : σ → ι → σ) (next : σ → κ → ι → κ) (begun : σ × κ) (history : List ι)
    (i : ι) : carry act next begun (history ++ [i]) =
      (act (carry act next begun history).1 i,
        next (carry act next begun history).1 (carry act next begun history).2 i) :=
  List.foldl_append

/-- What can be carried along with each thing that happens can be carried along with histories. -/
theorem exists_carried (act : σ → ι → σ) (Fits : σ → κ → Prop) (Goes : σ → κ → ι → κ → Prop)
    {start : σ} {first : κ} (hstart : Fits start first)
    (hgoes : ∀ state kept i, Fits state kept →
      ∃ kept', Goes state kept i kept' ∧ Fits (act state i) kept') :
    ∃ carried : List ι → κ, carried [] = first ∧ ∀ history i,
      Goes (history.foldl act start) (carried history) i (carried (history ++ [i])) := by
  have hnext (state : σ) (kept : κ) (i : ι) :
      ∃ kept', Fits state kept → Goes state kept i kept' ∧ Fits (act state i) kept' := by
    by_cases hfits : Fits state kept
    · obtain ⟨kept', hkept'⟩ := hgoes state kept i hfits
      exact ⟨kept', fun _ => hkept'⟩
    · exact ⟨first, fun h => absurd h hfits⟩
  choose next hnext using hnext
  -- The state is that of the history, and what is carried along fits it all the way.
  have hcarry (history : List ι) :
      (carry act next (start, first) history).1 = history.foldl act start ∧
        Fits (history.foldl act start) (carry act next (start, first) history).2 := by
    induction history using List.reverseRecOn with
    | nil => exact ⟨rfl, hstart⟩
    | append_singleton history i ih =>
      rw [carry_concat, List.foldl_append, ih.1]
      exact ⟨rfl, (hnext _ _ i ih.2).2⟩
  refine ⟨fun history => (carry act next (start, first) history).2, rfl, fun history i => ?_⟩
  obtain ⟨hstate, hfits⟩ := hcarry history
  dsimp only
  rw [carry_concat, hstate]
  exact (hnext _ _ i hfits).1

end Carrying

/-- It makes no difference to what is entered which request is bound. -/
theorem Event.entered_inScope (server : Server) (ledger : Ledger) (event : Event)
    (around : Option RequestId) :
    event.entered (server.inScope around) ledger = event.entered server ledger := by
  cases event <;> rfl

theorem exists_chronicles : ∃ ledgers, Chronicles ledgers := by
  obtain ⟨ledgers, hstart, hgoes⟩ := exists_carried undergo
    (fun server ledger => Books.Balanced ⟨server.stock, ledger⟩ ∧ server.current = none)
    (fun server ledger occurrence ledger' =>
      CarriesOn (server.inScope occurrence.around) ledger occurrence.event ledger')
    ⟨balanced_fresh, rfl⟩ fun server ledger occurrence hfits => by
      have hbalanced : Books.Balanced ⟨(server.inScope occurrence.around).stock, ledger⟩ := hfits.1
      obtain ⟨ledger', hledger'⟩ := exists_carriesOn hbalanced.orderly hfits.2 occurrence.event
      exact ⟨ledger', hledger', hledger'.deeds.balanced hfits.1, current_undergo hfits.2 occurrence⟩
  refine ⟨ledgers, hstart, fun history occurrence => ?deeds,
    fun history occurrence hturn => ?entered⟩
  case deeds =>
    rw [endure_concat]
    exact (hgoes history occurrence).deeds
  case entered =>
    rw [endure_concat, ← Event.entered_inScope _ _ _ occurrence.around]
    exact (hgoes history occurrence).entered hturn

/-! ### All entries -/

/-- The record is that of the entry that a task runs: the entry was registered for the request that
it works with now, its execution has given it to this task, and it begins as it was registered. -/
structure Runs (task : TaskId) (self : Running) (record : Record) : Prop where
  request : record.slot.request = self.request
  name : record.entry.name = self.name
  execution : record.fate.execution? = some self.execution
  runner : record.fate.runner? = some task
  start : self.wait = .start → self = record.entry.running record.slot.request self.execution

/-- There is a record of every entry that runs. -/
theorem exists_runs {server : Server} {ledger : Ledger}
    (h : Books.Balanced ⟨server.stock, ledger⟩) (hcurrent : server.current = none) {task : TaskId}
    {self : Running} (hactivity : server.activity? task = some (.running self)) :
    ∃ record ∈ ledger, Runs task self record := by
  have hstake := getElem?_stakes_of_activity? hactivity
  rw [hcurrent] at hstake
  obtain ⟨-, hbacked⟩ := h.backed task _ hstake
  -- Before its first turn a task has all of the entry in its hands, and later what it works with.
  by_cases hwait : self.wait = .start
  · have hstarting : self.stake (decide (none = some task)) = .starting self := by
      unfold Running.stake
      rw [hwait]
      rfl
    rw [hstarting] at hbacked
    obtain ⟨record, hrecord, hfate, hrunning⟩ := hbacked
    have hrequest := congrArg Running.request hrunning
    have hname := congrArg Running.name hrunning
    refine ⟨record, hrecord, hrequest.symm, hname.symm, ?_, ?_, fun _ => hrunning⟩
    · rw [hfate]; rfl
    · rw [hfate]; rfl
  · rw [Running.stake_of_ne_start hwait] at hbacked
    obtain ⟨record, hrecord, hfate, hrequest, hname⟩ := hbacked
    refine ⟨record, hrecord, hrequest, hname, ?_, ?_, fun hstart => absurd hstart hwait⟩
    · rw [hfate]; rfl
    · rw [hfate]; rfl

/-- Whatever happens in whatever scopes, and in whatever order the tasks take their turns: what is
bound around the code that lets it happen is bound when each turn begins, and when it has ended.
The turns of a runtime are steps that come one after the other. In all turns of an entry its own
request is bound wherever it gets to, and that is the one that it was registered for. -/
theorem entries_see_own : ∃ ledgers, Chronicles ledgers ∧
    ∀ (history : List Occurrence) (around : Option RequestId) (event : Event),
      let server := (fresh.endure history).inScope around
      (server.happen event).bound = around ∧
      (∀ (runtime : RuntimeId) (turns : ℕ) (before : Server) (task : TaskId),
        server.turnAfter? runtime turns = some (before, task) →
          server.runTasks runtime (turns + 1) = before.step task) ∧
      ∀ (before : Server) (task : TaskId), event.Takes server before task →
        before.bound = around ∧ (before.step task).bound = around ∧
        ∃ ledger, Deeds ⟨server.stock, ledgers history⟩ ⟨before.stock, ledger⟩ ∧
          ∀ self, before.activity? task = some (.running self) →
            before.SeesOwn task self ∧ ∃ record ∈ ledger, Runs task self record := by
  obtain ⟨ledgers, hledgers⟩ := exists_chronicles
  refine ⟨ledgers, hledgers, fun history around event => ?_⟩
  intro server
  have hbalanced : Books.Balanced ⟨server.stock, ledgers history⟩ := hledgers.balanced history
  refine ⟨(sees_happen server event).bound, fun _ _ _ _ => runTasks_of_turnAfter,
    fun before task htakes => ?_⟩
  have hbefore : before.bound = around := htakes.bound
  obtain ⟨hbecomes, hidle⟩ := htakes.becomes (current_endure history)
  obtain ⟨ledger, hdeeds⟩ := hbecomes _ hbalanced.orderly
  refine ⟨hbefore, (sees_step before task).bound.trans hbefore, ledger, hdeeds, ?_⟩
  intro self hself
  exact ⟨seesOwn hself, exists_runs (hdeeds.balanced hbalanced) hidle hself⟩

-- Code in a scope of request 1 executes an entry of request 0, and the runtime goes round in a
-- scope of request 0. Both entries look in two turns each, in between each other.
example :
    let job : Job := ⟨[], none, [.checkBinding, .pause 1, .checkBinding]⟩
    let history : List Occurrence := [⟨none, .opensRegistry⟩, ⟨none, .builds default⟩,
      ⟨none, .builds default⟩, ⟨none, .registers 0 "a" "" job⟩, ⟨none, .registers 1 "b" "" job⟩,
      ⟨some 1, .executes 0 "" (some 0)⟩, ⟨none, .executes 1 "" (some 0)⟩, ⟨some 0, .rounds 0⟩,
      ⟨some 0, .rounds 0⟩]
    (fresh.endure history).log = ["a|start|/|true", "a|current true", "b|start|/|true",
      "b|current true", "b|current true", "b|done", "a|current true", "a|done"] := by
  cbv

end Server

end Inbound
