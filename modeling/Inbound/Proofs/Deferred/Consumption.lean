import Mathlib.Data.List.Induction
import Mathlib.Tactic.Choose
import Inbound.Proofs.Deferred.Tasks

/-!
# Deferred work is consumed once

Handles are made, moved and dropped, entries are registered, executed and cleared by whoever has a
request, bodies are read, runtimes go round and are shut down, and tasks take their turns, all in
any order. Whatever has happened, one ledger says what has become of every entry that was ever
registered, by an entry that runs or by anyone else: it is pending in its own slot, or was handed
to one execution and called at most once, or was thrown away when its request was cleared or went.

## Main results

* `Server.deeds_happen`: what is entered in the ledger when something happens to the server;
* `Server.exists_consumesOnce`: the ledger of all runs.
-/

namespace Inbound

open Deferred

namespace Server

/-! ### Events -/

/-- What can happen to a server. -/
inductive Event where
  /-- A registry is made. -/
  | opensRegistry
  /-- A runtime is made. -/
  | opensRuntime
  /-- A request is made that uses a registry. -/
  | builds (request : Request)
  /-- Whoever has a request makes another handle on it. -/
  | clones (id : RequestId)
  /-- A handle is moved out of the table. -/
  | moves (index : Nat)
  /-- A handle is dropped. -/
  | drops (index : Nat)
  /-- Whoever has a request makes a scoped future for it. -/
  | enters (id : RequestId)
  /-- A scoped future is gone. -/
  | leaves (id : RequestId)
  /-- Whoever has a request registers an entry for it. -/
  | registers (id : RequestId) (name scope : String) (job : Job)
  /-- Whoever has a request executes a scope of it. -/
  | executes (id : RequestId) (scope : String) (ambient : Option RuntimeId)
  /-- Whoever has a request throws all its entries away. -/
  | clears (id : RequestId)
  /-- Whoever has a request begins a call on its body. -/
  | begins (id : RequestId) (wanted : BodyCall)
  /-- A call on a body is polled. -/
  | polls (index : Nat)
  /-- A call on a body is dropped. -/
  | abandons (index : Nat)
  /-- Any task takes a step. -/
  | steps (task : TaskId)
  /-- A runtime goes round. -/
  | rounds (runtime : RuntimeId)
  /-- A runtime is shut down. -/
  | shutsDown (runtime : RuntimeId)

/-- Something happens to a server, if it can. -/
def happen (server : Server) : Event → Server
  | .opensRegistry => server.newRegistry.2
  | .opensRuntime => server.newRuntime.2
  | .builds request =>
    if request.registry < server.registries.length then (server.build request).2 else server
  | .clones id => if id ∈ server.holders then (server.clone id).2 else server
  | .moves index => server.takeHandle index
  | .drops index => server.dropHandle index
  | .enters id => if id ∈ server.holders then server.openScope id else server
  | .leaves id => server.closeScope id
  | .registers id name scope job =>
    if id ∈ server.holders then (server.addEntry id name scope job).2 else server
  | .executes id scope ambient =>
    if id ∈ server.holders then (server.execute id scope ambient).2 else server
  | .clears id => if id ∈ server.holders then (server.clearEntries id).2 else server
  | .begins id wanted => if id ∈ server.holders then (server.startCall id wanted).2 else server
  | .polls index => (server.pollKept index).2
  | .abandons index => (server.dropKept index).2
  | .steps task => server.step task
  | .rounds runtime => server.round runtime
  | .shutsDown runtime => (server.shutDown runtime).2

/-- One thing happens after the other. -/
def run (server : Server) (events : List Event) : Server :=
  events.foldl happen server

@[simp]
theorem run_nil (server : Server) : server.run [] = server := rfl

theorem run_concat (server : Server) (events : List Event) (event : Event) :
    server.run (events ++ [event]) = (server.run events).happen event :=
  List.foldl_append

namespace Event

/-- Tasks take their turns. -/
def IsTurn : Event → Prop
  | .steps _ | .rounds _ => True
  | _ => False

/-- What is entered in the ledger on behalf of whoever has a request. -/
def entered (server : Server) (ledger : Ledger) : Event → Ledger
  | .registers id name scope job =>
    if id ∈ server.holders then ledger.register ⟨id, scope⟩ ⟨name, server.clock, job⟩ else ledger
  | .executes id scope ambient =>
    if id ∈ server.holders ∧ ((server.request id).runtime <|> ambient).isSome then
      ledger.hand ⟨id, scope⟩ server.tasks.length
    else ledger
  | .clears id => if id ∈ server.holders then ledger.discard id else ledger
  | _ => ledger

end Event

/-! ### What events do to the books -/

section Happening

variable {server : Server} {ledger : Ledger}

/-- Whatever happens apart from turns, what is entered is known, and besides only that is lost
which was pending for a request that went. -/
theorem deeds_happen (h : Books.Orderly ⟨server.stock, ledger⟩) {event : Event}
    (hturn : ¬event.IsTurn) :
    Deeds ⟨server.stock, ledger⟩ ⟨(server.happen event).stock,
      (event.entered server ledger).lose (server.happen event).live⟩ := by
  have hnothing : Deeds ⟨server.stock, ledger⟩ ⟨server.stock, ledger.lose server.live⟩ :=
    (Stock.Silent.of_eq rfl).deeds h
  -- Each event is one that is known, and happens only if somebody is there who can do it.
  cases event with
  | opensRegistry => exact (silent_newRegistry server).deeds h
  | opensRuntime => exact hnothing
  | builds request =>
    dsimp only [happen]
    split
    case isTrue hhome => exact (silent_build hhome).deeds h
    case isFalse => exact hnothing
  | clones id =>
    dsimp only [happen]
    split
    case isTrue hhas => exact (silent_clone hhas).deeds h
    case isFalse => exact hnothing
  | moves index => exact (silent_takeHandle server index).deeds h
  | drops index => exact deeds_settle_of_silent (silent_takeHandle server index) h
  | enters id =>
    dsimp only [happen]
    split
    case isTrue hhas => exact (silent_openScope hhas).deeds h
    case isFalse => exact hnothing
  | leaves id => exact deeds_closeScope id h
  | registers id name scope job =>
    dsimp only [happen, Event.entered]
    split
    case isTrue hhas =>
      exact Deeds.lose (.single (deeds_addEntry _ (h.holders id hhas) name scope job)) h
    case isFalse => exact hnothing
  | executes id scope ambient =>
    dsimp only [happen, Event.entered]
    by_cases hhas : id ∈ server.holders
    · rw [if_pos hhas]
      rcases hruntime : ((server.request id).runtime <|> ambient) with - | runtime
      · rw [if_neg (by simp), execute_of_none hruntime]
        exact hnothing
      · rw [if_pos ⟨hhas, rfl⟩]
        exact deeds_execute h (h.holders id hhas) hruntime scope
    · rw [if_neg hhas, if_neg fun hboth => hhas hboth.1]
      exact hnothing
  | clears id =>
    dsimp only [happen, Event.entered]
    split
    case isTrue hhas => exact deeds_clearEntries h (h.holders id hhas)
    case isFalse => exact hnothing
  | begins id wanted =>
    dsimp only [happen]
    split
    case isTrue => exact (Stock.Silent.of_eq (stock_startCall server id wanted)).deeds h
    case isFalse => exact hnothing
  | polls index => exact deeds_pollKept index h
  | abandons index => exact deeds_dropKept index h
  | steps task => exact absurd trivial hturn
  | rounds runtime => exact absurd trivial hturn
  | shutsDown runtime => exact deeds_shutDown runtime h

/-- Between events it is nobody's turn. -/
theorem current_happen (hcurrent : server.current = none) (event : Event) :
    (server.happen event).current = none := by
  -- Only steps and rounds let tasks take turns, and they end with nobody's.
  cases event with
  | builds request =>
    dsimp only [happen]
    split <;> exact hcurrent
  | clones id =>
    dsimp only [happen]
    split <;> exact hcurrent
  | drops index => exact (current_settle _).trans hcurrent
  | enters id =>
    dsimp only [happen]
    split <;> exact hcurrent
  | leaves id => exact (current_settle _).trans hcurrent
  | registers id name scope job =>
    dsimp only [happen]
    split <;> exact hcurrent
  | executes id scope ambient =>
    dsimp only [happen]
    split
    · rcases hruntime : ((server.request id).runtime <|> ambient) with - | runtime
      · rw [execute_of_none hruntime]
        exact hcurrent
      · have hsame := congrArg Stock.current (stock_handOver server id scope runtime)
        rw [execute_of_some hruntime]
        exact (current_settle _).trans (hsame.trans hcurrent)
    · exact hcurrent
  | clears id =>
    dsimp only [happen]
    split
    · exact (current_settle _).trans hcurrent
    · exact hcurrent
  | begins id wanted =>
    dsimp only [happen]
    split
    · exact (congrArg Stock.current (stock_startCall server id wanted)).trans hcurrent
    · exact hcurrent
  | polls index => exact (current_pollKept server index).trans hcurrent
  | abandons index => exact (current_dropKept server index).trans hcurrent
  | steps task => exact (becomes_step task hcurrent).2
  | rounds runtime => exact (becomes_round runtime hcurrent).2
  | shutsDown runtime => exact (current_shutDown server runtime).trans hcurrent
  | _ => exact hcurrent

/-- A task that has not called its entry calls it when it takes a step. -/
theorem call_of_called {running : Running} {task : TaskId} {ledger' : Ledger}
    (h : Books.Balanced ⟨server.stock, ledger⟩) (hcurrent : server.current = none)
    (hactivity : server.activity? task = some (.running running)) (hwait : running.wait = .start)
    (hcalled : (Activity.called (.running running) task ledger).Precedes ledger') :
    ∃ (i : Nat) (record : Record), ledger[i]? = some record ∧
      record.fate = .launched running.execution task ∧
      running = record.entry.running record.slot.request running.execution ∧
      ledger'[i]? = some { record with fate := .called running.execution task } := by
  -- Before its first turn the task has the entry in its hands, so there is a record for it.
  have hstarting : Activity.stake? (.running running) false = some (.starting running) := by
    obtain ⟨name, request, execution, held, panicOnCall, wait, acts⟩ := running
    cases hwait
    rfl
  have hstake := getElem?_stakes_of_activity? hactivity
  rw [hcurrent] at hstake
  obtain ⟨-, record, hrecord, hfate, hrunning⟩ :=
    h.backed task (.starting running) (hstake.trans (congrArg some hstarting))
  obtain ⟨i, hi⟩ := List.getElem?_of_mem hrecord
  refine ⟨i, record, hi, hfate, hrunning, ?_⟩
  rw [Activity.called, hstarting] at hcalled
  have hcall : (ledger.call running.execution task)[i]? =
      some { record with fate := .called running.execution task } := by
    rw [Ledger.call, Ledger.revise, List.getElem?_map, hi, Option.map_some, if_pos hfate]
  -- What has been called stays called.
  obtain ⟨fate, hlater, hleads⟩ := hcalled i _ hcall
  rw [show fate = _ from hleads] at hlater
  exact hlater

/-- The ledger is carried on as it should be when something happens. -/
structure CarriesOn (server : Server) (ledger : Ledger) (event : Event) (ledger' : Ledger) :
    Prop where
  /-- What happens amounts to deeds. -/
  deeds : Deeds ⟨server.stock, ledger⟩ ⟨(server.happen event).stock, ledger'⟩
  /-- It is known what is entered, turns apart. -/
  entered : ¬event.IsTurn →
    ledger' = (event.entered server ledger).lose (server.happen event).live
  /-- A task that takes a step has called its entry first. -/
  called : ∀ task activity, event = .steps task → server.activity? task = some activity →
    (activity.called task ledger).Precedes ledger'

/-- The ledger can be carried on when a task takes a step. -/
theorem exists_carriesOn_steps (h : Books.Orderly ⟨server.stock, ledger⟩)
    (hcurrent : server.current = none) (task : TaskId) :
    ∃ ledger', CarriesOn server ledger (.steps task) ledger' := by
  rcases hactivity : server.activity? task with - | activity
  · obtain ⟨ledger', hdeeds⟩ := (becomes_step task hcurrent).1 ledger h
    refine ⟨ledger', hdeeds, fun hno => absurd trivial hno, fun other activity heq hsome => ?_⟩
    cases heq
    rw [hactivity] at hsome
    cases hsome
  · obtain ⟨ledger', hdeeds, hcalled⟩ := deeds_step h hcurrent hactivity
    refine ⟨ledger', hdeeds, fun hno => absurd trivial hno, fun other activity heq hsome => ?_⟩
    cases heq
    rw [hactivity] at hsome
    cases hsome
    exact hcalled

/-- The ledger can be carried on whatever happens. -/
theorem exists_carriesOn (h : Books.Orderly ⟨server.stock, ledger⟩)
    (hcurrent : server.current = none) (event : Event) :
    ∃ ledger', CarriesOn server ledger event ledger' := by
  -- Turns are the only events in which more than one thing is entered.
  by_cases hturn : event.IsTurn
  · cases event with
    | steps task => exact exists_carriesOn_steps h hcurrent task
    | rounds runtime =>
      obtain ⟨ledger', hdeeds⟩ := (becomes_round runtime hcurrent).1 ledger h
      exact ⟨ledger', hdeeds, fun hno => absurd hturn hno, fun _ _ heq => by cases heq⟩
    | _ => exact absurd hturn id
  · refine ⟨_, deeds_happen h hturn, fun _ => rfl, fun task activity heq => ?_⟩
    rw [heq] at hturn
    exact absurd trivial hturn

/-- One way to carry the ledger on does for all servers whose books balance. -/
theorem exists_next : ∃ next : Server → Ledger → Event → Ledger,
    ∀ server ledger event, Books.Balanced ⟨server.stock, ledger⟩ → server.current = none →
      CarriesOn server ledger event (next server ledger event) := by
  have hnext (server : Server) (ledger : Ledger) (event : Event) :
      ∃ ledger', Books.Balanced ⟨server.stock, ledger⟩ → server.current = none →
        CarriesOn server ledger event ledger' := by
    -- A ledger that balances is carried on with each event; any other is left alone.
    by_cases h : Books.Balanced ⟨server.stock, ledger⟩ ∧ server.current = none
    · obtain ⟨ledger', hledger'⟩ := exists_carriesOn h.1.orderly h.2 event
      exact ⟨ledger', fun _ _ => hledger'⟩
    · exact ⟨[], fun hbalanced hcurrent => absurd ⟨hbalanced, hcurrent⟩ h⟩
  choose next hnext using hnext
  exact ⟨next, hnext⟩

end Happening

/-! ### Runs -/

theorem balanced_fresh : Books.Balanced ⟨fresh.stock, []⟩ where
  moments := rfl
  homes := by simp [fresh, stock]
  live_nodup := List.nodup_nil
  live_lt := by simp [fresh, stock]
  holders := by simp [fresh, stock, holders]
  registries := by simp [fresh, stock]
  pending id slot := by
    show (([] : List (Registry Job)).getD id .empty).entries slot = _
    rw [List.getD_nil]
    split <;> rfl
  alive := by simp
  backed := by simp [fresh, stock]
  consistent := .nil _

theorem current_run (events : List Event) : (fresh.run events).current = none := by
  induction events using List.reverseRecOn with
  | nil => rfl
  | append_singleton events event ih =>
    rw [run_concat]
    exact current_happen ih event

/-- The ledger after some events that is carried on in some way with each of them. -/
def keep (next : Server → Ledger → Event → Ledger) (events : List Event) : Ledger :=
  (events.foldl (fun (books : Server × Ledger) event =>
    (books.1.happen event, next books.1 books.2 event)) (fresh, [])).2

section Keeping

variable {next : Server → Ledger → Event → Ledger}

theorem keep_concat (events : List Event) (event : Event) :
    keep next (events ++ [event]) = next (fresh.run events) (keep next events) event := by
  -- The server that goes along is the one of the run.
  have hserver : (events.foldl (fun (books : Server × Ledger) event =>
      (books.1.happen event, next books.1 books.2 event)) (fresh, [])).1 = fresh.run events := by
    induction events using List.reverseRecOn with
    | nil => rfl
    | append_singleton events event ih =>
      rw [run_concat, ← ih, List.foldl_append]
      rfl
  rw [keep, keep, ← hserver, List.foldl_append]
  rfl

/-- Books that are carried on as they should be balance after all events. -/
theorem balanced_keep (hnext : ∀ server ledger event, Books.Balanced ⟨server.stock, ledger⟩ →
      server.current = none → CarriesOn server ledger event (next server ledger event))
    (events : List Event) : Books.Balanced ⟨(fresh.run events).stock, keep next events⟩ := by
  -- Balance is the invariant that every event keeps.
  induction events using List.reverseRecOn with
  | nil => exact balanced_fresh
  | append_singleton events event ih =>
    rw [keep_concat, run_concat]
    exact (hnext _ _ event ih (current_run events)).deeds.balanced ih

end Keeping

/-- There are books that balance after all events. -/
theorem exists_balanced (events : List Event) :
    ∃ ledger, Books.Balanced ⟨(fresh.run events).stock, ledger⟩ := by
  obtain ⟨next, hnext⟩ := exists_next
  exact ⟨_, balanced_keep hnext events⟩

/-- One ledger for each list of events that has happened says what has become of every entry. -/
structure ConsumesOnce (ledgers : List Event → Ledger) : Prop where
  /-- Nothing has been registered at the beginning. -/
  start : ledgers [] = []
  /-- Whatever happens amounts to deeds. -/
  deeds : ∀ events event,
    Deeds ⟨(fresh.run events).stock, ledgers events⟩
      ⟨(fresh.run (events ++ [event])).stock, ledgers (events ++ [event])⟩
  /-- At every moment, also in the middle of a turn, every record is right about its entry: it is
  pending in its own slot of its own registry and nowhere else, or it is in the hands of one task
  that was given it, or in nobody's. -/
  balanced : ∀ events books, Deeds ⟨(fresh.run events).stock, ledgers events⟩ books →
    books.Balanced
  /-- From any moment on, no record is lost and no entry goes back on its way, and an execution is
  handed nothing that it was not handed when it began. -/
  precedes : ∀ events books books', Deeds ⟨(fresh.run events).stock, ledgers events⟩ books →
    Deeds books books' → books.Precedes books'
  /-- Registering adds a record, executing hands over all that is pending in the slot, clearing
  throws away all that is pending for the request, and besides whatever happens throws only away
  what was pending for requests that have gone. -/
  entered : ∀ events event, ¬event.IsTurn →
    ledgers (events ++ [event]) = (event.entered (fresh.run events) (ledgers events)).lose
      (fresh.run (events ++ [event])).live
  /-- A task that has not called its entry calls it when it takes a step: the entry of one record,
  which was handed to the execution of the task, with its own request. -/
  calls : ∀ events task running,
    (fresh.run events).activity? task = some (.running running) → running.wait = .start →
      ∃ (i : Nat) (record : Record), (ledgers events)[i]? = some record ∧
        record.fate = .launched running.execution task ∧
        running = record.entry.running record.slot.request running.execution ∧
        (ledgers (events ++ [.steps task]))[i]? =
          some { record with fate := .called running.execution task }
  /-- Executing is refused just in case there is nothing to run on, and then nothing changes. -/
  executes : ∀ events id scope ambient,
    match ((fresh.run events).request id).runtime <|> ambient with
    | none => (fresh.run events).execute id scope ambient = (.error .noRuntime, fresh.run events)
    | some _ => ((fresh.run events).execute id scope ambient).1 =
        .ok (fresh.run events).tasks.length

/-- Every entry that is ever registered is consumed at most once, whatever happens. -/
theorem exists_consumesOnce : ∃ ledgers, ConsumesOnce ledgers := by
  obtain ⟨next, hnext⟩ := exists_next
  have hbalanced := balanced_keep hnext
  -- Every step from one ledger to the next is right, since the books balance all along.
  have hcarries (events : List Event) (event : Event) :
      CarriesOn (fresh.run events) (keep next events) event (keep next (events ++ [event])) := by
    rw [keep_concat]
    exact hnext _ _ event (hbalanced events) (current_run events)
  refine ⟨keep next, {
    start := rfl
    deeds := fun events event => ?deeds
    balanced := fun events _ hdeeds => hdeeds.balanced (hbalanced events)
    precedes := fun _ _ _ _ hdeeds => hdeeds.precedes
    entered := fun events event hturn => ?entered
    calls := fun events task running hactivity hwait => ?calls
    executes := fun events id scope ambient => ?executes }⟩
  case deeds =>
    rw [run_concat]
    exact (hcarries events event).deeds
  case entered =>
    rw [run_concat]
    exact (hcarries events event).entered hturn
  case calls =>
    have hcalled := (hcarries events (.steps task)).called task _ rfl hactivity
    exact call_of_called (hbalanced events) (current_run events) hactivity hwait hcalled
  case executes =>
    split
    case h_1 hruntime => exact execute_of_none hruntime scope
    case h_2 hruntime => rw [execute_of_some hruntime]

end Server

end Inbound
