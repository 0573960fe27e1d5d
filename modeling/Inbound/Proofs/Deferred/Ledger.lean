import Mathlib.Data.List.Nodup
import Inbound.Server.Basic

/-!
# The ledger of deferred work

The server forgets an entry once it has run or has been discarded. The ledger does not: it has one
record for every entry that was ever registered, in the order of registration, and says what has
become of it. Names need not be unique, so a record is known by the moment of the registration.

## Main results

* `Fate.Leads`: the way that an entry goes, on which it never turns back;
* `Ledger.pendingIn_hand`, `Ledger.handedTo_hand`: an execution is handed all that is pending in
  its slot, and nothing else changes hands;
* `Ledger.handedTo_launch`: what has a task of its own is no longer in the hands of the execution.
-/

namespace Inbound.Deferred

/-! ### What becomes of an entry -/

/-- What has become of an entry. -/
inductive Fate where
  /-- It waits in its registry. -/
  | pending
  /-- It has been handed to an execution. -/
  | handed (execution : TaskId)
  /-- The execution has handed it to a task of its own, which has not called it. -/
  | launched (execution runner : TaskId)
  /-- The task has called it. -/
  | called (execution runner : TaskId)
  /-- It was thrown away before anyone executed it. -/
  | discarded
  deriving DecidableEq, Repr

namespace Fate

/-- The execution that an entry was handed to. -/
def execution? : Fate → Option TaskId
  | .handed execution | .launched execution _ | .called execution _ => some execution
  | .pending | .discarded => none

/-- The task that an entry was given. -/
def runner? : Fate → Option TaskId
  | .launched _ runner | .called _ runner => some runner
  | .pending | .handed _ | .discarded => none

/-- What may become of an entry. Whoever has it once has it for good, and it is called at most
once. -/
def Leads : Fate → Fate → Prop
  | .pending, _ => True
  | .handed execution, fate => fate.execution? = some execution
  | .launched execution runner, fate =>
    fate = .launched execution runner ∨ fate = .called execution runner
  | .called execution runner, fate => fate = .called execution runner
  | .discarded, fate => fate = .discarded

theorem Leads.refl (fate : Fate) : fate.Leads fate := by
  cases fate with
  | pending => trivial
  | handed => rfl
  | launched => exact .inl rfl
  | called => rfl
  | discarded => rfl

theorem Leads.trans {a b c : Fate} (hab : a.Leads b) (hbc : b.Leads c) : a.Leads c := by
  cases a with
  | pending => trivial
  | handed =>
    -- Whatever an entry in the hands of an execution comes to, the execution stays the same.
    cases b with
    | pending => cases hab
    | handed => exact Eq.trans hbc hab
    | launched => rcases hbc with rfl | rfl <;> exact hab
    | called => rw [show c = _ from hbc]; exact hab
    | discarded => cases hab
  | launched =>
    rcases hab with rfl | rfl
    · exact hbc
    · exact .inr hbc
  | called =>
    rw [show b = _ from hab] at hbc
    exact hbc
  | discarded =>
    rw [show b = _ from hab] at hbc
    exact hbc

/-- An entry does not change hands. -/
theorem Leads.execution? {a b : Fate} (h : a.Leads b) {execution : TaskId}
    (ha : a.execution? = some execution) : b.execution? = some execution := by
  cases a with
  | pending => cases ha
  | handed => exact Eq.trans h ha
  | launched => rcases h with rfl | rfl <;> exact ha
  | called => rw [show b = _ from h]; exact ha
  | discarded => cases ha

end Fate

/-- What is known of an entry. -/
structure Record where
  /-- Where it was registered. -/
  slot : Slot
  /-- The entry. -/
  entry : Entry Job
  /-- What has become of it. -/
  fate : Fate

/-- An entry as the task starts with it that an execution gives it to. -/
def Entry.running (entry : Entry Job) (request : RequestId) (execution : TaskId) : Running where
  name := entry.name
  request := request
  execution := execution
  held := entry.work.held
  panicOnCall := entry.work.panicOnCall
  wait := .start
  acts := entry.work.acts

/-- The records of all entries, in the order of registration. -/
abbrev Ledger := List Record

namespace Ledger

/-! ### Reading -/

/-- The entries of some of the records. -/
def select (ledger : Ledger) (wanted : Record → Bool) : List (Entry Job) :=
  (ledger.filter wanted).map (·.entry)

/-- The entries that are pending in a slot. -/
def pendingIn (ledger : Ledger) (slot : Slot) : List (Entry Job) :=
  ledger.select fun record => record.fate = .pending ∧ record.slot = slot

/-- The entries that an execution has been handed and has not given a task yet. -/
def handedTo (ledger : Ledger) (execution : TaskId) : List (Entry Job) :=
  ledger.select fun record => record.fate = .handed execution

theorem mem_handedTo {ledger : Ledger} {execution : TaskId} {entry : Entry Job} :
    entry ∈ ledger.handedTo execution ↔
      ∃ record ∈ ledger, record.fate = .handed execution ∧ record.entry = entry := by
  simp [handedTo, select, and_assoc]

theorem select_congr {ledger : Ledger} {p q : Record → Bool}
    (h : ∀ record ∈ ledger, p record = q record) : ledger.select p = ledger.select q := by
  rw [select, select, List.filter_congr h]

theorem select_eq_nil {ledger : Ledger} {p : Record → Bool}
    (h : ∀ record ∈ ledger, p record = false) : ledger.select p = [] := by
  rw [select, List.filter_eq_nil_iff.mpr fun record hrecord => by simp [h record hrecord],
    List.map_nil]

theorem select_concat (ledger : Ledger) (record : Record) (p : Record → Bool) :
    select (ledger ++ [record]) p = ledger.select p ++ if p record then [record.entry] else [] := by
  rw [select, List.filter_append, List.map_append]
  by_cases h : p record <;> simp [select, h]

/-! ### Writing -/

/-- The ledger with other fates. -/
def revise (ledger : Ledger) (fate : Record → Fate) : Ledger :=
  ledger.map fun record => { record with fate := fate record }

/-- An entry is registered. -/
def register (ledger : Ledger) (slot : Slot) (entry : Entry Job) : Ledger :=
  ledger ++ [⟨slot, entry, .pending⟩]

/-- All that is pending in a slot is handed to an execution. -/
def hand (ledger : Ledger) (slot : Slot) (execution : TaskId) : Ledger :=
  ledger.revise fun record =>
    if record.fate = .pending ∧ record.slot = slot then .handed execution else record.fate

/-- An execution gives the entry that was registered at a moment a task of its own. -/
def launch (ledger : Ledger) (execution : TaskId) (moment : Nat) (runner : TaskId) : Ledger :=
  ledger.revise fun record =>
    if record.fate = .handed execution ∧ record.entry.registeredAt = moment then
      .launched execution runner
    else record.fate

/-- A task calls the entry that it was given by an execution. -/
def call (ledger : Ledger) (execution runner : TaskId) : Ledger :=
  ledger.revise fun record =>
    if record.fate = .launched execution runner then .called execution runner else record.fate

/-- All that is pending for a request is thrown away. -/
def discard (ledger : Ledger) (request : RequestId) : Ledger :=
  ledger.revise fun record =>
    if record.fate = .pending ∧ record.slot.request = request then .discarded else record.fate

/-- All that is pending for requests that are not alive any more is thrown away. -/
def lose (ledger : Ledger) (live : List RequestId) : Ledger :=
  ledger.revise fun record =>
    if record.fate = .pending ∧ record.slot.request ∉ live then .discarded else record.fate

/-! ### Reading what has been written -/

theorem mem_revise {ledger : Ledger} {fate : Record → Fate} {record : Record} :
    record ∈ ledger.revise fate ↔ ∃ old ∈ ledger, { old with fate := fate old } = record :=
  List.mem_map

/-- No entry is lost or added when fates change. -/
theorem map_revise {β : Type} (ledger : Ledger) (fate : Record → Fate) (f : Entry Job → β) :
    (ledger.revise fate).map (fun record => f record.entry) =
      ledger.map fun record => f record.entry :=
  List.map_map

theorem revise_eq_self {ledger : Ledger} {fate : Record → Fate}
    (h : ∀ record ∈ ledger, fate record = record.fate) : ledger.revise fate = ledger :=
  (List.map_congr_left fun record hrecord => by rw [h record hrecord]; rfl).trans
    (List.map_id ledger)

theorem revise_congr {ledger : Ledger} {fate fate' : Record → Fate}
    (h : ∀ record ∈ ledger, fate record = fate' record) :
    ledger.revise fate = ledger.revise fate' :=
  List.map_congr_left fun record hrecord => by rw [h record hrecord]

/-- Nothing is lost as long as only requests that are alive wait for anything. -/
theorem lose_eq_self {ledger : Ledger} {live : List RequestId}
    (h : ∀ record ∈ ledger, record.fate = .pending → record.slot.request ∈ live) :
    ledger.lose live = ledger :=
  revise_eq_self fun record hrecord => if_neg fun hlost => hlost.2 (h record hrecord hlost.1)

/-- What a request that goes throws away would be lost anyway. -/
theorem lose_discard {request : RequestId} {live : List RequestId} (ledger : Ledger)
    (h : request ∉ live) : (ledger.discard request).lose live = ledger.lose live := by
  rw [lose, discard, revise, revise, List.map_map]
  refine revise_congr fun record _ => ?_
  by_cases hrequest : record.fate = .pending ∧ record.slot.request = request
  · simp [hrequest, h]
  · simp only [if_neg hrequest]

/-- What is lost is lost once. -/
theorem lose_lose {live live' : List RequestId} (ledger : Ledger) (h : live' ⊆ live) :
    (ledger.lose live).lose live' = ledger.lose live' := by
  rw [lose, lose, lose, revise, revise, List.map_map]
  refine revise_congr fun record _ => ?_
  by_cases hlost : record.fate = .pending ∧ record.slot.request ∉ live
  · have hgone : record.slot.request ∉ live' := fun hlive => hlost.2 (h hlive)
    simp [hlost, hgone]
  · simp only [if_neg hlost]

/-- What is handed to an execution cannot be lost at the same time, as its request is alive. -/
theorem hand_lose {live : List RequestId} (ledger : Ledger) (slot : Slot)
    (h : slot.request ∈ live) (execution : TaskId) :
    (ledger.lose live).hand slot execution = (ledger.hand slot execution).lose live := by
  rw [lose, hand, hand, lose, revise, revise, revise, revise, List.map_map, List.map_map]
  refine List.map_congr_left fun record _ => ?_
  by_cases hslot : record.slot = slot
  · by_cases hpending : record.fate = .pending <;> simp [hslot, hpending, h]
  · by_cases hlost : record.fate = .pending ∧ record.slot.request ∉ live <;> simp [hslot, hlost]

theorem select_revise (ledger : Ledger) (fate : Record → Fate) (p : Record → Bool) :
    (ledger.revise fate).select p =
      ledger.select fun record => p { record with fate := fate record } := by
  rw [select, revise, List.filter_map, List.map_map]
  rfl

section Some

variable {among : Record → Prop} [DecidablePred among] {fate unmoved : Fate}

/-- Where only some records get another fate, nobody comes to a fate that they neither have nor
get, and nobody leaves it. -/
theorem eq_unmoved_iff (hfate : fate ≠ unmoved)
    (hamong : ∀ record, among record → record.fate ≠ unmoved) (record : Record) :
    (if among record then fate else record.fate) = unmoved ↔ record.fate = unmoved := by
  split
  case isTrue h => exact iff_of_false hfate (hamong record h)
  case isFalse => rfl

/-- Nothing is pending for a request that is gone if nothing comes to be pending. -/
theorem alive_revise {ledger : Ledger} {live : List RequestId}
    (h : ∀ record ∈ ledger, record.fate = .pending → record.slot.request ∈ live)
    (hfate : fate ≠ .pending) :
    ∀ record ∈ ledger.revise fun record => if among record then fate else record.fate,
      record.fate = .pending → record.slot.request ∈ live := by
  intro record hrecord hpending
  obtain ⟨old, hold, rfl⟩ := mem_revise.mp hrecord
  dsimp only at hpending
  split at hpending
  case isTrue => exact absurd hpending hfate
  case isFalse => exact h old hold hpending

/-- What is pending stays where it is if others get another fate. -/
theorem pendingIn_revise (ledger : Ledger) (slot : Slot) (hfate : fate ≠ .pending)
    (hamong : ∀ record, among record → record.fate ≠ .pending) :
    (ledger.revise fun record => if among record then fate else record.fate).pendingIn slot =
      ledger.pendingIn slot := by
  rw [pendingIn, select_revise]
  exact select_congr fun record _ => by simp only [eq_unmoved_iff hfate hamong record]

/-- What is in the hands of an execution stays there if others get another fate. -/
theorem handedTo_revise (ledger : Ledger) (execution : TaskId) (hfate : fate ≠ .handed execution)
    (hamong : ∀ record, among record → record.fate ≠ .handed execution) :
    (ledger.revise fun record => if among record then fate else record.fate).handedTo execution =
      ledger.handedTo execution := by
  rw [handedTo, select_revise]
  exact select_congr fun record _ => by simp only [eq_unmoved_iff hfate hamong record]

end Some

theorem pendingIn_register (ledger : Ledger) (slot other : Slot) (entry : Entry Job) :
    (ledger.register slot entry).pendingIn other =
      if other = slot then ledger.pendingIn slot ++ [entry] else ledger.pendingIn other := by
  rw [pendingIn, register, select_concat]
  by_cases h : other = slot
  · subst h
    simp [pendingIn]
  · have hne : slot ≠ other := fun heq => h heq.symm
    simp [pendingIn, h, hne]

theorem handedTo_register (ledger : Ledger) (slot : Slot) (entry : Entry Job)
    (execution : TaskId) :
    (ledger.register slot entry).handedTo execution = ledger.handedTo execution := by
  rw [handedTo, register, select_concat]
  simp [handedTo]

/-- Where all that is pending in some of the slots gets another fate, nothing stays behind in them,
and no other slot is touched. -/
theorem pendingIn_settled (ledger : Ledger) (among : Slot → Prop) [DecidablePred among]
    {fate : Fate} (hfate : fate ≠ .pending) (slot : Slot) :
    (ledger.revise fun record =>
        if record.fate = .pending ∧ among record.slot then fate else record.fate).pendingIn slot =
      if among slot then [] else ledger.pendingIn slot := by
  rw [pendingIn, select_revise]
  split
  case isTrue h =>
    refine select_eq_nil fun record _ => decide_eq_false ?_
    rintro ⟨hpending, rfl⟩
    -- A record that is pending now has been left alone, so its slot is none of these.
    split at hpending
    case isTrue => exact hfate hpending
    case isFalse hrecord => exact hrecord ⟨hpending, h⟩
  case isFalse h =>
    refine select_congr fun record _ => ?_
    by_cases hrecord : record.fate = .pending ∧ among record.slot
    · have hne : record.slot ≠ slot := fun heq => h (heq ▸ hrecord.2)
      simp [hrecord, hne]
    · simp only [if_neg hrecord]

/-- Nothing stays behind in a slot that is executed, and no other slot is touched. -/
theorem pendingIn_hand (ledger : Ledger) (slot other : Slot) (execution : TaskId) :
    (ledger.hand slot execution).pendingIn other =
      if other = slot then [] else ledger.pendingIn other :=
  pendingIn_settled ledger (· = slot) Fate.noConfusion other

/-- A new execution has in its hands what was pending in the slot, and nothing else. -/
theorem handedTo_hand {ledger : Ledger} {execution : TaskId} (slot : Slot) (task : TaskId)
    (hnew : ∀ record ∈ ledger, record.fate ≠ .handed execution) :
    (ledger.hand slot execution).handedTo task =
      if task = execution then ledger.pendingIn slot else ledger.handedTo task := by
  rw [handedTo, hand, select_revise]
  split
  case isTrue h =>
    subst h
    refine select_congr fun record hrecord => ?_
    by_cases hpending : record.fate = .pending ∧ record.slot = slot
    · simp [hpending]
    -- Whatever was not pending in the slot is not handed to the new execution now, and was not
    -- before.
    · rw [if_neg hpending, decide_eq_false hpending]
      exact decide_eq_false (hnew record hrecord)
  case isFalse h =>
    refine select_congr fun record _ => ?_
    by_cases hpending : record.fate = .pending ∧ record.slot = slot
    · have hne : execution ≠ task := fun heq => h heq.symm
      simp [hpending, hne]
    · simp only [if_neg hpending]

/-- The first entry in the hands of an execution leaves them when it is given a task; the moments
of registration tell it from all others. -/
theorem handedTo_launch {ledger : Ledger} {execution : TaskId} {entry : Entry Job}
    {rest : List (Entry Job)} (hmoments : (ledger.map (·.entry.registeredAt)).Nodup)
    (h : ledger.handedTo execution = entry :: rest) (runner task : TaskId) :
    (ledger.launch execution entry.registeredAt runner).handedTo task =
      if task = execution then rest else ledger.handedTo task := by
  rw [handedTo, launch, select_revise]
  split
  case isTrue htask =>
    subst htask
    -- All moments are different, so they are among the entries in the hands of the execution.
    have hmoments' : ((entry :: rest).map (·.registeredAt)).Nodup := by
      rw [← h, handedTo, select, List.map_map]
      exact hmoments.sublist (List.filter_sublist.map _)
    have hothers : ∀ other ∈ rest, other.registeredAt ≠ entry.registeredAt := by
      intro other hother heq
      refine (List.nodup_cons.mp hmoments').1 ?_
      exact List.mem_map.mpr ⟨other, hother, heq⟩
    calc _ = ledger.select (fun record =>
              decide (record.fate = .handed task) &&
                decide (record.entry.registeredAt ≠ entry.registeredAt)) := by
            refine select_congr fun record _ => ?_
            by_cases hfate : record.fate = .handed task <;>
              by_cases hmoment : record.entry.registeredAt = entry.registeredAt <;>
              simp [hfate, hmoment]
      _ = (ledger.handedTo task).filter (·.registeredAt ≠ entry.registeredAt) := by
            rw [handedTo, select, select, List.filter_map, List.filter_filter]
            congr 1
            exact List.filter_congr fun record _ => Bool.and_comm _ _
      _ = rest := by
            rw [h, List.filter_cons_of_neg (by simp), List.filter_eq_self]
            exact fun other hother => by simpa using hothers other hother
  case isFalse htask =>
    have hne : execution ≠ task := fun heq => htask heq.symm
    refine select_congr fun record _ => ?_
    by_cases hfate : record.fate = .handed execution ∧
      record.entry.registeredAt = entry.registeredAt
    · simp [hfate, hne]
    · simp only [if_neg hfate]

theorem pendingIn_launch (ledger : Ledger) (execution runner : TaskId) (moment : Nat)
    (slot : Slot) :
    (ledger.launch execution moment runner).pendingIn slot = ledger.pendingIn slot :=
  pendingIn_revise ledger slot Fate.noConfusion fun record hhanded => by
    rw [hhanded.1]
    exact nofun

theorem pendingIn_call (ledger : Ledger) (execution runner : TaskId) (slot : Slot) :
    (ledger.call execution runner).pendingIn slot = ledger.pendingIn slot :=
  pendingIn_revise ledger slot Fate.noConfusion fun record hlaunched => by
    rw [hlaunched]
    exact nofun

theorem pendingIn_discard (ledger : Ledger) (request : RequestId) (slot : Slot) :
    (ledger.discard request).pendingIn slot =
      if slot.request = request then [] else ledger.pendingIn slot :=
  pendingIn_settled ledger (·.request = request) Fate.noConfusion slot

theorem pendingIn_lose (ledger : Ledger) (live : List RequestId) (slot : Slot) :
    (ledger.lose live).pendingIn slot =
      if slot.request ∈ live then ledger.pendingIn slot else [] := by
  rw [lose, pendingIn_settled ledger (·.request ∉ live) Fate.noConfusion slot, ite_not]

/-! ### Executions and their tasks -/

/-- Executions and runners are tasks that exist. An execution has entries of one slot only, and a
task runs one entry only. -/
structure Consistent (ledger : Ledger) (tasks : Nat) : Prop where
  /-- Entries have been handed to tasks that exist. -/
  execution_lt : ∀ record ∈ ledger, ∀ execution,
    record.fate.execution? = some execution → execution < tasks
  /-- Entries have been given tasks that exist. -/
  runner_lt : ∀ record ∈ ledger, ∀ runner, record.fate.runner? = some runner → runner < tasks
  /-- What an execution was handed stood in one slot. -/
  one_slot : ∀ a ∈ ledger, ∀ b ∈ ledger, ∀ execution,
    a.fate.execution? = some execution → b.fate.execution? = some execution → a.slot = b.slot
  /-- No task was given two entries. -/
  one_entry : ∀ a ∈ ledger, ∀ b ∈ ledger, ∀ runner,
    a.fate.runner? = some runner → b.fate.runner? = some runner → a = b

namespace Consistent

variable {ledger : Ledger} {tasks : Nat}

theorem nil (tasks : Nat) : Consistent [] tasks := by
  constructor <;> simp

/-- Nobody has been handed anything by a task that is still to come. -/
theorem ne_handed (h : ledger.Consistent tasks) :
    ∀ record ∈ ledger, record.fate ≠ .handed tasks := by
  intro record hrecord hfate
  have hlt := h.execution_lt record hrecord tasks (by rw [hfate]; rfl)
  exact Nat.lt_irrefl _ hlt

/-- A record that nobody has been handed yet may be added. -/
theorem register (h : ledger.Consistent tasks) (slot : Slot) (entry : Entry Job) :
    (ledger.register slot entry).Consistent tasks := by
  have hold {record : Record} (hrecord : record ∈ ledger.register slot entry) :
      record ∈ ledger ∨ record.fate = .pending := by
    rcases List.mem_append.mp hrecord with hrecord | hrecord
    · exact .inl hrecord
    · exact .inr (by rw [List.mem_singleton.mp hrecord])
  -- The new record has neither an execution nor a runner, so all that do are old.
  have hexecution {record : Record} (hrecord : record ∈ ledger.register slot entry)
      {execution : TaskId} (he : record.fate.execution? = some execution) : record ∈ ledger := by
    rcases hold hrecord with hrecord | hpending
    · exact hrecord
    · rw [hpending] at he
      cases he
  have hrunner {record : Record} (hrecord : record ∈ ledger.register slot entry)
      {runner : TaskId} (hr : record.fate.runner? = some runner) : record ∈ ledger := by
    rcases hold hrecord with hrecord | hpending
    · exact hrecord
    · rw [hpending] at hr
      cases hr
  exact {
    execution_lt := fun record hrecord execution he =>
      h.execution_lt record (hexecution hrecord he) execution he
    runner_lt := fun record hrecord runner hr =>
      h.runner_lt record (hrunner hrecord hr) runner hr
    one_slot := fun a ha b hb execution hae hbe =>
      h.one_slot a (hexecution ha hae) b (hexecution hb hbe) execution hae hbe
    one_entry := fun a ha b hb runner har hbr =>
      h.one_entry a (hrunner ha har) b (hrunner hb hbr) runner har hbr }

section Some

variable (among : Record → Prop) [DecidablePred among] (fate : Fate)

/-- As long as every entry stays with its execution, executions are not mixed up. -/
theorem executions_revise (h : ledger.Consistent tasks)
    (hamong : ∀ record, among record → fate.execution? = record.fate.execution?) :
    let revised := ledger.revise fun record => if among record then fate else record.fate
    (∀ record ∈ revised, ∀ execution,
      record.fate.execution? = some execution → execution < tasks) ∧
    ∀ a ∈ revised, ∀ b ∈ revised, ∀ execution,
      a.fate.execution? = some execution → b.fate.execution? = some execution →
        a.slot = b.slot := by
  have hsame (old : Record) :
      (if among old then fate else old.fate).execution? = old.fate.execution? := by
    rw [apply_ite Fate.execution?]
    exact ite_eq_right_iff.mpr (hamong old)
  refine ⟨fun record hrecord execution he => ?_, fun a ha b hb execution hae hbe => ?_⟩
  · obtain ⟨old, hold, rfl⟩ := mem_revise.mp hrecord
    exact h.execution_lt old hold execution ((hsame old).symm.trans he)
  · obtain ⟨olda, holda, rfl⟩ := mem_revise.mp ha
    obtain ⟨oldb, holdb, rfl⟩ := mem_revise.mp hb
    exact h.one_slot olda holda oldb holdb execution ((hsame olda).symm.trans hae)
      ((hsame oldb).symm.trans hbe)

/-- As long as every entry stays with its task, tasks are not mixed up. -/
theorem runners_revise (h : ledger.Consistent tasks)
    (hamong : ∀ record, among record → fate.runner? = record.fate.runner?) :
    let revised := ledger.revise fun record => if among record then fate else record.fate
    (∀ record ∈ revised, ∀ runner, record.fate.runner? = some runner → runner < tasks) ∧
    ∀ a ∈ revised, ∀ b ∈ revised, ∀ runner,
      a.fate.runner? = some runner → b.fate.runner? = some runner → a = b := by
  have hsame (old : Record) :
      (if among old then fate else old.fate).runner? = old.fate.runner? := by
    rw [apply_ite Fate.runner?]
    exact ite_eq_right_iff.mpr (hamong old)
  refine ⟨fun record hrecord runner hr => ?_, fun a ha b hb runner har hbr => ?_⟩
  · obtain ⟨old, hold, rfl⟩ := mem_revise.mp hrecord
    exact h.runner_lt old hold runner ((hsame old).symm.trans hr)
  · obtain ⟨olda, holda, rfl⟩ := mem_revise.mp ha
    obtain ⟨oldb, holdb, rfl⟩ := mem_revise.mp hb
    rw [h.one_entry olda holda oldb holdb runner ((hsame olda).symm.trans har)
      ((hsame oldb).symm.trans hbr)]

variable {among fate}

/-- Some records may get another fate if their entries stay with their execution and their task. -/
theorem revise (h : ledger.Consistent tasks)
    (hexecution : ∀ record, among record → fate.execution? = record.fate.execution?)
    (hrunner : ∀ record, among record → fate.runner? = record.fate.runner?) :
    (ledger.revise fun record => if among record then fate else record.fate).Consistent tasks where
  execution_lt := (h.executions_revise _ _ hexecution).1
  runner_lt := (h.runners_revise _ _ hrunner).1
  one_slot := (h.executions_revise _ _ hexecution).2
  one_entry := (h.runners_revise _ _ hrunner).2

end Some

/-- A new task may be handed what is pending in a slot. -/
theorem hand (h : ledger.Consistent tasks) (slot : Slot) :
    (ledger.hand slot tasks).Consistent (tasks + 1) := by
  -- What is with the new task stood in the slot, all else is where it was.
  have hcases {record : Record} (hrecord : record ∈ ledger.hand slot tasks) :
      (record.fate = .handed tasks ∧ record.slot = slot) ∨ record ∈ ledger := by
    obtain ⟨old, hold, rfl⟩ := mem_revise.mp hrecord
    by_cases hpending : old.fate = .pending ∧ old.slot = slot
    · exact .inl ⟨if_pos hpending, hpending.2⟩
    · rw [if_neg hpending]
      exact .inr hold
  have hne {record : Record} (hrecord : record ∈ ledger) :
      record.fate.execution? ≠ some tasks := fun he =>
    Nat.lt_irrefl _ (h.execution_lt record hrecord tasks he)
  -- Nobody has a task of its own that is only in the hands of the new execution.
  have hrunner {record : Record} (hrecord : record ∈ ledger.hand slot tasks) {runner : TaskId}
      (hr : record.fate.runner? = some runner) : record ∈ ledger := by
    rcases hcases hrecord with ⟨hfate, -⟩ | hrecord
    · rw [hfate] at hr
      cases hr
    · exact hrecord
  refine {
    execution_lt := fun record hrecord execution he => ?execution_lt
    runner_lt := fun record hrecord runner hr =>
      Nat.lt_succ_of_lt (h.runner_lt record (hrunner hrecord hr) runner hr)
    one_slot := fun a ha b hb execution hae hbe => ?one_slot
    one_entry := fun a ha b hb runner har hbr =>
      h.one_entry a (hrunner ha har) b (hrunner hb hbr) runner har hbr }
  case execution_lt =>
    rcases hcases hrecord with ⟨hfate, -⟩ | hrecord
    · rw [hfate] at he
      cases he
      exact Nat.lt_succ_self _
    · exact Nat.lt_succ_of_lt (h.execution_lt record hrecord execution he)
  case one_slot =>
    rcases hcases ha with ⟨hafate, haslot⟩ | ha <;> rcases hcases hb with ⟨hbfate, hbslot⟩ | hb
    · rw [haslot, hbslot]
    · rw [hafate] at hae
      cases hae
      exact absurd hbe (hne hb)
    · rw [hbfate] at hbe
      cases hbe
      exact absurd hae (hne ha)
    · exact h.one_slot a ha b hb execution hae hbe

/-- A new task may be given the entry that was registered at some moment. -/
theorem launch (h : ledger.Consistent tasks)
    (hmoments : (ledger.map (·.entry.registeredAt)).Nodup) (execution : TaskId) (moment : Nat) :
    (ledger.launch execution moment tasks).Consistent (tasks + 1) := by
  have hexecutions := h.executions_revise
    (fun record => record.fate = .handed execution ∧ record.entry.registeredAt = moment)
    (.launched execution tasks) fun record hhanded => by rw [hhanded.1]; rfl
  -- What is with the new task was registered at the moment, all else is where it was.
  have hcases {record : Record} (hrecord : record ∈ ledger.launch execution moment tasks) :
      (∃ old ∈ ledger, old.fate = .handed execution ∧ old.entry.registeredAt = moment ∧
        record = { old with fate := .launched execution tasks }) ∨ record ∈ ledger := by
    obtain ⟨old, hold, rfl⟩ := mem_revise.mp hrecord
    by_cases hmoment : old.fate = .handed execution ∧ old.entry.registeredAt = moment
    · rw [if_pos hmoment]
      exact .inl ⟨old, hold, hmoment.1, hmoment.2, rfl⟩
    · rw [if_neg hmoment]
      exact .inr hold
  have hne {record : Record} (hrecord : record ∈ ledger) : record.fate.runner? ≠ some tasks :=
    fun hr => Nat.lt_irrefl _ (h.runner_lt record hrecord tasks hr)
  refine {
    execution_lt := fun record hrecord e he =>
      Nat.lt_succ_of_lt (hexecutions.1 record hrecord e he)
    runner_lt := fun record hrecord runner hr => ?runner_lt
    one_slot := hexecutions.2
    one_entry := fun a ha b hb runner har hbr => ?one_entry }
  case runner_lt =>
    rcases hcases hrecord with ⟨old, -, -, -, rfl⟩ | hrecord
    · cases hr
      exact Nat.lt_succ_self _
    · exact Nat.lt_succ_of_lt (h.runner_lt record hrecord runner hr)
  case one_entry =>
    rcases hcases ha with ⟨olda, holda, -, hamoment, rfl⟩ | ha <;>
      rcases hcases hb with ⟨oldb, holdb, -, hbmoment, rfl⟩ | hb
    · rw [List.inj_on_of_nodup_map hmoments holda holdb (hamoment.trans hbmoment.symm)]
    · cases har
      exact absurd hbr (hne hb)
    · cases hbr
      exact absurd har (hne ha)
    · exact h.one_entry a ha b hb runner har hbr

theorem call (h : ledger.Consistent tasks) (execution runner : TaskId) :
    (ledger.call execution runner).Consistent tasks :=
  h.revise (fun record hlaunched => by rw [hlaunched]; rfl)
    fun record hlaunched => by rw [hlaunched]; rfl

theorem discard (h : ledger.Consistent tasks) (request : RequestId) :
    (ledger.discard request).Consistent tasks :=
  h.revise (fun record hpending => by rw [hpending.1]; rfl)
    fun record hpending => by rw [hpending.1]; rfl

end Consistent

/-! ### Going on -/

/-- A later ledger: it has every record of the earlier one in its place, and each entry has gone on
its way from where it was. -/
def Precedes (ledger ledger' : Ledger) : Prop :=
  ∀ (i : Nat) (record : Record), ledger[i]? = some record →
    ∃ fate, ledger'[i]? = some { record with fate } ∧ record.fate.Leads fate

namespace Precedes

theorem refl (ledger : Ledger) : ledger.Precedes ledger :=
  fun _ record hrecord => ⟨record.fate, hrecord, .refl _⟩

theorem trans {a b c : Ledger} (hab : a.Precedes b) (hbc : b.Precedes c) : a.Precedes c := by
  intro i record hrecord
  obtain ⟨fate, hb, hfate⟩ := hab i record hrecord
  obtain ⟨fate', hc, hfate'⟩ := hbc i _ hb
  exact ⟨fate', hc, hfate.trans hfate'⟩

theorem register (ledger : Ledger) (slot : Slot) (entry : Entry Job) :
    ledger.Precedes (ledger.register slot entry) := by
  intro i record hrecord
  have hi : i < ledger.length := (List.getElem?_eq_some_iff.mp hrecord).1
  refine ⟨record.fate, ?_, .refl _⟩
  rw [Ledger.register, List.getElem?_append_left hi]
  exact hrecord

/-- Some records may get another fate if it is one to which theirs leads. -/
theorem revise (ledger : Ledger) {among : Record → Prop} [DecidablePred among] {fate : Fate}
    (hamong : ∀ record, among record → record.fate.Leads fate) :
    ledger.Precedes (ledger.revise fun record => if among record then fate else record.fate) := by
  intro i record hrecord
  refine ⟨if among record then fate else record.fate, ?_, ?_⟩
  · rw [Ledger.revise, List.getElem?_map, hrecord, Option.map_some]
  · split
    case isTrue h => exact hamong record h
    case isFalse => exact .refl _

theorem hand (ledger : Ledger) (slot : Slot) (execution : TaskId) :
    ledger.Precedes (ledger.hand slot execution) :=
  revise ledger fun record hpending => by rw [hpending.1]; trivial

theorem launch (ledger : Ledger) (execution : TaskId) (moment : Nat) (runner : TaskId) :
    ledger.Precedes (ledger.launch execution moment runner) :=
  revise ledger fun record hhanded => by rw [hhanded.1]; rfl

theorem call (ledger : Ledger) (execution runner : TaskId) :
    ledger.Precedes (ledger.call execution runner) :=
  revise ledger fun record hlaunched => by rw [hlaunched]; exact .inr rfl

theorem discard (ledger : Ledger) (request : RequestId) :
    ledger.Precedes (ledger.discard request) :=
  revise ledger fun record hpending => by rw [hpending.1]; trivial

end Precedes

end Ledger

end Inbound.Deferred
