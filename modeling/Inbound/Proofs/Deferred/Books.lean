import Mathlib.Logic.Relation
import Inbound.Proofs.Deferred.Ledger
import Inbound.Proofs.Deferred.Registry
import Inbound.Proofs.Deferred.Stock

/-!
# The books of deferred work

The stock says where the entries are, the ledger what has become of them. Whatever happens to
deferred work is a sequence of deeds, and each deed is entered in the ledger. The books balance if
the two agree: every entry that is pending for the ledger stands in the registry of its own
request, in its own slot, and whatever a task has in its hands is for the ledger with this task.

## Main results

* `Deed`: everything that can happen to deferred work;
* `Books.Balanced`: the stock and the ledger agree;
* `Deed.balanced`, `Deeds.balanced`: books that balance do so for ever;
* `Deeds.precedes`: no entry is lost, and none turns back on its way.
-/

namespace Inbound

open Deferred

/-- The stock with the ledger. -/
structure Books where
  /-- Where the entries are. -/
  stock : Stock
  /-- What has become of them. -/
  ledger : Ledger

/-! ### Deeds -/

/-- One thing that happens to deferred work. -/
inductive Deed : Books → Books → Prop where
  /-- An entry is registered for a request that is alive. -/
  | registers {stock : Stock} {ledger : Ledger} {slot : Slot} {name : String} {job : Job}
      (hlive : slot.request ∈ stock.live) :
      Deed ⟨stock, ledger⟩
        ⟨stock.register slot ⟨name, stock.clock, job⟩,
          ledger.register slot ⟨name, stock.clock, job⟩⟩
  /-- All that is pending in a slot is handed to a new task, which has it in its hands unless its
  runtime has been shut down. -/
  | hands {stock : Stock} {ledger : Ledger} {slot : Slot} {stake : Option Stake}
      (hlive : slot.request ∈ stock.live)
      (hstake : ∀ given, stake = some given → given =
        .holding slot.request ((stock.registry (stock.home slot.request)).take slot).1) :
      Deed ⟨stock, ledger⟩
        ⟨(stock.take slot).spawn stake, ledger.hand slot stock.stakes.length⟩
  /-- An execution gives the first of its entries to a new task, which has it in its hands unless
  its runtime has been shut down. -/
  | launches {stock : Stock} {ledger : Ledger} {execution : TaskId} {request : RequestId}
      {entry : Entry Job} {rest : List (Entry Job)} {stake : Option Stake}
      (hholding : stock.stakes[execution]? = some (some (.holding request (entry :: rest))))
      (hstake : ∀ given, stake = some given → given =
        .starting (entry.running request execution)) :
      Deed ⟨stock, ledger⟩
        ⟨(stock.setStake execution (some (.holding request rest))).spawn stake,
          ledger.launch execution entry.registeredAt stock.stakes.length⟩
  /-- A task calls its entry. -/
  | calls {stock : Stock} {ledger : Ledger} {runner : TaskId} {running : Running}
      (hstarting : stock.stakes[runner]? = some (some (.starting running))) :
      Deed ⟨stock, ledger⟩
        ⟨stock.setStake runner
            (some (.started running.request running.name running.execution)),
          ledger.call running.execution runner⟩
  /-- A task is over or has been shut down, and nothing is in its hands any more. -/
  | ends {stock : Stock} {ledger : Ledger} (task : TaskId) :
      Deed ⟨stock, ledger⟩ ⟨stock.setStake task none, ledger⟩
  /-- Someone clears a request that is alive. -/
  | clears {stock : Stock} {ledger : Ledger} {request : RequestId}
      (hlive : request ∈ stock.live) :
      Deed ⟨stock, ledger⟩ ⟨stock.discard request, ledger.discard request⟩
  /-- A request goes that nobody has any more. -/
  | drops {stock : Stock} {ledger : Ledger} {request : RequestId}
      (hlive : request ∈ stock.live) (hholders : request ∉ stock.holders)
      (hstakes : ∀ stake, some stake ∈ stock.stakes → stake.request ≠ request) :
      Deed ⟨stock, ledger⟩ ⟨stock.drop request, ledger.discard request⟩
  /-- A request is made that uses one of the registries. -/
  | builds {stock : Stock} {ledger : Ledger} {home : RegistryId}
      (hhome : home < stock.registries.length) :
      Deed ⟨stock, ledger⟩ ⟨stock.build home, ledger⟩
  /-- A registry is made. -/
  | opens {stock : Stock} {ledger : Ledger} :
      Deed ⟨stock, ledger⟩
        ⟨{ stock with registries := stock.registries ++ [.empty] }, ledger⟩
  /-- Other requests are in someone's hands, all of them alive. -/
  | holds {stock : Stock} {ledger : Ledger} {holders : List RequestId}
      (hlive : ∀ request ∈ holders, request ∈ stock.live) :
      Deed ⟨stock, ledger⟩ ⟨{ stock with holders }, ledger⟩
  /-- It is the turn of another task, or of none. -/
  | turns {stock : Stock} {ledger : Ledger} (current : Option TaskId) :
      Deed ⟨stock, ledger⟩ ⟨{ stock with current }, ledger⟩

/-- One deed after the other. -/
abbrev Deeds : Books → Books → Prop := Relation.ReflTransGen Deed

/-! ### Balance -/

/-- The ledger knows of what a task has in its hands. -/
def Stake.Backed (ledger : Ledger) (task : TaskId) : Stake → Prop
  | .holding request entries =>
    entries = ledger.handedTo task ∧
      ∀ record ∈ ledger, record.fate = .handed task → record.slot.request = request
  | .starting running =>
    ∃ record ∈ ledger, record.fate = .launched running.execution task ∧
      running = record.entry.running record.slot.request running.execution
  | .started request name execution =>
    ∃ record ∈ ledger, record.fate = .called execution task ∧
      record.slot.request = request ∧ record.entry.name = name

/-- Every registry has, in the order of registration, what is pending in the slots of the requests
that use it, and nothing else. -/
def Stock.Keeps (stock : Stock) (ledger : Ledger) : Prop :=
  ∀ id slot, (stock.registry id).entries slot =
    if stock.home slot.request = id then ledger.pendingIn slot else []

/-- The stock and the ledger agree. -/
structure Books.Balanced (books : Books) : Prop where
  /-- There is one record for each registration, in the order of registration. -/
  moments : books.ledger.map (·.entry.registeredAt) = List.range books.stock.clock
  /-- Requests use registries that exist. -/
  homes : ∀ home ∈ books.stock.homes, home < books.stock.registries.length
  /-- No request is alive twice. -/
  live_nodup : books.stock.live.Nodup
  /-- Only what has been made is alive. -/
  live_lt : ∀ request ∈ books.stock.live, request < books.stock.homes.length
  /-- What someone has is alive. -/
  holders : ∀ request ∈ books.stock.holders, request ∈ books.stock.live
  /-- No registry is in disorder. -/
  registries : ∀ registry ∈ books.stock.registries, registry.WellFormed
  /-- What is pending stands in its own slot of its own registry, and nowhere else. -/
  pending : books.stock.Keeps books.ledger
  /-- Nothing is pending for a request that is gone. -/
  alive : ∀ record ∈ books.ledger, record.fate = .pending →
    record.slot.request ∈ books.stock.live
  /-- What is in the hands of tasks was given to them, and is for requests that are alive. -/
  backed : ∀ (task : TaskId) (stake : Stake), books.stock.stakes[task]? = some (some stake) →
    stake.request ∈ books.stock.live ∧ stake.Backed books.ledger task
  /-- Executions and tasks are not mixed up. -/
  consistent : books.ledger.Consistent books.stock.stakes.length

namespace Stock

/-! ### Registries -/

theorem registry_setRegistry {stock : Stock} {id : RegistryId} (h : id < stock.registries.length)
    (registry : Registry Job) (other : RegistryId) :
    (stock.setRegistry id registry).registry other =
      if other = id then registry else stock.registry other := by
  rw [Stock.registry, setRegistry, List.getD_eq_getElem?_getD, List.getElem?_set]
  by_cases heq : id = other
  · subst heq
    rw [if_pos rfl, if_pos h, if_pos rfl, Option.getD_some]
  · rw [if_neg heq, if_neg fun h => heq h.symm, Stock.registry, List.getD_eq_getElem?_getD]

/-- Where there is no registry, there is none in disorder. -/
theorem wellFormed_registry {stock : Stock}
    (h : ∀ registry ∈ stock.registries, registry.WellFormed) (id : RegistryId) :
    (stock.registry id).WellFormed := by
  rw [registry, List.getD_eq_getElem?_getD]
  rcases hfound : stock.registries[id]? with - | registry
  · exact .empty
  · exact h registry (List.mem_of_getElem? hfound)

/-- A registry that is in order may take the place of another. -/
theorem wellFormed_set {stock : Stock} (h : ∀ registry ∈ stock.registries, registry.WellFormed)
    (id : RegistryId) {registry : Registry Job} (hregistry : registry.WellFormed) :
    ∀ other ∈ (stock.setRegistry id registry).registries, other.WellFormed := by
  intro other hother
  rcases List.mem_or_eq_of_mem_set hother with hother | rfl
  · exact h other hother
  · exact hregistry

theorem homes_setRegistry {stock : Stock} (h : ∀ home ∈ stock.homes, home < stock.registries.length)
    (id : RegistryId) (registry : Registry Job) :
    ∀ home ∈ (stock.setRegistry id registry).homes,
      home < (stock.setRegistry id registry).registries.length := by
  rw [setRegistry, List.length_set]
  exact h

/-- Requests that are alive use registries that exist. -/
theorem home_lt {stock : Stock} (hhomes : ∀ home ∈ stock.homes, home < stock.registries.length)
    (hlive : ∀ request ∈ stock.live, request < stock.homes.length) {request : RequestId}
    (h : request ∈ stock.live) : stock.home request < stock.registries.length := by
  have hlt := hlive request h
  refine hhomes _ ?_
  rw [Stock.home, List.getD_eq_getElem?_getD, List.getElem?_eq_getElem hlt, Option.getD_some]
  exact List.getElem_mem hlt

/-- The requests that there were keep their registries when another is made. -/
theorem home_build {stock : Stock} {request : RequestId} (h : request ≠ stock.homes.length)
    (home : RegistryId) : (stock.build home).home request = stock.home request := by
  show (stock.homes ++ [home]).getD _ 0 = stock.homes.getD _ 0
  rw [List.getD_eq_getElem?_getD, List.getD_eq_getElem?_getD, List.getElem?_append]
  split
  · rfl
  case isFalse hlt =>
    have hgt : stock.homes.length < request := Nat.lt_of_le_of_ne (Nat.le_of_not_lt hlt) h.symm
    rw [List.getElem?_eq_none (Nat.le_of_lt hgt), List.getElem?_eq_none]
    exact Nat.sub_pos_of_lt hgt

theorem homes_build {stock : Stock} (h : ∀ home ∈ stock.homes, home < stock.registries.length)
    {home : RegistryId} (hhome : home < stock.registries.length) :
    ∀ other ∈ (stock.build home).homes, other < (stock.build home).registries.length := by
  intro other hother
  rcases List.mem_append.mp hother with hother | hother
  · exact h other hother
  · rw [List.mem_singleton.mp hother]
    exact hhome

/-- A new request has not been alive before. -/
theorem live_nodup_build {stock : Stock} (h : stock.live.Nodup)
    (hlive : ∀ request ∈ stock.live, request < stock.homes.length) (home : RegistryId) :
    (stock.build home).live.Nodup := by
  refine List.nodup_append.mpr ⟨h, List.nodup_singleton _, fun a ha b hb => ?_⟩
  rw [List.mem_singleton.mp hb]
  exact Nat.ne_of_lt (hlive a ha)

theorem live_lt_build {stock : Stock} (h : ∀ request ∈ stock.live, request < stock.homes.length)
    (home : RegistryId) :
    ∀ request ∈ (stock.build home).live, request < (stock.build home).homes.length := by
  intro request hrequest
  show request < (stock.homes ++ [home]).length
  rw [List.length_append, List.length_singleton]
  rcases List.mem_append.mp hrequest with hrequest | hrequest
  · exact Nat.lt_succ_of_lt (h request hrequest)
  · rw [List.mem_singleton.mp hrequest]
    exact Nat.lt_succ_self _

theorem wellFormed_concat_empty {stock : Stock}
    (h : ∀ registry ∈ stock.registries, registry.WellFormed) :
    ∀ registry ∈ stock.registries ++ [.empty], registry.WellFormed := by
  intro registry hregistry
  rcases List.mem_append.mp hregistry with hregistry | hregistry
  · exact h registry hregistry
  · rw [List.mem_singleton.mp hregistry]
    exact .empty

/-- A registry that is made has nothing, and the others are as before. -/
theorem registry_concat_empty (stock : Stock) (id : RegistryId) :
    Stock.registry { stock with registries := stock.registries ++ [.empty] } id =
      stock.registry id := by
  -- Where there was no registry, there was none that had anything.
  show (stock.registries ++ [Registry.empty]).getD id _ = stock.registries.getD id _
  rw [List.getD_eq_getElem?_getD, List.getD_eq_getElem?_getD, List.getElem?_append]
  split
  · rfl
  case isFalse hlt =>
    rw [List.getElem?_eq_none (Nat.le_of_not_lt hlt)]
    cases id - stock.registries.length <;> rfl

/-- Only the registry of the request changes, and in it only the slots of the request. -/
theorem Keeps.setRegistry {stock : Stock} {ledger ledger' : Ledger} (h : stock.Keeps ledger)
    {request : RequestId} (hhome : stock.home request < stock.registries.length)
    {registry : Registry Job}
    (hown : ∀ scope, registry.entries ⟨request, scope⟩ = ledger'.pendingIn ⟨request, scope⟩)
    (hothers : ∀ slot, slot.request ≠ request →
      registry.entries slot = (stock.registry (stock.home request)).entries slot ∧
        ledger'.pendingIn slot = ledger.pendingIn slot) :
    (stock.setRegistry (stock.home request) registry).Keeps ledger' := by
  intro id slot
  rw [registry_setRegistry hhome]
  show _ = if stock.home slot.request = id then _ else _
  -- A slot of the request is in the registry that changes or has never been anywhere else.
  by_cases hrequest : slot.request = request
  · subst hrequest
    by_cases hid : id = stock.home slot.request
    · rw [if_pos hid, if_pos hid.symm]
      exact hown slot.scope
    -- No other registry has had entries of the request at any time.
    · rw [if_neg hid, if_neg fun h => hid h.symm, h, if_neg fun h => hid h.symm]
  -- The other requests may share the registry, and find their slots as they were.
  · obtain ⟨hentries, hpending⟩ := hothers slot hrequest
    rw [hpending, ← h]
    split
    case isTrue hid => rw [hentries, hid]
    case isFalse => rfl

end Stock

/-! ### Stakes -/

namespace Stock

variable {P : TaskId → Stake → Prop} {stakes : List (Option Stake)} {stake : Option Stake}

/-- What holds of all stakes holds with a new task too if it holds of what the task is given. -/
theorem stakes_concat
    (hold : ∀ (task : TaskId) (given : Stake), stakes[task]? = some (some given) → P task given)
    (hnew : ∀ given, stake = some given → P stakes.length given) (task : TaskId) (given : Stake)
    (h : (stakes ++ [stake])[task]? = some (some given)) : P task given := by
  -- The task was there before, or it is the new one.
  by_cases htask : task < stakes.length
  · rw [List.getElem?_append_left htask] at h
    exact hold task given h
  · rw [List.getElem?_append_right (Nat.le_of_not_lt htask)] at h
    obtain ⟨hindex, hstake⟩ := List.getElem?_eq_some_iff.mp h
    have heq : task = stakes.length :=
      Nat.le_antisymm (Nat.le_of_sub_eq_zero (Nat.lt_one_iff.mp hindex)) (Nat.le_of_not_lt htask)
    subst heq
    simp only [Nat.sub_self, List.getElem_cons_zero] at hstake
    exact hnew given hstake

/-- What holds of all stakes holds after a change too if it holds of what the task has then. -/
theorem stakes_set {changed : TaskId}
    (hothers : ∀ (task : TaskId) (given : Stake), task ≠ changed →
      stakes[task]? = some (some given) → P task given)
    (hchanged : ∀ given, stake = some given → P changed given) (task : TaskId) (given : Stake)
    (h : (stakes.set changed stake)[task]? = some (some given)) : P task given := by
  rw [List.getElem?_set] at h
  by_cases heq : changed = task
  · subst heq
    rw [if_pos rfl] at h
    split at h
    · exact hchanged given (Option.some.inj h)
    · cases h
  · rw [if_neg heq] at h
    exact hothers task given (fun h => heq h.symm) h

end Stock

namespace Stake.Backed

variable {ledger : Ledger} {task : TaskId} {stake : Stake}

/-- A task has the same backing if others get another fate, which hands it nothing. -/
theorem revise (h : stake.Backed ledger task) {among : Record → Prop} [DecidablePred among]
    {fate : Fate} (hfate : fate ≠ .handed task)
    (hamong : ∀ record, among record →
      record.fate ≠ .handed task ∧ record.fate.runner? ≠ some task) :
    stake.Backed (ledger.revise fun record => if among record then fate else record.fate) task := by
  -- What was given to the task stays as it was.
  have hkept {record : Record} (hrecord : record ∈ ledger)
      (hr : record.fate.runner? = some task) :
      record ∈ ledger.revise fun record => if among record then fate else record.fate :=
    Ledger.mem_revise.mpr
      ⟨record, hrecord, by rw [if_neg fun hothers => (hamong record hothers).2 hr]⟩
  cases stake with
  | holding request entries =>
    obtain ⟨hentries, hrequests⟩ := h
    have hothers (record : Record) (hrecord : among record) := (hamong record hrecord).1
    have hrevised := hentries.trans (Ledger.handedTo_revise ledger task hfate hothers).symm
    refine ⟨hrevised, fun record hrecord hhanded => ?_⟩
    obtain ⟨old, hold, rfl⟩ := Ledger.mem_revise.mp hrecord
    exact hrequests old hold ((Ledger.eq_unmoved_iff hfate hothers old).mp hhanded)
  | starting running =>
    obtain ⟨record, hrecord, hfate, hrunning⟩ := h
    exact ⟨record, hkept hrecord (by rw [hfate]; rfl), hfate, hrunning⟩
  | started request name execution =>
    obtain ⟨record, hrecord, hfate, hrequest⟩ := h
    exact ⟨record, hkept hrecord (by rw [hfate]; rfl), hfate, hrequest⟩

theorem register (h : stake.Backed ledger task) (slot : Slot) (entry : Entry Job) :
    stake.Backed (ledger.register slot entry) task := by
  cases stake with
  | holding request entries =>
    obtain ⟨hentries, hrequests⟩ := h
    refine ⟨hentries.trans (Ledger.handedTo_register _ _ _ _).symm, fun record hrecord hfate => ?_⟩
    rcases List.mem_append.mp hrecord with hrecord | hrecord
    · exact hrequests record hrecord hfate
    · rw [List.mem_singleton.mp hrecord] at hfate
      cases hfate
  | starting running =>
    obtain ⟨record, hrecord, hbacked⟩ := h
    exact ⟨record, List.mem_append_left _ hrecord, hbacked⟩
  | started request name execution =>
    obtain ⟨record, hrecord, hbacked⟩ := h
    exact ⟨record, List.mem_append_left _ hrecord, hbacked⟩

/-- What others are handed is nothing to a task. -/
theorem hand (h : stake.Backed ledger task) (slot : Slot) {execution : TaskId}
    (hne : task ≠ execution) : stake.Backed (ledger.hand slot execution) task :=
  h.revise (fun heq => hne (Fate.handed.inj heq).symm) fun record hpending => by
    rw [hpending.1]
    exact ⟨nofun, nofun⟩

/-- What another execution gives away is nothing to a task. -/
theorem launch (h : stake.Backed ledger task) {execution : TaskId} (moment : Nat)
    (runner : TaskId) (hne : task ≠ execution) :
    stake.Backed (ledger.launch execution moment runner) task :=
  h.revise Fate.noConfusion fun record hhanded => by
    rw [hhanded.1]
    exact ⟨fun heq => hne (Fate.handed.inj heq).symm, nofun⟩

/-- What another task calls is nothing to a task. -/
theorem call (h : stake.Backed ledger task) (execution : TaskId) {runner : TaskId}
    (hne : task ≠ runner) : stake.Backed (ledger.call execution runner) task :=
  h.revise Fate.noConfusion fun record hlaunched => by
    rw [hlaunched]
    exact ⟨nofun, fun hr => hne (Option.some.inj hr).symm⟩

/-- What is thrown away was in nobody's hands. -/
theorem discard (h : stake.Backed ledger task) (request : RequestId) :
    stake.Backed (ledger.discard request) task :=
  h.revise Fate.noConfusion fun record hpending => by
    rw [hpending.1]
    exact ⟨nofun, nofun⟩

end Stake.Backed

namespace Books.Balanced

variable {stock : Stock} {ledger : Ledger}

/-! ### What balance tells -/

theorem home_lt (h : Balanced ⟨stock, ledger⟩) {request : RequestId}
    (hlive : request ∈ stock.live) : stock.home request < stock.registries.length :=
  Stock.home_lt h.homes h.live_lt hlive

/-- The registry of a request has what is pending for the request. -/
theorem entries_home (h : Balanced ⟨stock, ledger⟩) (slot : Slot) :
    (stock.registry (stock.home slot.request)).entries slot = ledger.pendingIn slot := by
  rw [h.pending, if_pos rfl]

theorem wellFormed_home (h : Balanced ⟨stock, ledger⟩) (request : RequestId) :
    (stock.registry (stock.home request)).WellFormed :=
  Stock.wellFormed_registry h.registries _

theorem nodup_moments (h : Balanced ⟨stock, ledger⟩) :
    (ledger.map (·.entry.registeredAt)).Nodup := by
  rw [h.moments]
  exact List.nodup_range

/-! ### One deed -/

theorem registers (h : Balanced ⟨stock, ledger⟩) {slot : Slot} (hlive : slot.request ∈ stock.live)
    (name : String) (job : Job) :
    Balanced ⟨stock.register slot ⟨name, stock.clock, job⟩,
      ledger.register slot ⟨name, stock.clock, job⟩⟩ where
  moments := by
    show (ledger ++ [_]).map _ = List.range (stock.clock + 1)
    rw [List.map_append, h.moments, List.range_succ]
    rfl
  homes := Stock.homes_setRegistry h.homes _ _
  live_nodup := h.live_nodup
  live_lt := h.live_lt
  holders := h.holders
  registries := Stock.wellFormed_set h.registries _ ((h.wellFormed_home _).add _ _)
  -- The entry is put at the end of its slot, there and in the ledger.
  pending := by
    refine Stock.Keeps.setRegistry h.pending (h.home_lt hlive) (fun scope => ?_)
      fun other hother => ?_
    · rw [Registry.entries_add, Ledger.pendingIn_register, h.entries_home]
      split
      · rfl
      · exact h.entries_home ⟨slot.request, scope⟩
    · have hne : other ≠ slot := fun heq => hother (by rw [heq])
      rw [Registry.entries_add, Ledger.pendingIn_register, if_neg hne, if_neg hne]
      exact ⟨rfl, rfl⟩
  alive record hrecord hfate := by
    rcases List.mem_append.mp hrecord with hrecord | hrecord
    · exact h.alive record hrecord hfate
    · rw [List.mem_singleton.mp hrecord]
      exact hlive
  backed task stake hstake := by
    obtain ⟨hrequest, hbacked⟩ := h.backed task stake hstake
    exact ⟨hrequest, hbacked.register _ _⟩
  consistent := h.consistent.register _ _

theorem hands (h : Balanced ⟨stock, ledger⟩) {slot : Slot} (hlive : slot.request ∈ stock.live)
    {stake : Option Stake} (hstake : ∀ given, stake = some given → given =
      .holding slot.request ((stock.registry (stock.home slot.request)).take slot).1) :
    Balanced ⟨(stock.take slot).spawn stake, ledger.hand slot stock.stakes.length⟩ where
  moments := (Ledger.map_revise ledger _ (·.registeredAt)).trans h.moments
  homes := Stock.homes_setRegistry h.homes _ _
  live_nodup := h.live_nodup
  live_lt := h.live_lt
  holders := h.holders
  registries := Stock.wellFormed_set h.registries _ ((h.wellFormed_home _).take _)
  pending := by
    have hregistry := h.wellFormed_home slot.request
    refine Stock.Keeps.setRegistry h.pending (h.home_lt hlive) (fun scope => ?_)
      fun other hother => ?_
    · rw [hregistry.entries_take, Ledger.pendingIn_hand]
      split
      · rfl
      · exact h.entries_home ⟨slot.request, scope⟩
    · have hne : other ≠ slot := fun heq => hother (by rw [heq])
      rw [hregistry.entries_take, Ledger.pendingIn_hand, if_neg hne, if_neg hne]
      exact ⟨rfl, rfl⟩
  alive := Ledger.alive_revise h.alive Fate.noConfusion
  backed := by
    refine Stock.stakes_concat (fun task given hgiven => ?_) fun given hgiven => ?_
    · obtain ⟨hrequest, hbacked⟩ := h.backed task given hgiven
      have htask : task < stock.stakes.length := (List.getElem?_eq_some_iff.mp hgiven).1
      exact ⟨hrequest, hbacked.hand slot (Nat.ne_of_lt htask)⟩
    -- The new task has what was pending in the slot, and the ledger hands it just that.
    rw [hstake given hgiven]
    refine ⟨hlive, ?_, fun record hrecord hfate => ?_⟩
    · rw [(h.wellFormed_home _).take_fst, h.entries_home]
      exact ((Ledger.handedTo_hand slot _ h.consistent.ne_handed).trans (if_pos rfl)).symm
    · obtain ⟨old, hold, rfl⟩ := Ledger.mem_revise.mp hrecord
      dsimp only at hfate
      split at hfate
      case isTrue hpending => exact congrArg Slot.request hpending.2
      case isFalse => exact absurd hfate (h.consistent.ne_handed old hold)
  consistent := by
    show Ledger.Consistent _ (stock.stakes ++ [stake]).length
    rw [List.length_append, List.length_singleton]
    exact h.consistent.hand slot

theorem launches (h : Balanced ⟨stock, ledger⟩) {execution : TaskId} {request : RequestId}
    {entry : Entry Job} {rest : List (Entry Job)} {stake : Option Stake}
    (hholding : stock.stakes[execution]? = some (some (.holding request (entry :: rest))))
    (hstake : ∀ given, stake = some given → given = .starting (entry.running request execution)) :
    Balanced ⟨(stock.setStake execution (some (.holding request rest))).spawn stake,
      ledger.launch execution entry.registeredAt stock.stakes.length⟩ := by
  -- The execution has just the entries that the ledger hands to it.
  obtain ⟨hlive, hentries, hrequests⟩ := h.backed _ _ hholding
  have hexecution : execution < stock.stakes.length :=
    (List.getElem?_eq_some_iff.mp hholding).1
  refine ⟨(Ledger.map_revise ledger _ (·.registeredAt)).trans h.moments, h.homes, h.live_nodup,
    h.live_lt, h.holders, h.registries, ?pending, ?alive, ?backed, ?consistent⟩
  case pending =>
    intro id slot
    rw [Ledger.pendingIn_launch]
    exact h.pending id slot
  case alive => exact Ledger.alive_revise h.alive Fate.noConfusion
  case backed =>
    refine Stock.stakes_concat (Stock.stakes_set (fun task given hne hgiven => ?_)
      fun given hgiven => ?_) fun given hgiven => ?_
    · obtain ⟨hrequest, hbacked⟩ := h.backed task given hgiven
      exact ⟨hrequest, hbacked.launch _ _ hne⟩
    -- The execution keeps the others, which are still handed to it.
    · cases hgiven
      refine ⟨hlive, ?_, fun record hrecord hfate => ?_⟩
      · rw [Ledger.handedTo_launch h.nodup_moments hentries.symm, if_pos rfl]
      · obtain ⟨old, hold, rfl⟩ := Ledger.mem_revise.mp hrecord
        dsimp only at hfate
        split at hfate
        · cases hfate
        · exact hrequests old hold hfate
    -- The new task has the entry whose record says so.
    · rw [hstake given hgiven]
      obtain ⟨record, hrecord, hfate, rfl⟩ := Ledger.mem_handedTo.mp
        (hentries ▸ List.mem_cons_self : entry ∈ ledger.handedTo execution)
      refine ⟨hlive, _, Ledger.mem_revise.mpr ⟨record, hrecord, rfl⟩, ?_, ?_⟩
      · show _ = Fate.launched execution (stock.stakes.set execution _).length
        rw [List.length_set]
        exact if_pos ⟨hfate, rfl⟩
      · rw [← hrequests record hrecord hfate]
        rfl
  case consistent =>
    show Ledger.Consistent _ (stock.stakes.set execution _ ++ [stake]).length
    rw [List.length_append, List.length_set, List.length_singleton]
    exact h.consistent.launch h.nodup_moments execution _

theorem calls (h : Balanced ⟨stock, ledger⟩) {runner : TaskId} {running : Running}
    (hstarting : stock.stakes[runner]? = some (some (.starting running))) :
    Balanced ⟨stock.setStake runner
        (some (.started running.request running.name running.execution)),
      ledger.call running.execution runner⟩ := by
  -- The ledger has a record for the entry that the task starts with.
  obtain ⟨hlive, record, hrecord, hfate, hrunning⟩ := h.backed _ _ hstarting
  refine ⟨(Ledger.map_revise ledger _ (·.registeredAt)).trans h.moments, h.homes, h.live_nodup,
    h.live_lt, h.holders, h.registries, ?pending, ?alive, ?backed, ?consistent⟩
  case pending =>
    intro id slot
    rw [Ledger.pendingIn_call]
    exact h.pending id slot
  case alive => exact Ledger.alive_revise h.alive Fate.noConfusion
  case backed =>
    refine Stock.stakes_set (fun task given hne hgiven => ?_) fun given hgiven => ?_
    · obtain ⟨hrequest, hbacked⟩ := h.backed task given hgiven
      exact ⟨hrequest, hbacked.call _ hne⟩
    · cases hgiven
      refine ⟨hlive, _, Ledger.mem_revise.mpr ⟨record, hrecord, rfl⟩, if_pos hfate, ?_, ?_⟩
      · rw [hrunning]
        rfl
      · rw [hrunning]
        rfl
  case consistent =>
    show Ledger.Consistent _ (stock.stakes.set runner _).length
    rw [List.length_set]
    exact h.consistent.call _ _

theorem ends (h : Balanced ⟨stock, ledger⟩) (task : TaskId) :
    Balanced ⟨stock.setStake task none, ledger⟩ where
  moments := h.moments
  homes := h.homes
  live_nodup := h.live_nodup
  live_lt := h.live_lt
  holders := h.holders
  registries := h.registries
  pending := h.pending
  alive := h.alive
  backed := by
    refine Stock.stakes_set (fun other given _ hgiven => h.backed other given hgiven) ?_
    rintro _ ⟨⟩
  consistent := by
    show Ledger.Consistent _ (stock.stakes.set task none).length
    rw [List.length_set]
    exact h.consistent

/-- Whatever is pending in the slots of a request may be thrown away. -/
theorem clears (h : Balanced ⟨stock, ledger⟩) {request : RequestId}
    (hlive : request ∈ stock.live) :
    Balanced ⟨stock.discard request, ledger.discard request⟩ where
  moments := (Ledger.map_revise ledger _ (·.registeredAt)).trans h.moments
  homes := Stock.homes_setRegistry h.homes _ _
  live_nodup := h.live_nodup
  live_lt := h.live_lt
  holders := h.holders
  registries := Stock.wellFormed_set h.registries _ ((h.wellFormed_home _).discard _)
  -- The slots of the request are empty in both, and the others as they were.
  pending := by
    have hregistry := h.wellFormed_home request
    refine Stock.Keeps.setRegistry h.pending (h.home_lt hlive) (fun scope => ?_)
      fun other hother => ?_
    · rw [hregistry.entries_discard, Ledger.pendingIn_discard, if_pos rfl, if_pos rfl]
    · rw [hregistry.entries_discard, Ledger.pendingIn_discard, if_neg hother, if_neg hother]
      exact ⟨rfl, rfl⟩
  alive := Ledger.alive_revise h.alive Fate.noConfusion
  backed task stake hstake := by
    obtain ⟨hrequest, hbacked⟩ := h.backed task stake hstake
    exact ⟨hrequest, hbacked.discard _⟩
  consistent := h.consistent.discard _

/-- A request may go that nobody has, once nothing is pending for it. -/
theorem drops (h : Balanced ⟨stock, ledger⟩) {request : RequestId} (hlive : request ∈ stock.live)
    (hholders : request ∉ stock.holders)
    (hstakes : ∀ stake, some stake ∈ stock.stakes → stake.request ≠ request) :
    Balanced ⟨stock.drop request, ledger.discard request⟩ := by
  -- As far as the registries go, the request is cleared.
  have hcleared := h.clears hlive
  have hstays {other : RequestId} (hother : other ∈ stock.live) (hne : other ≠ request) :
      other ∈ stock.live.erase request := (List.mem_erase_of_ne hne).mpr hother
  refine ⟨hcleared.moments, hcleared.homes, h.live_nodup.erase _, fun other hother => ?live_lt,
    fun other hother => ?holders, hcleared.registries, hcleared.pending, ?alive, ?backed,
    hcleared.consistent⟩
  case live_lt => exact h.live_lt other (List.mem_of_mem_erase hother)
  case holders => exact hstays (h.holders other hother) fun heq => hholders (heq ▸ hother)
  case alive =>
    intro record hrecord hfate
    refine hstays (hcleared.alive record hrecord hfate) fun heq => ?_
    -- What was pending for the request has just been thrown away.
    obtain ⟨old, hold, rfl⟩ := Ledger.mem_revise.mp hrecord
    dsimp only at hfate heq
    split at hfate
    · cases hfate
    case isFalse hother => exact hother ⟨hfate, heq⟩
  case backed =>
    intro task stake hstake
    obtain ⟨hrequest, hbacked⟩ := hcleared.backed task stake hstake
    exact ⟨hstays hrequest (hstakes stake (List.mem_of_getElem? hstake)), hbacked⟩

/-- A request is new to the ledger, too, when it is made. -/
theorem builds (h : Balanced ⟨stock, ledger⟩) {home : RegistryId}
    (hhome : home < stock.registries.length) : Balanced ⟨stock.build home, ledger⟩ := by
  have hkeeps {request : RequestId} (hlive : request ∈ stock.live) :
      request ∈ stock.live ++ [stock.homes.length] := List.mem_append_left _ hlive
  refine ⟨h.moments, Stock.homes_build h.homes hhome,
    Stock.live_nodup_build h.live_nodup h.live_lt _, Stock.live_lt_build h.live_lt _,
    fun request hrequest => hkeeps (h.holders request hrequest), h.registries, ?pending,
    fun record hrecord hfate => hkeeps (h.alive record hrecord hfate), ?backed, h.consistent⟩
  case pending =>
    intro id slot
    have hold := h.pending id slot
    by_cases hslot : slot.request = stock.homes.length
    -- Nothing is pending for the new request, so it does not matter which registry it uses.
    · have hnone : ledger.pendingIn slot = [] := by
        refine Ledger.select_eq_nil fun record hrecord => decide_eq_false fun hpending => ?_
        have hlt := h.live_lt _ (h.alive record hrecord hpending.1)
        rw [hpending.2, hslot] at hlt
        exact Nat.lt_irrefl _ hlt
      rw [hnone, ite_self] at hold ⊢
      exact hold
    · rw [Stock.home_build hslot]
      exact hold
  case backed =>
    intro task stake hstake
    obtain ⟨hrequest, hbacked⟩ := h.backed task stake hstake
    exact ⟨hkeeps hrequest, hbacked⟩

theorem opens (h : Balanced ⟨stock, ledger⟩) :
    Balanced ⟨{ stock with registries := stock.registries ++ [.empty] }, ledger⟩ where
  moments := h.moments
  homes home hhome := by
    rw [List.length_append]
    exact Nat.lt_add_right _ (h.homes home hhome)
  live_nodup := h.live_nodup
  live_lt := h.live_lt
  holders := h.holders
  registries := Stock.wellFormed_concat_empty h.registries
  pending id slot := by
    rw [Stock.registry_concat_empty]
    exact h.pending id slot
  alive := h.alive
  backed := h.backed
  consistent := h.consistent

end Books.Balanced

/-- A deed keeps the books in balance. -/
theorem Deed.balanced {books books' : Books} (deed : Deed books books') (h : books.Balanced) :
    books'.Balanced := by
  -- One lemma for each deed; who has what, and whose turn it is, are in no entry of the ledger.
  cases deed with
  | registers hlive => exact h.registers hlive _ _
  | hands hlive hstake => exact h.hands hlive hstake
  | launches hholding hstake => exact h.launches hholding hstake
  | calls hstarting => exact h.calls hstarting
  | ends task => exact h.ends task
  | clears hlive => exact h.clears hlive
  | drops hlive hholders hstakes => exact h.drops hlive hholders hstakes
  | builds hhome => exact h.builds hhome
  | opens => exact h.opens
  | holds hlive =>
    exact ⟨h.moments, h.homes, h.live_nodup, h.live_lt, hlive, h.registries, h.pending, h.alive,
      h.backed, h.consistent⟩
  | turns current =>
    exact ⟨h.moments, h.homes, h.live_nodup, h.live_lt, h.holders, h.registries, h.pending,
      h.alive, h.backed, h.consistent⟩

/-- Books that balance do so whatever happens. -/
theorem Deeds.balanced {books books' : Books} (deeds : Deeds books books') (h : books.Balanced) :
    books'.Balanced := by
  -- Balance is the invariant, and each deed keeps it.
  induction deeds with
  | refl => exact h
  | tail _ deed ih => exact deed.balanced ih

/-! ### What deeds do to the ledger -/

/-- Later books: every entry has gone on its way from where it was, and an execution that was there
has been handed nothing since. -/
structure Books.Precedes (books books' : Books) : Prop where
  /-- No record is lost or goes back. -/
  ledger : books.ledger.Precedes books'.ledger
  /-- No task is lost. -/
  tasks : books.stock.stakes.length ≤ books'.stock.stakes.length
  /-- Whatever an execution has been handed, it was handed when it began. -/
  executions : ∀ (i : Nat) (execution : TaskId), execution < books.stock.stakes.length →
    (∃ record, books'.ledger[i]? = some record ∧ record.fate.execution? = some execution) →
      ∃ record, books.ledger[i]? = some record ∧ record.fate.execution? = some execution

namespace Books.Precedes

theorem refl (books : Books) : books.Precedes books :=
  ⟨.refl _, Nat.le_refl _, fun _ _ _ h => h⟩

theorem trans {a b c : Books} (hab : a.Precedes b) (hbc : b.Precedes c) : a.Precedes c where
  ledger := hab.ledger.trans hbc.ledger
  tasks := Nat.le_trans hab.tasks hbc.tasks
  executions i execution hlt h :=
    hab.executions i execution hlt
      (hbc.executions i execution (Nat.lt_of_lt_of_le hlt hab.tasks) h)

/-- Some records may get another fate if executions that were there are handed nothing. -/
theorem revise {stock stock' : Stock} {ledger : Ledger} {among : Record → Prop}
    [DecidablePred among] {fate : Fate} (htasks : stock.stakes.length ≤ stock'.stakes.length)
    (hledger : ledger.Precedes
      (ledger.revise fun record => if among record then fate else record.fate))
    (hamong : ∀ record, among record → ∀ execution, execution < stock.stakes.length →
      fate.execution? = some execution → record.fate.execution? = some execution) :
    Books.Precedes ⟨stock, ledger⟩
      ⟨stock', ledger.revise fun record => if among record then fate else record.fate⟩ := by
  refine ⟨hledger, htasks, fun i execution hlt hgiven => ?_⟩
  obtain ⟨record, hrecord, he⟩ := hgiven
  dsimp only at hrecord
  rw [Ledger.revise, List.getElem?_map] at hrecord
  obtain ⟨old, hold, rfl⟩ := Option.map_eq_some_iff.mp hrecord
  refine ⟨old, hold, ?_⟩
  dsimp only at he
  split at he
  case isTrue h => exact hamong old h execution hlt he
  case isFalse => exact he

/-- Without an entry in the ledger nothing becomes of any entry. -/
theorem of_stock {stock stock' : Stock} (ledger : Ledger)
    (htasks : stock.stakes.length ≤ stock'.stakes.length) :
    Books.Precedes ⟨stock, ledger⟩ ⟨stock', ledger⟩ :=
  ⟨.refl _, htasks, fun _ _ _ h => h⟩

end Books.Precedes

/-- A deed moves entries on, and never back. -/
theorem Deed.precedes {books books' : Books} (deed : Deed books books') :
    books.Precedes books' := by
  -- Only two deeds hand anything to an execution: a new one is made, or one gives away what it has.
  cases deed with
  | @registers stock ledger slot name job hlive =>
    refine ⟨.register _ _ _, Nat.le_refl _, fun i execution _ hgiven => ?_⟩
    obtain ⟨record, hrecord, he⟩ := hgiven
    change (ledger ++ [_])[i]? = some record at hrecord
    rw [List.getElem?_append] at hrecord
    split at hrecord
    · exact ⟨record, hrecord, he⟩
    -- The new record has been handed to nobody.
    · rw [List.mem_singleton.mp (List.mem_of_getElem? hrecord)] at he
      cases he
  | @hands stock ledger slot stake hlive hstake =>
    refine .revise ?_ (.hand _ _ _) fun record _ execution hlt he => ?_
    · rw [Stock.spawn, List.length_append]
      exact Nat.le_add_right _ _
    · cases he
      exact absurd hlt (Nat.lt_irrefl _)
  | @launches stock ledger execution request entry rest stake hholding hstake =>
    refine .revise ?_ (.launch _ _ _ _) fun record hhanded other _ he => ?_
    · rw [Stock.spawn, List.length_append, Stock.setStake, List.length_set]
      exact Nat.le_add_right _ _
    · rw [hhanded.1]
      exact he
  | @calls stock ledger runner running hstarting =>
    refine .revise ?_ (.call _ _ _) fun record hlaunched other _ he => ?_
    · exact Nat.le_of_eq List.length_set.symm
    · rw [hlaunched]
      exact he
  | ends task => exact .of_stock _ (Nat.le_of_eq List.length_set.symm)
  | clears hlive =>
    refine .revise (Nat.le_refl _) (.discard _ _) fun record _ execution _ he => ?_
    cases he
  | drops hlive hholders hstakes =>
    refine .revise (Nat.le_refl _) (.discard _ _) fun record _ execution _ he => ?_
    cases he
  | builds => exact .of_stock _ (Nat.le_refl _)
  | opens => exact .of_stock _ (Nat.le_refl _)
  | holds => exact .of_stock _ (Nat.le_refl _)
  | turns => exact .of_stock _ (Nat.le_refl _)

/-- Whatever happens moves entries on, and never back. -/
theorem Deeds.precedes {books books' : Books} (deeds : Deeds books books') :
    books.Precedes books' := by
  induction deeds with
  | refl => exact .refl _
  | tail _ deed ih => exact ih.trans deed.precedes

end Inbound
