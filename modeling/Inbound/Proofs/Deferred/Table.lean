import Mathlib
import Inbound.Proofs.Deferred.Registry

/-!
# Registries as tables

Nobody who uses a registry sees that it keeps two tables. It behaves like a single one, in which
every slot has the list of its pending entries in the order of their registration. Registering,
handing over and discarding are each one change of that table, and whatever a registry is asked, it
answers what the table says.

## Main results

* `Registry.WellFormed.represents`: the two tables of a registry stand for the entries of its slots;
* `Registry.WellFormed.answers`: the answers of a registry are those of the table;
* `Registry.run_represents`: both hold after any changes, each of which leaves the slots alone that
  it does not concern.
-/

namespace Inbound.Deferred

/-- A table of pending entries. -/
abbrev Table (α : Type) := Slot → List (Entry α)

/-- A change of a registry. -/
inductive Registry.Change (α : Type) where
  /-- An entry is registered. -/
  | add (slot : Slot) (entry : Entry α)
  /-- The entries of a slot are handed to an execution. -/
  | take (slot : Slot)
  /-- The entries of a request are discarded, be it that they are cleared or that the request is
  gone. -/
  | discard (request : RequestId)

variable {α : Type}

/-- A change concerns one slot, or all slots of one request. -/
def Registry.Change.Concerns (slot : Slot) : Registry.Change α → Prop
  | .add other _ | .take other => slot = other
  | .discard request => slot.request = request

/-! ### Tables -/

namespace Table

/-- The table without entries. -/
def blank : Table α := fun _ => []

/-- The table after a change. -/
def change (table : Table α) : Registry.Change α → Table α
  | .add slot entry => Function.update table slot (table slot ++ [entry])
  | .take slot => Function.update table slot []
  | .discard request => fun slot => if slot.request = request then [] else table slot

/-- The table after changes, one after the other. -/
def run (table : Table α) (changes : List (Registry.Change α)) : Table α :=
  changes.foldl change table

/-- The slots with entries. -/
def filled (table : Table α) : Set Slot := {slot | table slot ≠ []}

/-- How many entries of a name are in a slot. -/
def count (table : Table α) (slot : Slot) (name : String) : ℕ :=
  (table slot).countP (·.name = name)

/-- What is known about the entries of a name in a slot. -/
def find (table : Table α) (slot : Slot) (name : String) : Except Error Info :=
  match (table slot).find? (·.name = name) with
  | none => .error (.notFound name slot.scope)
  | some first => .ok ⟨name, slot.scope, table.count slot name, first.registeredAt⟩

/-- How many entries a request has, in all scopes together. -/
noncomputable def total (table : Table α) (request : RequestId) : ℕ :=
  ∑ᶠ scope, (table ⟨request, scope⟩).length

/-- There is something to find under a name exactly if an entry has it. -/
theorem find_eq_error_iff (table : Table α) (slot : Slot) (name : String) :
    table.find slot name = .error (.notFound name slot.scope) ↔ table.count slot name = 0 := by
  unfold find
  cases hfind : (table slot).find? (·.name = name) with
  | none =>
    rw [List.find?_eq_none] at hfind
    exact ⟨fun _ => List.countP_eq_zero.mpr hfind, fun _ => rfl⟩
  | some first =>
    refine ⟨by rintro ⟨⟩, fun hcount => ?_⟩
    have hname := List.find?_some hfind
    exact absurd hname (List.countP_eq_zero.mp hcount first (List.mem_of_find?_eq_some hfind))

/-- A change does nothing to a slot that it does not concern. -/
theorem change_of_not_concerns (table : Table α) {change : Registry.Change α} {slot : Slot}
    (h : ¬ change.Concerns slot) : table.change change slot = table slot := by
  cases change with
  | add other entry => exact Function.update_of_ne h _ _
  | take other => exact Function.update_of_ne h _ _
  | discard request => exact if_neg h

end Table

namespace Registry

/-- The registry after a change. -/
def change (registry : Registry α) : Change α → Registry α
  | .add slot entry => registry.add slot entry
  | .take slot => (registry.take slot).2
  | .discard request => (registry.discard request).2

/-- The registry after changes, one after the other. -/
def run (registry : Registry α) (changes : List (Change α)) : Registry α :=
  changes.foldl change registry

/-! ### What a registry stands for -/

/-- The two tables of a registry stand for one. -/
structure Represents (registry : Registry α) (table : Table α) : Prop where
  /-- The slots that are kept are those with entries, with these entries. -/
  rows : ∀ {slot entries}, (slot, entries) ∈ registry.scopes ↔ entries = table slot ∧ entries ≠ []
  /-- No slot is kept twice. -/
  rows_nodup : (registry.scopes.map Prod.fst).Nodup
  /-- A scope is listed for a request once if the request has entries in it, and else not. -/
  listed : ∀ request scope, (registry.scopesOf request).count scope =
    if table ⟨request, scope⟩ = [] then 0 else 1
  /-- No request is listed twice. -/
  requests_nodup : (registry.index.map Prod.fst).Nodup
  /-- No request is listed without scopes. -/
  requests_filled : ∀ {request scopes}, (request, scopes) ∈ registry.index → scopes ≠ []

/-- A registry answers what a table says. -/
structure Answers (registry : Registry α) (table : Table α) : Prop where
  pending : ∀ slot, registry.pending slot = (table slot).length
  find : ∀ slot name, registry.find slot name = table.find slot name
  isEmpty : registry.isEmpty = true ↔ ∀ slot, table slot = []
  size : registry.size = table.filled.ncard
  describe : registry.describe =
    "FutureRegistry \x7b scopes: " ++ toString table.filled.ncard ++ " \x7d"
  /-- An execution is handed the entries of its slot. -/
  take : ∀ slot, (registry.take slot).1 = table slot
  /-- As many entries are discarded as the request has. -/
  discard : ∀ request, (registry.discard request).1.length = table.total request

namespace WellFormed

variable {registry : Registry α}

/-- A slot is found in the table just in case it has entries. -/
theorem lookup_eq_some_iff (h : registry.WellFormed) {slot : Slot} {entries : List (Entry α)} :
    registry.scopes.lookup slot = some entries ↔
      entries = registry.entries slot ∧ entries ≠ [] := by
  constructor
  · intro hlookup
    refine ⟨?_, h.slots_filled _ ((mem_iff_lookup h.slots_nodup).mpr hlookup)⟩
    rw [Registry.entries, hlookup, Option.getD_some]
  · rintro ⟨rfl, hfilled⟩
    cases hlookup : registry.scopes.lookup slot with
    | none => exact absurd (by rw [Registry.entries, hlookup, Option.getD_none]) hfilled
    | some entries => rw [Registry.entries, hlookup, Option.getD_some]

/-- The two tables of a registry stand for the entries of its slots. -/
theorem represents (h : registry.WellFormed) : registry.Represents registry.entries where
  rows := (mem_iff_lookup h.slots_nodup).trans h.lookup_eq_some_iff
  rows_nodup := h.slots_nodup
  listed request scope := by
    have hlisted := h.listed ⟨request, scope⟩
    dsimp only at hlisted
    split
    case isTrue hnil => exact List.count_eq_zero.mpr fun hmem => hlisted.mp hmem hnil
    case isFalse hfilled =>
      exact List.count_eq_one_of_mem (h.scopes_nodup request) (hlisted.mpr hfilled)
  requests_nodup := h.requests_nodup
  requests_filled hmem := h.requests_filled _ hmem

/-! ### What a registry answers -/

theorem find_eq (registry : Registry α) (slot : Slot) (name : String) :
    registry.find slot name = Table.find registry.entries slot name := by
  unfold Registry.find Table.find Table.count
  rw [← List.head?_filter, List.countP_eq_length_filter]
  cases (registry.entries slot).filter (·.name = name) <;> rfl

theorem isEmpty_iff (h : registry.WellFormed) :
    registry.isEmpty = true ↔ ∀ slot, registry.entries slot = [] := by
  rw [Registry.isEmpty, List.isEmpty_iff]
  constructor
  · intro hnil slot
    rw [Registry.entries, hnil]
    rfl
  · intro hempty
    -- A row would be one of a slot with entries.
    rw [List.eq_nil_iff_forall_not_mem]
    rintro ⟨slot, entries⟩ hrow
    obtain ⟨rfl, hfilled⟩ := h.represents.rows.mp hrow
    exact hfilled (hempty slot)

/-- There are as many rows as slots with entries. -/
theorem size_eq (h : registry.WellFormed) :
    registry.size = (Table.filled registry.entries).ncard := by
  have hfilled : Table.filled registry.entries = ↑(registry.scopes.map Prod.fst).toFinset := by
    ext slot
    simp only [Table.filled, Set.mem_ofPred_eq, List.coe_toFinset, List.mem_map, Prod.exists,
      exists_and_right, exists_eq_right, h.represents.rows]
    constructor
    · intro hslot
      exact ⟨_, rfl, hslot⟩
    · rintro ⟨_, rfl, hslot⟩
      exact hslot
  rw [hfilled, Set.ncard_coe_finset, List.toFinset_card_of_nodup h.slots_nodup, List.length_map]
  rfl

/-- A request has the entries of the scopes that are listed for it, each of which is listed
once. -/
theorem total_eq (h : registry.WellFormed) (request : RequestId) :
    Table.total registry.entries request =
      ((registry.scopesOf request).map fun scope =>
        (registry.entries ⟨request, scope⟩).length).sum := by
  have hsupport : (Function.support fun scope => (registry.entries ⟨request, scope⟩).length) ⊆
      ↑(registry.scopesOf request).toFinset := by
    intro scope hscope
    rw [List.coe_toFinset, Set.mem_ofPred_eq]
    exact (h.listed ⟨request, scope⟩).mpr fun hnil => hscope (by simp [hnil])
  rw [Table.total, finsum_eq_sum_of_support_subset _ hsupport,
    List.sum_toFinset _ (h.scopes_nodup request)]

theorem length_discard (h : registry.WellFormed) (request : RequestId) :
    (registry.discard request).1.length = Table.total registry.entries request := by
  rw [h.total_eq]
  unfold Registry.discard
  split
  case h_1 hindex =>
    rw [scopesOf, hindex]
    rfl
  case h_2 scopes hindex => rw [List.length_flatMap, scopesOf, hindex, Option.getD_some]

/-- A registry answers what the entries of its slots are. -/
theorem answers (h : registry.WellFormed) : registry.Answers registry.entries where
  pending slot := rfl
  find := find_eq registry
  isEmpty := h.isEmpty_iff
  size := h.size_eq
  describe := by
    unfold Registry.describe
    rw [h.size_eq]
  take := h.take_fst
  discard := h.length_discard

/-! ### Changes -/

protected theorem change (h : registry.WellFormed) (change : Change α) :
    (registry.change change).WellFormed := by
  cases change with
  | add slot entry => exact h.add slot entry
  | take slot => exact h.take slot
  | discard request => exact h.discard request

/-- A change does to the slots of a registry what it does to a table. -/
theorem entries_change (h : registry.WellFormed) (change : Change α) :
    (registry.change change).entries = Table.change registry.entries change := by
  ext1 slot
  cases change with
  | add other entry =>
    rw [Registry.change, entries_add, Table.change, Function.update_apply]
  | take other =>
    rw [Registry.change, h.entries_take, Table.change, Function.update_apply]
  | discard request => exact h.entries_discard request slot

/-- After any changes a registry is well-formed, and its slots are those of the table after the same
changes. -/
theorem run (h : registry.WellFormed) (changes : List (Change α)) :
    (registry.run changes).WellFormed ∧
      (registry.run changes).entries = Table.run registry.entries changes := by
  induction changes generalizing registry with
  | nil => exact ⟨h, rfl⟩
  | cons change changes ih =>
    obtain ⟨hwellFormed, hentries⟩ := ih (h.change change)
    refine ⟨hwellFormed, hentries.trans ?_⟩
    rw [h.entries_change]
    rfl

end WellFormed

/-- Whatever has been registered, handed over and discarded, the two tables of a registry stand for
one table to which the same was done; the registry answers what that table says; and each change
leaves all slots alone, and how they are listed, that it does not concern. -/
theorem run_represents (changes : List (Change α)) :
    let registry := (empty : Registry α).run changes
    let table := Table.blank.run changes
    registry.Represents table ∧ registry.Answers table ∧
      (∀ slot name, registry.find slot name = .error (.notFound name slot.scope) ↔
        table.count slot name = 0) ∧
      ∀ {change : Change α} {slot : Slot}, ¬ change.Concerns slot →
        (registry.change change).scopes.lookup slot = registry.scopes.lookup slot ∧
        ((registry.change change).scopesOf slot.request).count slot.scope =
          (registry.scopesOf slot.request).count slot.scope := by
  intro registry table
  obtain ⟨hwellFormed, hentries⟩ := WellFormed.empty.run changes
  have htable : registry.entries = table := hentries
  rw [← htable]
  refine ⟨hwellFormed.represents, hwellFormed.answers, fun slot name => ?find,
    fun {change slot} hconcerns => ?frame⟩
  case find =>
    rw [hwellFormed.answers.find]
    exact Table.find_eq_error_iff _ slot name
  case frame =>
    -- The slot has the same entries as before, and these decide what both tables say about it.
    have hafter := hwellFormed.change change
    have hsame : (registry.change change).entries slot = registry.entries slot := by
      rw [hwellFormed.entries_change]
      exact Table.change_of_not_concerns _ hconcerns
    constructor
    · ext entries
      rw [hafter.lookup_eq_some_iff, hsame, hwellFormed.lookup_eq_some_iff]
    · rw [hafter.represents.listed, hsame, hwellFormed.represents.listed]

end Registry

end Inbound.Deferred
