import Mathlib.Data.List.Nodup
import Inbound.Deferred.Registry

/-!
# The tables of a registry

A registry keeps its entries in one table, and in a second one the scopes in which each request has
entries. The two are changed one after the other, so it has to be shown that they never disagree:
what the second table does not list, nobody would ever clear.

## Main results

* `Registry.WellFormed`: the tables agree, and neither keeps anything twice or empty;
* `Registry.WellFormed.add`, `.take`, `.discard`: it stays so;
* `Registry.entries_add`, `.entries_take`, `.entries_discard`: what each operation does to every
  slot;
* `Registry.WellFormed.perm_discard`: what is discarded is what the registry has no more.
-/

namespace Inbound.Deferred.Registry

/-! ### Tables -/

section Tables

variable {κ ν : Type} [DecidableEq κ]

theorem lookup_cons (row : κ × ν) (rest : List (κ × ν)) (key : κ) :
    (row :: rest).lookup key = if key = row.1 then some row.2 else rest.lookup key := by
  rw [List.lookup_cons]
  by_cases h : key = row.1
  · rw [if_pos h, beq_iff_eq.mpr h]
  · rw [if_neg h, beq_false_of_ne h]

theorem lookup_put (key other : κ) (value : ν) (table : List (κ × ν)) :
    (put key value table).lookup other =
      if other = key then some value else table.lookup other := by
  induction table with
  | nil => exact lookup_cons _ _ _
  | cons row rest ih =>
    by_cases hrow : row.1 = key
    -- The row is replaced; neither row matters to another key.
    · rw [put, if_pos hrow, lookup_cons, lookup_cons, hrow]
      by_cases h : other = key
      · rw [if_pos h, if_pos h]
      · rw [if_neg h, if_neg h, if_neg h]
    · rw [put, if_neg hrow, lookup_cons, lookup_cons, ih]
      by_cases h : other = row.1
      · rw [if_pos h, if_neg (by rw [h]; exact hrow), if_pos h]
      · rw [if_neg h, if_neg h]

theorem lookup_remove (key other : κ) (table : List (κ × ν)) :
    (remove key table).lookup other = if other = key then none else table.lookup other := by
  unfold remove
  induction table with
  | nil => rw [List.filter_nil, List.lookup_nil, ite_self]
  | cons row rest ih =>
    by_cases hrow : row.1 = key
    · rw [List.filter_cons_of_neg (by simpa using hrow), ih, lookup_cons, hrow]
      by_cases h : other = key
      · rw [if_pos h, if_pos h]
      · rw [if_neg h, if_neg h, if_neg h]
    · rw [List.filter_cons_of_pos (by simpa using hrow), lookup_cons, lookup_cons, ih]
      by_cases h : other = row.1
      · rw [if_pos h, if_neg (by rw [h]; exact hrow), if_pos h]
      · rw [if_neg h, if_neg h]

theorem mem_put {key : κ} {value : ν} {table : List (κ × ν)} {row : κ × ν}
    (h : row ∈ put key value table) : row = (key, value) ∨ row ∈ table := by
  induction table with
  | nil => exact .inl (List.mem_singleton.mp h)
  | cons first rest ih =>
    rw [put] at h
    split at h
    · rcases List.mem_cons.mp h with h | h
      · exact .inl h
      · exact .inr (List.mem_cons_of_mem _ h)
    · rcases List.mem_cons.mp h with rfl | h
      · exact .inr List.mem_cons_self
      · exact (ih h).imp_right (List.mem_cons_of_mem _)

theorem mem_of_mem_remove {key : κ} {table : List (κ × ν)} {row : κ × ν}
    (h : row ∈ remove key table) : row ∈ table :=
  List.mem_of_mem_filter h

/-- The keys of a table are as before if the key is there, else it is the last of them. -/
theorem keys_put (key : κ) (value : ν) (table : List (κ × ν)) :
    (put key value table).map Prod.fst =
      if key ∈ table.map Prod.fst then table.map Prod.fst else table.map Prod.fst ++ [key] := by
  induction table with
  | nil => rfl
  | cons row rest ih =>
    by_cases hrow : row.1 = key
    · simp [put, hrow]
    · have hne : key ≠ row.1 := fun h => hrow h.symm
      rw [put, if_neg hrow, List.map_cons, List.map_cons, ih]
      by_cases h : key ∈ rest.map Prod.fst
      · rw [if_pos h, if_pos (List.mem_cons_of_mem _ h)]
      · rw [if_neg h, if_neg (by simpa [hne] using h), List.cons_append]

theorem nodup_keys_put {table : List (κ × ν)} (h : (table.map Prod.fst).Nodup) (key : κ)
    (value : ν) : ((put key value table).map Prod.fst).Nodup := by
  rw [keys_put]
  split
  case isTrue => exact h
  case isFalse hkey =>
    exact List.nodup_append.mpr ⟨h, List.nodup_singleton _, fun other hother key' hkey' => by
      rintro rfl
      exact hkey (List.mem_singleton.mp hkey' ▸ hother)⟩

theorem nodup_keys_remove {table : List (κ × ν)} (h : (table.map Prod.fst).Nodup) (key : κ) :
    ((remove key table).map Prod.fst).Nodup :=
  h.sublist (List.filter_sublist.map _)

/-- A table that has no key twice has a row just in case the value is found under the key. -/
theorem mem_iff_lookup {table : List (κ × ν)} (h : (table.map Prod.fst).Nodup) {key : κ}
    {value : ν} : (key, value) ∈ table ↔ table.lookup key = some value := by
  induction table with
  | nil => simp
  | cons row rest ih =>
    obtain ⟨hfirst, hrest⟩ := List.nodup_cons.mp h
    rw [List.mem_cons, lookup_cons, ih hrest]
    by_cases hkey : key = row.1
    -- Further down the key does not stand again.
    · have hnone : rest.lookup key ≠ some value := by
        intro hsome
        have hmem := List.mem_map_of_mem (f := Prod.fst) ((ih hrest).mpr hsome)
        rw [hkey] at hmem
        exact hfirst hmem
      rw [if_pos hkey, or_iff_left hnone, Option.some.injEq, hkey]
      exact ⟨fun hrow => by rw [← hrow], fun hvalue => by rw [← hvalue]⟩
    · rw [if_neg hkey, or_iff_right]
      rintro rfl
      exact hkey rfl

/-- Removing keys one after the other leaves what is under none of them. -/
theorem lookup_foldl_remove {ι : Type} (key : ι → κ) (keys : List ι) (other : κ)
    (table : List (κ × ν)) :
    (keys.foldl (fun table i => remove (key i) table) table).lookup other =
      if other ∈ keys.map key then none else table.lookup other := by
  induction keys generalizing table with
  | nil => simp
  | cons first rest ih =>
    rw [List.foldl_cons, ih, lookup_remove, List.map_cons]
    by_cases hrest : other ∈ rest.map key
    · rw [if_pos hrest, if_pos (List.mem_cons_of_mem _ hrest)]
    · by_cases hfirst : other = key first
      · rw [if_neg hrest, if_pos hfirst, if_pos (List.mem_cons.mpr (.inl hfirst))]
      · rw [if_neg hrest, if_neg hfirst, if_neg (by simpa [hfirst] using hrest)]

/-- What is left after removing keys one after the other was there before. -/
theorem foldl_remove_sublist {ι : Type} (key : ι → κ) (keys : List ι) (table : List (κ × ν)) :
    (keys.foldl (fun table i => remove (key i) table) table).Sublist table := by
  induction keys generalizing table with
  | nil => exact List.Sublist.refl _
  | cons first rest ih => exact (ih _).trans List.filter_sublist

/-- What stands under a key can be told from the rest of a table that has no key twice. -/
theorem flatMap_remove_perm {β : Type} {table : List (κ × List β)}
    (h : (table.map Prod.fst).Nodup) (key : κ) :
    (table.flatMap Prod.snd).Perm
      ((table.lookup key).getD [] ++ (remove key table).flatMap Prod.snd) := by
  induction table with
  | nil => exact .refl _
  | cons row rest ih =>
    obtain ⟨hfirst, hrest⟩ := List.nodup_cons.mp h
    rw [lookup_cons]
    by_cases hkey : key = row.1
    -- Further down the key does not stand again, so nothing else is removed.
    · have hremove : remove key (row :: rest) = rest := by
        rw [remove, List.filter_cons_of_neg (by simp [hkey]), List.filter_eq_self]
        intro other hother
        refine decide_eq_true fun heq => hfirst ?_
        rw [← hkey, ← heq]
        exact List.mem_map_of_mem hother
      rw [if_pos hkey, hremove]
      exact .refl _
    · have hremove : remove key (row :: rest) = row :: remove key rest :=
        List.filter_cons_of_pos (by simpa using fun heq => hkey heq.symm)
      rw [if_neg hkey, hremove, List.flatMap_cons, List.flatMap_cons]
      exact ((ih hrest).append_left row.2).trans (List.perm_append_comm_assoc _ _ _)

/-- What stands under some keys can be told from the rest, key by key. -/
theorem flatMap_foldl_remove_perm {ι β : Type} (key : ι → κ) {keys : List ι}
    (hkeys : (keys.map key).Nodup) {table : List (κ × List β)}
    (h : (table.map Prod.fst).Nodup) :
    (table.flatMap Prod.snd).Perm
      ((keys.flatMap fun i => (table.lookup (key i)).getD []) ++
        (keys.foldl (fun table i => remove (key i) table) table).flatMap Prod.snd) := by
  induction keys generalizing table with
  | nil => exact .refl _
  | cons first rest ih =>
    obtain ⟨hfirst, hrest⟩ := List.nodup_cons.mp hkeys
    -- Under the other keys there stands what stood there before the first was removed.
    have hothers : (rest.flatMap fun i => ((remove (key first) table).lookup (key i)).getD []) =
        rest.flatMap fun i => (table.lookup (key i)).getD [] := by
      refine List.flatMap_congr fun i hi => ?_
      have hne : key i ≠ key first := fun heq => hfirst (heq ▸ List.mem_map_of_mem hi)
      rw [lookup_remove, if_neg hne]
    have hremoved := ih hrest (nodup_keys_remove h (key first))
    rw [hothers] at hremoved
    rw [List.flatMap_cons, List.foldl_cons, List.append_assoc]
    exact (flatMap_remove_perm h (key first)).trans (hremoved.append_left _)

end Tables

variable {α : Type}

/-- All entries, whatever their slots. -/
def waiting (registry : Registry α) : List (Entry α) :=
  registry.scopes.flatMap Prod.snd

/-! ### What the operations do to the slots -/

theorem slot_eq {a b : Slot} (hrequest : a.request = b.request) (hscope : a.scope = b.scope) :
    a = b := by
  cases a
  cases b
  cases hrequest
  cases hscope
  rfl

/-- Registration adds an entry to the end of its slot. -/
theorem entries_add (registry : Registry α) (slot other : Slot) (entry : Entry α) :
    (registry.add slot entry).entries other =
      if other = slot then registry.entries slot ++ [entry] else registry.entries other := by
  simp only [add, entries, lookup_put]
  split <;> rfl

theorem scopesOf_add (registry : Registry α) (slot : Slot) (entry : Entry α)
    (request : RequestId) :
    (registry.add slot entry).scopesOf request =
      if request = slot.request then
        if slot.scope ∈ registry.scopesOf request then registry.scopesOf request
        else registry.scopesOf request ++ [slot.scope]
      else registry.scopesOf request := by
  show ((put slot.request
    (if (registry.scopesOf slot.request).contains slot.scope then registry.scopesOf slot.request
      else registry.scopesOf slot.request ++ [slot.scope])
    registry.index).lookup request).getD [] = _
  rw [lookup_put]
  by_cases h : request = slot.request
  · rw [if_pos h, if_pos h, Option.getD_some, h]
    simp only [List.contains_iff_mem]
  · rw [if_neg h, if_neg h]
    rfl

theorem lookup_reindex (index : List (RequestId × List String)) (request other : RequestId)
    (scopes : List String) :
    ((reindex index request scopes).lookup other).getD [] =
      if other = request then scopes else (index.lookup other).getD [] := by
  unfold reindex
  split
  case isTrue h =>
    rw [lookup_remove]
    split
    · rw [List.isEmpty_iff.mp h]
      rfl
    · rfl
  case isFalse =>
    rw [lookup_put]
    split <;> rfl

/-! ### Well-formedness -/

/-- The two tables agree, and neither keeps anything twice or empty. -/
structure WellFormed (registry : Registry α) : Prop where
  /-- No slot stands in the table twice. -/
  slots_nodup : (registry.scopes.map Prod.fst).Nodup
  /-- No request stands in the index twice. -/
  requests_nodup : (registry.index.map Prod.fst).Nodup
  /-- No slot is kept without entries. -/
  slots_filled : ∀ row ∈ registry.scopes, row.2 ≠ []
  /-- No request is listed without scopes. -/
  requests_filled : ∀ row ∈ registry.index, row.2 ≠ []
  /-- No scope is listed twice for a request. -/
  scopes_nodup : ∀ request, (registry.scopesOf request).Nodup
  /-- A scope is listed for a request just in case the request has entries in it. -/
  listed : ∀ slot, slot.scope ∈ registry.scopesOf slot.request ↔ registry.entries slot ≠ []

namespace WellFormed

variable {registry : Registry α}

theorem empty : (Registry.empty : Registry α).WellFormed where
  slots_nodup := List.nodup_nil
  requests_nodup := List.nodup_nil
  slots_filled := by simp [Registry.empty]
  requests_filled := by simp [Registry.empty]
  scopes_nodup := by simp [Registry.empty, scopesOf]
  listed := by simp [Registry.empty, scopesOf, entries]

/-- A request that is not listed has no entries. -/
theorem entries_eq_nil (h : registry.WellFormed) {request : RequestId}
    (hindex : registry.index.lookup request = none) (scope : String) :
    registry.entries ⟨request, scope⟩ = [] := by
  by_contra hentries
  have hlisted := (h.listed ⟨request, scope⟩).mpr hentries
  rw [scopesOf, hindex] at hlisted
  exact absurd hlisted List.not_mem_nil

/-! ### Registration -/

protected theorem add (h : registry.WellFormed) (slot : Slot) (entry : Entry α) :
    (registry.add slot entry).WellFormed where
  slots_nodup := nodup_keys_put h.slots_nodup _ _
  requests_nodup := nodup_keys_put h.requests_nodup _ _
  slots_filled row hrow := by
    rcases mem_put hrow with rfl | hrow
    · simp
    · exact h.slots_filled row hrow
  requests_filled row hrow := by
    rcases mem_put hrow with rfl | hrow
    · dsimp only
      split
      case isTrue hmem => exact List.ne_nil_of_mem (List.contains_iff_mem.mp hmem)
      case isFalse => simp
    · exact h.requests_filled row hrow
  scopes_nodup request := by
    rw [scopesOf_add]
    split
    · split
      · exact h.scopes_nodup request
      case isFalse hscope =>
        exact List.nodup_append.mpr ⟨h.scopes_nodup request, List.nodup_singleton _,
          fun scope hmem other hother => by
            rintro rfl
            exact hscope (List.mem_singleton.mp hother ▸ hmem)⟩
    · exact h.scopes_nodup request
  listed other := by
    rw [scopesOf_add, entries_add]
    have hold := h.listed other
    by_cases hrequest : other.request = slot.request
    · by_cases hscope : other.scope = slot.scope
      -- The slot itself is listed from now on, whether it was before or not.
      · obtain rfl : other = slot := slot_eq hrequest hscope
        by_cases hmem : other.scope ∈ registry.scopesOf other.request <;> simp [hmem]
      · have hslot : other ≠ slot := fun h => hscope (congrArg Slot.scope h)
        rw [if_pos hrequest, if_neg hslot]
        split <;> simp [hold, hscope]
    · have hslot : other ≠ slot := fun h => hrequest (congrArg Slot.request h)
      rw [if_neg hrequest, if_neg hslot]
      exact hold

/-! ### Taking the entries of a slot -/

/-- What is taken are the entries of the slot, all of them. -/
theorem take_fst (h : registry.WellFormed) (slot : Slot) :
    (registry.take slot).1 = registry.entries slot := by
  unfold Registry.take
  split
  case h_1 hindex => exact (h.entries_eq_nil hindex slot.scope).symm
  case h_2 => rfl

/-- Taking empties the slot and leaves all others alone. -/
theorem entries_take (h : registry.WellFormed) (slot other : Slot) :
    (registry.take slot).2.entries other =
      if other = slot then [] else registry.entries other := by
  unfold Registry.take
  split
  case h_1 hindex =>
    split
    case isTrue hslot =>
      subst hslot
      exact h.entries_eq_nil hindex other.scope
    case isFalse => rfl
  case h_2 =>
    dsimp only [entries]
    rw [lookup_remove]
    split <;> rfl

/-- Taking strikes the scope off the list of its request. -/
theorem scopesOf_take (registry : Registry α) (slot : Slot) (request : RequestId) :
    (registry.take slot).2.scopesOf request =
      if request = slot.request then (registry.scopesOf request).filter (· ≠ slot.scope)
      else registry.scopesOf request := by
  unfold Registry.take
  split
  case h_1 hindex =>
    split
    case isTrue hrequest =>
      subst hrequest
      simp [scopesOf, hindex]
    case isFalse => rfl
  case h_2 scopes hindex =>
    dsimp only [scopesOf]
    rw [lookup_reindex]
    split
    case isTrue hrequest =>
      subst hrequest
      rw [hindex, Option.getD_some]
    case isFalse => rfl

protected theorem take (h : registry.WellFormed) (slot : Slot) :
    (registry.take slot).2.WellFormed where
  slots_nodup := by
    unfold Registry.take
    split
    · exact h.slots_nodup
    · exact nodup_keys_remove h.slots_nodup _
  requests_nodup := by
    unfold Registry.take
    split
    · exact h.requests_nodup
    · dsimp only [reindex]
      split
      · exact nodup_keys_remove h.requests_nodup _
      · exact nodup_keys_put h.requests_nodup _ _
  slots_filled := by
    unfold Registry.take
    split
    · exact h.slots_filled
    · exact fun row hrow => h.slots_filled row (mem_of_mem_remove hrow)
  requests_filled := by
    unfold Registry.take
    split
    · exact h.requests_filled
    · intro row hrow
      dsimp only [reindex] at hrow
      -- The request goes from the index with its last scope.
      split at hrow
      case isTrue => exact h.requests_filled row (mem_of_mem_remove hrow)
      case isFalse hfilled =>
        rcases mem_put hrow with rfl | hrow
        · exact fun hnil => hfilled (List.isEmpty_iff.mpr hnil)
        · exact h.requests_filled row hrow
  scopes_nodup request := by
    rw [scopesOf_take]
    split
    · exact (h.scopes_nodup request).filter _
    · exact h.scopes_nodup request
  listed other := by
    rw [scopesOf_take, h.entries_take]
    have hold := h.listed other
    by_cases hrequest : other.request = slot.request
    · by_cases hscope : other.scope = slot.scope
      · simp [slot_eq hrequest hscope]
      · have hslot : other ≠ slot := fun h => hscope (congrArg Slot.scope h)
        rw [if_pos hrequest, if_neg hslot, ← hold]
        simp [hscope]
    · have hslot : other ≠ slot := fun h => hrequest (congrArg Slot.request h)
      rw [if_neg hrequest, if_neg hslot]
      exact hold

/-! ### Discarding the entries of a request -/

/-- Discarding empties all slots of the request and leaves all others alone. -/
theorem entries_discard (h : registry.WellFormed) (request : RequestId) (slot : Slot) :
    (registry.discard request).2.entries slot =
      if slot.request = request then [] else registry.entries slot := by
  unfold Registry.discard
  split
  case h_1 hindex =>
    split
    case isTrue hrequest =>
      subst hrequest
      exact h.entries_eq_nil hindex slot.scope
    case isFalse => rfl
  case h_2 scopes hindex =>
    dsimp only [entries]
    rw [lookup_foldl_remove]
    by_cases hrequest : slot.request = request
    -- A slot of the request is struck off, or was not listed and had no entries anyway.
    · subst hrequest
      rw [if_pos rfl]
      split
      case isTrue => rfl
      case isFalse hscope =>
        by_contra hentries
        have hlisted := (h.listed slot).mpr hentries
        rw [scopesOf, hindex] at hlisted
        exact hscope (List.mem_map.mpr ⟨slot.scope, hlisted, rfl⟩)
    · rw [if_neg hrequest, if_neg]
      rintro hslot
      obtain ⟨scope, -, rfl⟩ := List.mem_map.mp hslot
      exact hrequest rfl

/-- Discarding strikes the request off the list. -/
theorem scopesOf_discard (registry : Registry α) (request other : RequestId) :
    (registry.discard request).2.scopesOf other =
      if other = request then [] else registry.scopesOf other := by
  unfold Registry.discard
  split
  case h_1 hindex =>
    split
    case isTrue hrequest =>
      subst hrequest
      simp [scopesOf, hindex]
    case isFalse => rfl
  case h_2 =>
    dsimp only [scopesOf]
    rw [lookup_remove]
    split <;> rfl

protected theorem discard (h : registry.WellFormed) (request : RequestId) :
    (registry.discard request).2.WellFormed where
  slots_nodup := by
    unfold Registry.discard
    split
    · exact h.slots_nodup
    · exact h.slots_nodup.sublist ((foldl_remove_sublist _ _ _).map _)
  requests_nodup := by
    unfold Registry.discard
    split
    · exact h.requests_nodup
    · exact nodup_keys_remove h.requests_nodup _
  slots_filled := by
    unfold Registry.discard
    split
    · exact h.slots_filled
    · exact fun row hrow => h.slots_filled row ((foldl_remove_sublist _ _ _).subset hrow)
  requests_filled := by
    unfold Registry.discard
    split
    · exact h.requests_filled
    · exact fun row hrow => h.requests_filled row (mem_of_mem_remove hrow)
  scopes_nodup other := by
    rw [scopesOf_discard]
    split
    · exact List.nodup_nil
    · exact h.scopes_nodup other
  listed slot := by
    rw [scopesOf_discard, h.entries_discard]
    split
    · simp
    · exact h.listed slot

/-! ### All entries -/

/-- An entry is listed with its slot. -/
theorem mem_toList (h : registry.WellFormed) {slot : Slot} {entry : Entry α} :
    (slot, entry) ∈ registry.toList ↔ entry ∈ registry.entries slot := by
  constructor
  · intro hmem
    obtain ⟨row, hrow, hlisted⟩ := List.mem_flatMap.mp hmem
    obtain ⟨found, hfound, heq⟩ := List.mem_map.mp hlisted
    cases heq
    rw [entries, (mem_iff_lookup h.slots_nodup).mp hrow, Option.getD_some]
    exact hfound
  · intro hmem
    rw [entries] at hmem
    rcases hlookup : registry.scopes.lookup slot with - | found
    · rw [hlookup] at hmem
      cases hmem
    · rw [hlookup, Option.getD_some] at hmem
      have hrow := (mem_iff_lookup h.slots_nodup).mpr hlookup
      exact List.mem_flatMap.mpr ⟨_, hrow, List.mem_map.mpr ⟨entry, hmem, rfl⟩⟩

/-- What is discarded is just what the registry has no more. -/
theorem perm_discard (h : registry.WellFormed) (request : RequestId) :
    registry.waiting.Perm
      ((registry.discard request).1 ++ (registry.discard request).2.waiting) := by
  unfold Registry.discard
  split
  case h_1 => exact .refl _
  case h_2 scopes hindex =>
    -- Every scope is listed once, so every slot of the request is emptied once.
    have hscopes : (scopes.map fun scope => Slot.mk request scope).Nodup := by
      have hnodup := h.scopes_nodup request
      rw [scopesOf, hindex] at hnodup
      exact hnodup.map fun a b heq => congrArg Slot.scope heq
    exact flatMap_foldl_remove_perm _ hscopes h.slots_nodup

end WellFormed

end Inbound.Deferred.Registry
