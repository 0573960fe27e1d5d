import Mathlib
import Inbound.Http.Fields
import Inbound.Proofs.Http.MultiMap

/-!
# Fields and their names

The fields of a message are grouped by name, and the names are kept in lower case. So each name has
one group, and what is asked for under a name in lower case is all that came under it in any case.

## Main results

* `Fields.wellFormed_ofPairs?`: whatever pairs fields are made of, names and groups are like that;
* `Fields.WellFormed.getAll_eq`: the values of a name are those that a walk through all pairs finds.
-/

namespace Inbound.Http

/-- A name that is kept in lower case is the same as another if that one lowers to it. -/
theorem sameName_iff_of_lowered {name : String} (h : name.toLower = name) (other : String) :
    SameName name other ↔ name = other.toLower := by
  rw [← foldName_eq_iff, foldName_eq_toLower, foldName_eq_toLower, h]

namespace Fields

/-- The values of a name are those of the first group that has it. -/
theorem getD_lookup_cons (group : String × List ByteArray) (rest : List (String × List ByteArray))
    (name : String) :
    ((group :: rest).lookup name).getD [] =
      if group.1 = name then group.2 else (rest.lookup name).getD [] := by
  obtain ⟨first, values⟩ := group
  rw [List.lookup_cons]
  by_cases h : first = name
  · subst h
    rw [if_pos rfl, beq_self_eq_true]
    rfl
  · have differs : (name == first) = false := by simpa using Ne.symm h
    rw [if_neg h, differs]

/-- The names are in lower case, each has one group, and each group a value. -/
structure WellFormed (fields : Fields) : Prop where
  /-- Lowering a name changes nothing. -/
  lowered : ∀ group ∈ fields.groups, group.1.toLower = group.1
  /-- No two groups have one name. -/
  distinct : (fields.groups.map Prod.fst).Nodup
  /-- No group is without values. -/
  inhabited : ∀ group ∈ fields.groups, group.2 ≠ []

section WellFormed

variable {fields : Fields}

/-- The values of a name are those of the pairs that have it. -/
theorem WellFormed.getAll_eq (h : fields.WellFormed) (name : String) :
    fields.getAll name = (fields.pairs.filter fun pair => pair.1 = name).map Prod.snd := by
  obtain ⟨groups⟩ := fields
  have distinct : (groups.map Prod.fst).Nodup := h.distinct
  clear h
  unfold getAll pairs
  induction groups with
  | nil => rfl
  | cons group rest ih =>
    rw [List.map_cons, List.nodup_cons] at distinct
    obtain ⟨fresh, distinct⟩ := distinct
    rw [List.flatMap_cons, List.filter_append, List.map_append, getD_lookup_cons, List.filter_map,
      List.map_map]
    by_cases hname : group.1 = name
    -- No other group has the name, so there are no values of it but those here.
    · have others : rest.lookup name = none := by
        rw [List.lookup_eq_none_iff]
        intro other hother
        have differs : name ≠ other.1 :=
          fun same => fresh (hname.trans same ▸ List.mem_map_of_mem hother)
        simpa using differs
      rw [if_pos hname, ← ih distinct, others]
      simp [Function.comp_def, hname]
    · rw [if_neg hname, ← ih distinct]
      simp [Function.comp_def, hname]

/-- A name that has a group has a value. -/
theorem WellFormed.contains_iff (h : fields.WellFormed) (name : String) :
    fields.contains name = true ↔ fields.getAll name ≠ [] := by
  have found : fields.contains name = true ↔ ∃ group ∈ fields.groups, group.1 = name := by
    simp [contains]
  rw [found, h.getAll_eq, Ne, List.map_eq_nil_iff, List.filter_eq_nil_iff]
  constructor
  · rintro ⟨group, hgroup, rfl⟩ none
    obtain ⟨value, hvalue⟩ := List.exists_mem_of_ne_nil _ (h.inhabited group hgroup)
    have mem : (group.1, value) ∈ fields.pairs :=
      List.mem_flatMap.2 ⟨group, hgroup, List.mem_map_of_mem hvalue⟩
    exact none _ mem (decide_eq_true rfl)
  · intro some
    push Not at some
    obtain ⟨pair, hpair, hname⟩ := some
    obtain ⟨group, hgroup, hvalue⟩ := List.mem_flatMap.1 hpair
    obtain ⟨value, -, rfl⟩ := List.mem_map.1 hvalue
    exact ⟨group, hgroup, of_decide_eq_true hname⟩

theorem WellFormed.lowered_pairs (h : fields.WellFormed) :
    ∀ pair ∈ fields.pairs, pair.1.toLower = pair.1 := by
  intro pair hpair
  obtain ⟨group, hgroup, hvalue⟩ := List.mem_flatMap.1 hpair
  obtain ⟨value, -, rfl⟩ := List.mem_map.1 hvalue
  exact h.lowered group hgroup

end WellFormed

/-! ### Adding a field -/

theorem toLower_foldBytes (name : ByteArray) : (foldBytes name).toLower = foldBytes name := by
  have once (c : Char) : c.toLower.toLower = c.toLower := by
    rw [← Char.toNat_inj, toNat_toLower c.toLower, toNat_toLower c]
    split_ifs <;> omega
  rw [← String.toList_inj]
  show ((foldBytes name).map Char.toLower).toList = _
  rw [String.toList_map, foldBytes, String.toList_ofList, List.map_map]
  exact List.map_congr_left fun b _ => once (Char.ofNat b.toNat)

section AppendTo

variable (name : String) (value : ByteArray) (groups : List (String × List ByteArray))

/-- A name that has no group gets one behind the others. -/
theorem map_fst_appendTo :
    (appendTo name value groups).map Prod.fst =
      if name ∈ groups.map Prod.fst then groups.map Prod.fst
      else groups.map Prod.fst ++ [name] := by
  induction groups with
  | nil => rfl
  | cons group rest ih =>
    unfold appendTo
    by_cases hname : group.1 = name
    · simp [hname]
    · rw [if_neg hname, List.map_cons, ih, List.map_cons]
      by_cases hrest : name ∈ rest.map Prod.fst
      · rw [if_pos hrest, if_pos (List.mem_cons_of_mem _ hrest)]
      · rw [if_neg hrest, if_neg (by simpa [Ne.symm hname] using hrest), List.cons_append]

/-- A group is as it was, or that of the name with a value. -/
theorem mem_appendTo {group : String × List ByteArray} (h : group ∈ appendTo name value groups) :
    group ∈ groups ∨ group.1 = name ∧ group.2 ≠ [] := by
  induction groups with
  | nil =>
    cases List.mem_singleton.1 h
    exact .inr ⟨rfl, List.cons_ne_nil _ _⟩
  | cons first rest ih =>
    unfold appendTo at h
    split at h <;> obtain rfl | h := List.mem_cons.1 h
    · exact .inr ⟨rfl, List.concat_ne_nil _ _⟩
    · exact .inl (List.mem_cons_of_mem _ h)
    · exact .inl List.mem_cons_self
    · exact (ih h).imp_left (List.mem_cons_of_mem _)

end AppendTo

/-! ### Fields of pairs -/

theorem wellFormed_empty : empty.WellFormed := by
  constructor <;> simp [empty]

variable {fields : Fields} {name value : ByteArray} {pairs : List (ByteArray × ByteArray)}

theorem append?_eq_some {after : Fields} (h : fields.append? name value = some after) :
    after = ⟨appendTo (foldBytes name) value fields.groups⟩ := by
  unfold append? at h
  split at h
  · exact (Option.some_inj.1 h).symm
  · cases h

theorem WellFormed.append? {after : Fields} (hfields : fields.WellFormed)
    (h : fields.append? name value = some after) : after.WellFormed := by
  rw [append?_eq_some h]
  constructor
  · intro group hgroup
    obtain hold | ⟨hname, -⟩ := mem_appendTo _ _ _ hgroup
    · exact hfields.lowered group hold
    · rw [hname, toLower_foldBytes]
  · show ((appendTo _ _ _).map Prod.fst).Nodup
    rw [map_fst_appendTo]
    split
    next => exact hfields.distinct
    next hfresh => exact List.concat_eq_append ▸ List.Nodup.concat hfresh hfields.distinct
  · intro group hgroup
    obtain hold | ⟨-, hvalues⟩ := mem_appendTo _ _ _ hgroup
    · exact hfields.inhabited group hold
    · exact hvalues

theorem ofPairs?_concat (pairs : List (ByteArray × ByteArray)) (pair : ByteArray × ByteArray) :
    ofPairs? (pairs ++ [pair]) =
      (ofPairs? pairs).bind fun fields => fields.append? pair.1 pair.2 := by
  rw [ofPairs?, List.foldlM_append]
  simp [ofPairs?]

/-- Fields that are made of pairs are well-formed. -/
theorem wellFormed_ofPairs? (h : ofPairs? pairs = some fields) : fields.WellFormed := by
  induction pairs using List.reverseRecOn generalizing fields with
  | nil =>
    cases h
    exact wellFormed_empty
  | append_singleton pairs pair ih =>
    rw [ofPairs?_concat, Option.bind_eq_some_iff] at h
    obtain ⟨before, hbefore, hpair⟩ := h
    exact (ih hbefore).append? hpair

end Fields

end Inbound.Http
