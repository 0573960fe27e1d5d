import Mathlib.Data.List.Forall2
import Mathlib.Logic.Function.Iterate
import Inbound.Http.MultiMap

/-!
# Maps as groups of values

Nobody who uses a map sees that it has an index, that the names in the index are folded, or that a
single value is kept in another way than several ones. A map behaves like a plain list of groups:
names in their first spelling, each with the list of its values. Whatever has been put into a map,
every look at it is answered as the list answers it, be it a lookup under a name in any case or a
walk through all pairs.

Names are compared letter by letter here, without folding them. That the index finds a name under
its folded form exactly if it is the same name is `foldName_eq_iff`.

## Main results

* `foldName_eq_iff`: names are folded to the same form if they differ in ASCII case only;
* `MultiMap.Represents.append`, `MultiMap.Represents.insert`: what a map stands for goes with the
  list of groups;
* `MultiMap.Represents.answers`: a map answers what its groups say;
* `MultiMap.refines_grouped`: both after any operations.
-/

namespace Inbound.Http

/-! ### Names in any case -/

/-- Two characters are the same letter if they are equal or the two cases of one ASCII letter. -/
def SameLetter (c d : Char) : Prop :=
  c = d ∨ ('A' ≤ c ∧ c ≤ 'Z' ∧ d.toNat = c.toNat + 32) ∨
    ('A' ≤ d ∧ d ≤ 'Z' ∧ c.toNat = d.toNat + 32)

/-- Two names are the same if they are so letter by letter. -/
def SameName (name other : String) : Prop :=
  List.Forall₂ SameLetter name.toList other.toList

instance : DecidableRel SameLetter :=
  fun c d => inferInstanceAs (Decidable (c = d ∨ _ ∨ _))

instance : DecidableRel SameName :=
  fun name other => inferInstanceAs (Decidable (List.Forall₂ _ name.toList other.toList))

theorem isUpper_iff (c : Char) : c.isUpper = true ↔ 65 ≤ c.toNat ∧ c.toNat ≤ 90 := by
  show decide (c.val ≥ 'A'.val ∧ c.val ≤ 'Z'.val) = true ↔ _
  simp only [decide_eq_true_eq, ge_iff_le, UInt32.le_iff_toNat_le, Char.toNat_val]
  rfl

theorem toNat_toLower (c : Char) :
    c.toLower.toNat = if 65 ≤ c.toNat ∧ c.toNat ≤ 90 then c.toNat + 32 else c.toNat := by
  have hupper : (c.val ≥ 'A'.val ∧ c.val ≤ 'Z'.val) ↔ 65 ≤ c.toNat ∧ c.toNat ≤ 90 :=
    decide_eq_true_iff.symm.trans (isUpper_iff c)
  unfold Char.toLower
  by_cases h : c.val ≥ 'A'.val ∧ c.val ≤ 'Z'.val
  · rw [dif_pos h, if_pos (hupper.mp h)]
    -- The sum stays below 2 ^ 32.
    have hbound := (hupper.mp h).2
    have hsum : (c.val + ('a'.val - 'A'.val)).toNat = (c.toNat + 32) % 2 ^ 32 := rfl
    show (c.val + ('a'.val - 'A'.val)).toNat = c.toNat + 32
    rw [hsum]
    omega
  · rw [dif_neg h, if_neg (mt hupper.mpr h)]

/-- Letters are lowered to the same one if they differ in ASCII case only. -/
theorem toLower_eq_iff (c d : Char) : c.toLower = d.toLower ↔ SameLetter c d := by
  have hle (a b : Char) : a ≤ b ↔ a.toNat ≤ b.toNat := Iff.rfl
  have hA : 'A'.toNat = 65 := rfl
  have hZ : 'Z'.toNat = 90 := rfl
  rw [← Char.toNat_inj, toNat_toLower, toNat_toLower, SameLetter, ← Char.toNat_inj]
  simp only [hle, hA, hZ]
  split <;> split <;> omega

/-- A name is folded by lowering it; one that is left alone has nothing to lower. -/
theorem foldName_eq_toLower (name : String) : foldName name = name.toLower := by
  have hany : name.any Char.isUpper = name.toList.any Char.isUpper := String.contains_bool_eq
  unfold foldName
  by_cases h : name.any Char.isUpper = true
  · rw [if_pos h]
  · rw [if_neg h]
    have hsame : ∀ c ∈ name.toList, c.toLower = c := by
      intro c hc
      have hupper : ¬ c.isUpper = true := by
        intro hupper
        exact h (hany.trans (List.any_eq_true.mpr ⟨c, hc, hupper⟩))
      rw [isUpper_iff] at hupper
      rw [← Char.toNat_inj, toNat_toLower, if_neg hupper]
    apply String.toList_inj.mp
    show name.toList = (name.map Char.toLower).toList
    rw [String.toList_map, List.map_congr_left hsame, List.map_id']

/-- Names are folded to the same form if they differ in ASCII case only. -/
theorem foldName_eq_iff (name other : String) :
    foldName name = foldName other ↔ SameName name other := by
  rw [foldName_eq_toLower, foldName_eq_toLower, ← String.toList_inj, SameName]
  show (name.map Char.toLower).toList = (other.map Char.toLower).toList ↔ _
  rw [String.toList_map, String.toList_map, ← List.forall₂_eq_eq_eq,
    List.forall₂_map_left_iff, List.forall₂_map_right_iff]
  simp only [toLower_eq_iff]

-- Other letters than those of ASCII are kept apart from their other case.
example : SameName "X-Été" "x-Été" ∧ ¬ SameName "X-Été" "x-été" := by decide

/-- A name may stand for the same one. -/
theorem SameName.congr_left {name same : String} (h : SameName name same) (other : String) :
    SameName name other ↔ SameName same other := by
  rw [← foldName_eq_iff, ← foldName_eq_iff, (foldName_eq_iff name same).mpr h]

/-! ### Groups of values -/

/-- Names in their first spelling, each with its values, in order of first appearance. -/
abbrev Grouped := List (String × List String)

namespace Grouped

/-- Changes the values of the group of a name. A name without a group opens a last one. -/
def put (change : List String → List String) (name value : String) : Grouped → Grouped
  | [] => [(name, [value])]
  | (first, values) :: rest =>
    if SameName first name then (first, change values) :: rest
    else (first, values) :: put change name value rest

/-- Whether there is a group of a name. -/
def has (grouped : Grouped) (name : String) : Bool :=
  grouped.any fun group => SameName group.1 name

/-- Adds a value behind those of a name. -/
def append (grouped : Grouped) (name value : String) : Grouped :=
  grouped.put (· ++ [value]) name value

/-- Makes a value the only one of a name; the flag says whether the name was there. -/
def insert (grouped : Grouped) (name value : String) : Bool × Grouped :=
  (grouped.has name, grouped.put (fun _ => [value]) name value)

/-- The groups of a list of pairs. -/
def ofPairs (pairs : List (String × String)) : Grouped :=
  pairs.foldl (fun grouped pair => grouped.append pair.1 pair.2) []

/-- The values of a name, of which there are none if it has no group. -/
def valuesOf (grouped : Grouped) (name : String) : List String :=
  ((grouped.find? fun group => SameName group.1 name).map Prod.snd).getD []

/-- Every name with every value of it, group by group. -/
def pairs (grouped : Grouped) : List (String × String) :=
  grouped.flatMap fun group => group.2.map (group.1, ·)

/-- Where the group of a name is. -/
def place? (grouped : Grouped) (name : String) : Option ℕ :=
  grouped.findIdx? fun group => SameName group.1 name

/-- A change is one in the place of the name's group, or a group at the end. -/
theorem put_eq (change : List String → List String) (name value : String) (grouped : Grouped) :
    grouped.put change name value =
      match grouped.place? name with
      | some place => grouped.modify place fun group => (group.1, change group.2)
      | none => grouped ++ [(name, [value])] := by
  induction grouped with
  | nil => rfl
  | cons group rest ih =>
    unfold put place?
    rw [List.findIdx?_cons]
    by_cases h : SameName group.1 name
    · simp [h]
    · simp only [h, ↓reduceIte, ih, place?, decide_false, Bool.false_eq_true]
      cases rest.findIdx? fun group => SameName group.1 name <;> simp

theorem has_eq (grouped : Grouped) (name : String) :
    grouped.has name = (grouped.place? name).isSome :=
  List.findIdx?_isSome.symm

/-- A value that is added comes last among those of its name, and other names do not notice. -/
theorem valuesOf_append (grouped : Grouped) (added value name : String) :
    (grouped.append added value).valuesOf name =
      grouped.valuesOf name ++ if SameName added name then [value] else [] := by
  rw [append]
  induction grouped with
  | nil => by_cases h : SameName added name <;> simp [put, valuesOf, h]
  | cons group rest ih =>
    unfold put
    by_cases hgroup : SameName group.1 added
    · -- The values are put here, and the first group of the name is here if the names are the same.
      rw [if_pos hgroup]
      by_cases h : SameName added name
      · simp [valuesOf, (hgroup.congr_left name).mpr h, h]
      · simp [valuesOf, mt (hgroup.congr_left name).mp h, h]
    · rw [if_neg hgroup]
      by_cases h : SameName group.1 name
      · -- The first group of the name is here, and the values are put further on.
        have hother : ¬ SameName added name := by
          intro hadded
          rw [← foldName_eq_iff] at h hgroup hadded
          exact hgroup (h.trans hadded.symm)
        simp [valuesOf, h, hother]
      · simpa [valuesOf, h] using ih

/-- The values of a name are those of the pairs that have it. -/
theorem valuesOf_ofPairs (pairs : List (String × String)) (name : String) :
    (ofPairs pairs).valuesOf name =
      (pairs.filter fun pair => SameName pair.1 name).map Prod.snd := by
  -- The pairs are appended to groups that are there already, so the induction is over these too.
  have hfold (grouped : Grouped) :
      (pairs.foldl (fun grouped pair => grouped.append pair.1 pair.2) grouped).valuesOf name =
        grouped.valuesOf name ++ (pairs.filter fun pair => SameName pair.1 name).map Prod.snd := by
    induction pairs generalizing grouped with
    | nil => simp
    | cons pair pairs ih =>
      rw [List.foldl_cons, ih, valuesOf_append, List.append_assoc]
      by_cases h : SameName pair.1 name <;> simp [h]
  exact hfold []

theorem valuesOf_eq (grouped : Grouped) (name : String) :
    grouped.valuesOf name =
      (((grouped.place? name).bind (grouped[·]?)).map Prod.snd).getD [] := by
  rw [valuesOf, place?, List.find?_eq_bind_findIdx?_getElem?]

end Grouped

namespace MultiMap

/-! ### Walks through the pairs -/

namespace Cursor

/-- A walk tells the pairs that are ahead of it. -/
theorem collect_eq (cursor : Cursor) : cursor.collect = cursor.ahead := by
  fun_induction collect cursor with
  | case1 cursor further h =>
    have hhead := (next_eq cursor).1
    rw [h] at hhead
    exact (List.head?_eq_none_iff.mp hhead.symm).symm
  | case2 cursor pair further h _ ih =>
    obtain ⟨hhead, htail⟩ := next_eq cursor
    rw [h] at hhead htail
    rw [ih, htail]
    exact List.cons_head?_tail hhead.symm

/-- Every step goes past one pair. -/
theorem ahead_steps (cursor : Cursor) (steps : ℕ) :
    ((fun cursor => cursor.next.2)^[steps] cursor).ahead = cursor.ahead.drop steps := by
  induction steps with
  | zero => rfl
  | succ steps ih =>
    rw [Function.iterate_succ_apply', (next_eq _).2, ih, List.tail_drop]

end Cursor

/-! ### What a map stands for -/

/-- A map stands for groups: it has them in this order, and the index leads from every folded name
to the place of its group, and nowhere else. -/
structure Represents (map : MultiMap) (grouped : Grouped) : Prop where
  groups : map.groups.toList.map (fun group => (group.name, group.values.toList)) = grouped
  index : ∀ key place, map.index[key]? = some place ↔
    ∃ group, grouped[place]? = some group ∧ foldName group.1 = key

/-- A map answers what groups say. -/
structure Answers (map : MultiMap) (grouped : Grouped) : Prop where
  size : map.size = grouped.length
  isEmpty : map.isEmpty = grouped.isEmpty
  keys : map.keys = grouped.map Prod.fst
  pairs : map.pairs = grouped.pairs
  /-- A walk tells one pair with every step, and nothing after the last. -/
  walk : ∀ steps, ((fun cursor => cursor.next.2)^[steps] map.iter).next.1 = grouped.pairs[steps]?
  get? : ∀ name, map.get? name = (grouped.valuesOf name).head?
  getAll : ∀ name, map.getAll name = grouped.valuesOf name
  contains : ∀ name, map.contains name = grouped.has name
  /-- The index does not lead out of the groups. -/
  inBounds : ∀ {key : String} {place : ℕ}, map.index[key]? = some place → place < map.groups.size

variable {map : MultiMap} {grouped : Grouped}

theorem getElem?_concat_eq_some {α : Type} {list : List α} {last x : α} {i : ℕ} :
    (list ++ [last])[i]? = some x ↔ list[i]? = some x ∨ i = list.length ∧ last = x := by
  rcases Nat.lt_trichotomy i list.length with h | h | h
  · rw [List.getElem?_append_left h]
    exact ⟨Or.inl, fun hor => hor.resolve_right fun hlast => Nat.ne_of_lt h hlast.1⟩
  · simp [h]
  · have hlength : (list ++ [last]).length ≤ i := by
      rw [List.length_append]
      exact h
    rw [List.getElem?_eq_none hlength, List.getElem?_eq_none (Nat.le_of_lt h)]
    simp [Nat.ne_of_gt h]

namespace Represents

theorem empty : Represents .empty [] where
  groups := rfl
  index := by simp [MultiMap.empty]

/-- Only one place has a group of a name, since the index leads to it. -/
theorem eq_of_foldName_eq (h : Represents map grouped) {place other : ℕ}
    {group rival : String × List String} (hgroup : grouped[place]? = some group)
    (hrival : grouped[other]? = some rival) (hname : foldName group.1 = foldName rival.1) :
    place = other := by
  have hplace := (h.index _ _).mpr ⟨group, hgroup, hname⟩
  have hother := (h.index _ _).mpr ⟨rival, hrival, rfl⟩
  exact Option.some.inj (hplace.symm.trans hother)

/-- The index finds a name in any case. -/
theorem place_eq (h : Represents map grouped) (name : String) :
    map.index[foldName name]? = grouped.place? name := by
  ext place
  rw [h.index, Grouped.place?, List.findIdx?_eq_some_iff_getElem]
  simp only [decide_eq_true_eq, ← foldName_eq_iff]
  constructor
  · rintro ⟨group, hgroup, hname⟩
    obtain ⟨hlt, rfl⟩ := List.getElem?_eq_some_iff.mp hgroup
    refine ⟨hlt, hname, fun earlier hearlier hsame => ?_⟩
    have heq := h.eq_of_foldName_eq hgroup (List.getElem?_eq_getElem (Nat.lt_trans hearlier hlt))
      (hname.trans hsame.symm)
    omega
  · rintro ⟨hlt, hname, -⟩
    exact ⟨_, List.getElem?_eq_getElem hlt, hname⟩

theorem length_eq (h : Represents map grouped) : grouped.length = map.groups.size := by
  rw [← h.groups]
  simp

theorem getElem?_eq (h : Represents map grouped) (place : ℕ) :
    grouped[place]? = map.groups[place]?.map fun group => (group.name, group.values.toList) := by
  rw [← h.groups]
  simp

/-- No two groups have the same name. -/
theorem distinct (h : Represents map grouped) :
    grouped.Pairwise fun group other => ¬ SameName group.1 other.1 := by
  rw [List.pairwise_iff_getElem]
  intro place other hplace hother hlt hsame
  have heq := h.eq_of_foldName_eq (List.getElem?_eq_getElem hplace)
    (List.getElem?_eq_getElem hother) ((foldName_eq_iff _ _).mpr hsame)
  omega

/-- Changing the values of one group keeps the index right. -/
theorem modify (h : Represents map grouped) (place : ℕ) (change : Values → Values)
    (changeList : List String → List String)
    (hchange : ∀ values, (change values).toList = changeList values.toList) :
    Represents
      { map with groups := map.groups.modify place fun group =>
          { group with values := change group.values } }
      (grouped.modify place fun group => (group.1, changeList group.2)) where
  groups := by
    rw [← h.groups, Array.toList_modify]
    apply List.ext_getElem?
    intro other
    rw [List.getElem?_map, List.getElem?_modify, List.getElem?_modify, List.getElem?_map]
    cases map.groups.toList[other]? with
    | none => rfl
    | some group =>
      by_cases hplace : place = other
      · simp [hplace, hchange]
      · simp [hplace]
  index := by
    intro key other
    rw [h.index, List.getElem?_modify]
    cases grouped[other]? with
    | none => simp
    | some group =>
      -- The name is the same in both cases.
      by_cases hplace : place = other <;> simp [hplace]

/-- No group has a name that the index does not know. -/
theorem foldName_ne (h : Represents map grouped) {name : String}
    (hnew : map.index[foldName name]? = none) {place : ℕ} {group : String × List String}
    (hgroup : grouped[place]? = some group) : foldName group.1 ≠ foldName name := by
  intro hname
  have hplace := (h.index _ _).mpr ⟨group, hgroup, hname⟩
  rw [hnew] at hplace
  cases hplace

/-- A name that the index does not know opens a group. -/
theorem push (h : Represents map grouped) {name : String} (value : String)
    (hnew : map.index[foldName name]? = none) :
    Represents
      { index := map.index.insert (foldName name) map.groups.size,
        groups := map.groups.push ⟨name, .one value⟩ }
      (grouped ++ [(name, [value])]) where
  groups := by
    rw [← h.groups]
    simp [Values.toList]
  index := by
    intro key place
    rw [Std.HashMap.getElem?_insert, ← h.length_eq]
    by_cases hkey : foldName name = key
    · -- The key leads to the new group, which is the only one of this name.
      subst hkey
      simp only [beq_self_eq_true, ↓reduceIte, Option.some_inj]
      constructor
      · rintro rfl
        exact ⟨_, List.getElem?_concat_length, rfl⟩
      · rintro ⟨group, hgroup, hname⟩
        obtain hold | ⟨rfl, -⟩ := getElem?_concat_eq_some.mp hgroup
        · exact absurd hname (h.foldName_ne hnew hold)
        · rfl
    · -- Any other key leads where it led before, since the new group has another name.
      rw [if_neg (by simpa using hkey), h.index]
      constructor
      · rintro ⟨group, hgroup, hname⟩
        exact ⟨group, getElem?_concat_eq_some.mpr (Or.inl hgroup), hname⟩
      · rintro ⟨group, hgroup, hname⟩
        obtain hold | ⟨-, rfl⟩ := getElem?_concat_eq_some.mp hgroup
        · exact ⟨group, hold, hname⟩
        · exact absurd hname hkey

/-- Adding a value to a map is adding it to the groups. -/
theorem append (h : Represents map grouped) (name value : String) :
    Represents (map.append name value) (grouped.append name value) := by
  have hplace := h.place_eq name
  rw [Grouped.append, Grouped.put_eq, ← hplace, MultiMap.append]
  cases hfound : map.index[foldName name]? with
  | some place =>
    refine h.modify place (·.push value) (· ++ [value]) ?_
    intro values
    cases values <;> simp [Values.push, Values.toList]
  | none => exact h.push value hfound

/-- Putting a value in the place of others is so in the groups, with the same flag. -/
theorem insert (h : Represents map grouped) (name value : String) :
    (map.insert name value).1 = (grouped.insert name value).1 ∧
      Represents (map.insert name value).2 (grouped.insert name value).2 := by
  have hplace := h.place_eq name
  rw [Grouped.insert, Grouped.has_eq, Grouped.put_eq, ← hplace, MultiMap.insert]
  cases hfound : map.index[foldName name]? with
  | some place => exact ⟨rfl, h.modify place (fun _ => .one value) (fun _ => [value]) fun _ => rfl⟩
  | none => exact ⟨rfl, h.push value hfound⟩

/-- A map made of pairs stands for their groups. -/
theorem ofPairs (pairs : List (String × String)) :
    Represents (.ofPairs pairs) (Grouped.ofPairs pairs) := by
  have hfold : ∀ {map grouped}, Represents map grouped → Represents
      (pairs.foldl (fun map pair => map.append pair.1 pair.2) map)
      (pairs.foldl (fun grouped pair => grouped.append pair.1 pair.2) grouped) := by
    induction pairs with
    | nil => exact fun h => h
    | cons pair pairs ih => exact fun h => ih (h.append pair.1 pair.2)
  exact hfold .empty

/-- The group of a name is that of the groups. -/
theorem find?_eq (h : Represents map grouped) (name : String) :
    (map.find? name).map (fun group => (group.name, group.values.toList)) =
      (grouped.place? name).bind (grouped[·]?) := by
  rw [find?, h.place_eq]
  cases grouped.place? name with
  | none => rfl
  | some place => exact (h.getElem?_eq place).symm

theorem getAll_eq (h : Represents map grouped) (name : String) :
    map.getAll name = grouped.valuesOf name := by
  rw [Grouped.valuesOf_eq, ← h.find?_eq, getAll]
  cases map.find? name <;> rfl

theorem ahead_iter (h : Represents map grouped) : map.iter.ahead = grouped.pairs := by
  simp [iter, Cursor.ahead, Grouped.pairs, ← h.groups, List.flatMap_map]

/-- A map that stands for groups answers what they say. -/
theorem answers (h : Represents map grouped) : Answers map grouped where
  size := h.length_eq.symm
  isEmpty := by simp [MultiMap.isEmpty, ← h.groups]
  keys := by simp [MultiMap.keys, ← h.groups]
  pairs := by rw [MultiMap.pairs, Cursor.collect_eq, h.ahead_iter]
  walk := by
    intro steps
    rw [(Cursor.next_eq _).1, Cursor.ahead_steps, h.ahead_iter, List.head?_drop]
  get? := by
    intro name
    rw [MultiMap.get?, h.getAll_eq]
  getAll := h.getAll_eq
  contains := by
    intro name
    rw [MultiMap.contains, Std.HashMap.contains_eq_isSome_getElem?, h.place_eq, Grouped.has_eq]
  inBounds := by
    intro key place hplace
    obtain ⟨group, hgroup, -⟩ := (h.index key place).mp hplace
    rw [← h.length_eq]
    exact (List.getElem?_eq_some_iff.mp hgroup).1

end Represents

/-! ### Any operations -/

/-- What is done to a map. -/
inductive Operation where
  /-- A value is added. -/
  | append (name value : String)
  /-- A value is put in the place of others. -/
  | insert (name value : String)
  /-- A new map is made of pairs. -/
  | collect (pairs : List (String × String))

namespace Operation

/-- What an operation answers, and the map after it. -/
def perform (map : MultiMap) : Operation → Option Bool × MultiMap
  | .append name value => (none, map.append name value)
  | .insert name value => (some (map.insert name value).1, (map.insert name value).2)
  | .collect pairs => (none, .ofPairs pairs)

/-- What an operation answers, and the groups after it. -/
def performGrouped (grouped : Grouped) : Operation → Option Bool × Grouped
  | .append name value => (none, grouped.append name value)
  | .insert name value => (some (grouped.insert name value).1, (grouped.insert name value).2)
  | .collect pairs => (none, .ofPairs pairs)

/-- An operation does to a map what it does to the groups, and answers the same. -/
theorem perform_eq (h : Represents map grouped) (operation : Operation) :
    (operation.perform map).1 = (operation.performGrouped grouped).1 ∧
      Represents (operation.perform map).2 (operation.performGrouped grouped).2 := by
  cases operation with
  | append name value => exact ⟨rfl, h.append name value⟩
  | insert name value =>
    obtain ⟨hflag, hafter⟩ := h.insert name value
    exact ⟨congrArg some hflag, hafter⟩
  | collect pairs => exact ⟨rfl, .ofPairs pairs⟩

end Operation

/-- What operations answer one after the other, and the map after them. -/
def run (map : MultiMap) : List Operation → List (Option Bool) × MultiMap
  | [] => ([], map)
  | operation :: rest =>
    let after := operation.perform map
    (after.1 :: (after.2.run rest).1, (after.2.run rest).2)

/-- What operations answer one after the other, and the groups after them. -/
def runGrouped (grouped : Grouped) : List Operation → List (Option Bool) × Grouped
  | [] => ([], grouped)
  | operation :: rest =>
    let after := operation.performGrouped grouped
    (after.1 :: (runGrouped after.2 rest).1, (runGrouped after.2 rest).2)

/-- A map keeps standing for groups to which the same is done. -/
theorem run_eq (h : Represents map grouped) (operations : List Operation) :
    (map.run operations).1 = (runGrouped grouped operations).1 ∧
      Represents (map.run operations).2 (runGrouped grouped operations).2 := by
  induction operations generalizing map grouped with
  | nil => exact ⟨rfl, h⟩
  | cons operation rest ih =>
    obtain ⟨hanswer, hafter⟩ := Operation.perform_eq h operation
    obtain ⟨hanswers, hrest⟩ := ih hafter
    exact ⟨congrArg₂ List.cons hanswer hanswers, hrest⟩

/-- Whatever is done to a map, the answers are those of a list of groups to which the same is done,
and so is every look at the map afterwards. -/
theorem refines_grouped (operations : List Operation) :
    (MultiMap.empty.run operations).1 = (runGrouped [] operations).1 ∧
      Represents (MultiMap.empty.run operations).2 (runGrouped [] operations).2 ∧
      Answers (MultiMap.empty.run operations).2 (runGrouped [] operations).2 := by
  obtain ⟨hanswers, hrepresents⟩ := run_eq .empty operations
  exact ⟨hanswers, hrepresents, hrepresents.answers⟩

end MultiMap

end Inbound.Http
