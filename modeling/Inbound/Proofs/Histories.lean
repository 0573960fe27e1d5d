import Mathlib.Data.List.Induction

/-!
# What has happened before

Events, steps and dealings happen one after the other, and what they come to depends on those before
them. A list of them grows at its end. What was so before one of them is so before one of the longer
list, and the only thing that can be new is what is so before the last one.

## Main results

* `exists_split_concat`: something is so at one of the events;
* `exists_before_concat`: something is so before a certain event.
-/

namespace Inbound

variable {α : Type} {events : List α} {last : α}

/-- Something that is so at one of several events is so at the last one, or at one before it. -/
theorem exists_split_concat {p : List α → α → Prop} :
    (∃ before event after, events ++ [last] = before ++ event :: after ∧ p before event) ↔
      (∃ before event after, events = before ++ event :: after ∧ p before event) ∨
        p events last := by
  constructor
  · rintro ⟨before, event, after, heq, hevent⟩
    rcases List.eq_nil_or_concat after with rfl | ⟨tail, final, rfl⟩
    · obtain ⟨rfl, ⟨⟩⟩ := List.append_inj' heq rfl
      exact Or.inr hevent
    · rw [List.concat_eq_append, ← List.cons_append, ← List.append_assoc] at heq
      obtain ⟨rfl, -⟩ := List.append_inj' heq rfl
      exact Or.inl ⟨before, event, tail, rfl, hevent⟩
  · rintro (⟨before, event, after, rfl, hevent⟩ | hlast)
    · exact ⟨before, event, after ++ [last], by simp, hevent⟩
    · exact ⟨events, last, [], rfl, hlast⟩

/-- Something is so before a certain event just if it was so before, or it is so before the last
event and that is the one. -/
theorem exists_before_concat {p : List α → Prop} {certain : α} :
    (∃ before, before ++ [certain] <+: events ++ [last] ∧ p before) ↔
      (∃ before, before ++ [certain] <+: events ∧ p before) ∨ last = certain ∧ p events := by
  constructor
  · rintro ⟨before, hbefore, hso⟩
    rcases List.prefix_concat_iff.mp hbefore with heq | hbefore
    · obtain ⟨rfl, ⟨⟩⟩ := List.append_inj' heq rfl
      exact .inr ⟨rfl, hso⟩
    · exact .inl ⟨before, hbefore, hso⟩
  · rintro (⟨before, hbefore, hso⟩ | ⟨rfl, hso⟩)
    · exact ⟨before, hbefore.trans (List.prefix_append _ _), hso⟩
    · exact ⟨events, List.prefix_rfl, hso⟩

end Inbound
