import Inbound.Async.Gate

/-!
# Who is at a gate

A visitor is inside, or waits in the queue, or is not at the gate at all. What happens to visitors
who come and go is said here once, for whatever the gate stands in front of. As long as those who go
leave the gate, it is in order: everybody at it is there, each of them waits once, and nobody waits
at a gate that nobody is inside of.

## Main results

* `Gate.enter_of_free`, `Gate.enter_of_holder`: who comes in, and who has to wait;
* `Gate.Lined.enter`, `Gate.Lined.leave`: those who come and go keep a gate in order.
-/

namespace Inbound

namespace Gate

/-! ### Coming and going -/

/-- Nobody but one visitor is at the gate. -/
def IsFor (gate : Gate) (visitor : Ticket) : Prop :=
  gate.queue = [] ∧ (gate.holder = none ∨ gate.holder = some visitor)

theorem isFor_idle (visitor : Ticket) : idle.IsFor visitor :=
  ⟨rfl, Or.inl rfl⟩

/-- A visitor who is alone at the gate is let in. -/
theorem enter_of_isFor {gate : Gate} {visitor : Ticket} (h : gate.IsFor visitor) :
    gate.enter visitor = (true, ⟨some visitor, []⟩) := by
  obtain ⟨holder, queue⟩ := gate
  obtain ⟨rfl, rfl | rfl⟩ := h
  · rfl
  · simp [enter]

/-- A visitor who is alone at the gate leaves nobody behind. -/
theorem leave_of_isFor {gate : Gate} {visitor : Ticket} (h : gate.IsFor visitor) :
    gate.leave visitor = idle := by
  obtain ⟨holder, queue⟩ := gate
  obtain ⟨rfl, rfl | rfl⟩ := h
  · rfl
  · simp [leave, idle]

/-- A visitor who is inside, or may come in, is inside. -/
theorem enter_of_free {gate : Gate} {visitor : Ticket}
    (h : gate.holder = none ∨ gate.holder = some visitor) :
    gate.enter visitor = (true, ⟨some visitor, gate.queue⟩) := by
  obtain ⟨holder, queue⟩ := gate
  obtain rfl | rfl := h
  · rfl
  · simp [enter]

/-- A visitor has to wait as long as another one is inside. -/
theorem enter_of_holder {gate : Gate} {visitor other : Ticket} (h : gate.holder = some other)
    (hne : other ≠ visitor) : (gate.enter visitor).1 = false := by
  unfold enter
  rw [h]
  dsimp only
  rw [if_neg hne]
  split <;> rfl

/-- Either a visitor may come in, or another one is inside. -/
theorem free_or_holder (gate : Gate) (visitor : Ticket) :
    (gate.holder = none ∨ gate.holder = some visitor) ∨
      ∃ other, gate.holder = some other ∧ other ≠ visitor := by
  cases gate.holder with
  | none => exact Or.inl (Or.inl rfl)
  | some other =>
    by_cases h : other = visitor
    · exact Or.inl (Or.inr (congrArg some h))
    · exact Or.inr ⟨other, rfl, h⟩

section Holder

variable {gate : Gate} {holder visitor : Ticket}

/-- Nobody who comes takes the place of the one who is inside. -/
theorem holder_enter (h : gate.holder = some holder) :
    (gate.enter visitor).2.holder = some holder := by
  unfold enter
  rw [h]
  dsimp only
  split
  · exact h
  · split
    · exact h
    · rfl

/-- Nobody who leaves takes away the place of another one who is inside. -/
theorem holder_leave (h : gate.holder = some holder) (hne : visitor ≠ holder) :
    (gate.leave visitor).holder = some holder := by
  unfold leave
  rw [if_neg (by rw [h]; simpa using hne.symm)]
  exact h

end Holder

theorem leave_holder (ticket : Ticket) (queue : List Ticket) :
    (Gate.mk (some ticket) queue).leave ticket = ⟨queue.head?, queue.tail⟩ := by
  cases queue <;> simp [leave]

theorem successor?_holder (ticket : Ticket) (queue : List Ticket) :
    (Gate.mk (some ticket) queue).successor? ticket = queue.head? := by
  simp [successor?]

/-! ### Gates in order -/

/-- Those at a gate are there, each of them waits once, and nobody waits at a gate that nobody is
inside of. -/
structure Lined (gate : Gate) (present : Ticket → Prop) : Prop where
  nodup : gate.queue.Nodup
  apart : ∀ {visitor : Ticket}, gate.holder = some visitor → visitor ∉ gate.queue
  empty : gate.holder = none → gate.queue = []
  present : ∀ {visitor : Ticket}, gate.holder = some visitor ∨ visitor ∈ gate.queue →
    present visitor

namespace Lined

variable {gate : Gate} {present present' : Ticket → Prop} {visitor : Ticket}

theorem idle (present : Ticket → Prop) : Gate.idle.Lined present :=
  ⟨List.nodup_nil, by rintro _ ⟨⟩, fun _ => rfl, by simp [Gate.idle]⟩

/-- It only matters who is at the gate. -/
theorem imp (h : gate.Lined present)
    (himp : ∀ {other}, gate.holder = some other ∨ other ∈ gate.queue → present other →
      present' other) : gate.Lined present' :=
  ⟨h.nodup, h.apart, h.empty, fun hother => himp hother (h.present hother)⟩

/-- A visitor who is there comes to the gate. -/
theorem enter (h : gate.Lined present) (hvisitor : present visitor) :
    (gate.enter visitor).2.Lined present := by
  obtain hfree | ⟨other, hholder, hne⟩ := gate.free_or_holder visitor
  · rw [enter_of_free hfree]
    refine ⟨h.nodup, fun {other} hother => ?_, by simp, fun {other} hother => ?_⟩
    · cases hother
      obtain hnone | hholder := hfree
      · simp [h.empty hnone]
      · exact h.apart hholder
    · obtain hinside | hwaits := hother
      · cases hinside
        exact hvisitor
      · exact h.present (.inr hwaits)
  -- Somebody else is inside: the visitor waits already, or joins the queue.
  · obtain ⟨holder, queue⟩ := gate
    obtain rfl : holder = some other := hholder
    unfold Gate.enter
    dsimp only
    rw [if_neg hne]
    split
    · exact h
    · next hnew =>
      refine ⟨?_, ?_, by simp, fun {new} hother => ?_⟩
      · rw [List.nodup_append]
        refine ⟨h.nodup, by simp, ?_⟩
        rintro first hfirst last hlast rfl
        rw [List.mem_singleton] at hlast
        exact hnew (hlast ▸ hfirst)
      · rintro inside ⟨⟩ hmem
        rw [List.mem_append, List.mem_singleton] at hmem
        exact hmem.elim (h.apart rfl) hne
      · rw [List.mem_append, List.mem_singleton, ← or_assoc] at hother
        obtain hbefore | rfl := hother
        · exact h.present hbefore
        · exact hvisitor

/-- A visitor leaves the gate, and is gone. -/
theorem leave (h : gate.Lined present) :
    (gate.leave visitor).Lined fun other => present other ∧ other ≠ visitor := by
  obtain ⟨holder, queue⟩ := gate
  by_cases hholder : holder = some visitor
  -- The one inside hands over to the first in line, who was not the one inside.
  · subst hholder
    have hapart : visitor ∉ queue := h.apart rfl
    rw [leave_holder]
    cases queue with
    | nil => exact idle _
    | cons next rest =>
      obtain ⟨hnot, hnodup⟩ := List.nodup_cons.mp h.nodup
      refine ⟨hnodup, ?_, by simp, fun {other} hother => ?_⟩
      · rintro other ⟨⟩
        exact hnot
      · have hmem : other ∈ next :: rest := by
          obtain hinside | hwaits := hother
          · cases hinside
            exact List.mem_cons_self
          · exact List.mem_cons_of_mem _ hwaits
        exact ⟨h.present (.inr hmem), fun heq => hapart (heq ▸ hmem)⟩
  -- Anybody else only leaves the line.
  · have hleave : Gate.leave ⟨holder, queue⟩ visitor = ⟨holder, queue.filter (· ≠ visitor)⟩ :=
      if_neg hholder
    rw [hleave]
    refine ⟨h.nodup.filter _, fun hother hmem => h.apart hother (List.mem_filter.mp hmem).1,
      fun hnone => ?_, fun {other} hother => ?_⟩
    · have hqueue : queue = [] := h.empty hnone
      simp [hqueue]
    · obtain hinside | hwaits := hother
      · refine ⟨h.present (.inl hinside), ?_⟩
        rintro rfl
        exact hholder hinside
      · obtain ⟨hmem, hne⟩ := List.mem_filter.mp hwaits
        exact ⟨h.present (.inr hmem), of_decide_eq_true hne⟩

end Lined

end Gate

end Inbound
