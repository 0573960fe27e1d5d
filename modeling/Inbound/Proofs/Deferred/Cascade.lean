import Inbound.Proofs.Deferred.Doings

/-!
# Cascades of releases

When the last handle on a request goes, the entries that wait for it are thrown away, and with them
the handles that they own, which may be the last ones on other requests. Which requests go in the
end has nothing to do with the order: a request falls if nobody has a handle on it but entries that
wait for requests that fall. This is a least set, so requests whose entries own each other in a
circle do not fall, and neither does a request with an entry that owns the request itself.

Entries are thrown away in the registry of their request only. One that stands in another registry
stays there whatever goes, and so do the handles that it owns.

## Main results

* `Server.Falls`: the requests that go;
* `Server.Cascades`: just these have gone, and their entries have been thrown away once each;
* `Server.cascades_settle`: the cascade of releases does that.
-/

namespace Inbound

open Deferred

namespace Server

variable {server : Server} {ledger : Ledger} {id : RequestId}

/-! ### Handles -/

/-- Whether anything has a handle on a request besides the entries that wait: a caller, a call on
its body, a scoped future or a task. -/
def isHeldOutside (server : Server) (id : RequestId) : Bool :=
  server.handles.contains (some id)
    || server.calls.any (fun call => call.any (·.1 = id))
    || server.within.contains id
    || server.tasks.any (·.activity.holds id)

/-- The other handles are those of entries that wait. -/
theorem isHeld_eq (server : Server) (id : RequestId) :
    server.isHeld id = (server.isHeldOutside id ||
      server.registries.any fun registry => registry.toList.any (·.2.work.holds id)) := rfl

theorem isHeldOutside_iff : server.isHeldOutside id ↔
    id ∈ server.holders ∨ (∃ call, some (id, call) ∈ server.calls) ∨
      ∃ doing ∈ server.doings, doing.2.holds id := by
  have hcalls : server.calls.any (fun call => call.any (·.1 = id)) ↔
      ∃ call, some (id, call) ∈ server.calls := by
    simp only [List.any_eq_true, Option.any_eq_true, decide_eq_true_eq]
    constructor
    · rintro ⟨_, hcall, ⟨_, call⟩, rfl, rfl⟩
      exact ⟨call, hcall⟩
    · rintro ⟨call, hcall⟩
      exact ⟨_, hcall, _, rfl, rfl⟩
  have htasks : server.tasks.any (·.activity.holds id) ↔
      ∃ doing ∈ server.doings, doing.2.holds id := by
    simp [doings]
  rw [isHeldOutside, Bool.or_eq_true, Bool.or_eq_true, Bool.or_eq_true, hcalls, htasks,
    List.contains_iff_mem, List.contains_iff_mem, mem_holders]
  tauto

/-- An entry waits in a slot of a registry. -/
def Waits (server : Server) (registry : RegistryId) (slot : Slot) (entry : Entry Job) : Prop :=
  entry ∈ (server.registry registry).entries slot

/-- A request is held from outside, or by an entry that waits. -/
theorem isHeld_iff (h : ∀ registry ∈ server.registries, registry.WellFormed) :
    server.isHeld id ↔ server.isHeldOutside id ∨
      ∃ registry slot entry, server.Waits registry slot entry ∧ entry.work.holds id := by
  rw [isHeld_eq, Bool.or_eq_true]
  refine or_congr .rfl ?_
  simp only [List.any_eq_true]
  constructor
  · rintro ⟨registry, hregistry, ⟨slot, entry⟩, hlisted, hholds⟩
    obtain ⟨number, hnumber⟩ := List.getElem?_of_mem hregistry
    refine ⟨number, slot, entry, ?_, hholds⟩
    rw [Waits, Server.registry, List.getD_eq_getElem?_getD, hnumber, Option.getD_some]
    exact (h registry hregistry).mem_toList.mp hlisted
  · rintro ⟨number, slot, entry, hentry, hholds⟩
    rw [Waits, Server.registry, List.getD_eq_getElem?_getD] at hentry
    rcases hregistry : server.registries[number]? with - | registry
    · rw [hregistry] at hentry
      cases hentry
    · rw [hregistry, Option.getD_some] at hentry
      have hmem := List.mem_of_getElem? hregistry
      exact ⟨registry, hmem, _, (h registry hmem).mem_toList.mpr hentry, hholds⟩

/-- Without other handles from outside and without other entries nothing comes to be held. -/
theorem isHeld_eq_false_of {server' : Server}
    (h : ∀ registry ∈ server.registries, registry.WellFormed)
    (h' : ∀ registry ∈ server'.registries, registry.WellFormed)
    (houtside : server'.isHeldOutside id = server.isHeldOutside id)
    (hwaits : ∀ registry slot entry, server'.Waits registry slot entry →
      server.Waits registry slot entry)
    (hfree : server.isHeld id = false) : server'.isHeld id = false := by
  refine Bool.eq_false_iff.mpr fun hheld => Bool.eq_false_iff.mp hfree ?_
  rw [isHeld_iff h, ← houtside]
  refine ((isHeld_iff h').mp hheld).imp_right ?_
  rintro ⟨registry, slot, entry, hentry, hholds⟩
  exact ⟨registry, slot, entry, hwaits registry slot entry hentry, hholds⟩

/-! ### One release -/

theorem isHeldOutside_release (server : Server) (id other : RequestId) :
    (server.release id).isHeldOutside other = server.isHeldOutside other := by
  unfold release
  dsimp only
  split <;> rfl

theorem registries_release (server : Server) (id : RequestId) :
    (server.release id).registries = server.registries.set (server.request id).registry
      ((server.registry (server.request id).registry).discard id).2 := by
  unfold release
  dsimp only
  split <;> rfl

theorem request_release (server : Server) (id other : RequestId) :
    (server.release id).request other = server.request other := by
  unfold release
  dsimp only
  split <;> rfl

/-- A release empties the slots of the request in its own registry and leaves all others alone. -/
theorem entries_release (h : Books.Orderly ⟨server.stock, ledger⟩) (hlive : id ∈ server.live)
    (registry : RegistryId) (slot : Slot) :
    ((server.release id).registry registry).entries slot =
      if slot.request = id ∧ registry = (server.request id).registry then []
      else (server.registry registry).entries slot := by
  have hregistry : (server.release id).registry registry =
      if registry = (server.request id).registry then
        ((server.registry registry).discard id).2
      else server.registry registry := by
    have hhome : server.stock.home id < server.stock.registries.length := h.home_lt hlive
    have hset := Stock.registry_setRegistry hhome
      ((server.stock.registry (server.stock.home id)).discard id).2 registry
    have hsame : (server.release id).registry registry =
        (server.stock.discard id).registry registry := by
      rw [Stock.discard, home_stock, Server.registry, registries_release]
      rfl
    rw [hsame, Stock.discard, hset, home_stock]
    split
    case isTrue heq => rw [heq]; rfl
    case isFalse => rfl
  rw [hregistry]
  by_cases heq : registry = (server.request id).registry
  · have hordered : (server.registry registry).WellFormed :=
      Stock.wellFormed_registry h.registries registry
    simp only [heq, if_true, and_true]
    rw [← heq]
    exact hordered.entries_discard id slot
  · rw [if_neg heq, if_neg fun hboth => heq hboth.2]

theorem waits_release (h : Books.Orderly ⟨server.stock, ledger⟩) (hlive : id ∈ server.live)
    {registry : RegistryId} {slot : Slot} {entry : Entry Job} :
    (server.release id).Waits registry slot entry ↔
      ¬ (slot.request = id ∧ registry = (server.request id).registry) ∧
        server.Waits registry slot entry := by
  rw [Waits, entries_release h hlive]
  split
  case isTrue hgone => simp [hgone]
  case isFalse hstays => simp only [hstays, not_false_eq_true, true_and, Waits]

/-- All entries that wait in registries. -/
def waiting (server : Server) : List (Entry Job) :=
  server.registries.flatMap Registry.waiting

/-- When a part of one list is told from the rest, it can be told from all the others too. -/
theorem perm_flatMap_set {α β : Type} {f : α → List β} {list : List α} {i : Nat}
    (hi : i < list.length) {new : α} {part : List β}
    (h : (f list[i]).Perm (part ++ f new)) :
    (list.flatMap f).Perm (part ++ (list.set i new).flatMap f) := by
  induction list generalizing i with
  | nil => cases hi
  | cons first rest ih =>
    cases i with
    | zero =>
      rw [List.set_cons_zero, List.flatMap_cons, List.flatMap_cons, ← List.append_assoc]
      exact h.append_right _
    | succ i =>
      rw [List.set_cons_succ, List.flatMap_cons, List.flatMap_cons]
      have hrest := ih (Nat.lt_of_succ_lt_succ hi) h
      exact (hrest.append_left _).trans (List.perm_append_comm_assoc _ _ _)

/-- What a release throws away waits no more, and all else does. -/
theorem perm_release (h : Books.Orderly ⟨server.stock, ledger⟩) (hlive : id ∈ server.live) :
    server.waiting.Perm
      (((server.registry (server.request id).registry).discard id).1 ++
        (server.release id).waiting) := by
  have hhome : (server.request id).registry < server.registries.length := by
    rw [← home_stock]
    exact h.home_lt hlive
  have hfound : server.registry (server.request id).registry =
      server.registries[(server.request id).registry] := by
    rw [Server.registry, List.getD_eq_getElem?_getD, List.getElem?_eq_getElem hhome,
      Option.getD_some]
  have hordered := h.registries _ (List.getElem_mem hhome)
  rw [waiting, waiting, registries_release]
  refine perm_flatMap_set hhome ?_
  rw [hfound]
  exact hordered.perm_discard id

/-! ### Falling -/

/-- A request falls if nobody has a handle on it but entries that wait for requests that fall, in
the registries of these requests. -/
inductive Falls (server : Server) : RequestId → Prop where
  /-- It is alive, and those who have handles on it all fall. -/
  | intro {id : RequestId} (hlive : id ∈ server.live) (houtside : server.isHeldOutside id = false)
      (hhomes : ∀ registry slot entry, server.Waits registry slot entry → entry.work.holds id →
        registry = (server.request slot.request).registry)
      (hentries : ∀ registry slot entry, server.Waits registry slot entry → entry.work.holds id →
        server.Falls slot.request) :
      server.Falls id

/-- Only what is alive can fall. -/
theorem Falls.live (h : server.Falls id) : id ∈ server.live := by
  cases h with
  | intro hlive => exact hlive

/-- If there is a handle on everything, nothing falls. -/
theorem not_falls (h : Books.Orderly ⟨server.stock, ledger⟩)
    (hheld : ∀ id ∈ server.live, server.isHeld id) : ¬server.Falls id := by
  intro hfalls
  induction hfalls with
  | @intro id hlive houtside hhomes hentries ih =>
    -- Somebody has a handle, and it is no entry, since no request falls for which one waits.
    rcases (isHeld_iff h.registries).mp (hheld id hlive) with hout | ⟨registry, slot, entry, hwaits,
      hholds⟩
    · rw [houtside] at hout
      cases hout
    · exact ih registry slot entry hwaits hholds

/-- A request on which nobody has a handle falls. -/
theorem falls_of_not_isHeld (h : Books.Orderly ⟨server.stock, ledger⟩) (hlive : id ∈ server.live)
    (hfree : server.isHeld id = false) : server.Falls id := by
  have hnone : ¬server.isHeld id := by simp [hfree]
  rw [isHeld_iff h.registries, not_or] at hnone
  have hno {registry : RegistryId} {slot : Slot} {entry : Entry Job}
      (hwaits : server.Waits registry slot entry) (hholds : entry.work.holds id) : False :=
    hnone.2 ⟨registry, slot, entry, hwaits, hholds⟩
  exact .intro hlive (Bool.eq_false_iff.mpr hnone.1)
    (fun _ _ _ hwaits hholds => (hno hwaits hholds).elim)
    fun _ _ _ hwaits hholds => (hno hwaits hholds).elim

/-- What falls is the request that is released first, and what falls without it. -/
theorem falls_release_iff (h : Books.Orderly ⟨server.stock, ledger⟩) (hlive : id ∈ server.live)
    (hfree : server.isHeld id = false) (other : RequestId) :
    server.Falls other ↔ other = id ∨ (server.release id).Falls other := by
  have hfirst := falls_of_not_isHeld h hlive hfree
  constructor
  · intro hfalls
    induction hfalls with
    | @intro other hother houtside hhomes hentries ih =>
      by_cases heq : other = id
      · exact .inl heq
      refine .inr (.intro ?_ ?_ (fun registry slot entry hwaits hholds => ?_)
        fun registry slot entry hwaits hholds => ?_)
      · rw [live_release]
        exact (List.mem_erase_of_ne heq).mpr hother
      · rw [isHeldOutside_release]
        exact houtside
      · rw [request_release]
        exact hhomes registry slot entry ((waits_release h hlive).mp hwaits).2 hholds
      -- What waits in its own registry after the release is not for the request that is gone.
      · obtain ⟨hstays, hwaits⟩ := (waits_release h hlive).mp hwaits
        refine (ih registry slot entry hwaits hholds).resolve_left fun hslot => hstays ⟨hslot, ?_⟩
        rw [← hslot]
        exact hhomes registry slot entry hwaits hholds
  · rintro (rfl | hfalls)
    · exact hfirst
    induction hfalls with
    | @intro other hother houtside hhomes hentries ih =>
      rw [live_release] at hother
      rw [isHeldOutside_release] at houtside
      refine .intro (List.mem_of_mem_erase hother) houtside
        (fun registry slot entry hwaits hholds => ?_)
        fun registry slot entry hwaits hholds => ?_
      · by_cases hgone : slot.request = id ∧ registry = (server.request id).registry
        · rw [hgone.1]
          exact hgone.2
        · have hstill := (waits_release h hlive).mpr ⟨hgone, hwaits⟩
          have hhome := hhomes registry slot entry hstill hholds
          rwa [request_release] at hhome
      · by_cases hgone : slot.request = id ∧ registry = (server.request id).registry
        · rw [hgone.1]
          exact hfirst
        · exact ih registry slot entry ((waits_release h hlive).mpr ⟨hgone, hwaits⟩) hholds

/-! ### Cascades -/

/-- What is thrown away when requests are released one after the other. -/
def thrown (server : Server) : List RequestId → List (Entry Job)
  | [] => []
  | id :: rest =>
    ((server.registry (server.request id).registry).discard id).1 ++ (server.release id).thrown rest

/-- What falls on the one server has gone on the other, and nothing else. -/
structure Cascades (server server' : Server) : Prop where
  /-- Whoever falls is gone, and nobody else. -/
  live : ∀ id, id ∈ server'.live ↔ id ∈ server.live ∧ ¬server.Falls id
  /-- A request on which there is no handle falls. -/
  unheld : ∀ id ∈ server.live, server.isHeld id = false → server.Falls id
  /-- Those on which there is a handle in the end do not fall, and all others do. -/
  held : ∀ id ∈ server.live, server.Falls id ↔ server'.isHeld id = false
  /-- Nothing waits any more for a request that falls, in its own registry. -/
  discarded : ∀ id, server.Falls id → ∀ scope,
    (server'.registry (server.request id).registry).entries ⟨id, scope⟩ = []
  /-- All that waits for a request that does not fall still does, and so does all that waits
  elsewhere. -/
  kept : ∀ registry slot,
    ¬ (server.Falls slot.request ∧ registry = (server.request slot.request).registry) →
      (server'.registry registry).entries slot = (server.registry registry).entries slot
  /-- Whoever falls is released once, one after the other, and nothing else is done. Every entry is
  thrown away once or still waits. -/
  once : ∃ ids : List RequestId, ids.Nodup ∧ (∀ id, id ∈ ids ↔ server.Falls id) ∧
    server' = ids.foldl release server ∧
    server.waiting.Perm (server.thrown ids ++ server'.waiting)

namespace Cascades

/-- If there is a handle on everything, nothing has to be done. -/
theorem refl (h : Books.Orderly ⟨server.stock, ledger⟩)
    (hheld : ∀ id ∈ server.live, server.isHeld id) : server.Cascades server where
  live id := by simp [not_falls h hheld]
  unheld id hlive hfree := falls_of_not_isHeld h hlive hfree
  held id hlive := by simp [not_falls h hheld, hheld id hlive]
  discarded id hfalls := absurd hfalls (not_falls h hheld)
  kept registry slot _ := rfl
  once := by
    refine ⟨[], List.nodup_nil, fun id => ?_, rfl, .refl _⟩
    simp [not_falls h hheld]

theorem isHeldOutside {server' : Server} (h : server.Cascades server') (id : RequestId) :
    server'.isHeldOutside id = server.isHeldOutside id := by
  obtain ⟨ids, -, -, rfl, -⟩ := h.once
  have hreleases (list : List RequestId) (server : Server) :
      (list.foldl release server).isHeldOutside id = server.isHeldOutside id := by
    induction list generalizing server with
    | nil => rfl
    | cons first rest ih => exact (ih _).trans (isHeldOutside_release server first id)
  exact hreleases ids server

/-- Nothing comes to wait. -/
theorem waits {server' : Server} (h : server.Cascades server') {registry : RegistryId} {slot : Slot}
    {entry : Entry Job} (hwaits : server'.Waits registry slot entry) :
    server.Waits registry slot entry := by
  by_cases hgone : server.Falls slot.request ∧ registry = (server.request slot.request).registry
  · rw [Waits, hgone.2, h.discarded _ hgone.1] at hwaits
    cases hwaits
  · rwa [Waits, h.kept registry slot hgone] at hwaits

/-- A request goes on which there is no handle, and then everything that falls without it. -/
theorem of_release {server' : Server} {ledger' : Ledger}
    (h : Books.Orderly ⟨server.stock, ledger⟩)
    (hfirst : server.live.find? (!server.isHeld ·) = some id)
    (hrest : (server.release id).Cascades server')
    (horderly' : Books.Orderly ⟨server'.stock, ledger'⟩) : server.Cascades server' := by
  have hlive : id ∈ server.live := List.mem_of_find?_eq_some hfirst
  have hfree : server.isHeld id = false := by simpa using List.find?_some hfirst
  have hfalls := falls_release_iff h hlive hfree
  have honce : server.live.Nodup := h.live_nodup
  have hmem (other : RequestId) :
      other ∈ (server.release id).live ↔ other ≠ id ∧ other ∈ server.live := by
    rw [live_release, honce.mem_erase_iff]
  -- The first request does not fall again.
  have hgone : ¬(server.release id).Falls id := fun hfalls => ((hmem id).mp hfalls.live).1 rfl
  refine ⟨fun other => ?live, fun other hother hfree => falls_of_not_isHeld h hother hfree,
    fun other hother => ?held, fun other hother scope => ?discarded,
    fun registry slot hother => ?kept, ?once⟩
  case live =>
    rw [hrest.live, hmem, hfalls]
    tauto
  case held =>
    by_cases heq : other = id
    · subst heq
      -- Nobody comes to have a handle on what is gone.
      have hout := (hrest.isHeldOutside other).trans (isHeldOutside_release server other other)
      have hnone := isHeld_eq_false_of h.registries horderly'.registries hout
        (fun _ _ _ hwaits => ((waits_release h hlive).mp (hrest.waits hwaits)).2) hfree
      simp only [hfalls, hnone, true_or]
    · rw [hfalls, or_iff_right heq]
      exact hrest.held other ((hmem other).mpr ⟨heq, hother⟩)
  case discarded =>
    rcases (hfalls other).mp hother with rfl | hother
    · rw [hrest.kept _ _ fun hboth => hgone hboth.1, entries_release h hlive, if_pos ⟨rfl, rfl⟩]
    · rw [← request_release server id other]
      exact hrest.discarded other hother scope
  case kept =>
    rw [hrest.kept registry slot, entries_release h hlive, if_neg]
    · rintro ⟨hslot, hregistry⟩
      refine hother ⟨(hfalls _).mpr (.inl hslot), ?_⟩
      rw [hslot]
      exact hregistry
    · rintro ⟨hlater, hregistry⟩
      rw [request_release] at hregistry
      exact hother ⟨(hfalls _).mpr (.inr hlater), hregistry⟩
  case once =>
    obtain ⟨ids, hnodup, hids, hserver, hperm⟩ := hrest.once
    refine ⟨id :: ids, List.nodup_cons.mpr ⟨?_, hnodup⟩, fun other => ?_, hserver, ?_⟩
    · rw [hids]
      exact hgone
    · rw [List.mem_cons, hids, hfalls]
    · rw [thrown, List.append_assoc]
      exact (perm_release h hlive).trans (hperm.append_left _)

end Cascades

/-- The cascade of releases lets everything go that falls. -/
theorem cascades_settle (server : Server) {ledger : Ledger}
    (h : Books.Orderly ⟨server.stock, ledger⟩) : server.Cascades server.settle := by
  -- The recursion is that of the cascade.
  induction server using settle.induct generalizing ledger with
  | case1 server hnone =>
    rw [settle, hnone]
    refine .refl h fun id hlive => ?_
    simpa using List.find?_eq_none.mp hnone id hlive
  | case2 server id hid ih =>
    have horderly := (deed_release hid ledger).orderly h
    rw [settle, hid]
    exact .of_release h hid (ih horderly) ((deeds_settle _ horderly).orderly horderly)

end Server

end Inbound
