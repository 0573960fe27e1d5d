import Inbound.Proofs.Deferred.Books

/-!
# The stock in order

Anyone may register an entry in another registry than that of its request. Nobody looks for it
there when the request goes, and it is in no ledger, so the books need not balance any more. The
stock stays in order all the same: what stands in the registry of its own request, and what tasks
have in their hands, is for requests that are alive. This is all that has to be known of whoever
has a request to know what they can do with it.

## Main results

* `Books.Orderly`: the stock is in order; `Books.Balanced.orderly`: it is if the books balance;
* `Deed.orderly`, `Deeds.orderly`: deeds keep the order;
* `Books.Orderly.add`, `Books.Orderly.take`, `Books.Orderly.discard`: so does what is done to any
  registry.
-/

namespace Inbound

open Deferred

/-- What can still be done is done for requests that are alive. Of the entries that stand in other
registries than those of their requests nothing is said. -/
structure Books.Orderly (books : Books) : Prop where
  /-- Requests use registries that exist. -/
  homes : ∀ home ∈ books.stock.homes, home < books.stock.registries.length
  /-- No request is alive twice. -/
  live_nodup : books.stock.live.Nodup
  /-- Only what has been made is alive. -/
  live_lt : ∀ request ∈ books.stock.live, request < books.stock.homes.length
  /-- What someone has is alive. -/
  holders : ∀ request ∈ books.stock.holders, request ∈ books.stock.live
  /-- No registry is in disorder. -/
  registries : ∀ registry ∈ books.stock.registries, registry.WellFormed
  /-- What stands in the registry of its request is for a request that is alive. -/
  waiting : ∀ slot entry,
    entry ∈ (books.stock.registry (books.stock.home slot.request)).entries slot →
      slot.request ∈ books.stock.live
  /-- Nothing is pending for a request that is gone. -/
  alive : ∀ record ∈ books.ledger, record.fate = .pending →
    record.slot.request ∈ books.stock.live
  /-- What is in the hands of tasks is for requests that are alive. -/
  engaged : ∀ stake, some stake ∈ books.stock.stakes → stake.request ∈ books.stock.live

/-- Books that balance are in order. -/
theorem Books.Balanced.orderly {books : Books} (h : books.Balanced) : books.Orderly where
  homes := h.homes
  live_nodup := h.live_nodup
  live_lt := h.live_lt
  holders := h.holders
  registries := h.registries
  waiting slot entry hentry := by
    -- What stands in the registry is what the ledger says is pending.
    rw [h.entries_home] at hentry
    obtain ⟨record, hrecord, -⟩ := List.mem_map.mp hentry
    obtain ⟨hmem, hpending⟩ := List.mem_filter.mp hrecord
    obtain ⟨hfate, rfl⟩ := of_decide_eq_true hpending
    exact h.alive record hmem hfate
  alive := h.alive
  engaged stake hstake := by
    obtain ⟨task, htask⟩ := List.getElem?_of_mem hstake
    exact (h.backed task stake htask).1

namespace Books.Orderly

variable {stock : Stock} {ledger : Ledger}

theorem home_lt (h : Orderly ⟨stock, ledger⟩) {request : RequestId}
    (hlive : request ∈ stock.live) : stock.home request < stock.registries.length :=
  Stock.home_lt h.homes h.live_lt hlive

/-- The ledger may say anything of what is not pending. -/
theorem of_alive (h : Orderly ⟨stock, ledger⟩) {ledger' : Ledger}
    (halive : ∀ record ∈ ledger', record.fate = .pending → record.slot.request ∈ stock.live) :
    Orderly ⟨stock, ledger'⟩ :=
  ⟨h.homes, h.live_nodup, h.live_lt, h.holders, h.registries, h.waiting, halive, h.engaged⟩

/-- A new task may get something in its hands for a request that is alive. -/
theorem spawn (h : Orderly ⟨stock, ledger⟩) {stake : Option Stake}
    (hstake : ∀ given, stake = some given → given.request ∈ stock.live) :
    Orderly ⟨stock.spawn stake, ledger⟩ where
  homes := h.homes
  live_nodup := h.live_nodup
  live_lt := h.live_lt
  holders := h.holders
  registries := h.registries
  waiting := h.waiting
  alive := h.alive
  engaged given hgiven := by
    rcases List.mem_append.mp hgiven with hgiven | hgiven
    · exact h.engaged given hgiven
    · exact hstake given (List.mem_singleton.mp hgiven).symm

/-- So may one that is there. -/
theorem setStake (h : Orderly ⟨stock, ledger⟩) (task : TaskId) {stake : Option Stake}
    (hstake : ∀ given, stake = some given → given.request ∈ stock.live) :
    Orderly ⟨stock.setStake task stake, ledger⟩ where
  homes := h.homes
  live_nodup := h.live_nodup
  live_lt := h.live_lt
  holders := h.holders
  registries := h.registries
  waiting := h.waiting
  alive := h.alive
  engaged given hgiven := by
    rcases List.mem_or_eq_of_mem_set hgiven with hgiven | hgiven
    · exact h.engaged given hgiven
    · exact hstake given hgiven.symm

/-! ### Any registry -/

/-- A registry may take the place of another if what it has for the requests that use it is for
requests that are alive. -/
theorem setRegistry (h : Orderly ⟨stock, ledger⟩) (id : RegistryId) {registry : Registry Job}
    (hregistry : registry.WellFormed)
    (hwaiting : ∀ slot entry, entry ∈ registry.entries slot →
      entry ∈ (stock.registry id).entries slot ∨ slot.request ∈ stock.live) :
    Orderly ⟨stock.setRegistry id registry, ledger⟩ where
  homes := Stock.homes_setRegistry h.homes id registry
  live_nodup := h.live_nodup
  live_lt := h.live_lt
  holders := h.holders
  registries := Stock.wellFormed_set h.registries id hregistry
  waiting slot entry hentry := by
    change entry ∈ ((stock.setRegistry id registry).registry (stock.home slot.request)).entries
      slot at hentry
    by_cases hid : id < stock.registries.length
    · rw [Stock.registry_setRegistry hid] at hentry
      split at hentry
      case isTrue heq =>
        refine (hwaiting slot entry hentry).elim (fun hold => ?_) fun hlive => hlive
        rw [← heq] at hold
        exact h.waiting slot entry hold
      case isFalse => exact h.waiting slot entry hentry
    -- There is no such registry, so nothing takes its place.
    · rw [Stock.setRegistry, List.set_eq_of_length_le (Nat.le_of_not_lt hid)] at hentry
      exact h.waiting slot entry hentry
  alive := h.alive
  engaged := h.engaged

/-- An entry may be registered anywhere for a request that is alive. -/
theorem add (h : Orderly ⟨stock, ledger⟩) (id : RegistryId) (slot : Slot)
    (hlive : slot.request ∈ stock.live) (entry : Entry Job) :
    Orderly ⟨{ stock with clock := stock.clock + 1 }.setRegistry id
      ((stock.registry id).add slot entry), ledger⟩ := by
  have hadded := h.setRegistry id
    ((Stock.wellFormed_registry h.registries id).add slot entry) fun other added hmem => ?_
  · exact ⟨hadded.homes, hadded.live_nodup, hadded.live_lt, hadded.holders, hadded.registries,
      hadded.waiting, hadded.alive, hadded.engaged⟩
  · rw [Registry.entries_add] at hmem
    split at hmem
    case isTrue heq => exact .inr (heq ▸ hlive)
    case isFalse => exact .inl hmem

/-- A slot may be emptied anywhere. -/
theorem take (h : Orderly ⟨stock, ledger⟩) (id : RegistryId) (slot : Slot) :
    Orderly ⟨stock.setRegistry id ((stock.registry id).take slot).2, ledger⟩ := by
  have hregistry := Stock.wellFormed_registry h.registries id
  refine h.setRegistry id (hregistry.take slot) fun other entry hentry => .inl ?_
  rw [hregistry.entries_take] at hentry
  split at hentry
  · cases hentry
  · exact hentry

/-- All slots of a request may be emptied anywhere. -/
theorem discard (h : Orderly ⟨stock, ledger⟩) (id : RegistryId) (request : RequestId) :
    Orderly ⟨stock.setRegistry id ((stock.registry id).discard request).2, ledger⟩ := by
  have hregistry := Stock.wellFormed_registry h.registries id
  refine h.setRegistry id (hregistry.discard request) fun other entry hentry => .inl ?_
  rw [hregistry.entries_discard] at hentry
  split at hentry
  · cases hentry
  · exact hentry

/-! ### Deeds -/

/-- A request may go that nobody has, once its slots are empty in its own registry. -/
theorem drop (h : Orderly ⟨stock, ledger⟩) {request : RequestId} (hlive : request ∈ stock.live)
    (hholders : request ∉ stock.holders)
    (hstakes : ∀ stake, some stake ∈ stock.stakes → stake.request ≠ request) :
    Orderly ⟨stock.drop request, ledger.discard request⟩ := by
  have hcleared := h.discard (stock.home request) request
  have hstays {other : RequestId} (hother : other ∈ stock.live) (hne : other ≠ request) :
      other ∈ stock.live.erase request := (List.mem_erase_of_ne hne).mpr hother
  refine ⟨hcleared.homes, h.live_nodup.erase _, fun other hother => ?live_lt,
    fun other hother => ?holders, hcleared.registries, fun slot entry hentry => ?waiting,
    fun record hrecord hfate => ?alive, fun stake hstake => ?engaged⟩
  case live_lt => exact h.live_lt other (List.mem_of_mem_erase hother)
  case holders => exact hstays (h.holders other hother) fun heq => hholders (heq ▸ hother)
  case waiting =>
    refine hstays (hcleared.waiting slot entry hentry) ?_
    -- What stood there for the request has just been thrown away.
    rintro rfl
    change entry ∈ ((stock.setRegistry (stock.home slot.request) _).registry
      (stock.home slot.request)).entries slot at hentry
    rw [Stock.registry_setRegistry (h.home_lt hlive), if_pos rfl,
      (Stock.wellFormed_registry h.registries _).entries_discard, if_pos rfl] at hentry
    cases hentry
  case alive =>
    obtain ⟨old, hold, rfl⟩ := Ledger.mem_revise.mp hrecord
    dsimp only at hfate
    split at hfate
    · cases hfate
    case isFalse hother =>
      exact hstays (h.alive old hold hfate) fun heq => hother ⟨hfate, heq⟩
  case engaged => exact hstays (h.engaged stake hstake) (hstakes stake hstake)

/-- Nothing stands anywhere for a new request that is not alive. -/
theorem build (h : Orderly ⟨stock, ledger⟩) {home : RegistryId}
    (hhome : home < stock.registries.length) : Orderly ⟨stock.build home, ledger⟩ := by
  have hkeeps {request : RequestId} (hlive : request ∈ stock.live) :
      request ∈ stock.live ++ [stock.homes.length] := List.mem_append_left _ hlive
  refine ⟨Stock.homes_build h.homes hhome, Stock.live_nodup_build h.live_nodup h.live_lt _,
    Stock.live_lt_build h.live_lt _, fun request hrequest => hkeeps (h.holders request hrequest),
    h.registries, fun slot entry hentry => ?_,
    fun record hrecord hfate => hkeeps (h.alive record hrecord hfate),
    fun stake hstake => hkeeps (h.engaged stake hstake)⟩
  by_cases hslot : slot.request = stock.homes.length
  · rw [hslot]
    exact List.mem_append_right _ (List.mem_singleton_self _)
  · rw [Stock.home_build hslot] at hentry
    exact hkeeps (h.waiting slot entry hentry)

end Books.Orderly

/-- A deed keeps the order. -/
theorem Deed.orderly {books books' : Books} (deed : Deed books books') (h : books.Orderly) :
    books'.Orderly := by
  cases deed with
  | registers hlive =>
    refine (h.add _ _ hlive _).of_alive fun record hrecord hfate => ?_
    rcases List.mem_append.mp hrecord with hrecord | hrecord
    · exact h.alive record hrecord hfate
    · rw [List.mem_singleton.mp hrecord]
      exact hlive
  | hands hlive hstake =>
    refine ((h.take _ _).spawn fun given hgiven => ?_).of_alive
      (Ledger.alive_revise h.alive Fate.noConfusion)
    rw [hstake given hgiven]
    exact hlive
  | launches hholding hstake =>
    have hlive := h.engaged _ (List.mem_of_getElem? hholding)
    refine ((h.setStake _ fun given hgiven => ?_).spawn fun given hgiven => ?_).of_alive
      (Ledger.alive_revise h.alive Fate.noConfusion)
    · cases hgiven
      exact hlive
    · rw [hstake given hgiven]
      exact hlive
  | calls hstarting =>
    have hlive := h.engaged _ (List.mem_of_getElem? hstarting)
    refine (h.setStake _ fun given hgiven => ?_).of_alive
      (Ledger.alive_revise h.alive Fate.noConfusion)
    cases hgiven
    exact hlive
  | ends task => exact h.setStake task nofun
  | clears hlive => exact (h.discard _ _).of_alive (Ledger.alive_revise h.alive Fate.noConfusion)
  | drops hlive hholders hstakes => exact h.drop hlive hholders hstakes
  | builds hhome => exact h.build hhome
  | opens =>
    refine ⟨fun home hhome => ?_, h.live_nodup, h.live_lt, h.holders,
      Stock.wellFormed_concat_empty h.registries, fun slot entry hentry => ?_, h.alive, h.engaged⟩
    · rw [List.length_append]
      exact Nat.lt_add_right _ (h.homes home hhome)
    · rw [Stock.registry_concat_empty] at hentry
      exact h.waiting slot entry hentry
  | holds hlive =>
    exact ⟨h.homes, h.live_nodup, h.live_lt, hlive, h.registries, h.waiting, h.alive, h.engaged⟩
  | turns current =>
    exact ⟨h.homes, h.live_nodup, h.live_lt, h.holders, h.registries, h.waiting, h.alive,
      h.engaged⟩

/-- What is in order stays so whatever is done. -/
theorem Deeds.orderly {books books' : Books} (deeds : Deeds books books') (h : books.Orderly) :
    books'.Orderly := by
  induction deeds with
  | refl => exact h
  | tail _ deed ih => exact deed.orderly ih

end Inbound
