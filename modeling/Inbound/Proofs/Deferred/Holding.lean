import Inbound.Proofs.Deferred.Cascade
import Inbound.Proofs.Deferred.Consumption

/-!
# No request is left without handles

Requests are made, their handles are copied, dropped and moved into entries, and entries are
registered, executed, cleared and run to their ends. After each of these there is a handle on every
request that is alive. A handle that is moved ends up in an entry; one that is merely taken out of
the table would leave its request behind.

## Main results

* `Server.Errand`, `Server.undertake`: what is done to a server;
* `Server.settled_happen`, `Server.settled_undertake`: no request is left without handles;
* `Server.exists_balanced_serve`, `Server.settled_serve`: it is so whatever has been done, and there
  are books that balance.
-/

namespace Inbound

open Deferred

namespace Server

variable {server server' : Server} {ledger : Ledger}

/-! ### What is done to a server -/

/-- Takes handles out of the table, and tells on which requests they were. -/
def takeHandles (server : Server) : List Nat → List RequestId × Server
  | [] => ([], server)
  | place :: rest =>
    let (held, taken) := (server.takeHandle place).takeHandles rest
    ((server.handle? place).toList ++ held, taken)

/-- Whether something happens on its own: a handle is taken out of the table only for an entry that
gets it, and the handles of an entry come from nowhere else. -/
def Event.IsWhole : Event → Prop
  | .moves _ | .registers .. => False
  | _ => True

/-- What is done to a server. -/
inductive Errand where
  /-- Something happens. -/
  | does (event : Event) (h : event.IsWhole)
  /-- Whoever has a request registers an entry for it, which gets some handles of the table. -/
  | adds (id : RequestId) (name scope : String) (places : List Nat) (panicOnCall : Option Panic)
      (acts : List Act)

/-- Something is done to a server, if it can be. -/
def undertake (server : Server) : Errand → Server
  | .does event _ => server.happen event
  | .adds id name scope places panicOnCall acts =>
    if id ∈ server.holders then
      let (held, taken) := server.takeHandles places
      (taken.addEntry id name scope ⟨held, panicOnCall, acts⟩).2
    else server

/-- One thing is done after the other. -/
def serve (server : Server) (errands : List Errand) : Server :=
  errands.foldl undertake server

theorem serve_concat (server : Server) (errands : List Errand) (errand : Errand) :
    server.serve (errands ++ [errand]) = (server.serve errands).undertake errand :=
  List.foldl_append

/-! ### Nobody is left behind -/

/-- There is a handle on everything that is alive. -/
def Settled (server : Server) : Prop :=
  ∀ id ∈ server.live, server.isHeld id

/-- After a cascade there is a handle on everything that is left. -/
theorem settled_settle (server : Server) : server.settle.Settled := by
  -- The cascade goes on until no request is found that has no handle.
  induction server using settle.induct with
  | case1 server hnone =>
    rw [settle, hnone]
    intro id hlive
    simpa using List.find?_eq_none.mp hnone id hlive
  | case2 server id hid ih =>
    rw [settle, hid]
    exact ih

/-- All handles that there are stay, and nothing is done to a registry. -/
structure Retains (server server' : Server) : Prop where
  /-- The handles of the table and of scoped futures. -/
  holders : server.holders ⊆ server'.holders
  /-- Those of calls on bodies. -/
  calls : server.calls ⊆ server'.calls
  /-- Those of tasks. -/
  doings : server.doings ⊆ server'.doings
  /-- Those of entries that wait. -/
  registries : server'.registries = server.registries

namespace Retains

/-- What leaves the stock and the tasks alone takes no handle away. -/
theorem of_stock (hstock : server'.stock = server.stock) (hcalls : server.calls ⊆ server'.calls)
    (hgrows : server.Grows server') : server.Retains server' where
  holders := by
    rw [show server'.holders = server.holders from congrArg Stock.holders hstock]
    exact List.Subset.refl _
  calls := hcalls
  doings := by
    obtain ⟨added, hadded, -⟩ := hgrows.doings
    rw [hadded]
    exact List.subset_append_left _ _
  registries := congrArg Stock.registries hstock

/-- Handles come into the table or to scoped futures, and all else is as before. -/
theorem of_handles (hhandles : server.handles ⊆ server'.handles)
    (hwithin : server.within ⊆ server'.within) (hcalls : server'.calls = server.calls)
    (htasks : server'.tasks = server.tasks) (hregistries : server'.registries = server.registries) :
    server.Retains server' where
  holders id hid := mem_holders.mpr
    ((mem_holders.mp hid).imp (fun h => hhandles h) fun h => hwithin h)
  calls := by
    rw [hcalls]
    exact List.Subset.refl _
  doings := by
    rw [Server.doings, Server.doings, htasks]
    exact List.Subset.refl _
  registries := hregistries

theorem isHeld (h : server.Retains server') {id : RequestId} (hheld : server.isHeld id) :
    server'.isHeld id := by
  rw [isHeld_eq, Bool.or_eq_true, isHeldOutside_iff] at hheld ⊢
  rw [h.registries]
  refine hheld.imp_left (Or.imp (fun hholder => h.holders hholder) (Or.imp ?_ ?_))
  · rintro ⟨call, hcall⟩
    exact ⟨call, h.calls hcall⟩
  · rintro ⟨doing, hdoing, hholds⟩
    exact ⟨doing, h.doings hdoing, hholds⟩

/-- If all handles stay and no request is new, nobody is left behind. -/
theorem settled (h : server.Retains server') (hsettled : server.Settled)
    (hlive : server'.live = server.live) : server'.Settled := by
  intro id hid
  rw [hlive] at hid
  exact h.isHeld (hsettled id hid)

end Retains

/-! ### What happens -/

/-- The handles of the table, the calls on bodies and the scoped futures. -/
def tables (server : Server) :
    List (Option RequestId) × List (Option (RequestId × Call)) × List RequestId :=
  (server.handles, server.calls, server.within)

theorem tables_wakeFrom (server : Server) (origin : Option RuntimeId) (id : TaskId) :
    (server.wakeFrom origin id).tables = server.tables := by
  unfold wakeFrom
  split
  · rfl
  · split
    · rfl
    · dsimp only
      split <;> rfl

theorem tables_foldl {ι : Type} {act : Server → ι → Server}
    (h : ∀ server i, (act server i).tables = server.tables) (server : Server) (list : List ι) :
    (list.foldl act server).tables = server.tables := by
  induction list generalizing server with
  | nil => rfl
  | cons i rest ih => rw [List.foldl_cons, ih, h]

theorem tables_onRequest {α : Type} (server : Server) (id : RequestId)
    (act : Request → α × Request) : (server.onRequest id act).2.tables = server.tables := by
  unfold onRequest deliver
  dsimp only
  rw [tables_foldl]
  · rfl
  · intro server ticket
    split
    · rfl
    · exact tables_wakeFrom _ _ _

theorem retains_startCall (server : Server) (id : RequestId) (wanted : BodyCall) :
    server.Retains (server.startCall id wanted).2 := by
  refine .of_stock (stock_startCall server id wanted) ?_ (grows_startCall server id wanted)
  unfold startCall
  dsimp only
  generalize hbegun : server.onRequest id _ = begun
  have htables : begun.2.tables = server.tables := hbegun ▸ tables_onRequest server id _
  have hcalls : begun.2.calls = server.calls := congrArg (·.2.1) htables
  rw [← hcalls]
  exact List.subset_append_left _ _

theorem settled_execute (h : server.Settled) (id : RequestId) (scope : String)
    (ambient : Option RuntimeId) : (server.execute id scope ambient).2.Settled := by
  rcases hruntime : ((server.request id).runtime <|> ambient) with - | runtime
  · rw [execute_of_none hruntime]
    exact h
  · rw [execute_of_some hruntime]
    exact settled_settle _

theorem settled_step (h : server.Settled) (task : TaskId) : (server.step task).Settled := by
  unfold step
  split
  · exact h
  · exact settled_settle _

theorem settled_runTasks (h : server.Settled) (runtime : RuntimeId) (count : Nat) :
    (server.runTasks runtime count).Settled := by
  induction count generalizing server with
  | zero => exact h
  | succ count ih =>
    rw [runTasks]
    dsimp only
    split
    · exact h
    case h_2 task _ =>
      have hqueue : (server.changeRuntime runtime fun _ =>
          (server.runtime runtime).next.2).Settled := h
      exact ih (settled_step hqueue task)

/-- Each step of a round ends with a cascade, and waking those who have stepped aside leaves nobody
behind. -/
theorem settled_round (h : server.Settled) (runtime : RuntimeId) :
    (server.round runtime).Settled := by
  have hwoken (server : Server) (tasks : List TaskId) :
      server.Retains (tasks.foldl (wakeFrom · (some runtime)) server) := by
    refine .of_stock ?_ ?_ (.foldl (fun server task => grows_wakeFrom server _ task) _ _)
    · exact stock_foldl (fun server task => stock_wakeFrom server _ task) _ _
    · have htables :=
        tables_foldl (fun server task => tables_wakeFrom server (some runtime) task) server tasks
      have hcalls : (tasks.foldl (wakeFrom · (some runtime)) server).calls = server.calls :=
        congrArg (·.2.1) htables
      rw [hcalls]
      exact List.Subset.refl _
  have hlive (server : Server) (tasks : List TaskId) :
      (tasks.foldl (wakeFrom · (some runtime)) server).live = server.live :=
    congrArg Stock.live (stock_foldl (fun server task => stock_wakeFrom server _ task) _ _)
  have hrun := settled_runTasks h runtime RunQueue.roundSize
  exact (hwoken _ _).settled hrun (hlive _ _)

theorem isHeld_of_holders {id : RequestId} (h : id ∈ server.holders) : server.isHeld id := by
  rw [isHeld_eq, Bool.or_eq_true]
  exact .inl (isHeldOutside_iff.mpr (.inl h))

theorem settled_newRegistry (h : server.Settled) : server.newRegistry.2.Settled := by
  intro id hlive
  have hheld := h id hlive
  rw [isHeld_eq, Bool.or_eq_true] at hheld ⊢
  refine hheld.imp_right fun hwithin => ?_
  show (server.registries ++ [Registry.empty]).any _ = true
  rw [List.any_append, hwithin, Bool.true_or]

/-- A new request has its handle in the table. -/
theorem settled_build (h : server.Settled) (request : Request) :
    (server.build request).2.Settled := by
  have hretains : server.Retains (server.build request).2 :=
    .of_handles (List.subset_append_left _ _) (List.Subset.refl _) rfl rfl rfl
  intro id hid
  rcases List.mem_append.mp hid with hold | hnew
  · exact hretains.isHeld (h id hold)
  · refine isHeld_of_holders (mem_holders.mpr (.inl ?_))
    rw [List.mem_singleton.mp hnew]
    exact List.mem_append_right _ (List.mem_singleton_self _)

/-- It does not matter whether something is done that leaves nobody behind. -/
theorem Settled.ite {p : Prop} [Decidable p] (h : server.Settled)
    (hdone : server'.Settled) : (if p then server' else server).Settled := by
  split
  · exact hdone
  · exact h

/-- Whatever happens on its own leaves nobody behind. -/
theorem settled_happen (h : server.Settled) {event : Event} (hwhole : event.IsWhole) :
    (server.happen event).Settled := by
  -- Most events end with a cascade. Before those that do not, the handles are all kept.
  cases event with
  | opensRegistry => exact settled_newRegistry h
  | opensRuntime => exact h
  | builds request => exact h.ite (settled_build h request)
  | clones id =>
    have hretains : server.Retains (server.clone id).2 :=
      .of_handles (List.subset_append_left _ _) (List.Subset.refl _) rfl rfl rfl
    exact h.ite (hretains.settled h rfl)
  | moves => exact hwhole.elim
  | drops index => exact settled_settle _
  | enters id =>
    have hretains : server.Retains (server.openScope id) :=
      .of_handles (List.Subset.refl _) (List.subset_cons_self _ _) rfl rfl rfl
    exact h.ite (hretains.settled h rfl)
  | leaves id => exact settled_settle _
  | registers => exact hwhole.elim
  | executes id scope ambient => exact h.ite (settled_execute h id scope ambient)
  | clears id => exact h.ite (settled_settle _)
  | begins id wanted =>
    have hlive := congrArg Stock.live (stock_startCall server id wanted)
    exact h.ite ((retains_startCall server id wanted).settled h hlive)
  | polls index =>
    dsimp only [happen]
    unfold pollKept
    split
    · exact h
    · exact settled_settle _
  | abandons index =>
    dsimp only [happen]
    unfold dropKept
    split
    · exact h
    · exact settled_settle _
  | steps task => exact settled_step h task
  | rounds runtime => exact settled_round h runtime
  | shutsDown runtime =>
    dsimp only [happen]
    unfold shutDown
    split
    · exact settled_settle _
    · exact h

/-! ### Handles that move into entries -/

theorem takeHandles_snd (server : Server) (places : List Nat) :
    (server.takeHandles places).2 = places.foldl takeHandle server := by
  induction places generalizing server with
  | nil => rfl
  | cons place rest ih => exact ih (server.takeHandle place)

theorem isHeld_takeHandle {place : Nat} {id : RequestId} (h : server.isHeld id)
    (hplace : server.handle? place ≠ some id) : (server.takeHandle place).isHeld id := by
  rw [isHeld_eq, Bool.or_eq_true] at h ⊢
  refine h.imp_left fun hout => isHeldOutside_iff.mpr ?_
  -- A handle at another place is still in the table.
  refine (isHeldOutside_iff.mp hout).imp_left fun hholder => mem_holders.mpr ?_
  refine (mem_holders.mp hholder).imp_left fun hhandle => ?_
  obtain ⟨index, hindex⟩ := List.getElem?_of_mem hhandle
  have hne : place ≠ index := by
    rintro rfl
    exact hplace (by rw [handle?, hindex, Option.join_some])
  refine List.mem_of_getElem? (i := index) ?_
  rw [takeHandle, List.getElem?_set_ne hne, hindex]

/-- Whoever loses a handle when some are taken is among those that are told. -/
theorem isHeld_takeHandles (places : List Nat) {id : RequestId} (h : server.isHeld id) :
    id ∈ (server.takeHandles places).1 ∨ (server.takeHandles places).2.isHeld id := by
  induction places generalizing server with
  | nil => exact .inr h
  | cons place rest ih =>
    -- The handle that is taken first is on the request, or the request keeps all that it has.
    by_cases hplace : server.handle? place = some id
    · refine .inl (List.mem_append_left _ ?_)
      rw [hplace]
      exact List.mem_singleton_self _
    · exact (ih (isHeld_takeHandle h hplace)).imp_left (List.mem_append_right _)

/-- Nothing but the table changes when handles are taken. -/
theorem same_takeHandles {β : Type} (part : Server → β)
    (h : ∀ server place, part (takeHandle server place) = part server) (server : Server)
    (places : List Nat) : part (server.takeHandles places).2 = part server := by
  induction places generalizing server with
  | nil => rfl
  | cons place rest ih => exact (ih (server.takeHandle place)).trans (h server place)

theorem silent_takeHandles (server : Server) (places : List Nat) :
    server.stock.Silent (server.takeHandles places).2.stock := by
  induction places generalizing server with
  | nil => exact .of_eq rfl
  | cons place rest ih =>
    have hrest := ih (server.takeHandle place)
    exact (silent_takeHandle server place).trans hrest

theorem orderly_takeHandles (h : Books.Orderly ⟨server.stock, ledger⟩) (places : List Nat) :
    Books.Orderly ⟨(server.takeHandles places).2.stock, ledger⟩ :=
  (silent_takeHandles server places ledger h).orderly h

/-- Registration adds an entry to its own slot in the registry. -/
theorem entries_addEntryTo {registry : RegistryId} (hregistry : registry < server.registries.length)
    (id : RequestId) (name scope : String) (job : Job) (other : RegistryId) (slot : Slot) :
    ((server.addEntryTo registry id name scope job).2.registry other).entries slot =
      if other = registry ∧ slot = ⟨id, scope⟩ then
        (server.registry other).entries slot ++ [⟨name, server.clock, job⟩]
      else (server.registry other).entries slot := by
  have hset (new : Registry Job) :
      (server.stock.setRegistry registry new).registry other =
        if other = registry then new else server.stock.registry other :=
    Stock.registry_setRegistry hregistry _ _
  refine (congrArg (Registry.entries · slot) (hset _)).trans ?_
  by_cases hother : other = registry
  · rw [if_pos hother, Registry.entries_add]
    by_cases hslot : slot = ⟨id, scope⟩
    · rw [if_pos hslot, if_pos ⟨hother, hslot⟩, hother, hslot]
    · rw [if_neg hslot, if_neg fun hboth => hslot hboth.2, hother]
  · rw [if_neg hother, if_neg fun hboth => hother hboth.1]
    rfl

/-- An entry that gets the handles that somebody has lost leaves nobody behind. -/
theorem settled_addEntryTo (horderly : Books.Orderly ⟨server.stock, ledger⟩)
    {registry : RegistryId} (hregistry : registry < server.registries.length) {id : RequestId}
    (hlive : id ∈ server.live) (name scope : String) {job : Job}
    (h : ∀ other ∈ server.live, other ∈ job.held ∨ server.isHeld other) :
    (server.addEntryTo registry id name scope job).2.Settled := by
  have hadded : Books.Orderly ⟨(server.addEntryTo registry id name scope job).2.stock, ledger⟩ :=
    horderly.add registry ⟨id, scope⟩ hlive _
  intro other hother
  rw [isHeld_iff hadded.registries]
  rcases h other hother with hgiven | hheld
  -- The new entry has the handle.
  · refine .inr ⟨registry, ⟨id, scope⟩, ⟨name, server.clock, job⟩, ?_,
      List.contains_iff_mem.mpr hgiven⟩
    rw [Waits, entries_addEntryTo hregistry, if_pos ⟨rfl, rfl⟩]
    exact List.mem_append_right _ (List.mem_singleton_self _)
  · refine ((isHeld_iff horderly.registries).mp hheld).imp_right ?_
    rintro ⟨place, slot, entry, hentry, hholds⟩
    refine ⟨place, slot, entry, ?_, hholds⟩
    rw [Waits, entries_addEntryTo hregistry]
    split
    · exact List.mem_append_left _ hentry
    · exact hentry

/-- So does one that gets the handles that are taken out of the table for it. -/
theorem settled_takeHandles_addEntryTo (h : server.Settled)
    (horderly : Books.Orderly ⟨server.stock, ledger⟩) {registry : RegistryId}
    (hregistry : registry < server.registries.length) {id : RequestId} (hlive : id ∈ server.live)
    (name scope : String) (places : List Nat) (panicOnCall : Option Panic) (acts : List Act) :
    ((server.takeHandles places).2.addEntryTo registry id name scope
      ⟨(server.takeHandles places).1, panicOnCall, acts⟩).2.Settled := by
  have hsame : (server.takeHandles places).2.live = server.live :=
    same_takeHandles (·.live) (fun _ _ => rfl) server places
  have hlength : (server.takeHandles places).2.registries.length = server.registries.length :=
    same_takeHandles (·.registries.length) (fun _ _ => rfl) server places
  rw [← hlength] at hregistry
  rw [← hsame] at hlive
  refine settled_addEntryTo (orderly_takeHandles horderly places) hregistry hlive name scope ?_
  rw [hsame]
  exact fun other hother => isHeld_takeHandles places (h other hother)

/-- Whatever is done leaves nobody behind. -/
theorem settled_undertake (h : server.Settled) (horderly : Books.Orderly ⟨server.stock, ledger⟩)
    (errand : Errand) : (server.undertake errand).Settled := by
  cases errand with
  | does event hwhole => exact settled_happen h hwhole
  | adds id name scope places panicOnCall acts =>
    dsimp only [undertake]
    split
    case isTrue hhas =>
      have hlive : id ∈ server.live := horderly.holders id hhas
      have hhome : (server.request id).registry < server.registries.length := by
        rw [← home_stock]
        exact horderly.home_lt hlive
      have hsame : (server.takeHandles places).2.request id = server.request id :=
        same_takeHandles (·.request id) (fun _ _ => rfl) server places
      rw [addEntry, hsame]
      exact settled_takeHandles_addEntryTo h horderly hhome hlive name scope places _ acts
    case isFalse => exact h

/-! ### The ledger -/

/-- Tasks take their turns. -/
def Errand.IsTurn : Errand → Prop
  | .does event _ => event.IsTurn
  | .adds .. => False

/-- What is entered in the ledger on behalf of whoever does something. -/
def Errand.entered (server : Server) (ledger : Ledger) : Errand → Ledger
  | .does event _ => event.entered server ledger
  | .adds id name scope places panicOnCall acts =>
    if id ∈ server.holders then
      ledger.register ⟨id, scope⟩
        ⟨name, server.clock, ⟨(server.takeHandles places).1, panicOnCall, acts⟩⟩
    else ledger

/-- The ledger is carried on as it should be when something is done. -/
structure Errand.CarriesOn (server : Server) (ledger : Ledger) (errand : Errand)
    (ledger' : Ledger) : Prop where
  /-- What is done amounts to deeds. -/
  deeds : Deeds ⟨server.stock, ledger⟩ ⟨(server.undertake errand).stock, ledger'⟩
  /-- It is known what is entered, turns apart. -/
  entered : ¬errand.IsTurn →
    ledger' = (errand.entered server ledger).lose (server.undertake errand).live

/-- The ledger can be carried on whatever is done. -/
theorem exists_carriesOn_undertake (h : Books.Orderly ⟨server.stock, ledger⟩)
    (hcurrent : server.current = none) (errand : Errand) :
    ∃ ledger', errand.CarriesOn server ledger ledger' := by
  cases errand with
  | does event hwhole =>
    obtain ⟨ledger', hcarries⟩ := exists_carriesOn h hcurrent event
    exact ⟨ledger', hcarries.deeds, hcarries.entered⟩
  | adds id name scope places panicOnCall acts =>
    refine ⟨_, ?_, fun _ => rfl⟩
    dsimp only [undertake, Errand.entered]
    split
    case isTrue hhas =>
      -- The handles are taken out of the table first, which is in no ledger.
      have htaken := silent_takeHandles server places ledger h
      have hlive : id ∈ (server.takeHandles places).2.live := by
        rw [same_takeHandles (·.live) (fun _ _ => rfl)]
        exact h.holders id hhas
      have hadded := deeds_addEntry ledger hlive name scope
        ⟨(server.takeHandles places).1, panicOnCall, acts⟩
      rw [same_takeHandles (·.clock) (fun _ _ => rfl)] at hadded
      exact Deeds.lose (htaken.trans (.single hadded)) h
    case isFalse => exact (Stock.Silent.of_eq rfl).deeds h

theorem current_undertake (hcurrent : server.current = none) (errand : Errand) :
    (server.undertake errand).current = none := by
  cases errand with
  | does event hwhole => exact current_happen hcurrent event
  | adds id name scope places panicOnCall acts =>
    dsimp only [undertake]
    split
    · exact (same_takeHandles (·.current) (fun _ _ => rfl) server places).trans hcurrent
    · exact hcurrent

/-! ### Whatever has been done -/

/-- The books balance whatever has been done, and it is nobody's turn. -/
theorem exists_balanced_serve (errands : List Errand) :
    (∃ ledger, Books.Balanced ⟨(fresh.serve errands).stock, ledger⟩) ∧
      (fresh.serve errands).current = none := by
  induction errands using List.reverseRecOn with
  | nil => exact ⟨⟨[], balanced_fresh⟩, rfl⟩
  | append_singleton errands errand ih =>
    obtain ⟨⟨ledger, hbalanced⟩, hcurrent⟩ := ih
    obtain ⟨ledger', hcarries⟩ := exists_carriesOn_undertake hbalanced.orderly hcurrent errand
    rw [serve_concat]
    exact ⟨⟨ledger', hcarries.deeds.balanced hbalanced⟩, current_undertake hcurrent errand⟩

theorem settled_serve (errands : List Errand) : (fresh.serve errands).Settled := by
  induction errands using List.reverseRecOn with
  | nil => rintro _ ⟨⟩
  | append_singleton errands errand ih =>
    obtain ⟨⟨ledger, hbalanced⟩, -⟩ := exists_balanced_serve errands
    rw [serve_concat]
    exact settled_undertake ih hbalanced.orderly errand

end Server

end Inbound
