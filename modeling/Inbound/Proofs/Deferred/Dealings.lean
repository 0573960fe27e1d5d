import Inbound.Proofs.Deferred.Order

/-!
# What servers do with deferred work

Every operation of a server amounts to deeds. What whoever has a request can do is known exactly:
the deed itself, and then whatever is lost because a last handle has gone, and with it perhaps the
last handle on another request. All this takes nothing out of anyone's hands, so whoever is in the
middle of something can go on with it afterwards.

## Main results

* `Stock.Becomes`: a change amounts to deeds; `Stock.Goes`: it takes nothing out of any hands;
* `Server.deeds_settle`: a cascade of releases loses what was pending for the requests that went,
  and nothing else;
* `Server.deeds_addEntry`, `Server.deeds_execute`, `Server.deeds_clearEntries`: what is entered in
  the ledger when someone registers, executes and clears.
-/

namespace Inbound

open Deferred

/-- What was pending for requests that have gone has been thrown away already. -/
theorem Deeds.lose {stock stock' : Stock} {ledger ledger' : Ledger}
    (deeds : Deeds ⟨stock, ledger⟩ ⟨stock', ledger'⟩) (h : Books.Orderly ⟨stock, ledger⟩) :
    Deeds ⟨stock, ledger⟩ ⟨stock', ledger'.lose stock'.live⟩ := by
  have hlive := (deeds.orderly h).alive
  rw [Ledger.lose_eq_self hlive]
  exact deeds

namespace Stock

/-! ### Changes -/

/-- If the books balance before, the change from one stock to the other amounts to deeds. -/
def Becomes (stock stock' : Stock) : Prop :=
  ∀ ledger, Books.Orderly ⟨stock, ledger⟩ →
    ∃ ledger', Deeds ⟨stock, ledger⟩ ⟨stock', ledger'⟩

namespace Becomes

theorem refl (stock : Stock) : stock.Becomes stock :=
  fun ledger _ => ⟨ledger, .refl⟩

theorem trans {a b c : Stock} (hab : a.Becomes b) (hbc : b.Becomes c) : a.Becomes c := by
  intro ledger h
  obtain ⟨ledger', hdeeds⟩ := hab ledger h
  obtain ⟨ledger'', hdeeds'⟩ := hbc ledger' (hdeeds.orderly h)
  exact ⟨ledger'', hdeeds.trans hdeeds'⟩

/-- One deed is a change. -/
theorem of_deed {stock stock' : Stock}
    (h : ∀ ledger, Books.Orderly ⟨stock, ledger⟩ →
      ∃ ledger', Deed ⟨stock, ledger⟩ ⟨stock', ledger'⟩) : stock.Becomes stock' := by
  intro ledger horderly
  obtain ⟨ledger', hdeed⟩ := h ledger horderly
  exact ⟨ledger', .single hdeed⟩

theorem ends (stock : Stock) (task : TaskId) : stock.Becomes (stock.setStake task none) :=
  of_deed fun ledger _ => ⟨ledger, .ends task⟩

end Becomes

/-- If the books balance before, the change amounts to deeds of which nothing has to be entered in
the ledger. -/
def Silent (stock stock' : Stock) : Prop :=
  ∀ ledger, Books.Orderly ⟨stock, ledger⟩ → Deeds ⟨stock, ledger⟩ ⟨stock', ledger⟩

namespace Silent

/-- Nothing has been done to deferred work. -/
theorem of_eq {stock stock' : Stock} (h : stock' = stock) : stock.Silent stock' := by
  intro ledger _
  rw [h]

theorem of_deed {stock stock' : Stock} (h : ∀ ledger, Deed ⟨stock, ledger⟩ ⟨stock', ledger⟩) :
    stock.Silent stock' :=
  fun ledger _ => .single (h ledger)

theorem trans {a b c : Stock} (hab : a.Silent b) (hbc : b.Silent c) : a.Silent c := by
  intro ledger h
  have hdeeds := hab ledger h
  exact hdeeds.trans (hbc ledger (hdeeds.orderly h))

theorem becomes {stock stock' : Stock} (h : stock.Silent stock') : stock.Becomes stock' :=
  fun ledger horderly => ⟨ledger, h ledger horderly⟩

/-- Then nothing is lost either. -/
theorem deeds {stock stock' : Stock} (h : stock.Silent stock') {ledger : Ledger}
    (horderly : Books.Orderly ⟨stock, ledger⟩) :
    Deeds ⟨stock, ledger⟩ ⟨stock', ledger.lose stock'.live⟩ :=
  (h ledger horderly).lose horderly

end Silent

/-- The change amounts to deeds, no task loses anything, and it is still the turn of the same. -/
structure Goes (stock stock' : Stock) : Prop where
  /-- It amounts to deeds. -/
  becomes : stock.Becomes stock'
  /-- New tasks may have come, and the others have in their hands what they had. -/
  stakes : stock.stakes <+: stock'.stakes
  /-- The turn goes on. -/
  current : stock'.current = stock.current

namespace Goes

theorem refl (stock : Stock) : stock.Goes stock := ⟨.refl _, List.prefix_rfl, rfl⟩

/-- Nothing has been done to deferred work. -/
theorem of_eq {stock stock' : Stock} (h : stock' = stock) : stock.Goes stock' := by
  rw [h]
  exact .refl _

theorem trans {a b c : Stock} (hab : a.Goes b) (hbc : b.Goes c) : a.Goes c :=
  ⟨hab.becomes.trans hbc.becomes, hab.stakes.trans hbc.stakes, hbc.current.trans hab.current⟩

/-- A task has in its hands what it had. -/
theorem getElem?_stakes {stock stock' : Stock} (h : stock.Goes stock') {task : TaskId}
    {stake : Option Stake} (hstake : stock.stakes[task]? = some stake) :
    stock'.stakes[task]? = some stake := by
  obtain ⟨added, hadded⟩ := h.stakes
  rw [← hadded, List.getElem?_append_left (List.getElem?_eq_some_iff.mp hstake).1]
  exact hstake

end Goes

/-- Some task has its hands on a request. -/
def Engaged (stock : Stock) (request : RequestId) : Prop :=
  ∃ stake, some stake ∈ stock.stakes ∧ stake.request = request

theorem Engaged.mono {stock stock' : Stock} {request : RequestId} (h : stock.Engaged request)
    (hgoes : stock.Goes stock') : stock'.Engaged request := by
  obtain ⟨stake, hstake, hrequest⟩ := h
  exact ⟨stake, hgoes.stakes.subset hstake, hrequest⟩

/-- A request is alive as long as a task has its hands on it. -/
theorem Engaged.live {stock : Stock} {ledger : Ledger} {request : RequestId}
    (h : stock.Engaged request) (horderly : Books.Orderly ⟨stock, ledger⟩) :
    request ∈ stock.live := by
  obtain ⟨stake, hstake, rfl⟩ := h
  exact horderly.engaged stake hstake

end Stock

namespace Server

/-! ### Releases -/

theorem stock_release (server : Server) (id : RequestId) :
    (server.release id).stock = server.stock.drop id := by
  have hhome := home_stock server id
  rw [Stock.drop, Stock.discard, hhome]
  unfold release
  dsimp only
  split <;> rfl

/-- A request that nobody holds is in nobody's hands. -/
theorem not_isHeld {server : Server} {id : RequestId} (h : server.isHeld id = false) :
    id ∉ server.stock.holders ∧ ∀ stake, some stake ∈ server.stock.stakes → stake.request ≠ id := by
  -- A request is held by handles, calls, scoped futures, tasks and entries that are pending.
  simp only [isHeld, Bool.or_eq_false_iff] at h
  obtain ⟨⟨⟨⟨hhandles, -⟩, hwithin⟩, htasks⟩, -⟩ := h
  constructor
  · intro hholder
    rcases List.mem_append.mp hholder with hhandle | hscope
    · obtain ⟨handle, hhandle, heq⟩ := List.mem_filterMap.mp hhandle
      cases heq
      exact Bool.false_ne_true (hhandles.symm.trans (List.contains_iff_mem.mpr hhandle))
    · exact Bool.false_ne_true (hwithin.symm.trans (List.contains_iff_mem.mpr hscope))
  · intro stake hstake heq
    obtain ⟨task, htask⟩ := List.getElem?_of_mem hstake
    rw [getElem?_stakes] at htask
    obtain ⟨found, hfound, hactivity⟩ := Option.map_eq_some_iff.mp htask
    have hholds := Activity.holds_of_stake? hactivity
    rw [heq] at hholds
    exact Bool.false_ne_true
      (htasks.symm.trans (List.any_eq_true.mpr ⟨found, List.mem_of_getElem? hfound, hholds⟩))

/-- A request that nobody has goes. -/
theorem deed_release {server : Server} {id : RequestId}
    (h : server.live.find? (!server.isHeld ·) = some id) (ledger : Ledger) :
    Deed ⟨server.stock, ledger⟩ ⟨(server.release id).stock, ledger.discard id⟩ := by
  have hlive : id ∈ server.live := List.mem_of_find?_eq_some h
  have hfree : server.isHeld id = false := by simpa using List.find?_some h
  obtain ⟨hholders, hstakes⟩ := not_isHeld hfree
  rw [stock_release]
  exact .drops hlive hholders hstakes

theorem live_settle (server : Server) : server.settle.live ⊆ server.live := by
  -- A cascade only ever takes requests away.
  induction server using settle.induct with
  | case1 server hnone =>
    rw [settle, hnone]
    exact List.Subset.refl _
  | case2 server id hid ih =>
    rw [settle, hid]
    refine List.Subset.trans ih ?_
    rw [live_release]
    exact List.erase_subset

/-- Requests that nobody has any more go one after the other, and what was pending for them is
lost. -/
theorem deeds_settle (server : Server) {ledger : Ledger}
    (h : Books.Orderly ⟨server.stock, ledger⟩) :
    Deeds ⟨server.stock, ledger⟩ ⟨server.settle.stock, ledger.lose server.settle.live⟩ := by
  -- The recursion is that of the cascade: each release may take the last handle off others.
  induction server using settle.induct generalizing ledger with
  | case1 server hnone =>
    have hlive : ∀ record ∈ ledger, record.fate = .pending →
        record.slot.request ∈ server.live := h.alive
    rw [settle, hnone]
    dsimp only
    rw [Ledger.lose_eq_self hlive]
  | case2 server id hid ih =>
    have hdeed := deed_release hid ledger
    have hrest := ih (hdeed.orderly h)
    -- A request that has gone does not come back.
    have hgone : id ∉ (server.release id).settle.live := by
      intro hback
      have hreleased := live_settle _ hback
      rw [live_release] at hreleased
      exact h.live_nodup.not_mem_erase hreleased
    rw [Ledger.lose_discard ledger hgone] at hrest
    rw [settle, hid]
    exact .head hdeed hrest

/-- What is done silently before a cascade of releases makes no difference to what is lost. -/
theorem deeds_settle_of_silent {server server' : Server} {ledger : Ledger}
    (hsilent : server.stock.Silent server'.stock) (h : Books.Orderly ⟨server.stock, ledger⟩) :
    Deeds ⟨server.stock, ledger⟩ ⟨server'.settle.stock, ledger.lose server'.settle.live⟩ := by
  have hdeeds := hsilent ledger h
  exact hdeeds.trans (deeds_settle server' (hdeeds.orderly h))

theorem stakes_settle (server : Server) : server.settle.stock.stakes = server.stock.stakes := by
  -- A request that goes was in nobody's hands, so nothing is taken out of any.
  induction server using settle.induct with
  | case1 server hnone =>
    rw [settle, hnone]
  | case2 server id hid ih =>
    have hsame := congrArg Stock.stakes (stock_release server id)
    rw [settle, hid]
    exact ih.trans hsame

theorem current_settle (server : Server) : server.settle.current = server.current := by
  induction server using settle.induct with
  | case1 server hnone =>
    rw [settle, hnone]
  | case2 server id hid ih =>
    have hsame := congrArg Stock.current (stock_release server id)
    rw [settle, hid]
    exact ih.trans hsame

/-- A cascade of releases takes nothing out of any hands. -/
theorem goes_settle (server : Server) : server.stock.Goes server.settle.stock := by
  refine ⟨fun ledger h => ⟨_, deeds_settle server h⟩, ?_, current_settle server⟩
  simp only [stakes_settle, List.prefix_rfl]

/-! ### Registering, executing and clearing -/

theorem deeds_addEntry {server : Server} (ledger : Ledger) {id : RequestId}
    (hlive : id ∈ server.live) (name scope : String) (job : Job) :
    Deed ⟨server.stock, ledger⟩ ⟨(server.addEntry id name scope job).2.stock,
      ledger.register ⟨id, scope⟩ ⟨name, server.clock, job⟩⟩ := by
  have hstock : (server.addEntry id name scope job).2.stock =
      server.stock.register ⟨id, scope⟩ ⟨name, server.clock, job⟩ := by
    rw [Stock.register, home_stock]
    rfl
  rw [hstock]
  exact .registers hlive

/-- An entry that runs may register another for its own request. -/
theorem goes_addEntry {server : Server} {id : RequestId} (h : server.stock.Engaged id)
    (name scope : String) (job : Job) :
    server.stock.Goes (server.addEntry id name scope job).2.stock :=
  ⟨.of_deed fun _ horderly => ⟨_, deeds_addEntry _ (h.live horderly) name scope job⟩,
    List.prefix_rfl, rfl⟩

/-- Without a runtime nothing is executed, and everything stays as it is. -/
theorem executeFrom_of_none {server : Server} {id : RequestId} {ambient : Option RuntimeId}
    (h : ((server.request id).runtime <|> ambient) = none) (registry : RegistryId)
    (scope : String) :
    server.executeFrom registry id scope ambient = (.error .noRuntime, server) := by
  rw [executeFrom, h]

theorem execute_of_none {server : Server} {id : RequestId} {ambient : Option RuntimeId}
    (h : ((server.request id).runtime <|> ambient) = none) (scope : String) :
    server.execute id scope ambient = (.error .noRuntime, server) :=
  executeFrom_of_none h _ scope

/-- The server right after all that stands in a slot of a registry has been handed to a new task. -/
def handOverFrom (server : Server) (registry : RegistryId) (id : RequestId) (scope : String)
    (runtime : RuntimeId) : Server :=
  let taken := (server.registry registry).take ⟨id, scope⟩
  let server := server.setRegistry registry taken.2
  (server.spawn runtime (.executing ⟨id, taken.1, 0, 0, .start scope⟩)
    (server.currentRuntime = some runtime)).2

/-- The server right after all that is pending in a slot has been handed to a new task. -/
def handOver (server : Server) (id : RequestId) (scope : String) (runtime : RuntimeId) : Server :=
  server.handOverFrom (server.request id).registry id scope runtime

/-- With a runtime a slot is executed, and then the requests go that nobody has any more. -/
theorem executeFrom_of_some {server : Server} {id : RequestId} {ambient : Option RuntimeId}
    {runtime : RuntimeId} (h : ((server.request id).runtime <|> ambient) = some runtime)
    (registry : RegistryId) (scope : String) :
    server.executeFrom registry id scope ambient =
      (.ok server.tasks.length, (server.handOverFrom registry id scope runtime).settle) := by
  rw [executeFrom, h]
  unfold handOverFrom spawn
  dsimp only
  split <;> rfl

theorem execute_of_some {server : Server} {id : RequestId} {ambient : Option RuntimeId}
    {runtime : RuntimeId} (h : ((server.request id).runtime <|> ambient) = some runtime)
    (scope : String) :
    server.execute id scope ambient =
      (.ok server.tasks.length, (server.handOver id scope runtime).settle) :=
  executeFrom_of_some h _ scope

/-- The new task has in its hands what stood in the slot unless its runtime has been shut down. -/
theorem stock_handOverFrom (server : Server) (registry : RegistryId) (id : RequestId)
    (scope : String) (runtime : RuntimeId) :
    (server.handOverFrom registry id scope runtime).stock =
      (server.stock.setRegistry registry
        ((server.stock.registry registry).take ⟨id, scope⟩).2).spawn
          (if (server.runtime runtime).alive then
            some (.holding id ((server.stock.registry registry).take ⟨id, scope⟩).1)
          else none) := by
  rw [handOverFrom, stock_spawn]
  rfl

theorem stock_handOver (server : Server) (id : RequestId) (scope : String) (runtime : RuntimeId) :
    (server.handOver id scope runtime).stock = (server.stock.take ⟨id, scope⟩).spawn
      (if (server.runtime runtime).alive then
        some (.holding id
          ((server.stock.registry (server.stock.home id)).take ⟨id, scope⟩).1)
      else none) := by
  rw [handOver, stock_handOverFrom, Stock.take, home_stock]

theorem deed_handOver {server : Server} {ledger : Ledger} {id : RequestId}
    (hlive : id ∈ server.live) (scope : String) (runtime : RuntimeId) :
    Deed ⟨server.stock, ledger⟩
      ⟨(server.handOver id scope runtime).stock, ledger.hand ⟨id, scope⟩ server.tasks.length⟩ := by
  rw [stock_handOver, ← length_stakes]
  refine .hands hlive fun given hgiven => ?_
  split at hgiven
  · exact (Option.some.inj hgiven).symm
  · cases hgiven

/-- An execution is handed all that is pending in its slot; what goes then was held by nobody
else. -/
theorem deeds_execute {server : Server} {ledger : Ledger} {id : RequestId}
    {ambient : Option RuntimeId} {runtime : RuntimeId}
    (h : Books.Orderly ⟨server.stock, ledger⟩) (hlive : id ∈ server.live)
    (hruntime : ((server.request id).runtime <|> ambient) = some runtime) (scope : String) :
    Deeds ⟨server.stock, ledger⟩ ⟨(server.execute id scope ambient).2.stock,
      (ledger.hand ⟨id, scope⟩ server.tasks.length).lose
        (server.execute id scope ambient).2.live⟩ := by
  have hdeed : Deed ⟨server.stock, ledger⟩ ⟨(server.handOver id scope runtime).stock, _⟩ :=
    deed_handOver hlive scope runtime
  rw [execute_of_some hruntime]
  exact .head hdeed (deeds_settle _ (hdeed.orderly h))

/-- An entry that runs may execute a slot of its own request. -/
theorem goes_execute {server : Server} {id : RequestId} (h : server.stock.Engaged id)
    (scope : String) (ambient : Option RuntimeId) :
    server.stock.Goes (server.execute id scope ambient).2.stock := by
  -- Without a runtime nothing happens. With one there is a new task, and no other loses anything.
  rcases hruntime : ((server.request id).runtime <|> ambient) with - | runtime
  · rw [execute_of_none hruntime]
    exact .refl _
  · rw [execute_of_some hruntime]
    refine .trans ⟨.of_deed fun ledger horderly => ?_, ?_, ?_⟩ (goes_settle _)
    · exact ⟨_, deed_handOver (h.live horderly) scope runtime⟩
    · rw [stock_handOver]
      exact List.prefix_append _ _
    · rw [stock_handOver]
      rfl

/-- The registry of a request that is alive is cleared of what is pending for the request. -/
theorem deed_discard {server : Server} {id : RequestId} (hlive : id ∈ server.live)
    (ledger : Ledger) :
    Deed ⟨server.stock, ledger⟩ ⟨(server.setRegistry (server.request id).registry
      ((server.registry (server.request id).registry).discard id).2).stock, ledger.discard id⟩ := by
  have hstock : (server.setRegistry (server.request id).registry
      ((server.registry (server.request id).registry).discard id).2).stock =
        server.stock.discard id := by
    rw [Stock.discard, home_stock]
    rfl
  rw [hstock]
  exact .clears hlive

/-- Clearing throws away all that is pending for the request; what goes then was held by nobody
else. -/
theorem deeds_clearEntries {server : Server} {ledger : Ledger} {id : RequestId}
    (h : Books.Orderly ⟨server.stock, ledger⟩) (hlive : id ∈ server.live) :
    Deeds ⟨server.stock, ledger⟩ ⟨(server.clearEntries id).2.stock,
      (ledger.discard id).lose (server.clearEntries id).2.live⟩ := by
  -- The registry is cleared first. What the entries held may go only then.
  have hdeed := deed_discard hlive ledger
  exact .head hdeed (deeds_settle _ (hdeed.orderly h))

/-! ### Handles -/

theorem silent_newRegistry (server : Server) : server.stock.Silent server.newRegistry.2.stock :=
  .of_deed fun _ => .opens

theorem mem_holders {server : Server} {request : RequestId} :
    request ∈ server.holders ↔ some request ∈ server.handles ∨ request ∈ server.within := by
  simp [holders]

/-- Handles may come and go, as long as there is none on a request that nobody has. -/
theorem silent_of_holders {server server' : Server}
    (hstock : server'.stock = { server.stock with holders := server'.holders })
    (h : ∀ request ∈ server'.holders, request ∈ server.holders) :
    server.stock.Silent server'.stock := by
  intro ledger horderly
  rw [hstock]
  exact .single (.holds fun request hrequest => horderly.holders request (h request hrequest))

/-- A request is made, and someone has a handle on it. -/
theorem silent_build {server : Server} {request : Request}
    (h : request.registry < server.registries.length) :
    server.stock.Silent (server.build request).2.stock := by
  -- The number of the new request is that of the requests there have been.
  have hbuilt : (server.newRequest request).2.stock = server.stock.build request.registry := by
    have hlength : server.stock.homes.length = server.requests.length := List.length_map _
    rw [Stock.build, hlength]
    show Stock.mk _ ((server.requests ++ [request]).map _) _ _ _ _ _ = _
    rw [List.map_append]
    rfl
  intro ledger horderly
  have hdeed : Deed ⟨server.stock, ledger⟩ ⟨(server.newRequest request).2.stock, ledger⟩ := by
    rw [hbuilt]
    exact .builds h
  -- The new request is alive, and so is what there has been a handle on.
  refine .tail (.single hdeed) (.holds fun other hother => ?_)
  have hheld := (hdeed.orderly horderly).holders
  rcases mem_holders.mp hother with hhandle | hscope
  · rcases List.mem_append.mp hhandle with hhandle | hnew
    · exact hheld other (mem_holders.mpr (.inl hhandle))
    · cases List.mem_singleton.mp hnew
      exact List.mem_append_right _ (List.mem_singleton_self _)
  · exact hheld other (mem_holders.mpr (.inr hscope))

/-- Whoever has a request may make another handle on it. -/
theorem silent_clone {server : Server} {id : RequestId} (h : id ∈ server.holders) :
    server.stock.Silent (server.clone id).2.stock := by
  refine silent_of_holders rfl fun request hrequest => ?_
  -- Only the new handle has not been in the table before.
  rcases mem_holders.mp hrequest with hhandle | hscope
  · rcases List.mem_append.mp hhandle with hhandle | hnew
    · exact mem_holders.mpr (.inl hhandle)
    · cases List.mem_singleton.mp hnew
      exact h
  · exact mem_holders.mpr (.inr hscope)

/-- A handle leaves the table. -/
theorem silent_takeHandle (server : Server) (index : Nat) :
    server.stock.Silent (server.takeHandle index).stock := by
  refine silent_of_holders rfl fun request hrequest => mem_holders.mpr ?_
  rcases mem_holders.mp hrequest with hhandle | hscope
  · rcases List.mem_or_eq_of_mem_set hhandle with hhandle | hnone
    · exact .inl hhandle
    · cases hnone
  · exact .inr hscope

/-- A future is made that has a handle on a request. -/
theorem silent_openScope {server : Server} {id : RequestId} (h : id ∈ server.holders) :
    server.stock.Silent (server.openScope id).stock := by
  refine silent_of_holders rfl fun request hrequest => ?_
  rcases mem_holders.mp hrequest with hhandle | hscope
  · exact mem_holders.mpr (.inl hhandle)
  · rcases List.mem_cons.mp hscope with rfl | hscope
    · exact h
    · exact mem_holders.mpr (.inr hscope)

/-- A future that had a handle on a request is gone. -/
theorem deeds_closeScope {server : Server} {ledger : Ledger} (id : RequestId)
    (h : Books.Orderly ⟨server.stock, ledger⟩) :
    Deeds ⟨server.stock, ledger⟩
      ⟨(server.closeScope id).stock, ledger.lose (server.closeScope id).live⟩ := by
  refine deeds_settle_of_silent (silent_of_holders rfl fun request hrequest => ?_) h
  exact mem_holders.mpr ((mem_holders.mp hrequest).imp_right List.mem_of_mem_erase)

/-! ### Body calls -/

/-- A call on a body is abandoned. -/
theorem stock_abandonCall (server : Server) (id : RequestId) (call : Call) :
    (server.onRequest id fun request => ((), request.abandonCall call)).2.stock = server.stock :=
  stock_onRequest fun request => registry_abandonCall request call

theorem stock_startCall (server : Server) (id : RequestId) (wanted : BodyCall) :
    (server.startCall id wanted).2.stock = server.stock := by
  unfold startCall
  exact stock_onRequest fun request =>
    (registry_pollCall _ _).trans (registry_beginCall request wanted)

theorem deeds_pollKept {server : Server} {ledger : Ledger} (index : Nat)
    (h : Books.Orderly ⟨server.stock, ledger⟩) :
    Deeds ⟨server.stock, ledger⟩
      ⟨(server.pollKept index).2.stock, ledger.lose (server.pollKept index).2.live⟩ := by
  unfold pollKept
  split
  case h_1 => exact (Stock.Silent.of_eq rfl).deeds h
  case h_2 id call _ =>
    have hpoll := stock_pollCall server id call
    generalize server.onRequest id _ = polled at hpoll ⊢
    exact deeds_settle_of_silent (.of_eq hpoll) h

theorem current_pollKept (server : Server) (index : Nat) :
    (server.pollKept index).2.current = server.current := by
  unfold pollKept
  split
  case h_1 => rfl
  case h_2 id call _ =>
    have hpoll := congrArg Stock.current (stock_pollCall server id call)
    generalize server.onRequest id _ = polled at hpoll ⊢
    exact (current_settle _).trans hpoll

/-- A call that is dropped is nothing to deferred work, but requests may go with it. -/
theorem dropKept_cases (server : Server) (index : Nat) :
    (server.dropKept index).2 = server ∨
      ∃ dropped : Server, dropped.stock = server.stock ∧
        (server.dropKept index).2 = dropped.settle := by
  unfold dropKept
  split
  case h_1 => exact .inl rfl
  case h_2 id call _ =>
    have habandon := stock_abandonCall server id call
    generalize server.onRequest id _ = dropped at habandon ⊢
    exact .inr ⟨{ dropped.2 with calls := dropped.2.calls.set index none }, habandon, rfl⟩

theorem deeds_dropKept {server : Server} {ledger : Ledger} (index : Nat)
    (h : Books.Orderly ⟨server.stock, ledger⟩) :
    Deeds ⟨server.stock, ledger⟩
      ⟨(server.dropKept index).2.stock, ledger.lose (server.dropKept index).2.live⟩ := by
  obtain hsame | ⟨dropped, hstock, hdone⟩ := server.dropKept_cases index
  · rw [hsame]
    exact (Stock.Silent.of_eq rfl).deeds h
  · rw [hdone]
    exact deeds_settle_of_silent (.of_eq hstock) h

theorem live_dropKept (server : Server) (index : Nat) :
    (server.dropKept index).2.live ⊆ server.live := by
  obtain hsame | ⟨dropped, hstock, hdone⟩ := server.dropKept_cases index
  · rw [hsame]
    exact List.Subset.refl _
  · have hlive : dropped.live = server.live := congrArg Stock.live hstock
    rw [hdone, ← hlive]
    exact live_settle dropped

theorem stakes_dropKept (server : Server) (index : Nat) :
    (server.dropKept index).2.stock.stakes = server.stock.stakes := by
  obtain hsame | ⟨dropped, hstock, hdone⟩ := server.dropKept_cases index
  · rw [hsame]
  · rw [hdone, stakes_settle, hstock]

theorem current_dropKept (server : Server) (index : Nat) :
    (server.dropKept index).2.current = server.current := by
  obtain hsame | ⟨dropped, hstock, hdone⟩ := server.dropKept_cases index
  · rw [hsame]
  · rw [hdone, current_settle]
    exact congrArg Stock.current hstock

end Server

end Inbound
