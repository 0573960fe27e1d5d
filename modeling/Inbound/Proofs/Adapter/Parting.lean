import Inbound.Proofs.Adapter.Desk

/-!
# What a call lets go of

A call of a service has two handles on its request, one for itself and one for the scope around the
future of its handler. All else that is kept for the call is kept by that future. When the call is
over, the future goes first and lets go of everything that it has. Then the scope goes, and what is
pending in the default scope is executed if the handler has answered. The handle of the call itself
goes last, so until then the request is there. In the end nothing of what the call had is left in
the tables, and the others have what they had.

## Main results

* `Service.LetsGo`: what becomes of the tables when somebody lets go of some belongings;
* `Service.Fits.letsGo`: the future of a handler lets go of what it has;
* `Service.Fits.fails`, `Service.Fits.answers`: a call is over without an answer, or with one.
-/

namespace Inbound

open Deferred

namespace Server

/-! ### Tables -/

/-- A cascade of releases keeps what a single release keeps. -/
theorem same_settle {β : Type} (part : Server → β)
    (h : ∀ server id, part (release server id) = part server) (server : Server) :
    part server.settle = part server := by
  induction server using settle.induct with
  | case1 server hnone => rw [settle, hnone]
  | case2 server id hid ih =>
    rw [settle, hid]
    exact ih.trans (h server id)

theorem tables_settle (server : Server) : server.settle.tables = server.tables := by
  refine same_settle tables (fun server id => ?_) server
  unfold release
  dsimp only
  split <;> rfl

theorem tasks_settle (server : Server) : server.settle.tasks = server.tasks := by
  refine same_settle tasks (fun server id => ?_) server
  unfold release
  dsimp only
  split <;> rfl

theorem tables_closeScope (server : Server) (id : RequestId) :
    (server.closeScope id).tables =
      (server.tables.1, server.tables.2.1, server.tables.2.2.erase id) :=
  tables_settle _

theorem tasks_closeScope (server : Server) (id : RequestId) :
    (server.closeScope id).tasks = server.tasks :=
  tasks_settle _

/-- An execution gets its entries from a registry, and nobody's handle. -/
theorem tables_execute (server : Server) (id : RequestId) (scope : String)
    (ambient : Option RuntimeId) : (server.execute id scope ambient).2.tables = server.tables := by
  rcases hruntime : ((server.request id).runtime <|> ambient) with - | runtime
  · rw [execute_of_none hruntime]
  · rw [execute_of_some hruntime, tables_settle, handOver, handOverFrom, spawn]
    dsimp only
    split <;> rfl

theorem live_execute (server : Server) (id : RequestId) (scope : String)
    (ambient : Option RuntimeId) : (server.execute id scope ambient).2.live ⊆ server.live := by
  rcases hruntime : ((server.request id).runtime <|> ambient) with - | runtime
  · rw [execute_of_none hruntime]
    exact List.Subset.refl _
  · have hstock := stock_handOverFrom server (server.request id).registry id scope runtime
    have hlive : (server.handOver id scope runtime).live = server.live :=
      congrArg Stock.live hstock
    rw [execute_of_some hruntime, ← hlive]
    exact live_settle _

/-- An execution is a new task. -/
theorem length_tasks_execute {server : Server} {id : RequestId} {ambient : Option RuntimeId}
    {runtime : RuntimeId} (h : ((server.request id).runtime <|> ambient) = some runtime)
    (scope : String) :
    (server.execute id scope ambient).2.tasks.length = server.tasks.length + 1 := by
  rw [execute_of_some h, tasks_settle, ← length_stakes, handOver, stock_handOverFrom,
    Stock.spawn, List.length_append]
  exact congrArg (· + 1) (length_stakes _)

/-- A call that is abandoned leaves its place. -/
theorem tables_dropKept (server : Server) (place : ℕ) :
    (server.dropKept place).2.tables =
      (server.handles, server.calls.set place none, server.within) := by
  unfold dropKept
  split
  case h_1 hnone =>
    -- There is nothing at the place, or there is no such place.
    have hsame : server.calls.set place none = server.calls := by
      refine List.ext_getElem? fun other => ?_
      rw [List.getElem?_set]
      split
      case isFalse => rfl
      case isTrue heq =>
        subst heq
        split
        case isTrue hlt =>
          rw [List.getElem?_eq_getElem hlt] at hnone ⊢
          exact congrArg some hnone.symm
        case isFalse hlt => exact (List.getElem?_eq_none (Nat.le_of_not_lt hlt)).symm
    rw [hsame]
    rfl
  case h_2 id call _ =>
    have hdropped := tables_onRequest server id fun request => ((), request.abandonCall call)
    generalize server.onRequest id _ = dropped at hdropped ⊢
    obtain ⟨hhandles, hcalls, hwithin⟩ := Prod.ext_iff.mp hdropped |>.imp_right Prod.ext_iff.mp
    refine (tables_settle _).trans ?_
    show (dropped.2.handles, dropped.2.calls.set place none, dropped.2.within) = _
    rw [show dropped.2.handles = server.handles from hhandles,
      show dropped.2.calls = server.calls from hcalls,
      show dropped.2.within = server.within from hwithin]

end Server

namespace Adapter.Service

variable {ρ : Type} {service : Service} {calls : List (Served ρ)} {server server' : Server}
  {ledger : Ledger}

/-! ### Belongings -/

/-- Some belongings are let go of, and nothing else. The scoped futures that calls have themselves
are nobody else's to let go. -/
structure LetsGo (calls : List (Served ρ)) (owned : List Belonging) (server server' : Server) :
    Prop where
  handles : ∀ place, server'.handle? place =
    if .handle place ∈ owned then none else server.handle? place
  reads : ∀ place, server'.calls[place]?.join =
    if .read place ∈ owned then none else server.calls[place]?.join
  scopes : ∀ id, server'.within.count id =
    max (own calls id) (server.within.count id - owned.count (.scope id))

/-- The tables when one thing has been let go of. -/
theorem tables_release (calls : List (Served ρ)) (server : Server) (belonging : Belonging) :
    (carryOut calls server belonging.release).tables =
      match belonging with
      | .handle place => (server.handles.set place none, server.calls, server.within)
      | .read place => (server.handles, server.calls.set place none, server.within)
      | .scope id => (server.handles, server.calls,
          if own calls id < server.within.count id then server.within.erase id
          else server.within) := by
  cases belonging with
  | handle place => exact Server.tables_settle (server.takeHandle place)
  | read place => exact Server.tables_dropKept server place
  | scope id =>
    dsimp only
    by_cases hfree : own calls id < server.within.count id
    · have hleaves : carryOut calls server (Belonging.scope id).release = server.closeScope id :=
        if_pos (decide_eq_true hfree)
      rw [hleaves, if_pos hfree]
      exact Server.tables_settle _
    · have hstays : carryOut calls server (Belonging.scope id).release = server :=
        if_neg fun htrue => hfree (of_decide_eq_true htrue)
      rw [hstays, if_neg hfree]
      rfl

theorem handle?_release (calls : List (Served ρ)) (server : Server) (belonging : Belonging)
    (place : ℕ) : (carryOut calls server belonging.release).handle? place =
      if belonging = .handle place then none else server.handle? place := by
  have htables := congrArg (fun tables => tables.1[place]?.join)
    (tables_release calls server belonging)
  refine Eq.trans htables ?_
  cases belonging with
  | handle other =>
    dsimp only
    rw [List.getElem?_set]
    by_cases heq : other = place
    · subst heq
      rw [if_pos rfl, if_pos rfl]
      split <;> rfl
    · rw [if_neg heq, if_neg fun h => heq (Belonging.handle.inj h)]
      rfl
  | read other => rfl
  | scope id => rfl

theorem read_release (calls : List (Served ρ)) (server : Server) (belonging : Belonging)
    (place : ℕ) : (carryOut calls server belonging.release).calls[place]?.join =
      if belonging = .read place then none else server.calls[place]?.join := by
  have htables := congrArg (fun tables => tables.2.1[place]?.join)
    (tables_release calls server belonging)
  refine Eq.trans htables ?_
  cases belonging with
  | handle other => rfl
  | read other =>
    dsimp only
    rw [List.getElem?_set]
    by_cases heq : other = place
    · subst heq
      rw [if_pos rfl, if_pos rfl]
      split <;> rfl
    · rw [if_neg heq, if_neg fun h => heq (Belonging.read.inj h)]
  | scope id => rfl

theorem count_release (calls : List (Served ρ)) (server : Server) (belonging : Belonging)
    (id : RequestId) : (carryOut calls server belonging.release).within.count id =
      if belonging = .scope id ∧ own calls id < server.within.count id then
        server.within.count id - 1
      else server.within.count id := by
  have htables := congrArg (fun tables => tables.2.2.count id)
    (tables_release calls server belonging)
  refine Eq.trans htables ?_
  cases belonging with
  | handle place => rfl
  | read place => rfl
  | scope other =>
    dsimp only
    by_cases heq : other = id
    · subst heq
      by_cases hfree : own calls other < server.within.count other
      · rw [if_pos hfree, if_pos ⟨rfl, hfree⟩, List.count_erase_self]
      · rw [if_neg hfree, if_neg (And.right.mt hfree)]
    · have hother : ¬(Belonging.scope other = .scope id ∧ own calls id < server.within.count id) :=
        fun h => heq (Belonging.scope.inj h.1)
      rw [if_neg hother]
      split
      · exact List.count_erase_of_ne (Ne.symm heq)
      · rfl

/-- The future of a handler lets go of what it has, and of nothing else. -/
theorem letsGo_letGo (owned : List Belonging)
    (hown : ∀ id, own calls id ≤ server.within.count id) :
    LetsGo calls owned server (letGo calls server owned) := by
  induction owned generalizing server with
  | nil =>
    refine ⟨fun _ => rfl, fun _ => rfl, fun id => ?_⟩
    exact (Nat.max_eq_right (hown id)).symm
  | cons belonging rest ih =>
    have hcount := count_release calls server belonging
    have hown' (id : RequestId) :
        own calls id ≤ (carryOut calls server belonging.release).within.count id := by
      rw [hcount]
      split
      · omega
      · exact hown id
    obtain ⟨hhandles, hreads, hscopes⟩ := ih hown'
    refine ⟨fun place => ?handles, fun place => ?reads, fun id => ?scopes⟩
    case handles =>
      refine (hhandles place).trans ?_
      rw [handle?_release]
      by_cases hfirst : belonging = .handle place
      · simp [hfirst]
      · simp [hfirst, Ne.symm hfirst]
    case reads =>
      refine (hreads place).trans ?_
      rw [read_release]
      by_cases hfirst : belonging = .read place
      · simp [hfirst]
      · simp [hfirst, Ne.symm hfirst]
    case scopes =>
      refine (hscopes id).trans ?_
      rw [hcount, List.count_cons]
      by_cases hfirst : belonging = .scope id
      · have hle := hown id
        simp only [hfirst, beq_self_eq_true, true_and, if_true]
        split <;> omega
      · simp [hfirst]

/-- All that is kept for a call: what the future of its handler has, and its own two handles. -/
def Ongoing.belongings (ongoing : Ongoing) (owned : List Belonging) : List Belonging :=
  owned ++ [.scope ongoing.request, .scope ongoing.request]

/-- A call is over: its own two handles have gone after what the future of its handler had. -/
theorem LetsGo.ends {owned : List Belonging} {parted : Server}
    (h : LetsGo calls owned server parted) {call : ℕ} {ongoing : Ongoing}
    {others : List Belonging} (hcall : calls[call]? = some ⟨ongoing, .handling others⟩)
    {progress : Progress ρ} (hover : ∀ others, progress ≠ .handling others)
    (htables : server'.tables = (parted.handles, parted.calls,
      (parted.within.erase ongoing.request).erase ongoing.request)) :
    LetsGo (calls.set call ⟨ongoing, progress⟩) (ongoing.belongings owned) server server' := by
  have hhandles : server'.handles = parted.handles := congrArg (·.1) htables
  have hcalls : server'.calls = parted.calls := congrArg (·.2.1) htables
  have hwithin : server'.within = (parted.within.erase ongoing.request).erase ongoing.request :=
    congrArg (·.2.2) htables
  refine ⟨fun place => ?handles, fun place => ?reads, fun id => ?scopes⟩
  case handles =>
    rw [Server.handle?, hhandles]
    refine (h.handles place).trans ?_
    simp [Ongoing.belongings]
  case reads =>
    rw [hcalls, h.reads place]
    simp [Ongoing.belongings]
  case scopes =>
    -- Two handles fewer on the request of the call, which are not the call's any more.
    have hown := own_set hcall hover id
    have hparted := h.scopes id
    rw [hwithin, Ongoing.belongings, List.count_append]
    by_cases heq : id = ongoing.request
    · subst heq
      rw [if_pos rfl] at hown
      rw [List.count_erase_self, List.count_erase_self, hparted]
      simp only [List.count_cons_self, List.count_nil]
      omega
    · rw [if_neg (Ne.symm heq)] at hown
      rw [List.count_erase_of_ne heq, List.count_erase_of_ne heq, hparted]
      simp only [List.count_cons, List.count_nil, beq_iff_eq, Belonging.scope.injEq,
        if_neg (Ne.symm heq)]
      omega

/-- The two handles of a call are gone when it is over, and nothing else is. -/
theorem tables_abandon (ongoing : Ongoing) (server : Server) :
    (ongoing.abandon server).tables = (server.handles, server.calls,
      (server.within.erase ongoing.request).erase ongoing.request) := by
  rw [Ongoing.abandon, Server.tables_closeScope, Server.tables_closeScope]
  rfl

theorem tables_finish (ongoing : Ongoing) (server : Server) (response : ρ) :
    (ongoing.finish server response).2.tables = (server.handles, server.calls,
      (server.within.erase ongoing.request).erase ongoing.request) := by
  unfold Ongoing.finish
  dsimp only
  rw [Server.tables_closeScope, Server.tables_execute, Server.tables_closeScope]
  rfl

theorem live_finish (ongoing : Ongoing) (server : Server) (response : ρ) :
    (ongoing.finish server response).2.live ⊆ server.live :=
  List.Subset.trans (Server.live_settle _)
    (List.Subset.trans (Server.live_execute _ _ _ _) (Server.live_settle _))

/-! ### The future of a handler goes -/

/-- One thing is let go of in one of these ways, if it can be. -/
theorem release_cases (calls : List (Served ρ)) (server : Server) (belonging : Belonging)
    {motive : Server → Prop} (stays : motive server)
    (handle : ∀ place, motive (server.takeHandle place).settle)
    (read : ∀ place, motive (server.dropKept place).2)
    (scope : ∀ id, motive (server.closeScope id)) :
    motive (carryOut calls server belonging.release) := by
  unfold carryOut
  split
  case isFalse => exact stays
  case isTrue =>
    cases belonging with
    | handle place => exact handle place
    | read place => exact read place
    | scope id => exact scope id

/-- Tasks go on with what they do when something is let go of. -/
theorem grows_release (calls : List (Served ρ)) (server : Server) (belonging : Belonging) :
    server.Grows (carryOut calls server belonging.release) := by
  refine release_cases calls server belonging (.refl server) (fun place => ?handle)
    (Server.grows_dropKept server) fun id => ?scope
  case handle =>
    have htaken : server.Grows (server.takeHandle place) := .of_eq rfl (fun _ => rfl) rfl rfl
    exact htaken.trans (Server.grows_settle _)
  case scope =>
    have hgone : server.Grows { server with within := server.within.erase id } :=
      .of_eq rfl (fun _ => rfl) rfl rfl
    exact hgone.trans (Server.grows_settle _)

theorem grows_letGo (calls : List (Served ρ)) (server : Server) (owned : List Belonging) :
    server.Grows (letGo calls server owned) := by
  rw [letGo, List.foldl_map]
  exact .foldl (grows_release calls) server owned

/-- Nobody gets anything in hand, and nobody loses what is in hand. -/
theorem stakes_release (calls : List (Served ρ)) (server : Server) (belonging : Belonging) :
    (carryOut calls server belonging.release).stock.stakes = server.stock.stakes :=
  release_cases (motive := fun after => after.stock.stakes = server.stock.stakes) calls server
    belonging rfl (fun place => Server.stakes_settle (server.takeHandle place))
    (Server.stakes_dropKept server)
    fun id => Server.stakes_settle { server with within := server.within.erase id }

theorem stakes_letGo (calls : List (Served ρ)) (server : Server) (owned : List Belonging) :
    (letGo calls server owned).stock.stakes = server.stock.stakes := by
  induction owned generalizing server with
  | nil => rfl
  | cons belonging rest ih => exact (ih _).trans (stakes_release calls server belonging)

theorem length_tasks_letGo (calls : List (Served ρ)) (server : Server) (owned : List Belonging) :
    (letGo calls server owned).tasks.length = server.tasks.length := by
  rw [← Server.length_stakes, stakes_letGo, Server.length_stakes]

theorem live_release (calls : List (Served ρ)) (server : Server) (belonging : Belonging) :
    (carryOut calls server belonging.release).live ⊆ server.live :=
  release_cases (motive := fun after => after.live ⊆ server.live) calls server belonging
    (List.Subset.refl _) (fun place => Server.live_settle (server.takeHandle place))
    (Server.live_dropKept server)
    fun id => Server.live_settle { server with within := server.within.erase id }

/-- It makes no difference to what is executed that some requests have gone before. -/
theorem Ongoing.entered_letGo {ongoing : Ongoing} {owned : List Belonging} {live : List RequestId}
    (hheld : ongoing.request ∈ live) :
    ongoing.entered (letGo calls server owned) (ledger.lose live) =
      (ongoing.entered server ledger).lose live := by
  unfold Ongoing.entered
  cases ongoing.ambient with
  | none => rfl
  | some runtime =>
    dsimp only
    rw [length_tasks_letGo]
    exact Ledger.hand_lose ledger ⟨ongoing.request, defaultScope⟩ hheld _

namespace Fits

/-- What is let go of is in no ledger, and what is pending goes with the requests that go. -/
theorem releases (h : service.Fits calls server ledger) (belonging : Belonging) :
    Deeds ⟨server.stock, ledger⟩ ⟨(Service.carryOut calls server belonging.release).stock,
        ledger.lose (Service.carryOut calls server belonging.release).live⟩ ∧
      service.Fits calls (Service.carryOut calls server belonging.release)
        (ledger.lose (Service.carryOut calls server belonging.release).live) := by
  obtain ⟨ledger', hfollows, hfits⟩ := h.carryOut belonging.release
  have hturn : ¬belonging.release.errand.IsTurn := by
    cases belonging <;> exact id
  have hentered : belonging.release.entered calls server ledger = ledger := by
    unfold Doing.entered
    cases belonging <;> exact ite_self _
  have hledger := hfollows.entered hturn
  rw [hentered] at hledger
  rw [← hledger]
  exact ⟨hfollows.deeds, hfits⟩

/-- The future of a handler is gone: what is pending goes with the requests of which it had the last
handle. -/
theorem letsGo (h : service.Fits calls server ledger) (owned : List Belonging) :
    Deeds ⟨server.stock, ledger⟩
        ⟨(letGo calls server owned).stock, ledger.lose (letGo calls server owned).live⟩ ∧
      service.Fits calls (letGo calls server owned)
        (ledger.lose (letGo calls server owned).live) ∧
      (letGo calls server owned).live ⊆ server.live := by
  -- One belonging goes after the other, and what is lost with one of them stays lost.
  induction owned generalizing server ledger with
  | nil =>
    have hsame : ledger.lose server.live = ledger := Ledger.lose_eq_self h.balanced.alive
    have hdone : letGo calls server [] = server := rfl
    rw [hdone, hsame]
    exact ⟨.refl, h, List.Subset.refl _⟩
  | cons belonging rest ih =>
    obtain ⟨hdeeds, hfits⟩ := h.releases belonging
    obtain ⟨hrest, hdone, hlive⟩ := ih hfits
    have hnext : letGo calls server (belonging :: rest) =
        letGo calls (Service.carryOut calls server belonging.release) rest := rfl
    rw [Ledger.lose_lose _ hlive] at hrest hdone
    rw [hnext]
    exact ⟨hdeeds.trans hrest, hdone, List.Subset.trans hlive (live_release _ _ _)⟩

/-! ### The call goes -/

/-- A call is over, and its handles are gone. -/
theorem isOver (h : service.Fits calls server ledger) {call : ℕ} {ongoing : Ongoing}
    {owned : List Belonging} {progress : Progress ρ}
    (hcall : calls[call]? = some ⟨ongoing, .handling owned⟩)
    (hover : ∀ others, progress ≠ .handling others) {ledger' : Ledger}
    (hspares : ({ server with
      within := (server.within.erase ongoing.request).erase ongoing.request } : Server).Spares
        server')
    (hbalanced : Books.Balanced ⟨server'.stock, ledger'⟩) (hcurrent : server'.current = none)
    (hsettled : server'.Settled) :
    service.Fits (calls.set call ⟨ongoing, progress⟩) server' ledger' := by
  -- A call that is still being handled is one of the others, and was so before.
  have hold {other : Ongoing} {others : List Belonging}
      (hother : ⟨other, .handling others⟩ ∈ calls.set call ⟨ongoing, progress⟩) :
      ⟨other, .handling others⟩ ∈ calls := by
    refine (List.mem_or_eq_of_mem_set hother).resolve_right fun heq => ?_
    exact hover others (Served.mk.inj heq).2.symm
  have hrest : service.Fits (calls.set call ⟨ongoing, progress⟩) server ledger := {
    balanced := h.balanced
    current := h.current
    settled := h.settled
    registry := h.registry
    own_le := fun id => by
      have hown := own_set hcall hover id
      have hle := h.own_le id
      omega
    request_lt := fun other others hother => h.request_lt other others (hold hother)
    fixture := fun other others hother => h.fixture other others (hold hother) }
  -- The call that is over counts no more, and the two handles that are gone were its own.
  refine hrest.of_spares hspares (fun id => ?_) hbalanced hcurrent hsettled
  have hown := own_set hcall hover id
  have hle := h.own_le id
  by_cases heq : id = ongoing.request
  · subst heq
    rw [if_pos rfl] at hown
    rw [List.count_erase_self, List.count_erase_self]
    omega
  · rw [List.count_erase_of_ne heq, List.count_erase_of_ne heq]
    omega

/-- The request of a call is alive. -/
theorem request_live (h : service.Fits calls server ledger) {call : ℕ} {ongoing : Ongoing}
    {owned : List Belonging} (hcall : calls[call]? = some ⟨ongoing, .handling owned⟩) :
    ongoing.request ∈ server.live := by
  have hpos : 0 < server.within.count ongoing.request :=
    Nat.lt_of_lt_of_le Nat.two_pos (h.two_le hcall)
  exact h.balanced.orderly.holders _ (Server.mem_holders.mpr (.inr (List.count_pos_iff.mp hpos)))

/-- One of the two handles of a call can go without any consequences. -/
theorem closesFirst (h : service.Fits calls server ledger) {call : Nat} {ongoing : Ongoing}
    {owned : List Belonging} (hcall : calls[call]? = some ⟨ongoing, .handling owned⟩) :
    server.closeScope ongoing.request =
        { server with within := server.within.erase ongoing.request } ∧
      server.stock.Silent (server.closeScope ongoing.request).stock := by
  have hfirst := closeScope_of_settled h.settled (h.two_le hcall)
  refine ⟨hfirst, ?_⟩
  rw [hfirst]
  refine Server.silent_of_holders rfl fun request hrequest => Server.mem_holders.mpr ?_
  exact (Server.mem_holders.mp hrequest).imp_right List.mem_of_mem_erase

/-- With the other one it still has its request, which it executes on its own runtime. -/
theorem holdsStill (h : service.Fits calls server ledger) {call : Nat} {ongoing : Ongoing}
    {owned : List Belonging} (hcall : calls[call]? = some ⟨ongoing, .handling owned⟩) :
    ongoing.request ∈ (server.closeScope ongoing.request).holders ∧
      (((server.closeScope ongoing.request).request ongoing.request).runtime <|>
        ongoing.ambient) = ongoing.ambient := by
  rw [(h.closesFirst hcall).1]
  constructor
  · refine Server.mem_holders.mpr (.inr (List.count_pos_iff.mp ?_))
    have htwo := h.two_le hcall
    rw [List.count_erase_self]
    omega
  · have hruntime : (server.request ongoing.request).runtime = ongoing.ambient :=
      congrArg Prod.snd (h.fixture ongoing owned (List.mem_of_getElem? hcall))
    show ((server.request ongoing.request).runtime <|> ongoing.ambient) = ongoing.ambient
    rw [hruntime]
    cases ongoing.ambient <;> rfl

/-- A call goes without an answer: nothing is executed, and what is pending goes with the request if
nobody else has it. -/
theorem abandons (h : service.Fits calls server ledger) {call : Nat} {ongoing : Ongoing}
    {owned : List Belonging} (hcall : calls[call]? = some ⟨ongoing, .handling owned⟩) :
    Deeds ⟨server.stock, ledger⟩
        ⟨(ongoing.abandon server).stock, ledger.lose (ongoing.abandon server).live⟩ ∧
      service.Fits (calls.set call ⟨ongoing, .failed⟩) (ongoing.abandon server)
        (ledger.lose (ongoing.abandon server).live) := by
  obtain ⟨hfirst, hsilent⟩ := h.closesFirst hcall
  have hdeeds := hsilent ledger h.balanced.orderly
  have hclosed : Deeds ⟨server.stock, ledger⟩ ⟨(ongoing.abandon server).stock,
      ledger.lose (ongoing.abandon server).live⟩ :=
    hdeeds.trans (Server.deeds_closeScope ongoing.request (hdeeds.orderly h.balanced.orderly))
  have hover (others : List Belonging) : (.failed : Progress ρ) ≠ .handling others := nofun
  refine ⟨hclosed, h.isOver hcall hover ?_ (hclosed.balanced h.balanced) ?_
    (Server.settled_settle _)⟩
  · rw [Ongoing.abandon, hfirst]
    exact Server.spares_settle _
  · rw [Ongoing.abandon, hfirst]
    exact (Server.current_settle _).trans h.current

/-- Between its two handles a call executes the default scope: what is pending there is handed to an
execution on the runtime on which the call was made, if there is one. -/
theorem executes (h : service.Fits calls server ledger) {call : ℕ} {ongoing : Ongoing}
    {owned : List Belonging} (hcall : calls[call]? = some ⟨ongoing, .handling owned⟩) :
    let closed := server.closeScope ongoing.request
    let executed := (closed.execute ongoing.request defaultScope ongoing.ambient).2
    Deeds ⟨server.stock, ledger⟩
        ⟨executed.stock, (ongoing.entered server ledger).lose executed.live⟩ ∧
      closed.Spares executed ∧ executed.current = none := by
  intro closed executed
  obtain ⟨hfirst, hsilent⟩ := h.closesFirst hcall
  obtain ⟨hholder, hruntime⟩ := h.holdsStill hcall
  have hdeeds := hsilent ledger h.balanced.orderly
  have horderly := hdeeds.orderly h.balanced.orderly
  have hidle : closed.current = none := (Server.current_settle _).trans h.current
  -- It is what anybody does who has the request and executes the scope.
  let event := Server.Event.executes ongoing.request defaultScope ongoing.ambient
  have hexecutes : executed = closed.happen event := (if_pos hholder).symm
  have hentered : event.entered closed ledger = ongoing.entered server ledger := by
    unfold Server.Event.entered Ongoing.entered
    dsimp only [event]
    rw [hruntime, Server.tasks_closeScope]
    cases ongoing.ambient with
    | none => exact if_neg fun hboth => nomatch hboth.2
    | some runtime => exact if_pos ⟨hholder, rfl⟩
  have hturn : ¬event.IsTurn := id
  have hexecuted := Server.deeds_happen horderly hturn
  rw [hentered, ← hexecutes] at hexecuted
  refine ⟨hdeeds.trans hexecuted, Server.spares_execute closed _ _ _, ?_⟩
  rw [hexecutes]
  exact Server.current_happen hidle event

/-- A call goes with an answer: what is pending in the default scope is executed, and all else that
is pending goes with the request if nobody else has it. -/
theorem finishes (h : service.Fits calls server ledger) {call : ℕ} {ongoing : Ongoing}
    {owned : List Belonging} (hcall : calls[call]? = some ⟨ongoing, .handling owned⟩)
    (response : ρ) :
    Deeds ⟨server.stock, ledger⟩ ⟨(ongoing.finish server response).2.stock,
        (ongoing.entered server ledger).lose (ongoing.finish server response).2.live⟩ ∧
      service.Fits (calls.set call ⟨ongoing, .answered response⟩)
        (ongoing.finish server response).2
        ((ongoing.entered server ledger).lose (ongoing.finish server response).2.live) := by
  have hexecutes := h.executes hcall
  unfold Ongoing.finish
  dsimp only at hexecutes ⊢
  generalize ((server.closeScope ongoing.request).execute ongoing.request defaultScope
    ongoing.ambient).2 = executed at hexecutes ⊢
  obtain ⟨hexecuted, hspares, hcurrent⟩ := hexecutes
  have hlast :=
    Server.deeds_closeScope ongoing.request (hexecuted.orderly h.balanced.orderly)
  have hlive : (executed.closeScope ongoing.request).live ⊆ executed.live :=
    Server.live_settle { executed with within := executed.within.erase ongoing.request }
  rw [Ledger.lose_lose _ hlive] at hlast
  have hall : Deeds ⟨server.stock, ledger⟩ ⟨(executed.closeScope ongoing.request).stock,
      (ongoing.entered server ledger).lose (executed.closeScope ongoing.request).live⟩ :=
    hexecuted.trans hlast
  have hover (others : List Belonging) : Progress.answered response ≠ .handling others := nofun
  refine ⟨hall, h.isOver hcall hover ?_ (hall.balanced h.balanced) ?_
    (Server.settled_settle _)⟩
  · rw [(h.closesFirst hcall).1] at hspares
    have hwithin := hspares.within
    have hthen := hspares.withWithin ((server.within.erase ongoing.request).erase ongoing.request)
    refine hthen.trans ?_
    rw [Server.closeScope, hwithin]
    exact Server.spares_settle _
  · exact (Server.current_settle _).trans hcurrent

/-! ### All of it -/

/-- A handler panics, or its call is dropped: nothing is executed, nothing of what the call had is
left, and what is pending goes with the requests that nobody else has. -/
theorem fails (h : service.Fits calls server ledger) {call : ℕ} {ongoing : Ongoing}
    {owned : List Belonging} (hcall : calls[call]? = some ⟨ongoing, .handling owned⟩) :
    let after := ongoing.abandon (letGo calls server owned)
    let calls' := calls.set call ⟨ongoing, .failed⟩
    Deeds ⟨server.stock, ledger⟩ ⟨after.stock, ledger.lose after.live⟩ ∧
      service.Fits calls' after (ledger.lose after.live) ∧
      LetsGo calls' (ongoing.belongings owned) server after ∧
      after.tasks.length = server.tasks.length := by
  intro after calls'
  obtain ⟨hparted, hfits, -⟩ := h.letsGo owned
  obtain ⟨hclosed, hover⟩ := hfits.abandons hcall
  have hlive : after.live ⊆ (letGo calls server owned).live :=
    List.Subset.trans (Server.live_settle _) (Server.live_settle _)
  rw [Ledger.lose_lose _ hlive] at hclosed hover
  refine ⟨hparted.trans hclosed, hover, ?_, ?_⟩
  · exact (letsGo_letGo owned h.own_le).ends hcall (fun _ h => nomatch h) (tables_abandon _ _)
  · rw [← length_tasks_letGo calls server owned]
    exact congrArg List.length ((Server.tasks_closeScope _ _).trans (Server.tasks_closeScope _ _))

/-- A handler has answered: nothing of what the call had is left, what is pending in the default
scope is executed in a task of its own, and all else that is pending goes with the requests that
nobody else has. -/
theorem answers (h : service.Fits calls server ledger) {call : ℕ} {ongoing : Ongoing}
    {owned : List Belonging} (hcall : calls[call]? = some ⟨ongoing, .handling owned⟩)
    (response : ρ) :
    let after := (ongoing.finish (letGo calls server owned) response).2
    let calls' := calls.set call ⟨ongoing, .answered response⟩
    let ledger' := (ongoing.entered server ledger).lose after.live
    Deeds ⟨server.stock, ledger⟩ ⟨after.stock, ledger'⟩ ∧
      service.Fits calls' after ledger' ∧
      LetsGo calls' (ongoing.belongings owned) server after ∧
      ∀ runtime, ongoing.ambient = some runtime →
        after.tasks.length = server.tasks.length + 1 := by
  intro after calls' ledger'
  obtain ⟨hparted, hfits, -⟩ := h.letsGo owned
  obtain ⟨hfinished, hover⟩ := hfits.finishes hcall response
  have hlive : after.live ⊆ (letGo calls server owned).live := live_finish _ _ _
  rw [Ongoing.entered_letGo (hfits.request_live hcall), Ledger.lose_lose _ hlive] at hfinished hover
  refine ⟨hparted.trans hfinished, hover, ?_, fun runtime hambient => ?_⟩
  · exact (letsGo_letGo owned h.own_le).ends hcall (fun others heq => nomatch heq)
      (tables_finish _ _ _)
  · have hruntime := (hfits.holdsStill hcall).2.trans hambient
    have hexecuted := Server.length_tasks_execute hruntime defaultScope
    rw [Server.tasks_closeScope, length_tasks_letGo] at hexecuted
    rw [← hexecuted]
    exact congrArg List.length (Server.tasks_closeScope _ _)

end Fits

end Adapter.Service

end Inbound
