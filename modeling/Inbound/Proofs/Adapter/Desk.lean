import Inbound.Adapter.Service
import Inbound.Proofs.Server.Fixtures

/-!
# A service at work

Messages come in, and the calls that answer them are interleaved in any way, with each other and
with whatever else is done to the server: handlers wait, register, execute and clear, in scopes of
whatever requests, the entries of others take their turns, requests are made by others that use the
registry of the service. A call ends when its handler has answered, or when the handler panics or
the call is dropped. Then the future of the handler lets go of all that it has: the handles and the
calls on bodies that it got at the beginning or while it was polled, unless it has given them away.

What a call can rely on is that nobody else lets go of its own handles. That is enough for its
request to be alive when the handler has answered, with the registry of the service and the runtime
on which the call was made.

## Main results

* `Service.act`: what happens to a service at work;
* `Service.Fits`: what calls can rely on;
* `Service.Brings`: what is entered in the ledger when things are done one after the other;
* `Service.Fits.carryOut`, `Service.Fits.polls`: whatever handlers and others do;
* `Service.Fits.arrives`: what the service does when a message comes in.
-/

namespace Inbound.Adapter.Service

open Deferred

/-! ### What happens -/

/-- Something that is done to a server. -/
structure Doing where
  /-- The request in whose scope it is done, if there is a scope around it alone. -/
  scope : Option RequestId
  errand : Server.Errand

/-- Something that the future of a handler has, and lets go of when it is gone. -/
inductive Belonging where
  /-- The handle at a place of the table. -/
  | handle (place : Nat)
  /-- The call on a body at a place of the table. -/
  | read (place : Nat)
  /-- A scoped future with a handle on a request. -/
  | scope (id : RequestId)
  deriving DecidableEq, Repr

/-- What lets go of it. -/
def Belonging.release : Belonging → Doing
  | .handle place => ⟨none, .does (.drops place) trivial⟩
  | .read place => ⟨none, .does (.abandons place) trivial⟩
  | .scope id => ⟨none, .does (.leaves id) trivial⟩

/-- What there is on a server that was not there before, the latest first. -/
def gained (before after : Server) : List Belonging :=
  (after.within.diff before.within).map .scope
    ++ ((List.range after.calls.length).drop before.calls.length).reverse.map .read
    ++ ((List.range after.handles.length).drop before.handles.length).reverse.map .handle

/-- The scoped futures that are gone. What is gone from a table has left its place. -/
def lost (before after : Server) : List Belonging :=
  (before.within.diff after.within).map .scope

/-- How far a call has come. -/
inductive Progress (ρ : Type) where
  /-- The handler has not answered, and this is what its future has. -/
  | handling (owned : List Belonging)
  /-- The call is over, and this is its answer. -/
  | answered (answer : ρ)
  /-- The call is over without an answer. -/
  | failed

/-- A call of a service. -/
structure Served (ρ : Type) where
  ongoing : Ongoing
  progress : Progress ρ

/-- A server with the calls of a service, in the order in which they were made. -/
structure Desk (ρ : Type) where
  server : Server
  calls : List (Served ρ)

/-- What can happen. Whatever comes into the tables while the future of a handler is polled belongs
to the future. -/
inductive Happening (ρ : Type) where
  /-- A message comes in, on a runtime or outside of all. The future of the handler has a handle on
  the request. -/
  | arrives (message : Message) (ambient : Option RuntimeId)
  /-- The future of a handler is polled, and these things are done. -/
  | polls (call : Nat) (doings : List Doing)
  /-- The future of a handler has given things away, or got some from others, and has these now. -/
  | trades (call : Nat) (owned : List Belonging)
  /-- A handler has answered. -/
  | answers (call : Nat) (response : ρ)
  /-- A handler panics, or its call is dropped. -/
  | fails (call : Nat)
  /-- Something is done outside of all handlers. -/
  | does (doing : Doing)

variable {ρ : Type}

/-- Whether the handler of a request has not answered. -/
def Served.isFor (id : RequestId) : Served ρ → Bool
  | ⟨ongoing, .handling _⟩ => ongoing.request = id
  | _ => false

/-- How many handles on a request the calls have. -/
def own (calls : List (Served ρ)) (id : RequestId) : Nat :=
  2 * calls.countP (Served.isFor id)

/-- A scoped future can only be let go by whoever has made it. -/
def isFree (calls : List (Served ρ)) (server : Server) : Server.Errand → Bool
  | .does (.leaves id) _ => own calls id < server.within.count id
  | _ => true

/-- Something is done, if it can be. -/
def carryOut (calls : List (Served ρ)) (server : Server) (doing : Doing) : Server :=
  if isFree calls server doing.errand then
    match doing.scope with
    | none => server.undertake doing.errand
    | some id => (server.bind id fun server => ((), server.undertake doing.errand)).2
  else server

/-- The future of a handler is gone, and lets go of what it has. -/
def letGo (calls : List (Served ρ)) (server : Server) (owned : List Belonging) : Server :=
  (owned.map Belonging.release).foldl (carryOut calls) server

/-- Something happens. -/
def act (service : Service) (desk : Desk ρ) : Happening ρ → Desk ρ
  | .arrives message ambient =>
    let (ongoing, server) := service.begin desk.server message ambient
    ⟨server, desk.calls ++ [⟨ongoing, .handling [.handle desk.server.handles.length]⟩]⟩
  | .polls call doings =>
    match desk.calls[call]? with
    | some ⟨ongoing, .handling owned⟩ =>
      let handler (server : Server) := ((), doings.foldl (carryOut desk.calls) server)
      let server := (ongoing.poll desk.server handler).2
      let owned := gained desk.server server ++ owned.diff (lost desk.server server)
      ⟨server, desk.calls.set call ⟨ongoing, .handling owned⟩⟩
    | _ => desk
  | .trades call owned =>
    match desk.calls[call]? with
    | some ⟨ongoing, .handling _⟩ =>
      { desk with calls := desk.calls.set call ⟨ongoing, .handling owned⟩ }
    | _ => desk
  | .answers call response =>
    match desk.calls[call]? with
    | some ⟨ongoing, .handling owned⟩ =>
      let (answer, server) := ongoing.finish (letGo desk.calls desk.server owned) response
      ⟨server, desk.calls.set call ⟨ongoing, .answered answer⟩⟩
    | _ => desk
  | .fails call =>
    match desk.calls[call]? with
    | some ⟨ongoing, .handling owned⟩ =>
      ⟨ongoing.abandon (letGo desk.calls desk.server owned),
        desk.calls.set call ⟨ongoing, .failed⟩⟩
    | _ => desk
  | .does doing => { desk with server := carryOut desk.calls desk.server doing }

/-! ### What calls can rely on -/

/-- The books balance, nobody is left behind, and each call has its handles on its request, which
uses the registry of the service and the runtime on which the call was made. -/
structure Fits (service : Service) (calls : List (Served ρ)) (server : Server) (ledger : Ledger) :
    Prop where
  balanced : Books.Balanced ⟨server.stock, ledger⟩
  current : server.current = none
  settled : server.Settled
  registry : service.registry < server.registries.length
  own_le : ∀ id, own calls id ≤ server.within.count id
  request_lt : ∀ ongoing owned, ⟨ongoing, .handling owned⟩ ∈ calls →
    ongoing.request < server.requests.length
  fixture : ∀ ongoing owned, ⟨ongoing, .handling owned⟩ ∈ calls →
    (server.request ongoing.request).fixture = (service.registry, ongoing.ambient)

variable {service : Service} {calls : List (Served ρ)} {server server' : Server} {ledger : Ledger}

/-- A cascade of releases has nothing to do where nobody is left behind. -/
theorem settle_of_settled (h : server.Settled) : server.settle = server := by
  have hnone : server.live.find? (!server.isHeld ·) = none :=
    List.find?_eq_none.mpr fun id hid => by simpa using h id hid
  rw [Server.settle, hnone]

/-- As long as there are two scoped futures of a request, one can go without any consequences. -/
theorem closeScope_of_settled {id : RequestId} (h : server.Settled)
    (hcount : 2 ≤ server.within.count id) :
    server.closeScope id = { server with within := server.within.erase id } := by
  have hretains : server.Retains { server with within := server.within.erase id } := by
    refine .of_handles (List.Subset.refl _) (fun other hother => ?_) rfl rfl rfl
    by_cases heq : other = id
    · subst heq
      refine List.count_pos_iff.mp ?_
      rw [List.count_erase_self]
      omega
    · exact (List.mem_erase_of_ne heq).mpr hother
  exact settle_of_settled (hretains.settled h rfl)

theorem own_concat (calls : List (Served ρ)) (ongoing : Ongoing) (owned : List Belonging)
    (id : RequestId) : own (calls ++ [⟨ongoing, .handling owned⟩]) id =
      own calls id + if ongoing.request = id then 2 else 0 := by
  rw [own, own, List.countP_append, List.countP_singleton, Nat.mul_add]
  by_cases heq : ongoing.request = id <;> simp [Served.isFor, heq]

/-- A call that is over has no handles any more. -/
theorem own_set {call : Nat} {ongoing : Ongoing} {owned : List Belonging} {progress : Progress ρ}
    (hcall : calls[call]? = some ⟨ongoing, .handling owned⟩)
    (hover : ∀ owned, progress ≠ .handling owned) (id : RequestId) :
    own (calls.set call ⟨ongoing, progress⟩) id + (if ongoing.request = id then 2 else 0) =
      own calls id := by
  obtain ⟨hlt, hget⟩ := List.getElem?_eq_some_iff.mp hcall
  have hidle : Served.isFor id (⟨ongoing, progress⟩ : Served ρ) = false := by
    cases progress with
    | handling owned => exact absurd rfl (hover owned)
    | _ => rfl
  rw [own, own, List.countP_set hlt, hget, hidle]
  by_cases heq : ongoing.request = id
  · have hpos : 0 < calls.countP (Served.isFor id) :=
      List.countP_pos_iff.mpr ⟨_, List.mem_of_getElem? hcall, decide_eq_true heq⟩
    simp only [Served.isFor, heq, decide_true, if_true, Bool.false_eq_true, if_false]
    omega
  · simp [Served.isFor, heq]

/-- What else its future has is nothing to the handles that a call has itself. -/
theorem own_set_handling {call : Nat} {ongoing : Ongoing} {owned : List Belonging}
    (hcall : calls[call]? = some ⟨ongoing, .handling owned⟩) (owned' : List Belonging)
    (id : RequestId) : own (calls.set call ⟨ongoing, .handling owned'⟩) id = own calls id := by
  obtain ⟨hlt, hget⟩ := List.getElem?_eq_some_iff.mp hcall
  have hsame : Served.isFor id (⟨ongoing, .handling owned'⟩ : Served ρ) =
      Served.isFor id (⟨ongoing, .handling owned⟩ : Served ρ) := rfl
  rw [own, own, List.countP_set hlt, hget, hsame]
  by_cases heq : Served.isFor id (⟨ongoing, .handling owned⟩ : Served ρ) = true
  · have hpos : 0 < calls.countP (Served.isFor id) :=
      List.countP_pos_iff.mpr ⟨_, List.mem_of_getElem? hcall, heq⟩
    rw [if_pos heq]
    omega
  · rw [if_neg heq]
    omega

/-- What is entered in the ledger when the handler of a call has answered. -/
def Ongoing.entered (ongoing : Ongoing) (server : Server) (ledger : Ledger) : Ledger :=
  match ongoing.ambient with
  | none => ledger
  | some _ => ledger.hand ⟨ongoing.request, defaultScope⟩ server.tasks.length

namespace Fits

/-- Calls rely on less than what is spared when scoped futures come and go. -/
theorem of_spares (h : service.Fits calls server ledger) {within : List RequestId}
    {ledger' : Ledger} (hspares : ({ server with within } : Server).Spares server')
    (hwithin : ∀ id, own calls id ≤ within.count id)
    (hbalanced : Books.Balanced ⟨server'.stock, ledger'⟩) (hcurrent : server'.current = none)
    (hsettled : server'.Settled) : service.Fits calls server' ledger' where
  balanced := hbalanced
  current := hcurrent
  settled := hsettled
  registry := Nat.lt_of_lt_of_le h.registry hspares.registries
  own_le id := by
    rw [hspares.within]
    exact hwithin id
  request_lt ongoing owned hongoing := by
    have hlength := hspares.fixtures.length_le
    rw [Server.length_fixtures, Server.length_fixtures] at hlength
    exact Nat.lt_of_lt_of_le (h.request_lt ongoing owned hongoing) hlength
  fixture ongoing owned hongoing :=
    (hspares.fixture_request (h.request_lt ongoing owned hongoing)).trans
      (h.fixture ongoing owned hongoing)

/-- It is nothing to the calls what else the future of one of them has. -/
theorem setOwned (h : service.Fits calls server ledger) {call : Nat} {ongoing : Ongoing}
    {owned : List Belonging} (hcall : calls[call]? = some ⟨ongoing, .handling owned⟩)
    (owned' : List Belonging) :
    service.Fits (calls.set call ⟨ongoing, .handling owned'⟩) server ledger := by
  -- Whoever is handling now was handling before.
  have hold {other : Ongoing} {others : List Belonging}
      (hother : ⟨other, .handling others⟩ ∈ calls.set call ⟨ongoing, .handling owned'⟩) :
      ∃ others, ⟨other, .handling others⟩ ∈ calls := by
    rcases List.mem_or_eq_of_mem_set hother with hother | heq
    · exact ⟨others, hother⟩
    · cases heq
      exact ⟨owned, List.mem_of_getElem? hcall⟩
  refine {
    balanced := h.balanced
    current := h.current
    settled := h.settled
    registry := h.registry
    own_le := fun id => ?_
    request_lt := fun other others hother => ?_
    fixture := fun other others hother => ?_ }
  · rw [own_set_handling hcall]
    exact h.own_le id
  · obtain ⟨before, hbefore⟩ := hold hother
    exact h.request_lt other before hbefore
  · obtain ⟨before, hbefore⟩ := hold hother
    exact h.fixture other before hbefore

/-- A call has two handles on its request. -/
theorem two_le (h : service.Fits calls server ledger) {call : Nat} {ongoing : Ongoing}
    {owned : List Belonging} (hcall : calls[call]? = some ⟨ongoing, .handling owned⟩) :
    2 ≤ server.within.count ongoing.request := by
  have hpos : 0 < calls.countP (Served.isFor ongoing.request) :=
    List.countP_pos_iff.mpr ⟨_, List.mem_of_getElem? hcall, decide_eq_true rfl⟩
  have hown := h.own_le ongoing.request
  rw [own] at hown
  omega

/-- The registry of the service has what is pending for the request of a call. -/
theorem entries_own (h : service.Fits calls server ledger) {call : Nat} {ongoing : Ongoing}
    {owned : List Belonging} (hcall : calls[call]? = some ⟨ongoing, .handling owned⟩)
    (scope : String) :
    (server.registry service.registry).entries ⟨ongoing.request, scope⟩ =
      ledger.pendingIn ⟨ongoing.request, scope⟩ := by
  have hregistry : (server.request ongoing.request).registry = service.registry :=
    congrArg Prod.fst (h.fixture ongoing owned (List.mem_of_getElem? hcall))
  rw [← hregistry, ← Server.home_stock]
  exact h.balanced.entries_home ⟨ongoing.request, scope⟩

/-- Nothing is pending for a request on which there is no handle. -/
theorem gone (h : service.Fits calls server ledger) {id : RequestId}
    (hfree : server.isHeld id = false) :
    (∀ registry scope, (server.registry registry).entries ⟨id, scope⟩ = []) ∧
      ∀ record ∈ ledger, record.slot.request = id → record.fate ≠ .pending := by
  have hgone : id ∉ server.live := fun hlive => by
    rw [h.settled id hlive] at hfree
    cases hfree
  have hnone : ∀ record ∈ ledger, record.slot.request = id → record.fate ≠ .pending := by
    rintro record hrecord rfl hpending
    exact hgone (h.balanced.alive record hrecord hpending)
  refine ⟨fun registry scope => ?_, hnone⟩
  have hpending : ledger.pendingIn ⟨id, scope⟩ = [] :=
    Ledger.select_eq_nil fun record hrecord => decide_eq_false fun hboth =>
      hnone record hrecord (congrArg Slot.request hboth.2) hboth.1
  have hentries := h.balanced.pending registry ⟨id, scope⟩
  rw [hpending, ite_self] at hentries
  exact hentries

end Fits

/-! ### What others do -/

theorem stock_allow (server : Server) (id : RequestId) (passes : Option Nat) :
    (allow server id passes).stock = server.stock :=
  Server.stock_setRequest rfl

/-- Nothing is done to deferred work when a poll begins and when it ends. -/
theorem stock_poll (calls : List (Served ρ)) (ongoing : Ongoing) (server : Server)
    (doings : List Doing) :
    (ongoing.enterPoll server).2.stock = server.stock ∧
      (ongoing.poll server fun server => ((), doings.foldl (carryOut calls) server)).2.stock =
        (doings.foldl (carryOut calls) (ongoing.enterPoll server).2).stock := by
  constructor
  · exact stock_allow server ongoing.request (ongoing.ambient.map fun _ => passesPerPoll)
  · exact stock_allow
      ((doings.foldl (carryOut calls) (ongoing.enterPoll server).2).leave ⟨server.bound⟩)
      ongoing.request none

/-- What is entered in the ledger on behalf of whoever does something. -/
def Doing.entered (calls : List (Served ρ)) (server : Server) (ledger : Ledger)
    (doing : Doing) : Ledger :=
  if isFree calls server doing.errand then doing.errand.entered server ledger else ledger

/-- The ledger is carried on as it should be when something is done. -/
structure Follows (calls : List (Served ρ)) (server : Server) (ledger : Ledger) (doing : Doing)
    (ledger' : Ledger) : Prop where
  /-- What is done amounts to deeds. -/
  deeds : Deeds ⟨server.stock, ledger⟩ ⟨(carryOut calls server doing).stock, ledger'⟩
  /-- It is known what is entered, turns of tasks apart. -/
  entered : ¬doing.errand.IsTurn →
    ledger' = (doing.entered calls server ledger).lose (carryOut calls server doing).live

/-- The ledger is carried on with one thing after the other that is done, and with nothing else. -/
inductive Brings (calls : List (Served ρ)) : Server → Ledger → List Doing → Ledger → Prop where
  /-- Nothing is done. -/
  | nil {server : Server} {ledger : Ledger} : Brings calls server ledger [] ledger
  /-- One thing is done, and then the others. -/
  | cons {server : Server} {ledger ledger' ledger'' : Ledger} {doing : Doing} {rest : List Doing}
      (first : Follows calls server ledger doing ledger')
      (others : Brings calls (carryOut calls server doing) ledger' rest ledger'') :
      Brings calls server ledger (doing :: rest) ledger''

theorem Brings.deeds {doings : List Doing} {ledger' : Ledger}
    (h : Brings calls server ledger doings ledger') :
    Deeds ⟨server.stock, ledger⟩ ⟨(doings.foldl (carryOut calls) server).stock, ledger'⟩ := by
  induction h with
  | nil => exact .refl
  | cons first _ ih => exact first.deeds.trans ih

theorem takeHandles_withBound (server : Server) (bound : Option RequestId) (places : List Nat) :
    (({ server with bound } : Server).takeHandles places).1 = (server.takeHandles places).1 := by
  induction places generalizing server with
  | nil => rfl
  | cons place rest ih =>
    have hrest := ih (server.takeHandle place)
    exact congrArg ((server.handle? place).toList ++ ·) hrest

/-- It is nothing to the ledger which request is bound. -/
theorem entered_withBound (server : Server) (bound : Option RequestId) (ledger : Ledger)
    (errand : Server.Errand) :
    errand.entered { server with bound } ledger = errand.entered server ledger := by
  cases errand with
  | does event hwhole => cases event <;> rfl
  | adds id name scope places panicOnCall acts =>
    unfold Server.Errand.entered
    dsimp only
    rw [takeHandles_withBound]
    rfl

/-- Whatever is done spares requests, and leaves the calls their handles. -/
theorem exists_spares_undertake {errand : Server.Errand} (hfree : isFree calls server errand)
    (hown : ∀ id, own calls id ≤ server.within.count id) :
    ∃ within, ({ server with within } : Server).Spares (server.undertake errand) ∧
      ∀ id, own calls id ≤ within.count id := by
  cases errand with
  | adds id name scope places panicOnCall acts =>
    refine ⟨server.within, ?_, hown⟩
    dsimp only [Server.undertake]
    split
    · exact (Server.spares_takeHandles server places).trans (Server.spares_addEntry _ _ _ _ _)
    · exact .refl server
  | does event hwhole =>
    -- Only scoped futures have handles that come and go.
    by_cases hscoping : event.IsScoping
    · cases event with
      | enters id =>
        dsimp only [Server.undertake, Server.happen]
        split
        · refine ⟨id :: server.within, .refl _, fun other => ?_⟩
          rw [List.count_cons]
          exact Nat.le_add_right_of_le (hown other)
        · exact ⟨server.within, .refl server, hown⟩
      | leaves id =>
        refine ⟨server.within.erase id, Server.spares_settle _, fun other => ?_⟩
        -- There is one more of them than the calls have, as it is not theirs to go.
        have hleft : own calls id < server.within.count id := of_decide_eq_true hfree
        by_cases heq : other = id
        · subst heq
          rw [List.count_erase_self]
          omega
        · rw [List.count_erase_of_ne heq]
          exact hown other
      | _ => exact hscoping.elim
    · exact ⟨server.within, Server.spares_happen server hscoping, hown⟩

namespace Fits

theorem undertake (h : service.Fits calls server ledger) {errand : Server.Errand}
    (hfree : isFree calls server errand) :
    ∃ ledger', errand.CarriesOn server ledger ledger' ∧
      service.Fits calls (server.undertake errand) ledger' := by
  have horderly := h.balanced.orderly
  obtain ⟨ledger', hcarries⟩ := Server.exists_carriesOn_undertake horderly h.current errand
  obtain ⟨within, hspares, hwithin⟩ := exists_spares_undertake hfree h.own_le
  have hsettled := Server.settled_undertake h.settled horderly errand
  have hcurrent := Server.current_undertake h.current errand
  exact ⟨ledger', hcarries, h.of_spares hspares hwithin (hcarries.deeds.balanced h.balanced)
    hcurrent hsettled⟩

/-- It is nothing to the calls which request is bound. -/
theorem withBound (h : service.Fits calls server ledger) (bound : Option RequestId) :
    service.Fits calls { server with bound } ledger :=
  h.of_spares (.of_eq rfl rfl rfl) h.own_le h.balanced h.current h.settled

theorem carryOut (h : service.Fits calls server ledger) (doing : Doing) :
    ∃ ledger', Follows calls server ledger doing ledger' ∧
      service.Fits calls (Service.carryOut calls server doing) ledger' := by
  obtain ⟨scope, errand⟩ := doing
  unfold Service.carryOut
  by_cases hfree : isFree calls server errand
  · have hentered :
        Doing.entered calls server ledger ⟨scope, errand⟩ = errand.entered server ledger :=
      if_pos hfree
    cases scope with
    | none =>
      obtain ⟨ledger', hcarries, hfits⟩ := h.undertake hfree
      have hdone : Service.carryOut calls server ⟨none, errand⟩ = server.undertake errand :=
        if_pos hfree
      refine ⟨ledger', ⟨?_, fun hturn => ?_⟩, ?_⟩
      · rw [hdone]
        exact hcarries.deeds
      · rw [hdone, hentered]
        exact hcarries.entered hturn
      · rw [if_pos hfree]
        exact hfits
    | some id =>
      obtain ⟨ledger', hcarries, hfits⟩ := (h.withBound (some id)).undertake hfree
      have hdone : Service.carryOut calls server ⟨some id, errand⟩ =
          { ({ server with bound := some id } : Server).undertake errand with
            bound := server.bound } := if_pos hfree
      refine ⟨ledger', ⟨?_, fun hturn => ?_⟩, ?_⟩
      · rw [hdone]
        exact hcarries.deeds
      · rw [hdone, hentered, ← entered_withBound server (some id)]
        exact hcarries.entered hturn
      · rw [if_pos hfree]
        exact hfits.withBound server.bound
  · have hdone : Service.carryOut calls server ⟨scope, errand⟩ = server := if_neg hfree
    refine ⟨ledger, ⟨?_, fun _ => ?_⟩, ?_⟩
    · rw [hdone]
    · rw [hdone, Doing.entered, if_neg hfree]
      exact (Ledger.lose_eq_self h.balanced.alive).symm
    · rw [if_neg hfree]
      exact h

theorem carryOutAll (h : service.Fits calls server ledger) (doings : List Doing) :
    ∃ ledger', Brings calls server ledger doings ledger' ∧
      service.Fits calls (doings.foldl (Service.carryOut calls) server) ledger' := by
  induction doings generalizing server ledger with
  | nil => exact ⟨ledger, .nil, h⟩
  | cons doing rest ih =>
    obtain ⟨ledger', hfollows, hfits⟩ := h.carryOut doing
    obtain ⟨ledger'', hrest, hfits'⟩ := ih hfits
    exact ⟨ledger'', .cons hfollows hrest, hfits'⟩

/-- It is nothing to the calls how many gates the handler of one of them may pass. -/
theorem allow (h : service.Fits calls server ledger) (id : RequestId) (passes : Option Nat) :
    service.Fits calls (Service.allow server id passes) ledger := by
  have hbalanced := h.balanced
  rw [← stock_allow server id passes] at hbalanced
  have hspares : server.Spares (Service.allow server id passes) := Server.spares_setRequest rfl
  exact h.of_spares hspares h.own_le hbalanced h.current h.settled

/-- A poll of the future of a handler begins. -/
theorem enterPoll (h : service.Fits calls server ledger) (ongoing : Ongoing) :
    service.Fits calls (ongoing.enterPoll server).2 ledger :=
  (h.allow _ _).withBound (some ongoing.request)

/-- A poll of the future of a handler ends. -/
theorem leavePoll (h : service.Fits calls server ledger) (ongoing : Ongoing)
    (outer : Server.Outer) : service.Fits calls (ongoing.leavePoll server outer) ledger :=
  (h.withBound outer.bound).allow _ _

/-- Whatever a handler does when its future is polled. -/
theorem polls (h : service.Fits calls server ledger) (ongoing : Ongoing) (doings : List Doing) :
    ∃ ledger', Brings calls (ongoing.enterPoll server).2 ledger doings ledger' ∧
      service.Fits calls (ongoing.poll server fun server =>
        ((), doings.foldl (Service.carryOut calls) server)).2 ledger' := by
  obtain ⟨ledger', hbrings, hdone⟩ := (h.enterPoll ongoing).carryOutAll doings
  exact ⟨ledger', hbrings, hdone.leavePoll ongoing _⟩

/-! ### What the service does -/

/-- A message comes in: there is a new request, on which its call has two handles. -/
theorem arrives (h : service.Fits calls server ledger) (message : Message)
    (ambient : Option RuntimeId) (owned : List Belonging) :
    server.stock.Silent (service.begin server message ambient).2.stock ∧
      service.Fits (calls ++ [⟨(service.begin server message ambient).1, .handling owned⟩])
        (service.begin server message ambient).2 ledger := by
  -- The request is built first, and then its call takes two handles on it.
  let request := message.convert service.config service.registry ambient
  let id := server.requests.length
  let built := (server.build request).2
  have hholder : id ∈ built.holders :=
    Server.mem_holders.mpr (.inl (List.mem_append_right _ (List.mem_singleton_self _)))
  have hopened : id ∈ (built.openScope id).holders :=
    Server.mem_holders.mpr (.inr List.mem_cons_self)
  have hsilent : server.stock.Silent ((built.openScope id).openScope id).stock :=
    ((Server.silent_build h.registry).trans (Server.silent_openScope hholder)).trans
      (Server.silent_openScope hopened)
  have hretains : built.Retains ((built.openScope id).openScope id) :=
    .of_handles (List.Subset.refl _)
      (List.Subset.trans (List.subset_cons_self _ _) (List.subset_cons_self _ _)) rfl rfl rfl
  have hspares : server.Spares built := Server.spares_build server request
  refine ⟨hsilent, {
    balanced := (hsilent ledger h.balanced.orderly).balanced h.balanced
    current := h.current
    settled := hretains.settled (Server.settled_build h.settled request) rfl
    registry := h.registry
    own_le := fun other => ?own_le
    request_lt := fun ongoing others hongoing => ?request_lt
    fixture := fun ongoing others hongoing => ?fixture }⟩
  case own_le =>
    -- The two handles of the new call are the two that are put in front.
    have hown := h.own_le other
    show own _ other ≤ (id :: id :: server.within).count other
    rw [own_concat, List.count_cons, List.count_cons]
    show _ + (if id = other then 2 else 0) ≤ _
    by_cases heq : id = other
    · rw [if_pos heq, if_pos (beq_iff_eq.mpr heq)]
      omega
    · rw [if_neg heq, if_neg fun h => heq (beq_iff_eq.mp h)]
      omega
  case request_lt =>
    show ongoing.request < (server.requests ++ [request]).length
    rw [List.length_append, List.length_singleton]
    rcases List.mem_append.mp hongoing with hold | hnew
    · exact Nat.lt_succ_of_lt (h.request_lt ongoing others hold)
    · cases List.mem_singleton.mp hnew
      exact Nat.lt_succ_self _
  case fixture =>
    rcases List.mem_append.mp hongoing with hold | hnew
    · exact (hspares.fixture_request (h.request_lt ongoing others hold)).trans
        (h.fixture ongoing others hold)
    · cases List.mem_singleton.mp hnew
      have hrequest : built.request id = request := by
        show (server.requests ++ [request]).getD server.requests.length default = request
        rw [List.getD_eq_getElem?_getD, List.getElem?_concat_length, Option.getD_some]
      exact congrArg Request.fixture hrequest

end Fits

end Inbound.Adapter.Service
