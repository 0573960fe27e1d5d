import Mathlib
import Inbound.Proofs.Adapter.Parting
import Inbound.Proofs.Server.Entries

/-!
# What services do after the answer

A service executes the default scope of a request once, when the handler of the request has
answered. Its calls are interleaved in any way, with each other and with all else. The answer of a
call is the response of its handler, whatever comes of the entries. What the execution is handed is
what is pending in the default scope at that moment, so none of it has been called before, and each
entry is called at most once after that; the report on the execution accounts for all of them. Other
entries are not handed to anyone by the service: they wait until the last handle on their request is
dropped, and go with it, as do all entries of a call whose handler panics or that is dropped. Before
the answer the service does nothing of its own: what happens to entries then is what handlers and
others do. After it nothing is left of what the call had.

## Main results

* `Service.exists_goes`: what is entered in the ledger when something happens;
* `Server.Attends.act`: an execution attends to its entries, whatever happens;
* `Service.RunsAfterAnswers`: what all this comes to;
* `Service.runs_after_answers`: it is so for every service.
-/

namespace Inbound

open Deferred

/-! ### Executions -/

namespace Server.Attends

variable {server server' : Server} {execution : TaskId} {runtime : RuntimeId} {scope : String}
  {handed : List (Entry Job)}

/-- It is nothing to an execution what is done besides tasks, runtimes and the log. -/
theorem of_same (h : server.Attends execution runtime scope handed)
    (htasks : server'.tasks = server.tasks) (hruntimes : server'.runtimes = server.runtimes)
    (hlog : server'.log = server.log) : server'.Attends execution runtime scope handed := by
  have hdoings : server'.doings = server.doings ++ [] := by
    rw [doings, htasks, List.append_nil]
    rfl
  refine h.of_append hdoings (by rintro _ ⟨⟩) (fun id halive => ?_) ?_
  · rwa [Server.runtime, hruntimes]
  · simp only [hlog, List.prefix_rfl]

end Server.Attends

/-- Whether a runtime is shut down. -/
def Server.Errand.ShutsDown (runtime : RuntimeId) : Server.Errand → Prop
  | .does event _ => event = .shutsDown runtime
  | _ => False

theorem Server.Attends.undertake {server : Server} {execution : TaskId} {runtime : RuntimeId}
    {scope : String} {handed : List (Entry Job)}
    (h : server.Attends execution runtime scope handed) {errand : Server.Errand}
    (hkept : ¬errand.ShutsDown runtime) :
    (server.undertake errand).Attends execution runtime scope handed := by
  cases errand with
  | does event hwhole => exact h.happen hkept
  | adds id name scope places panicOnCall acts =>
    have htake (server : Server) (place : ℕ) : server.Grows (server.takeHandle place) :=
      .of_eq rfl (fun _ => rfl) rfl rfl
    have htaken := h.grows (.foldl htake server places)
    dsimp only [Server.undertake]
    split
    · rw [← Server.takeHandles_snd] at htaken
      exact htaken.of_same rfl rfl rfl
    · exact h

namespace Adapter.Service

variable {ρ : Type}

/-- The call that something happens to. -/
def Happening.call? : Happening ρ → Option ℕ
  | .polls call _ | .trades call _ | .answers call _ | .fails call => some call
  | _ => none

/-- Whether a runtime is shut down. -/
def Happening.ShutsDown (runtime : RuntimeId) : Happening ρ → Prop
  | .polls _ doings => ∃ doing ∈ doings, doing.errand.ShutsDown runtime
  | .does doing => doing.errand.ShutsDown runtime
  | _ => False

section Attending

variable {server : Server} {execution : TaskId} {runtime : RuntimeId} {scope : String}
  {handed : List (Entry Job)}

theorem attends_closeScope (h : server.Attends execution runtime scope handed)
    (id : RequestId) : (server.closeScope id).Attends execution runtime scope handed := by
  have hgone : ({ server with within := server.within.erase id } : Server).Attends execution runtime
      scope handed := h.of_same rfl rfl rfl
  exact hgone.grows (Server.grows_settle _)

theorem attends_carryOut (h : server.Attends execution runtime scope handed)
    (calls : List (Served ρ)) {doing : Doing} (hkept : ¬doing.errand.ShutsDown runtime) :
    (carryOut calls server doing).Attends execution runtime scope handed := by
  unfold carryOut
  split
  · split
    · exact h.undertake hkept
    · next id _ =>
      have hinside : (server.enter id).2.Attends execution runtime scope handed :=
        h.of_same rfl rfl rfl
      exact (hinside.undertake hkept).of_same rfl rfl rfl
  · exact h

theorem attends_carryOutAll (h : server.Attends execution runtime scope handed)
    (calls : List (Served ρ)) {doings : List Doing}
    (hkept : ∀ doing ∈ doings, ¬doing.errand.ShutsDown runtime) :
    (doings.foldl (carryOut calls) server).Attends execution runtime scope handed := by
  induction doings generalizing server with
  | nil => exact h
  | cons doing rest ih =>
    have hdone := attends_carryOut h calls (hkept doing List.mem_cons_self)
    exact ih hdone fun other hother => hkept other (List.mem_cons_of_mem _ hother)

/-- Whatever happens, an execution attends to its entries unless its runtime is shut down. -/
theorem attends_act {desk : Desk ρ} (h : desk.server.Attends execution runtime scope handed)
    (service : Service) {happening : Happening ρ} (hkept : ¬happening.ShutsDown runtime) :
    (service.act desk happening).server.Attends execution runtime scope handed := by
  -- Only what is done to the server, by a handler or by anybody else, can shut the runtime down:
  -- what the service does itself never does.
  cases happening with
  | arrives message ambient => exact h.of_same rfl rfl rfl
  | polls call doings =>
    unfold act
    dsimp only
    split
    · next ongoing owned hcall =>
      have hentered : (ongoing.enterPoll desk.server).2.Attends execution runtime scope handed :=
        h.of_same rfl rfl rfl
      have hdone := attends_carryOutAll hentered desk.calls
        fun doing hdoing hshuts => hkept ⟨doing, hdoing, hshuts⟩
      exact hdone.of_same rfl rfl rfl
    · exact h
  | trades call owned =>
    unfold act
    dsimp only
    split <;> exact h
  | answers call response =>
    unfold act
    dsimp only
    split
    · next ongoing owned hcall =>
      have hparted := h.grows (grows_letGo desk.calls desk.server owned)
      have hclosed := attends_closeScope hparted ongoing.request
      exact attends_closeScope (hclosed.grows (Server.grows_execute _ _ _ _)) _
    · exact h
  | fails call =>
    unfold act
    dsimp only
    split
    · next ongoing owned hcall =>
      have hparted := h.grows (grows_letGo desk.calls desk.server owned)
      exact attends_closeScope (attends_closeScope hparted _) _
    · exact h
  | does doing => exact attends_carryOut h desk.calls hkept

end Attending

/-! ### The ledger -/

section Calls

variable (service : Service) {desk : Desk ρ} {call : ℕ} {ongoing : Ongoing}
  {owned : List Belonging}

/-- What the handler does when its future is polled is done with the request bound. -/
theorem server_act_polls (h : desk.calls[call]? = some ⟨ongoing, .handling owned⟩)
    (doings : List Doing) :
    (service.act desk (.polls call doings)).server =
      (ongoing.poll desk.server fun server =>
        ((), doings.foldl (carryOut desk.calls) server)).2 := by
  rw [act, h]

theorem calls_act_polls (h : desk.calls[call]? = some ⟨ongoing, .handling owned⟩)
    (doings : List Doing) :
    ∃ owned', (service.act desk (.polls call doings)).calls =
      desk.calls.set call ⟨ongoing, .handling owned'⟩ := by
  rw [act, h]
  exact ⟨_, rfl⟩

theorem act_trades (h : desk.calls[call]? = some ⟨ongoing, .handling owned⟩)
    (owned' : List Belonging) :
    service.act desk (.trades call owned') =
      { desk with calls := desk.calls.set call ⟨ongoing, .handling owned'⟩ } := by
  rw [act, h]

/-- The server is left alone when the future of a handler gives things away or gets some. -/
theorem server_act_trades (desk : Desk ρ) (call : ℕ) (owned : List Belonging) :
    (service.act desk (.trades call owned)).server = desk.server := by
  unfold act
  dsimp only
  split <;> rfl

theorem act_answers (h : desk.calls[call]? = some ⟨ongoing, .handling owned⟩) (response : ρ) :
    service.act desk (.answers call response) =
      ⟨(ongoing.finish (letGo desk.calls desk.server owned) response).2,
        desk.calls.set call ⟨ongoing, .answered response⟩⟩ := by
  rw [act, h]
  rfl

theorem act_fails (h : desk.calls[call]? = some ⟨ongoing, .handling owned⟩) :
    service.act desk (.fails call) =
      ⟨ongoing.abandon (letGo desk.calls desk.server owned),
        desk.calls.set call ⟨ongoing, .failed⟩⟩ := by
  rw [act, h]

/-- Nothing comes of a call that is over. -/
theorem act_of_over {happening : Happening ρ} (hcall : happening.call? = some call)
    (h : ∀ ongoing owned, desk.calls[call]? ≠ some ⟨ongoing, .handling owned⟩) :
    service.act desk happening = desk := by
  cases happening with
  | arrives message ambient => cases hcall
  | does doing => cases hcall
  | _ =>
    cases hcall
    unfold act
    dsimp only
    split
    · next hhandling => exact absurd hhandling (h _ _)
    · rfl

/-- An answer is not changed by anything that happens later. -/
theorem answered_act {answer : ρ} (h : desk.calls[call]? = some ⟨ongoing, .answered answer⟩)
    (happening : Happening ρ) :
    (service.act desk happening).calls[call]? = some ⟨ongoing, .answered answer⟩ := by
  have hlt := (List.getElem?_eq_some_iff.mp h).1
  -- Another call is another place in the list.
  have hset {other : ℕ} {it : Ongoing} {others : List Belonging}
      (hother : desk.calls[other]? = some ⟨it, .handling others⟩) (served : Served ρ) :
      (desk.calls.set other served)[call]? = some ⟨ongoing, .answered answer⟩ := by
    have hne : other ≠ call := by
      rintro rfl
      rw [h] at hother
      cases hother
    rw [List.getElem?_set_ne hne, h]
  cases happening with
  | arrives message ambient =>
    show (desk.calls ++ _)[call]? = _
    rw [List.getElem?_append_left hlt, h]
  | does doing => exact h
  | _ =>
    unfold act
    dsimp only
    split
    · next hother => exact hset hother _
    · exact h

end Calls

/-- What is entered in the ledger when something happens. The service itself enters what a call
executes, and nothing else. What handlers and others do is entered as they do it. -/
def Happening.IsEntered (service : Service) (desk : Desk ρ) (ledger : Ledger) (ledger' : Ledger) :
    Happening ρ → Prop
  | .arrives _ _ | .trades _ _ => ledger' = ledger
  | .polls call doings => ∀ ongoing owned, desk.calls[call]? = some ⟨ongoing, .handling owned⟩ →
      Brings desk.calls (ongoing.enterPoll desk.server).2 ledger doings ledger'
  | .answers call response =>
      ∀ ongoing owned, desk.calls[call]? = some ⟨ongoing, .handling owned⟩ →
        ledger' = (ongoing.entered desk.server ledger).lose
          (service.act desk (.answers call response)).server.live
  | .fails call => ledger' = ledger.lose (service.act desk (.fails call)).server.live
  | .does doing => Brings desk.calls desk.server ledger [doing] ledger'

/-- The ledger is carried on as it should be when something happens. -/
structure Goes (service : Service) (desk : Desk ρ) (ledger : Ledger) (happening : Happening ρ)
    (ledger' : Ledger) : Prop where
  /-- Each call can rely on what it needs. -/
  fits : service.Fits desk.calls desk.server ledger
  /-- What happens amounts to deeds. -/
  deeds : Deeds ⟨desk.server.stock, ledger⟩ ⟨(service.act desk happening).server.stock, ledger'⟩
  /-- It is known what is entered. -/
  entered : happening.IsEntered service desk ledger ledger'
  /-- Nothing comes of a call that is over. -/
  ended : ∀ call, happening.call? = some call →
    (∀ ongoing owned, desk.calls[call]? ≠ some ⟨ongoing, .handling owned⟩) → ledger' = ledger

section Carrying

variable {service : Service} {desk : Desk ρ} {ledger : Ledger}
  (h : service.Fits desk.calls desk.server ledger)

include h

/-- The ledger stays as it is when something happens to a call that is over. -/
theorem goes_of_over {happening : Happening ρ} {call : ℕ} (hcall : happening.call? = some call)
    (hover : ∀ ongoing owned, desk.calls[call]? ≠ some ⟨ongoing, .handling owned⟩) :
    ∃ ledger', service.Goes desk ledger happening ledger' ∧
      service.Fits (service.act desk happening).calls (service.act desk happening).server
        ledger' := by
  have hsame := act_of_over service hcall hover
  refine ⟨ledger, ⟨h, ?_, ?_, fun _ _ _ => rfl⟩, ?_⟩
  · rw [hsame]
  · cases happening with
    | arrives message ambient => cases hcall
    | does doing => cases hcall
    | trades other owned => rfl
    | fails other =>
      show ledger = ledger.lose _
      rw [hsame]
      exact (Ledger.lose_eq_self h.balanced.alive).symm
    | _ =>
      cases hcall
      exact fun ongoing owned hhandling => absurd hhandling (hover ongoing owned)
  · rw [hsame]
    exact h

/-- The ledger can be carried on whatever happens. -/
theorem exists_goes (happening : Happening ρ) :
    ∃ ledger', service.Goes desk ledger happening ledger' ∧
      service.Fits (service.act desk happening).calls (service.act desk happening).server
        ledger' := by
  by_cases hnone : ∃ call, happening.call? = some call ∧
    ∀ ongoing owned, desk.calls[call]? ≠ some ⟨ongoing, .handling owned⟩
  · obtain ⟨call, hcall, hover⟩ := hnone
    exact goes_of_over h hcall hover
  -- Otherwise the call that something happens to is being handled.
  have hover {ledger' : Ledger} (call : ℕ) (hcall : happening.call? = some call)
      (hover : ∀ ongoing owned, desk.calls[call]? ≠ some ⟨ongoing, .handling owned⟩) :
      ledger' = ledger :=
    absurd ⟨call, hcall, hover⟩ hnone
  have hhandling {call : ℕ} (hcall : happening.call? = some call) :
      ∃ ongoing owned, desk.calls[call]? = some ⟨ongoing, .handling owned⟩ := by
    by_contra hall
    exact hnone ⟨call, hcall, fun ongoing owned heq => hall ⟨ongoing, owned, heq⟩⟩
  cases happening with
  | arrives message ambient =>
    obtain ⟨hsilent, hfits⟩ := h.arrives message ambient [.handle desk.server.handles.length]
    exact ⟨ledger, ⟨h, hsilent ledger h.balanced.orderly, rfl, hover⟩, hfits⟩
  | polls call doings =>
    obtain ⟨ongoing, owned, hcall⟩ := hhandling rfl
    obtain ⟨ledger', hbrings, hfits⟩ := h.polls ongoing doings
    obtain ⟨owned', hcalls⟩ := calls_act_polls service hcall doings
    obtain ⟨hentered, hleft⟩ := stock_poll desk.calls ongoing desk.server doings
    have hserver := server_act_polls service hcall doings
    have hdeeds := hbrings.deeds
    rw [hentered, ← hleft, ← hserver] at hdeeds
    rw [← hserver] at hfits
    refine ⟨ledger', ⟨h, hdeeds, fun it others hit => ?_, hover⟩, ?_⟩
    · rw [hcall] at hit
      cases hit
      exact hbrings
    · rw [hcalls]
      exact hfits.setOwned hcall owned'
  | trades call owned' =>
    obtain ⟨ongoing, owned, hcall⟩ := hhandling rfl
    have hdeeds : Deeds ⟨desk.server.stock, ledger⟩
        ⟨(service.act desk (.trades call owned')).server.stock, ledger⟩ := by
      rw [act_trades service hcall]
    refine ⟨ledger, ⟨h, hdeeds, rfl, hover⟩, ?_⟩
    rw [act_trades service hcall]
    exact h.setOwned hcall owned'
  | answers call response =>
    obtain ⟨ongoing, owned, hcall⟩ := hhandling rfl
    obtain ⟨hdeeds, hfits, -⟩ := h.answers hcall response
    have hact := act_answers service hcall response
    refine ⟨(ongoing.entered desk.server ledger).lose
      (service.act desk (.answers call response)).server.live,
      ⟨h, ?_, fun it others hit => ?_, hover⟩, ?_⟩
    · rw [hact]
      exact hdeeds
    · rw [hcall] at hit
      cases hit
      rfl
    · rw [hact]
      exact hfits
  | fails call =>
    obtain ⟨ongoing, owned, hcall⟩ := hhandling rfl
    obtain ⟨hdeeds, hfits, -⟩ := h.fails hcall
    have hact := act_fails service hcall
    refine ⟨ledger.lose (service.act desk (.fails call)).server.live, ⟨h, ?_, rfl, hover⟩, ?_⟩
    · rw [hact]
      exact hdeeds
    · rw [hact]
      exact hfits
  | does doing =>
    obtain ⟨ledger', hfollows, hfits⟩ := h.carryOut doing
    exact ⟨ledger', ⟨h, hfollows.deeds, .cons hfollows .nil, hover⟩, hfits⟩

end Carrying

/-! ### All calls -/

/-- One thing happens after the other. -/
def serve (service : Service) (desk : Desk ρ) (history : List (Happening ρ)) : Desk ρ :=
  history.foldl service.act desk

/-- A service with a registry of its own, before its first call. -/
def opened (config : Config) (server : Server) : Service × Desk ρ :=
  let (registry, server) := server.newRegistry
  (⟨config, registry⟩, ⟨server, []⟩)

theorem serve_append (service : Service) (desk : Desk ρ) (history later : List (Happening ρ)) :
    service.serve desk (history ++ later) = service.serve (service.serve desk history) later :=
  List.foldl_append

theorem serve_concat (service : Service) (desk : Desk ρ) (history : List (Happening ρ))
    (happening : Happening ρ) : service.serve desk (history ++ [happening]) =
      service.act (service.serve desk history) happening :=
  serve_append service desk history [happening]

theorem attends_serve (service : Service) {desk : Desk ρ} {execution : TaskId}
    {runtime : RuntimeId} {scope : String} {handed : List (Entry Job)}
    (h : desk.server.Attends execution runtime scope handed) {later : List (Happening ρ)}
    (hkept : ∀ happening ∈ later, ¬happening.ShutsDown runtime) :
    (service.serve desk later).server.Attends execution runtime scope handed := by
  induction later generalizing desk with
  | nil => exact h
  | cons happening rest ih =>
    have hnext := attends_act h service (hkept happening List.mem_cons_self)
    exact ih hnext fun other hother => hkept other (List.mem_cons_of_mem _ hother)

theorem answered_serve {service : Service} {desk : Desk ρ} {call : ℕ} {ongoing : Ongoing}
    {answer : ρ} (h : desk.calls[call]? = some ⟨ongoing, .answered answer⟩)
    (later : List (Happening ρ)) :
    (service.serve desk later).calls[call]? = some ⟨ongoing, .answered answer⟩ := by
  induction later generalizing desk with
  | nil => exact h
  | cons happening rest ih => exact ih (answered_act service h happening)

/-- If the ledger is carried on whenever something happens, all that happens amounts to deeds. -/
theorem deeds_serve {service : Service} {begun : Desk ρ} {ledgers : List (Happening ρ) → Ledger}
    (hgoes : ∀ history happening, service.Goes (service.serve begun history) (ledgers history)
      happening (ledgers (history ++ [happening]))) (history later : List (Happening ρ)) :
    Deeds ⟨(service.serve begun history).server.stock, ledgers history⟩
      ⟨(service.serve begun (history ++ later)).server.stock, ledgers (history ++ later)⟩ := by
  induction later using List.reverseRecOn with
  | nil =>
    rw [List.append_nil]
  | append_singleton later happening ih =>
    have hlast := (hgoes (history ++ later) happening).deeds
    rw [← serve_concat, List.append_assoc] at hlast
    exact ih.trans hlast

/-- What services do with the entries of their requests, and when. One ledger for each history says
what has become of every entry that was registered since the service was made. -/
structure RunsAfterAnswers (service : Service) (begun : Desk ρ)
    (ledgers : List (Happening ρ) → Ledger) : Prop where
  /-- The books balance at every moment. -/
  balanced : ∀ history,
    Books.Balanced ⟨(service.serve begun history).server.stock, ledgers history⟩
  /-- Whatever happens amounts to deeds, so that no record is lost, no entry goes back on its way,
  and none is called twice. -/
  deeds : ∀ history later,
    Deeds ⟨(service.serve begun history).server.stock, ledgers history⟩
        ⟨(service.serve begun (history ++ later)).server.stock, ledgers (history ++ later)⟩ ∧
      (ledgers history).Precedes (ledgers (history ++ later))
  /-- Nothing is executed when a message comes in. Its call has two handles on the new request, and
  the future of its handler has the third one. -/
  arrives : ∀ history message ambient,
    let desk := service.serve begun history
    let after := service.serve begun (history ++ [.arrives message ambient])
    ledgers (history ++ [.arrives message ambient]) = ledgers history ∧
      after.server.tasks = desk.server.tasks ∧
      ∃ ongoing : Ongoing, ongoing.ambient = ambient ∧
        after.calls = desk.calls ++ [⟨ongoing, .handling [.handle desk.server.handles.length]⟩] ∧
        after.server.tables = (desk.server.handles ++ [some ongoing.request], desk.server.calls,
          ongoing.request :: ongoing.request :: desk.server.within)
  /-- When the future of a handler is polled, the service does nothing of its own: what is entered
  is what the handler does, one thing after the other. -/
  polls : ∀ history call ongoing owned doings,
    let desk := service.serve begun history
    let entered := (ongoing.enterPoll desk.server).2
    let after := service.serve begun (history ++ [.polls call doings])
    desk.calls[call]? = some ⟨ongoing, .handling owned⟩ →
      entered.stock = desk.server.stock ∧
        Brings desk.calls entered (ledgers history) doings
          (ledgers (history ++ [.polls call doings])) ∧
        after.server.stock = (doings.foldl (carryOut desk.calls) entered).stock
  /-- Nor does it do anything when the future of a handler gives things away or gets some. -/
  trades : ∀ history call owned,
    ledgers (history ++ [.trades call owned]) = ledgers history ∧
      (service.serve begun (history ++ [.trades call owned])).server =
        (service.serve begun history).server
  /-- Nor does it do anything when others do. -/
  does : ∀ history doing,
    let desk := service.serve begun history
    Brings desk.calls desk.server (ledgers history) [doing] (ledgers (history ++ [.does doing])) ∧
      (service.serve begun (history ++ [.does doing])).server =
        carryOut desk.calls desk.server doing
  /-- The answer of a call is the response of its handler, whatever happens later. -/
  answer : ∀ history call ongoing owned response later,
    (service.serve begun history).calls[call]? = some ⟨ongoing, .handling owned⟩ →
      (service.serve begun (history ++ .answers call response :: later)).calls[call]? =
        some ⟨ongoing, .answered response⟩
  /-- When a handler has answered, what is pending in the default scope of the request is handed to
  an execution, which is the only task that is made, and all else that is pending for requests that
  go then is thrown away. -/
  hands : ∀ history call ongoing owned response runtime,
    let desk := service.serve begun history
    let after := service.serve begun (history ++ [.answers call response])
    desk.calls[call]? = some ⟨ongoing, .handling owned⟩ → ongoing.ambient = some runtime →
      ledgers (history ++ [.answers call response]) =
          ((ledgers history).hand ⟨ongoing.request, defaultScope⟩ desk.server.tasks.length).lose
            after.server.live ∧
        after.server.tasks.length = desk.server.tasks.length + 1
  /-- On a runtime that is alive the execution attends to these entries, whatever happens, unless
  the runtime is shut down, and a report on it accounts for them. -/
  executes : ∀ history call ongoing owned response runtime later,
    let desk := service.serve begun history
    let handed := (desk.server.registry service.registry).entries ⟨ongoing.request, defaultScope⟩
    let server := (service.serve begun (history ++ .answers call response :: later)).server
    desk.calls[call]? = some ⟨ongoing, .handling owned⟩ → ongoing.ambient = some runtime →
    (desk.server.runtime runtime).alive →
    (∀ happening ∈ later, ¬happening.ShutsDown runtime) →
      handed = (ledgers history).pendingIn ⟨ongoing.request, defaultScope⟩ ∧
        server.Attends desk.server.tasks.length runtime defaultScope handed ∧
        ∀ report, server.report? desk.server.tasks.length = some report →
          report.Accounts defaultScope handed ∧
            ((handed.map Entry.prospect).filterMap doneLine?).Subperm server.log
  /-- Nothing is executed when a handler panics or its call is dropped, and what is pending for
  requests that go then is thrown away. -/
  fails : ∀ history call ongoing owned,
    let desk := service.serve begun history
    let after := service.serve begun (history ++ [.fails call])
    desk.calls[call]? = some ⟨ongoing, .handling owned⟩ →
      ledgers (history ++ [.fails call]) = (ledgers history).lose after.server.live ∧
        after.server.tasks.length = desk.server.tasks.length
  /-- When a call is over, with an answer or without, nothing of what it had is left in the tables,
  and nothing else is gone. -/
  released : ∀ history call ongoing owned happening,
    let desk := service.serve begun history
    let after := service.serve begun (history ++ [happening])
    desk.calls[call]? = some ⟨ongoing, .handling owned⟩ →
    (happening = .fails call ∨ ∃ response, happening = .answers call response) →
      LetsGo after.calls (ongoing.belongings owned) desk.server after.server
  /-- Nothing comes of what happens to a call that is over. -/
  ended : ∀ history call happening,
    happening.call? = some call →
    (∀ ongoing owned,
      (service.serve begun history).calls[call]? ≠ some ⟨ongoing, .handling owned⟩) →
      service.serve begun (history ++ [happening]) = service.serve begun history ∧
        ledgers (history ++ [happening]) = ledgers history
  /-- Nothing stands in any registry for a request on which there is no handle. -/
  gone : ∀ history id, (service.serve begun history).server.isHeld id = false →
    (∀ registry scope,
      ((service.serve begun history).server.registry registry).entries ⟨id, scope⟩ = []) ∧
    ∀ record ∈ ledgers history, record.slot.request = id → record.fate ≠ .pending

/-- A service has no calls in the beginning, and its registry is empty. -/
theorem exists_fits_opened (config : Config) (errands : List Server.Errand)
    {service : Service} {begun : Desk ρ}
    (hopened : opened config (Server.fresh.serve errands) = (service, begun)) :
    ∃ ledger, service.Fits begun.calls begun.server ledger := by
  obtain ⟨⟨ledger, hbalanced⟩, hcurrent⟩ := Server.exists_balanced_serve errands
  have hsettled := Server.settled_serve errands
  generalize Server.fresh.serve errands = server at hbalanced hcurrent hsettled hopened
  cases hopened
  exact ⟨ledger, {
    balanced := (Server.silent_newRegistry server ledger hbalanced.orderly).balanced hbalanced
    current := hcurrent
    settled := Server.settled_newRegistry hsettled
    registry := by
      show server.registries.length < (server.registries ++ [Registry.empty]).length
      rw [List.length_append]
      exact Nat.lt_succ_self _
    own_le := fun _ => Nat.zero_le _
    request_lt := by rintro _ _ ⟨⟩
    fixture := by rintro _ _ ⟨⟩ }⟩

/-- The execution that a call begins attends to what is pending in the default scope. -/
theorem attends_finish {service : Service} {calls : List (Served ρ)} {server : Server}
    {ledger : Ledger} {call : ℕ} {ongoing : Ongoing} {owned : List Belonging}
    {runtime : RuntimeId} (h : service.Fits calls server ledger)
    (hcall : calls[call]? = some ⟨ongoing, .handling owned⟩)
    (hambient : ongoing.ambient = some runtime) (halive : (server.runtime runtime).alive)
    (response : ρ) :
    (ongoing.finish server response).2.Attends server.tasks.length runtime defaultScope
      ((server.registry service.registry).entries ⟨ongoing.request, defaultScope⟩) := by
  -- The scope around the handler's future goes first. The call still has its own handle, so nobody
  -- loses the request, and nothing else changes.
  obtain ⟨hfirst, hsilent⟩ := h.closesFirst hcall
  obtain ⟨hholder, hruntime⟩ := h.holdsStill hcall
  have hbalanced := (hsilent ledger h.balanced.orderly).balanced h.balanced
  have hregistry : (server.request ongoing.request).registry = service.registry :=
    congrArg Prod.fst (h.fixture ongoing owned (List.mem_of_getElem? hcall))
  have halive' : ((server.closeScope ongoing.request).runtime runtime).alive := by
    rw [hfirst]
    exact halive
  have hbegun : ((server.closeScope ongoing.request).happen (.executes ongoing.request
      defaultScope ongoing.ambient)).Attends _ runtime defaultScope _ :=
    Server.attends_executes hbalanced hholder (hruntime.trans hambient) halive'
  -- So the execution that begins behind it finds the tasks and the registry as they were.
  have hexecutes : (server.closeScope ongoing.request).happen (.executes ongoing.request
      defaultScope ongoing.ambient) = ((server.closeScope ongoing.request).execute
        ongoing.request defaultScope ongoing.ambient).2 := if_pos hholder
  have hpending : ((server.closeScope ongoing.request).registry
      ((server.closeScope ongoing.request).request ongoing.request).registry) =
        server.registry service.registry := by
    rw [hfirst, ← hregistry]
    rfl
  rw [hexecutes, Server.tasks_closeScope, hpending] at hbegun
  exact attends_closeScope hbegun ongoing.request

/-- The execution that is begun when a handler has answered attends to what was pending then. -/
theorem attends_answers {service : Service} {desk : Desk ρ} {ledger : Ledger} {call : ℕ}
    {ongoing : Ongoing} {owned : List Belonging} {runtime : RuntimeId}
    (h : service.Fits desk.calls desk.server ledger)
    (hcall : desk.calls[call]? = some ⟨ongoing, .handling owned⟩)
    (hambient : ongoing.ambient = some runtime)
    (halive : (desk.server.runtime runtime).alive) (response : ρ) :
    (service.act desk (.answers call response)).server.Attends desk.server.tasks.length runtime
      defaultScope
      ((desk.server.registry service.registry).entries ⟨ongoing.request, defaultScope⟩) := by
  -- The future of the handler goes before. As the call has its own handles, what is pending for its
  -- request is what was pending then.
  obtain ⟨-, hparted, -⟩ := h.letsGo owned
  have hpending := Ledger.pendingIn_lose ledger (letGo desk.calls desk.server owned).live
    ⟨ongoing.request, defaultScope⟩
  rw [if_pos (hparted.request_live hcall), ← hparted.entries_own hcall, ← h.entries_own hcall]
    at hpending
  have halive' := (grows_letGo desk.calls desk.server owned).alive runtime halive
  have hattends := attends_finish hparted hcall hambient halive' response
  rw [length_tasks_letGo, hpending] at hattends
  rw [act_answers service hcall]
  exact hattends

/-- When a call is over, nothing of what it had is left, and nothing else is gone. -/
theorem letsGo_act {service : Service} {desk : Desk ρ} {ledger : Ledger} {call : ℕ}
    {ongoing : Ongoing} {owned : List Belonging} {happening : Happening ρ}
    (h : service.Fits desk.calls desk.server ledger)
    (hcall : desk.calls[call]? = some ⟨ongoing, .handling owned⟩)
    (hends : happening = .fails call ∨ ∃ response, happening = .answers call response) :
    LetsGo (service.act desk happening).calls (ongoing.belongings owned) desk.server
      (service.act desk happening).server := by
  obtain rfl | ⟨response, rfl⟩ := hends
  · obtain ⟨-, -, hreleased, -⟩ := h.fails hcall
    rw [act_fails service hcall]
    exact hreleased
  · obtain ⟨-, -, hreleased, -⟩ := h.answers hcall response
    rw [act_answers service hcall]
    exact hreleased

/-- Whatever has been done to the server before, whatever its handlers do, and in whatever order all
this happens: every service executes the default scopes of its requests when their handlers have
answered, and nothing else. -/
theorem runs_after_answers (config : Config) (errands : List Server.Errand) :
    let (service, begun) : Service × Desk ρ := opened config (Server.fresh.serve errands)
    ∃ ledgers, RunsAfterAnswers service begun ledgers := by
  generalize hopened : opened config (Server.fresh.serve errands) = made
  obtain ⟨service, begun⟩ := made
  obtain ⟨ledger, hfits⟩ := exists_fits_opened config errands hopened
  obtain ⟨ledgers, -, hcarried⟩ := Server.exists_carried service.act
    (fun desk ledger => service.Fits desk.calls desk.server ledger)
    (fun desk ledger happening ledger' => service.Goes desk ledger happening ledger')
    hfits fun _ _ happening h => exists_goes h happening
  have hgoes (history : List (Happening ρ)) (happening : Happening ρ) :
      service.Goes (service.serve begun history) (ledgers history) happening
        (ledgers (history ++ [happening])) :=
    hcarried history happening
  have hcalls (history : List (Happening ρ)) :
      service.Fits (service.serve begun history).calls (service.serve begun history).server
        (ledgers history) := (hgoes history (.fails 0)).fits
  have hafter (history : List (Happening ρ)) (happening : Happening ρ)
      (later : List (Happening ρ)) : service.serve begun (history ++ happening :: later) =
        service.serve (service.act (service.serve begun history) happening) later :=
    serve_append _ _ _ _
  have hnext := serve_concat service begun
  have hdeeds := deeds_serve hgoes
  refine ⟨ledgers, {
    balanced := fun history => (hcalls history).balanced
    deeds := fun history later => ⟨hdeeds history later, (hdeeds history later).precedes.ledger⟩
    arrives := fun history message ambient => ?arrives
    polls := fun history call ongoing owned doings hcall => ?polls
    trades := fun history call owned => ?trades
    does := fun history doing => ?does
    answer := fun history call ongoing owned response later hcall => ?answer
    hands := fun history call ongoing owned response runtime hcall hambient => ?hands
    executes := fun history call ongoing owned response runtime later hcall hambient halive hkept =>
      ?executes
    fails := fun history call ongoing owned hcall => ?fails
    released := fun history call ongoing owned happening hcall hends => ?released
    ended := fun history call happening hcall hover => ?ended
    gone := fun history id hfree => (hcalls history).gone hfree }⟩
  case arrives =>
    refine ⟨(hgoes history (.arrives message ambient)).entered, ?_⟩
    rw [hnext]
    exact ⟨rfl, _, rfl, rfl, rfl⟩
  case polls =>
    obtain ⟨hentered, hleft⟩ := stock_poll (service.serve begun history).calls ongoing
      (service.serve begun history).server doings
    refine ⟨hentered, (hgoes history (.polls call doings)).entered ongoing owned hcall, ?_⟩
    rw [hnext, server_act_polls service hcall]
    exact hleft
  case trades =>
    refine ⟨(hgoes history (.trades call owned)).entered, ?_⟩
    rw [hnext]
    exact server_act_trades service _ call owned
  case does =>
    refine ⟨(hgoes history (.does doing)).entered, ?_⟩
    rw [hnext]
    rfl
  case answer =>
    rw [hafter]
    refine answered_serve ?_ later
    rw [act_answers service hcall]
    exact List.getElem?_set_self (List.getElem?_eq_some_iff.mp hcall).1
  case hands =>
    have hentered := (hgoes history (.answers call response)).entered ongoing owned hcall
    obtain ⟨-, -, -, htasks⟩ := (hcalls history).answers hcall response
    rw [hnext]
    rw [Ongoing.entered, hambient] at hentered
    refine ⟨hentered, ?_⟩
    rw [act_answers service hcall]
    exact htasks runtime hambient
  case executes =>
    have hbegun := attends_answers (hcalls history) hcall hambient halive response
    have hattends := attends_serve service hbegun hkept
    rw [← hafter] at hattends
    refine ⟨(hcalls history).entries_own hcall _, hattends, fun report hreport => ?_⟩
    obtain ⟨haccounts, hwritten, -⟩ := hattends.accounts hreport
    exact ⟨haccounts, hwritten⟩
  case fails =>
    obtain ⟨-, -, -, htasks⟩ := (hcalls history).fails hcall
    rw [hnext]
    refine ⟨(hgoes history (.fails call)).entered, ?_⟩
    rw [act_fails service hcall]
    exact htasks
  case released =>
    rw [hnext]
    exact letsGo_act (hcalls history) hcall hends
  case ended =>
    refine ⟨?_, (hgoes history happening).ended call hcall hover⟩
    rw [hnext]
    exact act_of_over service hcall hover

/-- Two messages come in. The handler of the first one registers an entry in the default scope and
another one in a scope of its own, that of the second one registers an entry and panics. -/
def twoHandled : List (Happening String) :=
  let message : Message := ⟨"GET", ⟨none, none, "/a", none⟩, .empty, .http11, []⟩
  let adds (id : RequestId) (name scope : String) : Doing := ⟨none, .adds id name scope [] none []⟩
  [.arrives message (some 0), .arrives message (some 0),
    .polls 0 [adds 0 "a" defaultScope, adds 0 "b" "other"], .polls 1 [adds 1 "c" defaultScope],
    .fails 1]

/-- The first handler answers, and two rounds later its entry in the default scope has run, and only
this one. Nobody has to drop any handles for the others to go. -/
theorem runs_after_answers_of_two :
    let made : Service × Desk String := opened default Server.fresh
    let desk := made.1.serve made.2 twoHandled
    let round : Happening String := .does ⟨none, .does (.rounds 0) trivial⟩
    let later := made.1.serve made.2 (twoHandled ++ .answers 0 "done" :: [round, round])
    let report : Report := ⟨defaultScope, 1, []⟩
    ∃ ledgers, RunsAfterAnswers made.1 made.2 ledgers ∧
      desk.server.log = [] ∧ desk.server.live = [0] ∧
      ((ledgers twoHandled).pendingIn ⟨0, defaultScope⟩).map Entry.name = ["a"] ∧
      later.calls[0]? = some ⟨⟨0, some 0⟩, .answered "done"⟩ ∧
      later.server.log = ["a|start|/a|true", "a|done"] ∧
      later.server.tables = ([none, none], [], []) ∧
      later.server.report? 0 = some report ∧
      report.Accounts defaultScope ((ledgers twoHandled).pendingIn ⟨0, defaultScope⟩) ∧
      ∀ registry scope, (later.server.registry registry).entries ⟨0, scope⟩ = [] := by
  intro made desk round later report
  obtain ⟨ledgers, h⟩ : ∃ ledgers, RunsAfterAnswers made.1 made.2 ledgers :=
    runs_after_answers default []
  have hcall : desk.calls[0]? = some ⟨⟨0, some 0⟩, .handling [.handle 0]⟩ := by cbv
  have halive : (desk.server.runtime 0).alive := by cbv
  have hkept : ∀ happening ∈ [round, round], ¬happening.ShutsDown 0 := by
    intro happening hmem
    simp only [List.mem_cons, List.not_mem_nil, or_false, or_self] at hmem
    rw [hmem]
    intro hshuts
    cases hshuts
  have htasks : desk.server.tasks.length = 0 := by cbv
  have hreport : later.server.report? desk.server.tasks.length = some report := by
    rw [htasks]
    cbv
  obtain ⟨hpending, -, hreports⟩ :=
    h.executes twoHandled 0 _ _ "done" 0 [round, round] hcall rfl halive hkept
  have haccounts := (hreports report hreport).1
  rw [hpending] at haccounts
  have hgone := h.gone (twoHandled ++ .answers 0 "done" :: [round, round]) 0 (by cbv)
  rw [htasks] at hreport
  refine ⟨ledgers, h, by cbv, by cbv, ?_, by cbv, by cbv, by cbv, hreport, haccounts, hgone.1⟩
  rw [← hpending]
  cbv

end Adapter.Service

end Inbound
