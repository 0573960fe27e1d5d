import Mathlib.Data.List.Basic
import Inbound.Server.Run

/-!
# The stock of deferred work

Of all that goes on in a server little has to do with deferred work: the registries and which of
them each request uses, the requests that are alive, and what the tasks have in their hands. This
is the stock. Reading a body, waking a task or writing to the log leaves it as it is.

## Main results

* `Server.stock`: the stock of a server;
* `Server.stock_setActivity`, `Server.stock_spawn`: how tasks change it;
* `Server.stock_wake`, `Server.stock_onRequest`, `Server.stock_meet` and so on: what does not.
-/

namespace Inbound

open Deferred

/-! ### Stakes -/

/-- What a task has in its hands of the deferred work. -/
inductive Stake where
  /-- It executes a scope, and these entries have no task of their own yet. -/
  | holding (request : RequestId) (entries : List (Entry Job))
  /-- It is to call an entry. -/
  | starting (running : Running)
  /-- It has called an entry of this name, for an execution. -/
  | started (request : RequestId) (name : String) (execution : TaskId)

/-- The request that it is all for. -/
def Stake.request : Stake → RequestId
  | .holding request _ => request
  | .starting running => running.request
  | .started request _ _ => request

/-- An entry counts as called from the first turn of its task on. -/
def Running.stake (running : Running) (turn : Bool) : Stake :=
  match running.wait, turn with
  | .start, false => .starting running
  | _, _ => .started running.request running.name running.execution

/-- What a task has in its hands that does this. -/
def Activity.stake? (activity : Activity) (turn : Bool) : Option Stake :=
  match activity with
  | .executing execution => some (.holding execution.request execution.entries)
  | .running entry => some (entry.stake turn)
  | _ => none

@[simp]
theorem Activity.stake?_cancelled (activity : Activity) (turn : Bool) :
    activity.cancelled.stake? turn = none := by
  cases activity <;> rfl

/-- Whoever takes a turn has called the entry. -/
theorem Running.stake_turn (running : Running) :
    running.stake true = .started running.request running.name running.execution := by
  obtain ⟨_, _, _, _, _, wait, _⟩ := running
  cases wait <;> rfl

/-- Whoever waits for anything but the first turn has called the entry. -/
theorem Running.stake_of_ne_start {running : Running} (h : running.wait ≠ .start) (turn : Bool) :
    running.stake turn = .started running.request running.name running.execution := by
  obtain ⟨_, _, _, _, _, wait, _⟩ := running
  cases wait with
  | start => exact absurd rfl h
  | _ => rfl

/-- A turn means nothing for the hands of a task unless it calls its entry then. -/
theorem Activity.stake?_turn (activity : Activity) :
    activity.stake? true = activity.stake? false ∨
      ∃ running : Running, activity.stake? false = some (.starting running) ∧
        activity.stake? true =
          some (.started running.request running.name running.execution) := by
  cases activity with
  | running entry =>
    obtain ⟨name, request, execution, held, panicOnCall, wait, acts⟩ := entry
    cases wait with
    | start => exact .inr ⟨_, rfl, rfl⟩
    | _ => exact .inl rfl
  | _ => exact .inl rfl

/-- A task that has something in its hands holds the request that it is for. -/
theorem Activity.holds_of_stake? {activity : Activity} {turn : Bool} {stake : Stake}
    (h : activity.stake? turn = some stake) : activity.holds stake.request := by
  cases activity with
  | executing execution =>
    cases h
    simp [Activity.holds, Stake.request]
  | running entry =>
    cases h
    have hrequest : (entry.stake turn).request = entry.request := by
      obtain ⟨_, _, _, _, _, wait, _⟩ := entry
      cases wait <;> cases turn <;> rfl
    simp [Activity.holds, hrequest]
  | _ => cases h

/-! ### Stocks -/

/-- What a server has to do with deferred work. -/
@[ext]
structure Stock where
  /-- The registries. -/
  registries : List (Registry Job)
  /-- The registries that the requests use. -/
  homes : List RegistryId
  /-- The requests that are alive. -/
  live : List RequestId
  /-- The requests that someone has who may register, execute and clear. -/
  holders : List RequestId
  /-- The moment of the next registration. -/
  clock : Nat
  /-- The task whose turn it is. -/
  current : Option TaskId
  /-- What the tasks have in their hands. -/
  stakes : List (Option Stake)

namespace Stock

/-- The registry of a number. -/
def registry (stock : Stock) (id : RegistryId) : Registry Job :=
  stock.registries.getD id .empty

/-- The registry that a request uses. -/
def home (stock : Stock) (request : RequestId) : RegistryId :=
  stock.homes.getD request 0

/-- Replaces a registry. -/
def setRegistry (stock : Stock) (id : RegistryId) (registry : Registry Job) : Stock :=
  { stock with registries := stock.registries.set id registry }

/-- Changes what a task has in its hands. -/
def setStake (stock : Stock) (task : TaskId) (stake : Option Stake) : Stock :=
  { stock with stakes := stock.stakes.set task stake }

/-- There is a new task. -/
def spawn (stock : Stock) (stake : Option Stake) : Stock :=
  { stock with stakes := stock.stakes ++ [stake] }

/-- An entry is registered. -/
def register (stock : Stock) (slot : Slot) (entry : Entry Job) : Stock :=
  { stock with clock := stock.clock + 1 }.setRegistry (stock.home slot.request)
    ((stock.registry (stock.home slot.request)).add slot entry)

/-- A slot is emptied. -/
def take (stock : Stock) (slot : Slot) : Stock :=
  stock.setRegistry (stock.home slot.request)
    ((stock.registry (stock.home slot.request)).take slot).2

/-- All slots of a request are emptied. -/
def discard (stock : Stock) (request : RequestId) : Stock :=
  stock.setRegistry (stock.home request) ((stock.registry (stock.home request)).discard request).2

/-- A request is gone, and its slots are emptied. -/
def drop (stock : Stock) (request : RequestId) : Stock :=
  { stock.discard request with live := stock.live.erase request }

/-- There is a new request, which uses a registry. -/
def build (stock : Stock) (home : RegistryId) : Stock :=
  { stock with
    homes := stock.homes ++ [home]
    live := stock.live ++ [stock.homes.length] }

/-- Who gets what they have in their hands anyway has it. -/
theorem setStake_self {stock : Stock} {task : TaskId} {stake : Option Stake}
    (h : stock.stakes[task]? = some stake) : stock.setStake task stake = stock := by
  obtain ⟨hlt, rfl⟩ := List.getElem?_eq_some_iff.mp h
  rw [setStake, List.set_getElem_self]

theorem setStake_setStake (stock : Stock) (task : TaskId) (stake stake' : Option Stake) :
    (stock.setStake task stake).setStake task stake' = stock.setStake task stake' := by
  rw [setStake, setStake, List.set_set]
  rfl

end Stock

namespace Server

/-- The requests of the handles in the table and of the scoped futures. -/
def holders (server : Server) : List RequestId :=
  server.handles.filterMap id ++ server.within

/-- The stock of a server. -/
def stock (server : Server) : Stock where
  registries := server.registries
  homes := server.requests.map (·.registry)
  live := server.live
  holders := server.holders
  clock := server.clock
  current := server.current
  stakes := server.tasks.mapIdx fun id task => task.activity.stake? (server.current = some id)

theorem home_stock (server : Server) (id : RequestId) :
    server.stock.home id = (server.request id).registry := by
  rw [request, List.getD_eq_getElem?_getD, Stock.home, List.getD_eq_getElem?_getD]
  show ((server.requests.map (·.registry))[id]?).getD 0 = _
  rw [List.getElem?_map]
  cases server.requests[id]? <;> rfl

theorem getElem?_stakes (server : Server) (id : TaskId) :
    server.stock.stakes[id]? =
      server.tasks[id]?.map fun task => task.activity.stake? (server.current = some id) :=
  List.getElem?_mapIdx

@[simp]
theorem length_stakes (server : Server) : server.stock.stakes.length = server.tasks.length :=
  List.length_mapIdx

/-- The stakes stay what they are if each task keeps what it has in its hands. -/
theorem stakes_congr {server server' : Server}
    (h : ∀ id : TaskId,
      server'.tasks[id]?.map (fun task : Task => task.activity.stake? (server'.current = some id)) =
        server.tasks[id]?.map fun task : Task =>
          task.activity.stake? (server.current = some id)) :
    server'.stock.stakes = server.stock.stakes := by
  refine List.ext_getElem? fun id => ?_
  rw [getElem?_stakes, getElem?_stakes, h]

/-! ### What leaves the stock alone -/

@[simp]
theorem stock_write (server : Server) (line : String) : (server.write line).stock = server.stock :=
  rfl

@[simp]
theorem stock_changeRuntime (server : Server) (id : RuntimeId) (change : RunQueue → RunQueue) :
    (server.changeRuntime id change).stock = server.stock := rfl

/-- A request keeps its registry, whatever else is done to it. -/
theorem stock_setRequest {server : Server} {id : RequestId} {request : Request}
    (h : request.registry = (server.request id).registry) :
    (server.setRequest id request).stock = server.stock := by
  -- The stock sees nothing of a request but the registry that it uses.
  have hhomes : (server.requests.set id request).map (·.registry) =
      server.requests.map (·.registry) := by
    refine List.ext_getElem? fun other => ?_
    rw [List.getElem?_map, List.getElem?_map, List.getElem?_set]
    split
    case isFalse => rfl
    case isTrue heq =>
      subst heq
      split
      case isTrue hid =>
        rw [Server.request, List.getD_eq_getElem?_getD, List.getElem?_eq_getElem hid] at h
        rw [List.getElem?_eq_getElem hid, Option.map_some, Option.map_some, h]
        rfl
      case isFalse hid => rw [List.getElem?_eq_none (Nat.le_of_not_lt hid), Option.map_none]
  ext1 <;> first | exact hhomes | rfl

/-- A task keeps what it has in its hands as long as it does the same. -/
theorem stock_changeTask_of_activity {server : Server} {id : TaskId} {change : Task → Task}
    (h : ∀ task, (change task).activity = task.activity) :
    (server.changeTask id change).stock = server.stock := by
  -- The stock sees nothing of a task but what it has in its hands.
  have hstakes : (server.changeTask id change).stock.stakes = server.stock.stakes := by
    refine stakes_congr fun other => ?_
    rw [changeTask, List.getElem?_modify]
    cases server.tasks[other]? with
    | none => rfl
    | some task =>
      by_cases heq : id = other <;> simp [heq, h]
  ext1 <;> first | exact hstakes | rfl

@[simp]
theorem stock_wakeFrom (server : Server) (origin : Option RuntimeId) (id : TaskId) :
    (server.wakeFrom origin id).stock = server.stock := by
  unfold wakeFrom
  split
  · rfl
  · split
    · rfl
    · dsimp only
      split
      · exact stock_changeTask_of_activity fun _ => rfl
      · rw [stock_changeRuntime]
        exact stock_changeTask_of_activity fun _ => rfl

@[simp]
theorem stock_wake (server : Server) (id : TaskId) : (server.wake id).stock = server.stock :=
  stock_wakeFrom _ _ _

/-- What leaves the stock alone may be repeated. -/
theorem stock_foldl {ι : Type} {act : Server → ι → Server}
    (h : ∀ server i, (act server i).stock = server.stock) (server : Server) (list : List ι) :
    (list.foldl act server).stock = server.stock := by
  -- Each step leaves the stock alone, so the next one starts from the same.
  induction list generalizing server with
  | nil => rfl
  | cons i rest ih => rw [List.foldl_cons, ih, h]

@[simp]
theorem stock_deliver (server : Server) (id : RequestId) :
    (server.deliver id).stock = server.stock := by
  unfold deliver
  dsimp only
  -- Waking those who are told changes no stock, and the request keeps its registry.
  rw [stock_foldl]
  · exact stock_setRequest rfl
  · intro server ticket
    split
    · rfl
    · exact stock_wake _ _

/-- What is done with a request leaves the stock alone if the request keeps its registry. -/
theorem stock_onRequest {α : Type} {server : Server} {id : RequestId}
    {act : Request → α × Request} (h : ∀ request, (act request).2.registry = request.registry) :
    (server.onRequest id act).2.stock = server.stock := by
  unfold onRequest
  dsimp only
  rw [stock_deliver]
  exact stock_setRequest (h _)

@[simp]
theorem stock_stepAside (server : Server) (task : TaskId) :
    (server.stepAside task).stock = server.stock := by
  unfold stepAside
  split <;> rfl

@[simp]
theorem stock_meet (server : Server) (task : TaskId) (name : String) (parties : Nat) :
    (server.meet task name parties).2.stock = server.stock := by
  unfold meet
  dsimp only
  split
  · exact stock_foldl stock_wake _ _
  · rfl

/-! ### Bodies -/

theorem registry_beginCall (request : Request) (wanted : BodyCall) :
    (request.beginCall wanted).2.registry = request.registry := by
  cases wanted <;> rfl

theorem registry_pollCall (request : Request) (call : Call) :
    (request.pollCall call).2.2.registry = request.registry := by
  -- The charset may be resolved and kept, which has nothing to do with the registry.
  have hcharset (request : Request) : (Request.charset request).2.registry = request.registry := by
    obtain ⟨head, views, body, store, events, choice, resolution, matchdict, socket, registry,
      runtime⟩ := request
    cases choice <;> rfl
  unfold Request.pollCall
  split
  · split
    · rfl
    · exact hcharset _
  · split <;> rfl
  · split <;> rfl

theorem registry_abandonCall (request : Request) (call : Call) :
    (request.abandonCall call).registry = request.registry := rfl

/-- A call on a body is polled. -/
theorem stock_pollCall (server : Server) (id : RequestId) (call : Call) :
    (server.onRequest id fun request =>
      let (answer, call, request) := request.pollCall call
      ((answer, call), request)).2.stock = server.stock :=
  stock_onRequest fun request => registry_pollCall request call

@[simp]
theorem stock_pollRead (server : Server) (name : String) (id : RequestId) (call : Call) :
    (server.pollRead name id call).2.stock = server.stock := by
  have hpoll := stock_pollCall server id call
  unfold pollRead
  dsimp only
  split <;> exact hpoll

@[simp]
theorem stock_beginRead (server : Server) (task : TaskId) (id : RequestId) :
    (server.beginRead task id).2.stock = server.stock := by
  have hkeep := registry_beginCall (server.request id) .read
  exact Eq.trans (stock_setRequest hkeep) rfl

/-! ### What changes the stock -/

theorem stock_changeTask {server : Server} {id : TaskId} {change : Task → Task}
    {stake : Option Stake}
    (h : ∀ task, server.tasks[id]? = some task →
      (change task).activity.stake? (server.current = some id) = stake) :
    (server.changeTask id change).stock = server.stock.setStake id stake := by
  -- The stakes are compared place by place.
  have hstakes : (server.changeTask id change).stock.stakes =
      server.stock.stakes.set id stake := by
    refine List.ext_getElem? fun other => ?_
    rw [getElem?_stakes, changeTask, List.getElem?_modify, List.getElem?_set]
    by_cases heq : id = other
    · subst heq
      rw [if_pos rfl, length_stakes]
      by_cases hid : id < server.tasks.length
      · rw [if_pos hid, List.getElem?_eq_getElem hid]
        simp only [if_true]
        exact congrArg some (h _ (List.getElem?_eq_getElem hid))
      · rw [if_neg hid, List.getElem?_eq_none (Nat.le_of_not_lt hid)]
        rfl
    · rw [if_neg heq, getElem?_stakes]
      cases server.tasks[other]? <;> simp [heq]
  ext1 <;> first | exact hstakes | rfl

theorem stock_setActivity (server : Server) (id : TaskId) (activity : Activity) :
    (server.setActivity id activity).stock =
      server.stock.setStake id (activity.stake? (server.current = some id)) :=
  stock_changeTask fun _ _ => rfl

theorem stock_concat (server : Server) (task : Task) :
    { server with tasks := server.tasks ++ [task] }.stock =
      server.stock.spawn (task.activity.stake? (server.current = some server.tasks.length)) := by
  have hstakes : { server with tasks := server.tasks ++ [task] }.stock.stakes =
      server.stock.stakes ++ [task.activity.stake? (server.current = some server.tasks.length)] :=
    List.mapIdx_concat
  ext1 <;> first | exact hstakes | rfl

/-- A new task has its part in its hands unless its runtime has been shut down. -/
theorem stock_spawn (server : Server) (runtime : RuntimeId) (activity : Activity) (near : Bool) :
    (server.spawn runtime activity near).2.stock = server.stock.spawn
      (if (server.runtime runtime).alive then
        activity.stake? (server.current = some server.tasks.length)
      else none) := by
  unfold spawn
  dsimp only
  split
  · rw [stock_changeRuntime, stock_concat]
  · rw [stock_concat, Activity.stake?_cancelled]

/-! ### Turns -/

theorem activity?_setActivity (server : Server) (id other : TaskId) (activity : Activity) :
    (server.setActivity id activity).activity? other =
      if id = other then (server.activity? other).map fun _ => activity
      else server.activity? other := by
  rw [activity?, activity?, setActivity, changeTask, List.getElem?_modify]
  by_cases heq : id = other <;> cases server.tasks[other]? <;> simp [heq]

/-- A task does what it has been set to do. -/
theorem eq_of_setActivity {server : Server} {id : TaskId} {activity activity' : Activity}
    (h : (server.setActivity id activity).activity? id = some activity') :
    activity' = activity := by
  rw [activity?_setActivity, if_pos rfl] at h
  obtain ⟨_, -, heq⟩ := Option.map_eq_some_iff.mp h
  exact heq.symm

@[simp]
theorem activity?_wake (server : Server) (id other : TaskId) :
    (server.wake id).activity? other = server.activity? other := by
  have hready (server : Server) :
      (server.changeTask id fun task => { task with ready := true }).activity? other =
        server.activity? other := by
    rw [activity?, activity?, changeTask, List.getElem?_modify]
    by_cases heq : id = other <;> cases server.tasks[other]? <;> simp [heq]
  unfold wake wakeFrom
  split
  · rfl
  · split
    · rfl
    · dsimp only
      split
      · exact hready server
      · exact hready server

/-- What a task has in its hands follows from what it does. -/
theorem getElem?_stakes_of_activity? {server : Server} {id : TaskId} {activity : Activity}
    (h : server.activity? id = some activity) :
    server.stock.stakes[id]? = some (activity.stake? (server.current = some id)) := by
  obtain ⟨task, htask, rfl⟩ := Option.map_eq_some_iff.mp h
  rw [getElem?_stakes, htask, Option.map_some]

/-- A task that goes on as before keeps what it has in its hands. -/
theorem stock_setActivity_of_stake? {server : Server} {id : TaskId} {activity activity' : Activity}
    (h : server.activity? id = some activity)
    (hsame : ∀ turn, activity'.stake? turn = activity.stake? turn) :
    (server.setActivity id activity').stock = server.stock := by
  rw [stock_setActivity, hsame]
  exact Stock.setStake_self (getElem?_stakes_of_activity? h)

/-- The server when a task takes its turn. -/
def enterTurn (server : Server) (task : TaskId) : Server :=
  { server with current := some task }.changeTask task fun task => { task with ready := false }

/-- The server when a task has taken its turn; the task is queued again if it can go on. -/
def leaveTurn (server : Server) (task : TaskId) (runtime : RuntimeId) : Server :=
  let server := { server with current := none }
  let again := server.tasks[task]?.any fun task => task.ready && !task.activity.isOver
  if again then server.changeRuntime runtime (·.push task true) else server

/-- When its turn begins, a task has called its entry. -/
theorem stock_enterTurn {server : Server} {task : TaskId} {activity : Activity}
    (hcurrent : server.current = none) (h : server.activity? task = some activity) :
    (server.enterTurn task).stock =
      { server.stock.setStake task (activity.stake? true) with current := some task } := by
  -- That the task is not queued any more is nothing to the stock; that it is its turn is.
  refine Eq.trans (stock_changeTask_of_activity fun _ => rfl) ?_
  have hstakes : { server with current := some task }.stock.stakes =
      server.stock.stakes.set task (activity.stake? true) := by
    refine List.ext_getElem? fun other => ?_
    rw [getElem?_stakes, List.getElem?_set]
    by_cases heq : task = other
    · subst heq
      obtain ⟨found, hfound, rfl⟩ := Option.map_eq_some_iff.mp h
      have hlt : task < server.stock.stakes.length := by
        rw [length_stakes]
        exact (List.getElem?_eq_some_iff.mp hfound).1
      rw [if_pos rfl, if_pos hlt, hfound, Option.map_some, decide_eq_true rfl]
    · rw [if_neg heq, getElem?_stakes, hcurrent]
      cases server.tasks[other]? <;> simp [heq]
  ext1 <;> first | exact hstakes | rfl

theorem activity?_enterTurn (server : Server) (task : TaskId) :
    (server.enterTurn task).activity? task = server.activity? task := by
  rw [enterTurn, activity?, activity?, changeTask, List.getElem?_modify]
  cases server.tasks[task]? <;> simp

/-- When its turn ends, a task keeps what it has in its hands if it has called its entry. -/
theorem stock_leaveTurn {server : Server} {task : TaskId} (hcurrent : server.current = some task)
    (h : ∀ activity, server.activity? task = some activity →
      activity.stake? true = activity.stake? false) (runtime : RuntimeId) :
    (server.leaveTurn task runtime).stock = { server.stock with current := none } := by
  -- Whether the task is queued again is nothing to the stock.
  have hqueued : (server.leaveTurn task runtime).stock = { server with current := none }.stock := by
    unfold leaveTurn
    dsimp only
    split
    · exact stock_changeRuntime _ _ _
    · rfl
  -- Only the task whose turn it was could be seen differently, and it has called its entry.
  have hstakes : { server with current := none }.stock.stakes = server.stock.stakes := by
    refine stakes_congr fun other => ?_
    rcases hfound : server.tasks[other]? with - | found
    · rfl
    · simp only [Option.map_some, hcurrent, Option.some.injEq, reduceCtorEq, decide_false]
      by_cases heq : task = other
      · subst heq
        rw [decide_eq_true rfl, h found.activity]
        rw [activity?, hfound, Option.map_some]
      · rw [decide_eq_false heq]
  rw [hqueued]
  ext1 <;> first | exact hstakes | rfl

end Server

end Inbound
