import Inbound.Proofs.Deferred.Dealings

/-!
# What tasks do with deferred work

A task takes its turn, does what it can do, and leaves. An entry that has its first turn is called
then; in the same turn it may register and execute, also in the very scope that it came from, and
release the last handle on other requests. An execution gives each of its entries a task. All this
amounts to deeds, whatever the order in which the tasks take their turns.

## Main results

* `Server.goes_perform`: whatever an entry does up to the next thing that it waits for;
* `Server.becomes_stepExecution`: an execution gives its entries away;
* `Server.deeds_step`: a turn of any task; `Server.becomes_round`: a round of a runtime;
* `Server.deeds_shutDown`: the end of all tasks of a runtime.
-/

namespace Inbound

open Deferred

/-- The ledger when a task that does this has taken its turn: an entry that has not been called is
called now. -/
def Activity.called (activity : Activity) (task : TaskId) (ledger : Ledger) : Ledger :=
  match activity.stake? false with
  | some (.starting entry) => ledger.call entry.execution task
  | _ => ledger

/-- Nothing is called by whoever has called before or has nothing to call. -/
theorem Activity.called_of_stake? {activity : Activity}
    (h : activity.stake? true = activity.stake? false) (task : TaskId) (ledger : Ledger) :
    activity.called task ledger = ledger := by
  rw [called, ← h]
  cases activity with
  | running entry => rw [stake?, Running.stake_turn]
  | _ => rfl

namespace Server

/-! ### The turn of an entry -/

/-- Whatever an entry does up to the next thing that it waits for. -/
theorem goes_perform (task : TaskId) (self : Running) (acts : List Act) (server : Server)
    (h : server.stock.Engaged self.request) :
    server.stock.Goes (server.perform task self acts).2.stock := by
  -- Each act changes the server, so the induction is for all servers.
  induction acts generalizing server with
  | nil => exact .refl _
  | cons act rest ih =>
    -- One act, and then the rest, in which the entry still has its hands on its request.
    have hrest {server' : Server} (hgoes : server.stock.Goes server'.stock) :
        server.stock.Goes (server'.perform task self rest).2.stock :=
      hgoes.trans (ih server' (h.mono hgoes))
    cases act with
    | pause times =>
      -- A pause of no time is none.
      cases times with
      | zero => exact ih server h
      | succ times => exact .of_eq (stock_stepAside _ _)
    | note text => exact hrest (.of_eq (stock_write _ _))
    | keep key value => exact hrest (.of_eq (stock_setRequest rfl))
    | register name scope panicOnCall acts => exact hrest (goes_addEntry h _ _ _)
    | readBody =>
      have hread : ((server.beginRead task self.request).2.pollRead self.name self.request
          (server.beginRead task self.request).1).2.stock = server.stock := by
        rw [stock_pollRead, stock_beginRead]
      rw [perform]
      rcases hbegin : server.beginRead task self.request with ⟨call, begun⟩
      rw [hbegin] at hread
      dsimp only at hread ⊢
      split
      next heq => rw [heq] at hread; exact .of_eq hread
      next heq => rw [heq] at hread; exact hrest (.of_eq hread)
    | meet barrier parties =>
      have hmeet := stock_meet server task barrier parties
      rw [perform]
      split
      next heq => rw [heq] at hmeet; exact .of_eq hmeet
      next heq => rw [heq] at hmeet; exact hrest (.of_eq hmeet)
    | execute scope => exact hrest (goes_execute h _ _)
    | checkBinding => exact hrest (.of_eq (stock_write _ _))
    | hang => exact .refl _
    | giveUp reason => exact .refl _
    | panic panic => exact .refl _

/-- Whatever an entry does in one turn. -/
theorem goes_resume {task : TaskId} {self : Running} {server : Server}
    (h : server.stock.Engaged self.request) :
    server.stock.Goes (server.resume task self).2.stock := by
  unfold resume
  -- What the entry was waiting for decides where it goes on.
  split
  case h_1 =>
    unfold call
    dsimp only
    split
    · exact .of_eq (stock_write _ _)
    · exact .trans (.of_eq (stock_write _ _)) (goes_perform _ _ _ _ h)
  case h_2 =>
    split
    · exact goes_perform _ _ _ _ h
    · exact .of_eq (stock_stepAside _ _)
  case h_3 waiting _ =>
    have hread := stock_pollRead server self.name self.request waiting
    split
    next heq => rw [heq] at hread; exact .of_eq hread
    next heq =>
      rw [heq] at hread
      exact .trans (.of_eq hread) (goes_perform _ _ _ _ (h.mono (.of_eq hread)))
  case h_4 =>
    split
    · exact .trans (.of_eq (stock_write _ _)) (goes_perform _ _ _ _ h)
    · exact .refl _
  case h_5 => exact .refl _

/-- Whatever an entry waits for when a turn ends, it is not its first turn. -/
theorem ne_start_of_perform {task : TaskId} {self : Running} {acts rest : List Act}
    {server : Server} {wait : Wait} (h : (server.perform task self acts).1 = .waits wait rest) :
    wait ≠ .start := by
  -- Only acts make an entry wait, and none of them makes it wait for its first turn.
  induction acts generalizing server with
  | nil => cases h
  | cons act acts ih =>
    cases act with
    | pause times =>
      cases times with
      | zero => exact ih h
      | succ times => cases h; rintro ⟨⟩
    | readBody =>
      rw [perform] at h
      dsimp only at h
      split at h
      · cases h
        rintro ⟨⟩
      · exact ih h
    | meet barrier parties =>
      rw [perform] at h
      split at h
      · cases h
        rintro ⟨⟩
      · exact ih h
    | hang => cases h; rintro ⟨⟩
    | giveUp reason => cases h
    | panic panic => cases h
    | _ => exact ih h

theorem ne_start_of_resume {task : TaskId} {self : Running} {rest : List Act} {server : Server}
    {wait : Wait} (h : (server.resume task self).1 = .waits wait rest) : wait ≠ .start := by
  unfold resume at h
  -- Whoever is resumed waits for the same as before or for what its acts make it wait for.
  split at h
  case h_1 =>
    unfold call at h
    dsimp only at h
    split at h
    · cases h
    · exact ne_start_of_perform h
  case h_2 =>
    split at h
    · exact ne_start_of_perform h
    · cases h
      rintro ⟨⟩
  case h_3 =>
    split at h
    · cases h
      rintro ⟨⟩
    · exact ne_start_of_perform h
  case h_4 hwait =>
    split at h
    · exact ne_start_of_perform h
    · cases h
      rw [hwait]
      rintro ⟨⟩
  case h_5 =>
    cases h
    rintro ⟨⟩

/-- The task of an entry that has ended is over, and its execution goes on with what it has. -/
theorem becomes_finishEntry (server : Server) (task : TaskId) (self : Running)
    (outcome : Except Failure Unit) :
    server.stock.Becomes (server.finishEntry task self outcome).stock ∧
      (server.finishEntry task self outcome).current = server.current ∧
      ∀ activity, (server.finishEntry task self outcome).activity? task = some activity →
        activity = .over := by
  have hover : (server.setActivity task .over).stock = server.stock.setStake task none :=
    stock_setActivity _ _ _
  have hends : server.stock.Becomes (server.setActivity task .over).stock := by
    rw [hover]
    exact .ends _ _
  have hactivity : ∀ activity,
      (server.setActivity task .over).activity? task = some activity → activity = .over :=
    fun _ => eq_of_setActivity
  -- The execution counts one that has ended, and keeps what it has in its hands.
  unfold finishEntry
  dsimp only
  split
  case h_1 execution hexecution =>
    -- The task is not its own execution, since it is over.
    have hne : self.execution ≠ task := by
      rintro heq
      rw [heq] at hexecution
      cases hactivity _ hexecution
    refine ⟨?_, ?_, fun activity h => hactivity activity ?_⟩
    · refine hends.trans (Stock.Goes.of_eq ?_).becomes
      rw [stock_wake]
      exact stock_setActivity_of_stake? hexecution fun _ => rfl
    · exact congrArg Stock.current (stock_wake _ _)
    · rw [activity?_wake, activity?_setActivity, if_neg hne] at h
      exact h
  case h_2 => exact ⟨hends, rfl, hactivity⟩

/-- It makes no difference to deferred work which request is bound. -/
theorem goes_bind {α : Type} {act : Server → α × Server} {server : Server} (id : RequestId)
    (h : ∀ bound : Server, bound.stock = server.stock → bound.stock.Goes (act bound).2.stock) :
    server.stock.Goes (server.bind id act).2.stock :=
  h { server with bound := some id } rfl

/-- The turn of a task that runs an entry, from where it has begun to where it ends. -/
theorem becomes_stepEntry {task : TaskId} {self : Running} {server : Server}
    (hcurrent : server.current = some task)
    (hactivity : server.activity? task = some (.running self)) :
    server.stock.Becomes (server.stepEntry task self).stock ∧
      (server.stepEntry task self).current = some task ∧
      ∀ activity, (server.stepEntry task self).activity? task = some activity →
        activity.stake? true = activity.stake? false := by
  have hstake := getElem?_stakes_of_activity? hactivity
  rw [hcurrent, decide_eq_true rfl] at hstake
  -- Its own handle keeps the request alive as long as the turn lasts.
  have hengaged : server.stock.Engaged self.request :=
    ⟨_, List.mem_of_getElem? hstake, by rw [Running.stake_turn]; rfl⟩
  rcases hbind : server.bind self.request (·.resume task self) with ⟨halt, left⟩
  have hgoes : server.stock.Goes left.stock := by
    have hturn : server.stock.Goes (server.bind self.request (·.resume task self)).2.stock :=
      goes_bind self.request fun bound hbound => goes_resume (hengaged.mono (.of_eq hbound))
    rw [hbind] at hturn
    exact hturn
  have hleft : left.current = some task := hgoes.current.trans hcurrent
  have hkept := hgoes.getElem?_stakes hstake
  rw [stepEntry, hbind]
  cases halt with
  | waits wait acts =>
    -- The entry has been called, so all that the task has in its hands is the fact.
    have hstart : wait ≠ .start :=
      ne_start_of_resume (congrArg Prod.fst hbind : (server.bind _ _).1 = _)
    have hsame (turn : Bool) : Activity.stake? (.running { self with wait, acts }) turn =
        some (self.stake true) := by
      rw [Activity.stake?, Running.stake_of_ne_start hstart, Running.stake_turn]
    refine ⟨hgoes.becomes.trans (Stock.Goes.of_eq ?_).becomes, hleft, fun activity h => ?_⟩
    · dsimp only
      rw [stock_setActivity, hsame]
      exact Stock.setStake_self hkept
    · rw [eq_of_setActivity h, hsame, hsame]
  | ends outcome =>
    -- The entry has ended, and its task with it.
    obtain ⟨hbecomes, hended, hover⟩ := becomes_finishEntry left task self outcome
    refine ⟨hgoes.becomes.trans hbecomes, hended.trans hleft, fun activity h => ?_⟩
    rw [hover activity h]
    rfl

/-! ### The turn of an execution -/

/-- What tasks have in their hands that were made for entries of an execution: each its entry, or
nothing if it will never run. -/
def Launched (task : TaskId) (request : RequestId) :
    List (Entry Job) → List (Option Stake) → Prop :=
  List.Forall₂ fun entry stake =>
    ∀ given, stake = some given → given = .starting (entry.running request task)

/-- An execution gives its entries away one by one, each to a task of its own. -/
theorem becomes_launched {task : TaskId} {request : RequestId} {entries : List (Entry Job)}
    {stakes : List (Option Stake)} (h : Launched task request entries stakes) {stock : Stock}
    (hholding : stock.stakes[task]? = some (some (.holding request entries))) :
    stock.Becomes
      ({ stock with stakes := stock.stakes ++ stakes }.setStake task
        (some (.holding request []))) := by
  -- Each deed gives the first entry away; the rest is still in the hands of the execution.
  induction h generalizing stock with
  | nil =>
    rw [List.append_nil]
    exact (Stock.Goes.of_eq (Stock.setStake_self hholding)).becomes
  | @cons entry stake rest stakes hstake _ ih =>
    have htask : task < stock.stakes.length := (List.getElem?_eq_some_iff.mp hholding).1
    have hset : (stock.stakes.set task (some (.holding request rest)) ++ [stake])[task]? =
        some (some (.holding request rest)) := by
      rw [List.getElem?_append_left (by rwa [List.length_set]), List.getElem?_set_self htask]
    refine .trans (.of_deed fun ledger _ => ⟨_, .launches hholding hstake⟩) ?_
    refine .trans (ih hset) (Stock.Goes.of_eq ?_).becomes
    -- What was given away in between leaves no trace in the hands of the execution.
    simp only [Stock.setStake, Stock.spawn, List.append_assoc, List.singleton_append,
      List.set_append_left _ _ htask, List.set_append_left _ _ (List.length_set ▸ htask),
      List.set_set]

/-- The task that an execution makes has its entry in its hands unless its runtime has been shut
down. -/
theorem stock_launch {server : Server} {task : TaskId} (hcurrent : server.current = some task)
    (htask : task < server.tasks.length) (runtime : RuntimeId) (request : RequestId)
    (entry : Entry Job) :
    ∃ stake, (∀ given, stake = some given → given = .starting (entry.running request task)) ∧
      (server.launch task runtime request entry).stock = server.stock.spawn stake := by
  -- It is not the turn of the new task, so its entry has not been called.
  have hne : server.current ≠ some server.tasks.length := by
    rw [hcurrent]
    exact fun heq => Nat.ne_of_lt htask (Option.some.inj heq)
  refine ⟨_, fun given hgiven => ?_, stock_spawn _ _ _ _⟩
  rw [decide_eq_false hne] at hgiven
  split at hgiven
  · exact (Option.some.inj hgiven).symm
  · cases hgiven

/-- All entries of an execution get tasks. -/
theorem stock_launches {task : TaskId} (runtime : RuntimeId) (request : RequestId)
    (entries : List (Entry Job)) {server : Server} (hcurrent : server.current = some task)
    (htask : task < server.tasks.length) :
    ∃ stakes, Launched task request entries stakes ∧
      (entries.foldl (fun server entry => server.launch task runtime request entry) server).stock =
        { server.stock with stakes := server.stock.stakes ++ stakes } := by
  -- It is still the turn of the execution, whatever it launches.
  induction entries generalizing server with
  | nil => exact ⟨[], .nil, by rw [List.append_nil]; rfl⟩
  | cons entry rest ih =>
    obtain ⟨stake, hstake, hlaunch⟩ := stock_launch hcurrent htask runtime request entry
    have hcurrent' : (server.launch task runtime request entry).current = some task := by
      have hstock := congrArg Stock.current hlaunch
      exact hstock.trans hcurrent
    have htask' : task < (server.launch task runtime request entry).tasks.length := by
      rw [← length_stakes, hlaunch, Stock.spawn, List.length_append, length_stakes]
      exact Nat.lt_add_right _ htask
    obtain ⟨stakes, hstakes, hrest⟩ := ih hcurrent' htask'
    refine ⟨stake :: stakes, .cons hstake hstakes, ?_⟩
    rw [List.foldl_cons, hrest, hlaunch, Stock.spawn, List.append_assoc]
    rfl

/-- The turn of a task that executes a scope. -/
theorem becomes_stepExecution {task : TaskId} {execution : Execution} {server : Server}
    (runtime : RuntimeId) (hcurrent : server.current = some task)
    (hactivity : server.activity? task = some (.executing execution)) :
    server.stock.Becomes (server.stepExecution task runtime execution).stock ∧
      (server.stepExecution task runtime execution).current = some task ∧
      ∀ activity, (server.stepExecution task runtime execution).activity? task = some activity →
        activity.stake? true = activity.stake? false := by
  have hstake := getElem?_stakes_of_activity? hactivity
  have htask : task < server.tasks.length := by
    rw [← length_stakes]
    exact (List.getElem?_eq_some_iff.mp hstake).1
  -- First of all every entry that it was handed gets a task.
  obtain ⟨stakes, hstakes, hstock⟩ :=
    stock_launches runtime execution.request execution.entries hcurrent htask
  have hbecomes := becomes_launched hstakes hstake
  rw [← hstock] at hbecomes
  unfold stepExecution
  dsimp only
  generalize execution.entries.foldl _ server = launched at hbecomes hstock ⊢
  have hlaunched : launched.current = some task := (congrArg Stock.current hstock).trans hcurrent
  -- Whatever the execution does now, it is not to call an entry. It reports and is over, or it
  -- goes on and waits, or it goes on at once.
  split
  · refine ⟨hbecomes.trans ?_, hlaunched, fun activity h => by rw [eq_of_setActivity h]; rfl⟩
    -- All its entries have ended, so nothing is in its hands any more.
    have hends := Stock.Becomes.ends (launched.stock.setStake task
      (some (.holding execution.request []))) task
    rw [Stock.setStake_setStake] at hends
    rw [stock_setActivity]
    exact hends
  · have hgoes : (launched.setActivity task (.executing { execution with
        entries := []
        awaited := execution.awaited + execution.entries.length -
          min execution.ended collectedPerStep
        ended := execution.ended - min execution.ended collectedPerStep })).stock =
        launched.stock.setStake task (some (.holding execution.request [])) :=
      stock_setActivity _ _ _
    split
    · refine ⟨?_, hlaunched, fun activity h => by rw [eq_of_setActivity h]; rfl⟩
      rw [hgoes]
      exact hbecomes
    · refine ⟨?_, ?_, fun activity h => ?_⟩
      · rw [stock_wake, hgoes]
        exact hbecomes
      · exact (congrArg Stock.current (stock_wake _ _)).trans hlaunched
      · rw [activity?_wake] at h
        rw [eq_of_setActivity h]
        rfl

/-! ### Turns and rounds -/

/-- What a task does in its turn. -/
def takeTurn (server : Server) (task : TaskId) (runtime : RuntimeId) : Activity → Server
  | .executing execution => server.stepExecution task runtime execution
  | .running running => server.stepEntry task running
  | .probing => server.setActivity task (.probed server.bound)
  | _ => server

/-- A step is a turn, after which the requests go that nobody has any more. -/
theorem step_of_getElem? {server : Server} {task : TaskId} {runtime : RuntimeId} {ready : Bool}
    {activity : Activity} (h : server.tasks[task]? = some ⟨runtime, ready, activity⟩) :
    server.step task =
      (((server.enterTurn task).takeTurn task runtime activity).leaveTurn task runtime).settle := by
  rw [step, h]
  cases activity <;> rfl

/-- When a task takes its turn, an entry that has not been called is called, and not again. -/
theorem deeds_enterTurn {server : Server} {task : TaskId} {activity : Activity}
    (hcurrent : server.current = none) (h : server.activity? task = some activity)
    (ledger : Ledger) :
    Deeds ⟨server.stock, ledger⟩ ⟨(server.enterTurn task).stock, activity.called task ledger⟩ := by
  have hstake : server.stock.stakes[task]? = some (activity.stake? false) := by
    rw [getElem?_stakes_of_activity? h, hcurrent]
    rfl
  rw [stock_enterTurn hcurrent h]
  -- Unless the task has an entry to call, only the turn is new.
  rcases activity.stake?_turn with hsame | ⟨running, hstarting, hstarted⟩
  · rw [activity.called_of_stake? hsame, hsame, Stock.setStake_self hstake]
    exact .single (.turns _)
  · have hcalled : activity.called task ledger = ledger.call running.execution task := by
      rw [Activity.called, hstarting]
    rw [hstarting] at hstake
    rw [hstarted, hcalled]
    exact .tail (.single (.calls hstake)) (.turns _)

/-- What a task does in its turn, up to the point where the turn ends. -/
theorem becomes_takeTurn {server : Server} {task : TaskId} (runtime : RuntimeId)
    {activity : Activity} (hcurrent : server.current = some task)
    (h : server.activity? task = some activity) :
    server.stock.Becomes (server.takeTurn task runtime activity).stock ∧
      (server.takeTurn task runtime activity).current = some task ∧
      ∀ activity', (server.takeTurn task runtime activity).activity? task = some activity' →
        activity'.stake? true = activity'.stake? false := by
  -- A task that is over, or has only to tell what it has seen, has nothing to do.
  have hidle (hstake : ∀ turn, activity.stake? turn = none) :
      server.stock.Becomes server.stock ∧ server.current = some task ∧
        ∀ activity', server.activity? task = some activity' →
          activity'.stake? true = activity'.stake? false := by
    refine ⟨.refl _, hcurrent, fun activity' h' => ?_⟩
    rw [Option.some.inj (h'.symm.trans h), hstake, hstake]
  cases activity with
  | executing execution => exact becomes_stepExecution runtime hcurrent h
  | running entry => exact becomes_stepEntry hcurrent h
  | probing =>
    refine ⟨(Stock.Goes.of_eq ?_).becomes, hcurrent, fun activity' h' => ?_⟩
    · exact stock_setActivity_of_stake? h fun _ => rfl
    · rw [eq_of_setActivity h']
      rfl
  | _ => exact hidle fun _ => rfl

/-- From the moment that it has entered its turn, a task does what it can, and then it is nobody's
turn. -/
theorem becomes_leaveTurn {server : Server} {task : TaskId} {activity : Activity}
    (hactivity : server.activity? task = some activity) (runtime : RuntimeId) :
    (server.enterTurn task).stock.Becomes
        (((server.enterTurn task).takeTurn task runtime activity).leaveTurn task runtime).stock ∧
      (((server.enterTurn task).takeTurn task runtime activity).leaveTurn task runtime).current =
        none := by
  obtain ⟨hturn, hstill, hcalled⟩ := becomes_takeTurn runtime rfl
    ((server.activity?_enterTurn task).trans hactivity)
  have hleave := stock_leaveTurn hstill hcalled runtime
  refine ⟨?_, congrArg Stock.current hleave⟩
  rw [hleave]
  exact hturn.trans (.of_deed fun ledger _ => ⟨ledger, .turns _⟩)

/-- After the turn the requests go that nobody has any more. -/
theorem becomes_afterTurn {server : Server} {task : TaskId} {runtime : RuntimeId} {ready : Bool}
    {activity : Activity} (htask : server.tasks[task]? = some ⟨runtime, ready, activity⟩) :
    (server.enterTurn task).stock.Becomes (server.step task).stock ∧
      (server.step task).current = none := by
  have hactivity : server.activity? task = some activity := by
    rw [activity?, htask, Option.map_some]
  obtain ⟨hturn, hidle⟩ := becomes_leaveTurn hactivity runtime
  have hsettle := goes_settle
    (((server.enterTurn task).takeTurn task runtime activity).leaveTurn task runtime)
  rw [step_of_getElem? htask]
  exact ⟨hturn.trans hsettle.becomes, hsettle.current.trans hidle⟩

/-- In a step an entry that has not been called is called first of all. -/
theorem deeds_step {server : Server} {ledger : Ledger} {task : TaskId} {activity : Activity}
    (h : Books.Orderly ⟨server.stock, ledger⟩) (hcurrent : server.current = none)
    (hactivity : server.activity? task = some activity) :
    ∃ ledger', Deeds ⟨server.stock, ledger⟩ ⟨(server.step task).stock, ledger'⟩ ∧
      (activity.called task ledger).Precedes ledger' := by
  obtain ⟨⟨runtime, ready, _⟩, htask, rfl⟩ := Option.map_eq_some_iff.mp hactivity
  have henter := deeds_enterTurn hcurrent hactivity ledger
  obtain ⟨ledger', hafter⟩ := (becomes_afterTurn htask).1 _ (henter.orderly h)
  exact ⟨ledger', henter.trans hafter, hafter.precedes.ledger⟩

/-- A task takes a step, and then it is nobody's turn. -/
theorem becomes_step {server : Server} (task : TaskId) (hcurrent : server.current = none) :
    server.stock.Becomes (server.step task).stock ∧ (server.step task).current = none := by
  rcases htask : server.tasks[task]? with - | ⟨runtime, ready, activity⟩
  · rw [step, htask]
    exact ⟨.refl _, hcurrent⟩
  · have hactivity : server.activity? task = some activity := by
      rw [activity?, htask, Option.map_some]
    refine ⟨fun ledger h => ?_, (becomes_afterTurn htask).2⟩
    obtain ⟨ledger', hdeeds, -⟩ := deeds_step h hcurrent hactivity
    exact ⟨ledger', hdeeds⟩

/-- Several changes may follow one after the other. -/
theorem becomes_runTasks {server : Server} (runtime : RuntimeId) (count : Nat)
    (hcurrent : server.current = none) :
    server.stock.Becomes (server.runTasks runtime count).stock ∧
      (server.runTasks runtime count).current = none := by
  -- One step, and then a shorter round from where it leaves the server.
  induction count generalizing server with
  | zero => exact ⟨.refl _, hcurrent⟩
  | succ count ih =>
    rw [runTasks]
    dsimp only
    split
    · exact ⟨.refl _, hcurrent⟩
    case h_2 task _ =>
      have hqueue : (server.changeRuntime runtime fun _ =>
          (server.runtime runtime).next.2).current = none := hcurrent
      obtain ⟨hstep, hidle⟩ := becomes_step task hqueue
      obtain ⟨hrest, hend⟩ := ih hidle
      exact ⟨hstep.trans hrest, hend⟩

theorem becomes_round {server : Server} (runtime : RuntimeId) (hcurrent : server.current = none) :
    server.stock.Becomes (server.round runtime).stock ∧
      (server.round runtime).current = none := by
  obtain ⟨hrun, hidle⟩ := becomes_runTasks runtime RunQueue.roundSize hcurrent
  have hwake : (server.round runtime).stock =
      (server.runTasks runtime RunQueue.roundSize).stock :=
    stock_foldl (fun server task => stock_wakeFrom server _ task) _ _
  exact ⟨hrun.trans (Stock.Goes.of_eq hwake).becomes, (congrArg Stock.current hwake).trans hidle⟩

/-- A task that is dropped has nothing in its hands any more. -/
theorem silent_cancelTask (server : Server) (task : TaskId) :
    server.stock.Silent (server.cancelTask task).stock ∧
      (server.cancelTask task).current = server.current := by
  unfold cancelTask
  split
  case h_1 => exact ⟨.of_eq rfl, rfl⟩
  case h_2 runtime ready activity htask =>
    -- Whatever the task was doing, it drops what it had in its hands.
    have hends : server.stock.Silent (server.changeTask task fun task =>
        { task with ready := false, activity := activity.cancelled }).stock := by
      rw [stock_changeTask fun _ _ => Activity.stake?_cancelled activity _]
      exact .of_deed fun _ => .ends task
    have hsame : (server.changeTask task fun task =>
        { task with ready := false, activity := activity.cancelled }).current = server.current :=
      rfl
    dsimp only
    generalize server.changeTask task _ = cancelled at hends hsame ⊢
    split
    case h_1 =>
      -- A call on a body that it had in flight is abandoned with it.
      have habandon := stock_abandonCall cancelled
      refine ⟨?_, (congrArg Stock.current (habandon _ _)).trans hsame⟩
      rw [habandon]
      exact hends
    case h_2 => exact ⟨hends, hsame⟩

theorem silent_cancelTasks (tasks : List TaskId) (server : Server) :
    server.stock.Silent (tasks.foldl cancelTask server).stock ∧
      (tasks.foldl cancelTask server).current = server.current := by
  induction tasks generalizing server with
  | nil => exact ⟨.of_eq rfl, rfl⟩
  | cons task rest ih =>
    obtain ⟨hcancel, hsame⟩ := silent_cancelTask server task
    obtain ⟨hrest, hsame'⟩ := ih (server.cancelTask task)
    exact ⟨hcancel.trans hrest, hsame'.trans hsame⟩

/-- All tasks of a runtime are dropped when it is shut down; what goes then was held by nobody
else. -/
theorem deeds_shutDown {server : Server} {ledger : Ledger} (runtime : RuntimeId)
    (h : Books.Orderly ⟨server.stock, ledger⟩) :
    Deeds ⟨server.stock, ledger⟩
      ⟨(server.shutDown runtime).2.stock, ledger.lose (server.shutDown runtime).2.live⟩ := by
  unfold shutDown
  split
  · exact deeds_settle_of_silent
      (silent_cancelTasks _ (server.changeRuntime runtime (·.shutDown))).1 h
  · exact (Stock.Silent.of_eq rfl).deeds h

theorem current_shutDown (server : Server) (runtime : RuntimeId) :
    (server.shutDown runtime).2.current = server.current := by
  unfold shutDown
  split
  · exact (current_settle _).trans
      (silent_cancelTasks _ (server.changeRuntime runtime (·.shutDown))).2
  · rfl

end Server

end Inbound
