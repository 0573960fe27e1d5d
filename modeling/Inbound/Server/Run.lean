import Inbound.Server.Binding
import Inbound.Server.Deferral

/-!
# Running tasks

A runtime runs its tasks in rounds. A task takes a step and then waits, or is over. An execution
hands each of its entries to a task of its own, and is over when all of them are. An entry runs
with its request bound; what it does in one step are the acts up to the next one that waits.
-/

namespace Inbound.Server

open Deferred

/-! ### Entries -/

/-- How a step of an entry ends. -/
inductive Halt where
  /-- It waits, and then goes on with these acts. -/
  | waits (wait : Wait) (acts : List Act)
  /-- It is over. -/
  | ends (outcome : Except Failure Unit)

/-- A task steps aside until the end of the round. -/
def stepAside (server : Server) (task : TaskId) : Server :=
  match server.tasks[task]? with
  | none => server
  | some { runtime, .. } => server.changeRuntime runtime (·.putAside task)

/-- Polls the read of an entry, and writes down what comes of it. -/
def pollRead (server : Server) (name : String) (id : RequestId) (call : Call) :
    Option Call × Server :=
  let ((answer, call), server) := server.onRequest id fun request =>
    let (answer, call, request) := request.pollCall call
    ((answer, call), request)
  match answer with
  | .pending => (some call, server)
  | .ready (.ok (.bytes bytes)) => (none, server.write (name ++ s!"|read {bytes.size}"))
  | .ready (.error (.body error)) => (none, server.write (name ++ "|read " ++ error.message))
  | .ready _ => (none, server)

/-- A task begins to read the body of a request, and is told when it can go on. -/
def beginRead (server : Server) (task : TaskId) (id : RequestId) : Call × Server :=
  let (call, request) := (server.request id).beginCall .read
  (call,
    { server with readers := ((id, call.ticket), task) :: server.readers }.setRequest id request)

/-- A task comes to a barrier; the answer is the opening that it has to wait for, if any. -/
def meet (server : Server) (task : TaskId) (name : String) (parties : Nat) :
    Option Nat × Server :=
  let barrier := (server.barriers.lookup name).getD (.ofParties parties)
  let (arrival, barrier) := barrier.arrive task
  let server := { server with barriers := Registry.put name barrier server.barriers }
  match arrival with
  | .inl waiting => (none, waiting.foldl wake server)
  | .inr opening => (some opening, server)

/-- Performs acts up to one that waits. -/
def perform (server : Server) (task : TaskId) (self : Running) : List Act → Halt × Server
  | [] => (.ends (.ok ()), server.write (self.name ++ "|done"))
  | .pause 0 :: rest => server.perform task self rest
  | .pause (times + 1) :: rest => (.waits (.pause (times + 1)) rest, server.stepAside task)
  | .note text :: rest => (server.write (self.name ++ "|" ++ text)).perform task self rest
  | .keep key value :: rest =>
    let (_, request) := (server.request self.request).set key value
    (server.setRequest self.request request).perform task self rest
  | .register name scope panicOnCall acts :: rest =>
    (server.addEntry self.request name scope ⟨[], panicOnCall, acts⟩).2.perform task self rest
  | .readBody :: rest =>
    let (call, server) := server.beginRead task self.request
    match server.pollRead self.name self.request call with
    | (some call, server) => (.waits (.body call) rest, server)
    | (none, server) => server.perform task self rest
  | .meet barrier parties :: rest =>
    match server.meet task barrier parties with
    | (some opening, server) => (.waits (.barrier barrier opening) rest, server)
    | (none, server) =>
      (server.write (self.name ++ "|through " ++ barrier)).perform task self rest
  | .execute scope :: rest =>
    let (result, server) := server.execute self.request scope server.currentRuntime
    let line := self.name ++ "|execute " ++ Text.showBool result.toOption.isSome
    (server.write line).perform task self rest
  | .checkBinding :: rest =>
    let line := self.name ++ "|current " ++ Text.showBool (server.bound = some self.request)
    (server.write line).perform task self rest
  | .hang :: rest => (.waits .hang rest, server)
  | .giveUp reason :: _ => (.ends (.error (.gaveUp reason)), server)
  | .panic panic :: _ => (.ends (.error (.panicked panic)), server)

/-- The first step of an entry: it notes the bound request, and may panic. -/
def call (server : Server) (task : TaskId) (self : Running) : Halt × Server :=
  let path := match server.bound with
    | some id => (server.request id).head.path
    | none => "none"
  let isOwn := Text.showBool (server.bound = some self.request)
  let server := server.write (self.name ++ "|start|" ++ path ++ "|" ++ isOwn)
  match self.panicOnCall with
  | some panic => (.ends (.error (.panicked panic)), server)
  | none => server.perform task self self.acts

/-- A step of an entry. -/
def resume (server : Server) (task : TaskId) (self : Running) : Halt × Server :=
  match self.wait with
  | .start => server.call task self
  | .pause times =>
    if times ≤ 1 then server.perform task self self.acts
    else (.waits (.pause (times - 1)) self.acts, server.stepAside task)
  | .body call =>
    match server.pollRead self.name self.request call with
    | (some call, server) => (.waits (.body call) self.acts, server)
    | (none, server) => server.perform task self self.acts
  | .barrier name opening =>
    if (server.barriers.lookup name).any (·.hasOpened opening) then
      (server.write (self.name ++ "|through " ++ name)).perform task self self.acts
    else (.waits self.wait self.acts, server)
  | .hang => (.waits .hang self.acts, server)

/-- An entry has ended: that is taken down, and its execution can go on. -/
def finishEntry (server : Server) (task : TaskId) (self : Running)
    (outcome : Except Failure Unit) : Server :=
  let server := server.setActivity task .over
  match server.activity? self.execution with
  | some (.executing execution) =>
    let execution := { execution with
      ended := execution.ended + 1
      report := execution.report.record self.name outcome }
    (server.setActivity self.execution (.executing execution)).wake self.execution
  -- An execution that has been cut off is not told any more.
  | _ => server

/-- A step of an entry, with its request bound. -/
def stepEntry (server : Server) (task : TaskId) (self : Running) : Server :=
  let (halt, server) := server.bind self.request fun server => server.resume task self
  match halt with
  | .waits wait acts => server.setActivity task (.running { self with wait, acts })
  | .ends outcome => server.finishEntry task self outcome

/-! ### Executions -/

/-- Hands an entry to a task of its own. -/
def launch (server : Server) (execution : TaskId) (runtime : RuntimeId) (request : RequestId)
    (entry : Entry Job) : Server :=
  let running : Running :=
    { name := entry.name
      request
      execution
      held := entry.work.held
      panicOnCall := entry.work.panicOnCall
      wait := .start
      acts := entry.work.acts }
  (server.spawn runtime (.running running) true).2

/-- How many entries an execution collects in one step. -/
def collectedPerStep : Nat := 128

/-- A step of an execution: entries that have no task get one, and those that have ended are
collected. If no entry is awaited then, the execution is over. If some that have ended are left, it
goes on at once. -/
def stepExecution (server : Server) (task : TaskId) (runtime : RuntimeId)
    (execution : Execution) : Server :=
  let server := execution.entries.foldl
    (fun server entry => server.launch task runtime execution.request entry) server
  let collected := min execution.ended collectedPerStep
  let awaited := execution.awaited + execution.entries.length - collected
  let ended := execution.ended - collected
  if awaited = 0 then server.setActivity task (.executed execution.report)
  else
    let server :=
      server.setActivity task (.executing { execution with entries := [], awaited, ended })
    if ended = 0 then server else server.wake task

/-! ### Rounds -/

/-- A task takes a step. -/
def step (server : Server) (task : TaskId) : Server :=
  match server.tasks[task]? with
  | none => server
  | some { runtime, activity, .. } =>
    let server := { server with current := some task }.changeTask task
      fun task => { task with ready := false }
    let server := match activity with
      | .executing execution => server.stepExecution task runtime execution
      | .running running => server.stepEntry task running
      | .probing => server.setActivity task (.probed server.bound)
      | _ => server
    let server := { server with current := none }
    -- Who was woken during the step is queued behind it.
    let again := server.tasks[task]?.any fun task => task.ready && !task.activity.isOver
    let server := if again then server.changeRuntime runtime (·.push task true) else server
    server.settle

/-- Up to so many tasks of a runtime take a step. -/
def runTasks (server : Server) (runtime : RuntimeId) : Nat → Server
  | 0 => server
  | count + 1 =>
    let (task, queue) := (server.runtime runtime).next
    let server := server.changeRuntime runtime fun _ => queue
    match task with
    | none => server
    | some task => (server.step task).runTasks runtime count

/-- One round of a runtime. -/
def round (server : Server) (runtime : RuntimeId) : Server :=
  let server := server.runTasks runtime RunQueue.roundSize
  let (aside, queue) := (server.runtime runtime).takeAside
  let server := server.changeRuntime runtime fun _ => queue
  aside.foldl (wakeFrom · (some runtime)) server

/-- Up to so many rounds of a runtime, until something is the case. -/
def runUntil (server : Server) (runtime : RuntimeId) (done : Server → Bool) : Nat → Server
  | 0 => server
  | rounds + 1 =>
    if done server then server else (server.round runtime).runUntil runtime done rounds

/-- So many rounds of the main runtime. -/
def drain (server : Server) (rounds : Nat) : Server :=
  server.runUntil mainRuntime (fun _ => false) rounds

/-- Whether an execution has finished. -/
def isFinished (server : Server) (execution : TaskId) : Bool :=
  (server.report? execution).isSome

/-- The report on an execution, if it has finished before one of so many rounds of a runtime. -/
def await (server : Server) (execution : TaskId) (runtime : RuntimeId) :
    Nat → Option Report × Server
  | 0 => (none, server)
  | rounds + 1 =>
    match server.report? execution with
    | some report => (some report, server)
    | none => (server.round runtime).await execution runtime rounds

/-- The request that is bound in a task that has just been spawned on the main runtime. -/
def probe (server : Server) : Option RequestId × Server :=
  let (task, server) := server.spawn mainRuntime .probing true
  let queue := server.runtime mainRuntime
  let seen (server : Server) : Option (Option RequestId) :=
    match server.activity? task with
    | some (.probed seen) => some seen
    | _ => none
  -- Every round runs tasks that stand in front of it, so it has looked by then.
  let server := server.runUntil mainRuntime (fun server => (seen server).isSome)
    (queue.near.length + queue.remote.length + 1)
  ((seen server).join, server)

/-! ### Shutting down -/

/-- A task of a runtime that is shut down is dropped. -/
def cancelTask (server : Server) (task : TaskId) : Server :=
  match server.tasks[task]? with
  | none => server
  | some { activity, .. } =>
    let server := server.changeTask task fun task =>
      { task with ready := false, activity := activity.cancelled }
    match activity with
    -- A read that was in progress gives up its place in the queues of the body.
    | .running { request, wait := .body call, .. } =>
      (server.onRequest request fun request => ((), request.abandonCall call)).2
    | _ => server

/-- Shuts a runtime down, and tells whether it was alive. -/
def shutDown (server : Server) (runtime : RuntimeId) : Bool × Server :=
  if (server.runtime runtime).alive then
    let server := server.changeRuntime runtime (·.shutDown)
    let tasks := (List.range server.tasks.length).filter fun task =>
      server.tasks[task]?.any (·.runtime = runtime)
    (true, (tasks.foldl cancelTask server).settle)
  else (false, server)

end Inbound.Server
