import Inbound.Async.Barrier
import Inbound.Async.RunQueue
import Inbound.Deferred.Job
import Inbound.Request.Call
import Inbound.WebSocket.Socket

/-!
# Servers

What goes on in a server: the requests with the handles on them, the registries of deferred work,
the runtimes with their tasks, the sockets, and the request that is bound to the code that runs.

Requests, registries, runtimes, tasks and sockets are numbered in the order of their creation. A
request lives as long as someone has a handle on it.
-/

namespace Inbound

open Deferred

/-- What an entry waits for. -/
inductive Wait where
  /-- For its first step. -/
  | start
  /-- That the others have gone on so many times. -/
  | pause (times : Nat)
  /-- For the body of its request. -/
  | body (call : Call)
  /-- For an opening of a barrier. -/
  | barrier (name : String) (opening : Nat)
  /-- For nothing that ever comes. -/
  | hang

/-- An entry that has been handed to a task. -/
structure Running where
  /-- The name. -/
  name : String
  /-- The request that it is for. -/
  request : RequestId
  /-- The task of the execution that it belongs to. -/
  execution : TaskId
  /-- The requests of which it owns a handle. -/
  held : List RequestId
  /-- The panic in which its very first step ends, if it does. -/
  panicOnCall : Option Panic
  /-- What it waits for. -/
  wait : Wait
  /-- What it does after that. -/
  acts : List Act

/-- The execution of a scope. -/
structure Execution where
  /-- The request. -/
  request : RequestId
  /-- Entries that have not been handed to tasks. -/
  entries : List (Entry Job)
  /-- How many entries have been handed to tasks and not been collected. -/
  awaited : Nat
  /-- How many of these have ended. -/
  ended : Nat
  /-- What is known so far. -/
  report : Report

/-- What a task does. -/
inductive Activity where
  /-- It executes a scope. -/
  | executing (execution : Execution)
  /-- It has executed a scope. -/
  | executed (report : Report)
  /-- It runs an entry. -/
  | running (running : Running)
  /-- It is to note the request that is bound. -/
  | probing
  /-- It has noted the request that was bound. -/
  | probed (seen : Option RequestId)
  /-- It is over. -/
  | over

/-- What becomes of an activity whose runtime is shut down. -/
def Activity.cancelled : Activity → Activity
  | .executing _ => .executed .lost
  | .running _ => .over
  | .probing => .over
  | activity => activity

/-- Whether nothing more is to be done. -/
def Activity.isOver : Activity → Bool
  | .executed _ | .probed _ | .over => true
  | _ => false

/-- A task. -/
structure Task where
  /-- The runtime that it runs on. -/
  runtime : RuntimeId
  /-- It is ready, or will be again after the step that it is taking. -/
  ready : Bool
  /-- What it does. -/
  activity : Activity

/-- A server. -/
structure Server where
  /-- All requests. -/
  requests : List Request
  /-- The requests that are alive. -/
  live : List RequestId
  /-- The table of handles; a handle that is gone leaves its place. -/
  handles : List (Option RequestId)
  /-- The body calls that were begun by hand; one that is over leaves its place. -/
  calls : List (Option (RequestId × Call))
  /-- The requests on which futures in progress have a handle. -/
  within : List RequestId
  /-- The request that is bound. -/
  bound : Option RequestId
  /-- The registries. -/
  registries : List (Registry Job)
  /-- The run queues of the runtimes. -/
  runtimes : List RunQueue
  /-- All tasks. -/
  tasks : List Task
  /-- The task that is taking a step. -/
  current : Option TaskId
  /-- The tasks that read bodies, by request and ticket. -/
  readers : List ((RequestId × Ticket) × TaskId)
  /-- The barriers by name. -/
  barriers : List (String × Barrier)
  /-- All sockets. -/
  sockets : List WebSocket.Socket
  /-- What entries wrote. -/
  log : List String
  /-- The moment of the next registration. -/
  clock : Nat

namespace Server

/-- The server before anything happens; it has one runtime. -/
def fresh : Server where
  requests := []
  live := []
  handles := []
  calls := []
  within := []
  bound := none
  registries := []
  runtimes := [.fresh]
  tasks := []
  current := none
  readers := []
  barriers := []
  sockets := []
  log := []
  clock := 0

instance : Inhabited Server := ⟨fresh⟩

/-- The runtime that every server has. -/
def mainRuntime : RuntimeId := 0

/-- The request of a number. -/
def request (server : Server) (id : RequestId) : Request :=
  server.requests.getD id default

/-- The registry of a number. -/
def registry (server : Server) (id : RegistryId) : Registry Job :=
  server.registries.getD id .empty

/-- The socket of a number. -/
def socket (server : Server) (id : SocketId) : WebSocket.Socket :=
  server.sockets.getD id default

/-- The run queue of a runtime. -/
def runtime (server : Server) (id : RuntimeId) : RunQueue :=
  server.runtimes.getD id RunQueue.fresh.shutDown

/-- What a task does, if there is such a task. -/
def activity? (server : Server) (id : TaskId) : Option Activity :=
  server.tasks[id]?.map (·.activity)

/-- Replaces a request. -/
def setRequest (server : Server) (id : RequestId) (request : Request) : Server :=
  { server with requests := server.requests.set id request }

/-- Replaces a registry. -/
def setRegistry (server : Server) (id : RegistryId) (registry : Registry Job) : Server :=
  { server with registries := server.registries.set id registry }

/-- Replaces a socket. -/
def setSocket (server : Server) (id : SocketId) (socket : WebSocket.Socket) : Server :=
  { server with sockets := server.sockets.set id socket }

/-- Changes a run queue. -/
def changeRuntime (server : Server) (id : RuntimeId) (change : RunQueue → RunQueue) : Server :=
  { server with runtimes := server.runtimes.modify id change }

/-- Changes a task. -/
def changeTask (server : Server) (id : TaskId) (change : Task → Task) : Server :=
  { server with tasks := server.tasks.modify id change }

/-- Changes what a task does. -/
def setActivity (server : Server) (id : TaskId) (activity : Activity) : Server :=
  server.changeTask id fun task => { task with activity }

/-- The runtime of the task that is taking a step. -/
def currentRuntime (server : Server) : Option RuntimeId :=
  server.current.bind fun id => server.tasks[id]?.map (·.runtime)

/-- Writes to the log. -/
def write (server : Server) (line : String) : Server :=
  { server with log := server.log ++ [line] }

/-- The log, which is empty afterwards. -/
def takeLog (server : Server) : List String × Server :=
  (server.log, { server with log := [] })

/-- The number of a new registry. -/
def newRegistry (server : Server) : RegistryId × Server :=
  (server.registries.length, { server with registries := server.registries ++ [.empty] })

/-- The number of a new runtime. -/
def newRuntime (server : Server) : RuntimeId × Server :=
  (server.runtimes.length, { server with runtimes := server.runtimes ++ [.fresh] })

/-- The number of a new socket. -/
def newSocket (server : Server) (socket : WebSocket.Socket) : SocketId × Server :=
  (server.sockets.length, { server with sockets := server.sockets ++ [socket] })

/-- The number of a new request. -/
def newRequest (server : Server) (request : Request) : RequestId × Server :=
  let id := server.requests.length
  (id, { server with requests := server.requests ++ [request], live := server.live ++ [id] })

/-! ### Waking -/

/-- A task can go on, as a runtime or something outside of all runtimes makes known. The task is
queued unless it is ready already or is just taking a step, after which it will be queued; a task
that is over is left alone. -/
def wakeFrom (server : Server) (origin : Option RuntimeId) (id : TaskId) : Server :=
  match server.tasks[id]? with
  | none => server
  | some task =>
    if task.ready || task.activity.isOver then server
    else
      let server := server.changeTask id fun task => { task with ready := true }
      if server.current = some id then server
      else server.changeRuntime task.runtime (·.push id (origin = some task.runtime))

/-- A task can go on. -/
def wake (server : Server) (id : TaskId) : Server :=
  server.wakeFrom server.currentRuntime id

/-- A new task, which is ready from the beginning. It is over at once if its runtime has been shut
down. -/
def spawn (server : Server) (runtime : RuntimeId) (activity : Activity) (near : Bool) :
    TaskId × Server :=
  let id := server.tasks.length
  if (server.runtime runtime).alive then
    let task : Task := ⟨runtime, true, activity⟩
    (id, { server with tasks := server.tasks ++ [task] }.changeRuntime runtime (·.push id near))
  else
    let task : Task := ⟨runtime, false, activity.cancelled⟩
    (id, { server with tasks := server.tasks ++ [task] })

/-- Tells the tasks that can go on reading the body of a request. -/
def deliver (server : Server) (id : RequestId) : Server :=
  let request := server.request id
  let (woken, body) := request.body.takeWoken
  let server := server.setRequest id { request with body }
  woken.foldl
    (fun server ticket =>
      match server.readers.lookup (id, ticket) with
      | none => server
      | some task => server.wake task)
    server

/-- Does something with a request, and tells the tasks that can go on because of it. -/
def onRequest {α : Type} (server : Server) (id : RequestId) (act : Request → α × Request) :
    α × Server :=
  let (result, request) := act (server.request id)
  (result, (server.setRequest id request).deliver id)

end Server

end Inbound
