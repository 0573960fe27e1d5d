import Inbound.Server.Basic

/-!
# Lifetimes

A request lives as long as there is a handle on it: in the table, with a body call in progress, a
scoped future, a task, or an entry that waits in a registry. When the last handle goes, the
entries that wait for the request are discarded, which may take the last handle off others, and
its socket is let go if nobody has claimed it.
-/

namespace Inbound

open Deferred

/-- Whether a job owns a handle on a request. -/
def Deferred.Job.holds (job : Job) (id : RequestId) : Bool :=
  job.held.contains id

/-- Whether an activity has a handle on a request. -/
def Activity.holds (activity : Activity) (id : RequestId) : Bool :=
  match activity with
  | .executing execution =>
    execution.request = id || execution.entries.any (·.work.holds id)
  | .running entry => entry.request = id || entry.held.contains id
  | _ => false

namespace Server

/-- Whether a request has a handle somewhere. -/
def isHeld (server : Server) (id : RequestId) : Bool :=
  server.handles.contains (some id)
    || server.calls.any (fun call => call.any (·.1 = id))
    || server.within.contains id
    || server.tasks.any (·.activity.holds id)
    || server.registries.any (fun registry => registry.toList.any (·.2.work.holds id))

/-- The last handle on a request is gone. -/
def release (server : Server) (id : RequestId) : Server :=
  let request := server.request id
  let (_, registry) := (server.registry request.registry).discard id
  let server := server.setRegistry request.registry registry
  let server := match request.socket with
    | .offered socket => server.setSocket socket (server.socket socket).dropServer
    | _ => server
  { server with live := server.live.erase id }

theorem live_release (server : Server) (id : RequestId) :
    (server.release id).live = server.live.erase id := by
  unfold release
  dsimp only
  split <;> rfl

/-- Releases requests without handles until there are none. -/
def settle (server : Server) : Server :=
  match _h : server.live.find? (!server.isHeld ·) with
  | none => server
  | some id => (server.release id).settle
termination_by server.live.length
decreasing_by
  have hmem : id ∈ server.live := List.mem_of_find?_eq_some _h
  have hpos := List.length_pos_of_mem hmem
  rw [live_release, List.length_erase_of_mem hmem]
  omega

/-! ### Handles -/

/-- A handle on a new request is put into the table. -/
def build (server : Server) (request : Request) : Nat × Server :=
  let (id, server) := server.newRequest request
  (server.handles.length, { server with handles := server.handles ++ [some id] })

/-- The request of a handle in the table. -/
def handle? (server : Server) (index : Nat) : Option RequestId :=
  server.handles[index]?.join

/-- Puts another handle on a request into the table. -/
def clone (server : Server) (id : RequestId) : Nat × Server :=
  (server.handles.length, { server with handles := server.handles ++ [some id] })

/-- Takes a handle out of the table without releasing the request. -/
def takeHandle (server : Server) (index : Nat) : Server :=
  { server with handles := server.handles.set index none }

/-- Drops a handle. -/
def dropHandle (server : Server) (index : Nat) : Server :=
  (server.takeHandle index).settle

/-! ### Body calls by hand -/

/-- Makes a call on a body, if it can be done within so many polls. -/
def makeCall (server : Server) (id : RequestId) (wanted : BodyCall) (polls : Nat) :
    Poll (Except CallError BodyAnswer) × Server :=
  server.onRequest id fun request =>
    let (call, request) := request.beginCall wanted
    request.driveCall call polls

/-- Begins a call on a body and polls it once; it is kept if it is not ready. -/
def startCall (server : Server) (id : RequestId) (wanted : BodyCall) :
    Poll (Except CallError BodyAnswer) × Server :=
  let ((answer, call), server) := server.onRequest id fun request =>
    let (call, request) := request.beginCall wanted
    let (answer, call, request) := request.pollCall call
    ((answer, call), request)
  let kept := match answer with
    | .pending => some (id, call)
    | .ready _ => none
  (answer, { server with calls := server.calls ++ [kept] })

/-- Polls a call that was kept; without an answer there is no such call. -/
def pollKept (server : Server) (index : Nat) :
    Option (Poll (Except CallError BodyAnswer)) × Server :=
  match server.calls[index]?.join with
  | none => (none, server)
  | some (id, call) =>
    let ((answer, call), server) := server.onRequest id fun request =>
      let (answer, call, request) := request.pollCall call
      ((answer, call), request)
    let kept := match answer with
      | .pending => some (id, call)
      | .ready _ => none
    (some answer, { server with calls := server.calls.set index kept }.settle)

/-- Drops a call that was kept, and tells whether there was one. -/
def dropKept (server : Server) (index : Nat) : Bool × Server :=
  match server.calls[index]?.join with
  | none => (false, server)
  | some (id, call) =>
    let ((), server) := server.onRequest id fun request => ((), request.abandonCall call)
    (true, { server with calls := server.calls.set index none }.settle)

/-- Drops the handles and the calls that stand in the tables from certain places on. -/
def dropSince (server : Server) (handles calls : Nat) : Server :=
  let places := (List.range server.calls.length).drop calls
  let server := places.foldl (fun server place => (server.dropKept place).2) server
  let kept := server.handles.take handles
  let gone := server.handles.drop handles
  { server with handles := kept ++ gone.map fun _ => none }.settle

/-! ### Sockets -/

/-- Claims the socket of a request. -/
def claimSocket (server : Server) (id : RequestId) : Except WebSocket.Error SocketId × Server :=
  let request := server.request id
  match request.socket with
  | .none => (.error .unavailable, server)
  | .taken => (.error .taken, server)
  | .offered socket => (.ok socket, server.setRequest id { request with socket := .taken })

end Server

end Inbound
