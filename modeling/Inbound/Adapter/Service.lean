import Inbound.Adapter.Message
import Inbound.Server.Binding
import Inbound.Server.Deferral

/-!
# Services

A service answers messages with a handler. The handler's future runs with the request bound; the
function that makes the future runs before that. Once the handler has answered, the entries that
it has registered in the default scope are executed, and nobody waits for them.
-/

namespace Inbound.Adapter

open Deferred

/-- A service: what its requests have in common. -/
structure Service where
  /-- The settings. -/
  config : Config
  /-- The registry of deferred work. -/
  registry : RegistryId

namespace Service

/-- A call of a service in progress. -/
structure Ongoing where
  /-- The request. -/
  request : RequestId
  /-- The runtime of the code that polls the call. -/
  ambient : Option RuntimeId
  deriving DecidableEq, Repr

/-- How many gates a handler may pass in one go on a runtime. -/
def passesPerPoll : Nat := 128

/-- Limits how many gates in front of the body of a request may be passed. -/
def allow (server : Server) (id : RequestId) (passes : Option Nat) : Server :=
  let request := server.request id
  server.setRequest id { request with body := { request.body with passes } }

/-- A message comes in: its request is made, with a handle for the handler, one for the call, and
one for the future that will bind it. -/
def begin (service : Service) (server : Server) (message : Message)
    (ambient : Option RuntimeId) : Ongoing × Server :=
  let id := server.requests.length
  let (_, server) := server.build (message.convert service.config service.registry ambient)
  (⟨id, ambient⟩, (server.openScope id).openScope id)

namespace Ongoing

/-- A poll of the handler's future begins. -/
def enterPoll (ongoing : Ongoing) (server : Server) : Server.Outer × Server :=
  (allow server ongoing.request (ongoing.ambient.map fun _ => passesPerPoll)).enter ongoing.request

/-- A poll of the handler's future ends. -/
def leavePoll (ongoing : Ongoing) (server : Server) (outer : Server.Outer) : Server :=
  allow (server.leave outer) ongoing.request none

/-- The handler's future is polled. -/
def poll {α : Type} (ongoing : Ongoing) (server : Server) (handler : Server → α × Server) :
    α × Server :=
  let (outer, server) := ongoing.enterPoll server
  let (result, server) := handler server
  (result, ongoing.leavePoll server outer)

/-- The call is polled for the first time: a function makes the handler's future, unless it panics,
and then the future is polled. -/
def firstPoll {ε φ α : Type} (ongoing : Ongoing) (server : Server)
    (function : Server → Except ε φ × Server) (handler : φ → Server → α × Server) :
    Except ε α × Server :=
  match function server with
  | (.error panic, server) => (.error panic, server)
  | (.ok future, server) =>
    let (result, server) := ongoing.poll server (handler future)
    (.ok result, server)

/-- The handler has answered, and its future is gone: the default scope is executed, and the call
lets go of the request. The response of the handler is the answer of the call. -/
def finish {α : Type} (ongoing : Ongoing) (server : Server) (response : α) : α × Server :=
  let server := server.closeScope ongoing.request
  let (_, server) := server.execute ongoing.request defaultScope ongoing.ambient
  (response, server.closeScope ongoing.request)

/-- The call is dropped before the handler has answered, or the handler panics. -/
def abandon (ongoing : Ongoing) (server : Server) : Server :=
  (server.closeScope ongoing.request).closeScope ongoing.request

end Ongoing

end Service

end Inbound.Adapter
