import Inbound.Server.Lifetime

/-!
# Bindings

The code that handles a request runs with the request bound, so that it is found anywhere below.
A scoped future binds its request whenever it is polled and puts back what was bound before when
the poll ends, however it ends. The future has a handle on the request for as long as it lives.
-/

namespace Inbound.Server

/-- What somebody sees who is shown the bound request, if there is one. -/
def withBound {α : Type} (server : Server) (look : RequestId → α) : Option α :=
  server.bound.map look

/-- What was bound before a scope was entered. -/
structure Outer where
  /-- The request, if there was one. -/
  bound : Option RequestId
  deriving DecidableEq, Repr

/-- Binds a request. -/
def enter (server : Server) (id : RequestId) : Outer × Server :=
  (⟨server.bound⟩, { server with bound := some id })

/-- Puts back what was bound before. -/
def leave (server : Server) (outer : Outer) : Server :=
  { server with bound := outer.bound }

/-- Does something while a request is bound. -/
def bind {α : Type} (server : Server) (id : RequestId) (act : Server → α × Server) : α × Server :=
  let (outer, server) := server.enter id
  let (result, server) := act server
  (result, server.leave outer)

/-- A future is made that has a handle on a request. -/
def openScope (server : Server) (id : RequestId) : Server :=
  { server with within := id :: server.within }

/-- A future that had a handle on a request is gone. -/
def closeScope (server : Server) (id : RequestId) : Server :=
  { server with within := server.within.erase id }.settle

end Inbound.Server
