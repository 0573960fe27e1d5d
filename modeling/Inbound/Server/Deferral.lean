import Inbound.Server.Lifetime

/-!
# Deferred work

Handlers register entries for a request, look them up, clear them and execute them. An execution
is a task that runs all entries of a scope; it is spawned on the runtime of the request, or else
on that of the code that asks for it.

All this can be done in any registry. A request has one of its own, which is the one that is meant
when none is named, and the only one that is cleared when the request goes.
-/

namespace Inbound.Server

open Deferred

/-! ### In any registry -/

/-- Registers an entry in a registry, and tells how many are pending there in its scope. -/
def addEntryTo (server : Server) (registry : RegistryId) (id : RequestId) (name scope : String)
    (job : Job) : Nat × Server :=
  let entry : Entry Job := ⟨name, server.clock, job⟩
  let entries := (server.registry registry).add ⟨id, scope⟩ entry
  (entries.pending ⟨id, scope⟩,
    { server with clock := server.clock + 1 }.setRegistry registry entries)

/-- Looks up entries in a registry. -/
def findEntryIn (server : Server) (registry : RegistryId) (id : RequestId) (name scope : String) :
    Except Error Info :=
  (server.registry registry).find ⟨id, scope⟩ name

/-- How many entries are pending in a scope in a registry. -/
def pendingEntriesIn (server : Server) (registry : RegistryId) (id : RequestId)
    (scope : String) : Nat :=
  (server.registry registry).pending ⟨id, scope⟩

/-- Discards all entries that a registry has for a request, and tells how many there were. -/
def clearEntriesIn (server : Server) (registry : RegistryId) (id : RequestId) : Nat × Server :=
  let (discarded, entries) := (server.registry registry).discard id
  (discarded.length, (server.setRegistry registry entries).settle)

/-- Executes a scope from a registry, given the runtime of the code that asks for it. -/
def executeFrom (server : Server) (registry : RegistryId) (id : RequestId) (scope : String)
    (ambient : Option RuntimeId) : Except Error TaskId × Server :=
  match (server.request id).runtime <|> ambient with
  | none => (.error .noRuntime, server)
  | some runtime =>
    let (entries, rest) := (server.registry registry).take ⟨id, scope⟩
    let server := server.setRegistry registry rest
    let execution : Execution := ⟨id, entries, 0, 0, .start scope⟩
    let near := server.currentRuntime = some runtime
    let (task, server) := server.spawn runtime (.executing execution) near
    -- On a runtime that has been shut down the entries are gone at once, with whatever they held.
    (.ok task, server.settle)

/-! ### In the registry of the request -/

/-- Registers an entry, and tells how many are pending in its scope. -/
def addEntry (server : Server) (id : RequestId) (name scope : String) (job : Job) :
    Nat × Server :=
  server.addEntryTo (server.request id).registry id name scope job

/-- Looks up entries. -/
def findEntry (server : Server) (id : RequestId) (name scope : String) : Except Error Info :=
  server.findEntryIn (server.request id).registry id name scope

/-- How many entries are pending in a scope. -/
def pendingEntries (server : Server) (id : RequestId) (scope : String) : Nat :=
  server.pendingEntriesIn (server.request id).registry id scope

/-- Discards all entries of a request, and tells how many there were. -/
def clearEntries (server : Server) (id : RequestId) : Nat × Server :=
  server.clearEntriesIn (server.request id).registry id

/-- Executes a scope, given the runtime of the code that asks for it. -/
def execute (server : Server) (id : RequestId) (scope : String) (ambient : Option RuntimeId) :
    Except Error TaskId × Server :=
  server.executeFrom (server.request id).registry id scope ambient

/-- The report on an execution that has finished. -/
def report? (server : Server) (execution : TaskId) : Option Report :=
  match server.activity? execution with
  | some (.executed report) => some report
  | _ => none

end Inbound.Server
