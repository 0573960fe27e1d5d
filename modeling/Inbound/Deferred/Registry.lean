/-!
# Registries of deferred work

A registry keeps entries that are to run after the primary work on their request, in slots of one
request and one scope each. A second table lists the scopes in which a request has entries, so
that all of them are found when the request goes away. Neither table keeps anything that is empty.
-/

namespace Inbound

/-- The number of a request. -/
abbrev RequestId := Nat

namespace Deferred

/-- The scope that is meant when none is named. -/
def defaultScope : String := ""

/-- Where an entry is registered. -/
structure Slot where
  /-- The request that the entry is for. -/
  request : RequestId
  /-- The scope with which it runs. -/
  scope : String
  deriving DecidableEq, Repr

/-- An entry: work under a name. -/
structure Entry (α : Type) where
  /-- The name, which need not be unique. -/
  name : String
  /-- The moment of its registration. -/
  registeredAt : Nat
  /-- What is to be done. -/
  work : α
  deriving DecidableEq, Repr

/-- What is known about the entries of one name in a slot. -/
structure Info where
  /-- Their name. -/
  name : String
  /-- Their scope. -/
  scope : String
  /-- How many there are. -/
  count : Nat
  /-- When the first of them was registered. -/
  registeredAt : Nat
  deriving DecidableEq, Repr

/-- Why deferred work cannot be found or run. -/
inductive Error where
  /-- No entry of the name is registered in the scope. -/
  | notFound (name scope : String)
  /-- There is nothing to run it on. -/
  | noRuntime
  deriving DecidableEq, Repr

/-- The error in words. -/
def Error.message : Error → String
  | .notFound name scope =>
    "no future named '" ++ name ++ "' registered in scope '" ++ scope ++ "'"
  | .noRuntime => "no async runtime is available to execute futures"

/-- Registered entries. -/
structure Registry (α : Type) where
  /-- The slots with their entries, in the order of registration. -/
  scopes : List (Slot × List (Entry α))
  /-- The requests with the scopes in which they have entries. -/
  index : List (RequestId × List String)

namespace Registry

variable {α : Type}

/-- The registry without entries. -/
def empty : Registry α := ⟨[], []⟩

instance : Inhabited (Registry α) := ⟨empty⟩

/-- A table with another value under a key; the key comes to the end if it is new. -/
def put {κ ν : Type} [DecidableEq κ] (key : κ) (value : ν) : List (κ × ν) → List (κ × ν)
  | [] => [(key, value)]
  | row :: rest => if row.1 = key then (key, value) :: rest else row :: put key value rest

/-- A table without a key. -/
def remove {κ ν : Type} [DecidableEq κ] (key : κ) (table : List (κ × ν)) : List (κ × ν) :=
  table.filter fun row => row.1 ≠ key

/-- The entries in a slot. -/
def entries (registry : Registry α) (slot : Slot) : List (Entry α) :=
  (registry.scopes.lookup slot).getD []

/-- The scopes in which a request has entries. -/
def scopesOf (registry : Registry α) (request : RequestId) : List String :=
  (registry.index.lookup request).getD []

/-- Registers an entry. -/
def add (registry : Registry α) (slot : Slot) (entry : Entry α) : Registry α :=
  let scopes := registry.scopesOf slot.request
  let scopes := if scopes.contains slot.scope then scopes else scopes ++ [slot.scope]
  { scopes := put slot (registry.entries slot ++ [entry]) registry.scopes
    index := put slot.request scopes registry.index }

/-- Looks up the entries of a name. -/
def find (registry : Registry α) (slot : Slot) (name : String) : Except Error Info :=
  match (registry.entries slot).filter (·.name = name) with
  | [] => .error (.notFound name slot.scope)
  | first :: rest => .ok ⟨name, slot.scope, rest.length + 1, first.registeredAt⟩

/-- How many entries wait in a slot. -/
def pending (registry : Registry α) (slot : Slot) : Nat :=
  (registry.entries slot).length

/-- Whether no request has entries. -/
def isEmpty (registry : Registry α) : Bool :=
  registry.scopes.isEmpty

/-- How many slots hold entries. -/
def size (registry : Registry α) : Nat :=
  registry.scopes.length

/-- The index with other scopes of a request; a request without scopes is not listed. -/
def reindex (index : List (RequestId × List String)) (request : RequestId)
    (scopes : List String) : List (RequestId × List String) :=
  if scopes.isEmpty then remove request index else put request scopes index

/-- Takes all entries out of a slot. -/
def take (registry : Registry α) (slot : Slot) : List (Entry α) × Registry α :=
  match registry.index.lookup slot.request with
  | none => ([], registry)
  | some scopes =>
    (registry.entries slot,
      { scopes := remove slot registry.scopes
        index := reindex registry.index slot.request (scopes.filter (· ≠ slot.scope)) })

/-- Takes all entries of a request out of the registry. -/
def discard (registry : Registry α) (request : RequestId) : List (Entry α) × Registry α :=
  match registry.index.lookup request with
  | none => ([], registry)
  | some scopes =>
    (scopes.flatMap fun scope => registry.entries ⟨request, scope⟩,
      { scopes := scopes.foldl (fun table scope => remove ⟨request, scope⟩ table) registry.scopes
        index := remove request registry.index })

/-- All entries with their slots. -/
def toList (registry : Registry α) : List (Slot × Entry α) :=
  registry.scopes.flatMap fun row => row.2.map (row.1, ·)

/-- The registry as a diagnostic shows it. -/
def describe (registry : Registry α) : String :=
  "FutureRegistry \x7b scopes: " ++ toString registry.size ++ " \x7d"

end Registry

end Deferred

end Inbound
