/-!
# Request state

Values that handlers keep under keys for as long as a request lives.
-/

namespace Inbound

/-- A value that can be kept. -/
inductive StateValue where
  | text (value : String)
  | integer (value : Int)
  | flag (value : Bool)
  deriving DecidableEq, Repr

/-- A key under which nothing is kept. -/
structure KeyNotFound where
  /-- The key. -/
  key : String
  deriving DecidableEq, Repr

/-- The error in words. -/
def KeyNotFound.message (error : KeyNotFound) : String :=
  "request state has no key '" ++ error.key ++ "'"

/-- Values under keys that are all different. -/
structure Store where
  /-- The keys with their values, in the order in which the keys were first used. -/
  entries : List (String × StateValue)
  deriving DecidableEq, Repr

namespace Store

/-- The store without values. -/
def empty : Store := ⟨[]⟩

instance : Inhabited Store := ⟨empty⟩

/-- The value under a key. -/
def get? (store : Store) (key : String) : Option StateValue :=
  store.entries.lookup key

/-- Whether there is a value under a key. -/
def contains (store : Store) (key : String) : Bool :=
  (store.get? key).isSome

/-- Keeps a value under a key and gives the one that it replaces. -/
def set (store : Store) (key : String) (value : StateValue) : Option StateValue × Store :=
  match store.get? key with
  | some old =>
    (some old, ⟨store.entries.map fun entry => if entry.1 = key then (key, value) else entry⟩)
  | none => (none, ⟨store.entries ++ [(key, value)]⟩)

/-- Removes the value under a key and gives it. -/
def delete (store : Store) (key : String) : Except KeyNotFound StateValue × Store :=
  match store.get? key with
  | some value => (.ok value, ⟨store.entries.filter (·.1 ≠ key)⟩)
  | none => (.error ⟨key⟩, store)

/-- How many values there are. -/
def size (store : Store) : Nat :=
  store.entries.length

/-- Whether there are no values. -/
def isEmpty (store : Store) : Bool :=
  store.entries.isEmpty

/-- The keys in increasing order. -/
def keys (store : Store) : List String :=
  (store.entries.map (·.1)).mergeSort

end Store

end Inbound
