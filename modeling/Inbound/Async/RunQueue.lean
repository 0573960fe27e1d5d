/-!
# Run queues

A runtime runs its tasks one at a time on a single thread. A task that becomes ready stands in one
of two queues, depending on whether a task of the same runtime made it ready. A task that steps
aside is put off until the end of the round.
-/

namespace Inbound

/-- The number of a task. -/
abbrev TaskId := Nat

/-- The tasks of a runtime that are ready, or have stepped aside. -/
structure RunQueue where
  /-- The runtime has not been shut down. -/
  alive : Bool
  /-- How often a task has been asked for. -/
  tick : Nat
  /-- Tasks that were made ready from within the runtime. -/
  near : List TaskId
  /-- Tasks that were made ready from elsewhere. -/
  remote : List TaskId
  /-- Tasks that have stepped aside, the last one first. -/
  aside : List TaskId
  deriving DecidableEq, Repr

namespace RunQueue

/-- The queue of a new runtime. -/
def fresh : RunQueue := ⟨true, 0, [], [], []⟩

instance : Inhabited RunQueue := ⟨fresh⟩

/-- How many tasks at most are run in a round. -/
def roundSize : Nat := 61

/-- Every so many times the tasks from elsewhere come first. -/
def remoteInterval : Nat := 31

/-- Puts a ready task into the queue. -/
def push (queue : RunQueue) (task : TaskId) (near : Bool) : RunQueue :=
  if !queue.alive then queue
  else if near then { queue with near := queue.near ++ [task] }
  else { queue with remote := queue.remote ++ [task] }

/-- Puts a task aside, unless it was the last one to be put aside. -/
def putAside (queue : RunQueue) (task : TaskId) : RunQueue :=
  if queue.aside.head? = some task then queue else { queue with aside := task :: queue.aside }

/-- Takes the task whose turn it is. -/
def next (queue : RunQueue) : Option TaskId × RunQueue :=
  let queue := { queue with tick := queue.tick + 1 }
  let remoteFirst := queue.tick % remoteInterval = 0
  match queue.near, queue.remote with
  | [], [] => (none, queue)
  | task :: near, [] => (some task, { queue with near })
  | [], task :: remote => (some task, { queue with remote })
  | first :: near, other :: remote =>
    -- Now and then what came from outside goes first, lest it waits for ever.
    if remoteFirst then (some other, { queue with remote })
    else (some first, { queue with near })

/-- Takes all tasks that have stepped aside, the last one first. -/
def takeAside (queue : RunQueue) : List TaskId × RunQueue :=
  (queue.aside, { queue with aside := [] })

/-- The queue after the runtime has been shut down. -/
def shutDown (queue : RunQueue) : RunQueue :=
  { queue with alive := false, near := [], remote := [], aside := [] }

end RunQueue

end Inbound
