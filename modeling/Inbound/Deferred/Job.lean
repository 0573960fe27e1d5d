import Inbound.Deferred.Registry
import Inbound.Request.Store

/-!
# Jobs and reports

The work of an entry is a list of acts, performed one after the other. An entry succeeds when it
gets to the end, and fails when it gives up or panics; the report on an execution says what became
of each entry.
-/

namespace Inbound.Deferred

/-- What a panic carries. -/
inductive Panic where
  /-- A text. -/
  | text (content : String)
  /-- Something else. -/
  | other
  deriving DecidableEq, Repr

/-- Why an entry fails. -/
inductive Failure where
  /-- It gives up. -/
  | gaveUp (reason : String)
  /-- It panics. -/
  | panicked (panic : Panic)
  deriving DecidableEq, Repr

/-- The failure in words. -/
def Failure.message : Failure → String
  | .gaveUp reason => reason
  | .panicked (.text content) => "panicked: " ++ content
  | .panicked .other => "panicked"

/-- One thing that an entry does. -/
inductive Act where
  /-- It lets the others go on so many times. -/
  | pause (times : Nat)
  /-- It writes to the log. -/
  | note (text : String)
  /-- It keeps a value with its request. -/
  | keep (key : String) (value : StateValue)
  /-- It registers an entry for its own request. -/
  | register (name scope : String) (panicOnCall : Option Panic) (acts : List Act)
  /-- It reads the body of its request. -/
  | readBody
  /-- It waits until so many entries have come to the barrier of this name. -/
  | meet (barrier : String) (parties : Nat)
  /-- It executes a scope of its own request, and does not wait for it. -/
  | execute (scope : String)
  /-- It notes whether the bound request is its own. -/
  | checkBinding
  /-- It waits for ever. -/
  | hang
  /-- It gives up. -/
  | giveUp (reason : String)
  /-- It panics. -/
  | panic (panic : Panic)

instance : Inhabited Act := ⟨.hang⟩

/-- The work of an entry. -/
structure Job where
  /-- The requests of which it owns a handle. -/
  held : List RequestId
  /-- The panic in which its very first step ends, if it does. -/
  panicOnCall : Option Panic
  /-- What it does then. -/
  acts : List Act

/-- What became of the entries of a scope. -/
structure Report where
  /-- The scope. -/
  scope : String
  /-- How many entries succeeded. -/
  succeeded : Nat
  /-- The names of those that failed, with the reasons. -/
  failed : List (String × String)
  deriving DecidableEq, Repr

namespace Report

/-- The report on a scope before any of its entries has ended. -/
def start (scope : String) : Report := ⟨scope, 0, []⟩

/-- The report on work that nobody ran. -/
def lost : Report := start defaultScope

/-- How many entries the report accounts for. -/
def total (report : Report) : Nat :=
  report.succeeded + report.failed.length

/-- Takes down how an entry ended. -/
def record (report : Report) (name : String) : Except Failure Unit → Report
  | .ok () => { report with succeeded := report.succeeded + 1 }
  | .error failure => { report with failed := report.failed ++ [(name, failure.message)] }

theorem total_record (report : Report) (name : String) (outcome : Except Failure Unit) :
    (report.record name outcome).total = report.total + 1 := by
  cases outcome <;> simp [record, total] <;> omega

end Report

end Inbound.Deferred
