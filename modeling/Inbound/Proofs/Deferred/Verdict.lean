import Inbound.Proofs.Deferred.Doings

/-!
# How an entry ends

Whatever else goes on, how an entry ends follows from its work alone: it panics when it is called,
or gives up or panics where one of its acts says so, or gets to the end and writes that it is done;
or it waits for ever and does not end. When it waits, it has the rest of its acts before it, and
the verdict on it is still the same.

## Main results

* `Job.verdict?`: how work ends, if it does; `Running.verdict?`: the same for an entry that runs;
* `Server.performs_perform`, `Server.performs_resume`: what a turn of an entry comes to.
-/

namespace Inbound

open Deferred

namespace Deferred

/-- How work ends that performs these acts, if it ends. -/
def verdict? : List Act → Option (Except Failure Unit)
  | [] => some (.ok ())
  | .giveUp reason :: _ => some (.error (.gaveUp reason))
  | .panic panic :: _ => some (.error (.panicked panic))
  | .hang :: _ => none
  | _ :: rest => verdict? rest

/-- How a job ends, if it does. -/
def Job.verdict? (job : Job) : Option (Except Failure Unit) :=
  match job.panicOnCall with
  | some panic => some (.error (.panicked panic))
  | none => Deferred.verdict? job.acts

/-- What is to be expected of an entry: its name, and how it ends if it does. -/
def Entry.prospect (entry : Entry Job) : String × Option (Except Failure Unit) :=
  (entry.name, entry.work.verdict?)

end Deferred

/-- How an entry ends that waits for something before it performs these acts, if it ends. -/
def Wait.verdict? (wait : Wait) (panicOnCall : Option Panic) (acts : List Act) :
    Option (Except Failure Unit) :=
  match wait with
  | .start => Job.verdict? ⟨[], panicOnCall, acts⟩
  | .hang => none
  | .pause _ | .body _ | .barrier _ _ => Deferred.verdict? acts

/-- How an entry that runs ends, if it does. -/
def Running.verdict? (running : Running) : Option (Except Failure Unit) :=
  running.wait.verdict? running.panicOnCall running.acts

/-- What is to be expected of an entry that runs. -/
def Running.prospect (running : Running) : String × Option (Except Failure Unit) :=
  (running.name, running.verdict?)

namespace Server

/-- The server when an entry of this name has ended. Whoever gets to the end writes so. -/
def conclude (server : Server) (name : String) : Except Failure Unit → Server
  | .ok () => server.write (name ++ "|done")
  | .error _ => server

theorem doings_conclude (server : Server) (name : String) (outcome : Except Failure Unit) :
    (server.conclude name outcome).doings = server.doings := by
  cases outcome <;> rfl

theorem grows_conclude (server : Server) (name : String) (outcome : Except Failure Unit) :
    server.Grows (server.conclude name outcome) := by
  cases outcome with
  | ok => exact grows_write _ _
  | error failure => exact .refl _

/-- What a turn comes to for an entry that is to end in some way. -/
inductive Performs (self : Running) (verdict : Option (Except Failure Unit)) (server : Server) :
    Halt × Server → Prop where
  /-- It waits, and will end in the same way. -/
  | waits {wait : Wait} {acts : List Act} {server' : Server} (hgrows : server.Grows server')
    (hverdict : ({ self with wait, acts } : Running).verdict? = verdict) :
    Performs self verdict server (.waits wait acts, server')
  /-- It ends. -/
  | ends {outcome : Except Failure Unit} {before server' : Server} (hgrows : server.Grows before)
    (hverdict : verdict = some outcome) (hend : server' = before.conclude self.name outcome) :
    Performs self verdict server (.ends outcome, server')

/-- Whatever its turn comes to, all tasks are left at what they do. -/
theorem Performs.grows {self : Running} {verdict : Option (Except Failure Unit)}
    {server : Server} {outcome : Halt × Server} (h : Performs self verdict server outcome) :
    server.Grows outcome.2 := by
  cases h with
  | waits hgrows => exact hgrows
  | ends hgrows _ hend =>
    rw [hend]
    exact hgrows.trans (grows_conclude _ _ _)

/-- Something may have been done before. -/
theorem Performs.after {self : Running} {verdict : Option (Except Failure Unit)}
    {server server' : Server} {outcome : Halt × Server} (h : Performs self verdict server' outcome)
    (hgrows : server.Grows server') : Performs self verdict server outcome := by
  cases h with
  | waits hgrows' hverdict => exact .waits (hgrows.trans hgrows') hverdict
  | ends hgrows' hverdict hend => exact .ends (hgrows.trans hgrows') hverdict hend

theorem performs_perform (task : TaskId) (self : Running) (acts : List Act) (server : Server) :
    Performs self (Deferred.verdict? acts) server (server.perform task self acts) := by
  -- Each act changes the server, so the induction is for all servers.
  induction acts generalizing server with
  | nil => exact .ends (.refl server) rfl rfl
  | cons act rest ih =>
    cases act with
    | pause times =>
      cases times with
      | zero => exact ih server
      | succ times => exact .waits (grows_stepAside _ _) rfl
    | note text => exact (ih _).after (grows_write _ _)
    | keep key value => exact (ih _).after (.of_eq rfl (fun _ => rfl) rfl rfl)
    | register name scope panicOnCall acts => exact (ih _).after (.of_eq rfl (fun _ => rfl) rfl rfl)
    | readBody =>
      have hread : server.Grows ((server.beginRead task self.request).2.pollRead self.name
          self.request (server.beginRead task self.request).1).2 := by
        refine .trans ?_ (grows_pollRead _ _ _ _)
        exact .of_eq rfl (fun _ => rfl) rfl rfl
      rw [perform]
      dsimp only
      split
      next heq => rw [heq] at hread; exact .waits hread rfl
      next heq => rw [heq] at hread; exact (ih _).after hread
    | meet barrier parties =>
      have hmeet := grows_meet server task barrier parties
      rw [perform]
      split
      next heq => rw [heq] at hmeet; exact .waits hmeet rfl
      next heq => rw [heq] at hmeet; exact (ih _).after (hmeet.trans (grows_write _ _))
    | execute scope => exact (ih _).after ((grows_execute _ _ _ _).trans (grows_write _ _))
    | checkBinding => exact (ih _).after (grows_write _ _)
    | hang => exact .waits (.refl server) rfl
    | giveUp reason => exact .ends (.refl server) rfl rfl
    | panic panic => exact .ends (.refl server) rfl rfl

theorem performs_resume (task : TaskId) (self : Running) (server : Server) :
    Performs self self.verdict? server (server.resume task self) := by
  obtain ⟨name, request, execution, held, panicOnCall, wait, acts⟩ := self
  -- What the entry was waiting for decides where it goes on.
  cases wait with
  | start =>
    cases panicOnCall with
    | some panic => exact .ends (grows_write _ _) rfl rfl
    | none => exact (performs_perform _ _ _ _).after (grows_write _ _)
  | pause times =>
    simp only [resume]
    split
    · exact performs_perform _ _ _ _
    · exact .waits (grows_stepAside _ _) rfl
  | body call =>
    have hread := grows_pollRead server name request call
    simp only [resume]
    split
    next heq => rw [heq] at hread; exact .waits hread rfl
    next heq => rw [heq] at hread; exact (performs_perform _ _ _ _).after hread
  | barrier barrier opening =>
    simp only [resume]
    split
    · exact (performs_perform _ _ _ _).after (grows_write _ _)
    · exact .waits (.refl server) rfl
  | hang => exact .waits (.refl server) rfl

/-- It makes no difference which request is bound. -/
theorem performs_bind (task : TaskId) (self : Running) (server : Server) (id : RequestId) :
    Performs self self.verdict? server (server.bind id (·.resume task self)) := by
  have hbound := performs_resume task self { server with bound := some id }
  have hgrows {server' : Server} (h : Grows { server with bound := some id } server') :
      server.Grows (server'.leave ⟨server.bound⟩) := ⟨h.doings, h.alive, h.log, rfl⟩
  unfold bind enter
  dsimp only
  generalize resume _ task self = outcome at hbound ⊢
  cases hbound with
  | waits h hverdict => exact .waits (hgrows h) hverdict
  | @ends outcome before _ h hverdict hend =>
    exact .ends (hgrows h) hverdict (by rw [hend]; cases outcome <;> rfl)

end Server

end Inbound
