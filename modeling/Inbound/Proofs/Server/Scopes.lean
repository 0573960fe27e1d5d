import Mathlib
import Inbound.Proofs.Server.Bound

/-!
# Nested scopes

Code enters a scope of a request and runs other code there, or makes a scoped future, which is in
the scope whenever it is polled and when it is dropped. All this may be nested, and the code in a
scope may return, fail, panic or wait. Wherever such code looks, it sees the request of the
innermost scope around it. When a scope is left, in whichever way, and as long as a scoped future
waits, what is bound is what was bound before.

A spawned task is in no scope of its own. What it sees is bound by the code that lets its runtime
run, and that is nothing if this code is outside of all scopes, even if the task was spawned inside
of one. Where a runtime is run inside of a scope, its tasks see the request of that scope.

## Main results

* `Server.Code.Outcome.Holds.visit`: a scope that is entered and left around code for which all
  this holds;
* `Server.Code.holds_run`: code in any scopes;
* `Server.Code.scopes_restore`: all code, from the beginning;
* `Server.Code.spawned_sees_scope`: a task that sees a request to which it does not belong.
-/

namespace Inbound.Server

/-! ### Code -/

/-- How code comes to a stop. -/
inductive Exit where
  | returns
  | fails
  | panics
  /-- It waits, and may be polled again. -/
  | waits
  deriving DecidableEq, Repr

/-- Code, as the course that it takes. What a scoped future does is written where it is polled, and
where it is dropped. After other code has come to a stop, code goes on as it likes, depending on
the way in which the other did: a panic may go through it, or be caught. -/
inductive Code where
  /-- It comes to a stop. -/
  | stops (exit : Exit)
  /-- It looks at the bound request. -/
  | looks (rest : Code)
  /-- Something else happens to the server. -/
  | does (event : Event) (rest : Code)
  /-- It spawns a task that looks at the bound request. -/
  | spawns (runtime : RuntimeId) (near : Bool) (rest : Code)
  /-- It runs code in a scope of a request. -/
  | enters (id : RequestId) (body : Code) (rest : Exit → Code)
  /-- It makes a scoped future. -/
  | makes (id : RequestId) (rest : Code)
  /-- It polls a scoped future. -/
  | polls (future : ℕ) (body : Code) (rest : Exit → Code)
  /-- It drops a scoped future. -/
  | drops (future : ℕ) (body : Code) (rest : Exit → Code)

namespace Code

/-- A scoped future. -/
structure Scoped where
  /-- Its request. -/
  request : RequestId
  /-- Its code has come to an end. -/
  hasEnded : Bool

/-- The server, and the scoped futures that code on a thread has made. One that is being polled or
has been dropped leaves its place. -/
structure Thread where
  server : Server
  futures : List (Option Scoped)

/-- What is noted of a course. The scopes are those around the code, the innermost one first. -/
inductive Note where
  /-- The code has looked: what it has fetched, and what it was shown. -/
  | looked (scopes : List RequestId) (fetched shown : Option RequestId)
  /-- The code has left a scope of a request, or a scoped future has been polled or dropped: what
  was bound before, and after. -/
  | left (scopes : List RequestId) (id : RequestId) (exit : Exit) (before after : Option RequestId)
  /-- The code has let tasks run, and one of them has looked. -/
  | noted (scopes : List RequestId) (task : TaskId) (seen : Option RequestId)
  deriving DecidableEq

/-- What comes of code. -/
structure Outcome where
  /-- What is noted of it. -/
  notes : List Note
  /-- How it came to a stop. -/
  exit : Exit
  /-- What is left. -/
  thread : Thread

/-- Something is noted before. -/
def Outcome.after (notes : List Note) (outcome : Outcome) : Outcome :=
  { outcome with notes := notes ++ outcome.notes }

/-- What tasks have seen that had not looked before. -/
def sightings (scopes : List RequestId) (before after : Server) : List Note :=
  (List.range after.tasks.length).filterMap fun task =>
    match before.activity? task, after.activity? task with
    | some (.probed _), _ => none
    | _, some (.probed seen) => some (.noted scopes task seen)
    | _, _ => none

/-- Code runs while a request is bound. -/
def visit (scopes : List RequestId) (id : RequestId) (thread : Thread) (body : Thread → Outcome) :
    Outcome :=
  let (outer, server) := thread.server.enter id
  let inner := body { thread with server }
  let server := inner.thread.server.leave outer
  { notes := inner.notes ++ [.left scopes id inner.exit thread.server.bound server.bound]
    exit := inner.exit
    thread := { inner.thread with server } }

/-- The future in a place is borrowed. -/
def Thread.borrow (thread : Thread) (future : ℕ) : Thread :=
  { thread with futures := thread.futures.set future none }

/-- The future in a place is given back; unless it waits, its code has come to an end. -/
def Thread.giveBack (thread : Thread) (future : ℕ) (found : Scoped) (exit : Exit) : Thread :=
  let hasEnded := found.hasEnded || exit != .waits
  { thread with futures := thread.futures.set future (some { found with hasEnded }) }

/-- The handle of a scope is dropped. -/
def Thread.close (thread : Thread) (id : RequestId) : Thread :=
  { thread with server := thread.server.closeScope id }

/-- What comes of code that is run inside of scopes. A future that has come to its end panics when
it is polled again, and has nothing more to do when it is dropped. -/
def run : Code → List RequestId → Thread → Outcome
  | .stops exit, _, thread => ⟨[], exit, thread⟩
  | .looks rest, scopes, thread =>
    .after [.looked scopes thread.server.bound (thread.server.withBound id)]
      (rest.run scopes thread)
  | .does event rest, scopes, thread =>
    let server := thread.server.happen event
    .after (sightings scopes thread.server server) (rest.run scopes { thread with server })
  | .spawns runtime near rest, scopes, thread =>
    rest.run scopes { thread with server := (thread.server.spawn runtime .probing near).2 }
  | .enters id body rest, scopes, thread =>
    let opened := { thread with server := thread.server.openScope id }
    let inner := visit scopes id opened (body.run (id :: scopes))
    .after inner.notes ((rest inner.exit).run scopes (inner.thread.close id))
  | .makes id rest, scopes, thread =>
    rest.run scopes
      { server := thread.server.openScope id, futures := thread.futures ++ [some ⟨id, false⟩] }
  | .polls future body rest, scopes, thread =>
    match thread.futures[future]?.join with
    | none => (rest .panics).run scopes thread
    | some found =>
      let inner := visit scopes found.request (thread.borrow future) fun thread =>
        if found.hasEnded then ⟨[], .panics, thread⟩
        else body.run (found.request :: scopes) thread
      .after inner.notes
        ((rest inner.exit).run scopes (inner.thread.giveBack future found inner.exit))
  | .drops future body rest, scopes, thread =>
    match thread.futures[future]?.join with
    | none => (rest .returns).run scopes thread
    | some ⟨id, true⟩ => (rest .returns).run scopes ((thread.borrow future).close id)
    | some ⟨id, false⟩ =>
      let inner := visit scopes id (thread.borrow future) (body.run (id :: scopes))
      .after inner.notes ((rest inner.exit).run scopes (inner.thread.close id))

/-! ### What holds of notes -/

/-- What is noted is as the scopes around the code say. -/
def Note.IsRight : Note → Prop
  | .looked scopes fetched shown => fetched = scopes.head? ∧ shown = scopes.head?
  | .left scopes _ _ before after => before = scopes.head? ∧ after = before
  | .noted scopes _ seen => seen = scopes.head?

/-- All that is noted is right, and what is bound in the end is bound by the scopes around the
code. -/
structure Outcome.Holds (scopes : List RequestId) (outcome : Outcome) : Prop where
  notes : ∀ note ∈ outcome.notes, note.IsRight
  bound : outcome.thread.server.bound = scopes.head?

variable {scopes : List RequestId} {thread : Thread}

namespace Outcome.Holds

theorem after {outcome : Outcome} (h : outcome.Holds scopes) {notes : List Note}
    (hnotes : ∀ note ∈ notes, note.IsRight) : (outcome.after notes).Holds scopes where
  notes note hnote := (List.mem_append.mp hnote).elim (hnotes note) (h.notes note)
  bound := h.bound

/-- What was bound before a scope was entered is bound again when it has been left, however the
code in it has come to a stop. -/
theorem visit {id : RequestId} {body : Thread → Outcome}
    (hbound : thread.server.bound = scopes.head?)
    (hbody : ∀ inside : Thread, inside.server.bound = some id →
      (body inside).Holds (id :: scopes)) :
    (visit scopes id thread body).Holds scopes where
  notes note hnote := by
    rcases List.mem_append.mp hnote with hinside | hleft
    · exact (hbody _ rfl).notes note hinside
    · rw [List.mem_singleton.mp hleft]
      exact ⟨hbound, rfl⟩
  bound := hbound

end Outcome.Holds

/-- Whoever has looked has seen the bound request. -/
theorem isRight_sightings {before after : Server} (h : before.Sees after)
    (hbound : before.bound = scopes.head?) :
    ∀ note ∈ sightings scopes before after, note.IsRight := by
  intro note hnote
  obtain ⟨task, -, hsome⟩ := List.mem_filterMap.mp hnote
  split at hsome
  · cases hsome
  · next seen hseen hnew =>
    cases hsome
    -- The task had not looked before.
    exact ((h.noted task seen hseen).resolve_left (hnew seen)).trans hbound
  · cases hsome

theorem bound_closeScope (server : Server) (id : RequestId) :
    (server.closeScope id).bound = server.bound :=
  (grows_settle _).bound

/-- Code in any scopes sees what it ought to, and leaves what it found. -/
theorem holds_run (code : Code) (scopes : List RequestId) (thread : Thread)
    (h : thread.server.bound = scopes.head?) : (code.run scopes thread).Holds scopes := by
  -- By induction on the code, for all scopes and threads, as a body runs with one more scope around
  -- it.
  induction code generalizing scopes thread with
  | stops exit => exact ⟨fun _ hnote => absurd hnote List.not_mem_nil, h⟩
  | looks rest ih =>
    refine (ih scopes thread h).after fun note hnote => ?_
    rw [List.mem_singleton.mp hnote, withBound, Option.map_id]
    exact ⟨h, h⟩
  | does event rest ih =>
    have hsees := sees_happen thread.server event
    exact (ih scopes _ (hsees.bound.trans h)).after (isRight_sightings hsees h)
  | spawns runtime near rest ih => exact ih scopes _ ((bound_spawn _ _ _ _).trans h)
  | enters id body rest ihBody ihRest =>
    have hinner : (visit scopes id { thread with server := thread.server.openScope id }
        (body.run (id :: scopes))).Holds scopes :=
      .visit h fun inside => ihBody (id :: scopes) inside
    have hclose := (bound_closeScope _ id).trans hinner.bound
    exact (ihRest _ scopes _ hclose).after hinner.notes
  | makes id rest ih => exact ih scopes _ h
  | polls future body rest ihBody ihRest =>
    unfold run
    split
    · exact ihRest _ scopes thread h
    · next found _ =>
      have hinner : (visit scopes found.request (thread.borrow future) fun thread =>
          if found.hasEnded then ⟨[], .panics, thread⟩
          else body.run (found.request :: scopes) thread).Holds scopes := by
        refine .visit h fun inside hinside => ?_
        split
        · exact ⟨fun _ hnote => absurd hnote List.not_mem_nil, hinside⟩
        · exact ihBody (found.request :: scopes) inside hinside
      dsimp only
      generalize visit scopes found.request _ _ = inner at hinner ⊢
      exact (ihRest inner.exit scopes (inner.thread.giveBack future found inner.exit)
        hinner.bound).after hinner.notes
  | drops future body rest ihBody ihRest =>
    unfold run
    split
    · exact ihRest _ scopes thread h
    · exact ihRest _ scopes _ ((bound_closeScope _ _).trans h)
    · next id _ =>
      have hinner : (visit scopes id (thread.borrow future) (body.run (id :: scopes))).Holds
          scopes := .visit h fun inside => ihBody (id :: scopes) inside
      have hclose := (bound_closeScope _ id).trans hinner.bound
      exact (ihRest _ scopes _ hclose).after hinner.notes

/-! ### All code -/

/-- Whatever code does with scopes: wherever it looks, it sees the request of the innermost scope
around it, if there is one. Whenever a scope is left, or a scoped future has been polled or
dropped, what is bound is what was bound before, and that is what the scopes around it bind. A task
that looks sees what the scopes bind around the code that lets it run, so nothing if there are
none. In the end nothing is bound. -/
theorem scopes_restore (code : Code) :
    let outcome := code.run [] ⟨fresh, []⟩
    (∀ {scopes fetched shown}, .looked scopes fetched shown ∈ outcome.notes →
      fetched = scopes.head? ∧ shown = scopes.head?) ∧
    (∀ {scopes id exit before after}, .left scopes id exit before after ∈ outcome.notes →
      before = scopes.head? ∧ after = before) ∧
    (∀ {scopes task seen}, .noted scopes task seen ∈ outcome.notes → seen = scopes.head?) ∧
    outcome.thread.server.bound = none := by
  intro outcome
  have h := holds_run code [] ⟨fresh, []⟩ rfl
  exact ⟨h.notes _, h.notes _, h.notes _, h.bound⟩

/-- Code in a scope spawns a task, and lets the runtime go round before it leaves the scope. -/
def drivesInside : Code :=
  .does .opensRegistry <| .does (.builds default) <|
    .enters 0 (.spawns 0 true <| .does (.rounds 0) <| .stops .returns) fun exit => .stops exit

/-- The task sees the request of the scope, though it is not in it. -/
theorem spawned_sees_scope :
    ¬ ∀ (code : Code) (scopes : List RequestId) (task : TaskId) (seen : Option RequestId),
      .noted scopes task seen ∈ (code.run [] ⟨fresh, []⟩).notes → seen = none := by
  intro h
  have hnotes : (drivesInside.run [] ⟨fresh, []⟩).notes =
      [.noted [0] 0 (some 0), .left [] 0 .returns none none] := by cbv
  have hseen := h drivesInside [0] 0 (some 0) (by rw [hnotes]; exact List.mem_cons_self)
  cases hseen

-- If the runtime goes round outside, the task sees nothing, though it was spawned inside.
example :
    let code : Code := .does .opensRegistry <| .does (.builds default) <|
      .enters 0 (.spawns 0 true <| .stops .panics) fun _ => .does (.rounds 0) <| .stops .returns
    (code.run [] ⟨fresh, []⟩).notes = [.left [] 0 .panics none none, .noted [] 0 none] := by
  cbv

end Code

end Inbound.Server
