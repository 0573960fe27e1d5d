import Mathlib
import Inbound.Adapter.Service
import Inbound.Proofs.Server.Scopes

/-!
# Where handlers run

A handler is a function that makes a future. The function runs when the call is polled for the first
time, and nothing is bound for it; the future is polled with the request of the call bound. So what
the function sees is what its surroundings have bound: nothing, or some other request that is being
handled there. All this may be nested and interleaved in any way, with scopes and with other calls,
and after every poll what is bound is what was bound before.

## Main definitions

* `Service.Code`: the handlers of a service and the code around them;
* `Frame.bound`: what is bound at a place.

## Main results

* `Service.respects_run`: everything sees what is bound at its place;
* `Service.binds_in_future`: the future of a handler sees its request, and the function sees it just
  if its surroundings have bound it;
* `Service.function_sees_nothing`: a function that does not see the request that it is given.
-/

namespace Inbound.Adapter.Service

open Server (Event Exit)

/-! ### Code -/

/-- A place in which code runs. -/
inductive Frame where
  /-- A scope of a request, or a poll of a scoped future. -/
  | scope (request : RequestId)
  /-- The function that is given a request and makes the future of its handler. -/
  | function (request : RequestId)
  /-- That future. -/
  | future (request : RequestId)
  deriving DecidableEq

/-- The request that is bound in places of which the innermost one comes first, where this one is
bound outside of all. -/
def Frame.bound (outer : Option RequestId) : List Frame → Option RequestId
  | [] => outer
  | .scope id :: _ | .future id :: _ => some id
  | .function _ :: rest => Frame.bound outer rest

/-- Code, as the course that it takes. What a handler does is written where its call is polled or
dropped. After other code has come to a stop, code goes on as it likes, depending on the way in
which the other did. -/
inductive Code where
  /-- It comes to a stop. -/
  | stops (exit : Exit)
  /-- It looks at the bound request. -/
  | looks (rest : Code)
  /-- Something else happens to the server. -/
  | does (event : Event) (rest : Code)
  /-- It runs code in a scope of a request. -/
  | enters (id : RequestId) (body : Code) (rest : Exit → Code)
  /-- A message comes in, on a runtime or outside of all, and is to be answered by a call. -/
  | arrives (message : Message) (ambient : Option RuntimeId) (rest : Code)
  /-- A call is polled. The first time, the function makes the future. -/
  | polls (call : ℕ) (function future : Code) (rest : Exit → Code)
  /-- A call is dropped, and the future of its handler with it, if there is one. -/
  | drops (call : ℕ) (future : Code) (rest : Exit → Code)

/-- A call that is not over. -/
structure Pending where
  ongoing : Ongoing
  /-- The function has made the future. -/
  hasFuture : Bool

/-- The server, and the calls. One that is being polled or is over leaves its place. -/
structure Thread where
  server : Server
  calls : List (Option Pending)

/-- What is noted of a course. The frames are the places in which the code is. -/
inductive Note where
  /-- The code has looked at the bound request. -/
  | looked (frames : List Frame) (seen : Option RequestId)
  /-- The code has left a scope, or a call has been polled or dropped: what was bound before, and
  after. -/
  | left (frames : List Frame) (exit : Exit) (before after : Option RequestId)
  deriving DecidableEq

/-- What comes of code. -/
structure Outcome where
  /-- What is noted of it. -/
  notes : List Note
  /-- How it came to a stop. -/
  exit : Exit
  /-- What is left. -/
  thread : Thread

/-- Something is noted before. -/
def Outcome.after (notes : List Note) (outcome : Outcome) : Outcome :=
  { outcome with notes := notes ++ outcome.notes }

/-- Code as something that is done to the server of a thread. -/
def Thread.lend (thread : Thread) (code : Thread → Outcome) (server : Server) : Outcome × Server :=
  let outcome := code { thread with server }
  (outcome, outcome.thread.server)

/-- The outcome where this has become of the server in the end. -/
def Outcome.leaving (outcome : Outcome) (server : Server) : Outcome :=
  { outcome with thread := { outcome.thread with server } }

/-- Code runs while a request is bound. -/
def Thread.visit (thread : Thread) (id : RequestId) (code : Thread → Outcome) : Outcome :=
  let (outcome, server) := thread.server.bind id (thread.lend code)
  outcome.leaving server

/-- Code runs in a scope of a request. -/
def Thread.enterScope (thread : Thread) (id : RequestId) (code : Thread → Outcome) : Outcome :=
  let outcome := Thread.visit { thread with server := thread.server.openScope id } id code
  outcome.leaving (outcome.thread.server.closeScope id)

/-- The future of a handler is polled. -/
def Thread.pollFuture (thread : Thread) (ongoing : Ongoing) (future : Thread → Outcome) : Outcome :=
  let (outcome, server) := ongoing.poll thread.server (thread.lend future)
  outcome.leaving server

/-- A call is polled for the first time. A function that panics makes no future. -/
def Thread.pollFirst (thread : Thread) (ongoing : Ongoing) (function future : Thread → Outcome) :
    Outcome :=
  let make (server : Server) : Except Outcome Outcome × Server :=
    let (made, server) := thread.lend function server
    (if made.exit = .panics then .error made else .ok made, server)
  let handler (made : Outcome) (server : Server) : Outcome × Server :=
    let (outcome, server) := made.thread.lend future server
    (outcome.after made.notes, server)
  match ongoing.firstPoll thread.server make handler with
  | (.error outcome, server) | (.ok outcome, server) => outcome.leaving server

/-- What becomes of a call that has been polled. -/
def Thread.conclude (thread : Thread) (call : ℕ) (ongoing : Ongoing) (exit : Exit) : Thread :=
  match exit with
  | .waits => { thread with calls := thread.calls.set call (some ⟨ongoing, true⟩) }
  | .panics => { thread with server := ongoing.abandon thread.server }
  | .returns | .fails => { thread with server := (ongoing.finish thread.server ()).2 }

/-- The call in a place is borrowed. -/
def Thread.borrow (thread : Thread) (call : ℕ) : Thread :=
  { thread with calls := thread.calls.set call none }

/-- The call in a place is polled. -/
def Thread.pollCall (thread : Thread) (call : ℕ) (pending : Pending)
    (function future : Thread → Outcome) : Outcome :=
  let outcome :=
    if pending.hasFuture then (thread.borrow call).pollFuture pending.ongoing future
    else (thread.borrow call).pollFirst pending.ongoing function future
  { outcome with thread := outcome.thread.conclude call pending.ongoing outcome.exit }

/-- The call in a place is dropped. The future of its handler is dropped in its scope. -/
def Thread.dropCall (thread : Thread) (call : ℕ) (pending : Pending) (future : Thread → Outcome) :
    Outcome :=
  let outcome :=
    if pending.hasFuture then (thread.borrow call).visit pending.ongoing.request future
    else ⟨[], .returns, thread.borrow call⟩
  outcome.leaving (pending.ongoing.abandon outcome.thread.server)

/-- Code goes on after other code. -/
def Outcome.andThen (outcome : Outcome) (frames : List Frame) (before : Option RequestId)
    (rest : Exit → Thread → Outcome) : Outcome :=
  .after (outcome.notes ++ [.left frames outcome.exit before outcome.thread.server.bound])
    (rest outcome.exit outcome.thread)

/-- What comes of code that is run in some places. A call that is over panics when it is polled
again, and has nothing to do when it is dropped. -/
def Code.run (service : Service) : Code → List Frame → Thread → Outcome
  | .stops exit, _, thread => ⟨[], exit, thread⟩
  | .looks rest, frames, thread =>
    .after [.looked frames thread.server.bound] (rest.run service frames thread)
  | .does event rest, frames, thread =>
    rest.run service frames { thread with server := thread.server.happen event }
  | .enters id body rest, frames, thread =>
    (thread.enterScope id (body.run service (.scope id :: frames))).andThen frames
      thread.server.bound fun exit => (rest exit).run service frames
  | .arrives message ambient rest, frames, thread =>
    let (ongoing, server) := service.begin thread.server message ambient
    rest.run service frames ⟨server, thread.calls ++ [some ⟨ongoing, false⟩]⟩
  | .polls call function future rest, frames, thread =>
    match thread.calls[call]?.join with
    | none => (rest .panics).run service frames thread
    | some pending =>
      let id := pending.ongoing.request
      (thread.pollCall call pending (function.run service (.function id :: frames))
        (future.run service (.future id :: frames))).andThen frames
          thread.server.bound fun exit => (rest exit).run service frames
  | .drops call future rest, frames, thread =>
    match thread.calls[call]?.join with
    | none => (rest .returns).run service frames thread
    | some pending =>
      let id := pending.ongoing.request
      (thread.dropCall call pending (future.run service (.future id :: frames))).andThen frames
        thread.server.bound fun exit => (rest exit).run service frames

/-! ### What holds of notes -/

/-- What is noted is as the places say. -/
def Note.IsRight (outer : Option RequestId) : Note → Prop
  | .looked frames seen => seen = Frame.bound outer frames
  | .left frames _ before after => before = Frame.bound outer frames ∧ after = before

/-- All that is noted is right, and what is bound in the end is what the places bind. -/
structure Outcome.Holds (outer : Option RequestId) (frames : List Frame) (outcome : Outcome) :
    Prop where
  notes : ∀ note ∈ outcome.notes, note.IsRight outer
  bound : outcome.thread.server.bound = Frame.bound outer frames

/-- Code sees what is bound in some places, and leaves it bound. -/
def Respects (outer : Option RequestId) (frames : List Frame) (code : Thread → Outcome) : Prop :=
  ∀ thread : Thread, thread.server.bound = Frame.bound outer frames →
    (code thread).Holds outer frames

section Places

variable {outer : Option RequestId} {frames : List Frame}

theorem respects_stops (exit : Exit) : Respects outer frames fun thread => ⟨[], exit, thread⟩ :=
  fun _ h => ⟨fun _ hnote => absurd hnote List.not_mem_nil, h⟩

theorem Outcome.Holds.after {outcome : Outcome} (h : outcome.Holds outer frames)
    {notes : List Note} (hnotes : ∀ note ∈ notes, note.IsRight outer) :
    (outcome.after notes).Holds outer frames where
  notes note hnote := (List.mem_append.mp hnote).elim (hnotes note) (h.notes note)
  bound := h.bound

/-- It is nothing to code what becomes of the server if the same request is bound. -/
theorem Outcome.Holds.leaving {outcome : Outcome} (h : outcome.Holds outer frames)
    {server : Server} (hserver : server.bound = outcome.thread.server.bound) :
    (outcome.leaving server).Holds outer frames where
  notes := h.notes
  bound := hserver.trans h.bound

theorem Outcome.Holds.andThen {outcome : Outcome} (h : outcome.Holds outer frames)
    {before : Option RequestId} (hbefore : before = Frame.bound outer frames)
    {rest : Exit → Thread → Outcome} (hrest : ∀ exit, Respects outer frames (rest exit)) :
    (outcome.andThen frames before rest).Holds outer frames := by
  refine (hrest outcome.exit outcome.thread h.bound).after fun note hnote => ?_
  rcases List.mem_append.mp hnote with hinside | hleft
  · exact h.notes note hinside
  · rw [List.mem_singleton.mp hleft]
    exact ⟨hbefore, h.bound.trans hbefore.symm⟩

variable {thread : Thread} (h : thread.server.bound = Frame.bound outer frames)

include h

theorem holds_visit {id : RequestId} {place : Frame}
    (hplace : Frame.bound outer (place :: frames) = some id) {code : Thread → Outcome}
    (hcode : Respects outer (place :: frames) code) :
    (thread.visit id code).Holds outer frames where
  notes note hnote := (hcode _ hplace.symm).notes note hnote
  bound := h

theorem holds_enterScope {id : RequestId} {code : Thread → Outcome}
    (hcode : Respects outer (.scope id :: frames) code) :
    (thread.enterScope id code).Holds outer frames := by
  let opened : Thread := { thread with server := thread.server.openScope id }
  have hopened : opened.server.bound = Frame.bound outer frames := h
  exact (holds_visit hopened rfl hcode).leaving (Server.Code.bound_closeScope _ _)

variable {ongoing : Ongoing} {function future : Thread → Outcome}

/-- The future of a handler is polled with its request bound. -/
theorem holds_pollFuture (hfuture : Respects outer (.future ongoing.request :: frames) future) :
    (thread.pollFuture ongoing future).Holds outer frames where
  notes note hnote := (hfuture _ rfl).notes note hnote
  bound := h

/-- The function runs where nothing more is bound than in its surroundings. -/
theorem holds_pollFirst
    (hfunction : Respects outer (.function ongoing.request :: frames) function)
    (hfuture : Respects outer (.future ongoing.request :: frames) future) :
    (thread.pollFirst ongoing function future).Holds outer frames := by
  obtain ⟨hnotes, hbound⟩ := hfunction thread h
  have hmade : (function thread).Holds outer frames := ⟨hnotes, hbound⟩
  by_cases hpanics : (function thread).exit = .panics
  · have hfirst : thread.pollFirst ongoing function future = function thread := by
      simp only [Thread.pollFirst, Ongoing.firstPoll, Thread.lend, hpanics, if_true]
      rfl
    rwa [hfirst]
  · have hfirst : thread.pollFirst ongoing function future =
        ((function thread).thread.pollFuture ongoing future).after (function thread).notes := by
      simp only [Thread.pollFirst, Ongoing.firstPoll, Thread.lend, hpanics, if_false]
      rfl
    rw [hfirst]
    exact (holds_pollFuture hmade.bound hfuture).after hmade.notes

end Places

theorem bound_abandon (ongoing : Ongoing) (server : Server) :
    (ongoing.abandon server).bound = server.bound :=
  (Server.Code.bound_closeScope _ _).trans (Server.Code.bound_closeScope _ _)

theorem bound_finish (ongoing : Ongoing) (server : Server) :
    (ongoing.finish server ()).2.bound = server.bound := by
  have hexecuted := (Server.grows_execute (server.closeScope ongoing.request) ongoing.request
    Deferred.defaultScope ongoing.ambient).bound
  have hfirst := Server.Code.bound_closeScope server ongoing.request
  exact (Server.Code.bound_closeScope _ _).trans (hexecuted.trans hfirst)

theorem bound_conclude (thread : Thread) (call : ℕ) (ongoing : Ongoing) (exit : Exit) :
    (thread.conclude call ongoing exit).server.bound = thread.server.bound := by
  cases exit with
  | waits => rfl
  | panics => exact bound_abandon ongoing thread.server
  | returns | fails => exact bound_finish ongoing thread.server

section Calls

variable {outer : Option RequestId} {frames : List Frame} {thread : Thread} {pending : Pending}
  {function future : Thread → Outcome} (h : thread.server.bound = Frame.bound outer frames)
  (hfuture : Respects outer (.future pending.ongoing.request :: frames) future)

include h hfuture

theorem holds_pollCall (call : ℕ)
    (hfunction : Respects outer (.function pending.ongoing.request :: frames) function) :
    (thread.pollCall call pending function future).Holds outer frames := by
  have hborrowed : (thread.borrow call).server.bound = Frame.bound outer frames := h
  unfold Thread.pollCall
  have hpolled : (if pending.hasFuture then (thread.borrow call).pollFuture pending.ongoing future
      else (thread.borrow call).pollFirst pending.ongoing function future).Holds outer frames := by
    split
    · exact holds_pollFuture hborrowed hfuture
    · exact holds_pollFirst hborrowed hfunction hfuture
  exact ⟨hpolled.notes, (bound_conclude _ _ _ _).trans hpolled.bound⟩

theorem holds_dropCall (call : ℕ) : (thread.dropCall call pending future).Holds outer frames := by
  have hborrowed : (thread.borrow call).server.bound = Frame.bound outer frames := h
  unfold Thread.dropCall
  refine Outcome.Holds.leaving ?_ (bound_abandon _ _)
  split
  · exact holds_visit hborrowed rfl hfuture
  · exact respects_stops .returns _ hborrowed

end Calls

/-- Code sees what is bound in the places in which it is, and leaves it bound. -/
theorem respects_run (service : Service) (outer : Option RequestId) (code : Code)
    (frames : List Frame) : Respects outer frames (code.run service frames) := by
  -- By induction on the code, for all frames and threads, as bodies run inside a frame of their
  -- own.
  intro thread h
  induction code generalizing frames thread with
  | stops exit => exact respects_stops exit thread h
  | looks rest ih =>
    refine (ih frames thread h).after fun note hnote => ?_
    rw [List.mem_singleton.mp hnote]
    exact h
  | does event rest ih => exact ih frames _ ((Server.sees_happen thread.server event).bound.trans h)
  | enters id body rest ihBody ihRest =>
    exact (holds_enterScope h (ihBody _)).andThen h fun exit => ihRest exit frames
  | arrives message ambient rest ih => exact ih frames _ h
  | polls call function future rest ihFunction ihFuture ihRest =>
    unfold Code.run
    split
    · exact ihRest .panics frames thread h
    · exact (holds_pollCall h (ihFuture _) call (ihFunction _)).andThen h
        fun exit => ihRest exit frames
  | drops call future rest ihFuture ihRest =>
    unfold Code.run
    split
    · exact ihRest .returns frames thread h
    · exact (holds_dropCall h (ihFuture _) call).andThen h fun exit => ihRest exit frames

/-! ### All handlers -/

/-- Whatever the handlers of a service and the code around them do, and whatever is bound outside:
the future of a handler sees the request that the handler was given. The function that makes it sees
what is bound where the call is polled for the first time, so it sees that request just if it is
bound there already. After every poll, and when a call is dropped or a scope is left, what is bound
is what was bound before, and that is so in the end. -/
theorem binds_in_future (service : Service) (code : Code) (server : Server) :
    let outcome := code.run service [] ⟨server, []⟩
    (∀ {frames request seen}, .looked (.future request :: frames) seen ∈ outcome.notes →
      seen = some request) ∧
    (∀ {frames request seen}, .looked (.function request :: frames) seen ∈ outcome.notes →
      (seen = some request ↔ Frame.bound server.bound frames = some request)) ∧
    (∀ {frames seen}, .looked frames seen ∈ outcome.notes →
      seen = Frame.bound server.bound frames) ∧
    (∀ {frames exit before after}, .left frames exit before after ∈ outcome.notes →
      before = Frame.bound server.bound frames ∧ after = before) ∧
    outcome.thread.server.bound = server.bound := by
  intro outcome
  have h := respects_run service server.bound code [] ⟨server, []⟩ rfl
  refine ⟨h.notes _, fun {frames request seen} hlooked => ?_, h.notes _, h.notes _, h.bound⟩
  have hseen : seen = Frame.bound server.bound frames := h.notes _ hlooked
  rw [hseen]

/-- A message. -/
def audit : Message := ⟨"GET", ⟨none, none, "/audit", none⟩, .empty, .http11, []⟩

/-- The message is answered by a handler whose function looks before it makes the future, and the
future looks as well. -/
def looksTwice : Code :=
  .arrives audit none <| .polls 0 (.looks <| .stops .returns) (.looks <| .stops .returns) .stops

/-- Nothing is bound when the function looks, though it has been given a request. -/
theorem function_sees_nothing :
    ¬ ∀ (service : Service) (code : Code) (server : Server) (frames : List Frame)
      (request : RequestId) (seen : Option RequestId),
      .looked (.function request :: frames) seen ∈ (code.run service [] ⟨server, []⟩).notes →
        seen = some request := by
  intro h
  have hnotes : (looksTwice.run ⟨default, 0⟩ [] ⟨.fresh, []⟩).notes =
      [.looked [.function 0] none, .looked [.future 0] (some 0), .left [] .returns none none] := by
    cbv
  have hlooked : .looked [.function 0] none ∈
      (looksTwice.run ⟨default, 0⟩ [] ⟨.fresh, []⟩).notes := by
    rw [hnotes]
    exact List.mem_cons_self
  cases h _ _ _ _ _ _ hlooked

-- A call that is polled by the handler of another one: its function sees the request of that one.
example :
    let code : Code := .arrives audit none <| .arrives audit none <|
      .polls 0 (.stops .returns)
        (.polls 1 (.looks <| .stops .returns) (.looks <| .stops .waits) fun _ => .stops .returns)
        .stops
    (code.run ⟨default, 0⟩ [] ⟨.fresh, []⟩).notes =
      [.looked [.function 1, .future 0] (some 0), .looked [.future 1, .future 0] (some 1),
        .left [.future 0] .waits (some 0) (some 0), .left [] .returns none none] := by
  cbv

end Inbound.Adapter.Service
