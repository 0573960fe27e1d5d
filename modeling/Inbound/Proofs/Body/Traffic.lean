import Mathlib.Data.List.Induction
import Mathlib.Logic.Function.Basic
import Inbound.Proofs.Body.Operation
import Inbound.Proofs.Histories
import Inbound.Request.Call

/-!
# Traffic on a body

Any number of calls on the body of one request are in flight at once. They are begun, polled and
dropped in any order, the client may go away, and whoever polls may be allowed any number of gates
each time. Whatever holds after every sequence of such events holds however the calls are
interleaved.

## Main results

* `Traffic.effect_step`: everything that one event can do;
* `Traffic.orderly_run`: what every call in flight satisfies, whatever has happened.
-/

namespace Inbound

namespace Request

/-- Asking for the character set leaves the body alone. -/
theorem body_charset (request : Request) : (Request.charset request).2.body = request.body := by
  obtain ⟨head, views, body, store, events, choice, resolution, matchdict, socket, registry,
    runtime⟩ := request
  cases choice <;> rfl

/-- The character set has nothing to do with how far the body has come. -/
theorem charset_body (request : Request) (body : Body) :
    (Request.charset { request with body }).1 = (Request.charset request).1 := by
  obtain ⟨head, views, body, store, events, choice, resolution, matchdict, socket, registry,
    runtime⟩ := request
  cases choice <;> rfl

/-- A call that wants bytes is its read, and makes its answer of the result. -/
theorem pollCall_reading (request : Request) (wanted : BodyCall) (read : Body.Read) :
    let polled := request.body.pollRead read
    let called := request.pollCall ⟨wanted, .reading read⟩
    called.1 = polled.1.map (finishCall wanted (Request.charset request).1) ∧
      called.2.1 = ⟨wanted, .reading polled.2.1⟩ ∧ called.2.2.body = polled.2.2 := by
  simp only [pollCall]
  rcases request.body.pollRead read with ⟨result | -, read', body⟩
  · refine ⟨?_, rfl, body_charset _⟩
    rw [← charset_body request body]
    rfl
  · exact ⟨rfl, rfl, rfl⟩

/-- What a handler gets of a release. -/
def finishRelease : Except BodyError Unit → Except CallError BodyAnswer
  | .ok () => .ok .released
  | .error error => .error (.body error)

/-- A call that wants the rest thrown away is its release. -/
theorem pollCall_releasing (request : Request) (wanted : BodyCall) (release : Body.Release) :
    let polled := request.body.pollRelease release
    request.pollCall ⟨wanted, .releasing release⟩ =
      (polled.1.map finishRelease, ⟨wanted, .releasing polled.2.1⟩,
        { request with body := polled.2.2 }) := by
  simp only [pollCall]
  rcases request.body.pollRelease release with ⟨(error | ⟨⟩) | -, release', body⟩ <;> rfl

/-- What a handler gets of a bare pull. -/
def finishPull : Except String ByteArray → Except CallError BodyAnswer
  | .ok bytes => .ok (.bytes bytes)
  | .error text => .error (.stream text)

/-- A call that wants one chunk is its pull, and stays what it is. -/
theorem pollCall_pulling (request : Request) (wanted : BodyCall) (ticket : Ticket) :
    let pulled := request.body.pullAny ticket
    request.pollCall ⟨wanted, .pulling ticket⟩ =
      (pulled.1.map finishPull, ⟨wanted, .pulling ticket⟩, { request with body := pulled.2 }) := by
  simp only [pollCall]
  rcases request.body.pullAny ticket with ⟨(error | bytes) | -, body⟩ <;> rfl

end Request

/-- The calls in flight, by ticket. -/
abbrev InFlight := Ticket → Option Call

/-- A call is in flight after something has been put under a ticket if it is what was put there, or
was in flight under another ticket before. -/
theorem InFlight.update_eq_some_iff {inFlight : InFlight} {ticket other : Ticket}
    {new : Option Call} {call : Call} :
    Function.update inFlight ticket new other = some call ↔
      other = ticket ∧ new = some call ∨ other ≠ ticket ∧ inFlight other = some call := by
  by_cases hother : other = ticket
  · subst hother
    simp
  · simp [hother]

/-- A request with the calls on its body that are in flight. -/
structure Traffic where
  request : Request
  inFlight : InFlight

namespace Traffic

/-- What can happen next. -/
inductive Event where
  /-- A call is begun. -/
  | begins (wanted : BodyCall)
  /-- A call is polled. One that is ready is in flight no more. -/
  | polls (ticket : Ticket)
  /-- A call is dropped. -/
  | drops (ticket : Ticket)
  /-- The client goes away. -/
  | cancels
  /-- So many gates may be passed from now on. -/
  | allows (passes : Option Nat)

/-- The traffic before anything is begun. -/
def start (request : Request) : Traffic := ⟨request, fun _ => none⟩

/-- The body that it is all about. -/
def body (traffic : Traffic) : Body := traffic.request.body

/-- The traffic after something was done to the request by the call under a ticket. -/
def put (traffic : Traffic) (ticket : Ticket) (call : Option Call) (request : Request) : Traffic :=
  ⟨request, Function.update traffic.inFlight ticket call⟩

/-- What is left in flight of a call that was polled. -/
def unlessReady {α : Type} : Poll α → Call → Option Call
  | .pending, call => some call
  | .ready _, _ => none

@[simp]
theorem unlessReady_map {α β : Type} (f : α → β) (polled : Poll α) (call : Call) :
    unlessReady (polled.map f) call = unlessReady polled call := by
  cases polled <;> rfl

/-- One event happens. -/
def step (traffic : Traffic) : Event → Traffic
  | .begins wanted =>
    let (call, request) := traffic.request.beginCall wanted
    traffic.put call.ticket (some call) request
  | .polls ticket =>
    match traffic.inFlight ticket with
    | none => traffic
    | some call =>
      let (answer, call, request) := traffic.request.pollCall call
      traffic.put ticket (unlessReady answer call) request
  | .drops ticket =>
    match traffic.inFlight ticket with
    | none => traffic
    | some call => traffic.put ticket none (traffic.request.abandonCall call)
  | .cancels => { traffic with request := traffic.request.cancel }
  | .allows passes =>
    { traffic with request := { traffic.request with body := { traffic.body with passes } } }

/-- Events happen one after the other. -/
def run (traffic : Traffic) (events : List Event) : Traffic :=
  events.foldl step traffic

@[simp]
theorem run_nil (traffic : Traffic) : traffic.run [] = traffic := rfl

theorem run_append (traffic : Traffic) (before after : List Event) :
    traffic.run (before ++ after) = (traffic.run before).run after :=
  List.foldl_append

theorem run_concat (traffic : Traffic) (events : List Event) (event : Event) :
    traffic.run (events ++ [event]) = (traffic.run events).step event := by
  rw [run_append]
  rfl

/-- What the call under a ticket answers when it is polled. -/
def answer? (traffic : Traffic) (ticket : Ticket) :
    Option (Poll (Except CallError BodyAnswer)) :=
  (traffic.inFlight ticket).map fun call => (traffic.request.pollCall call).1

/-- What the read comes to, when it is polled, that the call under a ticket makes its answer of. -/
def read? (traffic : Traffic) (ticket : Ticket) : Option (Poll (Except BodyError ByteArray)) :=
  (traffic.inFlight ticket).bind fun call =>
    match call.stage with
    | .reading read => some (traffic.body.pollRead read).1
    | _ => none

/-- The call under a ticket obtains the bytes of the body when it is polled. -/
def Obtains (traffic : Traffic) (ticket : Ticket) (bytes : ByteArray) : Prop :=
  traffic.read? ticket = some (.ready (.ok bytes))

theorem read?_eq_some {traffic : Traffic} {ticket : Ticket}
    {result : Poll (Except BodyError ByteArray)} :
    traffic.read? ticket = some result ↔ ∃ wanted read,
      traffic.inFlight ticket = some ⟨wanted, .reading read⟩ ∧
        (traffic.body.pollRead read).1 = result := by
  unfold read?
  rw [Option.bind_eq_some_iff]
  constructor
  -- Only a call that reads comes to bytes; the others come to nothing here.
  · rintro ⟨⟨wanted, read | release | visitor⟩, hcall, hread⟩
    · exact ⟨wanted, read, hcall, Option.some.inj hread⟩
    · cases hread
    · cases hread
  · rintro ⟨wanted, read, hcall, hread⟩
    exact ⟨_, hcall, congrArg some hread⟩

/-- A call makes its answer of what its read comes to, in the character set of the request. -/
theorem answer?_of_read? {traffic : Traffic} {ticket : Ticket}
    {result : Poll (Except BodyError ByteArray)} (h : traffic.read? ticket = some result) :
    ∃ call, traffic.inFlight ticket = some call ∧ traffic.answer? ticket =
      some (result.map (Request.finishCall call.wanted (Request.charset traffic.request).1)) := by
  obtain ⟨wanted, read, hcall, rfl⟩ := read?_eq_some.mp h
  obtain ⟨hanswer, -, -⟩ := traffic.request.pollCall_reading wanted read
  refine ⟨_, hcall, ?_⟩
  rw [answer?, hcall, Option.map_some, hanswer]
  rfl

/-! ### What one event does -/

/-- Everything that an event can do to the body and to the calls in flight. -/
inductive Effect (body : Body) (inFlight : InFlight) : Event → Body → InFlight → Prop where
  /-- There is no such call. -/
  | none {event : Event} : Effect body inFlight event body inFlight
  /-- A read is begun. -/
  | beginsRead {wanted : BodyCall} :
    Effect body inFlight (.begins wanted) { body with nextTicket := body.nextTicket + 1 }
      (Function.update inFlight body.nextTicket
        (some ⟨wanted, .reading ⟨body.nextTicket, false, .empty, false⟩⟩))
  /-- A release is begun. -/
  | beginsRelease :
    Effect body inFlight (.begins .release) { body with nextTicket := body.nextTicket + 1 }
      (Function.update inFlight body.nextTicket
        (some ⟨.release, .releasing ⟨body.nextTicket, false, false⟩⟩))
  /-- A bare pull is begun. -/
  | beginsPull {body' : Body} {inFlight' : InFlight} :
    Effect body inFlight (.begins .readAny) body' inFlight'
  /-- A read is polled. -/
  | reads {ticket : Ticket} {wanted : BodyCall} {read read' : Body.Read} {body' : Body}
    {result : Poll (Except BodyError ByteArray)}
    (inFlight_eq : inFlight ticket = some ⟨wanted, .reading read⟩)
    (reads : body.Reads read result read' body') :
    Effect body inFlight (.polls ticket) body'
      (Function.update inFlight ticket (unlessReady result ⟨wanted, .reading read'⟩))
  /-- A release is polled. -/
  | releases {ticket : Ticket} {wanted : BodyCall} {release release' : Body.Release}
    {body' : Body} {result : Poll (Except BodyError Unit)}
    (inFlight_eq : inFlight ticket = some ⟨wanted, .releasing release⟩)
    (releases : body.pollRelease release = (result, release', body')) :
    Effect body inFlight (.polls ticket) body'
      (Function.update inFlight ticket (unlessReady result ⟨wanted, .releasing release'⟩))
  /-- A bare pull is polled or dropped. -/
  | pulls {event : Event} {ticket visitor : Ticket} {wanted : BodyCall} {body' : Body}
    {inFlight' : InFlight} (inFlight_eq : inFlight ticket = some ⟨wanted, .pulling visitor⟩) :
    Effect body inFlight event body' inFlight'
  /-- A read is dropped. -/
  | dropsRead {ticket : Ticket} {wanted : BodyCall} {read : Body.Read}
    (inFlight_eq : inFlight ticket = some ⟨wanted, .reading read⟩) :
    Effect body inFlight (.drops ticket) (body.abandonRead read)
      (Function.update inFlight ticket none)
  /-- A release is dropped. -/
  | dropsRelease {ticket : Ticket} {wanted : BodyCall} {release : Body.Release}
    (inFlight_eq : inFlight ticket = some ⟨wanted, .releasing release⟩) :
    Effect body inFlight (.drops ticket) (body.abandonRelease release)
      (Function.update inFlight ticket none)
  /-- The client goes away. -/
  | cancels : Effect body inFlight .cancels body.cancel inFlight
  /-- So many gates may be passed. -/
  | allows {passes : Option Nat} :
    Effect body inFlight (.allows passes) { body with passes } inFlight

theorem step_polls {traffic : Traffic} {ticket : Ticket} {call : Call}
    (h : traffic.inFlight ticket = some call) :
    traffic.step (.polls ticket) =
      traffic.put ticket
        (unlessReady (traffic.request.pollCall call).1 (traffic.request.pollCall call).2.1)
        (traffic.request.pollCall call).2.2 := by
  simp only [step, h]

theorem step_polls_reading {traffic : Traffic} {ticket : Ticket} {wanted : BodyCall}
    {read : Body.Read} (h : traffic.inFlight ticket = some ⟨wanted, .reading read⟩) :
    let polled := traffic.body.pollRead read
    (traffic.step (.polls ticket)).body = polled.2.2 ∧
      (traffic.step (.polls ticket)).inFlight = Function.update traffic.inFlight ticket
        (unlessReady polled.1 ⟨wanted, .reading polled.2.1⟩) := by
  obtain ⟨hanswer, hcall, hbody⟩ := traffic.request.pollCall_reading wanted read
  rw [step_polls h, put, hanswer, hcall, unlessReady_map]
  exact ⟨hbody, rfl⟩

/-- Bytes that a call obtains are in the cache afterwards. -/
theorem cache_of_obtains {traffic : Traffic} {ticket : Ticket} {bytes : ByteArray}
    (h : traffic.Obtains ticket bytes) :
    (traffic.step (.polls ticket)).body.cache = some bytes := by
  obtain ⟨wanted, read, hcall, hread⟩ := read?_eq_some.mp h
  have hreads := Body.pollRead_spec traffic.body read
  rw [hread] at hreads
  rw [(step_polls_reading hcall).1]
  exact hreads.cache_of_ok

/-- A call that is polled leaves the body as its read or release leaves it, and is in flight as
long as that is pending. -/
theorem effect_polls {traffic : Traffic} {ticket : Ticket} {call : Call}
    (h : traffic.inFlight ticket = some call) :
    Effect traffic.body traffic.inFlight (.polls ticket) (traffic.step (.polls ticket)).body
      (traffic.step (.polls ticket)).inFlight := by
  -- What kind of call it is decides what the poll is one of.
  obtain ⟨wanted, read | release | visitor⟩ := call
  · obtain ⟨hbody, hinFlight⟩ := step_polls_reading h
    rw [hbody, hinFlight]
    exact .reads h (Body.pollRead_spec traffic.body read)
  · have heffect : Effect traffic.body traffic.inFlight _ _ _ := .releases h rfl
    rw [step_polls h]
    simp only [put, body, traffic.request.pollCall_releasing wanted release, unlessReady_map]
    exact heffect
  · exact .pulls h

theorem effect_begins (traffic : Traffic) (wanted : BodyCall) :
    Effect traffic.body traffic.inFlight (.begins wanted) (traffic.step (.begins wanted)).body
      (traffic.step (.begins wanted)).inFlight := by
  cases wanted with
  | release => exact .beginsRelease
  | readAny => exact .beginsPull
  | read | text | json | jsonAs => exact .beginsRead

theorem effect_drops {traffic : Traffic} {ticket : Ticket} {call : Call}
    (h : traffic.inFlight ticket = some call) :
    Effect traffic.body traffic.inFlight (.drops ticket) (traffic.step (.drops ticket)).body
      (traffic.step (.drops ticket)).inFlight := by
  -- Whatever the call is, it is gone afterwards.
  have hstep : traffic.step (.drops ticket) =
      traffic.put ticket none (traffic.request.abandonCall call) := by
    simp only [step, h]
  rw [hstep]
  obtain ⟨wanted, read | release | visitor⟩ := call
  · exact .dropsRead h
  · exact .dropsRelease h
  · exact .pulls h

/-- An event does nothing but what is known that it can do. -/
theorem effect_step (traffic : Traffic) (event : Event) :
    Effect traffic.body traffic.inFlight event (traffic.step event).body
      (traffic.step event).inFlight := by
  cases event with
  | begins wanted => exact effect_begins traffic wanted
  | polls ticket =>
    cases hcall : traffic.inFlight ticket with
    | none =>
      simp only [step, hcall]
      exact .none
    | some call => exact effect_polls hcall
  | drops ticket =>
    cases hcall : traffic.inFlight ticket with
    | none =>
      simp only [step, hcall]
      exact .none
    | some call => exact effect_drops hcall
  | cancels => exact .cancels
  | allows passes => exact .allows

/-! ### Calls in flight -/

/-- A call is in flight as it should be: it goes by its ticket, a read has pulled nothing before
its turn, a release that has pulled something waits for more, and there are no bare pulls. -/
def IsSound (ticket : Ticket) (call : Call) : Prop :=
  match call.stage with
  | .reading read =>
    read.ticket = ticket ∧ read.Knows ∧ (read.started = false → read.got = .empty)
  | .releasing release => release.ticket = ticket ∧ release.Waits
  | .pulling _ => False

/-- All calls in flight are so as they should be, and no ticket is given out twice. -/
structure Orderly (body : Body) (inFlight : InFlight) : Prop where
  sound : ∀ {ticket : Ticket} {call : Call}, inFlight ticket = some call → IsSound ticket call
  known : ∀ {ticket : Ticket} {call : Call}, inFlight ticket = some call →
    ticket < body.nextTicket

namespace Orderly

variable {body body' : Body} {inFlight : InFlight}

/-- What is in flight under one ticket is replaced. -/
theorem update (h : Orderly body inFlight) {ticket : Ticket} {new : Option Call}
    (hnext : body.nextTicket ≤ body'.nextTicket)
    (hnew : ∀ call, new = some call → IsSound ticket call ∧ ticket < body'.nextTicket) :
    Orderly body' (Function.update inFlight ticket new) := by
  -- Under the ticket stands what is new, under all others what was there before.
  have hall : ∀ {other : Ticket} {call : Call},
      Function.update inFlight ticket new other = some call →
        IsSound other call ∧ other < body'.nextTicket := by
    intro other call hcall
    rcases InFlight.update_eq_some_iff.mp hcall with ⟨rfl, hself⟩ | ⟨-, hold⟩
    · exact hnew call hself
    · exact ⟨h.sound hold, Nat.lt_of_lt_of_le (h.known hold) hnext⟩
  exact ⟨fun hcall => (hall hcall).1, fun hcall => (hall hcall).2⟩

theorem read {ticket : Ticket} {wanted : BodyCall} {read : Body.Read}
    (h : Orderly body inFlight) (hcall : inFlight ticket = some ⟨wanted, .reading read⟩) :
    read.ticket = ticket ∧ read.Knows ∧ (read.started = false → read.got = .empty) :=
  h.sound hcall

theorem release {ticket : Ticket} {wanted : BodyCall} {release : Body.Release}
    (h : Orderly body inFlight) (hcall : inFlight ticket = some ⟨wanted, .releasing release⟩) :
    release.ticket = ticket ∧ release.Waits :=
  h.sound hcall

theorem not_pulling {ticket visitor : Ticket} {wanted : BodyCall} (h : Orderly body inFlight) :
    inFlight ticket ≠ some ⟨wanted, .pulling visitor⟩ :=
  fun hcall => h.sound hcall

/-- Nothing is in flight yet under the ticket that is given out next. -/
theorem fresh (h : Orderly body inFlight) : inFlight body.nextTicket = none := by
  cases hcall : inFlight body.nextTicket with
  | none => rfl
  | some call => exact absurd (h.known hcall) (Nat.lt_irrefl _)

/-- No event but the begin of a bare pull disturbs the order. -/
theorem effect {event : Event} {inFlight' : InFlight} (h : Orderly body inFlight)
    (hevent : event ≠ .begins .readAny) (heffect : Effect body inFlight event body' inFlight') :
    Orderly body' inFlight' := by
  cases heffect with
  | none | cancels | allows => exact ⟨h.sound, h.known⟩
  | beginsPull => exact absurd rfl hevent
  | pulls hcall => exact absurd hcall h.not_pulling
  | beginsRead | beginsRelease =>
    refine h.update (Nat.le_succ _) fun call hcall => ?_
    cases hcall
    exact ⟨by simp [IsSound, Body.Read.Knows, Body.Release.Waits], Nat.lt_succ_self _⟩
  -- A read that waits goes on under the same ticket, and has not started if nothing has been pulled
  -- for it.
  | @reads ticket wanted read read' _ result hcall hreads =>
    obtain ⟨hticket, hknows, hfresh⟩ := h.read hcall
    obtain ⟨hticket', hnext, hknows', hfresh'⟩ := hreads.frame
    refine h.update (Nat.le_of_eq hnext.symm) fun call hnew => ?_
    cases result with
    | ready => cases hnew
    | pending =>
      cases hnew
      refine ⟨⟨hticket'.trans hticket, hknows' hknows, fun hstarted => ?_⟩,
        hnext ▸ h.known hcall⟩
      have hsame := hfresh' hstarted
      rw [hsame] at hstarted ⊢
      exact hfresh hstarted
  | @releases ticket wanted release release' _ result hcall hpoll =>
    obtain ⟨hticket, hwaits⟩ := h.release hcall
    have hspec := Body.pollRelease_spec body hwaits
    rw [hpoll] at hspec
    refine h.update (Nat.le_of_eq hspec.nextTicket.symm) fun call hnew => ?_
    cases result with
    | ready => cases hnew
    | pending =>
      cases hnew
      exact ⟨⟨hspec.ticket.trans hticket, fun _ => (hspec.pending rfl).1⟩,
        hspec.nextTicket ▸ h.known hcall⟩
  | dropsRead hcall | dropsRelease hcall =>
    exact h.update (Nat.le_refl _) fun call hnew => by cases hnew

end Orderly

/-- What is begun is never a bare pull. -/
def WithoutBarePulls (events : List Event) : Prop :=
  ∀ event ∈ events, event ≠ .begins .readAny

/-- Everything in flight is as it should be after any events, bare pulls apart. -/
theorem orderly_run {request : Request} {events : List Event} (h : WithoutBarePulls events) :
    Orderly ((start request).run events).body ((start request).run events).inFlight := by
  -- Order is the invariant: nothing is in flight at first, and no event disturbs it.
  induction events using List.reverseRecOn with
  | nil => exact ⟨by rintro _ _ ⟨⟩, by rintro _ _ ⟨⟩⟩
  | append_singleton events event ih =>
    rw [run_concat]
    exact (ih fun e he => h e (List.mem_append_left _ he)).effect (h event (by simp))
      (effect_step _ event)

end Traffic

end Inbound
