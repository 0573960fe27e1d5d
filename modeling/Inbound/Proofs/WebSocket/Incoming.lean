import Inbound.WebSocket.Client
import Inbound.Proofs.WebSocket.Course

/-!
# What a session over event channels receives

The client puts events on the incoming lane at any time, and the handler may drop any action while
it waits. No event is lost by that: what the session has delivered, followed by the messages that
are still on the lane, is at any time what the client has sent since the session was opened. A
`disconnect` ends the messages, whatever follows it.

## Main results

* `Line`: event channels with all that the client has sent;
* `Channel.reads_poll`: what an operation takes from the incoming lane;
* `Accounts`: what has become of the events in each phase, which every move keeps;
* `Course.delivers_in_order`: the messages are delivered once and in order.
-/

namespace Inbound.WebSocket

/-! ### Events and messages -/

/-- The client goes away. -/
def Event.IsDisconnect : Event → Prop
  | .disconnect _ => True
  | _ => False

instance : DecidablePred Event.IsDisconnect
  | .disconnect _ => .isTrue trivial
  | .connect | .accept | .text _ | .binary _ | .close _ => .isFalse id

/-- The message that an event carries. -/
def Event.message? : Event → Option Message
  | .text content => some (.text content)
  | .binary bytes => some (.binary bytes)
  | _ => none

/-- The messages that come before the client goes away. -/
def messages (events : List Event) : List Message :=
  (events.takeWhile fun event => ¬ event.IsDisconnect).filterMap Event.message?

/-- The client goes away at some point. -/
def Disconnects (events : List Event) : Prop := ∃ event ∈ events, event.IsDisconnect

section Messages

variable {event : Event} {events later : List Event}

@[simp]
theorem not_disconnects_nil : ¬ Disconnects [] := by
  simp [Disconnects]

@[simp]
theorem disconnects_cons :
    Disconnects (event :: events) ↔ event.IsDisconnect ∨ Disconnects events := by
  simp [Disconnects, or_and_right, exists_or]

@[simp]
theorem disconnects_append :
    Disconnects (events ++ later) ↔ Disconnects events ∨ Disconnects later := by
  simp [Disconnects, or_and_right, exists_or]

theorem messages_cons_of_disconnect (h : event.IsDisconnect) : messages (event :: events) = [] := by
  simp [messages, h]

theorem messages_cons (h : ¬ event.IsDisconnect) :
    messages (event :: events) = event.message?.toList ++ messages events := by
  rw [messages, List.takeWhile_cons_of_pos (by simpa using h), List.filterMap_cons]
  cases event.message? <;> rfl

theorem messages_append (h : ¬ Disconnects events) :
    messages (events ++ later) = messages events ++ messages later := by
  induction events with
  | nil => rfl
  | cons event events ih =>
    rw [disconnects_cons, not_or] at h
    rw [List.cons_append, messages_cons h.1, messages_cons h.1, ih h.2, List.append_assoc]

/-- Nothing after a `disconnect` is a message. -/
theorem messages_append_of_disconnects (h : Disconnects events) :
    messages (events ++ later) = messages events := by
  induction events with
  | nil => exact absurd h not_disconnects_nil
  | cons event events ih =>
    by_cases hevent : event.IsDisconnect
    · rw [List.cons_append, messages_cons_of_disconnect hevent, messages_cons_of_disconnect hevent]
    · rw [List.cons_append, messages_cons hevent, messages_cons hevent,
        ih ((disconnects_cons.mp h).resolve_left hevent)]

/-- What is sent later comes behind. -/
theorem messages_prefix_append (events later : List Event) :
    messages events <+: messages (events ++ later) := by
  by_cases h : Disconnects events
  · simp only [messages_append_of_disconnects h, List.prefix_rfl]
  · rw [messages_append h]
    exact List.prefix_append _ _

/-- However often a client connects, it goes on. -/
theorem not_disconnects_replicate (tries : Nat) :
    ¬ Disconnects (List.replicate tries .connect) := by
  rintro ⟨event, hevent, hdisconnect⟩
  rw [List.eq_of_mem_replicate hevent] at hdisconnect
  exact hdisconnect

theorem messages_replicate (tries : Nat) : messages (List.replicate tries .connect) = [] := by
  induction tries with
  | zero => rfl
  | succ tries ih => exact (messages_cons id).trans ih

theorem replicate_append_connect (tries : Nat) (rest : List Event) :
    List.replicate tries .connect ++ .connect :: rest =
      .connect :: List.replicate tries .connect ++ rest := by
  rw [← List.replicate_succ, List.replicate_succ', List.append_assoc]
  rfl

end Messages

namespace Channel

/-! ### What an operation takes from the incoming lane -/

/-- How waiting for a message ends, by the events on the lane before and after it and whether more
can come. -/
inductive Hears (hasSender : Bool) : List Event → Poll (Option Message) → List Event → Prop where
  /-- There is a message, behind events that are none. -/
  | message {events taken rest : List Event} {message : Message} (hevents : events = taken ++ rest)
    (htaken : ¬ Disconnects taken) (hmessage : messages taken = [message]) :
    Hears hasSender events (.ready (some message)) rest
  /-- There is no message, and more can come. -/
  | nothing {events : List Event} (hevents : ¬ Disconnects events)
    (hmessages : messages events = []) : Hears hasSender events .pending []
  /-- There is no message, and none can come any more. -/
  | ended {events rest : List Event} (hmessages : messages events = [])
    (hend : Disconnects events ∨ hasSender = false) :
    Hears hasSender events (.ready none) rest

/-- Events that are no messages are passed by. -/
theorem Hears.skip {hasSender : Bool} {event : Event} {events rest : List Event}
    {found : Poll (Option Message)} (h : Hears hasSender events found rest)
    (hevent : ¬ event.IsDisconnect) (hnone : event.message? = none) :
    Hears hasSender (event :: events) found rest := by
  have hmessages (others : List Event) : messages (event :: others) = messages others := by
    rw [messages_cons hevent, hnone]
    rfl
  cases h with
  | @message taken _ _ hevents htaken hmessage =>
    exact .message (congrArg (event :: ·) hevents : _ = (event :: taken) ++ _)
      (by simp [hevent, htaken]) ((hmessages taken).trans hmessage)
  | nothing hevents hnothing =>
    exact .nothing (by simp [hevent, hevents]) ((hmessages events).trans hnothing)
  | ended hnothing hend =>
    exact .ended ((hmessages events).trans hnothing)
      (hend.imp_left fun hevents => disconnects_cons.mpr (.inr hevents))

theorem hears_firstMessage (hasSender : Bool) (events : List Event) :
    Hears hasSender events (firstMessage hasSender events).1 (firstMessage hasSender events).2 := by
  -- The search stops at a message and at a `disconnect`, and passes everything else by.
  induction events with
  | nil =>
    cases hasSender with
    | true => exact .nothing not_disconnects_nil rfl
    | false => exact .ended rfl (.inr rfl)
  | cons event events ih =>
    cases event with
    | text _ | binary _ =>
      exact .message (List.singleton_append).symm (by simp [Event.IsDisconnect]) rfl
    | disconnect code =>
      exact .ended (messages_cons_of_disconnect trivial) (.inl ⟨_, .head _, trivial⟩)
    | connect | accept | close code => exact ih.skip id rfl

/-- What an operation takes from the incoming lane in one poll. -/
inductive Reads : Work → Lane → Poll (Except Error Reply) → Work → Lane → Prop where
  /-- The client has not connected. -/
  | waits {lane : Lane} : Reads .connecting lane .pending .connecting lane
  /-- The client connects, which is to be answered. -/
  | connects {lane : Lane} {rest : List Event} {reply} (hevents : lane.events = .connect :: rest) :
    Reads .connecting lane reply (.emitting .accept) { lane with events := rest }
  /-- There is no handshake. -/
  | refuses {lane lane' : Lane} {error : Error} :
    Reads .connecting lane (.ready (.error error)) .connecting lane'
  /-- An event goes out. -/
  | emits {lane : Lane} {event : Event} {reply} :
    Reads (.emitting event) lane reply (.emitting event) lane
  /-- The closing event goes out. -/
  | closes {lane : Lane} {reply} : Reads .closing lane reply .closing lane
  /-- A message is awaited. -/
  | hears {lane : Lane} {found : Poll (Option Message)} {rest : List Event}
    (h : Hears lane.hasSender lane.events found rest) :
    Reads .receiving lane (found.map fun message => .ok (.message message)) .receiving
      { lane with events := rest }

theorem emit_incoming (channel : Channel) (event : Event) :
    (channel.emit event).2.1 = .emitting event ∧
      (channel.emit event).2.2.incoming = channel.incoming := by
  simp only [emit]
  cases channel.outgoing.put event <;> exact ⟨rfl, rfl⟩

theorem reads_poll (work : Work) (channel : Channel) :
    Reads work channel.incoming (poll work channel).1 (poll work channel).2.1
      (poll work channel).2.2.incoming := by
  obtain ⟨incoming, outgoing⟩ := channel
  obtain ⟨capacity, events, hasSender, hasReceiver⟩ := incoming
  cases work with
  | connecting =>
    rcases events with - | ⟨event, events⟩
    · cases hasSender with
      | true => exact .waits
      | false => exact .refuses
    · cases event with
      | connect =>
        have hemit := emit_incoming ⟨⟨capacity, events, hasSender, hasReceiver⟩, outgoing⟩ .accept
        simp only [poll, hemit]
        exact .connects rfl
      | _ => exact .refuses
  | emitting event =>
    have hemit := emit_incoming ⟨⟨capacity, events, hasSender, hasReceiver⟩, outgoing⟩ event
    simp only [poll, hemit]
    exact .emits
  | closing =>
    simp only [poll]
    cases outgoing.put (.close normalClosure) <;> exact .closes
  | receiving => exact .hears (hears_firstMessage hasSender events)

/-- A message that is on the lane is found by waiting for it. -/
theorem poll_receiving {channel : Channel} {message : Message} {later : List Message}
    (h : messages channel.incoming.events = message :: later) :
    ∃ channel', poll .receiving channel =
      (.ready (.ok (.message (some message))), .receiving, channel') := by
  have hhears := hears_firstMessage channel.incoming.hasSender channel.incoming.events
  rcases hfirst : firstMessage channel.incoming.hasSender channel.incoming.events with ⟨found, rest⟩
  simp only [hfirst] at hhears
  cases hhears with
  | message hevents htaken hmessage =>
    -- What comes first among the messages is the one that was found.
    rw [hevents, messages_append htaken, hmessage] at h
    cases h
    refine ⟨{ channel with incoming := { channel.incoming with events := rest } }, ?_⟩
    simp only [poll, hfirst, Poll.map_ready]
  | nothing _ hmessages | ended hmessages =>
    rw [h] at hmessages
    cases hmessages

/-! ### What the client does -/

/-- The client does something if it can. -/
def act (act : ClientAct) (channel : Channel) : Channel :=
  ((channel.clientAct? act).map (·.2)).getD channel

/-- The event that the client gets on the incoming lane by that. -/
def puts (act : ClientAct) (channel : Channel) : Option Event :=
  match act, channel.clientAct? act with
  | .send event, some (.sent (.sent _), _) => some event
  | _, _ => none

/-- The incoming lane after the client has done something: an event may have come behind the
others, if there was somebody to send it. -/
structure Grows (before : Lane) (event? : Option Event) (after : Lane) : Prop where
  events : after.events = before.events ++ event?.toList
  sent : before.hasSender = false → event? = none
  hasSender : before.hasSender = false → after.hasSender = false

theorem grows_act (act : ClientAct) (channel : Channel) :
    Grows channel.incoming (channel.puts act) (channel.act act).incoming := by
  have hsame : Grows channel.incoming none channel.incoming :=
    ⟨(List.append_nil _).symm, fun _ => rfl, id⟩
  obtain ⟨⟨capacity, events, hasSender, hasReceiver⟩, outgoing⟩ := channel
  cases act with
  | send event =>
    cases hasSender with
    | false => exact hsame
    | true =>
      cases hasReceiver with
      | false => exact hsame
      | true =>
        -- An event for which there is no room is not sent.
        by_cases hroom : events.length < capacity
        · constructor <;> simp [Channel.act, puts, clientAct?, clientPut, Lane.put, hroom]
        · simpa [Channel.act, puts, clientAct?, clientPut, Lane.put, hroom] using hsame
  | dropSender => cases hasSender <;> exact ⟨(List.append_nil _).symm, fun _ => rfl, fun _ => rfl⟩
  | take count =>
    rcases outgoing with ⟨_, _, _, hasReceiver⟩
    cases hasReceiver <;> exact hsame
  | dropReceiver =>
    rcases outgoing with ⟨_, _, _, hasReceiver⟩
    cases hasReceiver <;> exact hsame
  | _ => exact hsame

end Channel

/-- Event channels with all that the client has sent. -/
structure Line where
  /-- The channels. -/
  channel : Channel
  /-- The events that the client has got on the incoming lane, in order. -/
  sent : List Event

namespace Line

/-- The server's operations, which send nothing in the name of the client. -/
def backend : Backend Line Channel.Work where
  start order line :=
    let (work, channel) := Channel.backend.start order line.channel
    (work, { line with channel })
  poll work line :=
    let (reply, work, channel) := Channel.backend.poll work line.channel
    (reply, work, { line with channel })
  abandon work line := { line with channel := Channel.backend.abandon work line.channel }

/-- The client does something if it can. -/
def act (act : ClientAct) (line : Line) : Line :=
  ⟨line.channel.act act, line.sent ++ (line.channel.puts act).toList⟩

theorem backend_extends : backend.Extends Channel.backend channel where
  start _ _ := rfl
  poll _ _ := rfl
  abandon _ _ := rfl

theorem reads_poll {work work' : Channel.Work} {line line' : Line}
    {reply : Poll (Except Error Reply)} (h : backend.poll work line = (reply, work', line')) :
    Channel.Reads work line.channel.incoming reply work' line'.channel.incoming ∧
      line'.sent = line.sent := by
  cases h
  exact ⟨Channel.reads_poll work line.channel, rfl⟩

end Line

/-! ### What a handler has got -/

section Past

open Session

/-- The message that an action that is over has delivered. -/
def delivered? : Action × Option (Except Error Session.Answer) → Option Message
  | (.next, some (.ok (.item (some (.ok message))))) => some message
  | _ => none

/-- The messages that a handler has got. -/
def received (past : List (Action × Option (Except Error Session.Answer))) : List Message :=
  past.filterMap delivered?

/-- The session has been prepared. -/
def IsOpened (past : List (Action × Option (Except Error Session.Answer))) : Prop :=
  (.prepare, some (.ok .done)) ∈ past

/-- The handler was told that there are no more messages. -/
def IsEnded (past : List (Action × Option (Except Error Session.Answer))) : Prop :=
  (.next, some (.ok (.item none))) ∈ past

/-- The handler has closed the session. -/
def IsQuit (past : List (Action × Option (Except Error Session.Answer))) : Prop :=
  ∃ outcome, (.close, outcome) ∈ past

variable {past : List (Action × Option (Except Error Session.Answer))} {action : Action}
  {outcome : Option (Except Error Session.Answer)}

@[simp]
theorem received_concat :
    received (past ++ [(action, outcome)]) =
      received past ++ (delivered? (action, outcome)).toList := by
  rw [received, List.filterMap_append, List.filterMap_cons]
  cases delivered? (action, outcome) <;> rfl

@[simp]
theorem isOpened_concat :
    IsOpened (past ++ [(action, outcome)]) ↔
      IsOpened past ∨ action = .prepare ∧ outcome = some (.ok .done) := by
  simp [IsOpened, eq_comm]

@[simp]
theorem isEnded_concat :
    IsEnded (past ++ [(action, outcome)]) ↔
      IsEnded past ∨ action = .next ∧ outcome = some (.ok (.item none)) := by
  simp [IsEnded, eq_comm]

@[simp]
theorem isQuit_concat :
    IsQuit (past ++ [(action, outcome)]) ↔ IsQuit past ∨ action = .close := by
  simp [IsQuit, exists_or, eq_comm]

end Past

/-! ### What has become of the events -/

/-- What has become of the events that the client has sent, by the phase of the session and its
order in progress: which of them are still on the lane, and what the handler has got for the
others. -/
inductive Accounts : Phase → Option (Session.Purpose × Channel.Work) → List Event → Lane →
    List (Session.Action × Option (Except Error Session.Answer)) → Prop where
  /-- The session is not prepared. The client may have connected, if the handler dropped what it
  was answered with. -/
  | created {order sent lane past} (tries : Nat)
    (horder : order = none ∨ order = some (.accepting, .connecting))
    (hsent : sent = List.replicate tries .connect ++ lane.events) (hopened : ¬ IsOpened past)
    (hended : ¬ IsEnded past) (hreceived : received past = []) :
    Accounts .created order sent lane past
  /-- The client has connected, which is being answered. -/
  | answering {sent lane past} (tries : Nat)
    (hsent : sent = .connect :: List.replicate tries .connect ++ lane.events)
    (hopened : ¬ IsOpened past) (hended : ¬ IsEnded past) (hreceived : received past = []) :
    Accounts .created (some (.accepting, .emitting .accept)) sent lane past
  /-- The session is open. -/
  | opened {order sent lane past} (taken : List Event)
    (horder : order = none ∨ (∃ event, order = some (.sending, .emitting event)) ∨
      order = some (.receiving, .receiving))
    (hsent : sent = .connect :: taken ++ lane.events) (htaken : ¬ Disconnects taken)
    (hopened : IsOpened past) (hended : ¬ IsEnded past)
    (hreceived : received past = messages taken) :
    Accounts .accepted order sent lane past
  /-- The session was closed without having been prepared. -/
  | refused {sent lane past} (hopened : ¬ IsOpened past) (hreceived : received past = []) :
    Accounts .closed none sent lane past
  /-- The handler closes the session. -/
  | quitting {sent lane past} (rest : List Event) (hsent : sent = .connect :: rest)
    (hopened : IsOpened past) (hended : ¬ IsEnded past)
    (hreceived : received past <+: messages rest) :
    Accounts .closed (some (.closing, .closing)) sent lane past
  /-- The handler has closed the session. -/
  | quit {sent lane past} (rest : List Event) (hsent : sent = .connect :: rest)
    (hopened : IsOpened past) (hquit : IsQuit past) (hreceived : received past <+: messages rest) :
    Accounts .closed none sent lane past
  /-- The client has left. -/
  | left {order sent lane past} (rest : List Event)
    (horder : order = none ∨ order = some (.leaving, .closing)) (hsent : sent = .connect :: rest)
    (hopened : IsOpened past) (hreceived : received past = messages rest)
    (hleft : Disconnects rest ∨ lane.hasSender = false) : Accounts .closed order sent lane past

namespace Accounts

open Session Channel

variable {phase phase' : Phase} {purpose : Purpose} {work work' : Work} {sent : List Event}
  {lane lane' : Lane} {action : Action}
  {past : List (Action × Option (Except Error Session.Answer))}

/-- An action may have its answer without the backend. -/
theorem answers (h : Accounts phase none sent lane past) {answer : Except Error Session.Answer}
    (hopening : action.opening phase = (.inl answer, phase')) :
    Accounts phase' none sent lane (past ++ [(action, some answer)]) := by
  -- Such an answer is no message.
  have hdelivered : delivered? (action, some answer) = none := by
    cases action <;> cases phase <;> cases hopening <;> rfl
  cases h with
  | created tries _ hsent hopened hended hreceived =>
    have hnext : received (past ++ [(action, some answer)]) = [] := by simp [hdelivered, hreceived]
    cases action with
    | prepare => cases hopening
    | send text =>
      cases hopening
      exact .created tries (.inl rfl) hsent (by simp [hopened]) (by simp [hended]) hnext
    | next | close =>
      cases hopening
      exact .refused (by simp [hopened]) hnext
  | opened taken _ hsent htaken hopened hended hreceived =>
    cases action with
    | prepare =>
      cases hopening
      exact .opened taken (.inl rfl) hsent htaken (by simp [hopened]) (by simp [hended])
        (by simp [hdelivered, hreceived])
    | send _ | next | close => cases hopening
  | refused hopened hreceived =>
    -- A closed session cannot be prepared any more.
    have hnot : ¬ (action = .prepare ∧ answer = .ok .done) := by
      rintro ⟨rfl, rfl⟩
      cases hopening
    have hphase : phase' = .closed := by cases action <;> cases hopening <;> rfl
    subst hphase
    exact .refused (by simp [hopened, hnot]) (by simp [hdelivered, hreceived])
  | quit rest hsent hopened hquit hreceived =>
    have hphase : phase' = .closed := by cases action <;> cases hopening <;> rfl
    subst hphase
    exact .quit rest hsent (by simp [hopened]) (by simp [hquit])
      (by simpa [hdelivered] using hreceived)
  | left rest _ hsent hopened hreceived hleft =>
    have hphase : phase' = .closed := by cases action <;> cases hopening <;> rfl
    subst hphase
    exact .left rest (.inl rfl) hsent (by simp [hopened])
      (by simpa [hdelivered] using hreceived) hleft

/-- An action may begin with an order. -/
theorem orders (h : Accounts phase none sent lane past) {order : Order} (channel : Channel)
    (hopening : action.opening phase = (.inr order, phase')) :
    Accounts phase' (some (purposeOf order, (backend.start order channel).1)) sent lane past := by
  cases h with
  | created tries _ hsent hopened hended hreceived =>
    cases action with
    | prepare =>
      cases hopening
      exact .created tries (.inr rfl) hsent hopened hended hreceived
    | send _ | next | close => cases hopening
  | opened taken _ hsent htaken hopened hended hreceived =>
    cases action with
    | prepare => cases hopening
    | send text =>
      cases hopening
      exact .opened taken (.inr (.inl ⟨_, rfl⟩)) hsent htaken hopened hended hreceived
    | next =>
      cases hopening
      exact .opened taken (.inr (.inr rfl)) hsent htaken hopened hended hreceived
    | close =>
      -- What is still on the lane will not be delivered any more.
      cases hopening
      refine .quitting (taken ++ lane.events) hsent hopened hended ?_
      rw [hreceived]
      exact messages_prefix_append _ _
  | _ => cases action <;> cases hopening

/-- The order in progress may take longer. -/
theorem waits (h : Accounts phase (some (purpose, work)) sent lane past)
    (hreads : Reads work lane .pending work' lane') :
    Accounts phase (some (purpose, work')) sent lane' past := by
  generalize hpending : (.pending : Poll (Except Error Reply)) = reply at hreads
  cases h with
  | created tries horder hsent hopened hended hreceived =>
    obtain ⟨⟨⟩⟩ := horder.resolve_left (by rintro ⟨⟩)
    cases hreads with
    | waits => exact .created tries (.inr rfl) hsent hopened hended hreceived
    | connects hevents =>
      refine .answering tries ?_ hopened hended hreceived
      rw [hsent, hevents, replicate_append_connect]
    | refuses => cases hpending
  | answering tries hsent hopened hended hreceived =>
    cases hreads
    exact .answering tries hsent hopened hended hreceived
  | opened taken horder hsent htaken hopened hended hreceived =>
    rcases horder with ⟨⟨⟩⟩ | ⟨event, ⟨⟨⟩⟩⟩ | ⟨⟨⟩⟩
    · cases hreads
      exact .opened taken (.inr (.inl ⟨_, rfl⟩)) hsent htaken hopened hended hreceived
    · cases hreads with
      | hears hhears =>
        cases hhears with
        | nothing hevents hmessages =>
          -- Events that are no messages have been taken from the lane, and nothing is missed.
          refine .opened (taken ++ lane.events) (.inr (.inr rfl)) ?_ (by simp [htaken, hevents])
            hopened hended ?_
          · simpa using hsent
          · rw [messages_append htaken, hmessages, List.append_nil, hreceived]
        | _ => cases hpending
  | quitting rest hsent hopened hended hreceived =>
    cases hreads
    exact .quitting rest hsent hopened hended hreceived
  | left rest horder hsent hopened hreceived hleft =>
    obtain ⟨⟨⟩⟩ := horder.resolve_left (by rintro ⟨⟩)
    cases hreads
    exact .left rest (.inr rfl) hsent hopened hreceived hleft

/-- A client that has connected is answered, or is not there any more. -/
theorem prepares {tries : Nat} {reply : Except Error Reply} {answer : Except Error Session.Answer}
    (hsent : sent = .connect :: List.replicate tries .connect ++ lane.events)
    (hopened : ¬ IsOpened past) (hended : ¬ IsEnded past) (hreceived : received past = [])
    (hconclusion : Purpose.accepting.conclusion phase reply = some (answer, phase')) :
    Accounts phase' none sent lane (past ++ [(.prepare, some answer)]) := by
  cases reply with
  | error error =>
    cases hconclusion
    exact .refused (by simp [hopened]) (by simp [delivered?, hreceived])
  | ok reply =>
    cases hconclusion
    exact .opened _ (.inl rfl) hsent (not_disconnects_replicate tries) (by simp) (by simp [hended])
      (by simp [delivered?, hreceived, messages_replicate])

/-- The order in progress may be carried out, and the action has its answer. -/
theorem concludes (h : Accounts phase (some (purpose, work)) sent lane past)
    {reply : Except Error Reply} {answer : Except Error Session.Answer}
    (hpurpose : purpose.IsOf action) (hreads : Reads work lane (.ready reply) work' lane')
    (hconclusion : purpose.conclusion phase reply = some (answer, phase')) :
    Accounts phase' none sent lane' (past ++ [(action, some answer)]) := by
  generalize hready : Poll.ready reply = outcome at hreads
  cases h with
  | created tries horder hsent hopened hended hreceived =>
    obtain ⟨⟨⟩⟩ := horder.resolve_left (by rintro ⟨⟩)
    obtain rfl : action = .prepare := hpurpose
    cases hreads with
    | waits => cases hready
    | connects hevents =>
      -- The client has connected and is answered in the same poll.
      rw [hevents, replicate_append_connect] at hsent
      exact prepares hsent hopened hended hreceived hconclusion
    | refuses =>
      cases hready
      cases hconclusion
      exact .refused (by simp [hopened]) (by simp [delivered?, hreceived])
  | answering tries hsent hopened hended hreceived =>
    obtain rfl : action = .prepare := hpurpose
    cases hreads
    exact prepares hsent hopened hended hreceived hconclusion
  | opened taken horder hsent htaken hopened hended hreceived =>
    rcases horder with ⟨⟨⟩⟩ | ⟨event, ⟨⟨⟩⟩⟩ | ⟨⟨⟩⟩
    · obtain ⟨text, rfl⟩ : ∃ text, action = .send text := hpurpose
      cases hreads
      cases reply <;> cases hconclusion <;>
        exact .opened taken (.inl rfl) hsent htaken (by simp [hopened]) (by simp [hended])
          (by simp [delivered?, hreceived])
    · obtain rfl : action = .next := hpurpose
      cases hreads with
      | hears hhears =>
        cases hhears with
        | @message more _ message hevents hmore hmessage =>
          cases hready
          cases hconclusion
          refine .opened (taken ++ more) (.inl rfl) ?_ (by simp [htaken, hmore]) (by simp [hopened])
            (by simp [hended]) ?_
          · simpa [hevents] using hsent
          · rw [received_concat, messages_append htaken, hmessage, hreceived]
            rfl
        | nothing => cases hready
        | ended =>
          cases hready
          cases hconclusion
  | quitting rest hsent hopened hended hreceived =>
    obtain rfl : action = .close := hpurpose
    have hphase : phase' = .closed := by cases reply <;> cases hconclusion <;> rfl
    subst hphase
    exact .quit rest hsent (by simp [hopened]) (by simp) (by simpa [delivered?] using hreceived)
  | left rest horder hsent hopened hreceived hleft =>
    obtain ⟨⟨⟩⟩ := horder.resolve_left (by rintro ⟨⟩)
    obtain rfl : action = .next := hpurpose
    cases hreads
    cases hconclusion
    exact .left rest (.inl rfl) hsent (by simp [hopened]) (by simp [delivered?, hreceived]) hleft

/-- The client may turn out to have left, which is answered by closing. -/
theorem leaves (h : Accounts phase (some (purpose, work)) sent lane past)
    {reply : Except Error Reply} (hreads : Reads work lane (.ready reply) work' lane')
    (hconclusion : purpose.conclusion phase reply = none) :
    Accounts .closed (some (.leaving, .closing)) sent lane' past := by
  -- Only receiving leads here, when the lane is at its end; all other orders end their action.
  generalize hready : Poll.ready reply = outcome at hreads
  cases h with
  | opened taken horder hsent htaken hopened hended hreceived =>
    rcases horder with ⟨⟨⟩⟩ | ⟨event, ⟨⟨⟩⟩⟩ | ⟨⟨⟩⟩
    · cases reply <;> cases hconclusion
    · cases hreads with
      | hears hhears =>
        cases hhears with
        | message =>
          cases hready
          cases hconclusion
        | nothing => cases hready
        | ended hmessages hend =>
          refine .left (taken ++ lane.events) (.inr rfl) hsent hopened ?_ (hend.imp_left ?_)
          · rw [messages_append htaken, hmessages, List.append_nil, hreceived]
          · exact fun hevents => disconnects_append.mpr (.inr hevents)
  | created _ horder | left _ horder =>
    obtain ⟨⟨⟩⟩ := horder.resolve_left (by rintro ⟨⟩)
    cases reply <;> cases hconclusion
  | _ => cases reply <;> cases hconclusion

/-- The action in progress may be dropped. Nothing that it took from the lane is missed, except a
second handshake by the client. -/
theorem abandons (h : Accounts phase (some (purpose, work)) sent lane past)
    (hpurpose : purpose.IsOf action) :
    Accounts phase none sent lane (past ++ [(action, none)]) := by
  have hdelivered : delivered? (action, none) = none := by cases action <;> rfl
  cases h with
  | created tries _ hsent hopened hended hreceived =>
    exact .created tries (.inl rfl) hsent (by simp [hopened]) (by simp [hended])
      (by simp [hdelivered, hreceived])
  | answering tries hsent hopened hended hreceived =>
    -- The `connect` that was taken from the lane is lost, and the client has to try again.
    exact .created (tries + 1) (.inl rfl) hsent (by simp [hopened]) (by simp [hended])
      (by simp [hdelivered, hreceived])
  | opened taken _ hsent htaken hopened hended hreceived =>
    exact .opened taken (.inl rfl) hsent htaken (by simp [hopened]) (by simp [hended])
      (by simp [hdelivered, hreceived])
  | quitting rest hsent hopened _ hreceived =>
    obtain rfl : action = .close := hpurpose
    exact .quit rest hsent (by simp [hopened]) (by simp) (by simpa [hdelivered] using hreceived)
  | left rest _ hsent hopened hreceived hleft =>
    exact .left rest (.inl rfl) hsent (by simp [hopened])
      (by simpa [hdelivered] using hreceived) hleft

/-- The client may send more. -/
theorem outside {order : Option (Purpose × Work)} (h : Accounts phase order sent lane past)
    {event? : Option Event} (hgrows : Grows lane event? lane') :
    Accounts phase order (sent ++ event?.toList) lane' past := by
  -- Whatever is sent comes last, behind what has been accounted for already.
  cases h with
  | created tries horder hsent hopened hended hreceived =>
    refine .created tries horder ?_ hopened hended hreceived
    rw [hsent, hgrows.events, List.append_assoc]
  | answering tries hsent hopened hended hreceived =>
    refine .answering tries ?_ hopened hended hreceived
    rw [hsent, hgrows.events, List.append_assoc]
  | opened taken horder hsent htaken hopened hended hreceived =>
    refine .opened taken horder ?_ htaken hopened hended hreceived
    rw [hsent, hgrows.events, List.append_assoc]
  | refused hopened hreceived => exact .refused hopened hreceived
  | quitting rest hsent hopened hended hreceived =>
    refine .quitting (rest ++ event?.toList) (by rw [hsent, List.cons_append]) hopened hended ?_
    exact hreceived.trans (messages_prefix_append _ _)
  | quit rest hsent hopened hquit hreceived =>
    refine .quit (rest ++ event?.toList) (by rw [hsent, List.cons_append]) hopened hquit ?_
    exact hreceived.trans (messages_prefix_append _ _)
  | left rest horder hsent hopened hreceived hleft =>
    rcases hleft with hleft | hleft
    · refine .left (rest ++ event?.toList) horder (by rw [hsent, List.cons_append]) hopened ?_
        (.inl (disconnects_append.mpr (.inl hleft)))
      rw [messages_append_of_disconnects hleft, hreceived]
    · -- Nobody is there who could send more.
      rw [hgrows.sent hleft, Option.toList_none, List.append_nil]
      exact .left rest horder hsent hopened hreceived (.inr (hgrows.hasSender hleft))

/-- What the handler has got is accounted for: nothing before the session was prepared, -/
theorem received_eq_nil {order : Option (Purpose × Work)} (h : Accounts phase order sent lane past)
    (hopened : ¬ IsOpened past) : received past = [] := by
  cases h with
  | created _ _ _ _ _ hreceived | answering _ _ _ _ hreceived | refused _ hreceived =>
    exact hreceived
  | opened _ _ _ _ hother | quitting _ _ hother | quit _ _ hother | left _ _ _ hother =>
    exact absurd hother hopened

/-- and then what the client has sent since. -/
theorem exists_rest {order : Option (Purpose × Work)} (h : Accounts phase order sent lane past)
    (hopened : IsOpened past) :
    ∃ rest, sent = .connect :: rest ∧ received past <+: messages rest ∧
      (phase = .accepted → received past ++ messages lane.events = messages rest) ∧
      (IsEnded past → IsQuit past ∨
        received past = messages rest ∧ (Disconnects rest ∨ lane.hasSender = false)) := by
  cases h with
  | created _ _ _ hother | answering _ _ hother | refused hother => exact absurd hopened hother
  | opened taken _ hsent htaken _ hended hreceived =>
    refine ⟨taken ++ lane.events, hsent, ?_, fun _ => ?_, fun hend => absurd hend hended⟩
    · rw [hreceived]
      exact messages_prefix_append _ _
    · rw [hreceived, messages_append htaken]
  | quitting rest hsent _ hended hreceived =>
    exact ⟨rest, hsent, hreceived, by rintro ⟨⟩, fun hend => absurd hend hended⟩
  | quit rest hsent _ hquit hreceived =>
    exact ⟨rest, hsent, hreceived, by rintro ⟨⟩, fun _ => .inl hquit⟩
  | left rest _ hsent _ hreceived hleft =>
    exact ⟨rest, hsent, hreceived ▸ List.prefix_rfl, by rintro ⟨⟩, fun _ => .inr ⟨hreceived, hleft⟩⟩

end Accounts

/-! ### Handlers -/

namespace Course

open Session Channel

/-- All events that the client has sent are accounted for. -/
def IsAccounted (course : Course Line Work) : Prop :=
  Accounts course.session.phase course.order? course.session.socket.sent
    course.session.socket.channel.incoming course.past

theorem Moves.isAccounted {before after : Course Line Work}
    (hmove : Moves Line.backend Line.act before after) (hproper : before.Proper)
    (h : before.IsAccounted) : after.IsAccounted := by
  cases hmove with
  | begins | forgets => exact h
  | answers hopening => exact Accounts.answers h hopening
  | @orders socket socket' phase phase' action order work past hopening hstart =>
    cases hstart
    have horders := Accounts.orders h socket.channel hopening
    simp only [IsAccounted, order?, Option.bind_some, order?_stage]
    cases order <;> exact horders
  | @waits socket socket' phase action purpose work work' past hpoll =>
    obtain ⟨hreads, hsent⟩ := Line.reads_poll hpoll
    simp only [IsAccounted, order?, Option.bind_some, order?_stage, hsent] at h ⊢
    exact h.waits hreads
  | @concludes socket socket' phase phase' action purpose work work' reply answer past hpoll
      hconclusion =>
    obtain ⟨hreads, hsent⟩ := Line.reads_poll hpoll
    have hpurpose := hproper.ordered _ _ rfl _ _ (order?_stage _ _)
    simp only [IsAccounted, order?, Option.bind_some, Option.bind_none, order?_stage, hsent] at h ⊢
    exact h.concludes hpurpose hreads hconclusion
  | @leaves socket socket' socket'' phase action purpose work work' order reply past hpoll
      hconclusion hstart =>
    obtain ⟨hreads, hsent⟩ := Line.reads_poll hpoll
    cases hstart
    simp only [IsAccounted, order?, Option.bind_some, order?_stage] at h ⊢
    have hleft := h.leaves hreads hconclusion
    rwa [← hsent] at hleft
  | @abandons socket phase action purpose work past =>
    have hpurpose := hproper.ordered _ _ rfl _ _ (order?_stage _ _)
    simp only [IsAccounted, order?, Option.bind_some, Option.bind_none, order?_stage] at h ⊢
    exact h.abandons hpurpose
  | @outside socket phase current past act =>
    exact Accounts.outside h (grows_act act socket.channel)

/-- The course of a session over fresh event channels, with all that the client has sent. -/
def lined (incoming outgoing : Nat) (steps : List (Step ClientAct)) : Course Line Work :=
  (start ⟨.ofCapacities incoming outgoing, []⟩).run Line.backend Line.act steps

section Lined

variable (incoming outgoing : Nat) (steps : List (Step ClientAct))

theorem map_lined :
    (lined incoming outgoing steps).map Line.channel =
      (start (.ofCapacities incoming outgoing)).run Channel.backend Channel.act steps :=
  (run_map Line.backend_extends (fun _ _ => rfl) (start ⟨.ofCapacities incoming outgoing, []⟩)
    steps).symm

theorem isAccounted_lined : (lined incoming outgoing steps).IsAccounted := by
  refine invariant_run IsAccounted (proper_of_none rfl)
    (fun hproper hmove => hmove.isAccounted hproper) ?_ steps
  exact .created 0 (.inl rfl) rfl (by rintro ⟨⟩) (by rintro ⟨⟩) rfl

end Lined

/-- A message on the lane of an open session is delivered as soon as the handler asks for it. -/
theorem IsAccounted.polls_next {course : Course Line Work} (h : course.IsAccounted)
    (hproper : course.Proper) (hphase : course.session.phase = .accepted) {stage : Stage Work}
    (hcurrent : course.current = some (.next, stage)) {message : Message} {later : List Message}
    (hmessages : messages course.session.socket.channel.incoming.events = message :: later) :
    (course.step Line.backend Line.act .polls).past =
      course.past ++ [(.next, some (.ok (.item (some (.ok message)))))] := by
  obtain ⟨⟨⟨channel, sent⟩, phase⟩, current, past⟩ := course
  cases hphase
  cases hcurrent
  obtain ⟨channel', hpoll⟩ := Channel.poll_receiving hmessages
  have hline : Line.backend.poll .receiving ⟨channel, sent⟩ =
      (.ready (.ok (.message (some message))), .receiving, ⟨channel', sent⟩) := by
    simp only [Line.backend, Channel.backend, hpoll]
  have hopening : Action.next.opening .accepted = (.inr .receive, .accepted) := rfl
  have hconclusion : Purpose.receiving.conclusion .accepted (.ok (.message (some message))) =
      some (.ok (.item (some (.ok message))), .accepted) := rfl
  have hreceiving : poll Line.backend ⟨⟨channel, sent⟩, .accepted⟩ (.receiving .receiving) =
      (.ready (.ok (.item (some (.ok message)))), .receiving .receiving,
        ⟨⟨channel', sent⟩, .accepted⟩) :=
    poll_of_conclusion Line.backend hline hconclusion
  -- The action has not been polled before, or it already waits for a message.
  rcases exists_stage_eq stage with ⟨action, rfl⟩ | ⟨purpose, work, rfl⟩
  · obtain rfl := hproper.fresh _ _ rfl
    have hfresh : poll Line.backend ⟨⟨channel, sent⟩, .accepted⟩ (.fresh .next) =
        poll Line.backend ⟨⟨channel, sent⟩, .accepted⟩ (.receiving .receiving) :=
      poll_fresh_of_inr Line.backend hopening
    simp only [step, hfresh, hreceiving]
  · have hpurpose := hproper.ordered _ _ rfl _ _ (order?_stage _ _)
    simp only [IsAccounted, order?, Option.bind_some, order?_stage] at h
    cases h with
    | opened taken horder =>
      rcases horder with ⟨⟨⟩⟩ | ⟨event, ⟨⟨⟩⟩⟩ | ⟨⟨⟩⟩
      · obtain ⟨text, ⟨⟩⟩ : ∃ text, Action.next = .send text := hpurpose
      · simp only [step, Purpose.stage, hreceiving]

/-- Whatever the client sends and whenever, and whatever the handler does with the session, also if
it drops it in between: a session delivers nothing before it was prepared. Then the client has
connected, and the messages that the session has delivered are the first of those that the client
has sent since and before it went away; as long as the session is open, the others are on the lane,
and the next one is delivered when it is asked for. Only if the handler has closed the session, or
has got all messages and no more can come, it is told that there are no more. -/
theorem delivers_in_order (incoming outgoing : Nat) (steps : List (Step ClientAct)) :
    let course := lined incoming outgoing steps
    let sent := course.session.socket.sent
    let lane := course.session.socket.channel.incoming
    course.map Line.channel =
      (start (.ofCapacities incoming outgoing)).run Channel.backend Channel.act steps ∧
    (¬ IsOpened course.past → received course.past = []) ∧
    (IsOpened course.past → ∃ rest, sent = .connect :: rest ∧
      received course.past <+: messages rest ∧
      (course.session.phase = .accepted →
        received course.past ++ messages lane.events = messages rest) ∧
      (IsEnded course.past → IsQuit course.past ∨
        received course.past = messages rest ∧ (Disconnects rest ∨ lane.hasSender = false))) ∧
    (course.session.phase = .accepted → ∀ stage message later,
      course.current = some (.next, stage) → messages lane.events = message :: later →
        (course.step Line.backend Line.act .polls).past =
          course.past ++ [(.next, some (.ok (.item (some (.ok message)))))]) := by
  intro course sent lane
  have haccounted : course.IsAccounted := isAccounted_lined incoming outgoing steps
  have hproper : course.Proper := (proper_of_none rfl).run steps
  exact ⟨map_lined _ _ _, Accounts.received_eq_nil haccounted, Accounts.exists_rest haccounted,
    fun hphase _ _ _ hcurrent hmessages => haccounted.polls_next hproper hphase hcurrent hmessages⟩

end Course

end Inbound.WebSocket
