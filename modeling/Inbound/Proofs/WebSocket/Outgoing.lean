import Inbound.Proofs.WebSocket.Incoming

/-!
# What a session over event channels sends

The outgoing lane may be full at any time, the client may take events late or drop its receiving
end, and the handler may drop any action while its event waits for room. What has been put on the
lane is all the same one `accept`, the texts of those `send` that were answered well, and at most
one `close` behind them; and whatever an action puts out is told by its answer.

## Main results

* `Feed`: event channels with all that went out on them;
* `Channel.emits_poll`: what an operation puts on the outgoing lane;
* `Speaks`: what has been put out in each phase, which every move keeps;
* `Course.Moves.yields`: what a move puts out goes with the answer that it gives;
* `Course.posts_in_order`: what goes out, for every handler and every client.
-/

namespace Inbound.WebSocket

/-- The server ends the session. -/
def Event.IsClose : Event → Prop
  | .close _ => True
  | _ => False

instance : DecidablePred Event.IsClose
  | .close _ => .isTrue trivial
  | .connect | .accept | .text _ | .binary _ | .disconnect _ => .isFalse id

/-- The lane with some more events. -/
def Lane.extend (lane : Lane) (events : List Event) : Lane :=
  { lane with events := lane.events ++ events }

@[simp]
theorem Lane.extend_nil (lane : Lane) : lane.extend [] = lane := by
  simp [extend]

namespace Channel

/-! ### What an operation puts on the outgoing lane -/

/-- The event that an operation is about. -/
def Work.event? : Work → Option Event
  | .connecting => some .accept
  | .emitting event => some event
  | .closing => some (.close normalClosure)
  | .receiving => none

/-- Whether an operation is to put out the closing event. -/
def Work.isClosing : Work → Bool
  | .closing => true
  | .connecting | .emitting _ | .receiving => false

/-- What an operation puts on the outgoing lane in one poll, by whether somebody is there to
receive it. -/
inductive Emits (hasReceiver : Bool) :
    Work → Poll (Except Error Reply) → Work → List Event → Prop where
  /-- There is nothing to answer yet, or no room. -/
  | waits {work work' : Work}
    (hwork : work' = work ∨ work = .connecting ∧ work' = .emitting .accept) :
    Emits hasReceiver work .pending work' []
  /-- The event is put on the lane. -/
  | sends {work work' : Work} {event : Event} (hevent : work.event? = some event)
    (hreceiver : hasReceiver = true) : Emits hasReceiver work (.ready (.ok .done)) work' [event]
  /-- The closing event gets lost. -/
  | loses (hreceiver : hasReceiver = false) :
    Emits hasReceiver .closing (.ready (.ok .done)) .closing []
  /-- The event is given up. -/
  | fails {work work' : Work} {error : Error} (hevent : work.event?.isSome)
    (hclosing : work.isClosing = false) : Emits hasReceiver work (.ready (.error error)) work' []
  /-- A message is heard, or that there are no more. -/
  | hears {message : Option Message} :
    Emits hasReceiver .receiving (.ready (.ok (.message message))) .receiving []

/-- How an event gets onto a lane, or does not. -/
theorem put_cases (lane : Lane) (event : Event) :
    lane.put event = .gone ∧ lane.hasReceiver = false ∨ lane.put event = .full ∨
      lane.put event = .sent (lane.extend [event]) ∧ lane.hasReceiver = true := by
  obtain ⟨capacity, events, hasSender, hasReceiver⟩ := lane
  cases hasReceiver with
  | false => exact .inl ⟨rfl, rfl⟩
  | true => by_cases hroom : events.length < capacity <;> simp [Lane.put, Lane.extend, hroom]

variable (work : Work) (channel : Channel)

/-- An event is put out if there is room. -/
theorem emits_emit {event : Event} (hwork : work = .emitting event ∨
      work = .connecting ∧ event = .accept) :
    ∃ events, Emits channel.outgoing.hasReceiver work (channel.emit event).1
        (channel.emit event).2.1 events ∧
      (channel.emit event).2.2.outgoing = channel.outgoing.extend events := by
  have hevent : work.event? = some event := by
    rcases hwork with rfl | ⟨rfl, rfl⟩ <;> rfl
  have hclosing : work.isClosing = false := by
    rcases hwork with rfl | ⟨rfl, rfl⟩ <;> rfl
  rcases put_cases channel.outgoing event with ⟨hput, -⟩ | hput | ⟨hput, hreceiver⟩ <;>
    simp only [emit, hput]
  · exact ⟨[], .fails (by simp [hevent]) hclosing, by simp⟩
  · refine ⟨[], .waits ?_, by simp⟩
    rcases hwork with rfl | ⟨rfl, rfl⟩
    · exact .inl rfl
    · exact .inr ⟨rfl, rfl⟩
  · exact ⟨[event], .sends hevent hreceiver, rfl⟩

theorem emits_poll :
    ∃ events, Emits channel.outgoing.hasReceiver work (poll work channel).1 (poll work channel).2.1
        events ∧
      (poll work channel).2.2.outgoing = channel.outgoing.extend events := by
  obtain ⟨incoming, outgoing⟩ := channel
  cases work with
  | connecting =>
    obtain ⟨capacity, events, hasSender, hasReceiver⟩ := incoming
    rcases events with - | ⟨event, events⟩
    · cases hasSender with
      | true => exact ⟨[], .waits (.inl rfl), by simp [poll]⟩
      | false => exact ⟨[], .fails rfl rfl, by simp [poll]⟩
    -- Only a client that connects is answered by an event.
    · cases event with
      | connect =>
        exact emits_emit .connecting ⟨⟨capacity, events, hasSender, hasReceiver⟩, outgoing⟩
          (.inr ⟨rfl, rfl⟩)
      | _ => exact ⟨[], .fails rfl rfl, by simp [poll]⟩
  | emitting event => exact emits_emit _ _ (.inl rfl)
  | closing =>
    rcases put_cases outgoing (.close normalClosure) with ⟨hput, hreceiver⟩ | hput |
      ⟨hput, hreceiver⟩ <;> simp only [poll, hput]
    · exact ⟨[], .loses hreceiver, by simp⟩
    · exact ⟨[], .waits (.inl rfl), by simp⟩
    · exact ⟨[_], .sends rfl hreceiver, rfl⟩
  | receiving =>
    simp only [poll]
    refine ⟨[], ?_, (Lane.extend_nil _).symm⟩
    rcases firstMessage incoming.hasSender incoming.events with ⟨found | -, rest⟩
    · exact .hears
    · exact .waits (.inl rfl)

/-! ### What the client takes -/

/-- The events that the client takes from the outgoing lane. -/
def takes (act : ClientAct) (channel : Channel) : List Event :=
  match channel.clientAct? act with
  | some (.taken events _, _) => events
  | _ => []

/-- The outgoing lane after the client has done something. If its receiving end is there, what was
on the lane has been taken or is still there. -/
structure Shrinks (before : Lane) (taken : List Event) (after : Lane) : Prop where
  events : after.hasReceiver = true → taken ++ after.events = before.events
  hasReceiver : after.hasReceiver = true → before.hasReceiver = true
  gone : after.hasReceiver = false → taken = []

theorem outgoing_clientPut (channel : Channel) (event : Event) :
    (channel.clientPut event).2.outgoing = channel.outgoing := by
  unfold clientPut
  split <;> rfl

theorem shrinks_act (act : ClientAct) (channel : Channel) :
    Shrinks channel.outgoing (channel.takes act) (channel.act act).outgoing := by
  have hsame : Shrinks channel.outgoing [] channel.outgoing := ⟨fun _ => rfl, id, fun _ => rfl⟩
  have hput (event : Event) :
      Shrinks channel.outgoing [] (channel.clientPut event).2.outgoing := by
    rwa [outgoing_clientPut]
  -- Only the receiving end of the client has to do with this lane.
  obtain ⟨⟨_, _, hasSender, _⟩, ⟨capacity, events, _, hasReceiver⟩⟩ := channel
  cases act with
  | take count =>
    cases hasReceiver with
    | false => exact hsame
    | true => exact ⟨fun _ => List.take_append_drop count events, id, by rintro ⟨⟩⟩
  | dropReceiver =>
    cases hasReceiver with
    | false => exact hsame
    | true => exact ⟨by rintro ⟨⟩, by rintro ⟨⟩, fun _ => rfl⟩
  | send event =>
    cases hasSender with
    | false => exact hsame
    | true => exact hput event
  | dropSender => cases hasSender <;> exact hsame
  | _ => exact hsame

end Channel

/-- Event channels with all that went out on them. -/
structure Feed where
  /-- The channels. -/
  channel : Channel
  /-- The events that the server has put on the outgoing lane, in order. -/
  posted : List Event
  /-- The events that the client has taken from it, in order. -/
  taken : List Event
  /-- The order to put out the closing event was dropped before it was carried out. -/
  forsaken : Bool

namespace Feed

/-- Fresh channels, on which nothing went out. -/
def ofCapacities (incoming outgoing : Nat) : Feed :=
  ⟨.ofCapacities incoming outgoing, [], [], false⟩

/-- The channels have become others. What stands on the outgoing lane behind the events that were
there before has been put there. -/
def advance (feed : Feed) (channel : Channel) : Feed :=
  { feed with
    channel
    posted :=
      feed.posted ++ channel.outgoing.events.drop feed.channel.outgoing.events.length }

/-- The server's operations. -/
def backend : Backend Feed Channel.Work where
  start order feed :=
    let (work, channel) := Channel.backend.start order feed.channel
    (work, feed.advance channel)
  poll work feed :=
    let (reply, work, channel) := Channel.backend.poll work feed.channel
    (reply, work, feed.advance channel)
  abandon work feed :=
    let channel := Channel.backend.abandon work feed.channel
    { feed.advance channel with forsaken := feed.forsaken || work.isClosing }

/-- The client does something if it can. -/
def act (act : ClientAct) (feed : Feed) : Feed :=
  { feed with channel := feed.channel.act act, taken := feed.taken ++ feed.channel.takes act }

theorem backend_extends : backend.Extends Channel.backend channel where
  start _ _ := rfl
  poll _ _ := rfl
  abandon _ _ := rfl

/-- The client still has its receiving end. -/
def hasReceiver (feed : Feed) : Bool := feed.channel.outgoing.hasReceiver

@[simp]
theorem advance_self (feed : Feed) : feed.advance feed.channel = feed := by
  simp [advance]

@[simp]
theorem start_snd (order : Order) (feed : Feed) : (backend.start order feed).2 = feed := by
  cases order <;> exact advance_self feed

@[simp]
theorem abandon_eq (work : Channel.Work) (feed : Feed) :
    backend.abandon work feed = { feed with forsaken := feed.forsaken || work.isClosing } := by
  simp [backend, Channel.backend]

/-- What went out is on the lane or with the client, unless it has dropped its receiving end. -/
structure IsConserved (feed : Feed) : Prop where
  eq : feed.hasReceiver = true → feed.taken ++ feed.channel.outgoing.events = feed.posted
  isPrefix : feed.taken <+: feed.posted

section Extending

variable {feed : Feed} {channel : Channel} {events : List Event}
  (h : channel.outgoing = feed.channel.outgoing.extend events)

include h

theorem posted_advance : (feed.advance channel).posted = feed.posted ++ events := by
  simp [advance, h, Lane.extend]

theorem hasReceiver_advance : (feed.advance channel).hasReceiver = feed.hasReceiver := by
  simp [advance, hasReceiver, h, Lane.extend]

theorem IsConserved.advance (hconserved : feed.IsConserved) :
    (feed.advance channel).IsConserved := by
  constructor
  · intro hreceiver
    rw [hasReceiver_advance h] at hreceiver
    rw [posted_advance h, ← hconserved.eq hreceiver, List.append_assoc]
    simp [Feed.advance, h, Lane.extend]
  · rw [posted_advance h]
    exact hconserved.isPrefix.trans (List.prefix_append _ _)

end Extending

/-- What an operation puts out in one poll. -/
theorem emits_poll {work work' : Channel.Work} {feed feed' : Feed}
    {reply : Poll (Except Error Reply)} (h : backend.poll work feed = (reply, work', feed')) :
    ∃ events, Channel.Emits feed.hasReceiver work reply work' events ∧
      feed'.posted = feed.posted ++ events ∧ feed'.hasReceiver = feed.hasReceiver ∧
      feed'.forsaken = feed.forsaken ∧ (feed.IsConserved → feed'.IsConserved) := by
  obtain ⟨events, hemits, houtgoing⟩ := Channel.emits_poll work feed.channel
  simp only [backend, Channel.backend] at h
  generalize Channel.poll work feed.channel = polled at h hemits houtgoing
  cases h
  exact ⟨events, hemits, posted_advance houtgoing, hasReceiver_advance houtgoing, rfl,
    IsConserved.advance houtgoing⟩

theorem isConserved_act {feed : Feed} (h : feed.IsConserved) (act : ClientAct) :
    (feed.act act).IsConserved := by
  have hshrinks := Channel.shrinks_act act feed.channel
  have heq (hreceiver : (feed.act act).hasReceiver = true) :
      (feed.act act).taken ++ (feed.act act).channel.outgoing.events = feed.posted := by
    rw [← h.eq (hshrinks.hasReceiver hreceiver), ← hshrinks.events hreceiver, ← List.append_assoc]
    rfl
  refine ⟨heq, ?_⟩
  cases hreceiver : (feed.act act).hasReceiver with
  | true =>
    show (feed.act act).taken <+: feed.posted
    rw [← heq hreceiver]
    exact List.prefix_append _ _
  | false =>
    show feed.taken ++ feed.channel.takes act <+: feed.posted
    rw [hshrinks.gone hreceiver, List.append_nil]
    exact h.isPrefix

end Feed

/-! ### What a handler was told -/

section Past

open Session

/-- The text that an action that is over has sent. -/
def sentText? : Action × Option (Except Error Session.Answer) → Option String
  | (.send text, some (.ok .done)) => some text
  | _ => none

/-- The texts that a handler has sent. -/
def sentTexts (past : List (Action × Option (Except Error Session.Answer))) : List String :=
  past.filterMap sentText?

/-- What goes out on a session that was opened, before it is closed. -/
def greeting (past : List (Action × Option (Except Error Session.Answer))) : List Event :=
  .accept :: (sentTexts past).map .text

/-- The event that goes out with an action that is over, if any does. -/
def announced? : Action × Option (Except Error Session.Answer) → Option Event
  | (.prepare, some (.ok .done)) => some .accept
  | (.send text, some (.ok .done)) => some (.text text)
  | (.next, some (.ok (.item none))) => some (.close normalClosure)
  | (.close, some (.ok .done)) => some (.close normalClosure)
  | _ => none

/-- The handler was told that the session is closed. -/
def IsTold (past : List (Action × Option (Except Error Session.Answer))) : Prop :=
  IsEnded past ∨ (.close, some (.ok .done)) ∈ past

variable {past : List (Action × Option (Except Error Session.Answer))} {action : Action}
  {outcome : Option (Except Error Session.Answer)}

@[simp]
theorem sentTexts_concat :
    sentTexts (past ++ [(action, outcome)]) =
      sentTexts past ++ (sentText? (action, outcome)).toList := by
  rw [sentTexts, List.filterMap_append, List.filterMap_cons]
  cases sentText? (action, outcome) <;> rfl

theorem greeting_concat :
    greeting (past ++ [(action, outcome)]) =
      greeting past ++ ((sentText? (action, outcome)).map .text).toList := by
  simp only [greeting, sentTexts_concat, List.map_append, List.cons_append]
  cases sentText? (action, outcome) <;> rfl

theorem greeting_concat_of_none (h : sentText? (action, outcome) = none) :
    greeting (past ++ [(action, outcome)]) = greeting past := by
  simp [greeting_concat, h]

theorem not_isClose_of_mem_greeting {event : Event} (h : event ∈ greeting past) :
    ¬ event.IsClose := by
  simp only [greeting, List.mem_cons, List.mem_map] at h
  rcases h with rfl | ⟨text, -, rfl⟩ <;> exact id

@[simp]
theorem isTold_concat :
    IsTold (past ++ [(action, outcome)]) ↔ IsTold past ∨
      action = .next ∧ outcome = some (.ok (.item none)) ∨
      action = .close ∧ outcome = some (.ok .done) := by
  simp only [IsTold, isEnded_concat, List.mem_append, List.mem_singleton, Prod.mk.injEq]
  tauto

end Past

/-! ### What has been put out -/

open Session Channel in
/-- What the channels are doing in each phase, and for which action. -/
inductive Serves : Phase → Option (Action × Purpose × Work) → Prop where
  /-- Nothing. -/
  | idle {phase : Phase} : Serves phase none
  /-- They wait for the client to connect. -/
  | connecting : Serves .created (some (.prepare, .accepting, .connecting))
  /-- The client is answered. -/
  | answering : Serves .created (some (.prepare, .accepting, .emitting .accept))
  /-- A text goes out. -/
  | sending {text : String} :
    Serves .accepted (some (.send text, .sending, .emitting (.text text)))
  /-- A message is awaited. -/
  | receiving : Serves .accepted (some (.next, .receiving, .receiving))
  /-- The handler closes the session. -/
  | closing : Serves .closed (some (.close, .closing, .closing))
  /-- The client has left. -/
  | leaving : Serves .closed (some (.next, .leaving, .closing))

section Serving

open Session Channel

variable {phase phase' : Phase} {action : Action} {purpose : Purpose} {work work' : Work}

theorem serves_of_opening {order : Order} {channel : Channel}
    (hopening : action.opening phase = (.inr order, phase')) :
    Serves phase' (some (action, purposeOf order, (backend.start order channel).1)) := by
  cases action <;> cases phase <;> cases hopening
  case prepare.created => exact .connecting
  case send.accepted => exact .sending
  case next.accepted => exact .receiving
  case close.accepted => exact .closing

theorem Serves.waits (h : Serves phase (some (action, purpose, work)))
    (hwork : work' = work ∨ work = .connecting ∧ work' = .emitting .accept) :
    Serves phase (some (action, purpose, work')) := by
  rcases hwork with rfl | ⟨rfl, rfl⟩
  · exact h
  · cases h
    exact .answering

end Serving

/-- What has been put out by a session in some phase, by whether an order is in progress. -/
inductive Speaks (hasReceiver forsaken : Bool) : Phase → (isBusy : Bool) → List Event →
    List (Session.Action × Option (Except Error Session.Answer)) → Prop where
  /-- The session was never opened. -/
  | silent {phase isBusy past} (hphase : phase ≠ .accepted)
    (hbusy : isBusy = true → phase = .created) (hopened : ¬ IsOpened past)
    (hsent : sentTexts past = []) (htold : phase = .created → ¬ IsTold past)
    (hforsaken : forsaken = false) : Speaks hasReceiver forsaken phase isBusy [] past
  /-- The session is open, or is just being closed. -/
  | speaking {phase isBusy past} (hphase : phase = .accepted ∨ phase = .closed ∧ isBusy = true)
    (htold : ¬ IsTold past) (hforsaken : forsaken = false) :
    Speaks hasReceiver forsaken phase isBusy (greeting past) past
  /-- The session has been closed. -/
  | closed {past} (hforsaken : forsaken = false) :
    Speaks hasReceiver forsaken .closed false (greeting past ++ [.close normalClosure]) past
  /-- The session is closed, of which the client does not hear. -/
  | unheard {past} (hunheard : forsaken = true ∨ hasReceiver = false) :
    Speaks hasReceiver forsaken .closed false (greeting past) past

namespace Speaks

open Session Channel

variable {hasReceiver forsaken isBusy : Bool} {phase phase' : Phase} {posted : List Event}
  {past : List (Action × Option (Except Error Session.Answer))} {action : Action}
  {purpose : Purpose} {work work' : Work}

/-- An action that has its answer without the backend sends no text. -/
theorem sentText?_of_inl {answer : Except Error Session.Answer}
    (hopening : action.opening phase = (.inl answer, phase')) :
    sentText? (action, some answer) = none := by
  cases action <;> cases phase <;> cases hopening <;> rfl

/-- An action may have its answer without the backend. -/
theorem answers (h : Speaks hasReceiver forsaken phase false posted past)
    {answer : Except Error Session.Answer}
    (hopening : action.opening phase = (.inl answer, phase')) :
    Speaks hasReceiver forsaken phase' false posted (past ++ [(action, some answer)]) := by
  have hgreeting : greeting (past ++ [(action, some answer)]) = greeting past :=
    greeting_concat_of_none (sentText?_of_inl hopening)
  cases h with
  | silent hphase _ hopened hsent htold hforsaken =>
    -- Without being prepared a session can only be closed or stay as it is.
    have hsent' : sentTexts (past ++ [(action, some answer)]) = [] := by
      simp [hsent, sentText?_of_inl hopening]
    cases phase with
    | created =>
      cases action <;> cases hopening
      · exact .silent (by simp) (by simp) (by simp [hopened]) hsent'
          (fun _ => by simp [htold rfl]) hforsaken
      · exact .silent (by simp) (by simp) (by simp [hopened]) hsent' (by simp) hforsaken
      · exact .silent (by simp) (by simp) (by simp [hopened]) hsent' (by simp) hforsaken
    | accepted => exact absurd rfl hphase
    | closed =>
      cases action <;> cases hopening <;>
        exact .silent (by simp) (by simp) (by simp [hopened]) hsent' (by simp) hforsaken
  | speaking hphase htold hforsaken =>
    obtain rfl := hphase.resolve_right (by simp)
    rw [← hgreeting]
    cases action <;> cases hopening
    exact .speaking (.inl rfl) (by simp [htold]) hforsaken
  | closed hforsaken =>
    rw [← hgreeting]
    have hphase : phase' = .closed := by cases action <;> cases hopening <;> rfl
    exact hphase ▸ .closed hforsaken
  | unheard hunheard =>
    rw [← hgreeting]
    have hphase : phase' = .closed := by cases action <;> cases hopening <;> rfl
    exact hphase ▸ .unheard hunheard

/-- An action may begin with an order. -/
theorem orders (h : Speaks hasReceiver forsaken phase false posted past) {order : Order}
    (hopening : action.opening phase = (.inr order, phase')) :
    Speaks hasReceiver forsaken phase' true posted past := by
  cases h with
  | silent hphase _ hopened hsent htold hforsaken =>
    have hcreated : phase = .created ∧ phase' = .created := by
      cases action <;> cases phase <;> cases hopening <;>
        first | exact ⟨rfl, rfl⟩ | exact absurd rfl hphase
    exact .silent (by simp [hcreated]) (fun _ => hcreated.2) hopened hsent
      (fun _ => htold hcreated.1) hforsaken
  | speaking hphase htold hforsaken =>
    obtain rfl := hphase.resolve_right (by simp)
    refine .speaking ?_ htold hforsaken
    cases action <;> cases hopening <;> simp
  | _ => cases action <;> cases hopening

/-- A client that has connected is answered, or the session is closed. -/
theorem prepares (h : Speaks hasReceiver forsaken .created true posted past)
    (hevent : work.event? = some .accept) {reply : Except Error Reply} {events : List Event}
    (hemits : Emits hasReceiver work (.ready reply) work' events)
    {answer : Except Error Session.Answer}
    (hconclusion : Purpose.accepting.conclusion .created reply = some (answer, phase')) :
    Speaks hasReceiver forsaken phase' false (posted ++ events)
        (past ++ [(.prepare, some answer)]) ∧
      events.Sublist (announced? (.prepare, some answer)).toList := by
  -- Before it is prepared the session has said nothing, so the `accept` comes first.
  generalize hready : Poll.ready reply = outcome at hemits
  cases h with
  | silent _ _ hopened hsent htold hforsaken =>
    cases hemits with
    | sends hother =>
      cases hready
      cases hconclusion
      cases hevent.symm.trans hother
      refine ⟨?_, .refl _⟩
      have hgreeting :
          [] ++ [Event.accept] = greeting (past ++ [(.prepare, some (.ok .done))]) := by
        simp [greeting, hsent, sentText?]
      rw [hgreeting]
      exact .speaking (.inl rfl) (by simp [htold rfl]) hforsaken
    | fails =>
      cases hready
      cases hconclusion
      exact ⟨.silent (by simp) (by simp) (by simp [hopened]) (by simp [hsent, sentText?])
        (by simp) hforsaken, .refl _⟩
    | loses | hears => cases hevent
    | waits => cases hready
  | speaking hphase => simp at hphase

/-- A session that is being closed is closed, whether the client hears of it or not. -/
theorem shuts (h : Speaks hasReceiver forsaken .closed true posted past)
    (hpurpose : purpose = .closing ∧ action = .close ∨ purpose = .leaving ∧ action = .next)
    {reply : Except Error Reply} {events : List Event}
    (hemits : Emits hasReceiver .closing (.ready reply) work' events)
    {answer : Except Error Session.Answer}
    (hconclusion : purpose.conclusion .closed reply = some (answer, phase')) :
    Speaks hasReceiver forsaken phase' false (posted ++ events) (past ++ [(action, some answer)]) ∧
      events.Sublist (announced? (action, some answer)).toList := by
  generalize hready : Poll.ready reply = outcome at hemits
  cases h with
  | silent _ hbusy => cases hbusy rfl
  | speaking _ _ hforsaken =>
    -- Either way the answer is the one that tells of the end.
    have htells : reply = .ok .done → phase' = .closed ∧ sentText? (action, some answer) = none ∧
        announced? (action, some answer) = some (.close normalClosure) := by
      rintro rfl
      rcases hpurpose with ⟨rfl, rfl⟩ | ⟨rfl, rfl⟩ <;> cases hconclusion <;> exact ⟨rfl, rfl, rfl⟩
    cases hemits with
    | sends hevent =>
      cases hready
      obtain ⟨rfl, hsent, hannounced⟩ := htells rfl
      cases hevent
      rw [← greeting_concat_of_none hsent, hannounced]
      exact ⟨.closed hforsaken, .refl _⟩
    | loses hreceiver =>
      cases hready
      obtain ⟨rfl, hsent, -⟩ := htells rfl
      rw [← greeting_concat_of_none hsent, List.append_nil]
      exact ⟨.unheard (.inr hreceiver), List.nil_sublist _⟩
    | fails _ hclosing => cases hclosing
    | waits => cases hready

/-- A text goes out, or its action fails. -/
theorem sends (h : Speaks hasReceiver forsaken .accepted true posted past) {text : String}
    {reply : Except Error Reply} {events : List Event}
    (hemits : Emits hasReceiver (.emitting (.text text)) (.ready reply) work' events)
    {answer : Except Error Session.Answer}
    (hconclusion : Purpose.sending.conclusion .accepted reply = some (answer, phase')) :
    Speaks hasReceiver forsaken phase' false (posted ++ events)
        (past ++ [(.send text, some answer)]) ∧
      events.Sublist (announced? (.send text, some answer)).toList := by
  generalize hready : Poll.ready reply = outcome at hemits
  cases h with
  | silent hphase => exact absurd rfl hphase
  | speaking _ htold hforsaken =>
    cases hemits with
    | sends hevent =>
      cases hready
      cases hconclusion
      cases hevent
      have hgreeting : greeting past ++ [Event.text text] =
          greeting (past ++ [(.send text, some (.ok .done))]) := by
        simp [greeting_concat, sentText?]
      rw [hgreeting]
      exact ⟨.speaking (.inl rfl) (by simp [htold]) hforsaken, .refl _⟩
    | @fails _ _ error =>
      cases hready
      cases hconclusion
      have hsent : sentText? (.send text, some (.error error)) = none := rfl
      rw [← greeting_concat_of_none hsent, List.append_nil]
      exact ⟨.speaking (.inl rfl) (by simp [htold]) hforsaken, .refl _⟩
    | waits => cases hready

/-- To receive a message puts nothing out. -/
theorem hears (h : Speaks hasReceiver forsaken .accepted true posted past)
    {reply : Except Error Reply} {events : List Event}
    (hemits : Emits hasReceiver .receiving (.ready reply) work' events)
    {answer : Except Error Session.Answer}
    (hconclusion : Purpose.receiving.conclusion .accepted reply = some (answer, phase')) :
    Speaks hasReceiver forsaken phase' false (posted ++ events) (past ++ [(.next, some answer)]) ∧
      events.Sublist (announced? (.next, some answer)).toList := by
  generalize hready : Poll.ready reply = outcome at hemits
  cases h with
  | silent hphase => exact absurd rfl hphase
  | speaking _ htold hforsaken =>
    cases hemits with
    | @hears message =>
      cases hready
      cases message with
      | none => cases hconclusion
      | some message =>
        cases hconclusion
        have hsent : sentText? (.next, some (.ok (.item (some (.ok message))))) = none := rfl
        rw [← greeting_concat_of_none hsent, List.append_nil]
        exact ⟨.speaking (.inl rfl) (by simp [htold]) hforsaken, .refl _⟩
    | sends hevent => cases hevent
    | fails hevent => cases hevent
    | waits => cases hready

/-- The order in progress may be carried out, and the action has its answer. -/
theorem concludes (h : Speaks hasReceiver forsaken phase true posted past)
    (hserves : Serves phase (some (action, purpose, work))) {reply : Except Error Reply}
    {events : List Event} (hemits : Emits hasReceiver work (.ready reply) work' events)
    {answer : Except Error Session.Answer}
    (hconclusion : purpose.conclusion phase reply = some (answer, phase')) :
    Speaks hasReceiver forsaken phase' false (posted ++ events) (past ++ [(action, some answer)]) ∧
      events.Sublist (announced? (action, some answer)).toList := by
  cases hserves with
  | connecting | answering => exact h.prepares rfl hemits hconclusion
  | sending => exact h.sends hemits hconclusion
  | receiving => exact h.hears hemits hconclusion
  | closing => exact h.shuts (.inl ⟨rfl, rfl⟩) hemits hconclusion
  | leaving => exact h.shuts (.inr ⟨rfl, rfl⟩) hemits hconclusion

/-- The client may turn out to have left, which is answered by closing. -/
theorem leaves (h : Speaks hasReceiver forsaken phase true posted past)
    (hserves : Serves phase (some (action, purpose, work))) {reply : Except Error Reply}
    {events : List Event} (hemits : Emits hasReceiver work (.ready reply) work' events)
    (hconclusion : purpose.conclusion phase reply = none) :
    events = [] ∧ action = .next ∧ Speaks hasReceiver forsaken .closed true posted past := by
  cases hserves with
  | receiving =>
    cases h with
    | silent hphase => exact absurd rfl hphase
    | speaking _ htold hforsaken =>
      refine ⟨?_, rfl, .speaking (.inr ⟨rfl, rfl⟩) htold hforsaken⟩
      cases hemits with
      | sends hevent => cases hevent
      | _ => rfl
  | _ => cases reply <;> cases hconclusion

/-- The action in progress may be dropped, and its event with it. -/
theorem abandons (h : Speaks hasReceiver forsaken phase true posted past)
    (hserves : Serves phase (some (action, purpose, work))) :
    Speaks hasReceiver (forsaken || work.isClosing) phase false posted
      (past ++ [(action, none)]) := by
  have hsent : sentText? (action, none) = none := by cases action <;> rfl
  cases h with
  | silent _ hbusy hopened hnone htold hforsaken =>
    -- A session that is silent and busy is still being prepared, so no closing is dropped.
    obtain rfl := hbusy rfl
    have hclosing : (forsaken || work.isClosing) = false := by
      cases hserves <;> simp [hforsaken, Work.isClosing]
    exact .silent (by simp) (by simp) (by simp [hopened]) (by simp [hnone, hsent])
      (fun _ => by simp [htold rfl]) hclosing
  | speaking hphase htold hforsaken =>
    rw [← greeting_concat_of_none hsent]
    cases hserves with
    | connecting | answering => simp at hphase
    | sending | receiving =>
      exact .speaking (.inl rfl) (by simp [htold]) (by simp [hforsaken, Work.isClosing])
    | closing | leaving => exact .unheard (.inl (by simp [Work.isClosing]))

/-- The client may drop its receiving end. -/
theorem mono (h : Speaks hasReceiver forsaken phase isBusy posted past) {hasReceiver' : Bool}
    (hreceiver : hasReceiver' = true → hasReceiver = true) :
    Speaks hasReceiver' forsaken phase isBusy posted past := by
  cases h with
  | silent hphase hbusy hopened hsent htold hforsaken =>
    exact .silent hphase hbusy hopened hsent htold hforsaken
  | speaking hphase htold hforsaken => exact .speaking hphase htold hforsaken
  | closed hforsaken => exact .closed hforsaken
  | unheard hunheard =>
    refine .unheard (hunheard.imp_right fun hgone => ?_)
    cases hasReceiver' with
    | false => rfl
    | true => exact (hreceiver rfl).symm.trans hgone

/-- What has been put out is nothing, or begins as it should and may end with a `close`. -/
theorem posted_eq (h : Speaks hasReceiver forsaken phase isBusy posted past) :
    posted = [] ∧ sentTexts past = [] ∨ posted = greeting past ∨
      posted = greeting past ++ [.close normalClosure] := by
  cases h with
  | silent _ _ _ hsent => exact .inl ⟨rfl, hsent⟩
  | speaking | unheard => exact .inr (.inl rfl)
  | closed => exact .inr (.inr rfl)

/-- Nothing comes behind a `close`. -/
theorem eq_nil_of_isClose {events : List Event}
    (h : Speaks hasReceiver forsaken phase isBusy (posted ++ events) past)
    (hclose : ∃ event ∈ posted, event.IsClose) : events = [] := by
  obtain ⟨event, hevent, hclose⟩ := hclose
  have hgreeting (rest : List Event) : posted ++ rest ≠ greeting past := by
    rintro heq
    exact not_isClose_of_mem_greeting (heq ▸ List.mem_append_left rest hevent) hclose
  rcases h.posted_eq with ⟨hnil, -⟩ | heq | heq
  · exact (List.append_eq_nil_iff.mp hnil).2
  · exact absurd heq (hgreeting events)
  · -- If something came behind, the `close` would be among what comes before the last event.
    rcases List.eq_nil_or_concat events with hevents | ⟨rest, last, rfl⟩
    · exact hevents
    · rw [List.concat_eq_append, ← List.append_assoc] at heq
      exact absurd (List.append_inj_left' heq rfl) (hgreeting rest)

end Speaks

/-! ### Handlers -/

namespace Course

open Session Channel

/-- The action in progress with the order that was given for it, if there is one. -/
def errand? {σ κ : Type} (course : Course σ κ) : Option (Action × Purpose × κ) :=
  course.current.bind fun current => current.2.order?.map (current.1, ·)

@[simp]
theorem errand?_stage {σ κ : Type} (session : Session σ) (action : Action) (purpose : Purpose)
    (work : κ) (past) :
    (⟨session, some (action, purpose.stage work), past⟩ : Course σ κ).errand? =
      some (action, purpose, work) := by
  simp [errand?]

/-- What has gone out is in order. -/
structure IsInOrder (course : Course Feed Work) : Prop where
  serves : Serves course.session.phase course.errand?
  speaks : Speaks course.session.socket.hasReceiver course.session.socket.forsaken
    course.session.phase course.errand?.isSome course.session.socket.posted course.past
  conserved : course.session.socket.IsConserved

/-- What was put out between two moments goes with answers that were given between them. -/
def Yields (before after : Course Feed Work) : Prop :=
  ∃ entries events, after.past = before.past ++ entries ∧
    after.session.socket.posted = before.session.socket.posted ++ events ∧
    events.Sublist (entries.filterMap announced?)

theorem Yields.of_eq {before after : Course Feed Work} (hpast : after.past = before.past)
    (hposted : after.session.socket.posted = before.session.socket.posted) :
    Yields before after :=
  ⟨[], [], by simp [hpast], by simp [hposted], .refl _⟩

theorem Yields.of_concat {before after : Course Feed Work} {entry} {events : List Event}
    (hpast : after.past = before.past ++ [entry])
    (hposted : after.session.socket.posted = before.session.socket.posted ++ events)
    (hevents : events.Sublist (announced? entry).toList) : Yields before after := by
  refine ⟨[entry], events, hpast, hposted, ?_⟩
  rw [List.filterMap_cons]
  cases hannounced : announced? entry <;> rw [hannounced] at hevents <;> exact hevents

theorem Yields.trans {a b c : Course Feed Work} (hab : Yields a b) (hbc : Yields b c) :
    Yields a c := by
  obtain ⟨entries, events, hpast, hposted, hevents⟩ := hab
  obtain ⟨entries', events', hpast', hposted', hevents'⟩ := hbc
  refine ⟨entries ++ entries', events ++ events', by simp [hpast', hpast],
    by simp [hposted', hposted], ?_⟩
  rw [List.filterMap_append]
  exact hevents.append hevents'

/-- Every move keeps what goes out in order, and puts out only what goes with its answer. -/
theorem Moves.yields {before after : Course Feed Work}
    (hmove : Moves Feed.backend Feed.act before after) (h : before.IsInOrder) :
    after.IsInOrder ∧ Yields before after := by
  obtain ⟨hserves, hspeaks, hconserved⟩ := h
  cases hmove with
  | begins | forgets => exact ⟨⟨.idle, hspeaks, hconserved⟩, .of_eq rfl rfl⟩
  | answers hopening =>
    exact ⟨⟨.idle, hspeaks.answers hopening, hconserved⟩,
      .of_concat rfl (List.append_nil _).symm (List.nil_sublist _)⟩
  | @orders socket socket' phase phase' action order work past hopening hstart =>
    obtain rfl : socket' = socket := by rw [← Feed.start_snd order socket, hstart]
    refine ⟨⟨?_, ?_, hconserved⟩, .of_eq rfl rfl⟩ <;> rw [errand?_stage]
    · have hwork : (Channel.backend.start order socket'.channel).1 = work :=
        congrArg Prod.fst hstart
      exact hwork ▸ serves_of_opening hopening
    · exact hspeaks.orders hopening
  | @waits socket socket' phase action purpose work work' past hpoll =>
    obtain ⟨events, hemits, hposted, hreceiver, hforsaken, hkeeps⟩ := Feed.emits_poll hpoll
    rw [errand?_stage] at hserves hspeaks
    cases hemits with
    | waits hwork =>
      rw [List.append_nil] at hposted
      refine ⟨⟨?_, ?_, hkeeps hconserved⟩, .of_eq rfl hposted⟩ <;> rw [errand?_stage]
      · exact hserves.waits hwork
      · dsimp only at hspeaks ⊢
        rwa [hreceiver, hforsaken, hposted]
  | @concludes socket socket' phase phase' action purpose work work' reply answer past hpoll
      hconclusion =>
    obtain ⟨events, hemits, hposted, hreceiver, hforsaken, hkeeps⟩ := Feed.emits_poll hpoll
    rw [errand?_stage] at hserves hspeaks
    obtain ⟨hspeaks, hevents⟩ := hspeaks.concludes hserves hemits hconclusion
    refine ⟨⟨.idle, ?_, hkeeps hconserved⟩, .of_concat rfl hposted hevents⟩
    show Speaks socket'.hasReceiver socket'.forsaken phase' false socket'.posted _
    rwa [hreceiver, hforsaken, hposted]
  | @leaves socket socket' socket'' phase action purpose work work' order reply past hpoll
      hconclusion hstart =>
    obtain ⟨events, hemits, hposted, hreceiver, hforsaken, hkeeps⟩ := Feed.emits_poll hpoll
    obtain rfl : socket'' = socket' := by rw [← Feed.start_snd .close socket', hstart]
    rw [errand?_stage] at hserves hspeaks
    obtain ⟨rfl, rfl, hspeaks⟩ := hspeaks.leaves hserves hemits hconclusion
    rw [List.append_nil] at hposted
    refine ⟨⟨?_, ?_, hkeeps hconserved⟩, .of_eq rfl hposted⟩ <;> rw [errand?_stage]
    · have hwork : Work.closing = order := congrArg Prod.fst hstart
      exact hwork ▸ .leaving
    · dsimp only at hspeaks ⊢
      rwa [hreceiver, hforsaken, hposted]
  | @abandons socket phase action purpose work past =>
    rw [errand?_stage] at hserves hspeaks
    rw [Feed.abandon_eq]
    exact ⟨⟨.idle, hspeaks.abandons hserves, hconserved.eq, hconserved.isPrefix⟩,
      .of_concat rfl (List.append_nil _).symm (List.nil_sublist _)⟩
  | @outside socket phase current past act =>
    have hreceiver := (Channel.shrinks_act act socket.channel).hasReceiver
    exact ⟨⟨hserves, hspeaks.mono hreceiver, Feed.isConserved_act hconserved act⟩, .of_eq rfl rfl⟩

/-- The course of a session over fresh event channels, with all that goes out. -/
def fed (incoming outgoing : Nat) (steps : List (Step ClientAct)) : Course Feed Work :=
  (start (.ofCapacities incoming outgoing)).run Feed.backend Feed.act steps

section Fed

variable (incoming outgoing : Nat) (steps : List (Step ClientAct))

theorem map_fed :
    (fed incoming outgoing steps).map Feed.channel =
      (start (.ofCapacities incoming outgoing)).run Channel.backend Channel.act steps :=
  (run_map Feed.backend_extends (fun _ _ => rfl) (start (.ofCapacities incoming outgoing))
    steps).symm

theorem isInOrder_fed : (fed incoming outgoing steps).IsInOrder := by
  refine invariant_run IsInOrder (proper_of_none rfl) (fun _ hmove h => (hmove.yields h).1) ?_ steps
  refine ⟨.idle, ?_, fun _ => rfl, List.prefix_rfl⟩
  exact .silent (by simp [start, Session.create]) (by rintro ⟨⟩) (by rintro ⟨⟩) rfl
    (fun _ => by simp [IsTold, IsEnded, start]) rfl

/-- Between any two moments it is so. -/
theorem yields_fed (later : List (Step ClientAct)) :
    Yields (fed incoming outgoing steps) (fed incoming outgoing (steps ++ later)) := by
  have hafter : fed incoming outgoing (steps ++ later) =
      (fed incoming outgoing steps).run Feed.backend Feed.act later := run_append _ _ _ _ _
  rw [hafter]
  refine (invariant_run
    (fun course => course.IsInOrder ∧ Yields (fed incoming outgoing steps) course)
    ((proper_of_none rfl).run steps) (fun _ hmove h => ?_)
    ⟨isInOrder_fed incoming outgoing steps, .of_eq rfl rfl⟩ later).2
  obtain ⟨horder, hyields⟩ := hmove.yields h.1
  exact ⟨horder, h.2.trans hyields⟩

end Fed

/-- Whatever the client does and whenever, and whatever the handler does with the session, also if
it drops it while an event waits for room: what the client has taken from the outgoing lane is the
first of what was put on it, and the rest is on the lane, unless the client has dropped its
receiving end. What was put on it is nothing, or an `accept` and the texts of those `send` that
were answered well, in order, and perhaps a `close`, behind which nothing comes. And from any moment
to any later one only that is put out which goes with an answer given in between, so that an action
that fails or is dropped puts nothing out. -/
theorem posts_in_order (incoming outgoing : Nat) (steps : List (Step ClientAct)) :
    let course := fed incoming outgoing steps
    let feed := course.session.socket
    course.map Feed.channel =
      (start (.ofCapacities incoming outgoing)).run Channel.backend Channel.act steps ∧
    feed.IsConserved ∧
    (feed.posted = [] ∧ sentTexts course.past = [] ∨ feed.posted = greeting course.past ∨
      feed.posted = greeting course.past ++ [.close normalClosure]) ∧
    ∀ later, ∃ entries events,
      (fed incoming outgoing (steps ++ later)).past = course.past ++ entries ∧
      (fed incoming outgoing (steps ++ later)).session.socket.posted = feed.posted ++ events ∧
      events.Sublist (entries.filterMap announced?) ∧
      ((∃ event ∈ feed.posted, event.IsClose) → events = []) := by
  intro course feed
  have horder : course.IsInOrder := isInOrder_fed incoming outgoing steps
  refine ⟨map_fed _ _ _, horder.conserved, horder.speaks.posted_eq, fun later => ?_⟩
  obtain ⟨entries, events, hpast, hposted, hevents⟩ := yields_fed incoming outgoing steps later
  have hlater := (isInOrder_fed incoming outgoing (steps ++ later)).speaks
  rw [hposted] at hlater
  exact ⟨entries, events, hpast, hposted, hevents, hlater.eq_nil_of_isClose⟩

end Course

end Inbound.WebSocket
