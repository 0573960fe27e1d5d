import Inbound.Async.Gate
import Inbound.Body.Error
import Inbound.Body.Payload

/-!
# Bodies

The body of a request is drained from its payload once and then kept. Any number of operations
may be in progress on it: a read fills the cache, a release throws away what is left, and a bare
pull takes one chunk.

* One read at a time drains; the others wait for their turn at a gate and find the bytes in the
  cache, or take over if the drain failed or was abandoned.
* Each single chunk is pulled behind a second gate, which all operations pass anew for every
  chunk.
* An operation that pulled bytes and did not put them into the cache spoils the body: a later
  read would miss them, so it fails.
* Whoever polls may be allowed to pass only so many gates in one go, lest they never pause. Where
  that is used up, an operation that comes to a gate is pending.

Each operation in progress is named by a ticket. `woken` collects the tickets of operations that
were waiting and can go on, in the order in which that became so.
-/

namespace Inbound

/-- The body of a request with everything that is going on with it. -/
structure Body where
  /-- How many bytes are too many; zero stands for no limit. -/
  limit : Nat
  /-- Where the chunks come from. -/
  payload : Payload
  /-- The operation that pulls a chunk, and those that wait to pull one. -/
  pulling : Gate
  /-- The read that drains, and those that wait for it. -/
  draining : Gate
  /-- The complete bytes, once a read has succeeded. -/
  cache : Option ByteArray
  /-- Some bytes were pulled and lost. -/
  spoiled : Bool
  /-- The client went away. -/
  cancelled : Bool
  /-- How many gates may still be passed, if that is limited. -/
  passes : Option Nat
  /-- The ticket of the next operation. -/
  nextTicket : Ticket
  /-- The operations that can go on. -/
  woken : List Ticket

namespace Body

/-- The body before the first operation on it. -/
def ofPayload (payload : Payload) (limit : Nat) : Body where
  limit
  payload
  pulling := .idle
  draining := .idle
  cache := none
  spoiled := false
  cancelled := false
  passes := none
  nextTicket := 0
  woken := []

instance : Inhabited Body := ⟨ofPayload .empty 0⟩

/-- A ticket for a new operation. -/
def newTicket (body : Body) : Ticket × Body :=
  (body.nextTicket, { body with nextTicket := body.nextTicket + 1 })

/-- Whether no gate may be passed any more. -/
def isSpent (body : Body) : Bool :=
  body.passes == some 0

/-- A gate is passed. -/
def spend (body : Body) : Body :=
  { body with passes := body.passes.map (· - 1) }

/-- An operation stops pulling, and the next in line may pull. -/
def leavePulling (body : Body) (ticket : Ticket) : Body :=
  { body with
    pulling := body.pulling.leave ticket
    woken := body.woken ++ (body.pulling.successor? ticket).toList }

/-- A read gives up its turn, and the next in line may drain. -/
def leaveDraining (body : Body) (ticket : Ticket) : Body :=
  { body with
    draining := body.draining.leave ticket
    woken := body.woken ++ (body.draining.successor? ticket).toList }

/-- A pull that is stalled, but not for ever, asks to be polled again. -/
def wakeIfStalled (body : Body) (ticket : Ticket) : Body :=
  match body.payload.source with
  | .stream (.hang :: _) => body
  | _ => { body with woken := body.woken ++ [ticket] }

/-- An operation that is inside pulls a chunk. -/
def pullInside (body : Body) (ticket : Ticket) : Poll (Except String ByteArray) × Body :=
  match body.payload.pull with
  | (.pending, payload) => (.pending, { body with payload }.wakeIfStalled ticket)
  | (.ready result, payload) => (.ready result, { body with payload }.leavePulling ticket)

/-- Pulls a chunk regardless of cancellation, once the operation is first in line. -/
def pullAny (body : Body) (ticket : Ticket) : Poll (Except String ByteArray) × Body :=
  if body.pulling.holder = some ticket then body.pullInside ticket
  else if body.isSpent then (.pending, body)
  else
    match body.pulling.enter ticket with
    | (false, pulling) => (.pending, { body with pulling })
    | (true, pulling) => { body with pulling }.spend.pullInside ticket

/-- Pulls a chunk unless the request is cancelled. -/
def pull (body : Body) (ticket : Ticket) : Poll (Except BodyError ByteArray) × Body :=
  if body.isSpent then (.pending, body)
  -- Who may not pass a gate does not even find out that the client is gone.
  else if body.cancelled then (.ready (.error .cancelled), body.leavePulling ticket)
  else
    match body.pullAny ticket with
    | (.pending, body) => (.pending, body)
    | (.ready (.ok bytes), body) => (.ready (.ok bytes), body)
    | (.ready (.error text), body) => (.ready (.error (.failed text)), body)

/-- Notes that an operation ends that may have pulled bytes without keeping them. -/
def spoilIf (body : Body) (consumed : Bool) : Body :=
  { body with spoiled := body.spoiled || consumed }

theorem payload_leavePulling (body : Body) (ticket : Ticket) :
    (body.leavePulling ticket).payload = body.payload := rfl

theorem remaining_pullInside_lt {body rest : Body} {ticket : Ticket} {bytes : ByteArray}
    (h : body.pullInside ticket = (.ready (.ok bytes), rest)) (hb : ¬ bytes.isEmpty) :
    rest.payload.remaining < body.payload.remaining := by
  unfold pullInside at h
  split at h
  · simp at h
  · next hp =>
    simp only [Prod.mk.injEq, Poll.ready.injEq] at h
    rw [← h.2, payload_leavePulling]
    rw [h.1] at hp
    exact Payload.remaining_pull_lt hp hb

theorem remaining_pullAny_lt {body rest : Body} {ticket : Ticket} {bytes : ByteArray}
    (h : body.pullAny ticket = (.ready (.ok bytes), rest)) (hb : ¬ bytes.isEmpty) :
    rest.payload.remaining < body.payload.remaining := by
  unfold pullAny at h
  split at h
  · exact remaining_pullInside_lt h hb
  · split at h
    · simp at h
    · split at h
      · simp at h
      · have hlt := remaining_pullInside_lt h hb
        exact hlt

theorem remaining_pull_lt {body rest : Body} {ticket : Ticket} {bytes : ByteArray}
    (h : body.pull ticket = (.ready (.ok bytes), rest)) (hb : ¬ bytes.isEmpty) :
    rest.payload.remaining < body.payload.remaining := by
  unfold pull at h
  split at h
  · simp at h
  · split at h
    · simp at h
    · split at h
      · simp at h
      · next hp =>
        simp only [Prod.mk.injEq, Poll.ready.injEq, Except.ok.injEq] at h
        rw [h.1, h.2] at hp
        exact remaining_pullAny_lt hp hb
      · simp at h

/-! ### Reading -/

/-- A read in progress. -/
structure Read where
  /-- The read's name at the gates. -/
  ticket : Ticket
  /-- It has had its turn and drains. -/
  started : Bool
  /-- The bytes pulled so far. -/
  got : ByteArray
  /-- Some chunk was not empty. -/
  consumed : Bool

/-- A new read. -/
def beginRead (body : Body) : Read × Body :=
  let (ticket, body) := body.newTicket
  (⟨ticket, false, .empty, false⟩, body)

/-- A drain that fails: what it pulled is lost, and the turn goes to the next read. -/
def failRead (body : Body) (read : Read) (error : BodyError) :
    Poll (Except BodyError ByteArray) × Read × Body :=
  (.ready (.error error), read, (body.spoilIf read.consumed).leaveDraining read.ticket)

/-- A drain that succeeds: the bytes are kept, and all reads that wait can have them. -/
def finishRead (body : Body) (read : Read) : Poll (Except BodyError ByteArray) × Read × Body :=
  (.ready (.ok read.got), read,
    { body with
      cache := some read.got
      draining := .idle
      woken := body.woken ++ body.draining.queue })

/-- Whether so many bytes are too many. -/
def exceeds (body : Body) (size : Nat) : Bool :=
  body.limit != 0 && body.limit ≤ size

/-- Pulls chunks until the end, a failure, the limit, or a stall. -/
def drain (body : Body) (read : Read) : Poll (Except BodyError ByteArray) × Read × Body :=
  match _h : body.pull read.ticket with
  | (.pending, body) => (.pending, read, body)
  | (.ready (.error error), body) => body.failRead read error
  | (.ready (.ok chunk), rest) =>
    let read := { read with
      got := read.got ++ chunk
      consumed := read.consumed || !chunk.isEmpty }
    -- To reach the limit is too much already, even if nothing more were to come.
    if rest.exceeds read.got.size then
      rest.failRead read (.tooLarge rest.limit read.got.size)
    -- An empty chunk is the end.
    else if _hc : chunk.isEmpty then rest.finishRead read
    else rest.drain read
termination_by body.payload.remaining
decreasing_by exact remaining_pull_lt _h _hc

/-- Polls a read: the cache answers first, then the read whose turn it is drains. -/
def pollRead (body : Body) (read : Read) : Poll (Except BodyError ByteArray) × Read × Body :=
  match body.cache with
  | some bytes => (.ready (.ok bytes), read, body)
  | none =>
    if read.started then body.drain read
    else if body.isSpent then (.pending, read, body)
    else
      match body.draining.enter read.ticket with
      | (false, draining) => (.pending, read, { body with draining })
      | (true, draining) =>
        let body := { body with draining }.spend
        -- Where bytes are missing, the turn is taken even so, and given up at once.
        if body.spoiled then body.failRead read .consumed
        else body.drain { read with started := true }

/-- Abandons a read. -/
def abandonRead (body : Body) (read : Read) : Body :=
  ((body.leavePulling read.ticket).spoilIf read.consumed).leaveDraining read.ticket

/-! ### Releasing -/

/-- A release in progress. -/
structure Release where
  /-- The release's name at the gate. -/
  ticket : Ticket
  /-- It is in the middle of a pull. -/
  waiting : Bool
  /-- Some chunk was not empty. -/
  consumed : Bool

/-- A new release. -/
def beginRelease (body : Body) : Release × Body :=
  let (ticket, body) := body.newTicket
  (⟨ticket, false, false⟩, body)

/-- Throws away chunks until the end, a failure or a stall. -/
def discard (body : Body) (release : Release) : Poll (Except BodyError Unit) × Release × Body :=
  match _h : body.pull release.ticket with
  | (.pending, body) => (.pending, { release with waiting := true }, body)
  | (.ready (.error error), body) =>
    (.ready (.error error), release, body.spoilIf release.consumed)
  | (.ready (.ok chunk), rest) =>
    let release := { release with consumed := release.consumed || !chunk.isEmpty }
    if _hc : chunk.isEmpty then (.ready (.ok ()), release, rest.spoilIf release.consumed)
    -- A payload that knows that it is at its end is not asked for the empty chunk.
    else if rest.payload.atEof then (.ready (.ok ()), release, rest.spoilIf release.consumed)
    else rest.discard release
termination_by body.payload.remaining
decreasing_by exact remaining_pull_lt _h _hc

/-- Polls a release. -/
def pollRelease (body : Body) (release : Release) :
    Poll (Except BodyError Unit) × Release × Body :=
  -- In the middle of a pull there is a place at the gate to give back, so it goes on even at the
  -- end.
  if body.payload.atEof && !release.waiting then
    (.ready (.ok ()), release, body)
  else body.discard release

/-- Abandons a release. -/
def abandonRelease (body : Body) (release : Release) : Body :=
  (body.leavePulling release.ticket).spoilIf release.consumed

/-! ### Cancelling -/

/-- The client goes away; everything that waits for a chunk can go on. -/
def cancel (body : Body) : Body :=
  { body with
    cancelled := true
    woken := body.woken ++ body.pulling.holder.toList ++ body.pulling.queue }

/-- The operations that can go on, which from now on count as told. -/
def takeWoken (body : Body) : List Ticket × Body :=
  (body.woken, { body with woken := [] })

/-- Whether there may be something left to pull. -/
def canRead (body : Body) : Bool :=
  !body.payload.atEof

end Body

end Inbound
