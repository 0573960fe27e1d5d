import Inbound.Async.Poll
import Inbound.Text.Quoted

/-!
# Payloads

The payload of a request is a source of chunks that the transport hands over. A pull gives the
next chunk; the empty chunk means that the source is exhausted. Empty chunks within a stream are
skipped, so an empty result is final.
-/

namespace Inbound

/-- What a stream does when it is polled. -/
inductive Payload.Item where
  /-- It gives bytes. -/
  | chunk (bytes : ByteArray)
  /-- It reports a failure, and may go on afterwards. -/
  | failure (text : String)
  /-- It lets so many polls pass without a result. -/
  | stall (polls : Nat)
  /-- It never gives anything again. -/
  | hang

/-- Where chunks come from. -/
inductive Payload.Source where
  /-- A stream that is polled. -/
  | stream (items : List Payload.Item)
  /-- All bytes at once. -/
  | once (bytes : ByteArray)
  /-- Nothing, or nothing any more. -/
  | empty

/-- The payload of a request. -/
structure Payload where
  /-- What has not been pulled yet. -/
  source : Payload.Source
  /-- The end has been reached. -/
  atEof : Bool
  /-- The transport announced a body, be it an empty one. -/
  announced : Bool

namespace Payload

/-- The payload of a request without a body. -/
def empty : Payload := ⟨.empty, true, false⟩

instance : Inhabited Payload := ⟨empty⟩

/-- The payload that a stream delivers. -/
def stream (items : List Item) : Payload := ⟨.stream items, false, true⟩

/-- The payload that is there from the beginning. -/
def once (bytes : ByteArray) : Payload := ⟨.once bytes, bytes.isEmpty, true⟩

/-- The payload after its end. -/
def exhausted (payload : Payload) : Payload :=
  { payload with source := .empty, atEof := true }

/-- What one poll of a stream gives: a chunk that is not empty, a failure, or the end. -/
inductive Pulled where
  | chunk (bytes : ByteArray)
  | failure (text : String)
  | finished

/-- Polls a stream once. Empty chunks and used up stalls are passed over. -/
def pollStream : List Item → Poll Pulled × List Item
  | [] => (.ready .finished, [])
  | .chunk bytes :: rest =>
    if bytes.isEmpty then pollStream rest else (.ready (.chunk bytes), rest)
  | .failure text :: rest => (.ready (.failure text), rest)
  | .stall 0 :: rest => pollStream rest
  | .stall (polls + 1) :: rest => (.pending, .stall polls :: rest)
  | .hang :: rest => (.pending, .hang :: rest)

/-- Pulls the next chunk. -/
def pull (payload : Payload) : Poll (Except String ByteArray) × Payload :=
  match payload.source with
  | .stream items =>
    match pollStream items with
    | (.pending, rest) => (.pending, { payload with source := .stream rest })
    | (.ready (.chunk bytes), rest) =>
      (.ready (.ok bytes), { payload with source := .stream rest })
    | (.ready (.failure text), rest) =>
      (.ready (.error text), { payload with source := .stream rest })
    | (.ready .finished, _) => (.ready (.ok .empty), payload.exhausted)
  | .once bytes => (.ready (.ok bytes), payload.exhausted)
  | .empty => (.ready (.ok .empty), payload.exhausted)

/-- The number of chunks that may still come. -/
def remaining (payload : Payload) : Nat :=
  match payload.source with
  | .stream items => items.length
  | .once _ => 1
  | .empty => 0

theorem pollStream_length_lt {items rest : List Item} {pulled : Pulled}
    (h : pollStream items = (.ready pulled, rest)) (hp : pulled ≠ .finished) :
    rest.length < items.length := by
  fun_induction pollStream items with
  | case1 => simp_all
  | case2 bytes tail _ ih => have := ih h; simp only [List.length_cons]; omega
  | case3 bytes tail _ => simp_all
  | case4 text tail => simp_all
  | case5 tail ih => have := ih h; simp only [List.length_cons]; omega
  | case6 => simp at h
  | case7 => simp at h

/-- A pull that gives bytes leaves fewer chunks behind. -/
theorem remaining_pull_lt {payload rest : Payload} {bytes : ByteArray}
    (h : payload.pull = (.ready (.ok bytes), rest)) (hb : ¬ bytes.isEmpty) :
    rest.remaining < payload.remaining := by
  have he : ByteArray.empty.isEmpty = true := rfl
  unfold pull at h
  split at h
  next items hs =>
    have hr : payload.remaining = items.length := by simp [remaining, hs]
    rw [hr]
    split at h
    · simp at h
    · next got tail hp =>
      have := pollStream_length_lt hp (by simp)
      simp only [Prod.mk.injEq, Poll.ready.injEq, Except.ok.injEq] at h
      rw [← h.2]
      exact this
    · simp at h
    · simp only [Prod.mk.injEq, Poll.ready.injEq, Except.ok.injEq] at h
      rw [← h.1, he] at hb
      simp at hb
  next hs =>
    simp only [Prod.mk.injEq] at h
    rw [← h.2]
    simp [remaining, exhausted, hs]
  next hs =>
    simp only [Prod.mk.injEq, Poll.ready.injEq, Except.ok.injEq] at h
    rw [← h.1, he] at hb
    simp at hb

/-- The payload as a diagnostic shows it. -/
def describe (payload : Payload) : String :=
  "Payload \x7b exists: " ++ Text.showBool payload.announced ++ ", eof: "
    ++ Text.showBool payload.atEof ++ " \x7d"

end Payload

end Inbound
