import Inbound.Body.Basic

/-!
# The bytes of a payload

The bytes that are still to be pulled from a payload are those of its remaining chunks, in order.
A pull splits them: it takes the bytes of the chunk that it gives, if it gives one, and leaves the
others behind.

## Main results

* `Payload.bytes_eq_taken_append`: nothing is lost between a pull and what it leaves behind;
* `Payload.pull_of_isEmpty`: a pull that gives the empty chunk has come to the end.
-/

namespace Inbound

namespace Payload

/-- Bytes are empty exactly if they are the empty bytes. -/
@[simp]
theorem isEmpty_iff (bytes : ByteArray) : bytes.isEmpty = true ↔ bytes = .empty := by
  rw [← ByteArray.size_eq_zero_iff]
  simp [ByteArray.isEmpty]

theorem isEmpty_of_pos {bytes : ByteArray} (h : 0 < bytes.size) : bytes.isEmpty = false := by
  simp only [ByteArray.isEmpty, beq_eq_false_iff_ne]
  omega

@[simp]
theorem isEmpty_append (before after : ByteArray) :
    (before ++ after).isEmpty = (before.isEmpty && after.isEmpty) := by
  rw [Bool.eq_iff_iff, Bool.and_eq_true]
  simp [ByteArray.append_eq_empty_iff]

@[simp]
theorem isEmpty_empty : ByteArray.empty.isEmpty = true := rfl

/-- Bytes are what is taken of them and what is left. -/
theorem extract_append_rest (bytes : ByteArray) (count : Nat) :
    bytes.extract 0 count ++ bytes.extract count bytes.size = bytes := by
  rw [ByteArray.extract_append_extract]
  simp

/-- Nothing can be put in front of bytes without changing them. -/
theorem append_eq_right_iff {before after : ByteArray} :
    before ++ after = after ↔ before = .empty := by
  constructor
  · intro h
    have hsize := congrArg ByteArray.size h
    rw [ByteArray.size_append] at hsize
    exact ByteArray.size_eq_zero_iff.mp (by omega)
  · rintro rfl
    exact ByteArray.empty_append

/-- The bytes that an item brings. -/
def Item.bytes : Item → ByteArray
  | .chunk bytes => bytes
  | _ => .empty

/-- The bytes of all chunks among items, in order. -/
def bytesOf (items : List Item) : ByteArray :=
  items.foldr (fun item rest => item.bytes ++ rest) .empty

@[simp]
theorem bytesOf_nil : bytesOf [] = .empty := rfl

@[simp]
theorem bytesOf_cons (item : Item) (rest : List Item) :
    bytesOf (item :: rest) = item.bytes ++ bytesOf rest := rfl

theorem bytesOf_append (before after : List Item) :
    bytesOf (before ++ after) = bytesOf before ++ bytesOf after := by
  induction before with
  | nil => rw [List.nil_append, bytesOf_nil, ByteArray.empty_append]
  | cons item before ih =>
    rw [List.cons_append, bytesOf_cons, bytesOf_cons, ih, ByteArray.append_assoc]

/-- The items that have not been pulled. Bytes that come all at once are one chunk, or none if
there are none. -/
def items (payload : Payload) : List Item :=
  match payload.source with
  | .stream items => items
  | .once bytes => if bytes.isEmpty then [] else [.chunk bytes]
  | .empty => []

/-- The bytes that have not been pulled. -/
def bytes (payload : Payload) : ByteArray :=
  bytesOf payload.items

@[simp]
theorem bytes_exhausted (payload : Payload) : payload.exhausted.bytes = .empty := rfl

/-- The bytes that a pull takes. -/
def taken {ε : Type} : Poll (Except ε ByteArray) → ByteArray
  | .ready (.ok bytes) => bytes
  | _ => .empty

section Taken

variable {ε : Type}

@[simp]
theorem taken_pending : taken (.pending : Poll (Except ε ByteArray)) = .empty := rfl

@[simp]
theorem taken_ok (bytes : ByteArray) :
    taken (.ready (.ok bytes) : Poll (Except ε ByteArray)) = bytes := rfl

@[simp]
theorem taken_error (error : ε) : taken (.ready (.error error)) = .empty := rfl

end Taken

/-- The bytes that a poll of a stream takes. -/
def Pulled.bytes : Poll Pulled → ByteArray
  | .ready (.chunk bytes) => bytes
  | _ => .empty

/-- A poll of a stream takes the bytes of one chunk at most, and loses none. -/
theorem bytesOf_pollStream (items : List Item) :
    bytesOf items = Pulled.bytes (pollStream items).1 ++ bytesOf (pollStream items).2 := by
  -- The poll passes over empty chunks and stalls that are used up, which have no bytes.
  fun_induction pollStream items with
  | case1 => simp [Pulled.bytes]
  | case2 bytes rest hempty ih =>
    rw [isEmpty_iff] at hempty
    simpa [Item.bytes, hempty] using ih
  | case3 bytes rest _ => simp [Pulled.bytes, Item.bytes]
  | case4 text rest => simp [Pulled.bytes, Item.bytes]
  | case5 rest ih => simpa [Item.bytes] using ih
  | case6 rest polls => simp [Pulled.bytes, Item.bytes]
  | case7 rest => simp [Pulled.bytes, Item.bytes]

/-- A stream that is at its end has no bytes left. -/
theorem bytesOf_of_finished {items rest : List Item}
    (h : pollStream items = (.ready .finished, rest)) : bytesOf items = .empty := by
  have hlost := bytesOf_pollStream items
  -- The end is where there are no items left.
  have hrest : bytesOf rest = .empty := by
    fun_induction pollStream items with
    | case1 => simp_all
    | case2 bytes tail hempty ih =>
      refine ih h ?_
      rw [isEmpty_iff] at hempty
      simpa [Item.bytes, hempty] using hlost
    | case5 tail ih => exact ih h (by simpa [Item.bytes] using hlost)
    | case3 | case4 | case6 | case7 => simp at h
  rw [hlost, h, hrest]
  rfl

/-- The chunks that a stream gives are not empty. -/
theorem not_isEmpty_of_chunk {items rest : List Item} {bytes : ByteArray}
    (h : pollStream items = (.ready (.chunk bytes), rest)) : ¬ bytes.isEmpty = true := by
  fun_induction pollStream items with
  | case2 _ _ _ ih | case5 _ ih => exact ih h
  | case3 chunk tail hchunk => simp_all
  | case1 | case4 | case6 | case7 => simp at h

/-- A payload that streams has the bytes of the stream. -/
theorem bytes_of_stream {payload : Payload} {items : List Item}
    (h : payload.source = .stream items) : payload.bytes = bytesOf items := by
  rw [bytes, Payload.items, h]

/-- A payload that comes all at once has the bytes of its only chunk. -/
theorem bytes_of_once {payload : Payload} {chunk : ByteArray}
    (h : payload.source = .once chunk) : payload.bytes = chunk := by
  rw [bytes, items, h]
  by_cases hchunk : chunk.isEmpty = true
  · simp [(isEmpty_iff chunk).mp hchunk]
  · simp only [hchunk, Bool.false_eq_true, ↓reduceIte, bytesOf_cons, bytesOf_nil, Item.bytes,
      ByteArray.append_empty]

/-- A payload that is empty has no bytes. -/
theorem bytes_of_empty {payload : Payload} (h : payload.source = .empty) :
    payload.bytes = .empty := by
  rw [bytes, items, h]
  rfl

/-- A pull takes the bytes that it gives, and loses none. -/
theorem bytes_eq_taken_append (payload : Payload) :
    payload.bytes = taken payload.pull.1 ++ payload.pull.2.bytes := by
  unfold pull
  -- One case for each source, and for a stream one for each thing that it can give.
  split
  next items hsource =>
    have hlost := bytesOf_pollStream items
    rw [bytes_of_stream hsource]
    split
    next rest hpoll => rw [hpoll] at hlost; exact hlost
    next chunk rest hpoll => rw [hpoll] at hlost; exact hlost
    next text rest hpoll => rw [hpoll] at hlost; exact hlost
    next rest hpoll => simp [bytesOf_of_finished hpoll, taken]
  next chunk hsource => simp [bytes_of_once hsource, taken]
  next hsource => simp [bytes_of_empty hsource, taken]

/-- A pull that gives the empty chunk has come to the end, where nothing is left. -/
theorem pull_of_isEmpty {payload rest : Payload} {chunk : ByteArray}
    (h : payload.pull = (.ready (.ok chunk), rest)) (hchunk : chunk.isEmpty = true) :
    payload.bytes = .empty ∧ rest = payload.exhausted := by
  have hsplit := bytes_eq_taken_append payload
  rw [h, taken, (isEmpty_iff chunk).mp hchunk, ByteArray.empty_append] at hsplit
  -- A stream gives no empty chunk of its own, so this one stands for the end.
  have hrest : rest = payload.exhausted := by
    unfold pull at h
    split at h
    next items hsource =>
      split at h
      next => simp at h
      next got tail hpoll =>
        simp only [Prod.mk.injEq, Poll.ready.injEq, Except.ok.injEq] at h
        exact absurd (h.1 ▸ hchunk) (not_isEmpty_of_chunk hpoll)
      next => simp at h
      next => exact (Prod.mk.inj h).2.symm
    next => exact (Prod.mk.inj h).2.symm
    next => exact (Prod.mk.inj h).2.symm
  exact ⟨by rw [hsplit, hrest, bytes_exhausted], hrest⟩

end Payload

end Inbound
