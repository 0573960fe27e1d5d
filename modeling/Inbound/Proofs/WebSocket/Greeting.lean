import Mathlib
import Inbound.WebSocket.Stream
import Inbound.Proofs.Body.Payload

/-!
# How the handshake is read

The head of a handshake is read in pieces, and after each of them the reader decides from what it
has whether to wait. What it makes of a beginning it makes of all that begins so: it gives nothing
up that could still become right, and it accepts nothing early. A head that is right is therefore
waited for up to its last byte, in however many pieces it is read.

## Main results

* `Reading.IsSteady.bind`: steady readers one behind the other are steady;
* `Handshake.isSteady_readHead`: the reader of a head is steady;
* `Stream.pollGreeting_of_opens`: a head that is right, and nothing else, is answered;
* `Stream.exists_pollGreeting_of_rest`: the rest of it is awaited.
-/

namespace Inbound.WebSocket

namespace Reading

variable {α β : Type}

/-- The same of the beginning of a longer text. -/
def extend (reading : Reading α) (later : List UInt8) : Reading α :=
  match reading with
  | .more => .more
  | .bad => .bad
  | .got value rest => .got value (rest ++ later)

/-- What a reader has made of a beginning, it makes of the longer text. -/
def Settles (reading : Reading α) (later : List UInt8) (reading' : Reading α) : Prop :=
  reading = .more ∨ reading' = reading.extend later

theorem Settles.bind {reading reading' : Reading α} {next next' : α → List UInt8 → Reading β}
    {later : List UInt8} (h : reading.Settles later reading')
    (hnext : ∀ value rest, reading = .got value rest →
      (next value rest).Settles later (next' value (rest ++ later))) :
    (reading.bind next).Settles later (reading'.bind next') := by
  rcases h with rfl | rfl
  · exact .inl rfl
  · cases reading with
    | more => exact .inl rfl
    | bad => exact .inr rfl
    | got value rest => exact hnext value rest rfl

/-- What a reader makes of a beginning, it makes of everything that begins so. -/
def IsSteady (read : List UInt8 → Reading α) : Prop :=
  ∀ bytes later, (read bytes).Settles later (read (bytes ++ later))

/-- What is read is not empty. -/
def Consumes (read : List UInt8 → Reading α) : Prop :=
  ∀ bytes value rest, read bytes = .got value rest → rest.length < bytes.length

theorem isSteady_bad : IsSteady fun _ => (.bad : Reading α) := fun _ _ => .inr rfl

theorem IsSteady.bind {read : List UInt8 → Reading α} {next : α → List UInt8 → Reading β}
    (hread : IsSteady read) (hnext : ∀ value, IsSteady (next value)) :
    IsSteady fun bytes => (read bytes).bind next :=
  fun bytes later => (hread bytes later).bind fun value rest _ => hnext value rest later

/-- Nothing short of the whole is enough. -/
theorem IsSteady.eq_more {read : List UInt8 → Reading α} (h : IsSteady read)
    {bytes later : List UInt8} {value : α} (hlater : later ≠ [])
    (hread : read (bytes ++ later) = .got value []) : read bytes = .more := by
  refine (h bytes later).resolve_right fun hextend => ?_
  rw [hread] at hextend
  cases hbytes : read bytes with
  | more | bad => simp [hbytes, extend] at hextend
  | got value' rest => simp [hbytes, extend, hlater] at hextend

end Reading

namespace Handshake

open Reading

/-! ### The parts of a head -/

theorem isSteady_readNewline : IsSteady readNewline := by
  intro bytes later
  fun_cases readNewline bytes with
  | case1 | case3 => exact .inl rfl
  | case2 | case4 => exact .inr rfl
  | case5 _ hnil hfeed hreturn hboth =>
    -- A single byte that begins no newline is as bad as two.
    right
    rcases bytes with - | ⟨b, - | ⟨c, rest⟩⟩
    · exact absurd rfl hnil
    all_goals
      rw [List.cons_append, readNewline.eq_5]
      all_goals simp_all [extend]

theorem isSteady_skipBlankLines : IsSteady skipBlankLines := by
  intro bytes later
  fun_induction skipBlankLines bytes with
  | case1 | case3 => exact .inl rfl
  | case2 rest ih | case4 rest ih => exact ih
  | case5 rest hnil hfeed =>
    right
    rcases rest with - | ⟨c, rest⟩
    · exact absurd rfl hnil
    · exact skipBlankLines.eq_5 _ (by simp) (by simpa using hfeed)
  | case6 bytes hnil hfeed _ _ hreturn =>
    right
    rcases bytes with - | ⟨b, rest⟩
    · exact absurd rfl hnil
    · rw [List.cons_append, skipBlankLines.eq_6]
      all_goals simp_all [extend]

/-- Where a word ends does not depend on what follows the byte behind it. -/
theorem takeWhile_append_of_dropWhile {allowed : UInt8 → Bool} {bytes : List UInt8}
    (later : List UInt8) (h : bytes.dropWhile allowed ≠ []) :
    (bytes ++ later).takeWhile allowed = bytes.takeWhile allowed ∧
      (bytes ++ later).dropWhile allowed = bytes.dropWhile allowed ++ later := by
  have hlength := congrArg List.length (List.takeWhile_append_dropWhile (p := allowed) (l := bytes))
  have hpos := List.length_pos_iff.mpr h
  rw [List.length_append] at hlength
  rw [List.takeWhile_append, List.dropWhile_append, if_neg (by omega), if_neg (by simpa using h)]
  exact ⟨rfl, rfl⟩

theorem length_dropWhile_le (allowed : UInt8 → Bool) (bytes : List UInt8) :
    (bytes.dropWhile allowed).length ≤ bytes.length :=
  (List.dropWhile_suffix allowed).length_le

section Words

variable (stop : UInt8) (allowed : UInt8 → Bool)

theorem isSteady_readUntil : IsSteady (readUntil stop allowed) := by
  intro bytes later
  rcases hdrop : bytes.dropWhile allowed with - | ⟨b, rest⟩
  · exact .inl (by simp only [readUntil, hdrop])
  · have hword := takeWhile_append_of_dropWhile later (by simp [hdrop] :
      bytes.dropWhile allowed ≠ [])
    right
    simp only [readUntil, hword, hdrop, List.cons_append]
    split <;> rfl

theorem consumes_readUntil : Consumes (readUntil stop allowed) := by
  intro bytes word rest h
  have hlength := length_dropWhile_le allowed bytes
  simp only [readUntil] at h
  rcases hdrop : bytes.dropWhile allowed with - | ⟨b, behind⟩
  · simp only [hdrop, reduceCtorEq] at h
  · simp only [hdrop] at h
    split at h <;> cases h
    rw [hdrop, List.length_cons] at hlength
    omega

end Words

theorem isSteady_readExactly (text : List UInt8) : IsSteady (readExactly text) := by
  intro bytes later
  induction text generalizing bytes with
  | nil => exact .inr rfl
  | cons expected text ih =>
    rcases bytes with - | ⟨b, rest⟩
    · exact .inl rfl
    · simp only [readExactly, List.cons_append]
      split
      · exact ih rest
      · exact .inr rfl

theorem isSteady_readVersion : IsSteady readVersion := by
  refine (isSteady_readExactly _).bind fun _ bytes later => ?_
  split
  · exact .inl rfl
  · exact .inr rfl
  · exact .inr rfl
  · rename_i hnil hzero hone
    right
    rcases bytes with - | ⟨b, rest⟩
    · exact absurd rfl hnil
    · split <;> simp_all [extend]

theorem consumes_readNewline : Consumes readNewline := by
  intro bytes value rest h
  fun_cases readNewline bytes <;> simp only [readNewline, Reading.got.injEq, reduceCtorEq] at h
  all_goals
    obtain ⟨-, rfl⟩ := h
    simp only [List.length_cons]
    omega

theorem isSteady_readValue : IsSteady readValue := by
  intro bytes later
  rcases hdrop : (bytes.dropWhile isBlankByte).dropWhile Http.Fields.isValueByte with - | ⟨b, rest⟩
  · exact .inl (by simp only [readValue, hdrop, readNewline, Reading.bind])
  have hvalue : (bytes.dropWhile isBlankByte).dropWhile Http.Fields.isValueByte ≠ [] := by
    simp [hdrop]
  have hline : bytes.dropWhile isBlankByte ≠ [] := by
    intro hnil
    simp [hnil] at hvalue
  have hboth := takeWhile_append_of_dropWhile later hvalue
  simp only [readValue, (takeWhile_append_of_dropWhile later hline).2, hboth]
  exact (isSteady_readNewline _ later).bind fun _ _ _ => .inr rfl

theorem consumes_readValue : Consumes readValue := by
  intro bytes value rest h
  have hline := length_dropWhile_le isBlankByte bytes
  have hvalue := length_dropWhile_le Http.Fields.isValueByte (bytes.dropWhile isBlankByte)
  simp only [readValue] at h
  cases hend : readNewline ((bytes.dropWhile isBlankByte).dropWhile Http.Fields.isValueByte) with
  | more | bad => simp [hend, Reading.bind] at h
  | got value' rest' =>
    have hrest := consumes_readNewline _ _ _ hend
    simp only [hend, Reading.bind, Reading.got.injEq] at h
    rw [← h.2]
    omega

/-! ### The head -/

/-- Fields are read steadily with as much fuel as there are bytes. -/
theorem readFields_settles {fuel fuel' room : Nat} {bytes later : List UInt8}
    (hfuel : bytes.length < fuel) (hfuel' : (bytes ++ later).length < fuel') :
    (readFields fuel room bytes).Settles later (readFields fuel' room (bytes ++ later)) := by
  -- By induction on the fuel, of which each field uses less than it has bytes.
  induction fuel generalizing fuel' room bytes with
  | zero => omega
  | succ fuel ih =>
    rcases bytes with - | ⟨b, rest⟩
    · exact .inl rfl
    obtain ⟨fuel', rfl⟩ : ∃ more, fuel' = more + 1 := ⟨fuel' - 1, by omega⟩
    simp only [readFields, List.cons_append]
    split
    · exact (isSteady_readNewline (b :: rest) later).bind fun _ _ _ => .inr rfl
    · refine (isSteady_readUntil 58 Http.isTokenByte (b :: rest) later).bind
        fun name behind hname => ?_
      refine (isSteady_readValue behind later).bind fun value behind' hvalue => ?_
      cases room with
      | zero => exact .inr rfl
      | succ room =>
        have hname := consumes_readUntil _ _ _ _ _ hname
        have hvalue := consumes_readValue _ _ _ hvalue
        simp only [List.length_append, List.length_cons] at hfuel hfuel' hname
        exact (ih (by omega) (by rw [List.length_append]; omega)).bind fun _ _ _ => .inr rfl

theorem isSteady_readHead : IsSteady readHead := by
  refine isSteady_skipBlankLines.bind fun _ => ?_
  refine (isSteady_readUntil 32 _).bind fun method => ?_
  refine (isSteady_readUntil 32 _).bind fun target => ?_
  by_cases htarget : (Text.decodeUtf8? ⟨target.toArray⟩).isNone = true
  · simp only [htarget, if_true]
    exact isSteady_bad
  simp only [htarget]
  refine isSteady_readVersion.bind fun minor => ?_
  refine isSteady_readNewline.bind fun _ bytes later => ?_
  exact (readFields_settles (Nat.lt_succ_self _) (Nat.lt_succ_self _)).bind fun _ _ _ => .inr rfl

/-! ### Heads that are right -/

/-- These bytes are the head of a handshake with this key, and nothing else. -/
structure Opens (head key : ByteArray) : Prop where
  reads : ∃ fields, readHead head.data.toList = .got fields [] ∧ key? fields = some key
  size_le : head.size ≤ maxReceived

instance (head key : ByteArray) : Decidable (Opens head key) :=
  match hread : readHead head.data.toList with
  | .got fields [] =>
    decidable_of_iff (key? fields = some key ∧ head.size ≤ maxReceived)
      ⟨fun h => ⟨⟨fields, hread, h.1⟩, h.2⟩, fun h => by
        obtain ⟨⟨fields', hread', hkey⟩, hsize⟩ := h
        cases hread.symm.trans hread'
        exact ⟨hkey, hsize⟩⟩
  | .got _ (_ :: _) | .more | .bad =>
    .isFalse fun h => by
      obtain ⟨⟨fields, hread', -⟩, -⟩ := h
      cases hread.symm.trans hread'

/-- There is no empty head. -/
theorem Opens.size_pos {head key : ByteArray} (h : Opens head key) : 0 < head.size := by
  obtain ⟨⟨fields, hread, -⟩, -⟩ := h
  refine Nat.pos_of_ne_zero fun hsize => ?_
  rw [ByteArray.size_eq_zero_iff.mp hsize] at hread
  cases hread

section Feeding

variable {head key piece rest : ByteArray} {progress : Progress} (hopens : Opens head key)
  (hhead : progress.received ++ piece ++ rest = head) (hpieces : progress.pieces < 64)

include hopens hhead hpieces

theorem not_isSuspect :
    Progress.isSuspect ⟨progress.received ++ piece, progress.pieces + 1⟩ = false := by
  have hsize := hopens.size_le
  rw [← hhead, ByteArray.size_append, maxReceived] at hsize
  rw [ByteArray.size_append] at hsize
  have hlong : ¬ progress.received.size + piece.size > 65536 := by omega
  have hmany : ¬ progress.pieces + 1 > 512 := by omega
  have hsmall : ¬ progress.pieces + 1 > 64 := by omega
  simp [Progress.isSuspect, maxReceived, maxPieces, hlong, hmany, hsmall]

/-- As long as something is missing, it is waited for. -/
theorem feed_of_rest (hpiece : 0 < piece.size) (hrest : 0 < rest.size) :
    progress.feed piece = .waiting ⟨progress.received ++ piece, progress.pieces + 1⟩ := by
  obtain ⟨fields, hread, -⟩ := hopens.reads
  have hlater : rest.data.toList ≠ [] := by
    rw [← List.length_pos_iff, Array.length_toList, ByteArray.size_data]
    exact hrest
  rw [← hhead, ByteArray.toList_data_append] at hread
  simp only [Progress.feed, Payload.isEmpty_of_pos hpiece, not_isSuspect hopens hhead hpieces,
    Bool.or_self, Bool.false_eq_true, if_false, isSteady_readHead.eq_more hlater hread]

/-- The last piece is answered. -/
theorem feed_of_no_rest (hpiece : 0 < piece.size) (hrest : rest = .empty) :
    progress.feed piece = .respond (response key) := by
  obtain ⟨fields, hread, hkey⟩ := hopens.reads
  rw [← hhead, hrest, ByteArray.append_empty] at hread
  simp only [Progress.feed, Payload.isEmpty_of_pos hpiece, not_isSuspect hopens hhead hpieces,
    Bool.or_self, Bool.false_eq_true, if_false, hread, hkey]

end Feeding

end Handshake

namespace Stream

open Handshake

variable {head key rest : ByteArray} {stream : Stream} {progress : Progress} {pieces : Nat}

/-- The socket after all that has arrived was read. -/
def emptied (stream : Stream) : Stream :=
  { stream with duplex := { stream.duplex with
      toServer := { stream.duplex.toServer with buffer := .empty } } }

/-- A head that is right, and behind which there is nothing, is read to its end and answered. -/
theorem pollGreeting_of_opens (hopens : Opens head key)
    (hhead : progress.received ++ stream.duplex.toServer.buffer = head)
    (hsome : 0 < stream.duplex.toServer.buffer.size)
    (hfew : progress.pieces + stream.duplex.toServer.buffer.size / greetingSize < 64)
    (hpieces : stream.duplex.toServer.buffer.size / greetingSize < pieces) :
    stream.pollGreeting progress pieces = pollResponding stream.emptied (response key) := by
  -- By induction on the pieces, all of which but the last are of full size.
  induction pieces generalizing stream progress with
  | zero => exact absurd hpieces (Nat.not_lt_zero _)
  | succ pieces ih =>
    obtain ⟨⟨⟨buffer, closed⟩, toClient, hasClient⟩, started, messages⟩ := stream
    simp only [greetingSize] at hhead hsome hfew hpieces
    have hpiece : 0 < (buffer.extract 0 4096).size := by
      rw [ByteArray.size_extract]
      omega
    have hhead' : progress.received ++ buffer.extract 0 4096 ++ buffer.extract 4096 buffer.size =
        head := by
      rw [ByteArray.append_assoc, Payload.extract_append_rest, hhead]
    simp only [pollGreeting, Duplex.serverRead, Pipe.read, greetingSize,
      Payload.isEmpty_of_pos hsome, if_false, Bool.false_eq_true]
    by_cases hlast : buffer.size ≤ 4096
    · have hrest : buffer.extract 4096 buffer.size = .empty := by
        rw [ByteArray.extract_eq_empty_iff]
        omega
      simp only [feed_of_no_rest hopens hhead' (by omega) hpiece hrest, hrest, emptied]
    · have hrest : 0 < (buffer.extract 4096 buffer.size).size := by
        rw [ByteArray.size_extract]
        omega
      simp only [feed_of_rest hopens hhead' (by omega) hpiece hrest]
      rw [@ih
        ⟨⟨⟨buffer.extract 4096 buffer.size, closed⟩, toClient, hasClient⟩, started, messages⟩
        ⟨progress.received ++ buffer.extract 0 4096, progress.pieces + 1⟩ hhead' hrest
        (by simp only [ByteArray.size_extract, greetingSize]; omega)
        (by simp only [ByteArray.size_extract, greetingSize]; omega)]
      simp only [emptied]

/-- Where nothing has arrived, there is nothing to do. -/
theorem pollGreeting_of_empty (h : stream.duplex.toServer = ⟨.empty, false⟩) :
    stream.pollGreeting progress pieces = (.pending, .greeting progress, stream) := by
  obtain ⟨⟨toServer, toClient, hasClient⟩, started, messages⟩ := stream
  cases h
  cases pieces <;> rfl

/-- As long as a part of it is missing, what has arrived of it is read, and the rest is awaited. -/
theorem exists_pollGreeting_of_rest (hopens : Opens head key)
    (hhead : progress.received ++ stream.duplex.toServer.buffer ++ rest = head)
    (hrest : 0 < rest.size) (hclosed : stream.duplex.toServer.closed = false)
    (hfew : progress.pieces + stream.duplex.toServer.buffer.size / greetingSize < 64)
    (hpieces : stream.duplex.toServer.buffer.size / greetingSize < pieces) :
    ∃ count, count ≤ progress.pieces + stream.duplex.toServer.buffer.size / greetingSize + 1 ∧
      stream.pollGreeting progress pieces = (.pending,
        .greeting ⟨progress.received ++ stream.duplex.toServer.buffer, count⟩, stream.emptied) := by
  -- By induction on the pieces, of which only the last may be short.
  induction pieces generalizing stream progress with
  | zero => exact absurd hpieces (Nat.not_lt_zero _)
  | succ pieces ih =>
    obtain ⟨⟨⟨buffer, closed⟩, toClient, hasClient⟩, started, messages⟩ := stream
    simp only [greetingSize] at hhead hclosed hfew hpieces
    subst hclosed
    by_cases hnone : buffer.size = 0
    · cases ByteArray.size_eq_zero_iff.mp hnone
      refine ⟨progress.pieces, Nat.le_succ_of_le (Nat.le_add_right _ _), ?_⟩
      rw [pollGreeting_of_empty rfl, ByteArray.append_empty]
      rfl
    have hpiece : 0 < (buffer.extract 0 4096).size := by
      rw [ByteArray.size_extract]
      omega
    have hhead' : progress.received ++ buffer.extract 0 4096 ++
        (buffer.extract 4096 buffer.size ++ rest) = head := by
      rw [← ByteArray.append_assoc, ← hhead]
      congr 1
      rw [ByteArray.append_assoc, Payload.extract_append_rest]
    have hmore : 0 < (buffer.extract 4096 buffer.size ++ rest).size := by
      rw [ByteArray.size_append]
      omega
    simp only [pollGreeting, Duplex.serverRead, Pipe.read, greetingSize,
      Payload.isEmpty_of_pos (Nat.pos_of_ne_zero hnone), if_false, Bool.false_eq_true]
    simp only [feed_of_rest hopens hhead' (by omega) hpiece hmore]
    rw [← ByteArray.append_assoc] at hhead'
    by_cases hlast : buffer.size < 4096
    · have hbehind : buffer.extract 4096 buffer.size = .empty := by
        rw [ByteArray.extract_eq_empty_iff]
        omega
      have hwhole := Payload.extract_append_rest buffer 4096
      rw [hbehind, ByteArray.append_empty] at hwhole
      refine ⟨progress.pieces + 1, by omega, ?_⟩
      rw [hbehind, hwhole, pollGreeting_of_empty rfl]
      rfl
    · obtain ⟨count, hcount, hpoll⟩ := @ih
        ⟨⟨⟨buffer.extract 4096 buffer.size, false⟩, toClient, hasClient⟩, started, messages⟩
        ⟨progress.received ++ buffer.extract 0 4096, progress.pieces + 1⟩ hhead' rfl
        (by simp only [ByteArray.size_extract, greetingSize]; omega)
        (by simp only [ByteArray.size_extract, greetingSize]; omega)
      simp only [ByteArray.size_extract, greetingSize] at hcount
      refine ⟨count, by omega, ?_⟩
      rw [hpoll]
      simp only [emptied, ByteArray.append_assoc, Payload.extract_append_rest]

end Stream

end Inbound.WebSocket
