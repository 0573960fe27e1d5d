import Mathlib
import Inbound.Charset
import Inbound.Proofs.Text.WellFormed

/-!
# Reading and writing in a character set

A body is read in a character set, and nothing in the library writes one. What a text would be
written as is said here, for each character set in its own terms: a text in UTF-8 is its encoding,
and in the other two each character is the byte of its code point, as far as there is one.

## Main results

* `decode?_eq_some_iff`: what is read from bytes is what is written as these bytes;
* `isSome_decode?_ascii_iff`, `decode?_ascii`: which bytes are ASCII, and that these are read alike
  in all three;
* `toNat_readBytewise`: in ISO-8859-1 a byte is the code point of a character.
-/

namespace Inbound

namespace Charset

/-! ### Writing -/

/-- The text as one byte for each character, if all their code points are less than `limit`. -/
def writeBytewise? (limit : ℕ) (text : String) : Option ByteArray :=
  if ∀ c ∈ text.toList, c.toNat < limit then
    some (text.toList.map fun c => UInt8.ofNat c.toNat).toByteArray
  else none

/-- The bytes that a text is written as, if all its characters can be. -/
def encode? : Charset → String → Option ByteArray
  | .utf8, text => some text.toUTF8
  | .ascii, text => writeBytewise? 0x80 text
  | .latin1, text => writeBytewise? 0x100 text

/-! ### Byte by byte -/

variable {bytes : ByteArray} {text : String}

/-- The loop goes through the bytes from where it starts. -/
theorem foldlM_loop_eq {β : Type} (f : β → UInt8 → β) (bytes : ByteArray)
    (h : bytes.size ≤ bytes.size) (left start : ℕ) (acc : β) (hleft : start + left = bytes.size) :
    ByteArray.foldlM.loop (m := Id) (fun acc b => pure (f acc b)) bytes bytes.size h left start acc
      = (bytes.data.toList.drop start).foldl f acc := by
  induction left generalizing start acc with
  | zero =>
    rw [ByteArray.foldlM.loop, dif_neg (by omega), List.drop_of_length_le]
    · rfl
    · simpa using Nat.le_of_eq hleft.symm
  | succ left ih =>
    have hstart : start < bytes.size := by omega
    rw [ByteArray.foldlM.loop, dif_pos hstart, List.drop_eq_getElem_cons (by simpa using hstart)]
    exact ih (start + 1) (f acc bytes[start]) (by omega)

theorem foldl_eq_foldl_toList {β : Type} (f : β → UInt8 → β) (acc : β) (bytes : ByteArray) :
    bytes.foldl f acc = bytes.data.toList.foldl f acc := by
  rw [ByteArray.foldl, ByteArray.foldlM, dif_pos le_rfl, Id.run]
  exact foldlM_loop_eq f bytes le_rfl _ 0 acc (Nat.zero_add _)

theorem toNat_ofNat (b : UInt8) : (Char.ofNat b.toNat).toNat = b.toNat := by
  have := b.toNat_lt
  have valid : b.toNat.isValidChar := .inl (by omega)
  rw [Char.toNat_ofNat, if_pos valid]

theorem toList_readBytewise (bytes : ByteArray) :
    (readBytewise bytes).toList = bytes.data.toList.map fun b => Char.ofNat b.toNat := by
  have pushed (list : List UInt8) (read : String) :
      (list.foldl (fun text b => text.push (Char.ofNat b.toNat)) read).toList =
        read.toList ++ list.map fun b => Char.ofNat b.toNat := by
    induction list generalizing read with
    | nil => simp
    | cons b list ih => simp [ih]
  rw [readBytewise, foldl_eq_foldl_toList, pushed]
  rfl

/-- Each byte is the code point of a character. -/
theorem toNat_readBytewise (bytes : ByteArray) :
    (readBytewise bytes).toList.map Char.toNat = bytes.data.toList.map UInt8.toNat := by
  rw [toList_readBytewise, List.map_map]
  exact List.map_congr_left fun b _ => toNat_ofNat b

/-- The loop that looks for another byte sees all of them. -/
theorem isAscii_iff : isAscii bytes = true ↔ ∀ b ∈ bytes.data.toList, b.toNat < 0x80 := by
  have folded (list : List UInt8) (all : Bool) :
      list.foldl (fun all b => all && b < 0x80) all = (all && list.all (· < 0x80)) := by
    induction list generalizing all with
    | nil => simp
    | cons b list ih => simp [ih, Bool.and_assoc]
  rw [isAscii, foldl_eq_foldl_toList, folded, Bool.true_and, List.all_eq_true]
  simp only [decide_eq_true_eq, UInt8.lt_iff_toNat_lt, UInt8.reduceToNat]

theorem writeBytewise?_eq_some_iff {limit : ℕ} (h : limit ≤ 0x100) :
    writeBytewise? limit text = some bytes ↔
      readBytewise bytes = text ∧ ∀ b ∈ bytes.data.toList, b.toNat < limit := by
  unfold writeBytewise?
  constructor
  -- A code point below the limit is a byte, so it is the same on the way there and back.
  · intro written
    split at written
    case isFalse => cases written
    case isTrue small =>
      cases written
      have code : ∀ c ∈ text.toList, (UInt8.ofNat c.toNat).toNat = c.toNat := by
        intro c hc
        have := small c hc
        rw [UInt8.toNat_ofNat', Nat.mod_eq_of_lt (by omega)]
      rw [← String.toList_inj, toList_readBytewise, List.toList_data_toByteArray, List.map_map]
      constructor
      · refine (List.map_congr_left fun c hc => ?_).trans (List.map_id _)
        rw [Function.comp_apply, code c hc, Char.ofNat_toNat, id]
      · intro b hb
        obtain ⟨c, hc, rfl⟩ := List.mem_map.1 hb
        rw [code c hc]
        exact small c hc
  · rintro ⟨rfl, small⟩
    have code : ((readBytewise bytes).toList.map fun c => UInt8.ofNat c.toNat) =
        bytes.data.toList := by
      rw [toList_readBytewise, List.map_map]
      refine (List.map_congr_left fun b _ => ?_).trans (List.map_id _)
      rw [Function.comp_apply, toNat_ofNat, UInt8.ofNat_toNat, id]
    rw [if_pos, code]
    · exact congrArg some (ByteArray.ext (by rw [List.data_toByteArray, Array.toArray_toList]))
    · intro c hc
      rw [toList_readBytewise] at hc
      obtain ⟨b, hb, rfl⟩ := List.mem_map.1 hc
      rw [toNat_ofNat]
      exact small b hb

/-- One byte at a time and as UTF-8, ASCII is written alike. -/
theorem toUTF8_readBytewise (h : ∀ b ∈ bytes.data.toList, b.toNat < 0x80) :
    (readBytewise bytes).toUTF8 = bytes := by
  have alone : ∀ b ∈ bytes.data.toList, String.utf8EncodeChar (Char.ofNat b.toNat) = [b] := by
    intro b hb
    have val : (Char.ofNat b.toNat).val.toNat = b.toNat := toNat_ofNat b
    have := h b hb
    simp only [String.utf8EncodeChar, val]
    rw [if_pos (by omega), UInt8.ofNat_toNat]
  have written : (readBytewise bytes).toList.flatMap String.utf8EncodeChar = bytes.data.toList := by
    rw [toList_readBytewise, List.flatMap_map, List.flatMap_congr alone, List.flatMap_singleton']
  rw [String.toUTF8_eq_toByteArray, ← String.utf8Encode_toList, List.utf8Encode, written]
  exact ByteArray.ext (by rw [List.data_toByteArray, Array.toArray_toList])

/-! ### Reading -/

/-- Bytes that are ASCII are read one by one, although they are read as UTF-8. -/
theorem decode?_ascii (bytes : ByteArray) :
    ascii.decode? bytes =
      if ∀ b ∈ bytes.data.toList, b.toNat < 0x80 then some (readBytewise bytes) else none := by
  rw [decode?]
  by_cases small : ∀ b ∈ bytes.data.toList, b.toNat < 0x80
  · rw [if_pos (isAscii_iff.2 small), if_pos small, Text.decodeUtf8?_eq_some_iff]
    exact toUTF8_readBytewise small
  · rw [if_neg (mt isAscii_iff.1 small), if_neg small]

/-- What is read from bytes is what is written as these bytes. -/
theorem decode?_eq_some_iff (charset : Charset) :
    charset.decode? bytes = some text ↔ charset.encode? text = some bytes := by
  cases charset with
  | utf8 => rw [decode?, encode?, Text.decodeUtf8?_eq_some_iff, Option.some_inj]
  | ascii =>
    rw [decode?_ascii, encode?, writeBytewise?_eq_some_iff (by decide),
      Option.ite_none_right_eq_some, Option.some_inj, and_comm]
  | latin1 =>
    have fits : ∀ b ∈ bytes.data.toList, b.toNat < 0x100 := fun b _ => b.toNat_lt
    rw [decode?, encode?, writeBytewise?_eq_some_iff le_rfl, Option.some_inj]
    exact (and_iff_left fits).symm

/-- No text is read from two different bodies. -/
theorem eq_of_decode?_eq_some {charset : Charset} {other : ByteArray}
    (h : charset.decode? bytes = some text) (hother : charset.decode? other = some text) :
    other = bytes := by
  rw [decode?_eq_some_iff] at h hother
  exact Option.some_inj.1 (hother.symm.trans h)

/-- Bytes are read without loss, and only those that are valid are read. -/
theorem decode?_lossless (bytes : ByteArray) :
    (∀ text, utf8.decode? bytes = some text ↔ text.toUTF8 = bytes) ∧
      ((utf8.decode? bytes).isSome ↔ Text.isWellFormed bytes.data.toList) ∧
      ((ascii.decode? bytes).isSome ↔ ∀ b ∈ bytes.data.toList, b.toNat < 0x80) ∧
      (∀ text, ascii.decode? bytes = some text →
        utf8.decode? bytes = some text ∧ latin1.decode? bytes = some text) ∧
      (∃ text, latin1.decode? bytes = some text ∧
        text.toList.map Char.toNat = bytes.data.toList.map UInt8.toNat) ∧
      (∀ other, latin1.decode? other = latin1.decode? bytes → other = bytes) ∧
      ∀ charset text, charset.decode? bytes = some text ↔ encode? charset text = some bytes := by
  refine ⟨fun text => Text.decodeUtf8?_eq_some_iff, Text.isSome_decodeUtf8?_iff, ?_, ?_,
    ⟨_, rfl, toNat_readBytewise bytes⟩, ?_, fun charset text => decode?_eq_some_iff charset⟩
  · rw [decode?_ascii, Option.isSome_ite]
  · intro text read
    rw [decode?_ascii, Option.ite_none_right_eq_some, Option.some_inj] at read
    obtain ⟨small, rfl⟩ := read
    exact ⟨Text.decodeUtf8?_eq_some_iff.2 (toUTF8_readBytewise small), rfl⟩
  · intro other same
    exact eq_of_decode?_eq_some rfl same

/-- An accented letter as one byte is neither ASCII nor UTF-8. -/
example : [utf8, ascii, latin1].map (decode? · ⟨#[0x6E, 0xE9]⟩) = [none, none, some "né"] := by
  decide +kernel

end Charset

end Inbound
