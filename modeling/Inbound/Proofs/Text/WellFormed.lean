import Mathlib
import Inbound.Text.Utf8

/-!
# Well-formed text

Which bytes encode a text is said here without reading them, by the ranges in which the bytes of a
character lie. The first byte tells how many there are; 0xC0, 0xC1 and whatever is above 0xF4 begin
no character. The second byte is held to a narrower range behind some first ones, where the encoding
would be overlong, or that of a surrogate or of something above U+10FFFF. All others are
continuations. So a character that lacks some of its bytes is none.

## Main results

* `isWellFormed_utf8EncodeChar_append`: the encoding of a character lies in these ranges;
* `exists_flatMap_utf8EncodeChar`: well-formed bytes are the encodings of some characters;
* `decodeUtf8?_eq_some_iff`: the text that is read from bytes is the one they encode;
* `isSome_decodeUtf8?_iff`: bytes are read as text if they are well-formed, and only then.
-/

namespace Inbound.Text

/-- Whether bytes are one character after the other, each of them within the ranges of its bytes. -/
def isWellFormed : List UInt8 → Bool
  | [] => true
  | first :: rest =>
    match encodedSize? first, rest with
    | some 1, rest => isWellFormed rest
    | some 2, second :: rest => mayFollow first second && isWellFormed rest
    | some 3, second :: third :: rest =>
      mayFollow first second && isContinuation third && isWellFormed rest
    | some 4, second :: third :: fourth :: rest =>
      mayFollow first second && isContinuation third && isContinuation fourth && isWellFormed rest
    | _, _ => false

/-! ### Ranges -/

theorem encodedSize?_eq_some_iff {first : UInt8} {size : ℕ} :
    encodedSize? first = some size ↔
      size = 1 ∧ first.toNat < 0x80 ∨ size = 2 ∧ 0xC2 ≤ first.toNat ∧ first.toNat ≤ 0xDF ∨
        size = 3 ∧ 0xE0 ≤ first.toNat ∧ first.toNat ≤ 0xEF ∨
          size = 4 ∧ 0xF0 ≤ first.toNat ∧ first.toNat ≤ 0xF4 := by
  unfold encodedSize?
  simp only [UInt8.lt_iff_toNat_lt, UInt8.le_iff_toNat_le, UInt8.reduceToNat, Bool.and_eq_true,
    decide_eq_true_eq]
  split_ifs <;> simp <;> omega

theorem isContinuation_iff {b : UInt8} :
    isContinuation b = true ↔ 0x80 ≤ b.toNat ∧ b.toNat ≤ 0xBF := by
  simp [isContinuation, UInt8.le_iff_toNat_le]

theorem isContinuation_ofNat (v : ℕ) : isContinuation (UInt8.ofNat (v % 0x40 + 0x80)) = true := by
  rw [isContinuation_iff, UInt8.toNat_ofNat']
  omega

theorem mayFollow_iff {first second : UInt8} :
    mayFollow first second = true ↔ 0x80 ≤ second.toNat ∧ second.toNat ≤ 0xBF ∧
      (first.toNat = 0xE0 → 0xA0 ≤ second.toNat) ∧ (first.toNat = 0xED → second.toNat ≤ 0x9F) ∧
        (first.toNat = 0xF0 → 0x90 ≤ second.toNat) ∧
          (first.toNat = 0xF4 → second.toNat ≤ 0x8F) := by
  unfold mayFollow isContinuation
  simp only [beq_iff_eq, ← UInt8.toNat_inj, UInt8.le_iff_toNat_le, UInt8.reduceToNat]
  split_ifs <;> simp only [Bool.and_eq_true, decide_eq_true_eq] <;> omega

/-! ### Characters -/

theorem isWellFormed_utf8EncodeChar_append (c : Char) (rest : List UInt8) :
    isWellFormed (String.utf8EncodeChar c ++ rest) = isWellFormed rest := by
  have valid : c.val.toNat < 0xD800 ∨ 0xDFFF < c.val.toNat ∧ c.val.toNat < 0x110000 := c.valid
  unfold String.utf8EncodeChar
  extract_lets v
  replace valid : v < 0xD800 ∨ 0xDFFF < v ∧ v < 0x110000 := valid
  clear_value v
  -- One case for each number of bytes: the first byte has it, and the second one bounds the rest.
  split_ifs
  · have size : encodedSize? (UInt8.ofNat v) = some 1 := by
      rw [encodedSize?_eq_some_iff, UInt8.toNat_ofNat']
      omega
    simp [isWellFormed, size]
  · have size : encodedSize? (UInt8.ofNat (v / 64 % 0x20 + 0xc0)) = some 2 := by
      rw [encodedSize?_eq_some_iff, UInt8.toNat_ofNat']
      omega
    have follows :
        mayFollow (UInt8.ofNat (v / 64 % 0x20 + 0xc0)) (UInt8.ofNat (v % 0x40 + 0x80)) := by
      rw [mayFollow_iff, UInt8.toNat_ofNat', UInt8.toNat_ofNat']
      omega
    simp only [List.cons_append, List.nil_append, isWellFormed, size, follows, Bool.true_and]
  · have size : encodedSize? (UInt8.ofNat (v / 4096 % 0x10 + 0xe0)) = some 3 := by
      rw [encodedSize?_eq_some_iff, UInt8.toNat_ofNat']
      omega
    have follows :
        mayFollow (UInt8.ofNat (v / 4096 % 0x10 + 0xe0)) (UInt8.ofNat (v / 64 % 0x40 + 0x80)) := by
      rw [mayFollow_iff, UInt8.toNat_ofNat', UInt8.toNat_ofNat']
      omega
    simp only [List.cons_append, List.nil_append, isWellFormed, size, follows,
      isContinuation_ofNat, Bool.true_and]
  · have size : encodedSize? (UInt8.ofNat (v / 262144 % 0x08 + 0xf0)) = some 4 := by
      rw [encodedSize?_eq_some_iff, UInt8.toNat_ofNat']
      omega
    have follows : mayFollow (UInt8.ofNat (v / 262144 % 0x08 + 0xf0))
        (UInt8.ofNat (v / 4096 % 0x40 + 0x80)) := by
      rw [mayFollow_iff, UInt8.toNat_ofNat', UInt8.toNat_ofNat']
      omega
    simp only [List.cons_append, List.nil_append, isWellFormed, size, follows,
      isContinuation_ofNat, Bool.true_and]

/-- A number that is no surrogate, and not too large, is the code point of a character. -/
theorem exists_toNat_val {v : ℕ} (h : v < 0xD800 ∨ 0xDFFF < v ∧ v < 0x110000) :
    ∃ c : Char, c.val.toNat = v :=
  ⟨Char.ofNatAux v h, rfl⟩

theorem exists_utf8EncodeChar_one {first : UInt8} (size : encodedSize? first = some 1) :
    ∃ c, String.utf8EncodeChar c = [first] := by
  rw [encodedSize?_eq_some_iff] at size
  obtain ⟨c, hc⟩ := exists_toNat_val (v := first.toNat) (by omega)
  refine ⟨c, ?_⟩
  simp only [String.utf8EncodeChar, hc]
  rw [if_pos (by omega), UInt8.ofNat_toNat]

theorem exists_utf8EncodeChar_two {first second : UInt8} (size : encodedSize? first = some 2)
    (follows : mayFollow first second) : ∃ c, String.utf8EncodeChar c = [first, second] := by
  rw [encodedSize?_eq_some_iff] at size
  rw [mayFollow_iff] at follows
  -- The code point is made of the low bits of both bytes.
  obtain ⟨c, hc⟩ := exists_toNat_val
    (v := first.toNat % 0x20 * 64 + second.toNat % 0x40) (by omega)
  refine ⟨c, ?_⟩
  simp only [String.utf8EncodeChar, hc]
  rw [if_neg (by omega), if_pos (by omega)]
  simp only [List.cons.injEq, and_true, ← UInt8.toNat_inj, UInt8.toNat_ofNat']
  omega

theorem exists_utf8EncodeChar_three {first second third : UInt8}
    (size : encodedSize? first = some 3) (follows : mayFollow first second)
    (continues : isContinuation third) :
    ∃ c, String.utf8EncodeChar c = [first, second, third] := by
  rw [encodedSize?_eq_some_iff] at size
  rw [mayFollow_iff] at follows
  rw [isContinuation_iff] at continues
  -- The second byte keeps it away from the overlong forms and from the surrogates.
  obtain ⟨c, hc⟩ := exists_toNat_val
    (v := first.toNat % 0x10 * 4096 + second.toNat % 0x40 * 64 + third.toNat % 0x40) (by omega)
  refine ⟨c, ?_⟩
  simp only [String.utf8EncodeChar, hc]
  rw [if_neg (by omega), if_neg (by omega), if_pos (by omega)]
  simp only [List.cons.injEq, and_true, ← UInt8.toNat_inj, UInt8.toNat_ofNat']
  omega

theorem exists_utf8EncodeChar_four {first second third fourth : UInt8}
    (size : encodedSize? first = some 4) (follows : mayFollow first second)
    (continues : isContinuation third) (ends : isContinuation fourth) :
    ∃ c, String.utf8EncodeChar c = [first, second, third, fourth] := by
  rw [encodedSize?_eq_some_iff] at size
  rw [mayFollow_iff] at follows
  rw [isContinuation_iff] at continues ends
  -- The second byte keeps it away from the overlong forms and below 0x110000.
  obtain ⟨c, hc⟩ := exists_toNat_val (v := first.toNat % 0x08 * 262144 +
    second.toNat % 0x40 * 4096 + third.toNat % 0x40 * 64 + fourth.toNat % 0x40) (by omega)
  refine ⟨c, ?_⟩
  simp only [String.utf8EncodeChar, hc]
  rw [if_neg (by omega), if_neg (by omega), if_neg (by omega)]
  simp only [List.cons.injEq, and_true, ← UInt8.toNat_inj, UInt8.toNat_ofNat']
  omega

/-! ### Texts -/

theorem isWellFormed_flatMap_utf8EncodeChar (chars : List Char) :
    isWellFormed (chars.flatMap String.utf8EncodeChar) = true := by
  induction chars with
  | nil => rfl
  | cons c chars ih => rw [List.flatMap_cons, isWellFormed_utf8EncodeChar_append, ih]

theorem exists_flatMap_utf8EncodeChar {bytes : List UInt8} (h : isWellFormed bytes = true) :
    ∃ chars : List Char, chars.flatMap String.utf8EncodeChar = bytes := by
  -- In every case the characters behind the first one are those of the induction hypothesis.
  have cons {encoded rest : List UInt8} (one : ∃ c, String.utf8EncodeChar c = encoded)
      (others : ∃ chars : List Char, chars.flatMap String.utf8EncodeChar = rest) :
      ∃ chars : List Char, chars.flatMap String.utf8EncodeChar = encoded ++ rest := by
    obtain ⟨c, rfl⟩ := one
    obtain ⟨chars, rfl⟩ := others
    exact ⟨c :: chars, List.flatMap_cons⟩
  fun_induction isWellFormed bytes with
  | case1 => exact ⟨[], rfl⟩
  | case2 first rest size ih => exact cons (exists_utf8EncodeChar_one size) (ih h)
  | case3 first second rest size ih =>
    rw [Bool.and_eq_true] at h
    exact cons (exists_utf8EncodeChar_two size h.1) (ih h.2)
  | case4 first second third rest size ih =>
    simp only [Bool.and_eq_true] at h
    exact cons (exists_utf8EncodeChar_three size h.1.1 h.1.2) (ih h.2)
  | case5 first second third fourth rest size ih =>
    simp only [Bool.and_eq_true] at h
    exact cons (exists_utf8EncodeChar_four size h.1.1.1 h.1.1.2 h.1.2) (ih h.2)
  | case6 => cases h

/-- Bytes that are the encodings of some characters are well-formed, and no others. -/
theorem isValidUTF8_iff {bytes : ByteArray} :
    bytes.IsValidUTF8 ↔ isWellFormed bytes.data.toList := by
  constructor
  · rintro ⟨chars, rfl⟩
    rw [List.utf8Encode, List.toList_data_toByteArray]
    exact isWellFormed_flatMap_utf8EncodeChar chars
  · intro formed
    obtain ⟨chars, encoded⟩ := exists_flatMap_utf8EncodeChar formed
    have same : bytes = chars.utf8Encode := by
      apply ByteArray.ext
      rw [List.utf8Encode, encoded, List.data_toByteArray, Array.toArray_toList]
    exact ⟨chars, same⟩

theorem decodeUtf8?_toUTF8 (text : String) : decodeUtf8? text.toUTF8 = some text := by
  have valid : text.toUTF8.IsValidUTF8 := text.isValidUTF8
  rw [decodeUtf8?, String.fromUTF8?, dif_pos valid]
  rfl

/-- Nothing of a text is replaced. -/
theorem decodeLossy_toUTF8 (text : String) : decodeLossy text.toUTF8 = text := by
  rw [decodeLossy, decodeUtf8?_toUTF8]

/-- Bytes are read as a text if they are what it is encoded as, and only then. -/
theorem decodeUtf8?_eq_some_iff {bytes : ByteArray} {text : String} :
    decodeUtf8? bytes = some text ↔ text.toUTF8 = bytes := by
  constructor
  · intro read
    unfold decodeUtf8? String.fromUTF8? at read
    split at read
    · cases read
      rfl
    · cases read
  · rintro rfl
    exact decodeUtf8?_toUTF8 text

theorem isSome_decodeUtf8?_iff {bytes : ByteArray} :
    (decodeUtf8? bytes).isSome ↔ isWellFormed bytes.data.toList := by
  rw [← isValidUTF8_iff]
  unfold decodeUtf8? String.fromUTF8?
  split <;> simp [*]

/-- Two bytes for a slash, a surrogate, a code point above U+10FFFF, and a euro sign cut short. -/
example : [[0xC0, 0xAF], [0xED, 0xA0, 0x80], [0xF4, 0x90, 0x80, 0x80], [0xE2, 0x82]].all
    fun bytes => !isWellFormed bytes := by
  decide

end Inbound.Text
