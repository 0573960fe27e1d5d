import Mathlib
import Inbound.Proofs.Text.WellFormed
import Inbound.WebSocket.Frame

/-!
# Frames of a client

A client sends each message as one frame, whose payload is masked with four bytes of its choice.
What the server reads from such a frame is the message, whatever the mask; and from the beginning
of a frame it reads nothing before the header is complete.

## Main results

* `read_headerBytes`, `read_take_headerBytes`: the header of a frame, and less than that;
* `applyMask_applyMask`: a mask takes itself off;
* `Farewell.ofPayload?_payload`: what a close frame says is read from it.
-/

namespace Inbound.WebSocket

/-! ### Numbers -/

theorem bigEndianBytes_succ (width n : Nat) :
    bigEndianBytes (width + 1) n = (n >>> (8 * width)).toUInt8 :: bigEndianBytes width n := by
  simp [bigEndianBytes, List.range_succ]

@[simp]
theorem length_bigEndianBytes (width n : Nat) : (bigEndianBytes width n).length = width := by
  simp [bigEndianBytes]

theorem foldl_bigEndianBytes (width n start : Nat) :
    (bigEndianBytes width n).foldl (fun value b => value * 256 + b.toNat) start =
      start * 256 ^ width + n % 256 ^ width := by
  -- The highest byte comes first, and the others follow by induction.
  induction width generalizing start with
  | zero => simp [bigEndianBytes, Nat.mod_one]
  | succ width ih =>
    have hbyte : (n >>> (8 * width)).toUInt8.toNat = n / 256 ^ width % 256 := by
      rw [Nat.toUInt8, UInt8.toNat_ofNat', Nat.shiftRight_eq_div_pow, Nat.pow_mul]
    rw [bigEndianBytes_succ, List.foldl_cons, ih, hbyte, Nat.add_mul, Nat.mul_assoc,
      Nat.pow_succ 256 width, Nat.mul_comm (256 ^ width) 256, Nat.add_assoc,
      Nat.mul_comm 256 (256 ^ width), Nat.mod_mul, Nat.mul_comm (n / 256 ^ width % 256)]
    omega

/-- The bytes of a number spell it. -/
theorem bigEndianValue_bigEndianBytes {width n : Nat} (h : n < 256 ^ width) :
    bigEndianValue (bigEndianBytes width n) = n := by
  rw [bigEndianValue, foldl_bigEndianBytes, Nat.zero_mul, Nat.zero_add, Nat.mod_eq_of_lt h]

/-! ### Masks -/

/-- What the payload of a client's frame is masked with. -/
structure Mask where
  /-- The bytes, which are repeated over the payload. -/
  bytes : List UInt8
  length_bytes : bytes.length = 4
  deriving DecidableEq

@[simp]
theorem size_applyMask (mask : List UInt8) (payload : ByteArray) :
    (applyMask mask payload).size = payload.size := Array.size_mapIdx

/-- A mask takes itself off. -/
@[simp]
theorem applyMask_applyMask (mask : List UInt8) (payload : ByteArray) :
    applyMask mask (applyMask mask payload) = payload := by
  refine ByteArray.ext (Array.ext (by simp [applyMask]) fun i _ _ => ?_)
  simp [applyMask]

/-! ### Headers -/

/-- How the second byte of a frame tells the length of the payload. -/
def lengthCode (size : Nat) : Nat :=
  if size < 126 then size else if size < 65536 then 126 else 127

/-- How many bytes besides tell it. -/
def lengthWidth (size : Nat) : Nat :=
  if size < 126 then 0 else if size < 65536 then 2 else 8

/-- The header of a frame of a client that is a message of its own. -/
def clientHeader (opcode : Opcode) (mask : Mask) (size : Nat) : FrameHeader :=
  ⟨true, false, opcode, some mask.bytes, size⟩

/-- The bytes of that header. -/
def headerBytes (opcode : Opcode) (mask : Mask) (size : Nat) : List UInt8 :=
  (128 + opcode.code).toUInt8 :: (128 + lengthCode size).toUInt8 ::
    (bigEndianBytes (lengthWidth size) size ++ mask.bytes)

/-- The bytes of a frame of a client that is a message of its own. -/
def clientFrame (opcode : Opcode) (mask : Mask) (payload : ByteArray) : ByteArray :=
  ⟨(headerBytes opcode mask payload.size).toArray⟩ ++ applyMask mask.bytes payload

section Headers

variable (opcode : Opcode) (mask : Mask) {size : Nat}

theorem length_headerBytes (size : Nat) :
    (headerBytes opcode mask size).length = 2 + lengthWidth size + 4 := by
  simp [headerBytes, mask.length_bytes]
  omega

theorem length_headerBytes_le (size : Nat) :
    (headerBytes opcode mask size).length ≤ FrameHeader.maxSize := by
  have hwidth : lengthWidth size ≤ 8 := by
    unfold lengthWidth
    split
    · omega
    · split <;> omega
  rw [length_headerBytes, FrameHeader.maxSize]
  omega

theorem lengthCode_lt (size : Nat) : lengthCode size < 128 := by
  unfold lengthCode
  split
  · omega
  · split <;> omega

theorem toNat_lengthCode (size : Nat) :
    (128 + lengthCode size).toUInt8.toNat = 128 + lengthCode size := by
  have hcode := lengthCode_lt size
  rw [Nat.toUInt8, UInt8.toNat_ofNat']
  omega

theorem width_lengthCode (size : Nat) :
    (if lengthCode size = 126 then 2 else if lengthCode size = 127 then 8 else 0) =
      lengthWidth size := by
  unfold lengthCode lengthWidth
  split
  · rw [if_neg (by omega), if_neg (by omega)]
  · split <;> rfl

/-- The length of a payload is told by its code or by the bytes behind it. -/
theorem length_eq (hsize : size < 2 ^ 64) :
    (if lengthWidth size = 0 then lengthCode size
      else bigEndianValue (bigEndianBytes (lengthWidth size) size)) = size := by
  by_cases hshort : size < 126
  · simp [lengthWidth, lengthCode, hshort]
  have hvalue : size < 256 ^ lengthWidth size := by
    unfold lengthWidth
    rw [if_neg hshort]
    split <;> omega
  have hwidth : lengthWidth size ≠ 0 := by
    unfold lengthWidth
    rw [if_neg hshort]
    split <;> omega
  rw [if_neg hwidth, bigEndianValue_bigEndianBytes hvalue]

/-- A header is read to its end, whatever follows it. -/
theorem read_headerBytes (hsize : size < 2 ^ 64) (rest : List UInt8) :
    FrameHeader.read (headerBytes opcode mask size ++ rest) =
      .got (clientHeader opcode mask size) (headerBytes opcode mask size).length := by
  have hcode : (128 + lengthCode size) % 128 = lengthCode size := by
    have hlt := lengthCode_lt size
    omega
  have hopcode : (128 + opcode.code).toUInt8.toNat = 128 + opcode.code := by cases opcode <;> rfl
  have hkind : Opcode.ofCode? ((128 + opcode.code) % 16) = some opcode := by cases opcode <;> rfl
  have hclear : (128 + opcode.code) / 16 % 8 = 0 := by cases opcode <;> rfl
  simp only [headerBytes, List.cons_append, FrameHeader.read, toNat_lengthCode, hcode,
    width_lengthCode, hopcode, hkind]
  rw [if_neg (by simp [mask.length_bytes]; omega)]
  simp [clientHeader, mask.length_bytes, hclear, length_eq hsize]
  omega

/-- From less than a header nothing is read. -/
theorem read_take_headerBytes {count : Nat} (h : count < (headerBytes opcode mask size).length) :
    FrameHeader.read ((headerBytes opcode mask size).take count) = .more := by
  rcases count with - | - | count
  · rfl
  · rfl
  · have hcode : (128 + lengthCode size) % 128 = lengthCode size := by
      have hlt := lengthCode_lt size
      omega
    rw [length_headerBytes] at h
    simp only [headerBytes, List.take_succ_cons, FrameHeader.read, toNat_lengthCode, hcode,
      width_lengthCode]
    rw [if_pos]
    simp [mask.length_bytes]
    omega

/-- What is read from the beginning of a frame, by how much of it is there. -/
theorem read_take_of_append {bytes later rest : List UInt8} (hsize : size < 2 ^ 64)
    (h : bytes ++ later = headerBytes opcode mask size ++ rest) :
    FrameHeader.read (bytes.take FrameHeader.maxSize) =
      if bytes.length < (headerBytes opcode mask size).length then .more
      else .got (clientHeader opcode mask size) (headerBytes opcode mask size).length := by
  have hle := length_headerBytes_le opcode mask size
  -- The header is there in part, or as a whole with something behind it.
  split
  · have htake : (headerBytes opcode mask size ++ rest).take bytes.length =
        (headerBytes opcode mask size).take bytes.length :=
      List.take_append_of_le_length (by omega)
    rw [← h, List.take_left] at htake
    rw [List.take_of_length_le (by omega), htake]
    exact read_take_headerBytes opcode mask (by omega)
  · have htake : (bytes ++ later).take (headerBytes opcode mask size).length =
        bytes.take (headerBytes opcode mask size).length :=
      List.take_append_of_le_length (by omega)
    rw [h, List.take_left] at htake
    have hheader : (bytes.take FrameHeader.maxSize).take (headerBytes opcode mask size).length =
        headerBytes opcode mask size := by
      rw [List.take_take, Nat.min_eq_left hle, ← htake]
    rw [← List.take_append_drop (headerBytes opcode mask size).length
      (bytes.take FrameHeader.maxSize), hheader]
    exact read_headerBytes opcode mask hsize _

theorem size_clientFrame (payload : ByteArray) :
    (clientFrame opcode mask payload).size =
      (headerBytes opcode mask payload.size).length + payload.size := by
  rw [clientFrame, ByteArray.size_append, size_applyMask]
  rfl

end Headers

/-! ### What frames carry -/

/-- What a close frame says is read from it. -/
theorem Farewell.ofPayload?_payload {farewell : Option Farewell}
    (h : ∀ said ∈ farewell, said.code < 65536) :
    Farewell.ofPayload? (Farewell.payload farewell) = some farewell := by
  cases farewell with
  | none => rfl
  | some farewell =>
    have hcode := h farewell rfl
    have hbytes : (Farewell.payload (some farewell)).data.toList =
        (farewell.code >>> 8).toUInt8 :: farewell.code.toUInt8 ::
          farewell.reason.toUTF8.data.toList := by
      rw [Farewell.payload, ByteArray.toList_data_append]
      rfl
    have hvalue : (farewell.code >>> 8).toUInt8.toNat * 256 + farewell.code.toUInt8.toNat =
        farewell.code := by
      simp only [Nat.toUInt8, UInt8.toNat_ofNat', Nat.shiftRight_eq_div_pow]
      omega
    simp only [Farewell.ofPayload?, hbytes, hvalue, Array.toArray_toList]
    exact congrArg (Option.map _) (Text.decodeUtf8?_toUTF8 farewell.reason)

end Inbound.WebSocket
