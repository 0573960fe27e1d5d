import Mathlib
import Inbound.Adapter.Message
import Inbound.Proofs.Body.Sequence

/-!
# What becomes of the body of a message

A message is converted without a look at its body. Whether there is one is told from the header and
the method alone, and if the answer is no, then the request gets an empty payload, whatever the
connection delivers. So the body arrives exactly if the answer is right. It is wrong where a length
of zero stands beside a transfer encoding, and where a body comes without being announced.

## Main results

* `Message.isBodiless_iff`: which messages are taken to have no body;
* `Message.delivers_iff`: the payload brings the whole body, and a read returns it, exactly if the
  body of such a message is empty;
* `Message.dropped_of_contradictory`: such a message may well have a body, which gets lost.
-/

namespace Inbound

namespace Request

/-- A read of a new request whose payload can be read to its end, and fits, gives all of it. -/
theorem perform_read_build {head : Head} {payload : Payload} {polls : Nat}
    (hsound : payload.IsSound) (hfailures : Walk.NoFailure payload.items)
    (hhangs : .hang ∉ payload.items) (hpolls : Walk.stalls payload.items < polls)
    (hfits : head.clientMaxSize = 0 ∨ payload.bytes.size < head.clientMaxSize)
    (registry : RegistryId) (runtime : Option RuntimeId) (socket : Option SocketId) :
    ((build head payload registry runtime socket).perform (.read polls)).1 =
      .ready (.ok (.bytes payload.bytes)) := by
  have hrests : (build head payload registry runtime socket).body.Rests head.clientMaxSize
      ⟨payload.items, false, none⟩ :=
    ⟨rfl, rfl, rfl, rfl, rfl, hsound, rfl, rfl, rfl⟩
  rw [(perform_as_walked hrests (.read polls)).1]
  simp only [History.perform, History.read, if_neg (Nat.ne_zero_of_lt hpolls),
    Bool.false_eq_true, ↓reduceIte]
  rw [Walk.walk_eq_finished hfailures hhangs hpolls hfits]
  rfl

end Request

namespace Adapter.Message

section Delivery

variable (message : Message)

/-- The bytes of the body. -/
def bytes : ByteArray :=
  Payload.bytesOf message.body

/-- The message says that its length is zero, whatever else it says. -/
def HasZeroLength : Prop :=
  ∃ value length, message.fields.get? "content-length" = some value ∧
    Http.Fields.visible? value = some length ∧ length.trimAscii.copy = "0"

/-- The message says nothing about a body, and its method needs none. -/
def IsUnannounced : Prop :=
  (message.fields.get? "content-length").bind Http.Fields.visible? = none ∧
    message.fields.contains "transfer-encoding" = false ∧ message.method ∈ bodilessMethods

/-- A message is taken to have no body for one of two reasons, neither of which is the body. -/
theorem isBodiless_iff :
    message.isBodiless = true ↔ message.HasZeroLength ∨ message.IsUnannounced := by
  unfold isBodiless HasZeroLength IsUnannounced
  cases hlength : (message.fields.get? "content-length").bind Http.Fields.visible? with
  | some length =>
    obtain ⟨value, hvalue, hvisible⟩ := Option.bind_eq_some_iff.mp hlength
    simp [hvalue, hvisible]
  | none =>
    -- A length that cannot be read is no length of zero either.
    have hnone : ∀ value length, message.fields.get? "content-length" = some value →
        Http.Fields.visible? value ≠ some length := by
      intro value length hvalue hvisible
      rw [hvalue, Option.bind_some, hvisible] at hlength
      cases hlength
    simp only [Bool.and_eq_true, Bool.not_eq_true', List.contains_iff_mem, true_and]
    refine (or_iff_right ?_).symm
    rintro ⟨value, length, hvalue, hvisible, -⟩
    exact hnone value length hvalue hvisible

/-! ### Payloads -/

theorem bytes_item (piece : Payload.Item) : (item piece).bytes = piece.bytes := by
  cases piece <;> rfl

theorem bytesOf_map_item (items : List Payload.Item) :
    Payload.bytesOf (items.map item) = Payload.bytesOf items := by
  induction items with
  | nil => rfl
  | cons piece rest ih =>
    rw [List.map_cons, Payload.bytesOf_cons, Payload.bytesOf_cons, bytes_item, ih]

theorem stalls_map_item (items : List Payload.Item) :
    Walk.stalls (items.map item) = Walk.stalls items := by
  induction items with
  | nil => rfl
  | cons piece rest ih => cases piece <;> simp [Walk.stalls, item, ih]

theorem noFailure_map_item {items : List Payload.Item} (h : Walk.NoFailure items) :
    Walk.NoFailure (items.map item) := by
  intro text hmem
  obtain ⟨piece, hpiece, heq⟩ := List.mem_map.mp hmem
  cases piece with
  | failure cause => exact h cause hpiece
  | chunk | stall | hang => cases heq

theorem hang_mem_map_item {items : List Payload.Item} :
    Payload.Item.hang ∈ items.map item ↔ Payload.Item.hang ∈ items := by
  constructor
  · intro hmem
    obtain ⟨piece, hpiece, heq⟩ := List.mem_map.mp hmem
    cases piece with
    | hang => exact hpiece
    | chunk | stall | failure => cases heq
  · exact fun hmem => List.mem_map.mpr ⟨.hang, hmem, rfl⟩

theorem payload_isSound : message.payload.IsSound := by
  unfold payload
  split
  · exact fun _ => rfl
  · rintro ⟨⟩

/-- The payload is made of the whole body, or of nothing. -/
theorem items_payload :
    message.payload.items = if message.isBodiless then [] else message.body.map item := by
  unfold payload
  split <;> rfl

theorem bytes_payload :
    message.payload.bytes = if message.isBodiless then .empty else message.bytes := by
  rw [Payload.bytes, items_payload]
  split
  · rfl
  · exact bytesOf_map_item message.body

/-- The payload brings the body exactly if there is none where there is taken to be none. -/
theorem bytes_payload_eq_iff :
    message.payload.bytes = message.bytes ↔
      (message.HasZeroLength ∨ message.IsUnannounced → message.bytes = .empty) := by
  rw [bytes_payload, ← isBodiless_iff]
  cases message.isBodiless with
  | true => simp [eq_comm]
  | false => simp

/-! ### Reads -/

variable {message}

/-- A read of a new request gives what the payload brings. -/
theorem read_convert {config : Config} {polls : Nat} (hfailures : Walk.NoFailure message.body)
    (hhangs : .hang ∉ message.body) (hpolls : Walk.stalls message.body < polls)
    (hfits : config.clientMaxSize = 0 ∨ message.bytes.size < config.clientMaxSize)
    (registry : RegistryId) (runtime : Option RuntimeId) :
    ((message.convert config registry runtime).perform (.read polls)).1 =
      .ready (.ok (.bytes message.payload.bytes)) := by
  have hitems := items_payload message
  have hbytes := bytes_payload message
  refine Request.perform_read_build (payload_isSound message) ?_ ?_ ?_ ?_ registry runtime none
  -- What holds of the body holds of the payload, be it empty or not.
  · rw [hitems]
    split
    · exact fun _ => List.not_mem_nil
    · exact noFailure_map_item hfailures
  · rw [hitems]
    split
    · exact List.not_mem_nil
    · rwa [hang_mem_map_item]
  · rw [hitems]
    split
    · exact Nat.zero_lt_of_lt hpolls
    · rwa [stalls_map_item]
  · change config.clientMaxSize = 0 ∨ message.payload.bytes.size < config.clientMaxSize
    rw [hbytes]
    split
    · rw [ByteArray.size_empty]
      omega
    · exact hfits

end Delivery

/-- The payload of a converted message brings the whole body, and a read within the limit returns
it, exactly if the body of a message that is taken to have none is empty. The payload of any other
message is the body itself. -/
theorem delivers_iff (message : Message) (config : Config) (registry : RegistryId)
    (runtime : Option RuntimeId) :
    let request := message.convert config registry runtime
    let silent := message.HasZeroLength ∨ message.IsUnannounced
    (¬ silent → request.body.payload = .stream (message.body.map item)) ∧
    (request.body.payload.bytes = message.bytes ↔ (silent → message.bytes = .empty)) ∧
    ∀ polls, Walk.NoFailure message.body → .hang ∉ message.body →
      Walk.stalls message.body < polls →
      (config.clientMaxSize = 0 ∨ message.bytes.size < config.clientMaxSize) →
        ((request.perform (.read polls)).1 = .ready (.ok (.bytes message.bytes)) ↔
          (silent → message.bytes = .empty)) := by
  intro request silent
  refine ⟨fun hsilent => ?_, bytes_payload_eq_iff message, ?_⟩
  · exact if_neg (mt message.isBodiless_iff.mp hsilent)
  · intro polls hfailures hhangs hpolls hfits
    rw [read_convert hfailures hhangs hpolls hfits registry runtime, ← bytes_payload_eq_iff]
    simp

/-- A message with its length. The connection takes its time. -/
def posted : Message where
  method := "POST"
  target := ⟨none, none, "/", none⟩
  fields := ⟨[("content-length", [⟨#[53]⟩])]⟩
  version := .default
  body := [.chunk ⟨#[104, 101]⟩, .stall 1, .chunk ⟨#[108, 108, 111]⟩]

/-- The body of `posted` arrives. -/
theorem delivers_posted :
    let request := posted.convert .default 0 none
    request.body.payload.bytes = posted.bytes ∧
      (request.perform (.read 2)).1 = .ready (.ok (.bytes ⟨#[104, 101, 108, 108, 111]⟩)) := by
  obtain ⟨-, hpayload, hread⟩ := delivers_iff posted .default 0 none
  have hannounced : ¬ (posted.HasZeroLength ∨ posted.IsUnannounced) := by
    have hguess : posted.isBodiless = false := by cbv
    rw [← isBodiless_iff, hguess]
    exact Bool.false_ne_true
  have hfailures : Walk.NoFailure posted.body := by
    intro text
    simp [posted]
  have hhangs : .hang ∉ posted.body := by simp [posted]
  have hfits : Config.default.clientMaxSize = 0 ∨
      posted.bytes.size < Config.default.clientMaxSize := Or.inr (by decide)
  have hbytes : posted.bytes = ⟨#[104, 101, 108, 108, 111]⟩ := by decide
  refine ⟨hpayload.mpr fun hsilent => absurd hsilent hannounced, ?_⟩
  rw [← hbytes]
  exact (hread 2 hfailures hhangs (by decide) hfits).mpr fun hsilent => absurd hsilent hannounced

/-- A message with a chunked body that claims a length of zero as well. -/
def contradictory : Message where
  method := "POST"
  target := ⟨none, none, "/", none⟩
  fields := ⟨[("content-length", [⟨#[48]⟩]), ("transfer-encoding", ["chunked".toUTF8])]⟩
  version := .default
  body := [.chunk ⟨#[104, 101, 108, 108, 111]⟩]

/-- The body of `contradictory` is there, and a read returns nothing. -/
theorem dropped_of_contradictory :
    let request := contradictory.convert .default 0 none
    ofParts? "POST" "/" [("Content-Length".toUTF8, ⟨#[48]⟩),
        ("Transfer-Encoding".toUTF8, "chunked".toUTF8)] .default contradictory.body =
      some contradictory ∧
    contradictory.bytes = ⟨#[104, 101, 108, 108, 111]⟩ ∧
    request.body.payload.bytes = .empty ∧
    (request.perform (.read 1)).1 = .ready (.ok (.bytes .empty)) := by
  refine ⟨?accepted, ?body, ?payload, ?read⟩
  case accepted => cbv
  case body => decide
  case payload => cbv
  case read => cbv

end Adapter.Message

end Inbound
