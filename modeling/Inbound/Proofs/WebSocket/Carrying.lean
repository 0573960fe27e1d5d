import Inbound.WebSocket.Wire
import Inbound.Proofs.Body.Payload
import Inbound.Proofs.WebSocket.Framing

/-!
# What a wire carries

Where the connection has room, what the server sends leaves at once: whether it is a text, a close
or the answer to a close, nothing waits behind it. What a client sends is read frame by frame, of
which any part may be in the buffer of the wire already and the rest still in the connection; only
what lies behind the frame is left in both.

## Main results

* `Wire.exists_run_write`, `Wire.run_close`, `Wire.run_close_of_reply`: what the server sends is on
  its way;
* `Wire.exists_run_nextFrame`: a frame is read from its beginning to its end;
* `Wire.exists_run_read`: what the client says arrives.
-/

namespace Inbound.WebSocket

namespace Duplex

/-- There is room for the bytes on the way to the client. -/
structure HasRoom (duplex : Duplex) (bytes : ByteArray) : Prop where
  closed : duplex.toClient.closed = false
  size_le : duplex.toClient.buffer.size + bytes.size ≤ Pipe.capacity

/-- The connection with these bytes on the way to the client, behind all others. -/
def sent (duplex : Duplex) (bytes : ByteArray) : Duplex :=
  { duplex with toClient := { duplex.toClient with
      buffer := duplex.toClient.buffer ++ bytes } }

/-- The connection with just these bytes on the way to the server. -/
def holding (duplex : Duplex) (buffer : ByteArray) : Duplex :=
  { duplex with toServer := ⟨buffer, false⟩ }

@[simp]
theorem sent_empty (duplex : Duplex) : duplex.sent .empty = duplex := by
  simp [sent]

theorem flushInto_of_room {pipe : Pipe} {bytes : ByteArray} (hclosed : pipe.closed = false)
    (hsize : pipe.buffer.size + bytes.size ≤ Pipe.capacity) :
    flushInto pipe bytes = (.done, { pipe with buffer := pipe.buffer ++ bytes }) := by
  by_cases hempty : bytes.isEmpty = true
  · rw [(Payload.isEmpty_iff bytes).mp hempty, ByteArray.append_empty]
    rfl
  · have hpos : ¬ bytes.size = 0 := by simpa [ByteArray.isEmpty] using hempty
    have hcount : min bytes.size (Pipe.capacity - pipe.buffer.size) = bytes.size := by omega
    simp only [flushInto, hempty, Pipe.write, hclosed, hcount, hpos, ByteArray.extract_zero_size,
      if_true, if_false, Bool.false_eq_true]

theorem serverWrite_of_hasRoom {duplex : Duplex} {bytes : ByteArray} (h : duplex.HasRoom bytes) :
    duplex.serverWrite bytes = (.done, duplex.sent bytes) := by
  simp only [serverWrite, flushInto_of_room h.closed h.size_le, sent]

end Duplex

namespace Wire

variable {α β : Type} {operation : Operation α} {next : α → Operation β} {link link' : Link}

theorem run_bind (operation : Operation α) (next : α → Operation β) (link : Link) :
    (operation >>= next).run link =
      ExceptT.bindCont next (operation.run link).1 (operation.run link).2 := rfl

theorem run_bind_of_ok {result : α} (h : operation.run link = (.ok result, link')) :
    (operation >>= next).run link = (next result).run link' := by
  rw [run_bind, h]
  rfl

theorem run_bind_of_error {fault : WireFault} (h : operation.run link = (.error fault, link')) :
    (operation >>= next).run link = (.error fault, link') := by
  rw [run_bind, h]
  rfl

theorem run_discard (operation : Operation α) (link : Link) :
    (discard operation).run link = (operation >>= fun _ => pure ()).run link := rfl

theorem run_discard_of_ok {result : α} (h : operation.run link = (.ok result, link')) :
    (discard operation).run link = (.ok (), link') := by
  rw [run_discard, run_bind_of_ok h]
  rfl

theorem run_discard_of_error {fault : WireFault} (h : operation.run link = (.error fault, link')) :
    (discard operation).run link = (.error fault, link') := by
  rw [run_discard, run_bind_of_error h]

@[simp]
theorem run_get_bind (next : Link → Operation β) (link : Link) :
    ((get : Operation Link) >>= next).run link = (next link).run link := rfl

@[simp]
theorem run_change_bind (f : Wire → Wire) (next : Unit → Operation β) (link : Link) :
    (change f >>= next).run link = (next ()).run { link with wire := f link.wire } := rfl

@[simp]
theorem run_pure (result : α) (link : Link) :
    (pure result : Operation α).run link = (.ok result, link) := rfl

@[simp]
theorem run_throw (fault : WireFault) (link : Link) :
    (throw fault : Operation α).run link = (.error fault, link) := rfl

@[simp]
theorem run_set (link link' : Link) :
    (set link' : Operation PUnit).run link = (.ok (), link') := rfl

@[simp]
theorem run_change (f : Wire → Wire) (link : Link) :
    (change f).run link = (.ok (), { link with wire := f link.wire }) := rfl

/-- A wire that is not in the middle of a frame that arrives, by what waits to be sent and how far
the closing handshake is. -/
abbrev poised (inBuffer outBuffer : ByteArray) (state : WireState)
    (reply : Option (Opcode × ByteArray)) : Wire :=
  ⟨inBuffer, none, outBuffer, state, reply, false, none⟩

/-- A wire between two messages. Nobody has closed it, and nothing waits to be sent. -/
abbrev idle (inBuffer : ByteArray) : Wire := poised inBuffer .empty .active none

/-- A wire that waits for the rest of a frame, by the header if that has been read. -/
abbrev awaiting (inBuffer : ByteArray) (header : Option FrameHeader) : Wire :=
  ⟨inBuffer, header, .empty, .active, none, false, none⟩

/-! ### Sending -/

section Sending

variable {inBuffer outBuffer payload : ByteArray} {state : WireState} {opcode : Opcode}
  {reply : Option (Opcode × ByteArray)} {duplex : Duplex}

theorem run_writeOut (h : duplex.HasRoom outBuffer) :
    writeOut.run ⟨poised inBuffer outBuffer state reply, duplex⟩ =
      (.ok (), ⟨poised inBuffer .empty state reply, duplex.sent outBuffer⟩) := by
  rw [writeOut, run_get_bind]
  simp only [Duplex.serverWrite_of_hasRoom h, run_set]

/-- A frame is buffered, and possibly on its way already. -/
theorem exists_run_bufferFrame (h : duplex.HasRoom (serverFrame opcode payload)) :
    ∃ out duplex', (bufferFrame opcode payload).run ⟨poised inBuffer .empty state reply, duplex⟩ =
        (.ok (), ⟨poised inBuffer out state reply, duplex'⟩) ∧
      duplex'.HasRoom out ∧ duplex'.sent out = duplex.sent (serverFrame opcode payload) := by
  simp only [bufferFrame, run_change_bind, run_get_bind, ByteArray.empty_append]
  split
  · rw [run_writeOut h]
    refine ⟨.empty, _, rfl, ⟨h.closed, ?_⟩, Duplex.sent_empty _⟩
    simpa [Duplex.sent] using h.size_le
  · exact ⟨_, _, rfl, h, rfl⟩

/-- Without a reply that waits nothing is done as long as frames may arrive. -/
theorem run_enqueue_none (hstate : state.canRead = true) :
    (enqueue none).run ⟨poised inBuffer outBuffer state none, duplex⟩ =
      (.ok false, ⟨poised inBuffer outBuffer state none, duplex⟩) := by
  simp only [enqueue, pure_bind, run_get_bind, hstate, if_true, run_pure]

theorem exists_run_enqueue_some (inBuffer : ByteArray) (hstate : state.canRead = true)
    (h : duplex.HasRoom (serverFrame opcode payload)) :
    ∃ out duplex', (enqueue (some (opcode, payload))).run
        ⟨poised inBuffer .empty state none, duplex⟩ =
        (.ok false, ⟨poised inBuffer out state none, duplex'⟩) ∧
      duplex'.HasRoom out ∧ duplex'.sent out = duplex.sent (serverFrame opcode payload) := by
  obtain ⟨out, duplex', hrun, hout⟩ := exists_run_bufferFrame h
  refine ⟨out, duplex', ?_, hout⟩
  simp only [enqueue]
  rw [run_bind_of_ok hrun]
  simp only [pure_bind, run_get_bind, hstate, if_true, run_pure]

theorem run_flush (hstate : state.canRead = true) (h : duplex.HasRoom outBuffer) :
    flush.run ⟨poised inBuffer outBuffer state none, duplex⟩ =
      (.ok (), ⟨poised inBuffer .empty state none, duplex.sent outBuffer⟩) := by
  rw [flush, run_bind_of_ok (run_discard_of_ok (run_enqueue_none hstate)),
    run_bind_of_ok (run_writeOut h), run_change]

/-- A text is on its way once the wire is flushed. -/
theorem exists_run_write (inBuffer : ByteArray) {text : String}
    (h : duplex.HasRoom (serverFrame .text text.toUTF8)) :
    ∃ out duplex', (write text).run ⟨idle inBuffer, duplex⟩ =
        (.ok (), ⟨poised inBuffer out .active none, duplex'⟩) ∧
      duplex'.HasRoom out ∧ duplex'.sent out = duplex.sent (serverFrame .text text.toUTF8) := by
  have hstate : WireState.active.canRead = true := rfl
  obtain ⟨out, duplex', hrun, hout⟩ := exists_run_enqueue_some inBuffer hstate h
  refine ⟨out, duplex', ?_, hout⟩
  simp only [write, run_get_bind]
  rw [if_neg (by simp), if_neg (by simp), run_bind_of_ok hrun]
  rfl

/-- The closing handshake is begun by a close frame. -/
theorem run_close (h : duplex.HasRoom (serverFrame .close .empty)) :
    close.run ⟨idle inBuffer, duplex⟩ =
      (.ok (), ⟨poised inBuffer .empty .closedByUs none,
        duplex.sent (serverFrame .close .empty)⟩) := by
  have hstate : WireState.closedByUs.canRead = true := rfl
  obtain ⟨out, duplex', hrun, hroom, hsent⟩ := exists_run_enqueue_some inBuffer hstate h
  simp only [close, run_get_bind, if_true, run_change_bind]
  rw [run_bind_of_ok (run_discard_of_ok hrun), run_flush rfl hroom, hsent]

/-- The last reply of a closing handshake ends the session. -/
theorem run_enqueue_reply (hstate : state.canRead = false)
    (h : duplex.HasRoom (serverFrame opcode payload)) :
    (enqueue none).run ⟨poised inBuffer .empty state (some (opcode, payload)), duplex⟩ =
      (.error .connectionClosed, ⟨poised inBuffer .empty .terminated none,
        duplex.sent (serverFrame opcode payload)⟩) := by
  obtain ⟨out, duplex', hrun, hroom, hsent⟩ := exists_run_bufferFrame h
  simp only [enqueue, pure_bind, run_get_bind, run_change_bind]
  rw [run_bind_of_ok hrun]
  simp only [run_get_bind, hstate]
  rw [if_neg (by simp), run_bind_of_ok (run_writeOut hroom), run_change_bind, run_throw, hsent]

/-- The closing handshake of the client is finished by the reply that waits. -/
theorem run_close_of_reply (h : duplex.HasRoom (serverFrame opcode payload)) :
    close.run ⟨poised inBuffer .empty .closedByPeer (some (opcode, payload)), duplex⟩ =
      (.error .connectionClosed, ⟨poised inBuffer .empty .terminated none,
        duplex.sent (serverFrame opcode payload)⟩) := by
  simp only [close, run_get_bind]
  rw [if_neg (by simp), flush, run_bind_of_error (run_discard_of_error (run_enqueue_reply rfl h))]

end Sending

/-! ### Receiving -/

/-- What is taken from the beginning of bytes that are continued by others. -/
theorem extract_of_append {bytes later first rest : ByteArray} (h : bytes ++ later = first ++ rest)
    (hsize : first.size ≤ bytes.size) :
    bytes.extract 0 first.size = first ∧ bytes.extract first.size bytes.size ++ later = rest := by
  have hfirst : bytes.extract 0 first.size = first := by
    have hboth := congrArg (ByteArray.extract · 0 first.size) h
    have hnone : later.extract (0 - bytes.size) (first.size - bytes.size) = .empty := by
      rw [ByteArray.extract_eq_empty_iff]
      omega
    simp only [ByteArray.extract_append, hnone, ByteArray.append_empty] at hboth
    rw [hboth]
    simp
  refine ⟨hfirst, (ByteArray.append_right_inj first).mp ?_⟩
  rw [← h, ← ByteArray.append_assoc]
  conv => lhs; lhs; lhs; rw [← hfirst]
  rw [Payload.extract_append_rest]

section Receiving

variable {inBuffer buffer rest payload : ByteArray} {opcode : Opcode} {mask : Mask}
  {duplex : Duplex}

/-- What is read of the header of a frame. -/
theorem read_extract {later : ByteArray}
    (h : inBuffer ++ later = clientFrame opcode mask payload ++ rest)
    (hsize : payload.size < 2 ^ 64) :
    FrameHeader.read (inBuffer.extract 0 FrameHeader.maxSize).data.toList =
      if inBuffer.size < (headerBytes opcode mask payload.size).length then .more
      else .got (clientHeader opcode mask payload.size)
        (headerBytes opcode mask payload.size).length := by
  have hlists := congrArg (fun bytes : ByteArray => bytes.data.toList) h
  simp only [clientFrame, ByteArray.toList_data_append, List.append_assoc] at hlists
  have hread := read_take_of_append opcode mask hsize hlists
  rw [Array.length_toList, ByteArray.size_data] at hread
  rw [← hread]
  congr 1
  simp

theorem run_takeHeader_of_lt {later : ByteArray}
    (h : inBuffer ++ later = clientFrame opcode mask payload ++ rest)
    (hsize : payload.size < 2 ^ 64)
    (hlt : inBuffer.size < (headerBytes opcode mask payload.size).length) :
    takeHeader.run ⟨idle inBuffer, duplex⟩ = (.ok none, ⟨idle inBuffer, duplex⟩) := by
  simp only [takeHeader, run_get_bind, read_extract h hsize, if_pos hlt, run_pure]

theorem run_takeHeader_of_le {later : ByteArray}
    (h : inBuffer ++ later = clientFrame opcode mask payload ++ rest)
    (hsize : payload.size ≤ maxFrame)
    (hle : (headerBytes opcode mask payload.size).length ≤ inBuffer.size) :
    takeHeader.run ⟨idle inBuffer, duplex⟩ = (.ok (some (clientHeader opcode mask payload.size)),
      ⟨awaiting (inBuffer.extract (headerBytes opcode mask payload.size).length inBuffer.size)
        (some (clientHeader opcode mask payload.size)), duplex⟩) := by
  have hlarge : payload.size < 2 ^ 64 := by
    rw [maxFrame] at hsize
    omega
  have hlength : ¬ (clientHeader opcode mask payload.size).length > maxFrame := Nat.not_lt.mpr hsize
  simp only [takeHeader, run_get_bind, read_extract h hlarge, if_neg (Nat.not_lt.mpr hle),
    run_change_bind, if_neg hlength, run_pure]

theorem run_readIn {header : Option FrameHeader} {count : Nat} (hcount : 0 < count)
    (hbuffer : 0 < buffer.size) :
    (readIn count).run ⟨awaiting inBuffer header, duplex.holding buffer⟩ =
      (.ok true, ⟨awaiting (inBuffer ++ buffer.extract 0 count) header,
        duplex.holding (buffer.extract count buffer.size)⟩) := by
  have hempty : buffer.isEmpty = false := Payload.isEmpty_of_pos hbuffer
  have hread : (buffer.extract 0 count).isEmpty = false := by
    refine Payload.isEmpty_of_pos ?_
    rw [ByteArray.size_extract]
    omega
  simp only [readIn, run_get_bind, Duplex.serverRead, Duplex.holding, Pipe.read, hempty,
    Bool.false_eq_true, if_false]
  rw [run_bind_of_ok (run_set _ _), hread]
  rfl

/-- The header of a frame is read first, of which a part may be in the buffer. -/
theorem exists_run_nextHeader (duplex : Duplex)
    (h : inBuffer ++ buffer = clientFrame opcode mask payload ++ rest)
    (hsize : payload.size ≤ maxFrame) :
    ∃ inBuffer' buffer', nextHeader.run ⟨idle inBuffer, duplex.holding buffer⟩ =
        (.ok (some (clientHeader opcode mask payload.size)),
          ⟨awaiting inBuffer' (some (clientHeader opcode mask payload.size)),
            duplex.holding buffer'⟩) ∧
      inBuffer' ++ buffer' = applyMask mask.bytes payload ++ rest := by
  have hframe : clientFrame opcode mask payload ++ rest =
      ⟨(headerBytes opcode mask payload.size).toArray⟩ ++ (applyMask mask.bytes payload ++ rest) :=
    ByteArray.append_assoc
  simp only [nextHeader, run_get_bind]
  by_cases hle : (headerBytes opcode mask payload.size).length ≤ inBuffer.size
  · rw [run_bind_of_ok (run_takeHeader_of_le h hsize hle), run_pure]
    exact ⟨_, _, rfl, (extract_of_append (h.trans hframe) hle).2⟩
  · have hlarge : payload.size < 2 ^ 64 := by
      rw [maxFrame] at hsize
      omega
    rw [run_bind_of_ok (run_takeHeader_of_lt h hlarge (by omega))]
    have hsizes := congrArg ByteArray.size (h.trans hframe)
    have hheader : (⟨(headerBytes opcode mask payload.size).toArray⟩ : ByteArray).size =
        (headerBytes opcode mask payload.size).length := rfl
    have hmost := length_headerBytes_le opcode mask payload.size
    rw [ByteArray.size_append, ByteArray.size_append, hheader] at hsizes
    -- What is missing of the header is read at once.
    have hread : (inBuffer ++ buffer.extract 0 readSize) ++ buffer.extract readSize buffer.size =
        clientFrame opcode mask payload ++ rest := by
      rw [ByteArray.append_assoc, Payload.extract_append_rest, h]
    have henough : (headerBytes opcode mask payload.size).length ≤
        (inBuffer ++ buffer.extract 0 readSize).size := by
      rw [FrameHeader.maxSize] at hmost
      rw [ByteArray.size_append, ByteArray.size_extract, readSize]
      omega
    rw [run_bind_of_ok (run_readIn (by decide) (by omega))]
    simp only [Bool.not_true, Bool.false_eq_true, if_false]
    rw [run_bind_of_ok (run_takeHeader_of_le hread hsize henough), run_pure]
    exact ⟨_, _, rfl, (extract_of_append (hread.trans hframe) henough).2⟩

/-- As many bytes are read as are needed, if they are there. -/
theorem exists_run_await (duplex : Duplex) (header : Option FrameHeader) {needed : Nat}
    (h : needed ≤ inBuffer.size + buffer.size) :
    ∃ inBuffer' buffer', (await needed).run ⟨awaiting inBuffer header, duplex.holding buffer⟩ =
        (.ok true, ⟨awaiting inBuffer' header, duplex.holding buffer'⟩) ∧
      inBuffer' ++ buffer' = inBuffer ++ buffer ∧ needed ≤ inBuffer'.size := by
  simp only [await, run_get_bind]
  -- What is missing is read in pieces of one size, so more than that may be taken off the pipe.
  by_cases hmissing : needed - inBuffer.size = 0
  · rw [if_pos hmissing, run_pure]
    exact ⟨_, _, rfl, rfl, by omega⟩
  · have hcount : needed - inBuffer.size ≤
        (needed - inBuffer.size + readSize - 1) / readSize * readSize := by
      rw [readSize]
      omega
    rw [if_neg hmissing, run_bind_of_ok (run_readIn (by omega) (by omega))]
    have henough : needed ≤ (inBuffer ++ buffer.extract 0
        ((needed - inBuffer.size + readSize - 1) / readSize * readSize)).size := by
      rw [ByteArray.size_append, ByteArray.size_extract]
      omega
    simp only [Bool.not_true, Bool.false_eq_true, if_false, run_get_bind, if_pos henough, run_pure]
    refine ⟨_, _, rfl, ?_, henough⟩
    rw [ByteArray.append_assoc, Payload.extract_append_rest]

/-- The next frame is read from its beginning to its end, and nothing behind it. -/
theorem exists_run_nextFrame (duplex : Duplex)
    (h : inBuffer ++ buffer = clientFrame opcode mask payload ++ rest)
    (hsize : payload.size ≤ maxFrame) :
    ∃ inBuffer' buffer', nextFrame.run ⟨idle inBuffer, duplex.holding buffer⟩ =
        (.ok (some (clientHeader opcode mask payload.size, payload)),
          ⟨idle inBuffer', duplex.holding buffer'⟩) ∧
      inBuffer' ++ buffer' = rest := by
  obtain ⟨inBuffer', buffer', hheader, hmasked⟩ := exists_run_nextHeader duplex h hsize
  simp only [nextFrame]
  rw [run_bind_of_ok hheader]
  have hthere : payload.size ≤ inBuffer'.size + buffer'.size := by
    have hsizes := congrArg ByteArray.size hmasked
    simp only [ByteArray.size_append, size_applyMask] at hsizes
    omega
  obtain ⟨inBuffer'', buffer'', hawait, hsame, hneeded⟩ :=
    exists_run_await duplex (some (clientHeader opcode mask payload.size)) hthere
  rw [← size_applyMask mask.bytes payload] at hneeded
  -- The payload is at the front of the buffer now, and masked twice it is itself.
  have hpayload := extract_of_append (hsame.trans hmasked) hneeded
  simp only [clientHeader] at hawait ⊢
  rw [run_bind_of_ok hawait]
  rw [size_applyMask] at hpayload
  simp only [Bool.not_true, Bool.false_eq_true, if_false, run_get_bind, run_change_bind, run_pure,
    hpayload.1, applyMask_applyMask]
  exact ⟨_, _, rfl, hpayload.2⟩

theorem run_settleReplies :
    settleReplies.run ⟨idle inBuffer, duplex⟩ = (.ok (), ⟨idle inBuffer, duplex⟩) := rfl

end Receiving

end Wire

/-! ### What a client says -/

/-- A close frame has room for what is said, and its code is a number of two bytes. -/
structure Farewell.Fits (farewell : Option Farewell) : Prop where
  code_lt : ∀ said ∈ farewell, said.code < 65536
  size_le : (Farewell.payload farewell).size ≤ Wire.maxControl

/-- What is answered to what a close frame says. -/
def Farewell.answer (farewell : Option Farewell) : Option Farewell :=
  farewell.map fun farewell => if farewell.isAllowed then farewell else protocolViolation

theorem Farewell.Fits.size_answer_le {farewell : Option Farewell} (h : Farewell.Fits farewell) :
    (Farewell.payload (Farewell.answer farewell)).size ≤ Wire.maxControl := by
  rcases farewell with - | farewell
  · exact Nat.zero_le _
  · simp only [answer, Option.map_some]
    split
    · exact h.size_le
    · decide

/-- A close frame is two bytes longer than what it carries. -/
theorem size_serverFrame_close {payload : ByteArray} (h : payload.size ≤ Wire.maxControl) :
    (serverFrame .close payload).size = 2 + payload.size := by
  have hshort : payload.size < 126 := Nat.lt_succ_of_le h
  rw [serverFrame, ByteArray.size_append, if_pos hshort]
  rfl

/-- What a client says at a time. -/
inductive Utterance where
  | text (content : String)
  | binary (bytes : ByteArray)
  /-- It wants no more. -/
  | close (farewell : Option Farewell) (fits : Farewell.Fits farewell)
  deriving DecidableEq

namespace Utterance

/-- The kind of the frame. -/
def opcode : Utterance → Opcode
  | .text _ => .text
  | .binary _ => .binary
  | .close .. => .close

/-- What the frame carries. -/
def payload : Utterance → ByteArray
  | .text content => content.toUTF8
  | .binary bytes => bytes
  | .close farewell _ => Farewell.payload farewell

/-- The frame. -/
def frame (utterance : Utterance) (mask : Mask) : ByteArray :=
  clientFrame utterance.opcode mask utterance.payload

/-- What arrives with the frame. -/
def incoming : Utterance → Incoming
  | .text content => .text content
  | .binary bytes => .binary bytes
  | .close .. => .close

/-- The closing handshake after that. -/
def state : Utterance → WireState
  | .text _ | .binary _ => .active
  | .close .. => .closedByPeer

/-- What is to be answered. -/
def reply : Utterance → Option (Opcode × ByteArray)
  | .text _ | .binary _ => none
  | .close farewell _ => some (.close, Farewell.payload (Farewell.answer farewell))

end Utterance

namespace Wire

variable {inBuffer buffer rest : ByteArray} {utterance : Utterance} {mask : Mask}

/-- A frame is understood as what the client has said. -/
theorem run_receiveFrame (inBuffer : ByteArray) (duplex : Duplex) (utterance : Utterance)
    (mask : Mask) :
    (receiveFrame (clientHeader utterance.opcode mask utterance.payload.size)
        utterance.payload).run ⟨idle inBuffer, duplex⟩ =
      (.ok (some utterance.incoming),
        ⟨poised inBuffer .empty utterance.state utterance.reply, duplex⟩) := by
  cases utterance with
  | text content =>
    have hcomplete : (receiveFrame (clientHeader .text mask content.toUTF8.size)
        content.toUTF8).run ⟨idle inBuffer, duplex⟩ =
          (completeMessage true content.toUTF8).run ⟨idle inBuffer, duplex⟩ := rfl
    simp only [completeMessage, Text.decodeUtf8?_toUTF8, if_true, run_pure] at hcomplete
    exact hcomplete
  | binary bytes => rfl
  | close farewell fits =>
    -- A close frame has to be short enough for a control frame.
    have hcontrol : ¬ (Farewell.payload farewell).size > maxControl := Nat.not_lt.mpr fits.size_le
    simp only [receiveFrame, Utterance.opcode, Utterance.payload, clientHeader, run_get_bind,
      hcontrol, Farewell.ofPayload?_payload fits.code_lt]
    rfl

/-- What the client has said arrives, with its answer prepared if it is a close. -/
theorem exists_run_read (duplex : Duplex)
    (h : inBuffer ++ buffer = utterance.frame mask ++ rest)
    (hsize : utterance.payload.size ≤ maxFrame) :
    ∃ inBuffer' buffer', read.run ⟨idle inBuffer, duplex.holding buffer⟩ =
        (.ok utterance.incoming, ⟨poised inBuffer' .empty utterance.state utterance.reply,
          duplex.holding buffer'⟩) ∧
      inBuffer' ++ buffer' = rest := by
  obtain ⟨inBuffer', buffer', hframe, hrest⟩ := exists_run_nextFrame duplex h hsize
  refine ⟨inBuffer', buffer', ?_, hrest⟩
  have hreceive : receiveNext.run ⟨idle inBuffer, duplex.holding buffer⟩ =
      (.ok (some utterance.incoming), ⟨poised inBuffer' .empty utterance.state utterance.reply,
        duplex.holding buffer'⟩) := by
    rw [receiveNext, run_bind_of_ok hframe]
    exact run_receiveFrame inBuffer' (duplex.holding buffer') utterance mask
  simp only [read, run_get_bind]
  rw [if_neg (by simp), frameBound, readWithin, run_bind_of_ok run_settleReplies,
    run_bind_of_ok hreceive]
  rfl

end Wire

end Inbound.WebSocket
