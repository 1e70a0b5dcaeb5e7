import Fluoride.ErtmWindow
import Fluoride.Runs

/-!
# SAR reassembly over sequences of frames

`do_sar_reassembly` (`l2c_fcr.cc`) rebuilds SDUs from the SAR bits of the
frames an ERTM or streaming channel accepts in sequence. With no SDU in
progress it takes an unsegmented frame as an SDU and opens an SDU on a start
frame, whose first two bytes announce its length; with one in progress it
appends continuation frames and completes the SDU on an end frame. Three length
checks guard the copies: a start frame needs room for the length, the length
must not pass the MTU, and the bytes so far must stay within it, which an end
frame must reach exactly.

A rejected frame leaves the SDU in progress in place. That includes a start
frame whose own data is longer than the length it announces, which is rejected
after the SDU was allocated, so that the next frames complete an SDU without
the start frame's data. The callers do not go on from
there: `process_i_frame` disconnects, and `process_stream_frame` releases the
SDU in progress (`flushingReassembly`, `streamIFrame_eq`). With that release,
over every sequence of frames, the SDU in progress stays within the announced
length and the MTU and holds the start frame's data and the continuation frames
after it, and every SDU handed up is an unsegmented frame's payload or a start
frame's data followed by the continuation frames and the end frame after it, as
long as the start frame announced (`flushingReassembly_run`).
-/

namespace Fluoride.SarReassembly

open ByteBuffer Runs ErtmChannel ErtmReceive ErtmWindow

/-- The SAR bits of a frame's control word. -/
def sarType (frame : BtHdr UInt8 × Nat) : Nat := frame.2 &&& l2capFcrSegBits

/-- A frame's payload after its control word. -/
def payload (frame : BtHdr UInt8 × Nat) : List UInt8 := frame.1.payload

/-- The SDU length in the first two bytes of a start frame's payload. -/
def announced (frame : BtHdr UInt8 × Nat) : Nat := readLe16 frame.1.data frame.1.offset

/-- A start frame's data, after the SDU length. -/
def startData (frame : BtHdr UInt8 × Nat) : List UInt8 := (payload frame).drop l2capSduLenOverhead

/-- A frame as a channel receives it: its payload lies inside its buffer, whose
offset and length are 16-bit fields. -/
def Received (frame : BtHdr UInt8 × Nat) : Prop :=
  frame.1.offset + frame.1.len ≤ frame.1.data.length ∧ frame.1.offset + frame.1.len < 65536

/-- The SAR bits take one of the four values of the source. -/
theorem sarType_cases (frame : BtHdr UInt8 × Nat) :
    sarType frame = l2capFcrUnsegSdu ∨ sarType frame = l2capFcrStartSdu ∨
      sarType frame = l2capFcrEndSdu ∨ sarType frame = l2capFcrContSdu := by
  -- the mask keeps bits 14 and 15, the two bits above `frame.2 >>> 14`
  have masked : frame.2 &&& 0xC000 = ((frame.2 >>> 14) &&& 3) <<< 14 := by
    apply Nat.eq_of_testBit_eq
    intro i
    rw [show (0xC000 : Nat) = 3 <<< 14 from rfl]
    simp only [Nat.testBit_and, Nat.testBit_shiftLeft, Nat.testBit_shiftRight]
    by_cases high : 14 ≤ i
    · have back : 14 + (i - 14) = i := by omega
      simp only [high, decide_true, Bool.true_and, back]
    · simp only [high, decide_false, Bool.false_and, Bool.and_false]
  have bounded : (frame.2 >>> 14) &&& 3 ≤ 3 := Nat.and_le_right
  simp only [sarType, l2capFcrSegBits, masked]
  obtain same | same | same | same : (frame.2 >>> 14) &&& 3 = 0 ∨ (frame.2 >>> 14) &&& 3 = 1 ∨
      (frame.2 >>> 14) &&& 3 = 2 ∨ (frame.2 >>> 14) &&& 3 = 3 := by omega
  all_goals
    rw [same]
    decide

/-- The SDU of `rxSduLen` bytes of which `bytes` have arrived, in the buffer
`do_sar_reassembly` allocates: `OBX_BUF_MIN_OFFSET` cells of headroom, the bytes
so far, and cells not yet written. -/
def sduInProgress (rxSduLen : Nat) (bytes : List UInt8) : BtHdr (Option UInt8) :=
  { event := 0, len := bytes.length, offset := obxBufMinOffset, layerSpecific := 0,
    data := List.replicate obxBufMinOffset none ++ bytes.map some ++
      List.replicate (rxSduLen - bytes.length) none }

/-- The freshly allocated SDU holds no byte yet. -/
theorem allocatedSdu_eq (rxSduLen : Nat) :
    startSdu.allocatedSdu rxSduLen = sduInProgress rxSduLen [] := by
  simp [startSdu.allocatedSdu, sduInProgress, ← List.replicate_append_replicate]

/-- The bytes of an SDU in progress are the ones that have arrived. -/
@[simp] theorem payload_sduInProgress (rxSduLen : Nat) (bytes : List UInt8) :
    (sduInProgress rxSduLen bytes).payload = bytes.map some := by
  simp [sduInProgress, BtHdr.payload, window, obxBufMinOffset]

/-- `do_sar_reassembly` on one frame, a step of a run; its result is
dropped. -/
def sarStep (ccb : FcrChannel) (frame : BtHdr UInt8 × Nat) :
    Except FcrFailure (FcrChannel × List FcrOutput) := do
  let (ccb, _, delivered) ← doSarReassembly ccb frame.1 frame.2
  pure (ccb, delivered)

/-- `do_sar_reassembly` as `process_stream_frame` calls it: a SAR error releases
the SDU in progress. -/
def flushingReassembly (ccb : FcrChannel) (frame : BtHdr UInt8 × Nat) :
    Except FcrFailure (FcrChannel × List FcrOutput) := do
  let (ccb, packetOk, delivered) ← doSarReassembly ccb frame.1 frame.2
  pure (if packetOk then ccb else { ccb with pRxSdu := none }, delivered)

/-- `process_stream_frame` reassembles an I-frame by `flushingReassembly`, after
dropping the SDU in progress when a frame was lost. -/
theorem streamIFrame_eq (ccb : FcrChannel) (buffer : BtHdr UInt8) (ctrlWord : Nat) :
    streamIFrame ccb buffer ctrlWord =
      flushingReassembly
        { ccb with
          pRxSdu :=
            if (ctrlWord &&& l2capFcrTxSeqBits) >>> l2capFcrTxSeqBitsShift ≠ ccb.nextSeqExpected then
              none
            else ccb.pRxSdu
          nextSeqExpected :=
            (((ctrlWord &&& l2capFcrTxSeqBits) >>> l2capFcrTxSeqBitsShift) + 1) &&&
              l2capFcrSeqModulo }
        (buffer, ctrlWord) := rfl

/-! ## One frame -/

section OneFrame

variable (ccb : FcrChannel) (buffer : BtHdr UInt8)

/-- A frame the SAR state does not allow is rejected and changes nothing. -/
theorem doSarReassembly_outOfState (ctrlWord : Nat)
    (notAllowed : sarStateOk ccb buffer (ctrlWord &&& l2capFcrSegBits) = false) :
    doSarReassembly ccb buffer ctrlWord = .ok (ccb, false, []) := by
  simp [doSarReassembly, notAllowed]

/-- An unsegmented frame with no SDU in progress is handed up as it is. -/
theorem doSarReassembly_unseg (ctrlWord : Nat) (idle : ccb.pRxSdu = none)
    (unsegmented : ctrlWord &&& l2capFcrSegBits = l2capFcrUnsegSdu) :
    doSarReassembly ccb buffer ctrlWord = .ok (ccb, true, [.delivered buffer.cells]) := by
  simp [doSarReassembly, sarStateOk, idle, unsegmented, l2capFcrUnsegSdu, l2capFcrStartSdu]

/-- A start frame with no SDU in progress and room for the SDU length goes to
`startSdu`. -/
theorem doSarReassembly_start (ctrlWord : Nat) (idle : ccb.pRxSdu = none)
    (start : ctrlWord &&& l2capFcrSegBits = l2capFcrStartSdu) (long : l2capSduLenOverhead ≤ buffer.len) :
    doSarReassembly ccb buffer ctrlWord = startSdu ccb buffer := by
  have notShort : ¬ buffer.len < l2capSduLenOverhead := by omega
  simp [doSarReassembly, sarStateOk, idle, start, notShort, l2capFcrStartSdu, l2capFcrUnsegSdu]

/-- A continuation or end frame with an SDU in progress goes to `appendToSdu`. -/
theorem doSarReassembly_append (ctrlWord : Nat) (sdu : BtHdr (Option UInt8))
    (inProgress : ccb.pRxSdu = some sdu)
    (later : ctrlWord &&& l2capFcrSegBits = l2capFcrEndSdu ∨
      ctrlWord &&& l2capFcrSegBits = l2capFcrContSdu) :
    doSarReassembly ccb buffer ctrlWord = appendToSdu ccb sdu buffer (ctrlWord &&& l2capFcrSegBits) := by
  have notFirst : ¬ (ctrlWord &&& l2capFcrSegBits = l2capFcrUnsegSdu ∨
      ctrlWord &&& l2capFcrSegBits = l2capFcrStartSdu) := by
    rcases later with same | same <;> simp [same, l2capFcrEndSdu, l2capFcrContSdu, l2capFcrUnsegSdu,
      l2capFcrStartSdu]
  have notUnseg : ¬ ctrlWord &&& l2capFcrSegBits = l2capFcrUnsegSdu := fun same => notFirst (.inl same)
  have notStart : ¬ ctrlWord &&& l2capFcrSegBits = l2capFcrStartSdu := fun same => notFirst (.inr same)
  simp [doSarReassembly, sarStateOk, inProgress, notUnseg, notStart]

/-- A start frame announcing more than the MTU is rejected, and only the
announced length is kept. -/
theorem startSdu_overMtu (exceeds : ccb.maxRxMtu < readLe16 buffer.data buffer.offset) :
    startSdu ccb buffer =
      .ok ({ ccb with rxSduLen := readLe16 buffer.data buffer.offset }, false, []) := by
  simp [startSdu, exceeds]

/-- A start frame announcing at most the MTU allocates the SDU and appends its
data, the payload after the SDU length. -/
theorem startSdu_fits (fits : readLe16 buffer.data buffer.offset ≤ ccb.maxRxMtu) :
    startSdu ccb buffer =
      appendToSdu
        { ccb with rxSduLen := readLe16 buffer.data buffer.offset,
                   pRxSdu := some (sduInProgress (readLe16 buffer.data buffer.offset) []) }
        (sduInProgress (readLe16 buffer.data buffer.offset) [])
        { buffer with offset := u16 (buffer.offset + 2), len := buffer.len - 2 } l2capFcrStartSdu := by
  have notOver : ¬ ccb.maxRxMtu < readLe16 buffer.data buffer.offset := by omega
  simp only [startSdu, gt_iff_lt, notOver, if_false, allocatedSdu_eq]

variable (rxSduLen : Nat) (bytes : List UInt8) (sarType : Nat)

/-- A frame that would take the SDU past its announced length is rejected and
changes nothing. -/
theorem appendToSdu_overflow (announcedLength : ccb.rxSduLen = rxSduLen)
    (exceeds : rxSduLen < bytes.length + buffer.len) :
    appendToSdu ccb (sduInProgress rxSduLen bytes) buffer sarType = .ok (ccb, false, []) := by
  simp [appendToSdu, sduInProgress, announcedLength, exceeds]

/-- An end frame that leaves the SDU short of its announced length is rejected
and changes nothing. -/
theorem appendToSdu_short (announcedLength : ccb.rxSduLen = rxSduLen)
    (fits : bytes.length + buffer.len ≤ rxSduLen) (ends : sarType = l2capFcrEndSdu)
    (short : bytes.length + buffer.len ≠ rxSduLen) :
    appendToSdu ccb (sduInProgress rxSduLen bytes) buffer sarType = .ok (ccb, false, []) := by
  have notOver : ¬ rxSduLen < bytes.length + buffer.len := by omega
  simp [appendToSdu, sduInProgress, announcedLength, notOver, ends, short]

/-- The copy of an appended frame lands right after the bytes so far. -/
theorem copy?_sduInProgress (fits : bytes.length + buffer.len ≤ rxSduLen)
    (inside : buffer.offset + buffer.len ≤ buffer.data.length) :
    copy? (sduInProgress rxSduLen bytes).data
        ((sduInProgress rxSduLen bytes).offset + (sduInProgress rxSduLen bytes).len)
        (buffer.data.map some) buffer.offset buffer.len =
      some (sduInProgress rxSduLen (bytes ++ buffer.payload)).data := by
  have payloadLength : buffer.payload.length = buffer.len := BtHdr.length_payload buffer inside
  have windowLength : (window buffer.data buffer.offset buffer.len).length = buffer.len :=
    length_window _ _ _ inside
  have destinationLength : (sduInProgress rxSduLen bytes).data.length =
      obxBufMinOffset + bytes.length + (rxSduLen - bytes.length) := by
    simp [sduInProgress, Nat.add_assoc]
  have copied := copy?_eq_some (sduInProgress rxSduLen bytes).data
    ((sduInProgress rxSduLen bytes).offset + (sduInProgress rxSduLen bytes).len)
    (buffer.data.map some) buffer.offset buffer.len
    (by rw [destinationLength]; simp only [sduInProgress]; omega) (by simpa using inside)
  have extended := writeAt_append_replicate (List.replicate obxBufMinOffset none ++ bytes.map some)
    (buffer.payload.map some) none (rxSduLen - bytes.length)
  simp only [List.length_append, List.length_replicate, List.length_map, payloadLength,
    Nat.sub_sub] at extended
  rw [copied, window_map]
  simpa [sduInProgress, BtHdr.payload, windowLength, List.append_assoc] using extended

/-- An appended frame that fits extends the SDU in progress by its payload:
the SDU the copy leaves is the one with the payload's bytes arrived. -/
theorem appended_sduInProgress (fits : bytes.length + buffer.len ≤ rxSduLen)
    (inside : buffer.offset + buffer.len ≤ buffer.data.length) (small : rxSduLen < 65536) :
    { sduInProgress rxSduLen bytes with
        data := (sduInProgress rxSduLen (bytes ++ buffer.payload)).data,
        len := u16 ((sduInProgress rxSduLen bytes).len + buffer.len) } =
      sduInProgress rxSduLen (bytes ++ buffer.payload) := by
  have payloadLength : buffer.payload.length = buffer.len := BtHdr.length_payload buffer inside
  have stored : u16 ((sduInProgress rxSduLen bytes).len + buffer.len) = bytes.length + buffer.len :=
    u16_natCast _ (by simp only [sduInProgress]; omega)
  rw [stored]
  simp [sduInProgress, payloadLength]

/-- An end frame that brings the SDU to its announced length completes it: the
SDU is handed up and none is in progress any more. -/
theorem appendToSdu_end (announcedLength : ccb.rxSduLen = rxSduLen)
    (ends : sarType = l2capFcrEndSdu) (complete : bytes.length + buffer.len = rxSduLen)
    (inside : buffer.offset + buffer.len ≤ buffer.data.length) (small : rxSduLen < 65536) :
    appendToSdu ccb (sduInProgress rxSduLen bytes) buffer sarType =
      .ok ({ ccb with pRxSdu := none }, true,
        [.delivered (sduInProgress rxSduLen (bytes ++ buffer.payload))]) := by
  have arrived : (sduInProgress rxSduLen bytes).len = bytes.length := rfl
  have notOver : ¬ (sduInProgress rxSduLen bytes).len + buffer.len > ccb.rxSduLen := by omega
  have notShort : ¬ (sarType = l2capFcrEndSdu ∧
      (sduInProgress rxSduLen bytes).len + buffer.len ≠ ccb.rxSduLen) := by omega
  unfold appendToSdu
  rw [if_neg notOver, if_neg notShort,
    copy?_sduInProgress buffer rxSduLen bytes (by omega) inside]
  dsimp only
  rw [if_pos ends, appended_sduInProgress buffer rxSduLen bytes (by omega) inside small]

/-- A continuation frame that fits is appended to the SDU in progress. -/
theorem appendToSdu_cont (announcedLength : ccb.rxSduLen = rxSduLen)
    (continues : sarType ≠ l2capFcrEndSdu) (fits : bytes.length + buffer.len ≤ rxSduLen)
    (inside : buffer.offset + buffer.len ≤ buffer.data.length) (small : rxSduLen < 65536) :
    appendToSdu ccb (sduInProgress rxSduLen bytes) buffer sarType =
      .ok ({ ccb with pRxSdu := some (sduInProgress rxSduLen (bytes ++ buffer.payload)) }, true,
        []) := by
  have arrived : (sduInProgress rxSduLen bytes).len = bytes.length := rfl
  have notOver : ¬ (sduInProgress rxSduLen bytes).len + buffer.len > ccb.rxSduLen := by omega
  have notShort : ¬ (sarType = l2capFcrEndSdu ∧
      (sduInProgress rxSduLen bytes).len + buffer.len ≠ ccb.rxSduLen) := fun both =>
    continues both.1
  unfold appendToSdu
  rw [if_neg notOver, if_neg notShort, copy?_sduInProgress buffer rxSduLen bytes fits inside]
  dsimp only
  rw [if_neg continues, appended_sduInProgress buffer rxSduLen bytes fits inside small]

end OneFrame

/-- The SDU in progress determines the bytes that have arrived. -/
theorem sduInProgress_inj (rxSduLen : Nat) (first second : List UInt8)
    (same : sduInProgress rxSduLen first = sduInProgress rxSduLen second) : first = second := by
  have payloads := congrArg BtHdr.payload same
  rw [payload_sduInProgress, payload_sduInProgress] at payloads
  exact (List.map_inj_right (fun _ _ same => Option.some.inj same)).mp payloads

/-- Moving a received frame's offset past the SDU length does not wrap. -/
theorem u16_afterLength (buffer : BtHdr UInt8) (ctrlWord : Nat) (received : Received (buffer, ctrlWord))
    (long : l2capSduLenOverhead ≤ buffer.len) :
    u16 ((buffer.offset : Int) + 2) = buffer.offset + 2 := by
  obtain ⟨-, small⟩ := received
  dsimp only at small
  unfold l2capSduLenOverhead at long
  exact u16_add buffer.offset 2 (by omega)

/-- A start frame's buffer past the SDU length holds the start frame's data. -/
theorem payload_afterLength (buffer : BtHdr UInt8) (ctrlWord : Nat) (received : Received (buffer, ctrlWord))
    (long : l2capSduLenOverhead ≤ buffer.len) :
    ({ buffer with offset := u16 (buffer.offset + 2), len := buffer.len - 2 } : BtHdr UInt8).payload =
      startData (buffer, ctrlWord) := by
  simp only [BtHdr.payload, startData, payload, u16_afterLength buffer ctrlWord received long,
    drop_window, l2capSduLenOverhead]

/-- A start frame's data is its payload less the SDU length. -/
theorem length_startData (buffer : BtHdr UInt8) (ctrlWord : Nat) (received : Received (buffer, ctrlWord)) :
    (startData (buffer, ctrlWord)).length = buffer.len - l2capSduLenOverhead := by
  simp only [startData, payload, List.length_drop, BtHdr.length_payload buffer received.1]

/-! ## The state over runs -/

/-- The SDU in progress, if any, is laid out as `do_sar_reassembly` allocated
and filled it, within its announced length, which is within the MTU; the MTU
is a 16-bit field. -/
def Shaped (ccb : FcrChannel) : Prop :=
  ccb.maxRxMtu < 65536 ∧ ∀ sdu, ccb.pRxSdu = some sdu →
    ∃ bytes, sdu = sduInProgress ccb.rxSduLen bytes ∧ bytes.length ≤ ccb.rxSduLen ∧
      ccb.rxSduLen ≤ ccb.maxRxMtu

/-- With no SDU in progress the state is shaped whenever the MTU fits its
field. -/
theorem shaped_idle (ccb : FcrChannel) (mtu : ccb.maxRxMtu < 65536) (idle : ccb.pRxSdu = none) :
    Shaped ccb :=
  ⟨mtu, fun sdu inProgress => by rw [idle] at inProgress; cases inProgress⟩

/-- The frames `do_sar_reassembly` rejects, by the checks of the source: with no
SDU in progress a continuation or end frame, or a start frame too short for the
SDU length, announcing more than the MTU or carrying more data than it
announces; with one in progress an unsegmented or start frame, a frame that
passes the announced length, or an end frame that leaves the SDU short. -/
def Refused (ccb : FcrChannel) (frame : BtHdr UInt8 × Nat) : Prop :=
  match ccb.pRxSdu with
  | none =>
    sarType frame = l2capFcrEndSdu ∨ sarType frame = l2capFcrContSdu ∨
      sarType frame = l2capFcrStartSdu ∧
        (frame.1.len < l2capSduLenOverhead ∨ ccb.maxRxMtu < announced frame ∨
          announced frame < (startData frame).length)
  | some sdu =>
    sarType frame = l2capFcrUnsegSdu ∨ sarType frame = l2capFcrStartSdu ∨
      ccb.rxSduLen < sdu.len + frame.1.len ∨
      sarType frame = l2capFcrEndSdu ∧ sdu.len + frame.1.len ≠ ccb.rxSduLen

theorem refused_idle (ccb : FcrChannel) (buffer : BtHdr UInt8) (ctrlWord : Nat)
    (idle : ccb.pRxSdu = none) :
    Refused ccb (buffer, ctrlWord) ↔
      sarType (buffer, ctrlWord) = l2capFcrEndSdu ∨ sarType (buffer, ctrlWord) = l2capFcrContSdu ∨
        sarType (buffer, ctrlWord) = l2capFcrStartSdu ∧
          (buffer.len < l2capSduLenOverhead ∨ ccb.maxRxMtu < announced (buffer, ctrlWord) ∨
            announced (buffer, ctrlWord) < (startData (buffer, ctrlWord)).length) := by
  simp only [Refused, idle]

theorem refused_inProgress (ccb : FcrChannel) (buffer : BtHdr UInt8) (ctrlWord : Nat)
    (bytes : List UInt8) (inProgress : ccb.pRxSdu = some (sduInProgress ccb.rxSduLen bytes)) :
    Refused ccb (buffer, ctrlWord) ↔
      sarType (buffer, ctrlWord) = l2capFcrUnsegSdu ∨ sarType (buffer, ctrlWord) = l2capFcrStartSdu ∨
        ccb.rxSduLen < bytes.length + buffer.len ∨
        sarType (buffer, ctrlWord) = l2capFcrEndSdu ∧ bytes.length + buffer.len ≠ ccb.rxSduLen := by
  simp only [Refused, inProgress, sduInProgress]

/-- What a start frame does when no SDU is in progress. It is rejected when it
announces more than the MTU or carries more data than it announces, with the
state still shaped: only the announced length is kept, or an empty SDU of at
most the MTU stays allocated. Otherwise it opens an SDU of its announced length
holding its data. -/
theorem startSdu_cases (ccb : FcrChannel) (buffer : BtHdr UInt8) (ctrlWord : Nat) (shaped : Shaped ccb)
    (idle : ccb.pRxSdu = none) (received : Received (buffer, ctrlWord))
    (long : l2capSduLenOverhead ≤ buffer.len) :
    ∃ next packetOk delivered, startSdu ccb buffer = .ok (next, packetOk, delivered) ∧
      delivered = [] ∧ Shaped next ∧
      (packetOk = false ∧
          (ccb.maxRxMtu < announced (buffer, ctrlWord) ∨
            announced (buffer, ctrlWord) < (startData (buffer, ctrlWord)).length) ∧
          (next.pRxSdu = ccb.pRxSdu ∨ next.pRxSdu = some (sduInProgress next.rxSduLen [])) ∨
        packetOk = true ∧ announced (buffer, ctrlWord) ≤ ccb.maxRxMtu ∧
          (startData (buffer, ctrlWord)).length ≤ announced (buffer, ctrlWord) ∧
          next.rxSduLen = announced (buffer, ctrlWord) ∧
          next.pRxSdu = some (sduInProgress next.rxSduLen (startData (buffer, ctrlWord)))) := by
  by_cases exceeds : ccb.maxRxMtu < announced (buffer, ctrlWord)
  · -- the announced length passes the MTU: only the length is kept
    exact ⟨_, false, [], startSdu_overMtu ccb buffer exceeds, rfl, shaped_idle _ shaped.1 idle,
      .inl ⟨rfl, .inl exceeds, .inl rfl⟩⟩
  · have fits : announced (buffer, ctrlWord) ≤ ccb.maxRxMtu := by omega
    rw [startSdu_fits ccb buffer fits]
    have afterLength := payload_afterLength buffer ctrlWord received long
    have dataLength := length_startData buffer ctrlWord received
    have moved := u16_afterLength buffer ctrlWord received long
    have allocated : Shaped { ccb with rxSduLen := announced (buffer, ctrlWord),
                                       pRxSdu := some (sduInProgress (announced (buffer, ctrlWord)) []) } :=
      ⟨shaped.1, fun sdu inProgress => ⟨[], (Option.some.inj inProgress).symm, Nat.zero_le _, fits⟩⟩
    obtain ⟨inside, -⟩ := received
    dsimp only at inside
    unfold l2capSduLenOverhead at long dataLength
    by_cases overflow : announced (buffer, ctrlWord) < buffer.len - 2
    · -- the start frame's own data passes the length it announces: rejected,
      -- with the empty SDU left allocated
      refine ⟨_, false, [], appendToSdu_overflow _ _ (announced (buffer, ctrlWord)) [] _ rfl
        (by simpa using overflow), rfl, allocated, .inl ⟨rfl, .inr ?_, .inr rfl⟩⟩
      rw [dataLength]
      exact overflow
    · have fitsData : ([] : List UInt8).length + (buffer.len - 2) ≤ announced (buffer, ctrlWord) := by
        rw [List.length_nil]
        omega
      have insideData : u16 ((buffer.offset : Int) + 2) + (buffer.len - 2) ≤ buffer.data.length := by
        rw [moved]
        omega
      have opened := appendToSdu_cont
        { ccb with rxSduLen := announced (buffer, ctrlWord),
                   pRxSdu := some (sduInProgress (announced (buffer, ctrlWord)) []) }
        { buffer with offset := u16 (buffer.offset + 2), len := buffer.len - 2 }
        (announced (buffer, ctrlWord)) [] l2capFcrStartSdu rfl (by decide) fitsData insideData
        (Nat.lt_of_le_of_lt fits shaped.1)
      have dataFits : (startData (buffer, ctrlWord)).length ≤ announced (buffer, ctrlWord) := by
        omega
      refine ⟨_, true, [], opened, rfl, ⟨shaped.1, fun sdu inProgress => ?_⟩,
        .inr ⟨rfl, fits, dataFits, rfl, ?_⟩⟩
      · refine ⟨startData (buffer, ctrlWord), ?_, dataFits, fits⟩
        rw [← afterLength, ← List.nil_append (BtHdr.payload _)]
        exact (Option.some.inj inProgress).symm
      · rw [afterLength, List.nil_append]

/-- What `do_sar_reassembly` does with one frame: reject a frame it refuses,
handing nothing up and keeping no byte of it, or accept it: hand up an
unsegmented frame, open an SDU with a start frame's data, append a continuation
frame, or complete the SDU with an end frame and hand it up. A rejection leaves
the SDU in progress as it was, or, for a start frame that carries more data than
it announces, an empty SDU allocated. -/
inductive Handles (ccb : FcrChannel) (frame : BtHdr UInt8 × Nat) :
    FcrChannel → Bool → List FcrOutput → Prop
  | rejected (next : FcrChannel) (refused : Refused ccb frame)
    (kept : next.pRxSdu = ccb.pRxSdu ∨ next.pRxSdu = some (sduInProgress next.rxSduLen [])) :
    Handles ccb frame next false []
  | unsegmented (accepted : ¬ Refused ccb frame) (idle : ccb.pRxSdu = none)
    (unsegmented : sarType frame = l2capFcrUnsegSdu) :
    Handles ccb frame ccb true [.delivered frame.1.cells]
  | started (next : FcrChannel) (accepted : ¬ Refused ccb frame) (idle : ccb.pRxSdu = none)
    (start : sarType frame = l2capFcrStartSdu) (length : next.rxSduLen = announced frame)
    (opened : next.pRxSdu = some (sduInProgress next.rxSduLen (startData frame))) :
    Handles ccb frame next true []
  | continued (next : FcrChannel) (bytes : List UInt8) (accepted : ¬ Refused ccb frame)
    (inProgress : ccb.pRxSdu = some (sduInProgress ccb.rxSduLen bytes))
    (continues : sarType frame = l2capFcrContSdu) (length : next.rxSduLen = ccb.rxSduLen)
    (appended : next.pRxSdu = some (sduInProgress ccb.rxSduLen (bytes ++ payload frame))) :
    Handles ccb frame next true []
  | ended (next : FcrChannel) (bytes : List UInt8) (accepted : ¬ Refused ccb frame)
    (inProgress : ccb.pRxSdu = some (sduInProgress ccb.rxSduLen bytes))
    (ends : sarType frame = l2capFcrEndSdu) (idle : next.pRxSdu = none)
    (complete : (bytes ++ payload frame).length = ccb.rxSduLen) :
    Handles ccb frame next true [.delivered (sduInProgress ccb.rxSduLen (bytes ++ payload frame))]

/-- `packet_ok` is false exactly on the frames refused, and then nothing is
handed up. -/
theorem Handles.packetOk_eq_false {ccb next : FcrChannel} {frame : BtHdr UInt8 × Nat}
    {packetOk : Bool} {delivered : List FcrOutput}
    (handles : Handles ccb frame next packetOk delivered) :
    (packetOk = false ↔ Refused ccb frame) ∧ (packetOk = false → delivered = []) := by
  cases handles with
  | rejected _ refused => exact ⟨iff_of_true rfl refused, fun _ => rfl⟩
  | unsegmented accepted => exact ⟨iff_of_false nofun accepted, nofun⟩
  | started _ accepted => exact ⟨iff_of_false nofun accepted, nofun⟩
  | continued _ _ accepted => exact ⟨iff_of_false nofun accepted, nofun⟩
  | ended _ _ accepted => exact ⟨iff_of_false nofun accepted, nofun⟩

/-- A continuation or end frame with an SDU in progress is rejected, appended,
or completes the SDU, and the state stays shaped. -/
theorem appendToSdu_handles (ccb : FcrChannel) (buffer : BtHdr UInt8) (ctrlWord : Nat)
    (shaped : Shaped ccb) (bytes : List UInt8)
    (inProgress : ccb.pRxSdu = some (sduInProgress ccb.rxSduLen bytes))
    (received : Received (buffer, ctrlWord))
    (later : sarType (buffer, ctrlWord) = l2capFcrEndSdu ∨ sarType (buffer, ctrlWord) = l2capFcrContSdu) :
    ∃ next packetOk delivered,
      appendToSdu ccb (sduInProgress ccb.rxSduLen bytes) buffer (sarType (buffer, ctrlWord)) =
        .ok (next, packetOk, delivered) ∧
      Shaped next ∧ Handles ccb (buffer, ctrlWord) next packetOk delivered := by
  obtain ⟨arrived, same, arrivedFits, announcedFits⟩ := shaped.2 _ inProgress
  have sameBytes := sduInProgress_inj _ _ _ same
  subst sameBytes
  have small : ccb.rxSduLen < 65536 := Nat.lt_of_le_of_lt announcedFits shaped.1
  have inside := received.1
  have payloadLength : (payload (buffer, ctrlWord)).length = buffer.len :=
    BtHdr.length_payload buffer inside
  have refused := refused_inProgress ccb buffer ctrlWord bytes inProgress
  have notFirst : ¬ (sarType (buffer, ctrlWord) = l2capFcrUnsegSdu ∨
      sarType (buffer, ctrlWord) = l2capFcrStartSdu) := by
    rcases later with same | same <;> simp [same, l2capFcrEndSdu, l2capFcrContSdu, l2capFcrUnsegSdu,
      l2capFcrStartSdu]
  by_cases exceeds : ccb.rxSduLen < bytes.length + buffer.len
  · -- past the announced length: rejected, nothing changes
    exact ⟨ccb, false, [], appendToSdu_overflow ccb buffer _ bytes _ rfl exceeds, shaped,
      .rejected ccb (refused.mpr (.inr (.inr (.inl exceeds)))) (.inl rfl)⟩
  · have fits : bytes.length + buffer.len ≤ ccb.rxSduLen := by omega
    have extended : Shaped { ccb with
        pRxSdu := some (sduInProgress ccb.rxSduLen (bytes ++ payload (buffer, ctrlWord))) } := by
      refine ⟨shaped.1, fun sdu extendedSdu => ⟨_, (Option.some.inj extendedSdu).symm, ?_, announcedFits⟩⟩
      rw [List.length_append, payloadLength]
      exact fits
    rcases later with ends | continues
    · by_cases complete : bytes.length + buffer.len = ccb.rxSduLen
      · have accepted : ¬ Refused ccb (buffer, ctrlWord) := by
          rw [refused]
          rintro (first | first | tooLong | ⟨-, short⟩)
          · exact notFirst (.inl first)
          · exact notFirst (.inr first)
          · exact exceeds tooLong
          · exact short complete
        refine ⟨_, true, _, appendToSdu_end ccb buffer _ bytes _ rfl ends complete inside small,
          shaped_idle _ shaped.1 rfl, .ended _ bytes accepted inProgress ends rfl ?_⟩
        rw [List.length_append, payloadLength, complete]
      · -- an end frame that leaves the SDU short: rejected, nothing changes
        exact ⟨ccb, false, [], appendToSdu_short ccb buffer _ bytes _ rfl fits ends complete, shaped,
          .rejected ccb (refused.mpr (.inr (.inr (.inr ⟨ends, complete⟩)))) (.inl rfl)⟩
    · have notEnd : sarType (buffer, ctrlWord) ≠ l2capFcrEndSdu := by
        rw [continues]
        decide
      have accepted : ¬ Refused ccb (buffer, ctrlWord) := by
        rw [refused]
        rintro (first | first | tooLong | ⟨ends, -⟩)
        · exact notFirst (.inl first)
        · exact notFirst (.inr first)
        · exact exceeds tooLong
        · exact notEnd ends
      exact ⟨_, true, [], appendToSdu_cont ccb buffer _ bytes _ rfl notEnd fits inside small,
        extended, .continued _ bytes accepted inProgress continues rfl rfl⟩

/-- What one frame does from a shaped state: `do_sar_reassembly` succeeds, the
state stays shaped, and the frame is handled in one of the five ways. -/
theorem doSarReassembly_handles (ccb : FcrChannel) (buffer : BtHdr UInt8) (ctrlWord : Nat)
    (shaped : Shaped ccb) (received : Received (buffer, ctrlWord)) :
    ∃ next packetOk delivered, doSarReassembly ccb buffer ctrlWord = .ok (next, packetOk, delivered) ∧
      Shaped next ∧ Handles ccb (buffer, ctrlWord) next packetOk delivered := by
  have outOfState (notAllowed : sarStateOk ccb buffer (ctrlWord &&& l2capFcrSegBits) = false)
      (refused : Refused ccb (buffer, ctrlWord)) :
      ∃ next packetOk delivered, doSarReassembly ccb buffer ctrlWord = .ok (next, packetOk, delivered) ∧
        Shaped next ∧ Handles ccb (buffer, ctrlWord) next packetOk delivered :=
    ⟨ccb, false, [], doSarReassembly_outOfState ccb buffer ctrlWord notAllowed, shaped,
      .rejected ccb refused (.inl rfl)⟩
  cases state : ccb.pRxSdu with
  | none =>
    have refused := refused_idle ccb buffer ctrlWord state
    rcases sarType_cases (buffer, ctrlWord) with unsegmented | start | ends | continues
    · have accepted : ¬ Refused ccb (buffer, ctrlWord) := by
        rw [refused, unsegmented]
        simp [l2capFcrUnsegSdu, l2capFcrEndSdu, l2capFcrContSdu, l2capFcrStartSdu]
      exact ⟨ccb, true, _, doSarReassembly_unseg ccb buffer ctrlWord state unsegmented, shaped,
        .unsegmented accepted state unsegmented⟩
    · by_cases long : l2capSduLenOverhead ≤ buffer.len
      · obtain ⟨next, packetOk, delivered, started, nothing, nextShaped, verdict⟩ :=
          startSdu_cases ccb buffer ctrlWord shaped state received long
        rw [doSarReassembly_start ccb buffer ctrlWord state start long]
        refine ⟨next, packetOk, delivered, started, nextShaped, ?_⟩
        rcases verdict with ⟨rejected, refusedBy, kept⟩ | ⟨accepted, fits, dataFits, length, opened⟩
        · rw [rejected, nothing]
          exact .rejected next (refused.mpr (.inr (.inr ⟨start, .inr refusedBy⟩))) kept
        · have notRefused : ¬ Refused ccb (buffer, ctrlWord) := by
            rw [refused, start]
            rintro (other | other | ⟨-, short | exceeds | overflow⟩)
            · exact absurd other (by decide)
            · exact absurd other (by decide)
            · omega
            · omega
            · omega
          rw [accepted, nothing]
          exact .started next notRefused state start length opened
      · -- too short to hold the SDU length
        apply outOfState
        · simp [sarStateOk, state, sarType] at start ⊢
          omega
        · exact refused.mpr (.inr (.inr ⟨start, .inl (by omega)⟩))
    · apply outOfState
      · simp_all [sarStateOk, sarType, l2capFcrEndSdu, l2capFcrUnsegSdu, l2capFcrStartSdu]
      · exact refused.mpr (.inl ends)
    · apply outOfState
      · simp_all [sarStateOk, sarType, l2capFcrContSdu, l2capFcrUnsegSdu, l2capFcrStartSdu]
      · exact refused.mpr (.inr (.inl continues))
  | some sdu =>
    obtain ⟨arrived, same, -, -⟩ := shaped.2 sdu state
    subst same
    have refused := refused_inProgress ccb buffer ctrlWord arrived state
    rcases sarType_cases (buffer, ctrlWord) with first | first | later | later
    · apply outOfState
      · simp_all [sarStateOk, sarType]
      · exact refused.mpr (.inl first)
    · apply outOfState
      · simp_all [sarStateOk, sarType]
      · exact refused.mpr (.inr (.inl first))
    all_goals
      rw [doSarReassembly_append ccb buffer ctrlWord _ state (by simp_all [sarType])]
      exact appendToSdu_handles ccb buffer ctrlWord shaped arrived state received (by simp_all)

/-! ## The frames behind the SDUs -/

/-- After the frames `taken`, the SDU in progress, if any, holds the data of the
last start frame and the payloads of the continuation frames after it, and has
the length that start frame announced. -/
def Opened (taken : List (BtHdr UInt8 × Nat)) (ccb : FcrChannel) : Prop :=
  ccb.pRxSdu = none ∨
    ∃ before start middle, taken = before ++ start :: middle ∧
      sarType start = l2capFcrStartSdu ∧ announced start = ccb.rxSduLen ∧
      (∀ frame ∈ middle, sarType frame = l2capFcrContSdu) ∧
      ccb.pRxSdu = some (sduInProgress ccb.rxSduLen (startData start ++ middle.flatMap payload))

/-- The bytes an SDU handed up after the frames `taken` may hold: the payload of
the last frame, unsegmented, or the data of a start frame followed by the
payloads of the continuation frames and of the end frame that came last, as
long as the start frame announced. -/
def DeliveredBy (taken : List (BtHdr UInt8 × Nat)) (bytes : List UInt8) : Prop :=
  (∃ before frame, taken = before ++ [frame] ∧ sarType frame = l2capFcrUnsegSdu ∧
      bytes = payload frame) ∨
    ∃ before start middle last, taken = before ++ start :: middle ++ [last] ∧
      sarType start = l2capFcrStartSdu ∧ (∀ frame ∈ middle, sarType frame = l2capFcrContSdu) ∧
      sarType last = l2capFcrEndSdu ∧ bytes = startData start ++ middle.flatMap payload ++ payload last ∧
      bytes.length = announced start

/-- An output is an SDU handed up, whose bytes some of the frames `taken`
delivered. -/
def HandsUp (taken : List (BtHdr UInt8 × Nat)) (output : FcrOutput) : Prop :=
  ∃ sdu bytes, output = .delivered sdu ∧ sdu.payload = bytes.map some ∧
    ∃ handedAt, handedAt <+: taken ∧ DeliveredBy handedAt bytes

/-- More frames do not change what the earlier ones delivered. -/
theorem HandsUp.extend {taken : List (BtHdr UInt8 × Nat)} {output : FcrOutput}
    (handsUp : HandsUp taken output) (more : List (BtHdr UInt8 × Nat)) :
    HandsUp (taken ++ more) output := by
  obtain ⟨sdu, bytes, sent, bytesOf, handedAt, before, delivered⟩ := handsUp
  exact ⟨sdu, bytes, sent, bytesOf, handedAt, before.trans (List.prefix_append taken more), delivered⟩

/-- What a SDU handed up comes from: an unsegmented frame, or a start frame
whose data is within the length it announces. -/
theorem deliveredBy_source (taken : List (BtHdr UInt8 × Nat)) (bytes : List UInt8)
    (delivered : DeliveredBy taken bytes) :
    (∃ frame ∈ taken, sarType frame = l2capFcrUnsegSdu) ∨
      ∃ start ∈ taken, sarType start = l2capFcrStartSdu ∧
        (startData start).length ≤ announced start := by
  rcases delivered with ⟨before, frame, split, unsegmented, -⟩ |
    ⟨before, start, middle, last, split, starts, -, -, bytesOf, complete⟩
  · exact .inl ⟨frame, by simp [split], unsegmented⟩
  · refine .inr ⟨start, by simp [split], starts, ?_⟩
    rw [← complete, bytesOf, List.append_assoc, List.length_append]
    exact Nat.le_add_right _ _

/-- The history law of a reassembly that releases the SDU in progress on a SAR
error: the state is shaped, the SDU in progress holds what the frames since
the last start frame brought, and every SDU handed up was delivered by the
frames. -/
structure Reassembled (taken : List (BtHdr UInt8 × Nat)) (past : List FcrOutput) (ccb : FcrChannel) :
    Prop where
  shaped : Shaped ccb
  opened : Opened taken ccb
  handedUp : ∀ output ∈ past, HandsUp taken output

/-- `flushingReassembly` keeps what `do_sar_reassembly` did, and drops the SDU
in progress when the frame was rejected. -/
theorem flushingReassembly_eq (ccb next : FcrChannel) (frame : BtHdr UInt8 × Nat) (packetOk : Bool)
    (delivered : List FcrOutput)
    (reassembled : doSarReassembly ccb frame.1 frame.2 = .ok (next, packetOk, delivered)) :
    flushingReassembly ccb frame =
      .ok (if packetOk then next else { next with pRxSdu := none }, delivered) := by
  rw [flushingReassembly, reassembled]
  rfl

/-- One frame keeps the history law: a rejected frame leaves no SDU in progress,
a start frame opens one with its data, a continuation frame extends it, and an
unsegmented frame or an end frame hands up what the law allows. -/
theorem flushingReassembly_reassembled (taken : List (BtHdr UInt8 × Nat)) (past : List FcrOutput)
    (ccb : FcrChannel) (frame : BtHdr UInt8 × Nat) (holds : Reassembled taken past ccb)
    (received : Received frame) :
    ∃ next emitted, flushingReassembly ccb frame = .ok (next, emitted) ∧
      Reassembled (taken ++ [frame]) (past ++ emitted) next := by
  obtain ⟨buffer, ctrlWord⟩ := frame
  obtain ⟨next, packetOk, delivered, reassembled, nextShaped, handles⟩ :=
    doSarReassembly_handles ccb buffer ctrlWord holds.shaped received
  refine ⟨_, delivered,
    flushingReassembly_eq ccb next (buffer, ctrlWord) packetOk delivered reassembled, ?_⟩
  have earlier : ∀ output ∈ past, HandsUp (taken ++ [(buffer, ctrlWord)]) output :=
    fun output sent => (holds.handedUp output sent).extend _
  cases handles with
  | rejected _ _ _ =>
    rw [List.append_nil]
    exact ⟨shaped_idle _ nextShaped.1 rfl, .inl rfl, earlier⟩
  | unsegmented _ idle unsegmented =>
    -- the frame itself is handed up
    refine ⟨nextShaped, .inl idle, List.forall_mem_append.mpr ⟨earlier, ?_⟩⟩
    rw [List.forall_mem_singleton]
    exact ⟨buffer.cells, payload (buffer, ctrlWord), rfl, BtHdr.payload_cells buffer, _,
      List.prefix_refl _, .inl ⟨taken, _, rfl, unsegmented, rfl⟩⟩
  | started _ _ _ start length opened =>
    rw [List.append_nil]
    refine ⟨nextShaped, .inr ⟨taken, (buffer, ctrlWord), [], rfl, start, length.symm,
      fun frame none => absurd none List.not_mem_nil, ?_⟩, earlier⟩
    rw [List.flatMap_nil, List.append_nil]
    exact opened
  | continued _ bytes _ inProgress continues length appended =>
    rw [List.append_nil, if_pos rfl]
    rcases holds.opened with idle | ⟨before, start, middle, split, starts, announcedLength, continuing, opened⟩
    · rw [idle] at inProgress
      cases inProgress
    -- the SDU in progress already holds the start frame's data and the middle frames
    have sameBytes := sduInProgress_inj _ _ _ (Option.some.inj (inProgress.symm.trans opened))
    refine ⟨nextShaped, .inr ⟨before, start, middle ++ [(buffer, ctrlWord)], ?_, starts, ?_, ?_, ?_⟩,
      earlier⟩
    · rw [split, List.append_assoc, List.cons_append]
    · rw [length]
      exact announcedLength
    · intro frame member
      rcases List.mem_append.mp member with inMiddle | last
      · exact continuing frame inMiddle
      · rw [List.mem_singleton.mp last]
        exact continues
    · rw [appended, length, sameBytes, List.flatMap_append, List.flatMap_singleton, List.append_assoc]
  | ended _ bytes _ inProgress ends idle complete =>
    rcases holds.opened with idle' | ⟨before, start, middle, split, starts, announcedLength, continuing, opened⟩
    · rw [idle'] at inProgress
      cases inProgress
    have sameBytes := sduInProgress_inj _ _ _ (Option.some.inj (inProgress.symm.trans opened))
    refine ⟨nextShaped, .inl idle, List.forall_mem_append.mpr ⟨earlier, ?_⟩⟩
    rw [List.forall_mem_singleton]
    -- the SDU completed is the start frame's data, the middle frames and this one
    refine ⟨_, bytes ++ payload (buffer, ctrlWord), rfl, payload_sduInProgress _ _, _, List.prefix_refl _,
      .inr ⟨before, start, middle, (buffer, ctrlWord), ?_, starts, continuing, ends, ?_, ?_⟩⟩
    · rw [split]
    · rw [sameBytes]
    · rw [complete, announcedLength]

/-- Over every sequence of received frames, from no SDU in progress, the
reassembly that releases the SDU in progress on a SAR error never fails, and the
history law holds of the frames and of every SDU handed up. -/
theorem flushingReassembly_run (ccb : FcrChannel) (frames : List (BtHdr UInt8 × Nat))
    (mtu : ccb.maxRxMtu < 65536) (idle : ccb.pRxSdu = none)
    (received : ∀ frame ∈ frames, Received frame) :
    ∃ final emitted, run flushingReassembly ccb frames = .ok (final, emitted) ∧
      Reassembled frames emitted final := by
  have start : Reassembled [] [] ccb := ⟨shaped_idle ccb mtu idle, .inl idle, nofun⟩
  simpa using run_succeeds_trace flushingReassembly Reassembled Received flushingReassembly_reassembled
    [] [] ccb frames start received

/-- Over every sequence of received frames, from no SDU in progress,
`do_sar_reassembly` never fails and the state stays shaped, whatever it
rejects on the way. -/
theorem sarStep_run (ccb : FcrChannel) (frames : List (BtHdr UInt8 × Nat))
    (mtu : ccb.maxRxMtu < 65536) (idle : ccb.pRxSdu = none)
    (received : ∀ frame ∈ frames, Received frame) :
    ∃ final emitted, run sarStep ccb frames = .ok (final, emitted) ∧ Shaped final := by
  have steps (taken : List (BtHdr UInt8 × Nat)) (past : List FcrOutput) (state : FcrChannel)
      (frame : BtHdr UInt8 × Nat) (shaped : Shaped state) (inside : Received frame) :
      ∃ next emitted, sarStep state frame = .ok (next, emitted) ∧ Shaped next := by
    obtain ⟨next, packetOk, delivered, reassembled, nextShaped, -⟩ :=
      doSarReassembly_handles state frame.1 frame.2 shaped inside
    refine ⟨next, delivered, ?_, nextShaped⟩
    rw [sarStep, reassembled]
    rfl
  exact run_succeeds_trace sarStep (fun _ _ state => Shaped state) Received steps [] [] ccb frames
    (shaped_idle ccb mtu idle) received

/-- Over every sequence of received frames, from no SDU in progress:
`do_sar_reassembly` run on its own never fails and keeps the SDU in progress
within its announced length and the MTU; run as `process_stream_frame` runs it,
releasing the SDU in progress on a SAR error, the SDU in progress holds the data
of the last start frame and the continuation frames after it, and every SDU
handed up is an unsegmented frame's payload or a start frame's data with the
continuation frames and the end frame after it, as long as announced; and on
every frame from a shaped state it returns, with false exactly on the frames
it refuses, handing nothing up then. -/
theorem sarReassembly_contract (ccb : FcrChannel) (frames : List (BtHdr UInt8 × Nat))
    (mtu : ccb.maxRxMtu < 65536) (idle : ccb.pRxSdu = none)
    (received : ∀ frame ∈ frames, Received frame) :
    (∃ final emitted, run sarStep ccb frames = .ok (final, emitted) ∧ Shaped final) ∧
      (∃ final emitted, run flushingReassembly ccb frames = .ok (final, emitted) ∧
        Shaped final ∧ Opened frames final ∧ ∀ output ∈ emitted, HandsUp frames output) ∧
      ∀ (state : FcrChannel) (frame : BtHdr UInt8 × Nat), Shaped state → Received frame →
        ∃ next packetOk delivered,
          doSarReassembly state frame.1 frame.2 = .ok (next, packetOk, delivered) ∧
          (packetOk = false ↔ Refused state frame) ∧ (packetOk = false → delivered = []) := by
  refine ⟨sarStep_run ccb frames mtu idle received, ?_, ?_⟩
  · obtain ⟨final, emitted, ran, reassembled⟩ := flushingReassembly_run ccb frames mtu idle received
    exact ⟨final, emitted, ran, reassembled.shaped, reassembled.opened, reassembled.handedUp⟩
  · intro state frame shaped inside
    obtain ⟨next, packetOk, delivered, reassembled, -, handles⟩ :=
      doSarReassembly_handles state frame.1 frame.2 shaped inside
    exact ⟨next, packetOk, delivered, reassembled, handles.packetOk_eq_false⟩

/-- A start frame announcing three bytes and carrying two, then an end frame
with the third: one SDU is handed up, and it is the frames' data. -/
theorem sarReassembly_contract_startEnd :
    let frames : List (BtHdr UInt8 × Nat) :=
      [(⟨0, 4, 0, 0, [3, 0, 7, 8]⟩, l2capFcrStartSdu), (⟨0, 1, 0, 0, [9]⟩, l2capFcrEndSdu)]
    (∀ frame ∈ frames, Received frame) ∧
      ∃ final emitted, run flushingReassembly (configuredChannel 1010 10) frames = .ok (final, emitted) ∧
        emitted.length = 1 ∧ ∀ output ∈ emitted, HandsUp frames output := by
  intro frames
  have inside : ∀ frame ∈ frames, Received frame := by
    simp [frames, Received]
  obtain ⟨-, ⟨final, emitted, ran, -, -, handedUp⟩, -⟩ :=
    sarReassembly_contract (configuredChannel 1010 10) frames (by decide) rfl inside
  -- the run, evaluated once, hands up one SDU
  obtain ⟨final', emitted', ran', one⟩ : ∃ final' emitted',
      run flushingReassembly (configuredChannel 1010 10) frames = .ok (final', emitted') ∧
        emitted'.length = 1 := ⟨_, _, rfl, rfl⟩
  rw [ran', Except.ok.injEq, Prod.mk.injEq] at ran
  obtain ⟨-, same⟩ := ran
  rw [← same] at handedUp
  exact ⟨inside, final', emitted', ran', one, handedUp⟩

/-- Without the release, a start frame whose data passes the length it announces
leaves the empty SDU allocated, and the end frame after it completes an SDU
without the start frame's data, which no frame delivered. -/
theorem sarStep_rejectedStart :
    let frames : List (BtHdr UInt8 × Nat) :=
      [(⟨0, 8, 0, 0, [4, 0, 1, 2, 3, 4, 5, 6]⟩, l2capFcrStartSdu),
        (⟨0, 4, 0, 0, [7, 8, 9, 10]⟩, l2capFcrEndSdu)]
    ∃ final sdu, run sarStep (configuredChannel 1010 10) frames = .ok (final, [.delivered sdu]) ∧
      sdu.payload = [7, 8, 9, 10].map some ∧ ¬ HandsUp frames (.delivered sdu) := by
  intro frames
  refine ⟨{ configuredChannel 1010 10 with rxSduLen := 4 }, sduInProgress 4 [7, 8, 9, 10], rfl,
    by decide, ?_⟩
  rintro ⟨-, bytes, -, -, handedAt, before, delivered⟩
  -- the frames hold no unsegmented frame, and the start frame overflows its length
  rcases deliveredBy_source handedAt _ delivered with ⟨frame, member, unsegmented⟩ |
    ⟨start, member, starts, fits⟩
  · have inFrames := before.subset member
    simp only [frames, List.mem_cons, List.not_mem_nil, or_false] at inFrames
    rcases inFrames with same | same <;> rw [same] at unsegmented <;> exact absurd unsegmented (by decide)
  · have inFrames := before.subset member
    simp only [frames, List.mem_cons, List.not_mem_nil, or_false] at inFrames
    rcases inFrames with same | same
    · rw [same] at fits
      exact absurd fits (by decide)
    · rw [same] at starts
      exact absurd starts (by decide)

end Fluoride.SarReassembly
