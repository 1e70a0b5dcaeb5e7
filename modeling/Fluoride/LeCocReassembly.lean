import Fluoride.LeCocSegmentation
import Fluoride.Runs

/-!
# Reassembling SDUs on an LE credit-based channel

`l2c_lcc_proc_pdu` (`l2c_fcr.cc`) takes the information payload of each K-frame
that arrives on an LE credit-based channel. A first K-frame announces the SDU
length; the receiver allocates that many bytes, keeps them in `ble_sdu` with the
announced length in `ble_sdu_length`, and appends the payload of every later
K-frame until the SDU is complete, when it hands it up. A later K-frame that
would pass the announced length throws the SDU away and disconnects.

Between K-frames the receiver is `Consistent`: either no SDU is in progress and
a first frame is expected, or a proper part of an announced SDU has arrived, in
an allocation of the announced length. Every step keeps that from every input
(`l2cLccProcPdu_consistent`), so over every sequence of incoming K-frames no
step fails, no copy passes the announced length, and every SDU handed up fills
its allocation (`procPdus_safe`). Fed the K-frames that
`l2c_lcc_get_next_xmit_sdu_seg` makes of an SDU, the receiver hands up exactly
that SDU (`sendSdu_roundTrip`).
-/

namespace Fluoride.LeCocReassembly

open ByteBuffer L2capBuffers Segments LeCocSegmentation

/-- The fields of `tL2C_CCB` that `l2c_lcc_proc_pdu` reads and writes. The SDU in
progress has a cell per byte of its allocation, `none` for one not yet written. -/
structure LccReceiver where
  localMps : Nat
  localMtu : Nat
  isFirstSeg : Bool
  bleSdu : Option (BtHdr (Option UInt8))
  bleSduLength : Nat

/-- What `l2c_lcc_proc_pdu` cannot do: follow a null `ble_sdu`, or copy outside a
buffer. -/
inductive LccFailure where
  | nullSdu
  | copyOutOfBounds
deriving Repr, DecidableEq

/-- What `l2c_lcc_proc_pdu` makes the channel do: hand a complete SDU up
(`L2CEVT_L2CAP_DATA`), or disconnect (`l2cu_disconnect_chnl`). -/
inductive LccOutput where
  | delivered (sdu : BtHdr (Option UInt8))
  | disconnected
deriving Repr, DecidableEq

/-- The receiver after it has handed an SDU up or thrown it away. -/
def LccReceiver.reset (ccb : LccReceiver) : LccReceiver :=
  { ccb with isFirstSeg := true, bleSdu := none, bleSduLength := 0 }

/-- The end of `l2c_lcc_proc_pdu`: copy the buffer's window after what the SDU
holds, then hand the SDU up when it has the announced length. -/
def appendSegment (ccb : LccReceiver) (sdu : BtHdr (Option UInt8)) (buffer : BtHdr UInt8) :
    Except LccFailure (LccReceiver × List LccOutput) := do
  let some data := copy? sdu.data (sdu.offset + sdu.len) (buffer.data.map some) buffer.offset
      buffer.len
    | throw .copyOutOfBounds
  let sdu := { sdu with len := u16 (sdu.len + buffer.len), data := data }
  if sdu.len = ccb.bleSduLength then
    return (ccb.reset, [.delivered sdu])
  else if sdu.len < ccb.bleSduLength then
    return ({ ccb with isFirstSeg := false, bleSdu := some sdu }, [])
  else
    return ({ ccb with bleSdu := some sdu }, [])

/-- `l2c_lcc_proc_pdu`: drop a buffer longer than the local MPS; on a first
segment check and strip the SDU length and allocate the SDU, on a later one
check the room left; then append. The header fields `osi_malloc` leaves
unwritten are zero. -/
def l2cLccProcPdu (ccb : LccReceiver) (buffer : BtHdr UInt8) :
    Except LccFailure (LccReceiver × List LccOutput) :=
  if buffer.len > ccb.localMps then .ok (ccb, [])
  else if ccb.isFirstSeg then
    if buffer.len < 2 then .ok (ccb, [])
    else
      let sduLength := readLe16 buffer.data buffer.offset
      if sduLength > ccb.localMtu then .ok (ccb, [])
      else
        let buffer := { buffer with len := buffer.len - 2, offset := u16 (buffer.offset + 2) }
        if sduLength < buffer.len then .ok (ccb, [])
        else
          let sdu : BtHdr (Option UInt8) :=
            { event := 0
              len := 0
              offset := 0
              layerSpecific := 0
              data := List.replicate sduLength none }
          appendSegment { ccb with bleSdu := some sdu, bleSduLength := sduLength } sdu buffer
  else
    match ccb.bleSdu with
    | none => .error .nullSdu
    | some sdu =>
      -- the room left is an `int` difference
      if (buffer.len : Int) > (ccb.bleSduLength : Int) - sdu.len then
        .ok (ccb.reset, [.disconnected])
      else appendSegment ccb sdu buffer

/-- An SDU in progress: `done` of `total` announced bytes received, at offset zero
in an allocation of `total` cells. -/
def inProgress (done : List UInt8) (total : Nat) : BtHdr (Option UInt8) :=
  { event := 0
    len := done.length
    offset := 0
    layerSpecific := 0
    data := done.map some ++ List.replicate (total - done.length) none }

/-- The receiver waiting for the rest of an SDU of which `done` has arrived. -/
def holding (ccb : LccReceiver) (done : List UInt8) (total : Nat) : LccReceiver :=
  { ccb with isFirstSeg := false, bleSdu := some (inProgress done total), bleSduLength := total }

/-- The receiver states that `l2c_lcc_proc_pdu` keeps between K-frames. -/
inductive Consistent : LccReceiver → Prop where
  | idle (ccb : LccReceiver) (first : ccb.isFirstSeg = true) (noSdu : ccb.bleSdu = none) :
      Consistent ccb
  | assembling (ccb : LccReceiver) (done : List UInt8) (total : Nat) (short : done.length < total)
      (announcedFits : total < 65536) : Consistent (holding ccb done total)

/-- What the receiver emits from a consistent state: an SDU handed up has every
cell of its allocation written, at offset zero. -/
def Complete : LccOutput → Prop
  | .delivered sdu => ∃ bytes, sdu = inProgress bytes bytes.length
  | .disconnected => True

/-- A K-frame as `l2c_rcv_acl_data` hands it on: its window lies inside its
buffer, within reach of the 16-bit `offset` and `len`. -/
structure InboundPdu where
  buffer : BtHdr UInt8
  inside : buffer.offset + buffer.len ≤ buffer.data.length
  fits : buffer.offset + buffer.len < 65536

/-- The receiver's step on an inbound K-frame. -/
def procPdu (ccb : LccReceiver) (pdu : InboundPdu) : Except LccFailure (LccReceiver × List LccOutput) :=
  l2cLccProcPdu ccb pdu.buffer

/-- A reset receiver waits for a first segment. -/
theorem consistent_reset (ccb : LccReceiver) : Consistent ccb.reset :=
  .idle _ rfl rfl

/-- Resetting forgets what an SDU in progress changed. -/
@[simp] theorem reset_holding (ccb : LccReceiver) (done : List UInt8) (total : Nat) :
    (holding ccb done total).reset = ccb.reset := rfl

/-- A fresh allocation is an SDU in progress with nothing received. -/
theorem inProgress_nil (total : Nat) :
    inProgress [] total =
      { event := 0, len := 0, offset := 0, layerSpecific := 0, data := List.replicate total none } := by
  simp [inProgress]

/-- Appending a buffer that fits the room left to an SDU in progress: the SDU is
handed up when the buffer fills it, and otherwise kept with the buffer's bytes
after the earlier ones. -/
theorem appendSegment_inProgress (ccb : LccReceiver) (done : List UInt8) (buffer : BtHdr UInt8)
    (inside : buffer.offset + buffer.len ≤ buffer.data.length)
    (within : done.length + buffer.len ≤ ccb.bleSduLength) (announcedFits : ccb.bleSduLength < 65536) :
    appendSegment ccb (inProgress done ccb.bleSduLength) buffer =
      .ok (if done.length + buffer.len = ccb.bleSduLength then
          (ccb.reset, [.delivered (inProgress (done ++ buffer.payload) ccb.bleSduLength)])
        else
          ({ ccb with
              isFirstSeg := false
              bleSdu := some (inProgress (done ++ buffer.payload) ccb.bleSduLength) }, [])) := by
  have payloadLength : buffer.payload.length = buffer.len := length_window _ _ _ inside
  have appended := writeAt_append_replicate (done.map some) (buffer.payload.map some) none
    (ccb.bleSduLength - done.length)
  simp only [List.length_map, payloadLength] at appended
  have copied : copy? (done.map some ++ List.replicate (ccb.bleSduLength - done.length) none)
      done.length (buffer.data.map some) buffer.offset buffer.len =
      some ((done ++ buffer.payload).map some ++
        List.replicate (ccb.bleSduLength - (done.length + buffer.len)) none) := by
    rw [copy?_eq_some _ _ _ _ _ (by simp; omega) (by simpa using inside), window_map,
      ← BtHdr.payload, appended, List.map_append, Nat.sub_add_eq]
  have lenIs : u16 ((done.length : Int) + buffer.len) = done.length + buffer.len :=
    u16_natCast _ (by omega)
  have lengthIs : (done ++ buffer.payload).length = done.length + buffer.len := by
    rw [List.length_append, payloadLength]
  by_cases filled : done.length + buffer.len = ccb.bleSduLength
  · simp only [appendSegment, inProgress, Nat.zero_add, copied, lenIs, lengthIs, filled,
      ↓reduceIte]
    rfl
  · have short : done.length + buffer.len < ccb.bleSduLength := by omega
    simp only [appendSegment, inProgress, Nat.zero_add, copied, lenIs, lengthIs, filled, short,
      ↓reduceIte]
    rfl

/-- A first segment that passes its checks, announcing `total` bytes: the
receiver hands up what follows the SDU length if that is the whole SDU, and
otherwise holds it. -/
theorem l2cLccProcPdu_first (ccb : LccReceiver) (buffer : BtHdr UInt8) (total : Nat)
    (first : ccb.isFirstSeg = true) (inside : buffer.offset + buffer.len ≤ buffer.data.length)
    (fits : buffer.offset + buffer.len < 65536) (atLeastTwo : 2 ≤ buffer.len)
    (announced : readLe16 buffer.data buffer.offset = total)
    (withinMps : buffer.len ≤ ccb.localMps) (withinMtu : total ≤ ccb.localMtu)
    (within : buffer.len - 2 ≤ total) :
    l2cLccProcPdu ccb buffer =
      .ok (if buffer.len - 2 = total then
          (ccb.reset, [.delivered (inProgress (buffer.payload.drop 2) total)])
        else (holding ccb (buffer.payload.drop 2) total, [])) := by
  have announcedFits : total < 65536 := announced ▸ readLe16_lt _ _
  have offsetIs : u16 ((buffer.offset : Int) + 2) = buffer.offset + 2 := by
    simp only [u16]
    omega
  let stripped : BtHdr UInt8 := { buffer with len := buffer.len - 2, offset := buffer.offset + 2 }
  have strippedPayload : stripped.payload = buffer.payload.drop 2 := by
    simp only [stripped, BtHdr.payload, drop_window]
  have appended := appendSegment_inProgress
    { ccb with bleSdu := some (inProgress [] total), bleSduLength := total } [] stripped
    (by simp only [stripped]; omega) (by simp only [stripped, List.length_nil]; omega)
    announcedFits
  simp only [List.length_nil, Nat.zero_add, List.nil_append, strippedPayload, first] at appended
  have notLong : ¬ buffer.len > ccb.localMps := by omega
  have notShort : ¬ buffer.len < 2 := by omega
  have notAboveMtu : ¬ total > ccb.localMtu := by omega
  have notBelow : ¬ total < buffer.len - 2 := by omega
  simp only [l2cLccProcPdu, notLong, first, notShort, announced, notAboveMtu, offsetIs, notBelow,
    ↓reduceIte, ← inProgress_nil]
  rw [show ({ buffer with len := buffer.len - 2, offset := buffer.offset + 2 } : BtHdr UInt8) =
    stripped from rfl, appended]
  split_ifs <;> rfl

/-- A later segment on a receiver holding `done` of `total` bytes: one that
passes the room left disconnects, one that fills it hands the SDU up, any other
is held after the earlier bytes. -/
theorem l2cLccProcPdu_holding (ccb : LccReceiver) (buffer : BtHdr UInt8) (done : List UInt8)
    (total : Nat) (inside : buffer.offset + buffer.len ≤ buffer.data.length)
    (withinMps : buffer.len ≤ ccb.localMps) (announcedFits : total < 65536) :
    l2cLccProcPdu (holding ccb done total) buffer =
      .ok (if total < done.length + buffer.len then (ccb.reset, [.disconnected])
        else if done.length + buffer.len = total then
          (ccb.reset, [.delivered (inProgress (done ++ buffer.payload) total)])
        else (holding ccb (done ++ buffer.payload) total, [])) := by
  have notLong : ¬ buffer.len > ccb.localMps := by omega
  by_cases tooLong : total < done.length + buffer.len
  · have pastRoom : (buffer.len : Int) > (total : Int) - done.length := by omega
    simp [l2cLccProcPdu, holding, inProgress, LccReceiver.reset, notLong, pastRoom, tooLong]
  · have withinRoom : ¬ (buffer.len : Int) > (total : Int) - done.length := by omega
    have appended := appendSegment_inProgress (holding ccb done total) done buffer inside
      (by simp only [holding]; omega) announcedFits
    have appends : l2cLccProcPdu (holding ccb done total) buffer =
        appendSegment (holding ccb done total) (inProgress done total) buffer := by
      simp [l2cLccProcPdu, holding, inProgress, notLong, withinRoom]
    rw [show (holding ccb done total).bleSduLength = total from rfl] at appended
    rw [appends, appended]
    by_cases filled : done.length + buffer.len = total
    · simp [holding, LccReceiver.reset, filled]
    · simp [holding, filled, tooLong]

/-- A receiver that drops the buffer is unchanged. -/
theorem l2cLccProcPdu_tooLong (ccb : LccReceiver) (buffer : BtHdr UInt8)
    (tooLong : buffer.len > ccb.localMps) : l2cLccProcPdu ccb buffer = .ok (ccb, []) := by
  simp [l2cLccProcPdu, tooLong]

/-- An SDU in progress that has received all it announced is complete. -/
theorem complete_inProgress (bytes : List UInt8) (total : Nat) (filled : bytes.length = total) :
    Complete (.delivered (inProgress bytes total)) :=
  ⟨bytes, by rw [filled]⟩

/-- From a consistent state, on every inbound K-frame, `l2c_lcc_proc_pdu` succeeds,
stays consistent, and hands up only complete SDUs. -/
theorem l2cLccProcPdu_consistent (ccb : LccReceiver) (consistent : Consistent ccb)
    (pdu : InboundPdu) :
    ∃ next emitted, l2cLccProcPdu ccb pdu.buffer = .ok (next, emitted) ∧ Consistent next ∧
      ∀ output ∈ emitted, Complete output := by
  obtain ⟨buffer, inside, fits⟩ := pdu
  have payloadLength : buffer.payload.length = buffer.len := length_window _ _ _ inside
  have unchanged : ∀ state : LccReceiver, Consistent state →
      ∃ next emitted, Except.ok (state, []) = (Except.ok (next, emitted) :
        Except LccFailure (LccReceiver × List LccOutput)) ∧ Consistent next ∧
        ∀ output ∈ emitted, Complete output :=
    fun state holds => ⟨state, [], rfl, holds, by simp⟩
  cases consistent with
  | idle ccb first noSdu =>
    by_cases tooLong : buffer.len > ccb.localMps
    · rw [l2cLccProcPdu_tooLong ccb buffer tooLong]
      exact unchanged ccb (.idle ccb first noSdu)
    -- the three checks of a first segment that drop it
    by_cases tooShort : buffer.len < 2
    · simp only [l2cLccProcPdu, tooLong, first, tooShort, ↓reduceIte]
      exact unchanged ccb (.idle ccb first noSdu)
    by_cases aboveMtu : readLe16 buffer.data buffer.offset > ccb.localMtu
    · simp only [l2cLccProcPdu, tooLong, first, tooShort, aboveMtu, ↓reduceIte]
      exact unchanged ccb (.idle ccb first noSdu)
    by_cases belowLength : readLe16 buffer.data buffer.offset < buffer.len - 2
    · simp only [l2cLccProcPdu, tooLong, first, tooShort, aboveMtu, belowLength, ↓reduceIte]
      exact unchanged ccb (.idle ccb first noSdu)
    have announcedFits := readLe16_lt buffer.data buffer.offset
    rw [l2cLccProcPdu_first ccb buffer _ first inside fits (by omega) rfl (by omega) (by omega)
      (by omega)]
    have strippedLength : (buffer.payload.drop 2).length = buffer.len - 2 := by
      rw [List.length_drop, payloadLength]
    split_ifs with whole
    · refine ⟨_, _, rfl, consistent_reset ccb, ?_⟩
      simp only [List.mem_singleton, forall_eq]
      exact complete_inProgress _ _ (by omega)
    · exact ⟨_, _, rfl, .assembling ccb _ _ (by omega) announcedFits, by simp⟩
  | assembling ccb done total short announcedFits =>
    by_cases tooLong : buffer.len > ccb.localMps
    · rw [l2cLccProcPdu_tooLong (holding ccb done total) buffer tooLong]
      exact unchanged _ (.assembling ccb done total short announcedFits)
    rw [l2cLccProcPdu_holding ccb buffer done total inside (by omega) announcedFits]
    split_ifs with pastRoom filled
    · exact ⟨_, _, rfl, consistent_reset ccb, by simp [Complete]⟩
    · refine ⟨_, _, rfl, consistent_reset ccb, ?_⟩
      simp only [List.mem_singleton, forall_eq]
      exact complete_inProgress _ _ (by rw [List.length_append, payloadLength]; exact filled)
    · refine ⟨_, _, rfl, .assembling ccb _ _ ?_ announcedFits, by simp⟩
      rw [List.length_append, payloadLength]
      omega

/-- `l2c_lcc_proc_pdu` keeps the receiver consistent on every inbound K-frame. -/
theorem procPdu_preserves : Runs.Preserves procPdu Consistent := by
  intro ccb pdu next emitted consistent stepped
  obtain ⟨reached, said, succeeded, stillConsistent, _⟩ := l2cLccProcPdu_consistent ccb consistent pdu
  rw [procPdu, succeeded] at stepped
  cases stepped
  exact stillConsistent

/-- Over every sequence of inbound K-frames, from a consistent receiver, no step
fails (no null SDU is followed and no copy leaves the announced allocation), the
receiver ends consistent, and every SDU it hands up fills its allocation. -/
theorem procPdus_safe (ccb : LccReceiver) (consistent : Consistent ccb) (pdus : List InboundPdu) :
    ∃ final emitted, Runs.run procPdu ccb pdus = .ok (final, emitted) ∧ Consistent final ∧
      ∀ output ∈ emitted, Complete output := by
  obtain ⟨final, emitted, ran⟩ := Runs.run_succeeds procPdu Consistent procPdu_preserves
    (fun state pdu holds => by
      obtain ⟨next, now, stepped, _, _⟩ := l2cLccProcPdu_consistent state holds pdu
      exact ⟨next, now, stepped⟩)
    ccb pdus consistent
  refine ⟨final, emitted, ran, ?_, ?_⟩
  · exact Runs.run_preserves procPdu Consistent procPdu_preserves ccb final pdus emitted
      consistent ran
  · apply Runs.run_outputs procPdu Consistent procPdu_preserves Complete _ ccb final pdus emitted
      consistent ran
    intro state pdu next now holds stepped
    obtain ⟨reached, said, succeeded, _, good⟩ := l2cLccProcPdu_consistent state holds pdu
    rw [procPdu, succeeded] at stepped
    cases stepped
    exact good

/-- A first segment announcing an SDU of three bytes and carrying two, then a
segment with the third. -/
def threeByteSegments : List InboundPdu :=
  [⟨⟨0, 4, 0, 0, [3, 0, 7, 8]⟩, by decide, by decide⟩, ⟨⟨0, 1, 0, 0, [9]⟩, by decide, by decide⟩]

/-- A receiver waiting for a first segment takes the two segments safely. -/
theorem procPdus_safe_threeByteSegments :
    ∃ final emitted, Runs.run procPdu ⟨23, 100, true, none, 0⟩ threeByteSegments = .ok (final, emitted) ∧
      Consistent final ∧ ∀ output ∈ emitted, Complete output :=
  procPdus_safe _ (consistent_reset ⟨23, 100, true, none, 0⟩) threeByteSegments

/-- Later K-frames carrying the rest of an SDU, in pieces none of them empty and
none longer than the local MPS, to a receiver holding its start: the receiver
hands up the whole SDU and waits for a first segment again. -/
theorem run_holding (ccb : LccReceiver) (cid : Nat) (done : List UInt8) (total : Nat)
    (frames : List (BtHdr UInt8)) (pieces : List (List UInt8))
    (carried : List.Forall₂ (fun frame piece => IsL2capFrame cid piece frame) frames pieces)
    (nonEmpty : pieces ≠ []) (positive : ∀ piece ∈ pieces, 0 < piece.length)
    (withinMps : ∀ piece ∈ pieces, piece.length ≤ ccb.localMps)
    (complete : done.length + pieces.flatten.length = total) (announcedFits : total < 65536) :
    Runs.run l2cLccProcPdu (holding ccb done total) (frames.map receivedInformation) =
      .ok (ccb.reset, [.delivered (inProgress (done ++ pieces.flatten) total)]) := by
  -- the induction is on the frames, each received by a receiver holding what came before
  induction carried generalizing done with
  | nil => exact absurd rfl nonEmpty
  | @cons frame piece frames pieces isFrame rest inductionHypothesis =>
    obtain ⟨payloadIs, inside, fits, lenIs⟩ := receivedInformation_payload cid piece frame isFrame
    have stepped := l2cLccProcPdu_holding ccb (receivedInformation frame) done total inside
      (lenIs ▸ withinMps piece List.mem_cons_self) announcedFits
    rw [payloadIs, lenIs] at stepped
    simp only [List.flatten_cons, List.length_append] at complete
    have notPast : ¬ total < done.length + piece.length := by omega
    rw [List.map_cons]
    cases pieces with
    | nil =>
      have filled : done.length + piece.length = total := by simpa using complete
      cases rest
      rw [if_neg notPast, if_pos filled] at stepped
      rw [Runs.run_cons_ok _ _ _ _ _ _ stepped]
      simp [Except.map]
    | cons next others =>
      have nextLength := positive next (by simp)
      have short : done.length + piece.length ≠ total := by
        simp only [List.flatten_cons, List.length_append] at complete
        omega
      rw [if_neg notPast, if_neg short] at stepped
      rw [Runs.run_cons_ok _ _ _ _ _ _ stepped,
        inductionHypothesis (done ++ piece) (List.cons_ne_nil _ _)
          (fun later member => positive later (List.mem_cons_of_mem _ member))
          (fun later member => withinMps later (List.mem_cons_of_mem _ member))
          (by rw [List.length_append]; omega)]
      simp [Except.map]

/-- The K-frames that carry an SDU, received in order by a receiver waiting for a
first segment, whose MTU and MPS are at least the SDU length and the sender's
MPS: the receiver hands up exactly the SDU and waits for a first segment again. -/
theorem run_kFramePayloads (ccb : LccReceiver) (cid mps : Nat) (sdu : List UInt8)
    (frames : List (BtHdr UInt8))
    (carried : List.Forall₂ (fun frame information => IsL2capFrame cid information frame) frames
      (kFramePayloads mps sdu))
    (first : ccb.isFirstSeg = true) (validMps : l2capLeMinMps ≤ mps)
    (withinMtu : sdu.length ≤ ccb.localMtu) (withinMps : mps ≤ ccb.localMps)
    (lengthFits : sdu.length < 65536) :
    Runs.run l2cLccProcPdu ccb (frames.map receivedInformation) =
      .ok (ccb.reset, [.delivered (inProgress sdu sdu.length)]) := by
  simp only [l2capLeMinMps] at validMps
  have allWithinMps : ∀ information ∈ kFramePayloads mps sdu, information.length ≤ ccb.localMps :=
    fun information member => by
      have bounded := length_le_of_mem_kFramePayloads mps sdu information
        (by simp only [l2capLeMinMps]; omega) member
      omega
  simp only [kFramePayloads] at carried allWithinMps
  obtain ⟨firstFrame, laterFrames, isFirst, rest, rfl⟩ := List.forall₂_cons_right_iff.mp carried
  obtain ⟨payloadIs, inside, fits, lenIs⟩ :=
    receivedInformation_payload cid _ firstFrame isFirst
  simp only [List.length_append, length_le16, List.length_take] at lenIs
  have announced : readLe16 (receivedInformation firstFrame).data
      (receivedInformation firstFrame).offset = sdu.length := by
    rw [← readLe16_window _ _ (receivedInformation firstFrame).len (by omega), ← BtHdr.payload,
      payloadIs, readLe16_le16_append, Nat.mod_eq_of_lt lengthFits]
  have stepped := l2cLccProcPdu_first ccb (receivedInformation firstFrame) sdu.length first inside
    fits (by omega) announced
    (by rw [lenIs]; simp only [l2capPktOverhead, l2capLccSduLength]; omega) withinMtu (by omega)
  rw [payloadIs, List.drop_left' (length_le16 _), lenIs] at stepped
  rw [List.map_cons]
  by_cases fitsOne : sdu.length ≤ mps - l2capPktOverhead - l2capLccSduLength
  · simp only [fitsOne, ↓reduceIte] at rest
    cases rest
    simp only [Nat.min_eq_right fitsOne, Nat.add_sub_cancel_left, ↓reduceIte,
      List.take_of_length_le fitsOne] at stepped
    rw [Runs.run_cons_ok _ _ _ _ _ _ stepped]
    simp [Except.map]
  · have cut : mps - l2capPktOverhead - l2capLccSduLength < sdu.length := by omega
    simp only [fitsOne, ↓reduceIte] at rest allWithinMps
    have notWhole : ¬ 2 + min (mps - l2capPktOverhead - l2capLccSduLength) sdu.length - 2 =
        sdu.length := by omega
    simp only [notWhole, ↓reduceIte] at stepped
    have taken : (sdu.take (mps - l2capPktOverhead - l2capLccSduLength)).length =
        mps - l2capPktOverhead - l2capLccSduLength := List.length_take_of_le (by omega)
    have positiveSize : 0 < mps - l2capPktOverhead := by
      simp only [l2capPktOverhead]
      omega
    have remaining : sdu.drop (mps - l2capPktOverhead - l2capLccSduLength) ≠ [] := by
      simp only [ne_eq, List.drop_eq_nil_iff]
      omega
    rw [Runs.run_cons_ok _ _ _ _ _ _ stepped,
      run_holding ccb cid _ sdu.length laterFrames _ rest (segments_ne_nil _ _)
        (fun piece member => length_pos_of_mem _ _ piece positiveSize remaining member)
        (fun piece member => allWithinMps piece (List.mem_cons_of_mem _ member))
        (by rw [flatten_segments, taken, List.length_drop]; omega) lengthFits,
      flatten_segments, List.take_append_drop]
    simp [Except.map]

/-- Frames that carry pieces no longer than a bound hand on information no longer
than it. -/
theorem len_le_of_forall₂ (cid bound : Nat) (frames : List (BtHdr UInt8 × Bool))
    (pieces : List (List UInt8))
    (carried : List.Forall₂ (fun frame information => IsL2capFrame cid information frame.1)
      frames pieces)
    (bounded : ∀ piece ∈ pieces, piece.length ≤ bound) :
    ∀ frame ∈ frames, (receivedInformation frame.1).len ≤ bound := by
  induction carried with
  | nil => simp
  | @cons frame piece frames pieces isFrame rest inductionHypothesis =>
    intro member isMember
    rcases List.mem_cons.mp isMember with here | later
    · rw [here, (receivedInformation_payload _ _ _ isFrame).2.2.2]
      exact bounded piece List.mem_cons_self
    · exact inductionHypothesis
        (fun other otherMember => bounded other (List.mem_cons_of_mem _ otherMember)) member later

/-- An SDU sent over an LE credit-based channel, when its first clone fits, and
received by a peer waiting for a first segment whose MTU and MPS are at least the
SDU length and the sender's MPS: the sender's calls make its K-frames, each with
at most `MPS - 4` bytes of information, the first with the SDU length, the last
alone flagged; the receiver hands up exactly the SDU, every cell written, and
waits for a first segment again. -/
theorem sendSdu_roundTrip (sender : LccSender) (receiver : LccReceiver) (fuel : Nat)
    (sdu : BtHdr UInt8) (rest : List (BtHdr UInt8)) (queued : sender.xmitHoldQ = sdu :: rest)
    (fresh : sdu.event = 0) (dynamicCid : l2capBaseApplCid ≤ sender.localCid)
    (validMps : l2capLeMinMps ≤ sender.peerMps ∧ sender.peerMps ≤ l2capLeMaxMps)
    (inside : sdu.offset + sdu.len ≤ sdu.data.length) (offsetFits : sdu.offset + sdu.len < 65536)
    (cloneFits : min sdu.len (sender.peerMps - l2capPktOverhead - l2capLccSduLength) +
      BtHdr.headerSize + l2capLccOffset + l2capFcsLen < 65536)
    (enoughFuel : sdu.len < fuel) (first : receiver.isFirstSeg = true)
    (withinMtu : sdu.len ≤ receiver.localMtu) (withinMps : sender.peerMps ≤ receiver.localMps) :
    ∃ frames, sendSdu fuel sender = some (frames, { sender with xmitHoldQ := rest }) ∧
      List.Forall₂ (fun frame information => IsL2capFrame sender.remoteCid information frame.1)
        frames (kFramePayloads sender.peerMps (window sdu.data sdu.offset sdu.len)) ∧
      (∀ frame ∈ frames, (receivedInformation frame.1).len ≤ sender.peerMps - l2capPktOverhead) ∧
      frames.map Prod.snd = List.replicate (frames.length - 1) false ++ [true] ∧
      Runs.run l2cLccProcPdu receiver (frames.map (receivedInformation ∘ Prod.fst)) =
        .ok (receiver.reset,
          [.delivered (inProgress (window sdu.data sdu.offset sdu.len) sdu.len)]) := by
  obtain ⟨frames, sent, carried, flags⟩ := sendSdu_fresh sender fuel sdu rest queued fresh
    dynamicCid validMps inside offsetFits cloneFits enoughFuel
  have windowLength : (window sdu.data sdu.offset sdu.len).length = sdu.len :=
    length_window _ _ _ inside
  have headers : List.Forall₂ (fun frame information => IsL2capFrame sender.remoteCid information
      frame) (frames.map Prod.fst) (kFramePayloads sender.peerMps (window sdu.data sdu.offset sdu.len)) :=
    List.forall₂_map_left_iff.mpr carried
  have bounded := len_le_of_forall₂ _ _ frames _ carried
    (fun information member => length_le_of_mem_kFramePayloads _ _ _ validMps.1 member)
  have received := run_kFramePayloads receiver sender.remoteCid sender.peerMps
    (window sdu.data sdu.offset sdu.len) (frames.map Prod.fst) headers first validMps.1
    (by rw [windowLength]; exact withinMtu) withinMps (by omega)
  rw [List.map_map, windowLength] at received
  exact ⟨frames, sent, carried, bounded, flags, received⟩

end Fluoride.LeCocReassembly
