import Fluoride.ErtmAcks

/-!
# The acknowledgement window of an ERTM channel

In ERTM mode every new I-frame that `l2c_fcr_get_next_xmit_sdu_seg` sends leaves
a copy on `waiting_for_ack_q`, numbered by `next_tx_seq`, and `process_reqseq`
releases the copies a received ReqSeq acknowledges, from `last_rx_ack` on. The
queue is therefore the window of frames sent and not yet acknowledged
(`AckWindow`): as many as `next_tx_seq` lies ahead of `last_rx_ack` on the cycle
of 64 sequence numbers, carrying the TxSeqs from `last_rx_ack` on, in order.

The transmit side is taken apart once: the TxSeq a control word carries
(`iFrameControl_txSeq`), what `prepare_I_frame` does to the channel and to the
frame (`prepareIFrame_some`), what the segmentation takes (`nextPiece_some`),
and then a new frame (`l2cFcrGetNextXmitSduSeg_new`) or a retransmission
(`l2cFcrGetNextXmitSduSeg_retransmit`). With the receive side of `ErtmAcks`,
every event of the channel keeps the window (`channelStep_preserves`), and so
does every run (`channelRun_ackWindow`).

The window needs the peer's window to have at most 63 frames, so that it never
wraps the cycle, and the MPS to be at most 65527 bytes: above that the 16-bit
`len` of an unsegmented frame wraps when `prepare_I_frame` counts its FCS, and
the copy kept for acknowledgement loses its control word.
-/

namespace Fluoride.ErtmWindow

open ByteBuffer L2capBuffers ErtmChannel ErtmReceive ErtmAcks

/-- Bits 1 to 6 of a word: the TxSeq field, read through a 16-bit store. -/
theorem storedTxSeq_field (word : Nat) :
    ((word % 65536) &&& l2capFcrTxSeqBits) >>> l2capFcrTxSeqBitsShift = word / 2 % 64 := by
  rw [Nat.shiftRight_and_distrib, show l2capFcrTxSeqBits >>> l2capFcrTxSeqBitsShift = 2 ^ 6 - 1 from rfl,
    Nat.and_two_pow_sub_one_eq_mod, Nat.shiftRight_eq_div_pow, show l2capFcrTxSeqBitsShift = 1 from rfl]
  omega

/-- The control word of a new I-frame carries `next_tx_seq` as its TxSeq: the SAR
bits, the F bit and the ReqSeq all lie outside bits 1 to 6. -/
theorem iFrameControl_txSeq (ccb : FcrChannel) (buffer : BtHdr UInt8)
    (nextTxBound : ccb.nextTxSeq < 64) :
    iFrameControl ccb buffer false / 2 % 64 = ccb.nextTxSeq := by
  have field (word : Nat) : word / 2 % 64 = (word >>> 1) &&& (2 ^ 6 - 1) := by
    rw [Nat.and_two_pow_sub_one_eq_mod, Nat.shiftRight_eq_div_pow]
  have segment : ((buffer.layerSpecific &&& l2capFcrSegBits) >>> 1) &&& (2 ^ 6 - 1) = 0 := by
    rw [Nat.shiftRight_and_distrib, Nat.and_assoc]
    simp [l2capFcrSegBits]
  have sequence : ((ccb.nextTxSeq <<< l2capFcrTxSeqBitsShift) >>> 1) &&& (2 ^ 6 - 1) =
      ccb.nextTxSeq := by
    rw [show l2capFcrTxSeqBitsShift = 1 from rfl, Nat.shiftLeft_shiftRight,
      Nat.and_two_pow_sub_one_eq_mod]
    omega
  have finalBit : (l2capFcrFBit >>> 1) &&& (2 ^ 6 - 1) = 0 := rfl
  have expected : ((ccb.nextSeqExpected <<< l2capFcrReqSeqBitsShift) >>> 1) &&& (2 ^ 6 - 1) = 0 := by
    rw [Nat.and_two_pow_sub_one_eq_mod, Nat.shiftLeft_eq, Nat.shiftRight_eq_div_pow,
      show l2capFcrReqSeqBitsShift = 8 from rfl]
    omega
  rw [field]
  unfold iFrameControl
  simp only [Bool.false_eq_true, ↓reduceIte]
  split_ifs <;> simp only [Nat.shiftRight_or_distrib, Nat.and_or_distrib_right, segment, sequence,
    finalBit, expected, Nat.or_zero, Nat.zero_or]

/-- What `prepare_I_frame` can do: the channel owes no answer any more, counts a
new frame, and in ERTM mode records the acknowledgement sent; the frame gets its
control word after the basic header and, unless the FCS is bypassed, a length
that counts the FCS and the FCS after the payload. -/
theorem prepareIFrame_some (ccb next : FcrChannel) (buffer frame : BtHdr UInt8)
    (isRetransmission : Bool)
    (prepared : prepareIFrame ccb buffer isRetransmission = some (next, frame)) :
    next = { ccb with
      sendFRsp := false
      nextTxSeq := if isRetransmission then ccb.nextTxSeq
        else (ccb.nextTxSeq + 1) &&& l2capFcrSeqModulo
      lastAckSent := if ccb.peerMode = l2capFcrErtmMode then ccb.nextSeqExpected
        else ccb.lastAckSent } ∧
    ∃ controlled, store? buffer.data (buffer.offset + l2capPktOverhead)
        (le16 (iFrameControl ccb buffer isRetransmission)) = some controlled ∧
      if ccb.bypassFcs then frame = { buffer with data := controlled }
      else ∃ counted final,
        store? controlled buffer.offset
          (le16 (u16 ((buffer.len : Int) + l2capFcsLen - l2capPktOverhead))) = some counted ∧
        store? counted (buffer.offset + buffer.len)
          (le16 (l2cFcrTxGetFcs { buffer with data := counted })) = some final ∧
        frame = { buffer with data := final, len := u16 (buffer.len + l2capFcsLen) } := by
  unfold prepareIFrame at prepared
  extract_lets ctrlWord unsent counted acked at prepared
  have ackedIs : acked = { ccb with
      sendFRsp := false
      nextTxSeq := if isRetransmission then ccb.nextTxSeq
        else (ccb.nextTxSeq + 1) &&& l2capFcrSeqModulo
      lastAckSent := if ccb.peerMode = l2capFcrErtmMode then ccb.nextSeqExpected
        else ccb.lastAckSent } := by
    cases isRetransmission <;> by_cases ertm : ccb.peerMode = l2capFcrErtmMode <;>
      simp [acked, counted, unsent, ertm]
  have bypassIs : acked.bypassFcs = ccb.bypassFcs := by
    rw [ackedIs]
  rw [bypassIs] at prepared
  simp only [Option.bind_eq_bind, Option.bind_eq_some_iff] at prepared
  obtain ⟨controlled, stored, rest⟩ := prepared
  rw [← ackedIs]
  split_ifs at rest with bypassed
  · simp only [pure, Option.some.injEq, Prod.mk.injEq] at rest
    exact ⟨rest.1.symm, controlled, stored, by simp [bypassed, rest.2]⟩
  · simp only [Option.bind_eq_some_iff, pure, Option.some.injEq, Prod.mk.injEq] at rest
    obtain ⟨counted, countedStored, final, finalStored, reached, built⟩ := rest
    refine ⟨reached.symm, controlled, stored, ?_⟩
    rw [if_neg bypassed]
    exact ⟨counted, final, countedStored, finalStored, built.symm⟩

/-- What `prepare_I_frame` does to the window: a new frame advances
`next_tx_seq`, a retransmission leaves it. -/
theorem prepareIFrame_window (ccb next : FcrChannel) (buffer frame : BtHdr UInt8)
    (isRetransmission : Bool)
    (prepared : prepareIFrame ccb buffer isRetransmission = some (next, frame)) :
    windowView next = (ccb.waitingForAckQ,
      if isRetransmission then ccb.nextTxSeq else (ccb.nextTxSeq + 1) &&& l2capFcrSeqModulo,
      ccb.lastRxAck, ccb.peerMode, ccb.peerTxWinSz, ccb.txMps) := by
  rw [(prepareIFrame_some _ _ _ _ _ prepared).1]
  rfl

/-- The frame `prepare_I_frame` returns keeps its place, grows by the FCS unless
it is bypassed, and holds the control word after the basic header. -/
theorem prepareIFrame_control (ccb next : FcrChannel) (buffer frame : BtHdr UInt8)
    (isRetransmission : Bool)
    (prepared : prepareIFrame ccb buffer isRetransmission = some (next, frame))
    (roomForControl : l2capPktOverhead + 2 ≤ buffer.len) :
    frame.offset = buffer.offset ∧
      frame.len = (if ccb.bypassFcs then buffer.len else u16 (buffer.len + l2capFcsLen)) ∧
      readLe16 frame.data (buffer.offset + l2capPktOverhead) =
        iFrameControl ccb buffer isRetransmission % 65536 := by
  obtain ⟨-, controlled, stored, framed⟩ := prepareIFrame_some _ _ _ _ _ prepared
  obtain ⟨controlInside, controlledIs⟩ := store?_some _ _ _ _ stored
  have controlRead : readLe16 controlled (buffer.offset + l2capPktOverhead) =
      iFrameControl ccb buffer isRetransmission % 65536 := by
    rw [controlledIs, readLe16_writeAt_self _ _ _ (by simp only [length_le16] at controlInside; omega)]
  split_ifs at framed with bypassed
  · subst framed
    exact ⟨rfl, by simp [bypassed], controlRead⟩
  · obtain ⟨counted, final, countedStored, finalStored, rfl⟩ := framed
    obtain ⟨lengthInside, countedIs⟩ := store?_some _ _ _ _ countedStored
    obtain ⟨fcsInside, finalIs⟩ := store?_some _ _ _ _ finalStored
    simp only [length_le16] at lengthInside fcsInside
    have countedLength : counted.length = controlled.length := by
      rw [countedIs, length_writeAt _ _ _ (by simpa using lengthInside)]
    refine ⟨rfl, by simp [bypassed], ?_⟩
    rw [finalIs, readLe16_writeAt_of_before _ _ _ _ (by omega) (by omega), countedIs,
      readLe16_writeAt_of_after _ _ _ _ (by simp [l2capPktOverhead]) (by omega), controlRead]

/-- What `nextPiece` can do: take the next piece of the head SDU without
touching the window; the piece is at most `max_pdu` bytes, and a clone the
segmentation made fits its 16-bit allocation size. -/
theorem nextPiece_some (ccb next : FcrChannel) (maxPdu : Nat) (xmit : BtHdr UInt8)
    (firstSeg midSeg lastSeg : Bool) (sduLen : Nat)
    (pieced : nextPiece ccb maxPdu = some (xmit, firstSeg, midSeg, lastSeg, sduLen, next)) :
    Keeps ccb next ∧ xmit.len ≤ maxPdu ∧
      (firstSeg = true →
        xmit.len + BtHdr.headerSize + (l2capMinOffset + l2capSduLenOffset) + l2capFcsLen < 65536) := by
  unfold nextPiece at pieced
  simp only [Option.bind_eq_bind, Option.bind_eq_some_iff] at pieced
  obtain ⟨buffer, -, rest⟩ := pieced
  by_cases segmenting : buffer.len > maxPdu
  · rw [if_pos segmenting, Option.bind_eq_some_iff] at rest
    obtain ⟨copy, cloned, built⟩ := rest
    simp only [Option.pure_def, Option.some.injEq, Prod.mk.injEq] at built
    obtain ⟨xmitIs, -, -, -, -, nextIs⟩ := built
    obtain ⟨fits, -, copyLength, -⟩ := l2cFcrCloneBuf_some _ _ _ _ cloned
    subst xmitIs nextIs
    exact ⟨rfl, by simp [copyLength], fun _ => by simpa [copyLength] using fits⟩
  · rw [if_neg segmenting] at rest
    simp only [Option.pure_def, Option.some.injEq, Prod.mk.injEq] at rest
    obtain ⟨xmitIs, firstIs, -, -, -, nextIs⟩ := rest
    subst xmitIs nextIs firstIs
    exact ⟨rfl, by simpa using segmenting, by simp⟩

/-- A new I-frame: when nothing waits for retransmission, the frame taken from
the transmit queue leaves a copy on `waiting_for_ack_q` whose TxSeq is the old
`next_tx_seq`, and `next_tx_seq` advances. This needs an ERTM channel whose MPS
leaves room for the headers and FCS in a 16-bit length. -/
theorem l2cFcrGetNextXmitSduSeg_new (ccb next : FcrChannel) (frame : BtHdr UInt8)
    (ertm : ccb.peerMode = l2capFcrErtmMode) (mpsBound : ccb.txMps ≤ 65527)
    (nextTxBound : ccb.nextTxSeq < 64) (nothingToRetransmit : ccb.retransQ = [])
    (sent : l2cFcrGetNextXmitSduSeg ccb 0 = some (frame, next)) :
    ∃ copy, windowView next = (ccb.waitingForAckQ ++ [copy],
        (ccb.nextTxSeq + 1) &&& l2capFcrSeqModulo, ccb.lastRxAck, ccb.peerMode, ccb.peerTxWinSz,
        ccb.txMps) ∧ storedTxSeq copy = ccb.nextTxSeq := by
  unfold l2cFcrGetNextXmitSduSeg at sent
  rw [nothingToRetransmit] at sent
  dsimp -zeta only at sent
  extract_lets maxPdu at sent
  have maxPduIs : maxPdu = ccb.txMps := by
    simp [maxPdu]
  rw [Option.bind_eq_bind, Option.bind_eq_some_iff] at sent
  obtain ⟨⟨xmit, firstSeg, midSeg, lastSeg, sduLen, pieced⟩, piece, rest⟩ := sent
  obtain ⟨keepsPiece, pieceLength, startFits⟩ := nextPiece_some _ _ _ _ _ _ _ _ piece
  rw [maxPduIs] at pieceLength
  dsimp -zeta only at rest
  extract_lets stepped headed sar tail at rest
  obtain ⟨-, nextSame, -, modeSame, -, mpsSame⟩ := (keeps_iff _ _).mp keepsPiece
  have headedLength : headed.len = xmit.len + 6 + (if firstSeg then 2 else 0) := by
    have fits : xmit.len + 8 < 65536 := by omega
    simp only [headed, stepped]
    split_ifs <;> simp only [u16, l2capPktOverhead, l2capFcrOverhead, l2capSduLenOverhead] <;> omega
  rw [Option.bind_eq_bind, Option.bind_eq_some_iff] at rest
  obtain ⟨headerData, -, rest⟩ := rest
  have tailed : ∃ data, tail data = some (frame, next) := by
    split_ifs at rest
    · rw [Option.bind_eq_some_iff] at rest
      obtain ⟨data, -, jumped⟩ := rest
      exact ⟨data, jumped⟩
    · simp only [Option.pure_def, Option.bind_some] at rest
      exact ⟨headerData, rest⟩
  obtain ⟨data, jumped⟩ := tailed
  simp only [tail, Option.bind_eq_bind, Option.bind_eq_some_iff] at jumped
  obtain ⟨⟨prepared, preparedFrame⟩, preparing, finishing⟩ := jumped
  have preparedWindow := prepareIFrame_window _ _ _ _ _ preparing
  simp only [windowView, Bool.false_eq_true, ↓reduceIte, Prod.mk.injEq] at preparedWindow
  obtain ⟨wackPrepared, nextPrepared, lastPrepared, modePrepared, sizePrepared, mpsPrepared⟩ :=
    preparedWindow
  have preparedErtm : prepared.peerMode = l2capFcrErtmMode := by
    rw [modePrepared, modeSame, ertm]
  dsimp only at finishing
  rw [if_pos preparedErtm, Option.bind_eq_some_iff] at finishing
  obtain ⟨wack, cloned, built⟩ := finishing
  simp only [Option.pure_def, Option.some.injEq, Prod.mk.injEq] at built
  obtain ⟨-, rfl⟩ := built
  refine ⟨{ wack with
    len := if prepared.bypassFcs then wack.len else wack.len - l2capFcsLen
    layerSpecific := preparedFrame.layerSpecific }, ?_, ?_⟩
  · simp only [windowView, wackPrepared, nextPrepared, lastPrepared, modePrepared, sizePrepared,
      mpsPrepared, nextSame]
    obtain ⟨wackSame, -, lastSame, -, sizeSame, -⟩ := (keeps_iff _ _).mp keepsPiece
    rw [wackSame, lastSame, modeSame, sizeSame, mpsSame]
  · have frameRoom : l2capPktOverhead + 2 ≤ headed.len := by
      simp only [headedLength, l2capPktOverhead]
      omega
    obtain ⟨frameOffset, frameLength, frameControl⟩ :=
      prepareIFrame_control _ _ _ _ _ preparing frameRoom
    have frameLong : l2capPktOverhead + 2 ≤ preparedFrame.len := by
      have noWrap : headed.len + l2capFcsLen < 65536 := by
        simp only [headedLength, l2capFcsLen]
        split_ifs at headedLength ⊢ with starting
        · have fits := startFits starting
          simp only [BtHdr.headerSize, l2capMinOffset, l2capSduLenOffset, l2capFcsLen] at fits
          omega
        · omega
      rw [frameLength]
      dsimp only
      split_ifs
      · exact frameRoom
      · simp only [u16, l2capPktOverhead, l2capFcsLen] at noWrap frameRoom ⊢
        omega
    obtain ⟨-, wackOffset, -, wackReads⟩ := l2cFcrCloneBuf_some _ _ _ _ cloned
    unfold storedTxSeq
    dsimp only
    rw [wackOffset, wackReads _ frameLong, frameOffset, frameControl, storedTxSeq_field,
      iFrameControl_txSeq _ _ (by rw [nextSame]; exact nextTxBound), nextSame]

/-- A retransmission keeps the window: the frame comes from the retransmission
queue, and `next_tx_seq` stays. -/
theorem l2cFcrGetNextXmitSduSeg_retransmit (ccb next : FcrChannel) (frame buffer : BtHdr UInt8)
    (rest : List (BtHdr UInt8)) (maxPacketLength : Nat) (queued : ccb.retransQ = buffer :: rest)
    (sent : l2cFcrGetNextXmitSduSeg ccb maxPacketLength = some (frame, next)) : Keeps ccb next := by
  unfold l2cFcrGetNextXmitSduSeg at sent
  rw [queued] at sent
  simp only [Option.bind_eq_bind, Option.bind_eq_some_iff] at sent
  obtain ⟨⟨prepared, preparedFrame⟩, preparing, built⟩ := sent
  simp only [Option.pure_def, Option.some.injEq, Prod.mk.injEq] at built
  rw [← built.2]
  exact prepareIFrame_window _ _ _ _ _ preparing

/-- The sequence distance of the source is the distance on a cycle of 64. -/
theorem seqDistance_eq (later earlier : Nat) :
    seqDistance later earlier = SeqWindow.distance 64 later earlier := rfl

/-- The acknowledgement window of an ERTM channel, the invariant of its transmit
side: the frames waiting for an acknowledgement are as many as `next_tx_seq`
lies ahead of `last_rx_ack`, and carry the TxSeqs from `last_rx_ack` on, in
order. It holds on a channel whose peer's window has at most 63 frames and
whose MPS leaves room for an I-frame's headers and FCS in a 16-bit length. -/
structure AckWindow (ccb : FcrChannel) : Prop where
  ertm : ccb.peerMode = l2capFcrErtmMode
  windowBound : ccb.peerTxWinSz ≤ 63
  mpsBound : ccb.txMps ≤ 65527
  nextTxBound : ccb.nextTxSeq < 64
  lastAckBound : ccb.lastRxAck < 64
  count : ccb.waitingForAckQ.length = seqDistance ccb.nextTxSeq ccb.lastRxAck
  labels : ccb.waitingForAckQ.map storedTxSeq =
    SeqWindow.numbers 64 ccb.lastRxAck ccb.waitingForAckQ.length

/-- A step that keeps the window keeps the invariant. -/
theorem AckWindow.of_keeps {before after : FcrChannel} (window : AckWindow before)
    (keeps : Keeps before after) : AckWindow after := by
  obtain ⟨wackSame, nextSame, lastSame, modeSame, sizeSame, mpsSame⟩ := (keeps_iff _ _).mp keeps
  obtain ⟨ertm, windowBound, mpsBound, nextTxBound, lastAckBound, count, labels⟩ := window
  refine ⟨?_, ?_, ?_, ?_, ?_, ?_, ?_⟩ <;>
    simp only [wackSame, nextSame, lastSame, modeSame, sizeSame, mpsSame] <;> assumption

/-- `process_reqseq` keeps the invariant, whatever the control word: a SREJ
without the poll bit changes nothing, a ReqSeq beyond the window only
disconnects, and an acknowledgement releases the frames from `last_rx_ack` up
to the ReqSeq, which the window then starts at. -/
theorem AckWindow.processReqseq (ccb : FcrChannel) (ctrlWord : Nat) (window : AckWindow ccb) :
    AckWindow (processReqseq ccb ctrlWord).2.1 := by
  by_cases srej : SrejWithoutPoll ctrlWord
  · rw [processReqseq_srejNoPoll _ _ srej]
    exact window
  by_cases within : seqDistance (reqSeqOf ctrlWord) ccb.lastRxAck ≤ ccb.waitingForAckQ.length
  · obtain ⟨-, accepted⟩ := processReqseq_accept _ _ srej within
    simp only [windowView, Prod.mk.injEq] at accepted
    obtain ⟨wackIs, nextIs, lastIs, modeIs, sizeIs, mpsIs⟩ := accepted
    obtain ⟨ertm, windowBound, mpsBound, nextTxBound, lastAckBound, count, labels⟩ := window
    have passed : seqDistance (reqSeqOf ctrlWord) ccb.lastRxAck ≤
        seqDistance ccb.nextTxSeq ccb.lastRxAck := count ▸ within
    have distanceLeft : seqDistance ccb.nextTxSeq (reqSeqOf ctrlWord) =
        seqDistance ccb.nextTxSeq ccb.lastRxAck - seqDistance (reqSeqOf ctrlWord) ccb.lastRxAck :=
      SeqWindow.distance_sub (by decide : 0 < 64) _ _ _ passed
    have startIs : (ccb.lastRxAck + seqDistance (reqSeqOf ctrlWord) ccb.lastRxAck) % 64 =
        reqSeqOf ctrlWord :=
      SeqWindow.add_distance_mod (by decide : 0 < 64) _ _ (reqSeqOf_lt ctrlWord)
    refine ⟨by rw [modeIs, ertm], by rw [sizeIs]; exact windowBound, by rw [mpsIs]; exact mpsBound,
      by rw [nextIs]; exact nextTxBound, by rw [lastIs]; exact reqSeqOf_lt ctrlWord, ?_, ?_⟩
    · rw [wackIs, nextIs, lastIs, List.length_drop, distanceLeft, count]
    · rw [wackIs, lastIs, List.map_drop, labels, SeqWindow.drop_numbers, ← SeqWindow.numbers_mod,
        startIs, List.length_drop]
  · rw [processReqseq_reject _ _ srej (Nat.lt_of_not_le within)]
    exact window.of_keeps rfl

/-- A transmission the link is ready for keeps the invariant: a retransmission
keeps the window, and a new frame joins it with the next sequence number while
the window has room for it. -/
theorem AckWindow.transmit (ccb next : FcrChannel) (frame : BtHdr UInt8) (window : AckWindow ccb)
    (roomy : ccb.retransQ = [] → ccb.waitingForAckQ.length < ccb.peerTxWinSz)
    (sent : l2cFcrGetNextXmitSduSeg ccb 0 = some (frame, next)) : AckWindow next := by
  cases queued : ccb.retransQ with
  | cons buffer rest =>
    exact window.of_keeps (l2cFcrGetNextXmitSduSeg_retransmit _ _ _ _ _ _ queued sent)
  | nil =>
    have room := roomy queued
    obtain ⟨ertm, windowBound, mpsBound, nextTxBound, lastAckBound, count, labels⟩ := window
    obtain ⟨copy, viewIs, copyLabel⟩ :=
      l2cFcrGetNextXmitSduSeg_new _ _ _ ertm mpsBound nextTxBound queued sent
    simp only [windowView, Prod.mk.injEq] at viewIs
    obtain ⟨wackIs, nextIs, lastIs, modeIs, sizeIs, mpsIs⟩ := viewIs
    have wrapped : (ccb.nextTxSeq + 1) &&& l2capFcrSeqModulo = (ccb.nextTxSeq + 1) % 64 :=
      Nat.and_two_pow_sub_one_eq_mod _ 6
    have newLabel : (ccb.lastRxAck + ccb.waitingForAckQ.length) % 64 = ccb.nextTxSeq := by
      rw [count]
      exact SeqWindow.add_distance_mod (by decide : 0 < 64) _ _ nextTxBound
    have stepRoom : SeqWindow.distance 64 ccb.nextTxSeq ccb.lastRxAck + 1 < 64 := by
      rw [← seqDistance_eq, ← count]
      omega
    refine ⟨by rw [modeIs, ertm], by rw [sizeIs]; exact windowBound, by rw [mpsIs]; exact mpsBound,
      by rw [nextIs, wrapped]; exact Nat.mod_lt _ (by omega), by rw [lastIs]; exact lastAckBound,
      ?_, ?_⟩
    · rw [wackIs, nextIs, lastIs, wrapped, List.length_append, List.length_singleton,
        seqDistance_eq, SeqWindow.distance_succ (by decide : 0 < 64) _ _ stepRoom, ← seqDistance_eq,
        count]
    · rw [wackIs, lastIs, List.map_append, labels, List.length_append, List.length_singleton,
        SeqWindow.numbers_succ, newLabel, List.map_singleton, copyLabel]

/-- The test of `l2cu_get_next_channel` that picks a channel to send on: open,
not waiting for a final answer, not flowed off by the peer, and with a frame to
retransmit or, unless the ERTM window is closed, an SDU to send. -/
def readyToSend (ccb : FcrChannel) : Bool :=
  ccb.isOpen && !ccb.waitAck && !ccb.remoteBusy &&
    (!ccb.retransQ.isEmpty ||
      (!ccb.xmitHoldQ.isEmpty &&
        !(decide (ccb.peerMode = l2capFcrErtmMode) && l2cFcrIsFlowControlled ccb)))

/-- `l2c_enqueue_peer_data` on a channel in ERTM or streaming mode: the SDU joins
the transmit queue with its `event` cleared, which says that its segmentation
has not started. -/
def l2cEnqueuePeerData (ccb : FcrChannel) (sdu : BtHdr UInt8) : FcrChannel :=
  { ccb with xmitHoldQ := ccb.xmitHoldQ ++ [{ sdu with event := 0 }] }

/-- What happens to an ERTM channel: the link picks it to send
(`l2cu_get_next_buffer_to_send`), a frame arrives (`l2c_fcr_proc_pdu`), the
retransmission or acknowledgement timer expires, or the upper layer writes an
SDU. -/
inductive ChannelEvent where
  | transmit
  | receive (buffer : BtHdr UInt8)
  | retransmissionTimeout
  | ackTimeout
  | write (sdu : BtHdr UInt8)

/-- One event on the channel. A transmission the link is not ready for does
nothing; one that `l2c_fcr_get_next_xmit_sdu_seg` cannot make is undefined
behaviour in the source, a failure here. -/
def channelStep (ccb : FcrChannel) : ChannelEvent → Except FcrFailure (FcrChannel × List FcrOutput)
  | .transmit =>
    if readyToSend ccb then
      match l2cFcrGetNextXmitSduSeg ccb 0 with
      | some (frame, next) => .ok (next, [.sent frame])
      | none => .error .outOfBounds
    else .ok (ccb, [])
  | .receive buffer => l2cFcrProcPdu ccb buffer
  | .retransmissionTimeout => .ok (l2cFcrProcTout ccb)
  | .ackTimeout => .ok (l2cFcrProcAckTout ccb)
  | .write sdu => .ok (l2cEnqueuePeerData ccb sdu, [])

/-- When the link picks an ERTM channel with nothing to retransmit, its window
has room for one more frame. -/
theorem readyToSend_roomy (ccb : FcrChannel) (ertm : ccb.peerMode = l2capFcrErtmMode)
    (ready : readyToSend ccb = true) (nothingToRetransmit : ccb.retransQ = []) :
    ccb.waitingForAckQ.length < ccb.peerTxWinSz := by
  simp [readyToSend, l2cFcrIsFlowControlled, nothingToRetransmit, ertm] at ready
  omega

/-- Every event keeps the acknowledgement window: transmissions through
`AckWindow.transmit`, received frames through `process_reqseq` and the frame
lemmas of the receive side, timers and writes because they keep the window. -/
theorem channelStep_preserves : Runs.Preserves channelStep AckWindow := by
  intro ccb event next outputs window stepped
  cases event with
  | transmit =>
    simp only [channelStep] at stepped
    split_ifs at stepped with ready
    · split at stepped
      · rename_i frame sentState sent
        cases stepped
        exact AckWindow.transmit _ _ _ window (readyToSend_roomy _ window.ertm ready) sent
      · cases stepped
    · cases stepped
      exact window
  | receive buffer =>
    rcases l2cFcrProcPdu_keeps _ _ _ _ stepped with keeps | ⟨middle, ctrlWord, before, after⟩
    · exact window.of_keeps keeps
    · exact (AckWindow.processReqseq _ ctrlWord (window.of_keeps before)).of_keeps after
  | retransmissionTimeout =>
    simp only [channelStep, Except.ok.injEq] at stepped
    exact window.of_keeps (keeps_l2cFcrProcTout _ _ _ stepped)
  | ackTimeout =>
    simp only [channelStep, Except.ok.injEq] at stepped
    exact window.of_keeps (keeps_l2cFcrProcAckTout _ _ _ stepped)
  | write sdu =>
    simp only [channelStep, Except.ok.injEq, Prod.mk.injEq] at stepped
    rw [← stepped.1]
    exact window.of_keeps rfl

/-- An ERTM channel just configured with the peer's MPS and transmit window:
open, nothing sent, received or queued, all sequence numbers at zero. -/
def configuredChannel (txMps peerTxWinSz : Nat) : FcrChannel :=
  { localCid := l2capBaseApplCid
    remoteCid := l2capBaseApplCid
    txMps := txMps
    peerMode := l2capFcrErtmMode
    peerTxWinSz := peerTxWinSz
    peerMaxTransmit := 3
    ourTxWinSz := 10
    maxHeldAcks := 5
    maxRxMtu := 1000
    ownRxPool := false
    bypassFcs := false
    isOpen := true
    nextTxSeq := 0
    lastRxAck := 0
    nextSeqExpected := 0
    lastAckSent := 0
    numTries := 0
    waitAck := false
    sendFRsp := false
    remoteBusy := false
    localBusy := false
    rejSent := false
    srejSent := false
    rejAfterSrej := false
    xmitHoldQ := []
    retransQ := []
    waitingForAckQ := []
    srejRcvHoldQ := []
    pRxSdu := none
    rxSduLen := 0 }

/-- A channel just configured has its acknowledgement window, empty. -/
theorem ackWindow_configuredChannel (txMps peerTxWinSz : Nat) (windowBound : peerTxWinSz ≤ 63)
    (mpsBound : txMps ≤ 65527) : AckWindow (configuredChannel txMps peerTxWinSz) :=
  ⟨rfl, windowBound, mpsBound, Nat.zero_lt_succ 63, Nat.zero_lt_succ 63, rfl, rfl⟩

/-- Over every run of the channel from a state with its acknowledgement window,
the window holds in the state reached, and there `process_reqseq` behaves as
follows. A SREJ without the poll bit is accepted whatever its ReqSeq and changes
nothing. Any other ReqSeq is accepted exactly when it lies within the frames
waiting for an acknowledgement; beyond them the channel is disconnected and
the queue kept; within them the frames from `last_rx_ack` up to the ReqSeq,
which carry the TxSeqs `last_rx_ack`, `last_rx_ack + 1`, ..., leave the queue
and the ReqSeq becomes `last_rx_ack`. -/
theorem channelRun_ackWindow (ccb : FcrChannel) (window : AckWindow ccb)
    (events : List ChannelEvent) (final : FcrChannel) (outputs : List FcrOutput)
    (ran : Runs.run channelStep ccb events = .ok (final, outputs)) :
    AckWindow final ∧
      ∀ ctrlWord,
        (SrejWithoutPoll ctrlWord → processReqseq final ctrlWord = (true, final, [])) ∧
        (¬ SrejWithoutPoll ctrlWord →
          ((processReqseq final ctrlWord).1 = true ↔
            seqDistance (reqSeqOf ctrlWord) final.lastRxAck ≤ final.waitingForAckQ.length) ∧
          (final.waitingForAckQ.length < seqDistance (reqSeqOf ctrlWord) final.lastRxAck →
            (processReqseq final ctrlWord).2.1.waitingForAckQ = final.waitingForAckQ ∧
            (processReqseq final ctrlWord).2.2 = [.disconnect]) ∧
          (seqDistance (reqSeqOf ctrlWord) final.lastRxAck ≤ final.waitingForAckQ.length →
            (processReqseq final ctrlWord).2.1.waitingForAckQ =
              final.waitingForAckQ.drop (seqDistance (reqSeqOf ctrlWord) final.lastRxAck) ∧
            (final.waitingForAckQ.take (seqDistance (reqSeqOf ctrlWord) final.lastRxAck)).map
                storedTxSeq =
              SeqWindow.numbers 64 final.lastRxAck (seqDistance (reqSeqOf ctrlWord) final.lastRxAck) ∧
            (processReqseq final ctrlWord).2.1.lastRxAck = reqSeqOf ctrlWord)) := by
  have reached : AckWindow final :=
    Runs.run_preserves channelStep AckWindow channelStep_preserves ccb final events outputs window ran
  refine ⟨reached, fun ctrlWord => ⟨processReqseq_srejNoPoll final ctrlWord, fun notSrej => ?_⟩⟩
  refine ⟨⟨fun accepted => ?_, fun within => (processReqseq_accept _ _ notSrej within).1⟩,
    fun beyond => ?_, fun within => ?_⟩
  · by_contra beyond
    rw [processReqseq_reject _ _ notSrej (Nat.lt_of_not_le beyond)] at accepted
    cases accepted
  · rw [processReqseq_reject _ _ notSrej beyond]
    exact ⟨rfl, rfl⟩
  · obtain ⟨-, accepted⟩ := processReqseq_accept _ _ notSrej within
    simp only [windowView, Prod.mk.injEq] at accepted
    refine ⟨accepted.1, ?_, accepted.2.2.1⟩
    rw [List.map_take, reached.labels, SeqWindow.take_numbers _ _ _ within]

/-- An SDU of three bytes `b` at `L2CAP_MIN_OFFSET`, with room for the FCS. -/
def threeByteSdu (b : UInt8) : BtHdr UInt8 :=
  ⟨0, 3, l2capMinOffset, 0, List.replicate l2capMinOffset 0 ++ [b, b, b, 0, 0]⟩

/-- An RR S-frame acknowledging up to TxSeq 1 (control word `0x0101`) on
`L2CAP_BASE_APPL_CID`, after its basic header and with its FCS. -/
def rrAckOne : BtHdr UInt8 :=
  ⟨0, 4, l2capPktOverhead, 0, [4, 0, 0x40, 0, 0x01, 0x01, 0xD4, 0x14]⟩

/-- Two SDUs written and both sent, then the peer's RR for the first. -/
def writeSendAck : List ChannelEvent :=
  [.write (threeByteSdu 1), .write (threeByteSdu 2), .transmit, .transmit, .receive rrAckOne]

/-- After two frames sent and the first acknowledged, one frame waits and
`last_rx_ack` is 1: the window holds, and `process_reqseq` accepts exactly the
ReqSeqs 1 and 2 among those that are not a SREJ without the poll bit. -/
theorem channelRun_ackWindow_writeSendAck :
    ∃ final outputs, Runs.run channelStep (configuredChannel 1010 10) writeSendAck = .ok (final, outputs) ∧
      final.waitingForAckQ.length = 1 ∧ final.lastRxAck = 1 ∧ AckWindow final ∧
      ∀ ctrlWord, ¬ SrejWithoutPoll ctrlWord →
        ((processReqseq final ctrlWord).1 = true ↔
          seqDistance (reqSeqOf ctrlWord) final.lastRxAck ≤ final.waitingForAckQ.length) := by
  obtain ⟨final, outputs, ran, waiting, acked⟩ : ∃ final outputs,
      Runs.run channelStep (configuredChannel 1010 10) writeSendAck = .ok (final, outputs) ∧
        final.waitingForAckQ.length = 1 ∧ final.lastRxAck = 1 := ⟨_, _, rfl, rfl, rfl⟩
  obtain ⟨reached, reqseq⟩ := channelRun_ackWindow (configuredChannel 1010 10)
    (ackWindow_configuredChannel 1010 10 (by decide) (by decide)) writeSendAck final outputs ran
  exact ⟨final, outputs, ran, waiting, acked, reached, fun ctrlWord notSrej => ((reqseq ctrlWord).2 notSrej).1⟩

/-- A SREJ without the poll bit with ReqSeq 5, received while nothing waits for
an acknowledgement, is accepted: `process_reqseq` returns true although 5 lies
beyond the empty window. -/
theorem processReqseq_srejBeyondWindow :
    (configuredChannel 1010 10).waitingForAckQ.length <
        seqDistance (reqSeqOf 0x050D) (configuredChannel 1010 10).lastRxAck ∧
      processReqseq (configuredChannel 1010 10) 0x050D = (true, configuredChannel 1010 10, []) :=
  ⟨by decide, processReqseq_srejNoPoll _ _ (by decide)⟩

end Fluoride.ErtmWindow
