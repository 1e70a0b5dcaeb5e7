import Fluoride.ErtmChannel

/-!
# An ERTM or streaming channel: the receive side

`l2c_fcr_proc_pdu` (`l2c_fcr.cc`) handles every frame that arrives on an ERTM or
streaming channel: it checks the length and the FCS, strips the control word,
waits for the final answer to a poll, lets `process_reqseq` release the frames
the peer acknowledges, and hands S-frames to `process_s_frame` and I-frames to
`process_i_frame`, which keeps the receive sequence, answers losses with REJ or
SREJ, and passes frames in sequence to `do_sar_reassembly`. Frames held while a
SREJ is outstanding are processed once it clears. `retransmit_i_frames` copies
frames waiting for an acknowledgement to the retransmission queue, and
`l2c_fcr_proc_tout` and `l2c_fcr_proc_ack_tout` handle the retransmission and
acknowledgement timers.

Timers, trace output and the statistics of `L2CAP_ERTM_STATS` are left out;
`l2c_link_check_send_pkts` appears as an output, and the transmissions it leads
to as later calls of `l2c_fcr_get_next_xmit_sdu_seg`.
-/

namespace Fluoride.ErtmReceive

open ByteBuffer L2capBuffers ErtmChannel

/-- `OBX_BUF_MIN_OFFSET`: the headroom of a reassembled SDU. -/
def obxBufMinOffset : Nat := 4

/-- `L2C_FCR_RETX_ALL_PKTS`: retransmit every frame waiting for an acknowledgement. -/
def l2cFcrRetxAllPkts : Nat := 0xFF

/-- The sequence distance `(later - earlier) & L2CAP_FCR_SEQ_MODULO` of the source,
computed on `int`s. -/
def seqDistance (later earlier : Nat) : Nat :=
  (((later : Int) - earlier) % 64).toNat

/-- The transmit sequence number in the control word of a stored I-frame. -/
def storedTxSeq (buffer : BtHdr UInt8) : Nat :=
  (readLe16 buffer.data (buffer.offset + l2capPktOverhead) &&& l2capFcrTxSeqBits) >>>
    l2capFcrTxSeqBitsShift

/-- `l2c_fcr_rx_get_fcs`: the CRC of a received frame from its basic header on,
which lies before the window. -/
def l2cFcrRxGetFcs (buffer : BtHdr UInt8) : Nat :=
  l2cFcrUpdcrc l2capFcrInitCrc
    (window buffer.data (buffer.offset - l2capPktOverhead) (buffer.len + l2capPktOverhead))

/-- The check of `do_sar_reassembly` on the SAR bits: an unsegmented or start
frame needs no SDU in progress, and a start frame room for the SDU length; a
continuation or end frame needs an SDU in progress. -/
def sarStateOk (ccb : FcrChannel) (buffer : BtHdr UInt8) (sarType : Nat) : Bool :=
  if sarType = l2capFcrUnsegSdu ∨ sarType = l2capFcrStartSdu then
    ccb.pRxSdu.isNone && !(sarType = l2capFcrStartSdu ∧ buffer.len < l2capSduLenOverhead)
  else ccb.pRxSdu.isSome

/-- The copy of `do_sar_reassembly`: append the payload to the SDU in progress
when it fits the announced length, which an end frame must fill, and hand the
SDU up on an end frame. The second component is `packet_ok`. -/
def appendToSdu (ccb : FcrChannel) (sdu : BtHdr (Option UInt8)) (buffer : BtHdr UInt8)
    (sarType : Nat) : Except FcrFailure (FcrChannel × Bool × List FcrOutput) :=
  if sdu.len + buffer.len > ccb.rxSduLen then .ok (ccb, false, [])
  else if sarType = l2capFcrEndSdu ∧ sdu.len + buffer.len ≠ ccb.rxSduLen then .ok (ccb, false, [])
  else
    match copy? sdu.data (sdu.offset + sdu.len) (buffer.data.map some) buffer.offset buffer.len with
    | none => .error .outOfBounds
    | some data =>
      if sarType = l2capFcrEndSdu then
        .ok ({ ccb with pRxSdu := none }, true,
          [.delivered { sdu with data := data, len := u16 (sdu.len + buffer.len) }])
      else .ok ({ ccb with pRxSdu := some { sdu with data := data, len := u16 (sdu.len + buffer.len) } },
        true, [])

/-- The start frame of `do_sar_reassembly`: take the SDU length off the payload,
and unless it passes the MTU allocate the SDU with `OBX_BUF_MIN_OFFSET` of
headroom and append the rest of the payload. -/
def startSdu (ccb : FcrChannel) (buffer : BtHdr UInt8) :
    Except FcrFailure (FcrChannel × Bool × List FcrOutput) :=
  if readLe16 buffer.data buffer.offset > ccb.maxRxMtu then
    .ok ({ ccb with rxSduLen := readLe16 buffer.data buffer.offset }, false, [])
  else
    appendToSdu
      { ccb with
        rxSduLen := readLe16 buffer.data buffer.offset
        pRxSdu := some (allocatedSdu (readLe16 buffer.data buffer.offset)) }
      (allocatedSdu (readLe16 buffer.data buffer.offset))
      { buffer with offset := u16 (buffer.offset + 2), len := buffer.len - 2 } l2capFcrStartSdu
where
  /-- The SDU `osi_malloc` returns, nothing in it yet. -/
  allocatedSdu (rxSduLen : Nat) : BtHdr (Option UInt8) :=
    { event := 0
      len := 0
      offset := obxBufMinOffset
      layerSpecific := 0
      data := List.replicate (obxBufMinOffset + rxSduLen) none }

/-- `do_sar_reassembly`: check the SAR bits against the SDU in progress, hand an
unsegmented frame up, start an SDU on a start frame, and append continuation and
end frames. The second component is `packet_ok`. -/
def doSarReassembly (ccb : FcrChannel) (buffer : BtHdr UInt8) (ctrlWord : Nat) :
    Except FcrFailure (FcrChannel × Bool × List FcrOutput) :=
  if !sarStateOk ccb buffer (ctrlWord &&& l2capFcrSegBits) then .ok (ccb, false, [])
  else if ctrlWord &&& l2capFcrSegBits = l2capFcrUnsegSdu then
    .ok (ccb, true, [.delivered buffer.cells])
  else if ctrlWord &&& l2capFcrSegBits = l2capFcrStartSdu then startSdu ccb buffer
  else
    match ccb.pRxSdu with
    | none => .error .nullBuffer
    | some sdu => appendToSdu ccb sdu buffer (ctrlWord &&& l2capFcrSegBits)

/-- `retransmit_i_frames`: disconnect once the peer's retransmission limit is
reached; otherwise copy to the retransmission queue the frame with the given
sequence number, or, for `L2C_FCR_RETX_ALL_PKTS`, every frame waiting for an
acknowledgement after flushing what is still queued, and count a try while
frames wait. A sequence number not found after the search leaves nothing to
copy; with no frame waiting the call returns at once. The first component is
the result of the source. -/
def retransmitIFrames (ccb : FcrChannel) (txSeq : Nat) :
    Except FcrFailure (Bool × FcrChannel × List FcrOutput) := do
  if ccb.waitingForAckQ ≠ [] ∧ ccb.peerMaxTransmit ≠ 0 ∧ ccb.numTries ≥ ccb.peerMaxTransmit then
    let (ccb, outputs) := l2cuDisconnectChnl ccb
    return (false, ccb, outputs)
  let (toCopy, ccb, outputs) ←
    if txSeq ≠ l2cFcrRetxAllPkts then
      if ccb.waitingForAckQ = [] then return (true, ccb, [])
      -- the search stops at the first frame with the sequence number
      pure ((ccb.waitingForAckQ.dropWhile (fun buffer => storedTxSeq buffer != txSeq)).take 1,
        ccb, [])
    else pure (ccb.waitingForAckQ, { ccb with retransQ := [] }, [FcrOutput.flushLinkQueue])
  let copies ← toCopy.mapM fun buffer =>
    match l2cFcrCloneBuf buffer buffer.offset buffer.len with
    | some copy => .ok { copy with layerSpecific := buffer.layerSpecific }
    | none => .error FcrFailure.outOfBounds
  let ccb := { ccb with retransQ := ccb.retransQ ++ copies }
  let ccb := if ccb.waitingForAckQ ≠ [] then { ccb with numTries := ccb.numTries + 1 } else ccb
  return (true, ccb, outputs ++ [.checkSendPkts])

/-- `process_reqseq`: a SREJ without the poll bit acknowledges nothing; any other
frame's ReqSeq must lie within the frames waiting for an acknowledgement, or the
channel is disconnected; the frames it acknowledges are released, with a
completion callback for the whole SDUs among them. The first component is the
result of the source. -/
def processReqseq (ccb : FcrChannel) (ctrlWord : Nat) : Bool × FcrChannel × List FcrOutput :=
  if ctrlWord &&& l2capFcrSFrameBit ≠ 0 ∧
      ctrlWord &&& l2capFcrSupBits = l2capFcrSupSrej <<< l2capFcrSupShift ∧
      ctrlWord &&& l2capFcrPBit = 0 then (true, ccb, [])
  else
    let reqSeq := (ctrlWord &&& l2capFcrReqSeqBits) >>> l2capFcrReqSeqBitsShift
    let numBufsAcked := seqDistance reqSeq ccb.lastRxAck
    if numBufsAcked > ccb.waitingForAckQ.length then
      let (ccb, outputs) := l2cuDisconnectChnl ccb
      (false, ccb, outputs)
    else
      let ccb := { ccb with lastRxAck := reqSeq }
      if numBufsAcked = 0 then (true, ccb, [])
      else
        let acked := ccb.waitingForAckQ.take numBufsAcked
        let fullSdusXmitted := (acked.filter fun buffer =>
          let ls := buffer.layerSpecific &&& l2capFcrSegBits
          ls = l2capFcrUnsegSdu ∨ ls = l2capFcrEndSdu).length
        let ccb := { ccb with numTries := 0, waitingForAckQ := ccb.waitingForAckQ.drop numBufsAcked }
        if fullSdusXmitted = 0 then (true, ccb, [])
        else
          -- all sent is reported as 0xFFFF
          let count :=
            if ccb.waitingForAckQ = [] ∧ ccb.xmitHoldQ = [] then 0xFFFF else fullSdusXmitted
          (true, ccb, [.txComplete count])

/-- The S-frame that answers a poll: SREJ while one is outstanding, RNR while
busy, RR otherwise. -/
def pollAnswer (ccb : FcrChannel) : Nat :=
  if ccb.srejSent then l2capFcrSupSrej else if ccb.localBusy then l2capFcrSupRnr else l2capFcrSupRr

/-- The poll bit of a received S-frame: after the checkpoint another REJ may be
sent, and an answer with the final bit is owed. -/
def pollReceived (ccb : FcrChannel) (ctrlWord : Nat) : FcrChannel :=
  if ctrlWord &&& l2capFcrPBit ≠ 0 then { ccb with rejSent := false, sendFRsp := true } else ccb

/-- The switch of `process_s_frame` on the supervisory function: RR and REJ end a
remote busy condition and retransmit every frame (RR only after a final bit or
a busy condition), RNR starts one, SREJ retransmits the frame it names. The
first component is `all_ok`. -/
def sFrameFunction (ccb : FcrChannel) (ctrlWord : Nat) :
    Except FcrFailure (Bool × FcrChannel × List FcrOutput) :=
  if (ctrlWord &&& l2capFcrSupBits) >>> l2capFcrSupShift = l2capFcrSupRr then
    if ctrlWord &&& l2capFcrFBit ≠ 0 ∨ ccb.remoteBusy then
      retransmitIFrames { ccb with remoteBusy := false } l2cFcrRetxAllPkts
    else .ok (true, { ccb with remoteBusy := false }, [])
  else if (ctrlWord &&& l2capFcrSupBits) >>> l2capFcrSupShift = l2capFcrSupRej then
    retransmitIFrames { ccb with remoteBusy := false } l2cFcrRetxAllPkts
  else if (ctrlWord &&& l2capFcrSupBits) >>> l2capFcrSupShift = l2capFcrSupRnr then
    .ok (true, { ccb with remoteBusy := true }, [])
  else
    retransmitIFrames { ccb with remoteBusy := false }
      ((ctrlWord &&& l2capFcrReqSeqBits) >>> l2capFcrReqSeqBitsShift)

/-- The end of `process_s_frame`: when all went well, an owed answer to a poll is
sent with the final bit. -/
def answerPoll (ccb : FcrChannel) (allOk : Bool) : FcrChannel × List FcrOutput :=
  if allOk ∧ ccb.sendFRsp then
    match l2cFcrSendSFrame ccb (pollAnswer ccb) l2capFcrFBit with
    | (answered, answer) => ({ answered with sendFRsp := false }, answer)
  else (ccb, [])

/-- `process_s_frame`: note a poll, act on the supervisory function, and answer
the poll. -/
def processSFrame (ccb : FcrChannel) (ctrlWord : Nat) :
    Except FcrFailure (FcrChannel × List FcrOutput) := do
  let (allOk, ccb, outputs) ← sFrameFunction (pollReceived ccb ctrlWord) ctrlWord
  let (ccb, answer) := answerPoll ccb allOk
  return (ccb, outputs ++ answer)

/-- The buffer `process_i_frame` keeps on the SREJ hold queue: with a receive
pool of the application's own, a copy that includes the control word before
the window. -/
def heldBuffer (ccb : FcrChannel) (buffer : BtHdr UInt8) : Except FcrFailure (BtHdr UInt8) :=
  if ccb.ownRxPool then
    let widened := { buffer with
      offset := u16 ((buffer.offset : Int) - l2capFcrOverhead)
      len := buffer.len + l2capFcrOverhead }
    match l2cFcrCloneBuf widened widened.offset widened.len with
    | some copy => .ok { copy with
        offset := copy.offset + l2capFcrOverhead
        len := copy.len - l2capFcrOverhead }
    | none => .error .outOfBounds
  else .ok buffer

/-- A received I-frame kept on the SREJ hold queue, its sequence number in
`layer_specific`. -/
def holdFrame (ccb : FcrChannel) (buffer : BtHdr UInt8) (txSeq : Nat) :
    Except FcrFailure FcrChannel := do
  let held ← heldBuffer ccb buffer
  return { ccb with srejRcvHoldQ := ccb.srejRcvHoldQ ++ [{ held with layerSpecific := txSeq }] }

/-- `process_i_frame` for a frame out of sequence while a SREJ is outstanding:
hold the frame the SREJ sequence asks for next while the hold queue has room,
and otherwise note that a REJ must follow. The last held frame carries its
sequence number in `layer_specific`; with nothing held the source reads
through a null pointer. -/
def holdSrejFrame (ccb : FcrChannel) (buffer : BtHdr UInt8) (txSeq : Nat) :
    Except FcrFailure (FcrChannel × List FcrOutput) :=
  match ccb.srejRcvHoldQ.getLast? with
  | none => .error .nullBuffer
  | some last =>
    if txSeq = (last.layerSpecific + 1) &&& l2capFcrSeqModulo ∧
        ccb.srejRcvHoldQ.length < ccb.ourTxWinSz then do
      let ccb ← holdFrame ccb buffer txSeq
      return (ccb, [])
    else .ok ({ ccb with rejAfterSrej := true }, [])

/-- `process_i_frame` for a frame out of sequence: drop a duplicate, hold frames
while a SREJ is outstanding, drop frames while a REJ is, and otherwise answer
one lost frame with SREJ, holding the frame, and more with REJ. -/
def processLostIFrame (ccb : FcrChannel) (buffer : BtHdr UInt8) (txSeq : Nat) :
    Except FcrFailure (FcrChannel × List FcrOutput) :=
  if seqDistance txSeq ccb.nextSeqExpected ≥ ccb.ourTxWinSz then .ok (ccb, [])
  else if ccb.srejSent then holdSrejFrame ccb buffer txSeq
  else if ccb.rejSent then .ok (ccb, [])
  else if seqDistance txSeq ccb.nextSeqExpected > 1 then
    .ok (l2cFcrSendSFrame { ccb with rejSent := true } l2capFcrSupRej 0)
  else do
    let ccb ← holdFrame ccb buffer txSeq
    return l2cFcrSendSFrame { ccb with srejSent := true } l2capFcrSupSrej 0

/-- The acknowledgement of `process_i_frame` for the frames received in
sequence: an RR, or an RNR while busy, on an open channel, unless it may wait
(the caller delays it, or fewer than `max_held_acks` are owed and the channel is
not busy), an I-frame will carry it, or frames are held. -/
def ackIFrame (ccb : FcrChannel) (delayAck : Bool) : FcrChannel × List FcrOutput :=
  if seqDistance ccb.nextSeqExpected ccb.lastAckSent ≠ 0 ∧ ccb.isOpen ∧
      !(delayAck || (decide (seqDistance ccb.nextSeqExpected ccb.lastAckSent < ccb.maxHeldAcks) &&
        !ccb.localBusy)) ∧
      (ccb.xmitHoldQ = [] ∨ l2cFcrIsFlowControlled ccb) ∧ ccb.srejRcvHoldQ = [] then
    l2cFcrSendSFrame ccb (if ccb.localBusy then l2capFcrSupRnr else l2capFcrSupRr) 0
  else (ccb, [])

/-- `process_i_frame` for the frame in sequence: clear the reject conditions,
advance the expected sequence number, reassemble, where a SAR error
disconnects, and acknowledge. -/
def acceptIFrame (ccb : FcrChannel) (buffer : BtHdr UInt8) (ctrlWord : Nat) (delayAck : Bool) :
    Except FcrFailure (FcrChannel × List FcrOutput) := do
  let (ccb, packetOk, delivered) ← doSarReassembly
    { ccb with
      rejSent := false
      srejSent := false
      nextSeqExpected :=
        (((ctrlWord &&& l2capFcrTxSeqBits) >>> l2capFcrTxSeqBitsShift) + 1) &&& l2capFcrSeqModulo }
    buffer ctrlWord
  let (ccb, more) := if packetOk then ackIFrame ccb delayAck else l2cuDisconnectChnl ccb
  return (ccb, delivered ++ more)

/-- `process_i_frame` after the checkpoint: a frame out of sequence is dropped
with an RNR while busy and otherwise goes to `processLostIFrame`; the frame in
sequence is accepted. -/
def receiveIFrame (ccb : FcrChannel) (buffer : BtHdr UInt8) (ctrlWord : Nat) (delayAck : Bool) :
    Except FcrFailure (FcrChannel × List FcrOutput) :=
  if (ctrlWord &&& l2capFcrTxSeqBits) >>> l2capFcrTxSeqBitsShift ≠ ccb.nextSeqExpected ∧
      ccb.localBusy then
    .ok (l2cFcrSendSFrame ccb l2capFcrSupRnr 0)
  else if (ctrlWord &&& l2capFcrTxSeqBits) >>> l2capFcrTxSeqBitsShift ≠ ccb.nextSeqExpected then
    processLostIFrame ccb buffer ((ctrlWord &&& l2capFcrTxSeqBits) >>> l2capFcrTxSeqBitsShift)
  else acceptIFrame ccb buffer ctrlWord delayAck

/-- The checkpoint of `process_i_frame`: a final bit retransmits every frame
waiting for an acknowledgement first. -/
def checkpointRetransmit (ccb : FcrChannel) (ctrlWord : Nat) :
    Except FcrFailure (Bool × FcrChannel × List FcrOutput) :=
  if ctrlWord &&& l2capFcrFBit ≠ 0 then retransmitIFrames ccb l2cFcrRetxAllPkts
  else .ok (true, ccb, [])

/-- `process_i_frame`: the checkpoint, and unless the retransmission limit
disconnected the channel there, the frame itself. -/
def processIFrame (ccb : FcrChannel) (buffer : BtHdr UInt8) (ctrlWord : Nat) (delayAck : Bool) :
    Except FcrFailure (FcrChannel × List FcrOutput) := do
  let (retransmitted, ccb, outputs) ← checkpointRetransmit ccb ctrlWord
  let (ccb, more) ←
    (if retransmitted then receiveIFrame ccb buffer ctrlWord delayAck else pure (ccb, []))
  return (ccb, outputs ++ more)

/-- The FCS check of `l2c_fcr_proc_pdu` and `process_stream_frame`: unless it is
bypassed, the FCS is taken off the frame, which is dropped when it does not
match. -/
def checkFcs (ccb : FcrChannel) (buffer : BtHdr UInt8) : Option (BtHdr UInt8) :=
  if ccb.bypassFcs then some buffer
  else if l2cFcrRxGetFcs { buffer with len := buffer.len - l2capFcsLen } ≠
      readLe16 buffer.data (buffer.offset + buffer.len - l2capFcsLen) then none
  else some { buffer with len := buffer.len - l2capFcsLen }

/-- A received frame without its control word. -/
def afterControl (buffer : BtHdr UInt8) : BtHdr UInt8 :=
  { buffer with
    len := buffer.len - l2capFcrOverhead
    offset := u16 (buffer.offset + l2capFcrOverhead) }

/-- `process_stream_frame` for an I-frame: flush the SDU in progress after a
lost frame, take the sequence number, and reassemble, flushing the SDU again on
a SAR error. -/
def streamIFrame (ccb : FcrChannel) (buffer : BtHdr UInt8) (ctrlWord : Nat) :
    Except FcrFailure (FcrChannel × List FcrOutput) := do
  let (ccb, packetOk, delivered) ← doSarReassembly
    { ccb with
      pRxSdu :=
        if (ctrlWord &&& l2capFcrTxSeqBits) >>> l2capFcrTxSeqBitsShift ≠ ccb.nextSeqExpected then none
        else ccb.pRxSdu
      nextSeqExpected :=
        (((ctrlWord &&& l2capFcrTxSeqBits) >>> l2capFcrTxSeqBitsShift) + 1) &&& l2capFcrSeqModulo }
    buffer ctrlWord
  return (if packetOk then ccb else { ccb with pRxSdu := none }, delivered)

/-- `process_stream_frame`: check the FCS and drop S-frames. -/
def processStreamFrame (ccb : FcrChannel) (buffer : BtHdr UInt8) :
    Except FcrFailure (FcrChannel × List FcrOutput) :=
  match checkFcs ccb buffer with
  | none => .ok (ccb, [])
  | some buffer =>
    if readLe16 buffer.data buffer.offset &&& l2capFcrSFrameBit ≠ 0 then .ok (ccb, [])
    else streamIFrame ccb (afterControl buffer) (readLe16 buffer.data buffer.offset)

/-- The REJ of `l2c_fcr_proc_pdu` for frames lost while a SREJ was outstanding. -/
def rejectAfterSrej (ccb : FcrChannel) : FcrChannel × List FcrOutput :=
  if ccb.rejAfterSrej then
    l2cFcrSendSFrame { ccb with rejAfterSrej := false, rejSent := true } l2capFcrSupRej 0
  else (ccb, [])

/-- The loop of `l2c_fcr_proc_pdu` over the frames held while a SREJ was
outstanding: each is processed as an I-frame with its acknowledgement delayed
while the channel is open, and more frames lost meanwhile are answered by a REJ. -/
def processHeldFrames (ccb : FcrChannel) :
    List (BtHdr UInt8) → Except FcrFailure (FcrChannel × List FcrOutput)
  | [] => pure (ccb, [])
  | buffer :: held => do
    -- the control word is still in the buffer, before the window
    let (ccb, outputs) ← (if ccb.isOpen then
        processIFrame ccb buffer (readLe16 buffer.data (buffer.offset - l2capFcrOverhead)) true
      else pure (ccb, []))
    let (ccb, reject) := rejectAfterSrej ccb
    let (ccb, later) ← processHeldFrames ccb held
    return (ccb, outputs ++ reject ++ later)

/-- The SREJ hold queue of `l2c_fcr_proc_pdu` once the SREJ has cleared: process
the held frames, then acknowledge them with one RR. -/
def processHeldQueue (ccb : FcrChannel) : Except FcrFailure (FcrChannel × List FcrOutput) := do
  let (ccb, outputs) ← processHeldFrames { ccb with srejRcvHoldQ := [] } ccb.srejRcvHoldQ
  let (ccb, ack) :=
    if !ccb.localBusy ∧ !ccb.rejSent ∧ !ccb.srejSent ∧ ccb.nextSeqExpected ≠ ccb.lastAckSent then
      l2cFcrSendSFrame ccb l2capFcrSupRr 0
    else (ccb, [])
  return (ccb, outputs ++ ack)

/-- The end of `l2c_fcr_proc_pdu` on an open channel: the held frames once no
SREJ is outstanding, and a request to the link to send if the window has
opened. -/
def procPduTail (ccb : FcrChannel) : Except FcrFailure (FcrChannel × List FcrOutput) := do
  let (ccb, outputs) ← (if !ccb.localBusy ∧ !ccb.srejSent ∧ ccb.srejRcvHoldQ ≠ [] then
      processHeldQueue ccb
    else pure (ccb, []))
  return (ccb, outputs ++
    if (ccb.retransQ ≠ [] ∨ ccb.xmitHoldQ ≠ []) ∧ !ccb.waitAck ∧ !l2cFcrIsFlowControlled ccb then
      [.checkSendPkts]
    else [])

/-- The final-bit check of `l2c_fcr_proc_pdu`. While a poll waits for its
answer, a frame without the final bit is dropped (`inl`), and a polled S-frame
answered first; the answer ends the wait, an S-frame with it loses its poll bit,
and with no frame waiting for an acknowledgement the tries restart. Otherwise
the final bit is ignored. `inr` carries the control word to process. -/
def finalBitCheck (ccb : FcrChannel) (ctrlWord : Nat) :
    (FcrChannel × List FcrOutput) ⊕ (FcrChannel × Nat) :=
  if ccb.waitAck then
    if ctrlWord &&& l2capFcrFBit = 0 then
      if ctrlWord &&& l2capFcrPBit ≠ 0 ∧ ctrlWord &&& l2capFcrSFrameBit ≠ 0 then
        .inl (l2cFcrSendSFrame ccb (pollAnswer ccb) l2capFcrFBit)
      else .inl (ccb, [])
    else
      -- P and F are mutually exclusive
      .inr ({ ccb with
          waitAck := false
          numTries := if ccb.waitingForAckQ = [] then 0 else ccb.numTries },
        if ctrlWord &&& l2capFcrSFrameBit ≠ 0 then ctrlWord &&& (0xFFFF ^^^ l2capFcrPBit)
        else ctrlWord)
  else .inr (ccb, ctrlWord &&& (0xFFFF ^^^ l2capFcrFBit))

/-- `l2c_fcr_proc_pdu` for a frame that passed its checks: the ReqSeq, which may
disconnect, then the S-frame or I-frame, and on a channel still open the held
frames. -/
def processFrame (ccb : FcrChannel) (buffer : BtHdr UInt8) (ctrlWord : Nat) :
    Except FcrFailure (FcrChannel × List FcrOutput) :=
  match processReqseq ccb ctrlWord with
  | (false, ccb, acked) => .ok (ccb, acked)
  | (true, ccb, acked) => do
    let (ccb, outputs) ← (if ctrlWord &&& l2capFcrSFrameBit ≠ 0 then processSFrame ccb ctrlWord
      else processIFrame ccb buffer ctrlWord false)
    let (ccb, tail) ← (if ccb.isOpen then procPduTail ccb else pure (ccb, []))
    return (ccb, acked ++ outputs ++ tail)

/-- `l2c_fcr_proc_pdu`: drop a frame too short or with a bad FCS, pass streaming
frames on, strip the control word, and check the final bit before processing. -/
def l2cFcrProcPdu (ccb : FcrChannel) (buffer : BtHdr UInt8) :
    Except FcrFailure (FcrChannel × List FcrOutput) :=
  if buffer.len < (if ccb.bypassFcs then l2capFcrOverhead else l2capFcsLen + l2capFcrOverhead) then
    .ok (ccb, [])
  else if ccb.peerMode = l2capFcrStreamMode then processStreamFrame ccb buffer
  else
    match checkFcs ccb buffer with
    | none => .ok (ccb, [])
    | some buffer =>
      match finalBitCheck ccb (readLe16 buffer.data buffer.offset) with
      | .inl dropped => .ok dropped
      | .inr (ccb, ctrlWord) => processFrame ccb (afterControl buffer) ctrlWord

/-- The poll of `l2c_fcr_proc_tout` and its kind: none while a reject is
outstanding, RNR while busy, RR otherwise. -/
def pollPeer (ccb : FcrChannel) : FcrChannel × List FcrOutput :=
  if !ccb.srejSent ∧ !ccb.rejSent then
    l2cFcrSendSFrame ccb (if ccb.localBusy then l2capFcrSupRnr else l2capFcrSupRr) l2capFcrPBit
  else (ccb, [])

/-- `l2c_fcr_proc_tout`: with a limit on the tries, count one and disconnect
past the limit; otherwise poll the peer. -/
def l2cFcrProcTout (ccb : FcrChannel) : FcrChannel × List FcrOutput :=
  if ccb.peerMaxTransmit ≠ 0 then
    if ccb.numTries + 1 > ccb.peerMaxTransmit then
      l2cuDisconnectChnl { ccb with numTries := ccb.numTries + 1 }
    else pollPeer { ccb with numTries := ccb.numTries + 1 }
  else pollPeer ccb

/-- `l2c_fcr_proc_ack_tout`: acknowledge the frames received since the last
acknowledgement on an open channel not waiting for a final answer. -/
def l2cFcrProcAckTout (ccb : FcrChannel) : FcrChannel × List FcrOutput :=
  if ccb.isOpen ∧ !ccb.waitAck ∧ ccb.lastAckSent ≠ ccb.nextSeqExpected then
    l2cFcrSendSFrame ccb (if ccb.localBusy then l2capFcrSupRnr else l2capFcrSupRr) 0
  else (ccb, [])

end Fluoride.ErtmReceive
