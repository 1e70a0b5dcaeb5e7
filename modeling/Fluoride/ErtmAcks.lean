import Fluoride.ErtmReceive
import Fluoride.Runs
import Fluoride.SeqWindow

/-!
# What the receive side does to the acknowledgement window

The frames an ERTM channel keeps on `waiting_for_ack_q` until the peer
acknowledges them, the sequence numbers `next_tx_seq` and `last_rx_ack` around
them and the peer's transmit configuration form the channel's
acknowledgement window (`windowView`). Of everything that happens when a frame
arrives or a timer expires, only `process_reqseq` changes it: every other
function of the receive side keeps it (`Keeps`), which is proved here once per
function, each lemma citing those of the functions it calls.

`process_reqseq` itself is described by three lemmas: a SREJ without the poll
bit is accepted whatever its ReqSeq and changes nothing
(`processReqseq_srejNoPoll`); otherwise a ReqSeq beyond the frames waiting
disconnects and leaves the queue (`processReqseq_reject`), and one inside
releases the frames it acknowledges and becomes `last_rx_ack`
(`processReqseq_accept`).
-/

namespace Fluoride.ErtmAcks

open ByteBuffer L2capBuffers ErtmChannel ErtmReceive

/-- What the acknowledgement window depends on: the frames waiting for an
acknowledgement, the sequence numbers around them, and the peer's mode, window
size and MPS. -/
def windowView (ccb : FcrChannel) : List (BtHdr UInt8) × Nat × Nat × Nat × Nat × Nat :=
  (ccb.waitingForAckQ, ccb.nextTxSeq, ccb.lastRxAck, ccb.peerMode, ccb.peerTxWinSz, ccb.txMps)

/-- A step that leaves the acknowledgement window alone. -/
def Keeps (before after : FcrChannel) : Prop :=
  windowView after = windowView before

/-- Keeping the window is keeping each of its parts. -/
theorem keeps_iff (before after : FcrChannel) :
    Keeps before after ↔
      after.waitingForAckQ = before.waitingForAckQ ∧ after.nextTxSeq = before.nextTxSeq ∧
        after.lastRxAck = before.lastRxAck ∧ after.peerMode = before.peerMode ∧
        after.peerTxWinSz = before.peerTxWinSz ∧ after.txMps = before.txMps := by
  simp [Keeps, windowView]

/-- Two steps that keep the window keep it together. -/
theorem Keeps.trans {first middle last : FcrChannel} (keepsFirst : Keeps first middle)
    (keepsSecond : Keeps middle last) : Keeps first last :=
  Eq.trans keepsSecond keepsFirst

/-- Disconnecting keeps the window. -/
theorem keeps_l2cuDisconnectChnl (ccb next : FcrChannel) (outputs : List FcrOutput)
    (disconnected : l2cuDisconnectChnl ccb = (next, outputs)) : Keeps ccb next := by
  cases disconnected
  rfl

/-- Sending an S-frame keeps the window. -/
theorem keeps_l2cFcrSendSFrame (ccb next : FcrChannel) (functionCode pfBit : Nat)
    (outputs : List FcrOutput) (sent : l2cFcrSendSFrame ccb functionCode pfBit = (next, outputs)) :
    Keeps ccb next := by
  unfold l2cFcrSendSFrame at sent
  dsimp only at sent
  split_ifs at sent <;> cases sent <;> rfl

/-- Retransmitting keeps the window: it copies frames, never removes them. -/
theorem keeps_retransmitIFrames (ccb next : FcrChannel) (txSeq : Nat) (result : Bool)
    (outputs : List FcrOutput)
    (retransmitted : retransmitIFrames ccb txSeq = .ok (result, next, outputs)) :
    Keeps ccb next := by
  unfold retransmitIFrames at retransmitted
  simp only [bind, Except.bind, pure, Except.pure] at retransmitted
  split_ifs at retransmitted
  all_goals (try split at retransmitted)
  all_goals cases retransmitted
  all_goals rfl

/-- Appending to the SDU in progress keeps the window. -/
theorem keeps_appendToSdu (ccb next : FcrChannel) (sdu : BtHdr (Option UInt8))
    (buffer : BtHdr UInt8) (sarType : Nat) (packetOk : Bool) (outputs : List FcrOutput)
    (appended : appendToSdu ccb sdu buffer sarType = .ok (next, packetOk, outputs)) :
    Keeps ccb next := by
  unfold appendToSdu at appended
  split_ifs at appended
  all_goals (try split at appended)
  all_goals cases appended
  all_goals rfl

/-- Reassembly keeps the window. -/
theorem keeps_doSarReassembly (ccb next : FcrChannel) (buffer : BtHdr UInt8) (ctrlWord : Nat)
    (packetOk : Bool) (outputs : List FcrOutput)
    (reassembled : doSarReassembly ccb buffer ctrlWord = .ok (next, packetOk, outputs)) :
    Keeps ccb next := by
  unfold doSarReassembly at reassembled
  split_ifs at reassembled
  · cases reassembled
    rfl
  · cases reassembled
    rfl
  · unfold startSdu at reassembled
    split_ifs at reassembled
    · cases reassembled
      rfl
    · have keepsAppend := keeps_appendToSdu _ _ _ _ _ _ _ reassembled
      exact keepsAppend
  · split at reassembled
    · cases reassembled
    · exact keeps_appendToSdu _ _ _ _ _ _ _ reassembled

/-- Acting on an S-frame's supervisory function keeps the window. -/
theorem keeps_sFrameFunction (ccb next : FcrChannel) (ctrlWord : Nat) (allOk : Bool)
    (outputs : List FcrOutput) (acted : sFrameFunction ccb ctrlWord = .ok (allOk, next, outputs)) :
    Keeps ccb next := by
  unfold sFrameFunction at acted
  split_ifs at acted
  all_goals first
    | (have keepsRetransmit := keeps_retransmitIFrames _ _ _ _ _ acted; exact keepsRetransmit)
    | (cases acted; rfl)

/-- Answering a poll keeps the window. -/
theorem keeps_answerPoll (ccb next : FcrChannel) (allOk : Bool) (outputs : List FcrOutput)
    (answered : answerPoll ccb allOk = (next, outputs)) : Keeps ccb next := by
  unfold answerPoll at answered
  split_ifs at answered
  · rcases sentIs : l2cFcrSendSFrame ccb (pollAnswer ccb) l2capFcrFBit with ⟨sentState, answer⟩
    rw [sentIs] at answered
    cases answered
    have keepsSent := keeps_l2cFcrSendSFrame _ _ _ _ _ sentIs
    exact keepsSent
  · cases answered
    rfl

/-- Processing an S-frame keeps the window. -/
theorem keeps_processSFrame (ccb next : FcrChannel) (ctrlWord : Nat) (outputs : List FcrOutput)
    (reacted : processSFrame ccb ctrlWord = .ok (next, outputs)) : Keeps ccb next := by
  unfold processSFrame at reacted
  rw [Runs.bind_eq_ok] at reacted
  obtain ⟨⟨allOk, middle, emitted⟩, acted, answered⟩ := reacted
  rcases answeredIs : answerPoll middle allOk with ⟨answeredState, answer⟩
  simp only [answeredIs, pure, Except.pure, Except.ok.injEq, Prod.mk.injEq] at answered
  have keepsPoll : Keeps ccb (pollReceived ccb ctrlWord) := by
    unfold pollReceived
    split_ifs <;> rfl
  rw [← answered.1]
  exact keepsPoll.trans ((keeps_sFrameFunction _ _ _ _ _ acted).trans
    (keeps_answerPoll _ _ _ _ answeredIs))

/-- Holding a frame keeps the window. -/
theorem keeps_holdFrame (ccb next : FcrChannel) (buffer : BtHdr UInt8) (txSeq : Nat)
    (held : holdFrame ccb buffer txSeq = .ok next) : Keeps ccb next := by
  unfold holdFrame at held
  rw [Runs.bind_eq_ok] at held
  obtain ⟨copy, -, stored⟩ := held
  cases stored
  rfl

/-- Holding a frame while a SREJ is outstanding keeps the window. -/
theorem keeps_holdSrejFrame (ccb next : FcrChannel) (buffer : BtHdr UInt8) (txSeq : Nat)
    (outputs : List FcrOutput) (held : holdSrejFrame ccb buffer txSeq = .ok (next, outputs)) :
    Keeps ccb next := by
  unfold holdSrejFrame at held
  split at held
  · cases held
  · split_ifs at held
    · rw [Runs.bind_eq_ok] at held
      obtain ⟨middle, holding, finished⟩ := held
      cases finished
      exact keeps_holdFrame _ _ _ _ holding
    · cases held
      rfl

/-- Answering a frame out of sequence keeps the window. -/
theorem keeps_processLostIFrame (ccb next : FcrChannel) (buffer : BtHdr UInt8) (txSeq : Nat)
    (outputs : List FcrOutput) (lost : processLostIFrame ccb buffer txSeq = .ok (next, outputs)) :
    Keeps ccb next := by
  unfold processLostIFrame at lost
  split_ifs at lost
  · cases lost
    rfl
  · exact keeps_holdSrejFrame _ _ _ _ _ lost
  · cases lost
    rfl
  · simp only [Except.ok.injEq] at lost
    have keepsReject := keeps_l2cFcrSendSFrame _ _ _ _ _ lost
    exact keepsReject
  · rw [Runs.bind_eq_ok] at lost
    obtain ⟨middle, holding, sent⟩ := lost
    simp only [pure, Except.pure, Except.ok.injEq] at sent
    have keepsSrej := keeps_l2cFcrSendSFrame _ _ _ _ _ sent
    exact (keeps_holdFrame _ _ _ _ holding).trans keepsSrej

/-- Acknowledging received frames keeps the window. -/
theorem keeps_ackIFrame (ccb next : FcrChannel) (delayAck : Bool) (outputs : List FcrOutput)
    (acked : ackIFrame ccb delayAck = (next, outputs)) : Keeps ccb next := by
  unfold ackIFrame at acked
  split at acked
  · exact keeps_l2cFcrSendSFrame _ _ _ _ _ acked
  · cases acked
    rfl

/-- Accepting the frame in sequence keeps the window. -/
theorem keeps_acceptIFrame (ccb next : FcrChannel) (buffer : BtHdr UInt8) (ctrlWord : Nat)
    (delayAck : Bool) (outputs : List FcrOutput)
    (accepted : acceptIFrame ccb buffer ctrlWord delayAck = .ok (next, outputs)) :
    Keeps ccb next := by
  unfold acceptIFrame at accepted
  rw [Runs.bind_eq_ok] at accepted
  obtain ⟨⟨middle, packetOk, delivered⟩, reassembled, finished⟩ := accepted
  have keepsReassembly := keeps_doSarReassembly _ _ _ _ _ _ reassembled
  rcases finishingIs : (if packetOk then ackIFrame middle delayAck else l2cuDisconnectChnl middle)
    with ⟨finalState, more⟩
  simp only [finishingIs, pure, Except.pure, Except.ok.injEq, Prod.mk.injEq] at finished
  have keepsFinish : Keeps middle finalState := by
    split_ifs at finishingIs
    · exact keeps_ackIFrame _ _ _ _ finishingIs
    · exact keeps_l2cuDisconnectChnl _ _ _ finishingIs
  rw [← finished.1]
  exact Keeps.trans keepsReassembly keepsFinish

/-- Receiving an I-frame after the checkpoint keeps the window. -/
theorem keeps_receiveIFrame (ccb next : FcrChannel) (buffer : BtHdr UInt8) (ctrlWord : Nat)
    (delayAck : Bool) (outputs : List FcrOutput)
    (received : receiveIFrame ccb buffer ctrlWord delayAck = .ok (next, outputs)) :
    Keeps ccb next := by
  unfold receiveIFrame at received
  split_ifs at received
  · simp only [Except.ok.injEq] at received
    exact keeps_l2cFcrSendSFrame _ _ _ _ _ received
  · exact keeps_processLostIFrame _ _ _ _ _ received
  · exact keeps_acceptIFrame _ _ _ _ _ _ received

/-- The checkpoint retransmission keeps the window. -/
theorem keeps_checkpointRetransmit (ccb next : FcrChannel) (ctrlWord : Nat) (retransmitted : Bool)
    (outputs : List FcrOutput)
    (checked : checkpointRetransmit ccb ctrlWord = .ok (retransmitted, next, outputs)) :
    Keeps ccb next := by
  unfold checkpointRetransmit at checked
  split_ifs at checked
  · exact keeps_retransmitIFrames _ _ _ _ _ checked
  · cases checked
    rfl

/-- Processing an I-frame keeps the window. -/
theorem keeps_processIFrame (ccb next : FcrChannel) (buffer : BtHdr UInt8) (ctrlWord : Nat)
    (delayAck : Bool) (outputs : List FcrOutput)
    (processed : processIFrame ccb buffer ctrlWord delayAck = .ok (next, outputs)) :
    Keeps ccb next := by
  unfold processIFrame at processed
  rw [Runs.bind_eq_ok] at processed
  obtain ⟨⟨retransmitted, middle, emitted⟩, checked, rest⟩ := processed
  dsimp only at rest
  rw [Runs.bind_eq_ok] at rest
  obtain ⟨⟨final, more⟩, receivedOrNot, finished⟩ := rest
  simp only [pure, Except.pure, Except.ok.injEq, Prod.mk.injEq] at finished
  rw [← finished.1]
  have keepsCheckpoint := keeps_checkpointRetransmit _ _ _ _ _ checked
  split_ifs at receivedOrNot
  · exact keepsCheckpoint.trans (keeps_receiveIFrame _ _ _ _ _ _ receivedOrNot)
  · cases receivedOrNot
    exact keepsCheckpoint

/-- A streaming-mode I-frame keeps the window. -/
theorem keeps_streamIFrame (ccb next : FcrChannel) (buffer : BtHdr UInt8) (ctrlWord : Nat)
    (outputs : List FcrOutput) (streamed : streamIFrame ccb buffer ctrlWord = .ok (next, outputs)) :
    Keeps ccb next := by
  unfold streamIFrame at streamed
  rw [Runs.bind_eq_ok] at streamed
  obtain ⟨⟨middle, packetOk, delivered⟩, reassembled, finished⟩ := streamed
  simp only [pure, Except.pure, Except.ok.injEq, Prod.mk.injEq] at finished
  have keepsReassembly := keeps_doSarReassembly _ _ _ _ _ _ reassembled
  rw [← finished.1]
  split_ifs <;> exact keepsReassembly

/-- A streaming-mode frame keeps the window. -/
theorem keeps_processStreamFrame (ccb next : FcrChannel) (buffer : BtHdr UInt8)
    (outputs : List FcrOutput) (processed : processStreamFrame ccb buffer = .ok (next, outputs)) :
    Keeps ccb next := by
  unfold processStreamFrame at processed
  split at processed
  · cases processed
    rfl
  · split_ifs at processed
    · cases processed
      rfl
    · exact keeps_streamIFrame _ _ _ _ _ processed

/-- The REJ after a SREJ keeps the window. -/
theorem keeps_rejectAfterSrej (ccb next : FcrChannel) (outputs : List FcrOutput)
    (rejected : rejectAfterSrej ccb = (next, outputs)) : Keeps ccb next := by
  unfold rejectAfterSrej at rejected
  split_ifs at rejected
  · have keepsReject := keeps_l2cFcrSendSFrame _ _ _ _ _ rejected
    exact keepsReject
  · cases rejected
    rfl

/-- Processing the held frames keeps the window, by induction over them. -/
theorem keeps_processHeldFrames (held : List (BtHdr UInt8)) :
    ∀ ccb next outputs, processHeldFrames ccb held = .ok (next, outputs) → Keeps ccb next := by
  induction held with
  | nil =>
    intro ccb next outputs processed
    cases processed
    rfl
  | cons buffer rest inductionHypothesis =>
    intro ccb next outputs processed
    rw [processHeldFrames, Runs.bind_eq_ok] at processed
    obtain ⟨⟨middle, emitted⟩, first, later⟩ := processed
    rcases rejectedIs : rejectAfterSrej middle with ⟨rejectedState, reject⟩
    simp only [rejectedIs] at later
    rw [Runs.bind_eq_ok] at later
    obtain ⟨⟨final, laterOutputs⟩, restProcessed, finished⟩ := later
    simp only [pure, Except.pure, Except.ok.injEq, Prod.mk.injEq] at finished
    have keepsFirst : Keeps ccb middle := by
      split_ifs at first
      · exact keeps_processIFrame _ _ _ _ _ _ first
      · cases first
        rfl
    rw [← finished.1]
    exact keepsFirst.trans ((keeps_rejectAfterSrej _ _ _ rejectedIs).trans
      (inductionHypothesis _ _ _ restProcessed))

/-- Processing the SREJ hold queue keeps the window. -/
theorem keeps_processHeldQueue (ccb next : FcrChannel) (outputs : List FcrOutput)
    (processed : processHeldQueue ccb = .ok (next, outputs)) : Keeps ccb next := by
  unfold processHeldQueue at processed
  rw [Runs.bind_eq_ok] at processed
  obtain ⟨⟨middle, emitted⟩, held, acked⟩ := processed
  have keepsHeld := keeps_processHeldFrames _ _ _ _ held
  rcases ackIs : (if !middle.localBusy ∧ !middle.rejSent ∧ !middle.srejSent ∧
      middle.nextSeqExpected ≠ middle.lastAckSent then l2cFcrSendSFrame middle l2capFcrSupRr 0
    else (middle, [])) with ⟨final, ack⟩
  simp only [ackIs, pure, Except.pure, Except.ok.injEq, Prod.mk.injEq] at acked
  rw [← acked.1]
  have keepsAck : Keeps middle final := by
    split_ifs at ackIs
    · exact keeps_l2cFcrSendSFrame _ _ _ _ _ ackIs
    · cases ackIs
      rfl
  exact Keeps.trans keepsHeld keepsAck

/-- The end of `l2c_fcr_proc_pdu` keeps the window. -/
theorem keeps_procPduTail (ccb next : FcrChannel) (outputs : List FcrOutput)
    (finished : procPduTail ccb = .ok (next, outputs)) : Keeps ccb next := by
  unfold procPduTail at finished
  rw [Runs.bind_eq_ok] at finished
  obtain ⟨⟨middle, emitted⟩, heldOrNot, requested⟩ := finished
  simp only [pure, Except.pure, Except.ok.injEq, Prod.mk.injEq] at requested
  rw [← requested.1]
  split_ifs at heldOrNot
  · exact keeps_processHeldQueue _ _ _ heldOrNot
  · cases heldOrNot
    rfl

/-- A frame dropped by the final-bit check leaves the window alone. -/
theorem keeps_finalBitCheck_dropped (ccb next : FcrChannel) (ctrlWord : Nat)
    (outputs : List FcrOutput) (dropped : finalBitCheck ccb ctrlWord = .inl (next, outputs)) :
    Keeps ccb next := by
  unfold finalBitCheck at dropped
  split_ifs at dropped
  · simp only [Sum.inl.injEq] at dropped
    exact keeps_l2cFcrSendSFrame _ _ _ _ _ dropped
  · cases dropped
    rfl

/-- A frame passed by the final-bit check leaves the window alone so far. -/
theorem keeps_finalBitCheck_passed (ccb next : FcrChannel) (ctrlWord word : Nat)
    (passed : finalBitCheck ccb ctrlWord = .inr (next, word)) : Keeps ccb next := by
  unfold finalBitCheck at passed
  split_ifs at passed <;> cases passed <;> rfl

/-- After `process_reqseq`, processing a frame keeps the window. -/
theorem keeps_processFrame (ccb next : FcrChannel) (buffer : BtHdr UInt8) (ctrlWord : Nat)
    (outputs : List FcrOutput) (processed : processFrame ccb buffer ctrlWord = .ok (next, outputs)) :
    Keeps (processReqseq ccb ctrlWord).2.1 next := by
  unfold processFrame at processed
  rcases reqseqIs : processReqseq ccb ctrlWord with ⟨accepted, middle, acked⟩
  rw [reqseqIs] at processed
  cases accepted
  · cases processed
    rfl
  · simp only [Runs.bind_eq_ok] at processed
    obtain ⟨⟨framed, emitted⟩, frameProcessed, ⟨tailed, tail⟩, tailProcessed, finished⟩ := processed
    simp only [pure, Except.pure, Except.ok.injEq, Prod.mk.injEq] at finished
    rw [← finished.1]
    have keepsFrame : Keeps middle framed := by
      split_ifs at frameProcessed
      · exact keeps_processSFrame _ _ _ _ frameProcessed
      · exact keeps_processIFrame _ _ _ _ _ _ frameProcessed
    have keepsTail : Keeps framed tailed := by
      split_ifs at tailProcessed
      · exact keeps_procPduTail _ _ _ tailProcessed
      · cases tailProcessed
        rfl
    exact keepsFrame.trans keepsTail

/-- A received frame changes the window at most through `process_reqseq`: either
the window is kept, or it is kept up to a `process_reqseq` and after it. -/
theorem l2cFcrProcPdu_keeps (ccb next : FcrChannel) (buffer : BtHdr UInt8)
    (outputs : List FcrOutput) (received : l2cFcrProcPdu ccb buffer = .ok (next, outputs)) :
    Keeps ccb next ∨ ∃ middle ctrlWord, Keeps ccb middle ∧
      Keeps (processReqseq middle ctrlWord).2.1 next := by
  unfold l2cFcrProcPdu at received
  by_cases tooShort :
      buffer.len < (if ccb.bypassFcs then l2capFcrOverhead else l2capFcsLen + l2capFcrOverhead)
  · rw [if_pos tooShort] at received
    cases received
    exact .inl rfl
  rw [if_neg tooShort] at received
  by_cases streaming : ccb.peerMode = l2capFcrStreamMode
  · rw [if_pos streaming] at received
    exact .inl (keeps_processStreamFrame _ _ _ _ received)
  rw [if_neg streaming] at received
  cases checkedIs : checkFcs ccb buffer with
  | none =>
    rw [checkedIs] at received
    cases received
    exact .inl rfl
  | some checked =>
    rw [checkedIs] at received
    dsimp only at received
    cases finalIs : finalBitCheck ccb (readLe16 checked.data checked.offset) with
    | inl dropped =>
      rw [finalIs] at received
      cases received
      exact .inl (keeps_finalBitCheck_dropped _ _ _ _ finalIs)
    | inr passed =>
      obtain ⟨passedState, word⟩ := passed
      rw [finalIs] at received
      exact .inr ⟨_, _, keeps_finalBitCheck_passed _ _ _ _ finalIs,
        keeps_processFrame _ _ _ _ _ received⟩

/-- Polling the peer keeps the window. -/
theorem keeps_pollPeer (ccb next : FcrChannel) (outputs : List FcrOutput)
    (polled : pollPeer ccb = (next, outputs)) : Keeps ccb next := by
  unfold pollPeer at polled
  split at polled
  · exact keeps_l2cFcrSendSFrame _ _ _ _ _ polled
  · cases polled
    rfl

/-- The retransmission timeout keeps the window. -/
theorem keeps_l2cFcrProcTout (ccb next : FcrChannel) (outputs : List FcrOutput)
    (expired : l2cFcrProcTout ccb = (next, outputs)) : Keeps ccb next := by
  unfold l2cFcrProcTout at expired
  split_ifs at expired
  · have keepsDisconnect := keeps_l2cuDisconnectChnl _ _ _ expired
    exact keepsDisconnect
  · have keepsPoll := keeps_pollPeer _ _ _ expired
    exact keepsPoll
  · exact keeps_pollPeer _ _ _ expired

/-- The acknowledgement timeout keeps the window. -/
theorem keeps_l2cFcrProcAckTout (ccb next : FcrChannel) (outputs : List FcrOutput)
    (expired : l2cFcrProcAckTout ccb = (next, outputs)) : Keeps ccb next := by
  unfold l2cFcrProcAckTout at expired
  split at expired
  · exact keeps_l2cFcrSendSFrame _ _ _ _ _ expired
  · cases expired
    rfl

/-- The ReqSeq field of a control word. -/
def reqSeqOf (ctrlWord : Nat) : Nat :=
  (ctrlWord &&& l2capFcrReqSeqBits) >>> l2capFcrReqSeqBitsShift

/-- A SREJ S-frame without the poll bit: its ReqSeq asks for one frame again and
acknowledges nothing. -/
def SrejWithoutPoll (ctrlWord : Nat) : Prop :=
  ctrlWord &&& l2capFcrSFrameBit ≠ 0 ∧
    ctrlWord &&& l2capFcrSupBits = l2capFcrSupSrej <<< l2capFcrSupShift ∧
    ctrlWord &&& l2capFcrPBit = 0

instance (ctrlWord : Nat) : Decidable (SrejWithoutPoll ctrlWord) :=
  inferInstanceAs (Decidable (_ ∧ _ ∧ _))

/-- A ReqSeq is a sequence number, below 64. -/
theorem reqSeqOf_lt (ctrlWord : Nat) : reqSeqOf ctrlWord < 64 := by
  have masked : (ctrlWord >>> l2capFcrReqSeqBitsShift) &&& 63 ≤ 63 := Nat.and_le_right
  rw [reqSeqOf, Nat.shiftRight_and_distrib]
  exact Nat.lt_succ_of_le masked

/-- A SREJ without the poll bit is accepted whatever its ReqSeq, and changes
nothing. -/
theorem processReqseq_srejNoPoll (ccb : FcrChannel) (ctrlWord : Nat)
    (srej : SrejWithoutPoll ctrlWord) : processReqseq ccb ctrlWord = (true, ccb, []) := by
  unfold SrejWithoutPoll at srej
  unfold processReqseq
  rw [if_pos srej]

/-- Any other ReqSeq beyond the frames waiting for an acknowledgement disconnects
the channel and leaves the queue as it is. -/
theorem processReqseq_reject (ccb : FcrChannel) (ctrlWord : Nat)
    (notSrej : ¬ SrejWithoutPoll ctrlWord)
    (beyond : ccb.waitingForAckQ.length < seqDistance (reqSeqOf ctrlWord) ccb.lastRxAck) :
    processReqseq ccb ctrlWord = (false, { ccb with isOpen := false }, [.disconnect]) := by
  unfold SrejWithoutPoll at notSrej
  unfold processReqseq
  rw [if_neg notSrej]
  exact if_pos beyond

/-- Any other ReqSeq within the frames waiting for an acknowledgement is
accepted: the frames up to it leave the queue, and it becomes `last_rx_ack`. -/
theorem processReqseq_accept (ccb : FcrChannel) (ctrlWord : Nat)
    (notSrej : ¬ SrejWithoutPoll ctrlWord)
    (within : seqDistance (reqSeqOf ctrlWord) ccb.lastRxAck ≤ ccb.waitingForAckQ.length) :
    (processReqseq ccb ctrlWord).1 = true ∧
      windowView (processReqseq ccb ctrlWord).2.1 =
        (ccb.waitingForAckQ.drop (seqDistance (reqSeqOf ctrlWord) ccb.lastRxAck), ccb.nextTxSeq,
          reqSeqOf ctrlWord, ccb.peerMode, ccb.peerTxWinSz, ccb.txMps) := by
  unfold SrejWithoutPoll at notSrej
  unfold processReqseq
  rw [if_neg notSrej]
  unfold reqSeqOf at within ⊢
  dsimp only
  rw [if_neg (Nat.not_lt.mpr within)]
  by_cases nothingAcked :
      seqDistance ((ctrlWord &&& l2capFcrReqSeqBits) >>> l2capFcrReqSeqBitsShift) ccb.lastRxAck = 0
  · simp [nothingAcked, windowView]
  · rw [if_neg nothingAcked]
    split_ifs <;> simp [windowView]

end Fluoride.ErtmAcks
