import Fluoride.AvdtpParse
import Mathlib.Data.List.GetD

/-!
# Receiving AVDTP signalling messages

`avdt_msg_ind` (`stack/avdt/avdt_msg.cc`) is called with every packet L2CAP
delivers on a signalling channel. It reassembles the packet with
`avdt_msg_asmbl`; for a whole message it parses the header byte, drops a
general reject from the peer, takes a two-byte reject as the general reject of
the command in progress, and otherwise reads the signal id, answers an unknown
signal of a command with a general reject, and parses the rest through the
tables of `AvdtpParse`. A command that does not parse is rejected; a response
or reject is only taken as the answer of the command in `p_curr_cmd`, with the
same signal and label. The event of the signal's table then goes to the
channel control block or to the stream endpoint of the message's SEID.

From a channel control block whose command in progress carries a signal id and
whose application array holds the entries it asked for, and for packets that
their buffers hold and that fit the reassembly buffer, a step fails exactly
when the message it completes is a reject of SETCONFIG, RECONFIG, START or
SUSPEND with one parameter byte: `avdt_msg_prs_rej` then reads the byte after
the message. Every other read stays inside the message, every store inside its
array and every table index inside its table, over whole runs.
-/

namespace Fluoride.AvdtpInd

open ByteBuffer AvdtpParse
open AvdtpMsg hiding AvdtpCcb

/-! ### Constants of `avdt_defs.h` and `avdt_int.h` -/

/-- `AVDT_MSG_TYPE_CMD`. -/
def avdtMsgTypeCmd : Nat := 0

/-- `AVDT_MSG_TYPE_GRJ`: a general reject. -/
def avdtMsgTypeGrj : Nat := 1

/-- `AVDT_MSG_TYPE_RSP`. -/
def avdtMsgTypeRsp : Nat := 2

/-- `AVDT_MSG_TYPE_REJ`. -/
def avdtMsgTypeRej : Nat := 3

/-- `AVDT_LEN_GEN_REJ`: a reject with no signal-specific parameters. -/
def avdtLenGenRej : Nat := 2

/-- `AVDT_ERR_NSC`. -/
def avdtErrNsc : Nat := 0x19

/-- `AVDT_CCB_MKR`: the bit that marks an event of the channel control block. -/
def avdtCcbMkr : Nat := 0x80

-- The events of the channel control block's state machine that the tables name.
def avdtCcbMsgDiscoverCmdEvt : Nat := 10
def avdtCcbMsgGetcapCmdEvt : Nat := 11
def avdtCcbMsgStartCmdEvt : Nat := 12
def avdtCcbMsgSuspendCmdEvt : Nat := 13
def avdtCcbMsgDiscoverRspEvt : Nat := 14
def avdtCcbMsgGetcapRspEvt : Nat := 15
def avdtCcbMsgStartRspEvt : Nat := 16
def avdtCcbMsgSuspendRspEvt : Nat := 17

-- The events of the stream control block's state machine that the tables name.
def avdtScbMsgSetconfigCmdEvt : Nat := 18
def avdtScbMsgGetconfigCmdEvt : Nat := 19
def avdtScbMsgOpenCmdEvt : Nat := 20
def avdtScbMsgCloseCmdEvt : Nat := 23
def avdtScbMsgAbortCmdEvt : Nat := 24
def avdtScbMsgReconfigCmdEvt : Nat := 25
def avdtScbMsgSecurityCmdEvt : Nat := 26
def avdtScbMsgDelayRptCmdEvt : Nat := 27
def avdtScbMsgDelayRptRspEvt : Nat := 28
def avdtScbMsgSetconfigRspEvt : Nat := 29
def avdtScbMsgGetconfigRspEvt : Nat := 30
def avdtScbMsgOpenRspEvt : Nat := 31
def avdtScbMsgCloseRspEvt : Nat := 34
def avdtScbMsgAbortRspEvt : Nat := 35
def avdtScbMsgReconfigRspEvt : Nat := 36
def avdtScbMsgSecurityRspEvt : Nat := 37
def avdtScbMsgSetconfigRejEvt : Nat := 38
def avdtScbMsgOpenRejEvt : Nat := 39

/-- `avdt_msg_cmd_2_evt`, by signal from DISCOVER to DELAY_RPT. -/
def avdtMsgCmd2Evt : List Nat :=
  [avdtCcbMsgDiscoverCmdEvt + avdtCcbMkr, avdtCcbMsgGetcapCmdEvt + avdtCcbMkr,
    avdtScbMsgSetconfigCmdEvt, avdtScbMsgGetconfigCmdEvt, avdtScbMsgReconfigCmdEvt,
    avdtScbMsgOpenCmdEvt, avdtCcbMsgStartCmdEvt + avdtCcbMkr, avdtScbMsgCloseCmdEvt,
    avdtCcbMsgSuspendCmdEvt + avdtCcbMkr, avdtScbMsgAbortCmdEvt, avdtScbMsgSecurityCmdEvt,
    avdtCcbMsgGetcapCmdEvt + avdtCcbMkr, avdtScbMsgDelayRptCmdEvt]

/-- `avdt_msg_rsp_2_evt`. -/
def avdtMsgRsp2Evt : List Nat :=
  [avdtCcbMsgDiscoverRspEvt + avdtCcbMkr, avdtCcbMsgGetcapRspEvt + avdtCcbMkr,
    avdtScbMsgSetconfigRspEvt, avdtScbMsgGetconfigRspEvt, avdtScbMsgReconfigRspEvt,
    avdtScbMsgOpenRspEvt, avdtCcbMsgStartRspEvt + avdtCcbMkr, avdtScbMsgCloseRspEvt,
    avdtCcbMsgSuspendRspEvt + avdtCcbMkr, avdtScbMsgAbortRspEvt, avdtScbMsgSecurityRspEvt,
    avdtCcbMsgGetcapRspEvt + avdtCcbMkr, avdtScbMsgDelayRptRspEvt]

/-- `avdt_msg_rej_2_evt`; a rejected delay report has no event. -/
def avdtMsgRej2Evt : List Nat :=
  [avdtCcbMsgDiscoverRspEvt + avdtCcbMkr, avdtCcbMsgGetcapRspEvt + avdtCcbMkr,
    avdtScbMsgSetconfigRejEvt, avdtScbMsgGetconfigRspEvt, avdtScbMsgReconfigRspEvt,
    avdtScbMsgOpenRejEvt, avdtCcbMsgStartRspEvt + avdtCcbMkr, avdtScbMsgCloseRspEvt,
    avdtCcbMsgSuspendRspEvt + avdtCcbMkr, avdtScbMsgAbortRspEvt, avdtScbMsgSecurityRspEvt,
    avdtCcbMsgGetcapRspEvt + avdtCcbMkr, 0]

/-! ### The receiver -/

/-- The part of the channel control block `avdt_msg_ind` reads and writes: the
reassembly buffer, the command waiting for its answer, the application's buffer
`p_proc_data` of the procedure in progress, seen as the SEP information array
of a discovery or as the configuration of a capabilities request, the number
of SEPs it asked for, and the block's index. -/
structure AvdtpCcb where
  pRxMsg : Option (BtHdr UInt8)
  pCurrCmd : Option (BtHdr UInt8)
  procParam : Nat
  procSepInfo : List SepInfo
  procCfg : Option AvdtpSepConfig
  ccbIdx : Nat
deriving DecidableEq, Repr

/-- What `avdt_msg_ind` hands on besides the new reassembly buffer. -/
inductive Outcome
  /-- `avdt_msg_send_grej`: a command with an unknown signal. -/
  | sendGrej (sig : Nat) (msg : AvdtMsg)
  /-- `avdt_msg_send_rej`: a command that did not parse. -/
  | sendRej (sig : Nat) (msg : AvdtMsg)
  /-- `avdt_ccb_event` with a message event. -/
  | ccbEvent (event : Nat) (msg : AvdtMsg)
  /-- `avdt_scb_event` on the stream endpoint `avdt_scb_by_hdl` finds. -/
  | scbEvent (handle event : Nat) (msg : AvdtMsg)
  /-- `avdt_ccb_event` with `AVDT_CCB_RCVRSP_EVT`: the command has its answer. -/
  | rcvRsp
deriving DecidableEq, Repr

/-- Where the parsers put what they find: the application's array or
configuration for the answers to its discovery and capabilities requests, and
a local configuration for a get-configuration response and for the set and
reconfigure commands. -/
def prsDestination (ccb : AvdtpCcb) (msgType sig : Nat) (msg : AvdtMsg) : AvdtMsg :=
  if msgType = avdtMsgTypeRsp ∧ sig = avdtSigDiscover then
    { msg with pSepInfo := ccb.procSepInfo, discoverNumSeps := ccb.procParam }
  else if msgType = avdtMsgTypeRsp ∧ (sig = avdtSigGetcap ∨ sig = avdtSigGetAllcap) then
    { msg with pCfg := ccb.procCfg }
  else if msgType = avdtMsgTypeRsp ∧ sig = avdtSigGetconfig then
    { msg with pCfg := some AvdtpSepConfig.zero }
  else if msgType = avdtMsgTypeCmd ∧ sig = avdtSigSetconfig then
    { msg with pCfg := some AvdtpSepConfig.zero }
  else if msgType = avdtMsgTypeCmd ∧ sig = avdtSigReconfig then
    { msg with pCfg := some AvdtpSepConfig.zero }
  else msg

section Receiver

-- Whether `avdt_scb_by_hdl` finds an allocated stream control block for a handle.
variable (scbAllocated : Nat → Bool)

/-- The parse through the tables, indexed by `sig - 1`: the message, the error
and the event of the signal. -/
def parseBySignal (msgType sig : Nat) (msg : AvdtMsg) (params : List UInt8) (len : Nat) :
    Except Violation (AvdtMsg × Nat × Nat) :=
  if msgType = avdtMsgTypeCmd then do
    let prs ← tableAt avdtMsgPrsCmd ((sig : Int) - 1)
    let (msg, err) ← prs.parse scbAllocated msg params len
    let evt ← tableAt avdtMsgCmd2Evt ((sig : Int) - 1)
    pure ({ msg with errCode := err }, err, evt)
  else if msgType = avdtMsgTypeRsp then do
    let prs ← tableAt avdtMsgPrsRsp ((sig : Int) - 1)
    let (msg, err) ← prs.parse scbAllocated msg params len
    let evt ← tableAt avdtMsgRsp2Evt ((sig : Int) - 1)
    pure ({ msg with errCode := err }, err, evt)
  else do
    let (msg, err) ← avdtMsgPrsRej msg params sig
    let evt ← tableAt avdtMsgRej2Evt ((sig : Int) - 1)
    pure (msg, err, evt)

/-- The event goes to the channel control block when its table marks it so, and
otherwise, if there is one, to the stream endpoint with handle `scbHdl`. -/
def handOn (evt scbHdl : Nat) (msg : AvdtMsg) : List Outcome :=
  if evt &&& avdtCcbMkr ≠ 0 then [.ccbEvent (evt &&& 0x7F) msg]
  else if evt ≠ 0 ∧ scbAllocated scbHdl then [.scbEvent scbHdl evt msg]
  else []

/-- The end of `avdt_msg_ind` for a message that parsed. A response or reject
is taken only as the answer to `p_curr_cmd`, whose signal and label it must
carry; its stream endpoint is the handle stored in the command's first byte,
and the command is released after the event. A command's endpoint is the SEID
it carries. -/
def answer (ccb : AvdtpCcb) (label msgType sig evt : Nat) (msg : AvdtMsg) : List Outcome :=
  if msgType = avdtMsgTypeRsp ∨ msgType = avdtMsgTypeRej then
    match ccb.pCurrCmd with
    | some cmd =>
      if cmd.event = sig ∧ avdtLayerspecLabel cmd.layerSpecific = label then
        handOn scbAllocated evt (cmd.data.headD 0).toNat msg ++ [.rcvRsp]
      else []
    | none => []
  else handOn scbAllocated evt msg.seid msg

/-- The general reject branch of `avdt_msg_ind`: a two-byte reject answers the
command in progress, whose signal indexes the reject table. -/
def generalReject (ccb : AvdtpCcb) (label msgType : Nat) (msg : AvdtMsg) :
    Except Violation (List Outcome) :=
  match ccb.pCurrCmd with
  | none => pure (answer scbAllocated ccb label msgType 0 0 msg)
  | some cmd => do
    let evt ← tableAt avdtMsgRej2Evt ((cmd.event : Int) - 1)
    pure (answer scbAllocated ccb label msgType cmd.event evt
      { msg with sigId := cmd.event, errCode := avdtErrNsc, errParam := 0 })

/-- The branch of `avdt_msg_ind` for every other message of `len` bytes: the
signal id, then the parameters after the two header bytes through the tables. -/
def signalMessage (ccb : AvdtpCcb) (label msgType : Nat) (msg : AvdtMsg) (bytes : List UInt8)
    (len : Nat) : Except Violation (List Outcome) := do
  let sig := avdtMsgPrsSig (← readByte bytes 1)
  let msg := { msg with sigId := sig }
  if sig = 0 ∨ avdtSigMax < sig then
    pure (if msgType = avdtMsgTypeCmd then [.sendGrej sig msg] else [])
  else do
    -- `p_buf->len -= AVDT_LEN_TYPE_SINGLE`
    let (msg, err, evt) ← parseBySignal scbAllocated msgType sig (prsDestination ccb msgType sig msg)
      (bytes.drop avdtLenTypeSingle) (u16 ((len : Int) - avdtLenTypeSingle))
    if err ≠ 0 then
      pure (if msgType = avdtMsgTypeCmd ∧ sig ≠ avdtSigAbort then [.sendRej sig msg] else [])
    else pure (answer scbAllocated ccb label msgType sig evt msg)

/-- `avdt_msg_ind` from the point where `avdt_msg_asmbl` returned the message
`pBuf`: everything it reads is `pBuf.payload`. -/
def avdtMsgIndMessage (ccb : AvdtpCcb) (pBuf : BtHdr UInt8) : Except Violation (List Outcome) := do
  let bytes := pBuf.payload
  let (label, _, msgType) := avdtMsgPrsHdr (← readByte bytes 0)
  let msg := { AvdtMsg.zero with label := label, ccbIdx := ccb.ccbIdx }
  if msgType = avdtMsgTypeGrj then pure []
  else if msgType = avdtMsgTypeRej ∧ pBuf.len = avdtLenGenRej then
    generalReject scbAllocated ccb label msgType msg
  else signalMessage scbAllocated ccb label msgType msg bytes pBuf.len

/-- `avdt_msg_ind`: one received packet, the new channel control block and what
is handed on. -/
def avdtMsgInd (ccb : AvdtpCcb) (pBuf : BtHdr UInt8) :
    Except Violation (AvdtpCcb × List Outcome) :=
  match avdtMsgAsmbl ccb.pRxMsg pBuf with
  | .error failure => throw (.reassembly failure)
  | .ok (pRxMsg, delivered) =>
    let ccb := { ccb with pRxMsg := pRxMsg }
    match delivered with
    | [] => pure (ccb, [])
    | message :: _ => do
      let outcomes ← avdtMsgIndMessage scbAllocated ccb message
      pure (ccb, outcomes)

end Receiver

/-! ### What the receiver may assume and what it hands on -/

/-- A packet as L2CAP hands it up: its buffer holds it, and it fits the
reassembly buffer a start packet is copied into. -/
structure Received (pBuf : BtHdr UInt8) : Prop where
  inside : pBuf.offset + pBuf.len ≤ pBuf.data.length
  fits : pBuf.offset + pBuf.len ≤ PacketFragmenter.btDefaultBufferSize - BtHdr.headerSize

/-- A reassembly buffer, if any, holds a message of at least a header byte and
a signal id. -/
def Reassembling (pRxMsg : Option (BtHdr UInt8)) : Prop :=
  ∀ rxMsg, pRxMsg = some rxMsg →
    ∃ startOffset bytes, Assembling startOffset bytes rxMsg ∧ avdtLenTypeSingle ≤ bytes.length

/-- A message `avdt_msg_asmbl` hands to `avdt_msg_ind`: inside its buffer, with
its two header bytes. -/
structure Whole (message : BtHdr UInt8) : Prop where
  inside : message.offset + message.len ≤ message.data.length
  long : avdtLenTypeSingle ≤ message.len
  fits : message.len < 65536

/-- Reassembly returns on every received packet: it keeps a reassembly buffer
that holds a header and a signal id, and hands on only whole messages. The
cases are those of `avdt_msg_asmbl`: too short for its type, single, start,
and continue or end with no reassembly, fitting, or too long. -/
theorem avdtMsgAsmbl_received (pRxMsg : Option (BtHdr UInt8)) (pBuf : BtHdr UInt8)
    (reassembling : Reassembling pRxMsg) (received : Received pBuf) :
    ∃ next delivered, avdtMsgAsmbl pRxMsg pBuf = .ok (next, delivered) ∧ Reassembling next ∧
      ∀ message ∈ delivered, Whole message := by
  obtain ⟨inside, fits⟩ := received
  have sizes := layout
  have holds : Holds pBuf pBuf.payload := ⟨(pBuf.length_payload inside).symm, inside, by omega, rfl⟩
  -- an empty packet is dropped before its header is read
  by_cases empty : pBuf.len < 1
  · refine ⟨pRxMsg, [], ?_, reassembling, by simp⟩
    rw [avdtMsgAsmbl, if_pos empty]
    rfl
  obtain ⟨header, rest, isPayload⟩ : ∃ header rest, pBuf.payload = header :: rest :=
    List.exists_cons_of_length_pos (by rw [pBuf.length_payload inside]; omega)
  rw [isPayload] at holds
  have length := holds.len
  simp only [List.length_cons] at length
  by_cases short : pBuf.len < avdtMsgPktTypeLen.getD (avdtMsgPrsPktType header) 0
  · exact ⟨pRxMsg, [], avdtMsgAsmbl_short pRxMsg pBuf header rest holds short, reassembling,
      by simp⟩
  have kinds : avdtMsgPrsPktType header ≤ 3 := Nat.and_le_right
  generalize isKind : avdtMsgPrsPktType header = kind at short kinds
  obtain rfl | rfl | rfl | rfl : kind = 0 ∨ kind = 1 ∨ kind = 2 ∨ kind = 3 := by omega
  · -- a single packet is the message
    refine ⟨none, [pBuf], avdtMsgAsmbl_single pRxMsg pBuf header rest holds isKind
      (by change ¬ pBuf.len < avdtLenTypeSingle at short; omega), by simp [Reassembling], ?_⟩
    simp only [List.mem_singleton, forall_eq]
    exact ⟨inside, by change ¬ pBuf.len < avdtLenTypeSingle at short; omega, by omega⟩
  · -- a start packet starts a reassembly of its header, signal id and chunk
    change ¬ pBuf.len < avdtLenTypeStart at short
    obtain ⟨count, sig, chunk, rfl⟩ : ∃ count sig chunk, rest = count :: sig :: chunk := by
      rcases rest with _ | ⟨count, _ | ⟨sig, chunk⟩⟩
      · simp only [List.length_nil] at length
        omega
      · simp only [List.length_cons, List.length_nil] at length
        omega
      · exact ⟨count, sig, chunk, rfl⟩
    obtain ⟨rxMsg, started, assembling⟩ :=
      avdtMsgAsmbl_start pRxMsg pBuf header count sig chunk holds isKind fits
    refine ⟨some rxMsg, [], started, ?_, by simp⟩
    intro held isHeld
    cases isHeld
    exact ⟨pBuf.offset, header :: sig :: chunk, assembling, by simp [avdtLenTypeSingle]⟩
  · -- a continue packet extends the reassembly in progress when it fits
    change ¬ pBuf.len < avdtLenTypeCont at short
    cases pRxMsg with
    | none =>
      exact ⟨none, [], avdtMsgAsmbl_orphan pBuf header rest holds (.inl isKind) (by omega),
        by simp [Reassembling], by simp⟩
    | some rxMsg =>
      obtain ⟨startOffset, bytes, assembling, long⟩ := reassembling rxMsg rfl
      by_cases room : startOffset + 1 + bytes.length + rest.length ≤
          PacketFragmenter.btDefaultBufferSize - BtHdr.headerSize
      · obtain ⟨next, extended, assemblingNext⟩ :=
          avdtMsgAsmbl_cont rxMsg pBuf startOffset bytes rest header assembling holds isKind room
        refine ⟨some next, [], extended, ?_, by simp⟩
        intro held isHeld
        cases isHeld
        exact ⟨startOffset, bytes ++ rest, assemblingNext, by simp only [List.length_append]; omega⟩
      · exact ⟨none, [], avdtMsgAsmbl_tooBig rxMsg pBuf startOffset bytes rest header assembling
          holds (.inl isKind) (by omega), by simp [Reassembling], by simp⟩
  · -- an end packet completes it
    change ¬ pBuf.len < avdtLenTypeEnd at short
    cases pRxMsg with
    | none =>
      exact ⟨none, [], avdtMsgAsmbl_orphan pBuf header rest holds (.inr isKind) (by omega),
        by simp [Reassembling], by simp⟩
    | some rxMsg =>
      obtain ⟨startOffset, bytes, assembling, long⟩ := reassembling rxMsg rfl
      by_cases room : startOffset + 1 + bytes.length + rest.length ≤
          PacketFragmenter.btDefaultBufferSize - BtHdr.headerSize
      · obtain ⟨assembled, completed, contents, assembledInside⟩ :=
          avdtMsgAsmbl_end rxMsg pBuf startOffset bytes rest header assembling holds isKind room
        refine ⟨none, [assembled], completed, by simp [Reassembling], ?_⟩
        have assembledLength : assembled.len = bytes.length + rest.length := by
          rw [← assembled.length_payload assembledInside, contents, List.length_append]
        simp only [List.mem_singleton, forall_eq]
        exact ⟨assembledInside, by omega, by omega⟩
      · exact ⟨none, [], avdtMsgAsmbl_tooBig rxMsg pBuf startOffset bytes rest header assembling
          holds (.inr isKind) (by omega), by simp [Reassembling], by simp⟩


/-- The channel control block as the rest of the stack keeps it: the command in
progress carries a signal id, the application's SEP array holds the entries it
asked for, and a reassembly in progress holds a header and a signal id. -/
structure WellFormed (ccb : AvdtpCcb) : Prop where
  cmdIsSignal : ∀ cmd, ccb.pCurrCmd = some cmd → 1 ≤ cmd.event ∧ cmd.event ≤ avdtSigMax
  arrayHolds : ccb.procParam ≤ ccb.procSepInfo.length
  reassembling : Reassembling ccb.pRxMsg

/-! ### The messages that make it read past their end -/

/-- A reject other than a general reject, of a signal whose reject parameters
are longer than what follows the two header bytes. -/
def ShortReject (message : BtHdr UInt8) : Prop :=
  (avdtMsgPrsHdr (message.payload.getD 0 0)).2.2 = avdtMsgTypeRej ∧ message.len ≠ avdtLenGenRej ∧
    1 ≤ avdtMsgPrsSig (message.payload.getD 1 0) ∧ avdtMsgPrsSig (message.payload.getD 1 0) ≤ avdtSigMax ∧
    message.len - avdtLenTypeSingle < rejLength (avdtMsgPrsSig (message.payload.getD 1 0))

instance (message : BtHdr UInt8) : Decidable (ShortReject message) :=
  inferInstanceAs (Decidable (_ ∧ _ ∧ _ ∧ _ ∧ _))

/-! ### Every step and every run -/

/-- The signal tables have one entry per signal. -/
theorem signalTables_length : avdtMsgPrsCmd.length = avdtSigMax ∧ avdtMsgPrsRsp.length = avdtSigMax ∧
    avdtMsgCmd2Evt.length = avdtSigMax ∧ avdtMsgRsp2Evt.length = avdtSigMax ∧
    avdtMsgRej2Evt.length = avdtSigMax :=
  ⟨rfl, rfl, rfl, rfl, rfl⟩

/-- The destinations the receiver sets up keep the application's array as long
as the number of SEPs it asked for. -/
theorem prsDestination_arrayHolds (ccb : AvdtpCcb) (msgType sig : Nat) (msg : AvdtMsg)
    (arrayHolds : ccb.procParam ≤ ccb.procSepInfo.length)
    (msgHolds : msg.discoverNumSeps ≤ msg.pSepInfo.length) :
    (prsDestination ccb msgType sig msg).discoverNumSeps ≤
      (prsDestination ccb msgType sig msg).pSepInfo.length := by
  unfold prsDestination
  split_ifs <;> assumption

section Safety

variable (scbAllocated : Nat → Bool)

/-- The parse through the tables returns for a signal id, unless the message is
a reject too short for its signal. -/
theorem parseBySignal_returns (msgType sig : Nat) (msg : AvdtMsg) (params : List UInt8) (len : Nat)
    (signal : 1 ≤ sig ∧ sig ≤ avdtSigMax) (inside : len ≤ params.length)
    (arrayHolds : msg.discoverNumSeps ≤ msg.pSepInfo.length)
    (enough : msgType = avdtMsgTypeCmd ∨ msgType = avdtMsgTypeRsp ∨ rejLength sig ≤ params.length) :
    Returns (parseBySignal scbAllocated msgType sig msg params len) := by
  obtain ⟨prsCmd, prsRsp, cmdEvt, rspEvt, rejEvt⟩ := signalTables_length
  unfold parseBySignal
  apply returns_ite
  · intro _
    rw [tableAt_signal avdtMsgPrsCmd sig (by omega), pure_bind]
    obtain ⟨⟨parsedMsg, err⟩, parsed⟩ := parse_returns scbAllocated _ msg params len inside arrayHolds
    rw [parsed, pure_bind]
    dsimp only
    rw [tableAt_signal avdtMsgCmd2Evt sig (by omega), pure_bind]
    exact returns_pure _
  · intro notCommand
    apply returns_ite
    · intro _
      rw [tableAt_signal avdtMsgPrsRsp sig (by omega), pure_bind]
      obtain ⟨⟨parsedMsg, err⟩, parsed⟩ := parse_returns scbAllocated _ msg params len inside arrayHolds
      rw [parsed, pure_bind]
      dsimp only
      rw [tableAt_signal avdtMsgRsp2Evt sig (by omega), pure_bind]
      exact returns_pure _
    · intro notResponse
      have carried : rejLength sig ≤ params.length := by tauto
      obtain ⟨⟨parsedMsg, err⟩, parsed⟩ := (avdtMsgPrsRej_returns_iff msg params sig).mpr carried
      rw [parsed, pure_bind]
      dsimp only
      rw [tableAt_signal avdtMsgRej2Evt sig (by omega), pure_bind]
      exact returns_pure _

/-- A general reject looks up the event of the command in progress inside the
table. -/
theorem generalReject_returns (ccb : AvdtpCcb) (label msgType : Nat) (msg : AvdtMsg)
    (cmdIsSignal : ∀ cmd, ccb.pCurrCmd = some cmd → 1 ≤ cmd.event ∧ cmd.event ≤ avdtSigMax) :
    Returns (generalReject scbAllocated ccb label msgType msg) := by
  unfold generalReject
  cases current : ccb.pCurrCmd with
  | none => exact returns_pure _
  | some cmd =>
    have signal := cmdIsSignal cmd current
    have tableLength := signalTables_length.2.2.2.2
    dsimp only
    rw [tableAt_signal avdtMsgRej2Evt cmd.event (by omega), pure_bind]
    exact returns_pure _

/-- The signal branch returns unless the message is a reject too short for its
signal. -/
theorem signalMessage_returns (ccb : AvdtpCcb) (label msgType : Nat) (msg : AvdtMsg)
    (bytes : List UInt8) (len : Nat) (arrayHolds : ccb.procParam ≤ ccb.procSepInfo.length)
    (msgHolds : msg.discoverNumSeps ≤ msg.pSepInfo.length) (length : bytes.length = len)
    (long : avdtLenTypeSingle ≤ len) (fits : len < 65536)
    (enough : 1 ≤ avdtMsgPrsSig (bytes.getD 1 0) → avdtMsgPrsSig (bytes.getD 1 0) ≤ avdtSigMax →
      msgType = avdtMsgTypeCmd ∨ msgType = avdtMsgTypeRsp ∨
        rejLength (avdtMsgPrsSig (bytes.getD 1 0)) ≤ len - avdtLenTypeSingle) :
    Returns (signalMessage scbAllocated ccb label msgType msg bytes len) := by
  have sizes := AvdtpMsg.layout
  unfold signalMessage
  rw [List.getD_eq_getElem _ _ (by omega)] at enough
  rw [readByte_of_lt bytes 1 (by omega), pure_bind]
  dsimp only
  apply returns_ite
  · intro _
    exact returns_pure _
  · intro signal
    have paramsLength : (bytes.drop avdtLenTypeSingle).length = len - avdtLenTypeSingle := by
      rw [List.length_drop, length]
    have lenStored : u16 ((len : Int) - avdtLenTypeSingle) = len - avdtLenTypeSingle :=
      u16_sub _ _ long fits
    refine returns_bind _ _ (parseBySignal_returns scbAllocated _ _ _ _ _ (by omega) (by omega)
      (prsDestination_arrayHolds ccb msgType _ _ arrayHolds msgHolds)
      (by rw [paramsLength]; exact enough (by omega) (by omega))) ?_
    intro parsed _
    apply returns_ite <;> intro _ <;> exact returns_pure _

/-- A whole message that is not a short reject is handled with every read,
store and table lookup inside. -/
theorem avdtMsgIndMessage_returns (ccb : AvdtpCcb) (message : BtHdr UInt8)
    (wellFormed : WellFormed ccb) (whole : Whole message) (notShort : ¬ ShortReject message) :
    Returns (avdtMsgIndMessage scbAllocated ccb message) := by
  obtain ⟨inside, long, fits⟩ := whole
  have length : message.payload.length = message.len := message.length_payload inside
  have sizes := AvdtpMsg.layout
  unfold avdtMsgIndMessage
  unfold ShortReject at notShort
  rw [List.getD_eq_getElem _ _ (by omega)] at notShort
  dsimp only
  rw [readByte_of_lt _ 0 (by omega), pure_bind]
  have typeBound : (avdtMsgPrsHdr message.payload[0]).2.2 ≤ 3 := Nat.and_le_right
  generalize avdtMsgPrsHdr message.payload[0] = header at notShort typeBound ⊢
  obtain ⟨label, pktType, msgType⟩ := header
  dsimp only at notShort typeBound ⊢
  apply returns_ite
  · intro _
    exact returns_pure _
  · intro notGrj
    apply returns_ite
    · intro _
      exact generalReject_returns scbAllocated ccb label msgType _ wellFormed.cmdIsSignal
    · intro notGeneral
      refine signalMessage_returns scbAllocated ccb label msgType _ _ _ wellFormed.arrayHolds
        (by simp [AvdtMsg.zero]) length long fits ?_
      intro atLeast atMost
      have kinds : msgType = 0 ∨ msgType = 1 ∨ msgType = 2 ∨ msgType = 3 := by omega
      simp only [avdtMsgTypeGrj, avdtMsgTypeRej, avdtMsgTypeCmd, avdtMsgTypeRsp, avdtLenGenRej]
        at notGrj notGeneral notShort ⊢
      omega

/-- A reject too short for its signal stops the parse at the reject parser. -/
theorem parseBySignal_short (msgType sig : Nat) (msg : AvdtMsg) (params : List UInt8) (len : Nat)
    (rejecting : msgType ≠ avdtMsgTypeCmd ∧ msgType ≠ avdtMsgTypeRsp)
    (short : params.length < rejLength sig) :
    parseBySignal scbAllocated msgType sig msg params len = throw .readOutsideMessage := by
  unfold parseBySignal
  rw [if_neg rejecting.1, if_neg rejecting.2, avdtMsgPrsRej_short msg params sig short]
  rfl

/-- The signal branch of a short reject reads past the message. -/
theorem signalMessage_short (ccb : AvdtpCcb) (label : Nat) (msg : AvdtMsg)
    (bytes : List UInt8) (len : Nat) (length : bytes.length = len) (long : avdtLenTypeSingle ≤ len)
    (signal : 1 ≤ avdtMsgPrsSig (bytes.getD 1 0) ∧ avdtMsgPrsSig (bytes.getD 1 0) ≤ avdtSigMax)
    (short : len - avdtLenTypeSingle < rejLength (avdtMsgPrsSig (bytes.getD 1 0))) :
    signalMessage scbAllocated ccb label avdtMsgTypeRej msg bytes len = throw .readOutsideMessage := by
  have sizes := AvdtpMsg.layout
  unfold signalMessage
  rw [List.getD_eq_getElem _ _ (by omega)] at signal short
  rw [readByte_of_lt bytes 1 (by omega), pure_bind]
  dsimp only
  rw [if_neg (by omega), parseBySignal_short scbAllocated _ _ _ _ _ (by decide)
    (by rw [List.length_drop]; omega)]
  rfl

/-- Every short reject makes `avdt_msg_ind` read the byte after the message,
whatever the state of the channel control block. -/
theorem avdtMsgIndMessage_shortReject (ccb : AvdtpCcb) (message : BtHdr UInt8)
    (whole : Whole message) (short : ShortReject message) :
    avdtMsgIndMessage scbAllocated ccb message = throw .readOutsideMessage := by
  obtain ⟨inside, long, fits⟩ := whole
  have length : message.payload.length = message.len := message.length_payload inside
  have sizes := AvdtpMsg.layout
  unfold avdtMsgIndMessage
  unfold ShortReject at short
  rw [List.getD_eq_getElem _ _ (by omega)] at short
  obtain ⟨rejecting, notGeneral, atLeast, atMost, tooShort⟩ := short
  dsimp only
  rw [readByte_of_lt _ 0 (by omega), pure_bind]
  generalize avdtMsgPrsHdr message.payload[0] = header at rejecting ⊢
  obtain ⟨label, pktType, msgType⟩ := header
  dsimp only at rejecting ⊢
  subst rejecting
  rw [if_neg (by decide), if_neg (by tauto)]
  exact signalMessage_short scbAllocated ccb label _ _ _ length long ⟨atLeast, atMost⟩ tooShort

/-- A step that returns only replaces the reassembly buffer. -/
theorem avdtMsgInd_ok (ccb : AvdtpCcb) (pBuf : BtHdr UInt8) (next : AvdtpCcb)
    (outcomes : List Outcome) (stepped : avdtMsgInd scbAllocated ccb pBuf = .ok (next, outcomes)) :
    ∃ pRxMsg delivered, avdtMsgAsmbl ccb.pRxMsg pBuf = .ok (pRxMsg, delivered) ∧
      next = { ccb with pRxMsg := pRxMsg } := by
  unfold avdtMsgInd at stepped
  cases assembled : avdtMsgAsmbl ccb.pRxMsg pBuf with
  | error failure =>
    rw [assembled] at stepped
    cases stepped
  | ok result =>
    obtain ⟨pRxMsg, delivered⟩ := result
    rw [assembled] at stepped
    refine ⟨pRxMsg, delivered, rfl, ?_⟩
    cases delivered with
    | nil =>
      cases stepped
      rfl
    | cons message rest =>
      dsimp only at stepped
      cases handled : avdtMsgIndMessage scbAllocated { ccb with pRxMsg := pRxMsg } message with
      | error failure =>
        rw [handled] at stepped
        cases stepped
      | ok handedOn =>
        rw [handled] at stepped
        cases stepped
        rfl

/-- Every step on a received packet keeps the channel control block well formed. -/
theorem avdtMsgInd_preserves :
    Runs.PreservesOn (avdtMsgInd scbAllocated) Received WellFormed := by
  intro ccb pBuf next outcomes wellFormed received stepped
  obtain ⟨pRxMsg, delivered, assembled, rfl⟩ := avdtMsgInd_ok scbAllocated ccb pBuf next outcomes stepped
  obtain ⟨pRxMsg', delivered', assembled', reassembling, -⟩ :=
    avdtMsgAsmbl_received ccb.pRxMsg pBuf wellFormed.reassembling received
  rw [assembled] at assembled'
  cases assembled'
  exact ⟨wellFormed.cmdIsSignal, wellFormed.arrayHolds, reassembling⟩

/-- A step on a received packet fails only by reading past a short reject that
the packet completes. -/
theorem avdtMsgInd_error (ccb : AvdtpCcb) (pBuf : BtHdr UInt8) (wellFormed : WellFormed ccb)
    (received : Received pBuf) (failure : Violation)
    (failed : avdtMsgInd scbAllocated ccb pBuf = .error failure) :
    failure = .readOutsideMessage ∧ ∃ next message rest,
      avdtMsgAsmbl ccb.pRxMsg pBuf = .ok (next, message :: rest) ∧ ShortReject message := by
  obtain ⟨next, delivered, assembled, reassembling, whole⟩ :=
    avdtMsgAsmbl_received ccb.pRxMsg pBuf wellFormed.reassembling received
  have nextWellFormed : WellFormed { ccb with pRxMsg := next } :=
    ⟨wellFormed.cmdIsSignal, wellFormed.arrayHolds, reassembling⟩
  unfold avdtMsgInd at failed
  rw [assembled] at failed
  cases delivered with
  | nil => cases failed
  | cons message rest =>
    dsimp only at failed
    have messageWhole := whole message List.mem_cons_self
    by_cases short : ShortReject message
    · rw [avdtMsgIndMessage_shortReject scbAllocated _ message messageWhole short] at failed
      cases failed
      exact ⟨rfl, next, message, rest, assembled, short⟩
    · obtain ⟨outcomes, returned⟩ :=
        avdtMsgIndMessage_returns scbAllocated _ message nextWellFormed messageWhole short
      rw [returned, pure_bind] at failed
      cases failed

/-- Every run of `avdt_msg_ind` over received packets from a well-formed channel
control block processes them all, or stops reading past a short reject that
one of them completes from a reachable state. -/
theorem avdtMsgInd_runs (ccb : AvdtpCcb) (packets : List (BtHdr UInt8)) (wellFormed : WellFormed ccb)
    (allReceived : ∀ pBuf ∈ packets, Received pBuf) :
    (∃ final outcomes, Runs.run (avdtMsgInd scbAllocated) ccb packets = .ok (final, outcomes)) ∨
      (Runs.run (avdtMsgInd scbAllocated) ccb packets = .error .readOutsideMessage ∧
        ∃ reached pBuf next message rest, WellFormed reached ∧ pBuf ∈ packets ∧
          avdtMsgAsmbl reached.pRxMsg pBuf = .ok (next, message :: rest) ∧ ShortReject message) := by
  cases ran : Runs.run (avdtMsgInd scbAllocated) ccb packets with
  | ok result => exact .inl ⟨result.1, result.2, rfl⟩
  | error failure =>
    obtain ⟨reached, pBuf, reachedWellFormed, member, failed⟩ :=
      Runs.run_fails_at _ WellFormed Received (avdtMsgInd_preserves scbAllocated) ccb packets failure
        wellFormed allReceived ran
    obtain ⟨isRead, next, message, rest, assembled, short⟩ :=
      avdtMsgInd_error scbAllocated reached pBuf reachedWellFormed (allReceived pBuf member) failure failed
    subst isRead
    exact .inr ⟨rfl, reached, pBuf, next, message, rest, reachedWellFormed, member, assembled, short⟩

/-- A three-byte reject of SETCONFIG makes `avdt_msg_prs_rej` read its error code
from the byte after the message, from every state of the channel control block. -/
theorem avdtMsgInd_setconfigRejectOverread (ccb : AvdtpCcb) :
    avdtMsgInd scbAllocated ccb ⟨0, 3, 0, 0, [0x03, 0x03, 0x00]⟩ = throw .readOutsideMessage := by
  have holds : Holds ⟨0, 3, 0, 0, [0x03, 0x03, 0x00]⟩ [0x03, 0x03, 0x00] :=
    ⟨rfl, by decide, by decide, rfl⟩
  unfold avdtMsgInd
  rw [avdtMsgAsmbl_single ccb.pRxMsg _ 0x03 [0x03, 0x00] holds (by decide) (by decide)]
  dsimp only
  rw [avdtMsgIndMessage_shortReject scbAllocated _ _ ⟨by decide, by decide, by decide⟩ (by decide)]
  rfl

end Safety

end Fluoride.AvdtpInd
