import Fluoride.L2capBuffers

/-!
# An ERTM or streaming channel: the transmit side

The fields of `tL2C_CCB` and `tL2C_FCRB` that the enhanced retransmission and
streaming modes of `l2c_fcr.cc` keep, the control word of an I-frame, the frame
check sequence of `l2c_fcr_updcrc`, `prepare_I_frame`, and
`l2c_fcr_get_next_xmit_sdu_seg`, which takes the next I-frame off a channel:
a retransmission first, otherwise the next piece of the SDU at the head of the
transmit queue, labelled by its place in the SDU, and in ERTM mode a copy of it
on the queue of frames waiting for an acknowledgement.

As in `l2c_fcr_clone_buf`, a copy whose 16-bit allocation size wraps is
undefined behaviour, and the model returns `none` for it; `osi_malloc` never
returns `NULL`, so the source's branches for a missing copy are not reached.
-/

namespace Fluoride.ErtmChannel

open ByteBuffer L2capBuffers

/-- `L2CAP_FCR_OVERHEAD`: the 16-bit control word. -/
def l2capFcrOverhead : Nat := 2

/-- `L2CAP_SDU_LEN_OVERHEAD`: the SDU length field of a start frame. -/
def l2capSduLenOverhead : Nat := 2

/-- `L2CAP_SDU_LEN_OFFSET`: room for the SDU length field before a piece. -/
def l2capSduLenOffset : Nat := 2

/-- `L2CAP_MAX_HEADER_FCS`: basic header, extended control field, SDU length and FCS. -/
def l2capMaxHeaderFcs : Nat := 4 + 4 + 2 + 2

/-- `HCI_DATA_PREAMBLE_SIZE`: the ACL header. -/
def hciDataPreambleSize : Nat := 4

/-- `L2CAP_FCR_ERTM_MODE`. -/
def l2capFcrErtmMode : Nat := 0x03

/-- `L2CAP_FCR_STREAM_MODE`. -/
def l2capFcrStreamMode : Nat := 0x04

/-- `L2CAP_FCR_UNSEG_SDU`: the SAR bits of an unsegmented SDU. -/
def l2capFcrUnsegSdu : Nat := 0x0000

/-- `L2CAP_FCR_START_SDU`: the SAR bits of the first piece of an SDU. -/
def l2capFcrStartSdu : Nat := 0x4000

/-- `L2CAP_FCR_END_SDU`: the SAR bits of the last piece of an SDU. -/
def l2capFcrEndSdu : Nat := 0x8000

/-- `L2CAP_FCR_CONT_SDU`: the SAR bits of a middle piece of an SDU. -/
def l2capFcrContSdu : Nat := 0xc000

/-- `L2CAP_FCR_SEG_BITS`: the SAR field of a control word. -/
def l2capFcrSegBits : Nat := 0xC000

/-- `L2CAP_FCR_S_FRAME_BIT`. -/
def l2capFcrSFrameBit : Nat := 0x0001

/-- `L2CAP_FCR_REQ_SEQ_BITS`. -/
def l2capFcrReqSeqBits : Nat := 0x3F00

/-- `L2CAP_FCR_REQ_SEQ_BITS_SHIFT`. -/
def l2capFcrReqSeqBitsShift : Nat := 8

/-- `L2CAP_FCR_TX_SEQ_BITS`. -/
def l2capFcrTxSeqBits : Nat := 0x007E

/-- `L2CAP_FCR_TX_SEQ_BITS_SHIFT`. -/
def l2capFcrTxSeqBitsShift : Nat := 1

/-- `L2CAP_FCR_F_BIT`. -/
def l2capFcrFBit : Nat := 0x0080

/-- `L2CAP_FCR_P_BIT`. -/
def l2capFcrPBit : Nat := 0x0010

/-- `L2CAP_FCR_SUP_BITS`: the supervisory function of an S-frame. -/
def l2capFcrSupBits : Nat := 0x000C

/-- `L2CAP_FCR_SUP_SHIFT`. -/
def l2capFcrSupShift : Nat := 2

/-- `L2CAP_FCR_SEQ_MODULO`: sequence numbers run from 0 to 63. -/
def l2capFcrSeqModulo : Nat := 0x3F

/-- `L2CAP_FCR_INIT_CRC`. -/
def l2capFcrInitCrc : Nat := 0

/-- The fields of `tL2C_CCB` and its `tL2C_FCRB` that the transmit and receive
paths of an ERTM or streaming channel read and write. Sequence numbers are
`uint8_t` fields kept below 64 by `L2CAP_FCR_SEQ_MODULO`; `isOpen` stands for
`in_use && chnl_state == CST_OPEN`, and `ownRxPool` for a receive buffer size
other than `L2CAP_FCR_RX_BUF_SIZE`. The reassembly buffer has `none` cells where
nothing has been copied yet. -/
structure FcrChannel where
  localCid : Nat
  remoteCid : Nat
  txMps : Nat
  peerMode : Nat
  peerTxWinSz : Nat
  peerMaxTransmit : Nat
  ourTxWinSz : Nat
  maxHeldAcks : Nat
  maxRxMtu : Nat
  ownRxPool : Bool
  bypassFcs : Bool
  isOpen : Bool
  nextTxSeq : Nat
  lastRxAck : Nat
  nextSeqExpected : Nat
  lastAckSent : Nat
  numTries : Nat
  waitAck : Bool
  sendFRsp : Bool
  remoteBusy : Bool
  localBusy : Bool
  rejSent : Bool
  srejSent : Bool
  rejAfterSrej : Bool
  xmitHoldQ : List (BtHdr UInt8)
  retransQ : List (BtHdr UInt8)
  waitingForAckQ : List (BtHdr UInt8)
  srejRcvHoldQ : List (BtHdr UInt8)
  pRxSdu : Option (BtHdr (Option UInt8))
  rxSduLen : Nat

/-- What a channel hands to the rest of the stack. -/
inductive FcrOutput where
  /-- a frame passed to `l2c_link_check_send_pkts` -/
  | sent (frame : BtHdr UInt8)
  /-- `l2c_link_check_send_pkts` asked to send what is queued -/
  | checkSendPkts
  /-- `retransmit_i_frames` dropping this channel's unsent frames from the link queue -/
  | flushLinkQueue
  /-- a complete SDU handed up by `L2CEVT_L2CAP_DATA` -/
  | delivered (sdu : BtHdr (Option UInt8))
  /-- `pL2CA_TxComplete_Cb` with the number of SDUs acknowledged -/
  | txComplete (count : Nat)
  /-- `l2cu_disconnect_chnl` -/
  | disconnect
deriving Repr, DecidableEq

/-- What a channel cannot do: follow a null buffer, or copy or store outside one. -/
inductive FcrFailure where
  | nullBuffer
  | outOfBounds
deriving Repr, DecidableEq

/-- `L2CAP_NON_FLUSHABLE_PKT`: the flushable flag of an S-frame. -/
def l2capNonFlushablePkt : Nat := 0x0002

/-- `L2CAP_FCR_SUP_RR`. -/
def l2capFcrSupRr : Nat := 0x0000

/-- `L2CAP_FCR_SUP_REJ`. -/
def l2capFcrSupRej : Nat := 0x0001

/-- `L2CAP_FCR_SUP_RNR`. -/
def l2capFcrSupRnr : Nat := 0x0002

/-- `L2CAP_FCR_SUP_SREJ`. -/
def l2capFcrSupSrej : Nat := 0x0003

/-- `l2cu_disconnect_chnl`: the channel leaves the open state. -/
def l2cuDisconnectChnl (ccb : FcrChannel) : FcrChannel × List FcrOutput :=
  ({ ccb with isOpen := false }, [.disconnect])

/-- `l2c_fcr_is_flow_controlled`: in ERTM mode, the peer is busy or the transmit
window is full. -/
def l2cFcrIsFlowControlled (ccb : FcrChannel) : Bool :=
  ccb.peerMode = l2capFcrErtmMode &&
    (ccb.remoteBusy || decide (ccb.peerTxWinSz ≤ ccb.waitingForAckQ.length))

/-- `crctab`: the table of `l2c_fcr_updcrc`. -/
def crctab : List Nat := [
  0x0000, 0xc0c1, 0xc181, 0x0140, 0xc301, 0x03c0, 0x0280, 0xc241, 0xc601, 0x06c0,
  0x0780, 0xc741, 0x0500, 0xc5c1, 0xc481, 0x0440, 0xcc01, 0x0cc0, 0x0d80, 0xcd41,
  0x0f00, 0xcfc1, 0xce81, 0x0e40, 0x0a00, 0xcac1, 0xcb81, 0x0b40, 0xc901, 0x09c0,
  0x0880, 0xc841, 0xd801, 0x18c0, 0x1980, 0xd941, 0x1b00, 0xdbc1, 0xda81, 0x1a40,
  0x1e00, 0xdec1, 0xdf81, 0x1f40, 0xdd01, 0x1dc0, 0x1c80, 0xdc41, 0x1400, 0xd4c1,
  0xd581, 0x1540, 0xd701, 0x17c0, 0x1680, 0xd641, 0xd201, 0x12c0, 0x1380, 0xd341,
  0x1100, 0xd1c1, 0xd081, 0x1040, 0xf001, 0x30c0, 0x3180, 0xf141, 0x3300, 0xf3c1,
  0xf281, 0x3240, 0x3600, 0xf6c1, 0xf781, 0x3740, 0xf501, 0x35c0, 0x3480, 0xf441,
  0x3c00, 0xfcc1, 0xfd81, 0x3d40, 0xff01, 0x3fc0, 0x3e80, 0xfe41, 0xfa01, 0x3ac0,
  0x3b80, 0xfb41, 0x3900, 0xf9c1, 0xf881, 0x3840, 0x2800, 0xe8c1, 0xe981, 0x2940,
  0xeb01, 0x2bc0, 0x2a80, 0xea41, 0xee01, 0x2ec0, 0x2f80, 0xef41, 0x2d00, 0xedc1,
  0xec81, 0x2c40, 0xe401, 0x24c0, 0x2580, 0xe541, 0x2700, 0xe7c1, 0xe681, 0x2640,
  0x2200, 0xe2c1, 0xe381, 0x2340, 0xe101, 0x21c0, 0x2080, 0xe041, 0xa001, 0x60c0,
  0x6180, 0xa141, 0x6300, 0xa3c1, 0xa281, 0x6240, 0x6600, 0xa6c1, 0xa781, 0x6740,
  0xa501, 0x65c0, 0x6480, 0xa441, 0x6c00, 0xacc1, 0xad81, 0x6d40, 0xaf01, 0x6fc0,
  0x6e80, 0xae41, 0xaa01, 0x6ac0, 0x6b80, 0xab41, 0x6900, 0xa9c1, 0xa881, 0x6840,
  0x7800, 0xb8c1, 0xb981, 0x7940, 0xbb01, 0x7bc0, 0x7a80, 0xba41, 0xbe01, 0x7ec0,
  0x7f80, 0xbf41, 0x7d00, 0xbdc1, 0xbc81, 0x7c40, 0xb401, 0x74c0, 0x7580, 0xb541,
  0x7700, 0xb7c1, 0xb681, 0x7640, 0x7200, 0xb2c1, 0xb381, 0x7340, 0xb101, 0x71c0,
  0x7080, 0xb041, 0x5000, 0x90c1, 0x9181, 0x5140, 0x9301, 0x53c0, 0x5280, 0x9241,
  0x9601, 0x56c0, 0x5780, 0x9741, 0x5500, 0x95c1, 0x9481, 0x5440, 0x9c01, 0x5cc0,
  0x5d80, 0x9d41, 0x5f00, 0x9fc1, 0x9e81, 0x5e40, 0x5a00, 0x9ac1, 0x9b81, 0x5b40,
  0x9901, 0x59c0, 0x5880, 0x9841, 0x8801, 0x48c0, 0x4980, 0x8941, 0x4b00, 0x8bc1,
  0x8a81, 0x4a40, 0x4e00, 0x8ec1, 0x8f81, 0x4f40, 0x8d01, 0x4dc0, 0x4c80, 0x8c41,
  0x4400, 0x84c1, 0x8581, 0x4540, 0x8701, 0x47c0, 0x4680, 0x8641, 0x8201, 0x42c0,
  0x4380, 0x8341, 0x4100, 0x81c1, 0x8081, 0x4040
]

/-- `l2c_fcr_updcrc`: run the CRC register over the bytes, a table lookup per byte. -/
def l2cFcrUpdcrc (icrc : Nat) (bytes : List UInt8) : Nat :=
  bytes.foldl (fun crc byte => (crc >>> 8 &&& 0xff) ^^^ crctab.getD ((crc &&& 0xff) ^^^ byte.toNat) 0)
    icrc

/-- `l2c_fcr_tx_get_fcs`: the CRC of the frame's window. -/
def l2cFcrTxGetFcs (buffer : BtHdr UInt8) : Nat :=
  l2cFcrUpdcrc l2capFcrInitCrc buffer.payload

/-- `l2c_fcr_send_S_frame`: on an open channel, send an S-frame of the function
acknowledging the next expected sequence number with the poll or final bit
given; a poll starts waiting for the final answer. The HCI header
`l2cu_set_acl_hci_header` writes before the frame is left out. -/
def l2cFcrSendSFrame (ccb : FcrChannel) (functionCode pfBit : Nat) : FcrChannel × List FcrOutput :=
  if !ccb.isOpen then (ccb, [])
  else
    let ccb := if pfBit = l2capFcrPBit then { ccb with waitAck := true } else ccb
    let ctrlWord := (functionCode <<< l2capFcrSupShift) ||| l2capFcrSFrameBit |||
      (ccb.nextSeqExpected <<< l2capFcrReqSeqBitsShift) ||| pfBit
    let header := le16 (l2capFcrOverhead + l2capFcsLen) ++ le16 ccb.remoteCid ++ le16 ctrlWord
    -- without an FCS the length field is rewritten without it
    let bytes :=
      if ccb.bypassFcs then le16 l2capFcrOverhead ++ le16 ccb.remoteCid ++ le16 ctrlWord
      else header ++ le16 (l2cFcrUpdcrc l2capFcrInitCrc header)
    let frame : BtHdr UInt8 :=
      { event := 0
        len := bytes.length
        offset := hciDataPreambleSize
        layerSpecific := l2capNonFlushablePkt
        data := List.replicate hciDataPreambleSize 0 ++ bytes }
    ({ ccb with lastAckSent := ccb.nextSeqExpected }, [.sent frame])

/-- The control word `prepare_I_frame` writes: for a new frame the SAR bits kept
in `layer_specific` and the next transmit sequence number, for a retransmission
the old word without its ReqSeq and F bits; in ERTM mode the F bit when a poll
is to be answered and the next expected sequence number. -/
def iFrameControl (ccb : FcrChannel) (buffer : BtHdr UInt8) (isRetransmission : Bool) : Nat :=
  let ctrlWord :=
    if isRetransmission then
      readLe16 buffer.data (buffer.offset + l2capPktOverhead) &&&
        (0xFFFF ^^^ (l2capFcrReqSeqBits + l2capFcrFBit))
    else (buffer.layerSpecific &&& l2capFcrSegBits) ||| (ccb.nextTxSeq <<< l2capFcrTxSeqBitsShift)
  if ccb.peerMode = l2capFcrErtmMode then
    (if ccb.sendFRsp then ctrlWord ||| l2capFcrFBit else ctrlWord) |||
      (ccb.nextSeqExpected <<< l2capFcrReqSeqBitsShift)
  else ctrlWord

/-- `prepare_I_frame`: write the control word after the basic header, advance the
transmit sequence number of a new frame, record the acknowledgement sent in
ERTM mode, and unless the FCS is bypassed, count it in the length field and
append it. The timers it starts and stops are left out. -/
def prepareIFrame (ccb : FcrChannel) (buffer : BtHdr UInt8) (isRetransmission : Bool) :
    Option (FcrChannel × BtHdr UInt8) := do
  let ctrlWord := iFrameControl ccb buffer isRetransmission
  let ccb := { ccb with sendFRsp := false }
  let ccb := if isRetransmission then ccb
    else { ccb with nextTxSeq := (ccb.nextTxSeq + 1) &&& l2capFcrSeqModulo }
  let ccb := if ccb.peerMode = l2capFcrErtmMode then { ccb with lastAckSent := ccb.nextSeqExpected }
    else ccb
  let data ← store? buffer.data (buffer.offset + l2capPktOverhead) (le16 ctrlWord)
  let buffer := { buffer with data := data }
  if ccb.bypassFcs then return (ccb, buffer)
  let data ← store? buffer.data buffer.offset
    (le16 (u16 ((buffer.len : Int) + l2capFcsLen - l2capPktOverhead)))
  let buffer := { buffer with data := data }
  let data ← store? buffer.data (buffer.offset + buffer.len) (le16 (l2cFcrTxGetFcs buffer))
  return (ccb, { buffer with data := data, len := u16 (buffer.len + l2capFcsLen) })

/-- The piece of the SDU at the head of the queue that the next new I-frame
carries, and its place in the SDU: the clone of `max_pdu` bytes when more are
left, otherwise the queued buffer itself, taken off the queue. -/
def nextPiece (ccb : FcrChannel) (maxPdu : Nat) :
    Option (BtHdr UInt8 × Bool × Bool × Bool × Nat × FcrChannel) := do
  let buffer ← ccb.xmitHoldQ.head?
  if buffer.len > maxPdu then
    -- the event field says whether segmentation has started
    let firstSeg := buffer.event == 0
    let xmit ← l2cFcrCloneBuf buffer (l2capMinOffset + l2capSduLenOffset) maxPdu
    let rest := { buffer with
      event := ccb.localCid
      len := buffer.len - maxPdu
      offset := u16 (buffer.offset + maxPdu) }
    let xmit := { xmit with event := ccb.localCid, layerSpecific := rest.layerSpecific }
    return (xmit, firstSeg, !firstSeg, false, if firstSeg then buffer.len else 0,
      { ccb with xmitHoldQ := rest :: ccb.xmitHoldQ.tail })
  else
    return ({ buffer with event := ccb.localCid }, false, false, buffer.event != 0, 0,
      { ccb with xmitHoldQ := ccb.xmitHoldQ.tail })

/-- `l2c_fcr_get_next_xmit_sdu_seg`: a frame waiting for retransmission goes
first; otherwise the next piece of the head SDU gets its basic header, its SDU
length when it starts a segmented SDU, its SAR bits and control word, and in
ERTM mode a copy of it without its FCS joins the frames waiting for an
acknowledgement. -/
def l2cFcrGetNextXmitSduSeg (ccb : FcrChannel) (maxPacketLength : Nat) :
    Option (BtHdr UInt8 × FcrChannel) := do
  match ccb.retransQ with
  | buffer :: rest =>
    let (ccb, buffer) ← prepareIFrame { ccb with retransQ := rest } buffer true
    return ({ buffer with event := ccb.localCid }, ccb)
  | [] =>
    let maxPdu :=
      if maxPacketLength > l2capMaxHeaderFcs ∧ ccb.txMps + l2capMaxHeaderFcs > maxPacketLength then
        maxPacketLength - l2capMaxHeaderFcs
      else ccb.txMps
    let (xmit, firstSeg, midSeg, lastSeg, sduLen, ccb) ← nextPiece ccb maxPdu
    -- step back to add the L2CAP headers
    let xmit := { xmit with
      offset := u16 ((xmit.offset : Int) - (l2capPktOverhead + l2capFcrOverhead))
      len := u16 (xmit.len + l2capPktOverhead + l2capFcrOverhead) }
    let xmit := if firstSeg then
        { xmit with
          offset := u16 ((xmit.offset : Int) - l2capSduLenOverhead)
          len := u16 (xmit.len + l2capSduLenOverhead) }
      else xmit
    let data ← store? xmit.data xmit.offset
      (le16 (u16 ((xmit.len : Int) - l2capPktOverhead)) ++ le16 ccb.remoteCid)
    -- a start frame carries the SDU length after its control word
    let data ← if firstSeg then
        store? data (xmit.offset + l2capPktOverhead + l2capFcrOverhead) (le16 sduLen)
      else pure data
    let sar :=
      if firstSeg then l2capFcrStartSdu
      else if midSeg then l2capFcrContSdu
      else if lastSeg then l2capFcrEndSdu
      else l2capFcrUnsegSdu
    let xmit := { xmit with data := data, layerSpecific := xmit.layerSpecific ||| sar }
    let (ccb, xmit) ← prepareIFrame ccb xmit false
    if ccb.peerMode = l2capFcrErtmMode then
      let wack ← l2cFcrCloneBuf xmit hciDataPreambleSize xmit.len
      let wack := { wack with
        len := if ccb.bypassFcs then wack.len else wack.len - l2capFcsLen
        layerSpecific := xmit.layerSpecific }
      return (xmit, { ccb with waitingForAckQ := ccb.waitingForAckQ ++ [wack] })
    else return (xmit, ccb)

end Fluoride.ErtmChannel
