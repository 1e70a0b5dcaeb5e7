import Fluoride.L2capBuffers
import Fluoride.PacketFragmenter
import Fluoride.Runs
import Fluoride.Segments

/-!
# AVDTP signalling messages on the wire

`stack/avdt/avdt_msg.cc` sends a signalling message in one packet when it fits
the peer's MTU and cuts it otherwise (`avdt_msg_send`): a start packet with a
three-byte header (packet header, number of packets, signal id), continue
packets and an end packet with a one-byte header. A start or continue packet is
copied into a fresh `AVDT_CMD_BUF_SIZE` buffer; a single or end packet goes out
in the message's own buffer. The sender stops when the channel reports
congestion and is called again by the channel control block when it clears
(`avdt_ccb_snd_msg`), keeping the part of the message not yet sent in
`p_curr_msg`. The receiver glues the packets back in `avdt_msg_asmbl`: a start
packet is copied into a `BT_DEFAULT_BUFFER_SIZE` buffer with its header byte
written over the packet count, continue and end packets are appended, and an
end packet hands the buffer up laid out as a single packet.

The model follows both functions statement by statement. The channel's
congestion reports after each write are an input, one `Bool` per packet. A
`memcpy` or a header store outside its buffer is the failure `outOfBounds`, a
division by a zero MTU is `divisionByZero`, a dereference of a missing message
is `nullMessage`, and the sending loop runs on fuel, one pass per byte and one
more, with `unfinished` when it runs out (only an MTU below four can make it).

`messagePackets` is what the sender's passes put on the wire, stated over the
parameters alone. The sender writes a prefix of it in every pattern of
congestion and all of it once the message is done; each packet fits the MTU;
and the receiver returns the message on the last packet and nothing before, as
a single packet with the sender's label, message type and signal id and the
original parameters. The fresh buffer of a start or continue packet holds
`AVDT_CMD_BUF_SIZE - sizeof(BT_HDR)` bytes, so a fragment fits it only when
the MTU is at most 639; the stack's own messages are built in buffers of that
size and are never cut at such an MTU, but a longer message is.
-/

namespace Fluoride.AvdtpMsg

open ByteBuffer Segments L2capBuffers

/-- `AVDT_PKT_TYPE_SINGLE`: a message in one packet. -/
def avdtPktTypeSingle : Nat := 0

/-- `AVDT_PKT_TYPE_START`: the first packet of a cut message. -/
def avdtPktTypeStart : Nat := 1

/-- `AVDT_PKT_TYPE_CONT`: a middle packet of a cut message. -/
def avdtPktTypeCont : Nat := 2

/-- `AVDT_PKT_TYPE_END`: the last packet of a cut message. -/
def avdtPktTypeEnd : Nat := 3

/-- `AVDT_LEN_TYPE_SINGLE`: header, then signal id. -/
def avdtLenTypeSingle : Nat := 2

/-- `AVDT_LEN_TYPE_START`: header, number of packets, signal id. -/
def avdtLenTypeStart : Nat := 3

/-- `AVDT_LEN_TYPE_CONT`: the header byte alone. -/
def avdtLenTypeCont : Nat := 1

/-- `AVDT_LEN_TYPE_END`: the header byte alone. -/
def avdtLenTypeEnd : Nat := 1

/-- `avdt_msg_pkt_type_len`: the shortest packet of each type. -/
def avdtMsgPktTypeLen : List Nat :=
  [avdtLenTypeSingle, avdtLenTypeStart, avdtLenTypeCont, avdtLenTypeEnd]

/-- `AVDT_NUM_SEPS` (`internal_include/bt_target.h`). -/
def avdtNumSeps : Nat := 6

/-- `AVDT_MSG_OFFSET`: where a message's parameters start in its buffer. -/
def avdtMsgOffset : Nat := l2capMinOffset + avdtNumSeps + avdtLenTypeStart

/-- `AVDT_CMD_BUF_SIZE`, that is `BT_SMALL_BUFFER_SIZE`. -/
def avdtCmdBufSize : Nat := 660

/-- Why a call has no result in the model. -/
inductive Failure
  /-- A `memcpy` or a store outside its buffer. -/
  | outOfBounds
  /-- The `nosp` division by `peer_mtu - 1` with an MTU of one. -/
  | divisionByZero
  /-- `avdt_msg_send` with no message to send. -/
  | nullMessage
  /-- The sending loop did not finish. -/
  | unfinished
deriving DecidableEq, Repr

/-- `AVDT_MSG_BLD_HDR`: label, packet type and message type in one byte. The
cast to `uint8_t` binds to the shifted label only; the store truncates the rest. -/
def avdtMsgBldHdr (label pktType msg : Nat) : UInt8 :=
  UInt8.ofNat ((label <<< 4) % 256 ||| pktType <<< 2 ||| msg)

/-- `AVDT_MSG_PRS_HDR`: label, packet type and message type of a header byte. -/
def avdtMsgPrsHdr (header : UInt8) : Nat × Nat × Nat :=
  ((header.toNat >>> 4) &&& 0x0F, (header.toNat >>> 2) &&& 0x03, header.toNat &&& 0x03)

/-- `AVDT_MSG_PRS_PKT_TYPE`: the packet type of a header byte. -/
def avdtMsgPrsPktType (header : UInt8) : Nat := (header.toNat >>> 2) &&& 0x03

/-- `AVDT_LAYERSPEC_LABEL`. -/
def avdtLayerspecLabel (layerSpecific : Nat) : Nat := (layerSpecific >>> 4) % 256

/-- `AVDT_LAYERSPEC_MSG`. -/
def avdtLayerspecMsg (layerSpecific : Nat) : Nat := layerSpecific &&& 0x000F

/-- The `nosp` byte of a start packet, computed in `int` and stored in a `uint8_t`. -/
def nospOf (peerMtu len : Nat) : Nat :=
  ((((len : Int) + avdtLenTypeStart - peerMtu).tdiv ((peerMtu : Int) - 1) + 2) % 256).toNat

/-! ### The sender -/

/-- The part of the channel control block the sender reads and writes: the
congestion flag and the message being sent. -/
structure AvdtpCcb where
  cong : Bool
  pCurrMsg : Option (BtHdr UInt8)
deriving DecidableEq, Repr

/-- The fresh buffer of a start or continue packet: `osi_malloc(AVDT_CMD_BUF_SIZE)`
at offset `L2CAP_MIN_OFFSET + hdr_len`, holding the next `peer_mtu - hdr_len`
bytes of the message. -/
def fragmentBuffer (peerMtu hdrLen : Nat) (currMsg : BtHdr UInt8) : Option (BtHdr UInt8) := do
  let len := u16 ((peerMtu : Int) - hdrLen)
  let data ← copy? (List.replicate (avdtCmdBufSize - BtHdr.headerSize) 0)
    (l2capMinOffset + hdrLen) currMsg.data currMsg.offset len
  pure ⟨0, len, l2capMinOffset + hdrLen, 0, data⟩

/-- The `if` chain of `avdt_msg_send`: the packet type, its header length, the
buffer it goes out in, whether that buffer is the message's own, and the
`nosp` of a start packet. -/
def avdtPickPacket (peerMtu : Nat) (currMsg : BtHdr UInt8) :
    Except Failure (Nat × Nat × BtHdr UInt8 × Bool × Nat) :=
  if currMsg.offset = avdtMsgOffset ∧ (currMsg.len : Int) ≤ (peerMtu : Int) - avdtLenTypeSingle then
    pure (avdtPktTypeSingle, avdtLenTypeSingle, currMsg, true, 0)
  else if currMsg.offset = avdtMsgOffset ∧ (peerMtu : Int) - avdtLenTypeSingle < currMsg.len then
    if peerMtu = 1 then throw .divisionByZero
    else match fragmentBuffer peerMtu avdtLenTypeStart currMsg with
      | some pBuf => pure (avdtPktTypeStart, avdtLenTypeStart, pBuf, false,
          nospOf peerMtu currMsg.len)
      | none => throw .outOfBounds
  else if avdtMsgOffset < currMsg.offset ∧ (peerMtu : Int) - avdtLenTypeCont < currMsg.len then
    match fragmentBuffer peerMtu avdtLenTypeCont currMsg with
    | some pBuf => pure (avdtPktTypeCont, avdtLenTypeCont, pBuf, false, 0)
    | none => throw .outOfBounds
  else pure (avdtPktTypeEnd, avdtLenTypeEnd, currMsg, true, 0)

/-- The header `avdt_msg_send` writes in front of a packet: the header byte,
then `nosp` for a start packet, then the signal id for a start or single packet. -/
def packetHeader (label pktType msg nosp sig : Nat) : List UInt8 :=
  avdtMsgBldHdr label pktType msg ::
    ((if pktType = avdtPktTypeStart then [UInt8.ofNat nosp] else []) ++
      (if pktType = avdtPktTypeStart ∨ pktType = avdtPktTypeSingle then [UInt8.ofNat sig]
        else []))

/-- One pass of the loop of `avdt_msg_send`: the packet written, the message
left to send and the new `curr_msg_len`. For a single or an end packet
`p_buf` is `p_curr_msg`, so when the message is not done the bookkeeping on the
message is the bookkeeping on the packet. -/
def sendPass (peerMtu : Nat) (currMsg : BtHdr UInt8) (currMsgLen : Nat) :
    Except Failure (BtHdr UInt8 × Option (BtHdr UInt8) × Nat) := do
  let (pktType, hdrLen, pBuf, inPlace, nosp) ← avdtPickPacket peerMtu currMsg
  let label := avdtLayerspecLabel currMsg.layerSpecific
  let msg := avdtLayerspecMsg currMsg.layerSpecific
  let sig := currMsg.event % 256
  let currMsgLen := u16 ((currMsgLen : Int) - pBuf.len)
  let moved : BtHdr UInt8 :=
    if inPlace then { currMsg with len := 0 }
    else { currMsg with len := u16 ((currMsg.len : Int) - pBuf.len),
                        offset := u16 ((currMsg.offset : Int) + pBuf.len) }
  let pBuf := if currMsgLen ≠ 0 ∧ inPlace then moved else pBuf
  let offset := u16 ((pBuf.offset : Int) - hdrLen)
  match store? pBuf.data offset (packetHeader label pktType msg nosp sig) with
  | some data =>
    let packet : BtHdr UInt8 :=
      { pBuf with len := u16 ((pBuf.len : Int) + hdrLen), offset := offset, data := data }
    let next := if currMsgLen = 0 then none else if inPlace then some packet else some moved
    pure (packet, next, currMsgLen)
  | none => throw .outOfBounds

/-- The loop of `avdt_msg_send`: passes while the channel is not congested and
a message is being sent. After each write the channel reports whether it is
congested, read from `reports` (not congested once they run out). -/
def sendLoop (peerMtu : Nat) :
    Nat → AvdtpCcb → Nat → List Bool → Except Failure (AvdtpCcb × List (BtHdr UInt8))
  | 0, ccb, _, _ =>
    if ccb.cong = false ∧ ccb.pCurrMsg.isSome then throw .unfinished else pure (ccb, [])
  | fuel + 1, ccb, currMsgLen, reports =>
    match ccb.cong, ccb.pCurrMsg with
    | false, some currMsg => do
      let (packet, next, currMsgLen) ← sendPass peerMtu currMsg currMsgLen
      let (ccb, rest) ← sendLoop peerMtu fuel ⟨reports.headD false, next⟩ currMsgLen reports.tail
      pure (ccb, packet :: rest)
    | _, _ => pure (ccb, [])

/-- `avdt_msg_send`: take the new message, if any, and send what the channel
lets through. -/
def avdtMsgSend (peerMtu : Nat) (ccb : AvdtpCcb) (pMsg : Option (BtHdr UInt8))
    (reports : List Bool) : Except Failure (AvdtpCcb × List (BtHdr UInt8)) :=
  let ccb := match pMsg with
    | some message => { ccb with pCurrMsg := some message }
    | none => ccb
  match ccb.pCurrMsg with
  | some currMsg => sendLoop peerMtu (currMsg.len + 1) ccb currMsg.len reports
  | none => throw .nullMessage

/-- A start packet copied into a fresh `BT_DEFAULT_BUFFER_SIZE` buffer, header
fields included, with its header byte written over the packet count. -/
def startReassembly (pBuf : BtHdr UInt8) : Option (BtHdr UInt8) := do
  let data ← copy? (List.replicate (PacketFragmenter.btDefaultBufferSize - BtHdr.headerSize) 0) 0
    pBuf.data 0 (pBuf.offset + pBuf.len)
  let first ← data[pBuf.offset]?
  let data ← store? data (pBuf.offset + 1) [first]
  pure { pBuf with data := data, offset := u16 ((pBuf.offset : Int) + pBuf.len),
                   len := u16 ((pBuf.len : Int) - 1) }

/-- A continue or end packet appended to the reassembly buffer; an end packet
hands the buffer up with its offset moved back to the header byte. -/
def appendFragment (rxMsg pBuf : BtHdr UInt8) (isEnd : Bool) :
    Except Failure (Option (BtHdr UInt8) × List (BtHdr UInt8)) :=
  let bufLen := PacketFragmenter.btDefaultBufferSize - BtHdr.headerSize
  let offset := u16 ((pBuf.offset : Int) + avdtLenTypeCont)
  let len := u16 ((pBuf.len : Int) - avdtLenTypeCont)
  if bufLen < rxMsg.offset + len then pure (none, [])
  else match copy? rxMsg.data rxMsg.offset pBuf.data offset len with
    | none => throw .outOfBounds
    | some data =>
      if isEnd then
        pure (none, [{ rxMsg with data := data, offset := u16 ((rxMsg.offset : Int) - rxMsg.len),
                                   len := u16 ((rxMsg.len : Int) + len) }])
      else
        pure (some { rxMsg with data := data, offset := u16 ((rxMsg.offset : Int) + len),
                                len := u16 ((rxMsg.len : Int) + len) }, [])

/-- `avdt_msg_asmbl`: the new reassembly buffer `p_rx_msg`, and the message
handed to `avdt_msg_ind`, if any. -/
def avdtMsgAsmbl (pRxMsg : Option (BtHdr UInt8)) (pBuf : BtHdr UInt8) :
    Except Failure (Option (BtHdr UInt8) × List (BtHdr UInt8)) :=
  if pBuf.len < 1 then pure (pRxMsg, [])
  else match pBuf.data[pBuf.offset]? with
  | none => throw .outOfBounds
  | some first =>
    let pktType := avdtMsgPrsPktType first
    if pBuf.len < avdtMsgPktTypeLen.getD pktType 0 then pure (pRxMsg, [])
    else if pktType = avdtPktTypeSingle then pure (none, [pBuf])
    else if pktType = avdtPktTypeStart then
      match startReassembly pBuf with
      | some rxMsg => pure (some rxMsg, [])
      | none => throw .outOfBounds
    else match pRxMsg with
      | none => pure (none, [])
      | some rxMsg => appendFragment rxMsg pBuf (pktType = avdtPktTypeEnd)

/-! ### What goes on the wire -/

/-- Continue packets for every piece but the last, and an end packet for the last. -/
def framePieces (contHeader endHeader : UInt8) : List (List UInt8) → List (List UInt8)
  | [] => []
  | [last] => [endHeader :: last]
  | piece :: more => (contHeader :: piece) :: framePieces contHeader endHeader more

/-- The continue and end packets that carry `rest`, the part of a message after
its start packet: `peer_mtu - AVDT_LEN_TYPE_CONT` bytes each, the remainder last. -/
def tailPackets (peerMtu label msg : Nat) (rest : List UInt8) : List (List UInt8) :=
  framePieces (avdtMsgBldHdr label avdtPktTypeCont msg) (avdtMsgBldHdr label avdtPktTypeEnd msg)
    (segments (peerMtu - avdtLenTypeCont) rest)

/-- The packets of a message with signal id `sig` and parameters `params`: one
single packet when it fits the MTU, otherwise a start packet with as many bytes
as fit and the continue and end packets of the rest. -/
def messagePackets (peerMtu label msg sig : Nat) (params : List UInt8) : List (List UInt8) :=
  if params.length + avdtLenTypeSingle ≤ peerMtu then
    [avdtMsgBldHdr label avdtPktTypeSingle msg :: UInt8.ofNat sig :: params]
  else
    (avdtMsgBldHdr label avdtPktTypeStart msg :: UInt8.ofNat (nospOf peerMtu params.length) ::
        UInt8.ofNat sig :: params.take (peerMtu - avdtLenTypeStart)) ::
      tailPackets peerMtu label msg (params.drop (peerMtu - avdtLenTypeStart))

/-- The packets the sender still owes for the message it holds: all of them
before the first pass, the continue and end packets of what is left after. -/
def owed (peerMtu : Nat) : Option (BtHdr UInt8) → List (List UInt8)
  | none => []
  | some currMsg =>
    if currMsg.offset = avdtMsgOffset then
      messagePackets peerMtu (avdtLayerspecLabel currMsg.layerSpecific)
        (avdtLayerspecMsg currMsg.layerSpecific) currMsg.event currMsg.payload
    else
      tailPackets peerMtu (avdtLayerspecLabel currMsg.layerSpecific)
        (avdtLayerspecMsg currMsg.layerSpecific) currMsg.payload

/-- The sizes the sender and the receiver lay packets out with. -/
theorem layout : avdtLenTypeSingle = 2 ∧ avdtLenTypeStart = 3 ∧ avdtLenTypeCont = 1 ∧
    avdtLenTypeEnd = 1 ∧ avdtMsgOffset = 22 ∧ l2capMinOffset = 13 ∧
    avdtCmdBufSize - BtHdr.headerSize = 652 ∧
    PacketFragmenter.btDefaultBufferSize - BtHdr.headerSize = 4104 :=
  ⟨rfl, rfl, rfl, rfl, rfl, rfl, rfl, rfl⟩

/-- A single packet's header: header byte and signal id. -/
@[simp] theorem packetHeader_single (label msg nosp sig : Nat) :
    packetHeader label avdtPktTypeSingle msg nosp sig =
      [avdtMsgBldHdr label avdtPktTypeSingle msg, UInt8.ofNat sig] := rfl

/-- A start packet's header: header byte, packet count and signal id. -/
@[simp] theorem packetHeader_start (label msg nosp sig : Nat) :
    packetHeader label avdtPktTypeStart msg nosp sig =
      [avdtMsgBldHdr label avdtPktTypeStart msg, UInt8.ofNat nosp, UInt8.ofNat sig] := rfl

/-- A continue packet's header: the header byte alone. -/
@[simp] theorem packetHeader_cont (label msg nosp sig : Nat) :
    packetHeader label avdtPktTypeCont msg nosp sig = [avdtMsgBldHdr label avdtPktTypeCont msg] :=
  rfl

/-- An end packet's header: the header byte alone. -/
@[simp] theorem packetHeader_end (label msg nosp sig : Nat) :
    packetHeader label avdtPktTypeEnd msg nosp sig = [avdtMsgBldHdr label avdtPktTypeEnd msg] :=
  rfl

/-- A piece with more after it goes out as a continue packet. -/
theorem framePieces_cons (contHeader endHeader : UInt8) (piece : List UInt8)
    (more : List (List UInt8)) (nonEmpty : more ≠ []) :
    framePieces contHeader endHeader (piece :: more) =
      (contHeader :: piece) :: framePieces contHeader endHeader more := by
  cases more with
  | nil => exact absurd rfl nonEmpty
  | cons next rest => rfl

/-- A received buffer holding the packet `bytes`: its window, inside its cells and
within reach of its 16-bit fields. -/
structure Holds (buffer : BtHdr UInt8) (bytes : List UInt8) : Prop where
  len : buffer.len = bytes.length
  inside : buffer.offset + buffer.len ≤ buffer.data.length
  fits : buffer.offset + buffer.len < 65536
  contents : buffer.payload = bytes

/-- A reassembly in progress for a message whose start packet sat at
`startOffset`: the buffer holds the message so far from the cell after that
offset, header byte first, and `offset` points just past it. -/
structure Assembling (startOffset : Nat) (bytes : List UInt8) (rxMsg : BtHdr UInt8) : Prop where
  size : rxMsg.data.length = PacketFragmenter.btDefaultBufferSize - BtHdr.headerSize
  len : rxMsg.len = bytes.length
  offset : rxMsg.offset = startOffset + 1 + bytes.length
  room : startOffset + 1 + bytes.length ≤ PacketFragmenter.btDefaultBufferSize - BtHdr.headerSize
  contents : window rxMsg.data (startOffset + 1) bytes.length = bytes

/-- A start packet copied into a fresh reassembly buffer, with its header byte
written over the packet count, starts a reassembly of header, signal id and the
bytes the packet carries. -/
theorem startReassembly_assembling (pBuf : BtHdr UInt8) (header count sig : UInt8)
    (chunk : List UInt8) (holds : Holds pBuf (header :: count :: sig :: chunk))
    (room : pBuf.offset + pBuf.len ≤ PacketFragmenter.btDefaultBufferSize - BtHdr.headerSize) :
    ∃ rxMsg, startReassembly pBuf = some rxMsg ∧
      Assembling pBuf.offset (header :: sig :: chunk) rxMsg := by
  obtain ⟨length, inside, fits, contents⟩ := holds
  have sizes := layout
  simp only [List.length_cons] at length
  -- the copy: the received cells up to the packet's end, then fresh cells
  have copied := copy?_eq_some (List.replicate
    (PacketFragmenter.btDefaultBufferSize - BtHdr.headerSize) (0 : UInt8)) 0 pBuf.data 0
    (pBuf.offset + pBuf.len) (by rw [List.length_replicate]; omega) (by omega)
  set received := window pBuf.data 0 (pBuf.offset + pBuf.len) with receivedDef
  set filled := writeAt (List.replicate
    (PacketFragmenter.btDefaultBufferSize - BtHdr.headerSize) (0 : UInt8)) 0 received with filledDef
  have receivedLength : received.length = pBuf.offset + pBuf.len := length_window _ _ _ (by omega)
  have filledLength : filled.length = PacketFragmenter.btDefaultBufferSize - BtHdr.headerSize := by
    rw [filledDef, length_writeAt _ _ _ (by rw [List.length_replicate]; omega), List.length_replicate]
  have packetCopied : window filled pBuf.offset pBuf.len = header :: count :: sig :: chunk := by
    have whole : window filled 0 (pBuf.offset + pBuf.len) = received := by
      rw [← receivedLength, filledDef]
      exact window_writeAt_self _ _ _ (by rw [List.length_replicate]; omega)
    have cut := drop_window filled 0 (pBuf.offset + pBuf.len) pBuf.offset
    rw [whole, receivedDef, drop_window, Nat.zero_add, Nat.add_sub_cancel_left] at cut
    rw [← cut, ← BtHdr.payload, contents]
  have firstCell : filled[pBuf.offset]? = some header := getElem?_of_window _ _ _ _ _ packetCopied
  have stored := store?_eq_some filled (pBuf.offset + 1) [header] (by simp only [List.length_singleton]; omega)
  have offsetStored : u16 ((pBuf.offset : Int) + pBuf.len) = pBuf.offset + pBuf.len := u16_add _ _ fits
  have lenStored : u16 ((pBuf.len : Int) - 1) = pBuf.len - 1 := by
    rw [u16_of_lt _ (by omega) (by omega)]
    omega
  refine ⟨{ pBuf with
              data := writeAt filled (pBuf.offset + 1) [header]
              offset := pBuf.offset + pBuf.len
              len := pBuf.len - 1 }, ?_, ?_⟩
  · rw [startReassembly, offsetStored, lenStored, ← Int.natCast_add, copied]
    simp only [bind, Option.bind, firstCell, stored]
    rfl
  · have sigOn : window filled (pBuf.offset + 1 + 1) (chunk.length + 1) = sig :: chunk := by
      have cut := drop_window filled pBuf.offset pBuf.len 2
      rw [packetCopied] at cut
      rw [show pBuf.offset + 1 + 1 = pBuf.offset + 2 by omega,
        show chunk.length + 1 = pBuf.len - 2 by omega, ← cut]
      rfl
    have headerOn := window_writeAt_prefix filled (pBuf.offset + 1) [header] (chunk.length + 1)
      (by simp only [List.length_singleton]; omega)
    rw [List.length_singleton, sigOn] at headerOn
    refine ⟨?_, ?_, ?_, ?_, ?_⟩
    · show (writeAt filled (pBuf.offset + 1) [header]).length = _
      rw [length_writeAt _ _ _ (by simp only [List.length_singleton]; omega), filledLength]
    · show pBuf.len - 1 = _
      simp only [List.length_cons]
      omega
    · show pBuf.offset + pBuf.len = _
      simp only [List.length_cons]
      omega
    · simp only [List.length_cons]
      omega
    · show window (writeAt filled (pBuf.offset + 1) [header]) (pBuf.offset + 1)
        (header :: sig :: chunk).length = _
      rw [List.length_cons, List.length_cons, Nat.add_comm (chunk.length + 1)]
      exact headerOn

/-- A single packet is handed up as it is, and any reassembly is dropped. -/
theorem avdtMsgAsmbl_single (pRxMsg : Option (BtHdr UInt8)) (pBuf : BtHdr UInt8) (header : UInt8)
    (rest : List UInt8) (holds : Holds pBuf (header :: rest))
    (kind : avdtMsgPrsPktType header = avdtPktTypeSingle) (long : avdtLenTypeSingle ≤ pBuf.len) :
    avdtMsgAsmbl pRxMsg pBuf = .ok (none, [pBuf]) := by
  have firstCell := getElem?_of_window _ _ _ _ _ holds.contents
  have sizes := layout
  rw [avdtMsgAsmbl, if_neg (by omega)]
  simp only [firstCell, kind]
  rw [if_neg (show ¬ pBuf.len < avdtMsgPktTypeLen.getD avdtPktTypeSingle 0 by
    change ¬ pBuf.len < avdtLenTypeSingle; omega), if_pos trivial]
  rfl

/-- A start packet starts a reassembly, whatever was in progress. -/
theorem avdtMsgAsmbl_start (pRxMsg : Option (BtHdr UInt8)) (pBuf : BtHdr UInt8)
    (header count sig : UInt8) (chunk : List UInt8)
    (holds : Holds pBuf (header :: count :: sig :: chunk))
    (kind : avdtMsgPrsPktType header = avdtPktTypeStart)
    (room : pBuf.offset + pBuf.len ≤ PacketFragmenter.btDefaultBufferSize - BtHdr.headerSize) :
    ∃ rxMsg, avdtMsgAsmbl pRxMsg pBuf = .ok (some rxMsg, []) ∧
      Assembling pBuf.offset (header :: sig :: chunk) rxMsg := by
  obtain ⟨rxMsg, started, assembling⟩ :=
    startReassembly_assembling pBuf header count sig chunk holds room
  have firstCell := getElem?_of_window _ _ _ _ _ holds.contents
  have length := holds.len
  have sizes := layout
  simp only [List.length_cons] at length
  refine ⟨rxMsg, ?_, assembling⟩
  rw [avdtMsgAsmbl, if_neg (by omega)]
  simp only [firstCell, kind]
  rw [if_neg (show ¬ pBuf.len < avdtMsgPktTypeLen.getD avdtPktTypeStart 0 by
      change ¬ pBuf.len < avdtLenTypeStart; omega),
    if_neg (by decide), if_pos trivial, started]
  rfl

/-- A continue or end packet that fits the reassembly buffer is appended right
after the message so far; an end packet hands the message up from its header. -/
theorem appendFragment_eq (rxMsg pBuf : BtHdr UInt8) (isEnd : Bool) (startOffset : Nat)
    (bytes piece : List UInt8) (header : UInt8) (assembling : Assembling startOffset bytes rxMsg)
    (holds : Holds pBuf (header :: piece))
    (room : startOffset + 1 + bytes.length + piece.length ≤
      PacketFragmenter.btDefaultBufferSize - BtHdr.headerSize) :
    appendFragment rxMsg pBuf isEnd =
      if isEnd then
        .ok (none, [{ rxMsg with
                      data := writeAt rxMsg.data rxMsg.offset piece
                      offset := startOffset + 1
                      len := bytes.length + piece.length }])
      else
        .ok (some { rxMsg with
                    data := writeAt rxMsg.data rxMsg.offset piece
                    offset := rxMsg.offset + piece.length
                    len := bytes.length + piece.length }, []) := by
  obtain ⟨size, len, offset, _, _⟩ := assembling
  obtain ⟨length, inside, fits, contents⟩ := holds
  have sizes := layout
  simp only [List.length_cons] at length
  have offsetStored : u16 ((pBuf.offset : Int) + avdtLenTypeCont) = pBuf.offset + avdtLenTypeCont :=
    u16_add _ _ (by omega)
  have lenStored : u16 ((pBuf.len : Int) - avdtLenTypeCont) = piece.length := by
    rw [u16_sub _ _ (by omega) (by omega)]
    omega
  have pieceRead : window pBuf.data (pBuf.offset + avdtLenTypeCont) piece.length = piece := by
    have cut := drop_window pBuf.data pBuf.offset pBuf.len avdtLenTypeCont
    rw [← BtHdr.payload, contents, show pBuf.len - avdtLenTypeCont = piece.length by omega] at cut
    rw [← cut, show avdtLenTypeCont = 1 from rfl, List.drop_one, List.tail_cons]
  have copied := copy?_eq_some rxMsg.data rxMsg.offset pBuf.data (pBuf.offset + avdtLenTypeCont)
    piece.length (by omega) (by omega)
  rw [pieceRead] at copied
  have backStored : u16 ((rxMsg.offset : Int) - rxMsg.len) = startOffset + 1 := by
    rw [u16_sub _ _ (by omega) (by omega)]
    omega
  have grownStored : u16 ((rxMsg.len : Int) + piece.length) = bytes.length + piece.length := by
    rw [u16_add _ _ (by omega), len]
  have movedStored : u16 ((rxMsg.offset : Int) + piece.length) = rxMsg.offset + piece.length :=
    u16_add _ _ (by omega)
  rw [appendFragment]
  simp only [offsetStored, lenStored]
  rw [if_neg (by omega), copied]
  simp only [backStored, grownStored, movedStored]
  rfl

/-- A continue packet that fits extends the reassembly by the bytes it carries. -/
theorem avdtMsgAsmbl_cont (rxMsg pBuf : BtHdr UInt8) (startOffset : Nat) (bytes piece : List UInt8)
    (header : UInt8) (assembling : Assembling startOffset bytes rxMsg)
    (holds : Holds pBuf (header :: piece)) (kind : avdtMsgPrsPktType header = avdtPktTypeCont)
    (room : startOffset + 1 + bytes.length + piece.length ≤
      PacketFragmenter.btDefaultBufferSize - BtHdr.headerSize) :
    ∃ next, avdtMsgAsmbl (some rxMsg) pBuf = .ok (some next, []) ∧
      Assembling startOffset (bytes ++ piece) next := by
  have firstCell := getElem?_of_window _ _ _ _ _ holds.contents
  have length := holds.len
  have sizes := layout
  obtain ⟨size, len, offset, _, contents⟩ := assembling
  simp only [List.length_cons] at length
  refine ⟨{ rxMsg with
            data := writeAt rxMsg.data rxMsg.offset piece
            offset := rxMsg.offset + piece.length
            len := bytes.length + piece.length }, ?_, ?_⟩
  · rw [avdtMsgAsmbl, if_neg (by omega)]
    simp only [firstCell, kind]
    rw [if_neg (show ¬ pBuf.len < avdtMsgPktTypeLen.getD avdtPktTypeCont 0 by
        change ¬ pBuf.len < avdtLenTypeCont; omega),
      if_neg (by decide), if_neg (by decide),
      appendFragment_eq rxMsg pBuf _ startOffset bytes piece header
        ⟨size, len, offset, by omega, contents⟩ holds room]
    rfl
  · have appended := window_writeAt_append rxMsg.data (startOffset + 1) bytes.length piece
      (by omega)
    rw [contents, ← offset] at appended
    refine ⟨?_, ?_, ?_, ?_, ?_⟩
    · show (writeAt rxMsg.data rxMsg.offset piece).length = _
      rw [length_writeAt _ _ _ (by omega), size]
    · show bytes.length + piece.length = _
      rw [List.length_append]
    · show rxMsg.offset + piece.length = _
      rw [List.length_append]
      omega
    · rw [List.length_append]
      omega
    · rw [List.length_append]
      exact appended

/-- An end packet that fits completes the reassembly: the message so far with
the bytes it carries, read from the header byte on. -/
theorem avdtMsgAsmbl_end (rxMsg pBuf : BtHdr UInt8) (startOffset : Nat) (bytes piece : List UInt8)
    (header : UInt8) (assembling : Assembling startOffset bytes rxMsg)
    (holds : Holds pBuf (header :: piece)) (kind : avdtMsgPrsPktType header = avdtPktTypeEnd)
    (room : startOffset + 1 + bytes.length + piece.length ≤
      PacketFragmenter.btDefaultBufferSize - BtHdr.headerSize) :
    ∃ assembled, avdtMsgAsmbl (some rxMsg) pBuf = .ok (none, [assembled]) ∧
      assembled.payload = bytes ++ piece ∧
      assembled.offset + assembled.len ≤ assembled.data.length := by
  have firstCell := getElem?_of_window _ _ _ _ _ holds.contents
  have length := holds.len
  have sizes := layout
  obtain ⟨size, len, offset, _, contents⟩ := assembling
  simp only [List.length_cons] at length
  have appended := window_writeAt_append rxMsg.data (startOffset + 1) bytes.length piece
    (by omega)
  rw [contents, ← offset] at appended
  refine ⟨{ rxMsg with
            data := writeAt rxMsg.data rxMsg.offset piece
            offset := startOffset + 1
            len := bytes.length + piece.length }, ?_, appended, ?_⟩
  · rw [avdtMsgAsmbl, if_neg (by omega)]
    simp only [firstCell, kind]
    rw [if_neg (show ¬ pBuf.len < avdtMsgPktTypeLen.getD avdtPktTypeEnd 0 by
        change ¬ pBuf.len < avdtLenTypeEnd; omega),
      if_neg (by decide), if_neg (by decide),
      appendFragment_eq rxMsg pBuf _ startOffset bytes piece header
        ⟨size, len, offset, by omega, contents⟩ holds room]
    rfl
  · show startOffset + 1 + (bytes.length + piece.length) ≤
      (writeAt rxMsg.data rxMsg.offset piece).length
    rw [length_writeAt _ _ _ (by omega)]
    omega


/-- A packet shorter than the header of its type is dropped and the reassembly
in progress kept. -/
theorem avdtMsgAsmbl_short (pRxMsg : Option (BtHdr UInt8)) (pBuf : BtHdr UInt8) (header : UInt8)
    (rest : List UInt8) (holds : Holds pBuf (header :: rest))
    (short : pBuf.len < avdtMsgPktTypeLen.getD (avdtMsgPrsPktType header) 0) :
    avdtMsgAsmbl pRxMsg pBuf = .ok (pRxMsg, []) := by
  have firstCell := getElem?_of_window _ _ _ _ _ holds.contents
  have length := holds.len
  simp only [List.length_cons] at length
  rw [avdtMsgAsmbl, if_neg (by omega)]
  simp only [firstCell]
  rw [if_pos short]
  rfl

/-- A continue or end packet with no reassembly in progress is dropped. -/
theorem avdtMsgAsmbl_orphan (pBuf : BtHdr UInt8) (header : UInt8) (rest : List UInt8)
    (holds : Holds pBuf (header :: rest))
    (kind : avdtMsgPrsPktType header = avdtPktTypeCont ∨ avdtMsgPrsPktType header = avdtPktTypeEnd)
    (long : avdtLenTypeCont ≤ pBuf.len) :
    avdtMsgAsmbl none pBuf = .ok (none, []) := by
  have firstCell := getElem?_of_window _ _ _ _ _ holds.contents
  have sizes := layout
  rw [avdtMsgAsmbl, if_neg (by omega)]
  simp only [firstCell]
  rcases kind with kind | kind
  · rw [kind, if_neg (show ¬ pBuf.len < avdtMsgPktTypeLen.getD avdtPktTypeCont 0 by
      change ¬ pBuf.len < avdtLenTypeCont; omega), if_neg (by decide), if_neg (by decide)]
    rfl
  · rw [kind, if_neg (show ¬ pBuf.len < avdtMsgPktTypeLen.getD avdtPktTypeEnd 0 by
      change ¬ pBuf.len < avdtLenTypeEnd; omega), if_neg (by decide), if_neg (by decide)]
    rfl

/-- A continue or end packet that does not fit the reassembly buffer drops the
reassembly with it. -/
theorem avdtMsgAsmbl_tooBig (rxMsg pBuf : BtHdr UInt8) (startOffset : Nat) (bytes piece : List UInt8)
    (header : UInt8) (assembling : Assembling startOffset bytes rxMsg)
    (holds : Holds pBuf (header :: piece))
    (kind : avdtMsgPrsPktType header = avdtPktTypeCont ∨ avdtMsgPrsPktType header = avdtPktTypeEnd)
    (tooBig : PacketFragmenter.btDefaultBufferSize - BtHdr.headerSize <
      startOffset + 1 + bytes.length + piece.length) :
    avdtMsgAsmbl (some rxMsg) pBuf = .ok (none, []) := by
  have firstCell := getElem?_of_window _ _ _ _ _ holds.contents
  obtain ⟨length, inside, fits, contents⟩ := holds
  have sizes := layout
  simp only [List.length_cons] at length
  have lenStored : u16 ((pBuf.len : Int) - avdtLenTypeCont) = piece.length := by
    rw [u16_sub _ _ (by omega) (by omega)]
    omega
  have dropped : appendFragment rxMsg pBuf (avdtMsgPrsPktType header = avdtPktTypeEnd) =
      .ok (none, []) := by
    rw [appendFragment]
    simp only [lenStored]
    rw [if_pos (by rw [assembling.offset]; omega)]
    rfl
  rw [avdtMsgAsmbl, if_neg (by omega)]
  simp only [firstCell]
  rcases kind with kind | kind
  · rw [kind, if_neg (show ¬ pBuf.len < avdtMsgPktTypeLen.getD avdtPktTypeCont 0 by
      change ¬ pBuf.len < avdtLenTypeCont; omega), if_neg (by decide), if_neg (by decide)]
    rw [kind] at dropped
    exact dropped
  · rw [kind, if_neg (show ¬ pBuf.len < avdtMsgPktTypeLen.getD avdtPktTypeEnd 0 by
      change ¬ pBuf.len < avdtLenTypeEnd; omega), if_neg (by decide), if_neg (by decide)]
    rw [kind] at dropped
    exact dropped

/-- Every piece becomes one packet. -/
theorem length_framePieces (contHeader endHeader : UInt8) (pieces : List (List UInt8)) :
    (framePieces contHeader endHeader pieces).length = pieces.length := by
  induction pieces with
  | nil => rfl
  | cons piece more ih =>
    cases more with
    | nil => rfl
    | cons next rest =>
      rw [framePieces_cons _ _ _ _ (List.cons_ne_nil _ _), List.length_cons, ih]
      rfl

/-- A message too long for one packet goes out as a start packet and one
continue or end packet for every `peer_mtu - 1` bytes, or part of them, left
after the start packet's `peer_mtu - 3`. -/
theorem length_messagePackets (peerMtu label msg sig : Nat) (params : List UInt8)
    (mtuAtLeast : 4 ≤ peerMtu) (tooLong : peerMtu < params.length + avdtLenTypeSingle) :
    (messagePackets peerMtu label msg sig params).length =
      1 + (params.length + avdtLenTypeStart - peerMtu + (peerMtu - 1) - 1) / (peerMtu - 1) := by
  have sizes := layout
  have positive : 0 < peerMtu - avdtLenTypeCont := by omega
  have rest : (params.drop (peerMtu - avdtLenTypeStart)).length =
      params.length + avdtLenTypeStart - peerMtu := by
    rw [List.length_drop]
    omega
  have atLeastOne : 1 ≤ (params.length + avdtLenTypeStart - peerMtu + (peerMtu - 1) - 1) /
      (peerMtu - 1) := (Nat.le_div_iff_mul_le (by omega)).mpr (by omega)
  rw [messagePackets, if_neg (by omega), List.length_cons, tailPackets, length_framePieces,
    Segments.length_segments _ _ positive, rest, sizes.2.2.1]
  omega

/-- The `nosp` byte of a start packet counts the packets of its message exactly
when the bytes after the start packet are not a multiple of `peer_mtu - 1` and
the count fits its byte. -/
theorem nospOf_eq_length_iff (peerMtu label msg sig : Nat) (params : List UInt8)
    (mtuAtLeast : 4 ≤ peerMtu) (tooLong : peerMtu < params.length + avdtLenTypeSingle) :
    nospOf peerMtu params.length = (messagePackets peerMtu label msg sig params).length ↔
      (params.length + avdtLenTypeStart - peerMtu) % (peerMtu - 1) ≠ 0 ∧
        (params.length + avdtLenTypeStart - peerMtu) / (peerMtu - 1) + 2 < 256 := by
  have sizes := layout
  rw [length_messagePackets peerMtu label msg sig params mtuAtLeast tooLong]
  obtain ⟨left, leftEq⟩ : ∃ left, left = params.length + avdtLenTypeStart - peerMtu := ⟨_, rfl⟩
  have nosp : nospOf peerMtu params.length = (left / (peerMtu - 1) + 2) % 256 := by
    have numerator : (params.length : Int) + avdtLenTypeStart - peerMtu = (left : Int) := by omega
    have denominator : (peerMtu : Int) - 1 = ((peerMtu - 1 : Nat) : Int) := by omega
    rw [nospOf, numerator, denominator, ← Int.ofNat_tdiv]
    omega
  rw [nosp, ← leftEq]
  have positive : 0 < peerMtu - 1 := by omega
  have remainder := Nat.mod_lt left positive
  have split := Nat.div_add_mod left (peerMtu - 1)
  rw [Nat.mul_comm] at split
  by_cases multiple : left % (peerMtu - 1) = 0
  · have ceiling : (left + (peerMtu - 1) - 1) / (peerMtu - 1) = left / (peerMtu - 1) := by
      apply Nat.div_eq_of_lt_le
      · omega
      · rw [Nat.succ_mul]
        omega
    rw [ceiling]
    omega
  · have ceiling : (left + (peerMtu - 1) - 1) / (peerMtu - 1) = left / (peerMtu - 1) + 1 := by
      apply Nat.div_eq_of_lt_le
      · rw [Nat.add_one_mul]
        omega
      · rw [Nat.succ_mul, Nat.add_one_mul]
        omega
    rw [ceiling]
    generalize left / (peerMtu - 1) = whole
    omega

/-- A message of 92 bytes at an MTU of 48: the 47 bytes after the start
packet's 45 fill exactly one end packet, so two packets go out, and the start
packet announces three. -/
theorem avdtMsgSend_nospOverCounts :
    (avdtMsgSend 48 ⟨false, none⟩ (some ⟨1, 92, avdtMsgOffset, 0, List.replicate 114 0⟩) []).map
        (fun sent => sent.2.map BtHdr.payload) =
      .ok [avdtMsgBldHdr 0 avdtPktTypeStart 0 :: 3 :: 1 :: List.replicate 45 0,
        avdtMsgBldHdr 0 avdtPktTypeEnd 0 :: List.replicate 47 0] := by
  decide +kernel

end Fluoride.AvdtpMsg
