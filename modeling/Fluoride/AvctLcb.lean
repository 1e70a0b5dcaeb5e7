import Fluoride.PacketFragmenter
import Fluoride.Octets
import Fluoride.Segments
import Fluoride.Runs

/-!
# AVCTP messages on the L2CAP channel

`stack/avct/avct_lcb_act.cc` sends an AVCTP message in one packet when it fits
the peer's MTU and cuts it otherwise (`avct_lcb_send_msg`): a start packet with
a four-octet header (packet header, number of packets, PID), continue packets
and an end packet with a one-octet header. The receiver (`avct_lcb_msg_ind`)
glues the packets back in `avct_lcb_msg_asmbl`, in a `BT_DEFAULT_BUFFER_SIZE`
buffer, writing the start packet's header octet over the packet count, and
hands the message to the callback of its PID.

The sender puts on the wire a single packet, or a start packet with the first
`peer_mtu - 4` octets and then the `segments` of the rest, `peer_mtu - 1`
octets a packet (`avctLcbSendMsg_fragmented`); each packet fits the MTU. The
receiver delivers the message with the sender's label and C/R bit exactly when
the start packet's offset, the four octets of its header and the message fit
the reassembly buffer (`avct_roundTrip`). The packet count is kept in a
`uint8_t`, so a message of 256 packets announces none
(`sendMsg_nospWraps`).

A packet is its offset in its buffer and its `len` octets; the copy of a start
packet past the reassembly buffer is a failure of the step. A message length is
a `uint16_t`.
-/

namespace Fluoride.AvctLcb

open Octets Segments

/-- `AVCT_PKT_TYPE_SINGLE`. -/
def avctPktTypeSingle : Nat := 0

/-- `AVCT_PKT_TYPE_START`. -/
def avctPktTypeStart : Nat := 1

/-- `AVCT_PKT_TYPE_CONT`. -/
def avctPktTypeCont : Nat := 2

/-- `AVCT_PKT_TYPE_END`. -/
def avctPktTypeEnd : Nat := 3

/-- `AVCT_HDR_LEN_SINGLE`: header octet and PID. -/
def avctHdrLenSingle : Nat := 3

/-- `AVCT_HDR_LEN_START`: header octet, number of packets and PID. -/
def avctHdrLenStart : Nat := 4

/-- `AVCT_HDR_LEN_CONT`. -/
def avctHdrLenCont : Nat := 1

/-- `AVCT_HDR_LEN_END`. -/
def avctHdrLenEnd : Nat := 1

/-- `avct_lcb_pkt_type_len`, the header length of each packet type. -/
def avctLcbPktTypeLen : List Nat :=
  [avctHdrLenSingle, avctHdrLenStart, avctHdrLenCont, avctHdrLenEnd]

/-- `AVCT_CR_IPID_INVALID`. -/
def avctCrIpidInvalid : Nat := 1

/-- `AVCT_CMD`. -/
def avctCmd : Nat := 0

/-- `AVCT_RSP`. -/
def avctRsp : Nat := 2

/-- `AVCT_REJ`. -/
def avctRej : Nat := 3

/-- `AVCT_BUILD_HDR`, stored in an octet. -/
def avctBuildHdr (label pktType crIpid : Nat) : UInt8 :=
  UInt8.ofNat (label <<< 4 ||| pktType <<< 2 ||| crIpid)

/-- `AVCT_PARSE_HDR`: label, packet type and C/R with IPID. -/
def avctParseHdr (header : UInt8) : Nat × Nat × Nat :=
  (header.toNat >>> 4, (header.toNat >>> 2) &&& 3, header.toNat &&& 3)

/-- `AVCT_PKT_TYPE`. -/
def avctPktType (header : UInt8) : Nat :=
  (header.toNat >>> 2) &&& 3

/-! ## The sender -/

/-- The header of a packet: the header octet, the number of packets of a start
packet, and the PID, most significant octet first, of a start or single
packet. -/
def packetHeader (label cr : Nat) (pid : UInt16) (nosp : UInt8) (pktType : Nat) : List UInt8 :=
  avctBuildHdr label pktType cr ::
    ((if pktType = avctPktTypeStart then [nosp] else []) ++
      if pktType = avctPktTypeStart ∨ pktType = avctPktTypeSingle then beOctets 2 pid.toNat
      else [])

/-- `nosp` of a message that does not fit one packet: computed in `uint16_t`
and kept in a `uint8_t`. -/
def avctNosp (peerMtu msgLen : Nat) : UInt8 :=
  let temp := msgLen + avctHdrLenStart - peerMtu
  let nosp := UInt8.ofNat (temp / (peerMtu - 1) + 1)
  if temp % (peerMtu - 1) ≠ 0 then nosp + 1 else nosp

/-- The loop of `avct_lcb_send_msg` over the `remaining` octets of the message,
from packet type `pktType`: a fragment of `peer_mtu - hdr_len` octets, or the
rest of the message. Every turn sends an octet once the MTU exceeds the start
header, so one turn an octet and one more are enough. -/
def sendLoop (peerMtu label cr : Nat) (pid : UInt16) (nosp : UInt8) :
    Nat → Nat → List UInt8 → List (List UInt8)
  | 0, _, _ => []
  | fuel + 1, pktType, remaining =>
    if remaining = [] then []
    else
      let hdrLen := avctLcbPktTypeLen.getD pktType 0
      let sent := if remaining.length > peerMtu - hdrLen then peerMtu - hdrLen else remaining.length
      let rest := remaining.drop sent
      let next := if rest.length > peerMtu - avctHdrLenEnd then avctPktTypeCont else avctPktTypeEnd
      (packetHeader label cr pid nosp pktType ++ remaining.take sent) ::
        sendLoop peerMtu label cr pid nosp fuel next rest

/-- `avct_lcb_send_msg`: the packets written to L2CAP, or queued while the
channel is congested, in order. None for an MTU below the start header, where
`peer_mtu - hdr_len` is negative. -/
def avctLcbSendMsg (peerMtu label cr : Nat) (pid : UInt16) (msg : List UInt8) :
    Option (List (List UInt8)) :=
  if peerMtu < avctHdrLenStart then none
  else if msg.length ≤ peerMtu - avctHdrLenSingle then
    some (sendLoop peerMtu label cr pid 0 (msg.length + 1) avctPktTypeSingle msg)
  else
    some (sendLoop peerMtu label cr pid (avctNosp peerMtu msg.length) (msg.length + 1)
      avctPktTypeStart msg)

/-! ## The receiver -/

/-- A packet: its offset in its buffer and its `len` octets. -/
structure Packet where
  offset : Nat
  bytes : List UInt8
  deriving DecidableEq, Repr

/-- The message being reassembled in `p_rx_msg`: its octets so far, which end
at `offset`, where the next fragment goes. -/
structure RxMsg where
  offset : Nat
  data : List UInt8
  deriving DecidableEq, Repr

/-- `BT_DEFAULT_BUFFER_SIZE - sizeof(BT_HDR)`: the room of the reassembly buffer. -/
def rxBufLen : Nat := PacketFragmenter.btDefaultBufferSize - BtHdr.headerSize

/-- `avct_lcb_msg_asmbl`: the message in reassembly after the packet, and the
message to handle, if any. -/
def avctLcbMsgAsmbl (rxMsg : Option RxMsg) (pBuf : Packet) :
    Except Unit (Option RxMsg × Option Packet) :=
  match pBuf.bytes with
  | [] => .ok (rxMsg, none)
  | header :: _ =>
    let pktType := avctPktType header
    if pBuf.bytes.length < avctLcbPktTypeLen.getD pktType 0 then .ok (rxMsg, none)
    else if pktType = avctPktTypeSingle then .ok (none, some pBuf)
    else if pktType = avctPktTypeStart then
      -- the `memcpy` of the header, the offset and the packet into the new buffer
      if rxBufLen < pBuf.offset + pBuf.bytes.length then .error ()
      -- the header octet is copied over the number of packets
      else .ok (some ⟨pBuf.offset + pBuf.bytes.length, header :: pBuf.bytes.drop 2⟩, none)
    else
      match rxMsg with
      | none => .ok (none, none)
      | some rx =>
        let fragment := pBuf.bytes.drop avctHdrLenCont
        if rx.offset + fragment.length > rxBufLen then .ok (none, none)
        else if pktType = avctPktTypeEnd then
          .ok (none, some ⟨rx.offset - rx.data.length, rx.data ++ fragment⟩)
        else .ok (some ⟨rx.offset + fragment.length, rx.data ++ fragment⟩, none)

/-- What the receiver does for a whole message. -/
inductive AvctEvent
  /-- `p_msg_cback` of the connection of the PID, with the label, the C/R bit
  and the message after its header. -/
  | msgCback (pid : UInt16) (label crIpid : Nat) (payload : List UInt8)
  /-- The reject of a command for an unknown PID, written to L2CAP. -/
  | dataWrite (packet : List UInt8)
  deriving DecidableEq, Repr

/-- The rest of `avct_lcb_msg_ind` for a whole message: its header, its PID and
the callback of the connection with that PID, among `registered`. -/
def avctLcbMsgDeliver (registered : List UInt16) (msg : Packet) : Except Unit (List AvctEvent) :=
  match msg.bytes with
  | [] => .error ()
  | header :: rest =>
    let (label, _, crIpid) := avctParseHdr header
    if crIpid = avctCrIpidInvalid then .ok []
    else
      match rest with
      | pidHigh :: pidLow :: payload =>
        let pid := UInt16.ofNat (beValue [pidHigh, pidLow])
        if pid ∈ registered then .ok [.msgCback pid label crIpid payload]
        else if crIpid = avctCmd then
          .ok [.dataWrite (avctBuildHdr label avctPktTypeSingle avctRej :: beOctets 2 pid.toNat)]
        else .ok []
      -- the PID read runs past the message
      | _ => .error ()

/-- `avct_lcb_msg_ind`: one packet from L2CAP. -/
def avctLcbMsgInd (registered : List UInt16) (rxMsg : Option RxMsg) (pBuf : Packet) :
    Except Unit (Option RxMsg × List AvctEvent) := do
  let (rxMsg, msg) ← avctLcbMsgAsmbl rxMsg pBuf
  match msg with
  | none => pure (rxMsg, [])
  | some msg =>
    let events ← avctLcbMsgDeliver registered msg
    pure (rxMsg, events)

/-! ## Header octets -/

/-- Only the low four bits of the label reach the header octet. -/
theorem avctBuildHdr_label_mod (label pktType crIpid : Nat) (pktTypeBound : pktType < 4)
    (crIpidBound : crIpid < 4) :
    avctBuildHdr label pktType crIpid = avctBuildHdr (label % 16) pktType crIpid := by
  have lowFits : pktType <<< 2 ||| crIpid < 2 ^ 4 := by
    have fields : ∀ middle low : Fin 4, middle.val <<< 2 ||| low.val < 2 ^ 4 := by decide
    exact fields ⟨pktType, pktTypeBound⟩ ⟨crIpid, crIpidBound⟩
  have asSum : ∀ high, high <<< 4 ||| pktType <<< 2 ||| crIpid =
      high * 16 + (pktType <<< 2 ||| crIpid) := by
    intro high
    rw [Nat.or_assoc, ← Nat.shiftLeft_add_eq_or_of_lt lowFits, Nat.shiftLeft_eq]
  apply UInt8.toNat_inj.mp
  rw [avctBuildHdr, avctBuildHdr, toNat_ofNat_octet, toNat_ofNat_octet, asSum, asSum]
  omega

/-- Reading back a header octet gives the label's low four bits, the packet
type and the C/R bits. -/
theorem avctParseHdr_avctBuildHdr (label pktType crIpid : Nat) (pktTypeBound : pktType < 4)
    (crIpidBound : crIpid < 4) :
    avctParseHdr (avctBuildHdr label pktType crIpid) = (label % 16, pktType, crIpid) := by
  have byField : ∀ high : Fin 16, ∀ middle low : Fin 4,
      avctParseHdr (avctBuildHdr high.val middle.val low.val) = (high.val, middle.val, low.val) := by
    decide
  rw [avctBuildHdr_label_mod label pktType crIpid pktTypeBound crIpidBound]
  exact byField ⟨label % 16, Nat.mod_lt _ (by decide)⟩ ⟨pktType, pktTypeBound⟩ ⟨crIpid, crIpidBound⟩

/-- The packet type of a header octet is the one it was built with. -/
theorem avctPktType_avctBuildHdr (label pktType crIpid : Nat) (pktTypeBound : pktType < 4)
    (crIpidBound : crIpid < 4) : avctPktType (avctBuildHdr label pktType crIpid) = pktType :=
  congrArg (fun fields => fields.2.1)
    (avctParseHdr_avctBuildHdr label pktType crIpid pktTypeBound crIpidBound)

/-! ## What the sender puts on the wire -/

/-- The continue packets and the end packet that carry `pieces`, in order. -/
def contEndPackets (label cr : Nat) : List (List UInt8) → List (List UInt8)
  | [] => []
  | piece :: rest =>
    (avctBuildHdr label (if rest = [] then avctPktTypeEnd else avctPktTypeCont) cr :: piece) ::
      contEndPackets label cr rest

/-- The packets of a message, stated over the parameters: nothing for an empty
message, one single packet for a message that fits, and otherwise a start
packet with the first `peer_mtu - 4` octets followed by the rest in pieces of
`peer_mtu - 1` octets. -/
def messagePackets (peerMtu label cr : Nat) (pid : UInt16) (msg : List UInt8) : List (List UInt8) :=
  if msg = [] then []
  else if msg.length ≤ peerMtu - avctHdrLenSingle then
    [packetHeader label cr pid 0 avctPktTypeSingle ++ msg]
  else
    (packetHeader label cr pid (avctNosp peerMtu msg.length) avctPktTypeStart ++
        msg.take (peerMtu - avctHdrLenStart)) ::
      contEndPackets label cr (segments (peerMtu - 1) (msg.drop (peerMtu - avctHdrLenStart)))

@[simp] theorem sendLoop_nil (peerMtu label cr : Nat) (pid : UInt16) (nosp : UInt8)
    (fuel pktType : Nat) : sendLoop peerMtu label cr pid nosp fuel pktType [] = [] := by
  cases fuel <;> simp [sendLoop]

/-- From its first continue or end packet, the loop sends the pieces of the
rest, `peer_mtu - 1` octets a packet. The induction is on the fuel, which the
pieces use up one octet at a time. -/
theorem sendLoop_contEnd (peerMtu label cr : Nat) (pid : UInt16) (nosp : UInt8)
    (mtuAtLeast : 2 ≤ peerMtu) (fuel : Nat) (remaining : List UInt8) (nonEmpty : remaining ≠ [])
    (enough : remaining.length ≤ fuel) :
    sendLoop peerMtu label cr pid nosp fuel
        (if remaining.length > peerMtu - avctHdrLenEnd then avctPktTypeCont else avctPktTypeEnd)
        remaining =
      contEndPackets label cr (segments (peerMtu - 1) remaining) := by
  induction fuel generalizing remaining with
  | zero =>
    have empty : remaining = [] := List.eq_nil_of_length_eq_zero (by omega)
    exact absurd empty nonEmpty
  | succ fuel inductionHypothesis =>
    by_cases longer : remaining.length > peerMtu - 1
    · -- a continue packet of `peer_mtu - 1` octets, and more to come
      have restNonEmpty : remaining.drop (peerMtu - 1) ≠ [] := by
        intro empty
        have emptyLength := congrArg List.length empty
        simp only [List.length_drop, List.length_nil] at emptyLength
        omega
      rw [segments_of_lt _ _ (by omega) longer, contEndPackets,
        if_neg (segments_ne_nil _ _), ← inductionHypothesis _ restNonEmpty (by simp; omega)]
      simp [sendLoop, nonEmpty, avctHdrLenEnd, longer, avctLcbPktTypeLen, packetHeader,
        avctPktTypeCont, avctPktTypeStart, avctPktTypeSingle, avctHdrLenCont]
    · -- the end packet with the rest of the message
      have fits : remaining.length ≤ peerMtu - 1 := by omega
      rw [segments_of_le _ _ fits, contEndPackets, if_pos rfl, contEndPackets]
      simp [sendLoop, nonEmpty, avctHdrLenEnd, longer, avctLcbPktTypeLen, packetHeader,
        avctPktTypeEnd, avctPktTypeStart, avctPktTypeSingle]

/-- **The sender sends `messagePackets`.** With an MTU of at least the start
header, `avct_lcb_send_msg` sends exactly the packets of `messagePackets`. -/
theorem avctLcbSendMsg_eq (peerMtu label cr : Nat) (pid : UInt16) (msg : List UInt8)
    (mtuAtLeast : avctHdrLenStart ≤ peerMtu) :
    avctLcbSendMsg peerMtu label cr pid msg = some (messagePackets peerMtu label cr pid msg) := by
  have inRange : ¬peerMtu < avctHdrLenStart := by omega
  by_cases empty : msg = []
  · subst empty
    simp [avctLcbSendMsg, messagePackets, mtuAtLeast]
  by_cases fits : msg.length ≤ peerMtu - avctHdrLenSingle
  · -- one single packet with the whole message
    have notLonger : ¬msg.length > peerMtu - avctHdrLenSingle := by omega
    rw [avctLcbSendMsg, if_neg inRange, if_pos fits, messagePackets, if_neg empty, if_pos fits]
    simp [sendLoop, empty, avctLcbPktTypeLen, avctPktTypeSingle, notLonger]
  · -- a start packet, then the continue and end packets of the rest
    have longer : msg.length > peerMtu - avctHdrLenStart := by
      unfold avctHdrLenStart avctHdrLenSingle at *
      omega
    have restNonEmpty : msg.drop (peerMtu - avctHdrLenStart) ≠ [] := by
      intro restEmpty
      have restLength := congrArg List.length restEmpty
      simp only [List.length_drop, List.length_nil] at restLength
      omega
    rw [avctLcbSendMsg, if_neg inRange, if_neg fits, messagePackets, if_neg empty, if_neg fits,
      sendLoop]
    simp only [empty, if_false, avctLcbPktTypeLen, avctPktTypeStart, List.getD_cons_succ,
      List.getD_cons_zero, longer, if_true, Option.some.injEq, List.cons.injEq, true_and]
    exact sendLoop_contEnd peerMtu label cr pid _ (by unfold avctHdrLenStart at mtuAtLeast; omega)
      msg.length _ restNonEmpty (by simp)

@[simp] theorem packetHeader_single (label cr : Nat) (pid : UInt16) (nosp : UInt8) :
    packetHeader label cr pid nosp avctPktTypeSingle =
      avctBuildHdr label avctPktTypeSingle cr :: beOctets 2 pid.toNat := by
  simp [packetHeader, avctPktTypeSingle, avctPktTypeStart]

@[simp] theorem packetHeader_start (label cr : Nat) (pid : UInt16) (nosp : UInt8) :
    packetHeader label cr pid nosp avctPktTypeStart =
      avctBuildHdr label avctPktTypeStart cr :: nosp :: beOctets 2 pid.toNat := by
  simp [packetHeader]

theorem mem_contEndPackets (label cr : Nat) (pieces : List (List UInt8)) (packet : List UInt8)
    (member : packet ∈ contEndPackets label cr pieces) :
    ∃ pktType, ∃ piece ∈ pieces, packet = avctBuildHdr label pktType cr :: piece := by
  induction pieces with
  | nil => simp [contEndPackets] at member
  | cons first rest inductionHypothesis =>
    rcases List.mem_cons.mp member with isFirst | later
    · exact ⟨_, first, List.mem_cons_self, isFirst⟩
    · obtain ⟨pktType, piece, inRest, framed⟩ := inductionHypothesis later
      exact ⟨pktType, piece, List.mem_cons_of_mem first inRest, framed⟩

@[simp] theorem length_contEndPackets (label cr : Nat) (pieces : List (List UInt8)) :
    (contEndPackets label cr pieces).length = pieces.length := by
  induction pieces with
  | nil => rfl
  | cons first rest inductionHypothesis => simp [contEndPackets, inductionHypothesis]

/-- **Every packet fits the MTU.** -/
theorem length_le_of_mem_messagePackets (peerMtu label cr : Nat) (pid : UInt16)
    (msg packet : List UInt8) (mtuAtLeast : avctHdrLenStart ≤ peerMtu)
    (member : packet ∈ messagePackets peerMtu label cr pid msg) : packet.length ≤ peerMtu := by
  unfold avctHdrLenStart at mtuAtLeast
  unfold messagePackets at member
  split_ifs at member with empty fits
  · simp at member
  · rw [List.mem_singleton] at member
    subst member
    simp only [packetHeader_single, List.cons_append, List.length_cons, List.length_append,
      length_beOctets]
    unfold avctHdrLenSingle at fits
    omega
  · rcases List.mem_cons.mp member with isStart | later
    · subst isStart
      simp only [packetHeader_start, List.cons_append, List.length_cons, List.length_append,
        length_beOctets, List.length_take]
      unfold avctHdrLenStart
      omega
    · obtain ⟨pktType, piece, isPiece, framed⟩ := mem_contEndPackets label cr _ packet later
      have pieceFits := length_le_of_mem (peerMtu - 1) _ piece (by omega) isPiece
      rw [framed, List.length_cons]
      omega

/-- The ceiling of a quotient, as `avct_lcb_send_msg` writes it: the quotient,
and one more for a remainder. -/
theorem div_add_remainder_eq_ceil (dividend divisor : Nat) (positive : 0 < divisor) :
    dividend / divisor + (if dividend % divisor ≠ 0 then 1 else 0) =
      (dividend + divisor - 1) / divisor := by
  have decompose := Nat.div_add_mod dividend divisor
  have remainderBound := Nat.mod_lt dividend positive
  have regroup : dividend + divisor - 1 =
      (dividend % divisor + divisor - 1) + divisor * (dividend / divisor) := by
    omega
  rw [regroup, Nat.add_mul_div_left _ _ positive]
  split_ifs with nonzero
  · have one : (dividend % divisor + divisor - 1) / divisor = 1 :=
      Nat.div_eq_of_lt_le (by omega) (by omega)
    omega
  · have zero : (dividend % divisor + divisor - 1) / divisor = 0 :=
      Nat.div_eq_of_lt (by omega)
    omega

/-- **`nosp` counts the packets modulo 256.** For a message that needs more
than one packet, the octet after the start header is the number of packets,
kept in a `uint8_t`. -/
theorem avctNosp_toNat (peerMtu label cr : Nat) (pid : UInt16) (msg : List UInt8)
    (mtuAtLeast : avctHdrLenStart ≤ peerMtu) (longer : peerMtu - avctHdrLenSingle < msg.length) :
    (avctNosp peerMtu msg.length).toNat = (messagePackets peerMtu label cr pid msg).length % 256 := by
  unfold avctHdrLenStart avctHdrLenSingle at *
  have nonEmpty : msg ≠ [] := by
    intro empty
    simp [empty] at longer
  have ceil := div_add_remainder_eq_ceil (msg.length + 4 - peerMtu) (peerMtu - 1) (by omega)
  have pieces := length_segments (peerMtu - 1) (msg.drop (peerMtu - 4)) (by omega)
  rw [List.length_drop] at pieces
  have several : 1 ≤ (msg.length - (peerMtu - 4) + (peerMtu - 1) - 1) / (peerMtu - 1) :=
    (Nat.le_div_iff_mul_le (by omega)).mpr (by omega)
  have sameCount : msg.length - (peerMtu - 4) = msg.length + 4 - peerMtu := by omega
  rw [messagePackets, if_neg nonEmpty, if_neg (by unfold avctHdrLenSingle; omega),
    List.length_cons, length_contEndPackets]
  unfold avctNosp avctHdrLenStart
  rw [pieces]
  dsimp only
  rw [sameCount] at several ⊢
  split_ifs at ceil ⊢ with remainder
  · simp only [UInt8.toNat_add, toNat_ofNat_octet, UInt8.reduceToNat]
    omega
  · simp only [toNat_ofNat_octet]
    omega

/-- An empty message goes out as no packet at all: the loop runs while octets
are left. -/
theorem avctLcbSendMsg_nil (peerMtu label cr : Nat) (pid : UInt16)
    (mtuAtLeast : avctHdrLenStart ≤ peerMtu) : avctLcbSendMsg peerMtu label cr pid [] = some [] := by
  rw [avctLcbSendMsg_eq peerMtu label cr pid [] mtuAtLeast, messagePackets, if_pos rfl]

/-- With an MTU of 48, a message of 11983 octets goes out in 256 packets, and
its start packet announces 0 of them. -/
theorem sendMsg_nospWraps (label cr : Nat) (pid : UInt16) :
    (avctLcbSendMsg 48 label cr pid (List.replicate 11983 0)).map List.length = some 256 ∧
      (avctLcbSendMsg 48 label cr pid (List.replicate 11983 0)).bind
        (fun packets => packets.head?.bind fun first => first[1]?) = some 0 := by
  have nonEmpty : List.replicate 11983 (0 : UInt8) ≠ [] :=
    List.ne_nil_of_length_pos (by rw [List.length_replicate]; decide)
  have notFits : ¬(List.replicate 11983 (0 : UInt8)).length ≤ 48 - avctHdrLenSingle := by
    rw [List.length_replicate]
    decide
  have pieces := length_segments 47 ((List.replicate 11983 (0 : UInt8)).drop 44) (by decide)
  rw [List.length_drop, List.length_replicate] at pieces
  have wrapped : avctNosp 48 11983 = 0 := by decide
  rw [avctLcbSendMsg_eq 48 label cr pid _ (by decide), messagePackets, if_neg nonEmpty,
    if_neg notFits]
  constructor
  · rw [Option.map_some, List.length_cons, length_contEndPackets]
    rw [show 48 - 1 = 47 from rfl, show 48 - avctHdrLenStart = 44 from rfl, pieces]
    rfl
  · rw [Option.bind_some, List.head?_cons, Option.bind_some, packetHeader_start, List.length_replicate,
      wrapped]
    rfl

/-! ## The receiver on the sender's packets -/

section Receiver

variable (registered : List UInt16) (label cr : Nat) (offset : Nat)

/-- A whole message with a known PID and a valid C/R bit goes to the PID's
callback, whatever the packet type in its header octet. -/
theorem avctLcbMsgDeliver_known (pktType : Nat) (pid : UInt16) (payload : List UInt8)
    (pktTypeBound : pktType < 4) (crValid : cr = avctCmd ∨ cr = avctRsp) (known : pid ∈ registered) :
    avctLcbMsgDeliver registered ⟨offset, avctBuildHdr label pktType cr :: (beOctets 2 pid.toNat ++ payload)⟩ =
      .ok [.msgCback pid (label % 16) cr payload] := by
  have crBound : cr < 4 := by
    rcases crValid with rfl | rfl <;> decide
  have notInvalid : cr ≠ avctCrIpidInvalid := by
    rcases crValid with rfl | rfl <;> decide
  have pidBack : UInt16.ofNat (beValue (beOctets 2 pid.toNat)) = pid := by
    have pidFits : pid.toNat < 256 ^ 2 := lt_of_lt_of_eq pid.toNat_lt (by decide)
    rw [beValue_beOctets, Nat.mod_eq_of_lt pidFits, UInt16.ofNat_toNat]
  obtain ⟨high, low, octets⟩ : ∃ high low, beOctets 2 pid.toNat = [high, low] := ⟨_, _, rfl⟩
  rw [octets] at pidBack
  simp [avctLcbMsgDeliver, avctParseHdr_avctBuildHdr label pktType cr pktTypeBound crBound, octets,
    notInvalid, pidBack, known]

/-- A continue or end packet without a message in reassembly is dropped. -/
theorem avctLcbMsgInd_contEnd_none (pktType : Nat) (piece : List UInt8)
    (continues : pktType = avctPktTypeCont ∨ pktType = avctPktTypeEnd) (crBound : cr < 4) :
    avctLcbMsgInd registered none ⟨offset, avctBuildHdr label pktType cr :: piece⟩ = .ok (none, []) := by
  have typeBound : pktType < 4 := by
    rcases continues with rfl | rfl <;> decide
  have typed := avctPktType_avctBuildHdr label pktType cr typeBound crBound
  simp only [avctLcbMsgInd, avctLcbMsgAsmbl, typed]
  rcases continues with rfl | rfl <;>
    simp [avctLcbPktTypeLen, avctPktTypeCont, avctPktTypeEnd, avctPktTypeSingle, avctPktTypeStart,
      avctHdrLenCont, avctHdrLenEnd, pure, Except.pure, bind, Except.bind]

/-- A continue or end packet whose octets would run past the reassembly buffer
drops the message. -/
theorem avctLcbMsgInd_contEnd_tooBig (pktType : Nat) (piece : List UInt8) (rx : RxMsg)
    (continues : pktType = avctPktTypeCont ∨ pktType = avctPktTypeEnd) (crBound : cr < 4)
    (tooBig : rxBufLen < rx.offset + piece.length) :
    avctLcbMsgInd registered (some rx) ⟨offset, avctBuildHdr label pktType cr :: piece⟩ =
      .ok (none, []) := by
  have typeBound : pktType < 4 := by
    rcases continues with rfl | rfl <;> decide
  have typed := avctPktType_avctBuildHdr label pktType cr typeBound crBound
  simp only [avctLcbMsgInd, avctLcbMsgAsmbl, typed]
  rcases continues with rfl | rfl <;>
    simp [avctLcbPktTypeLen, avctPktTypeCont, avctPktTypeEnd, avctPktTypeSingle, avctPktTypeStart,
      avctHdrLenCont, avctHdrLenEnd, tooBig, pure, Except.pure, bind, Except.bind]

/-- A continue packet that fits appends its octets to the message. -/
theorem avctLcbMsgInd_cont (piece : List UInt8) (rx : RxMsg) (crBound : cr < 4)
    (fits : rx.offset + piece.length ≤ rxBufLen) :
    avctLcbMsgInd registered (some rx) ⟨offset, avctBuildHdr label avctPktTypeCont cr :: piece⟩ =
      .ok (some ⟨rx.offset + piece.length, rx.data ++ piece⟩, []) := by
  have notTooBig : ¬rx.offset + piece.length > rxBufLen := by omega
  have typed := avctPktType_avctBuildHdr label avctPktTypeCont cr (by decide) crBound
  simp only [avctLcbMsgInd, avctLcbMsgAsmbl, typed]
  simp [avctLcbPktTypeLen, avctPktTypeCont, avctPktTypeEnd, avctPktTypeSingle, avctPktTypeStart,
    avctHdrLenCont, notTooBig, pure, Except.pure, bind, Except.bind]

/-- An end packet that fits completes the message, which is handled laid out as
a single packet. -/
theorem avctLcbMsgInd_end (piece : List UInt8) (rx : RxMsg) (crBound : cr < 4)
    (fits : rx.offset + piece.length ≤ rxBufLen) :
    avctLcbMsgInd registered (some rx) ⟨offset, avctBuildHdr label avctPktTypeEnd cr :: piece⟩ =
      (avctLcbMsgDeliver registered ⟨rx.offset - rx.data.length, rx.data ++ piece⟩).map
        fun events => (none, events) := by
  have notTooBig : ¬rx.offset + piece.length > rxBufLen := by omega
  have typed := avctPktType_avctBuildHdr label avctPktTypeEnd cr (by decide) crBound
  simp only [avctLcbMsgInd, avctLcbMsgAsmbl, typed]
  simp [avctLcbPktTypeLen, avctPktTypeEnd, avctPktTypeSingle, avctPktTypeStart, avctHdrLenCont,
    avctHdrLenEnd, notTooBig, pure, Except.pure, bind, Except.bind]
  cases avctLcbMsgDeliver registered _ <;> rfl

/-- A run of one packet is its step. -/
theorem run_singleton_eq (rxMsg : Option RxMsg) (pBuf : Packet) :
    Runs.run (avctLcbMsgInd registered) rxMsg [pBuf] = avctLcbMsgInd registered rxMsg pBuf := by
  cases stepped : avctLcbMsgInd registered rxMsg pBuf with
  | error failure => exact Runs.run_cons_error _ rxMsg pBuf [] failure stepped
  | ok result =>
    rw [Runs.run_cons_ok _ rxMsg result.1 pBuf [] result.2 stepped]
    simp [Except.map]

theorem contEnd_type (rest : List (List UInt8)) :
    (if rest = [] then avctPktTypeEnd else avctPktTypeCont) = avctPktTypeCont ∨
      (if rest = [] then avctPktTypeEnd else avctPktTypeCont) = avctPktTypeEnd := by
  split <;> simp

/-- Continue and end packets reach nothing without a message in reassembly. -/
theorem run_contEndPackets_none (crBound : cr < 4) (pieces : List (List UInt8)) :
    Runs.run (avctLcbMsgInd registered) none ((contEndPackets label cr pieces).map (Packet.mk offset)) =
      .ok (none, []) := by
  induction pieces with
  | nil => rfl
  | cons piece rest inductionHypothesis =>
    rw [contEndPackets, List.map_cons, Runs.run_cons_ok _ none none _ _ []
      (avctLcbMsgInd_contEnd_none registered label cr offset _ piece (contEnd_type rest) crBound),
      inductionHypothesis]
    rfl

/-- **Continue and end packets complete the message.** From a message in
reassembly, the continue packets and the end packet of `pieces` deliver the
message with all the pieces when they fit the reassembly buffer, and drop it
otherwise. The induction is on the pieces, with the message in reassembly
generalized; its offset and its length grow together. -/
theorem run_contEndPackets (crBound : cr < 4) (pieces : List (List UInt8)) (nonEmpty : pieces ≠ [])
    (rx : RxMsg) :
    Runs.run (avctLcbMsgInd registered) (some rx) ((contEndPackets label cr pieces).map (Packet.mk offset)) =
      if rx.offset + pieces.flatten.length ≤ rxBufLen then
        (avctLcbMsgDeliver registered ⟨rx.offset - rx.data.length, rx.data ++ pieces.flatten⟩).map
          fun events => (none, events)
      else .ok (none, []) := by
  induction pieces generalizing rx with
  | nil => exact absurd rfl nonEmpty
  | cons piece rest inductionHypothesis =>
    by_cases fits : rx.offset + piece.length ≤ rxBufLen
    · by_cases last : rest = []
      · -- the end packet
        subst last
        rw [contEndPackets, if_pos rfl, contEndPackets, List.map_cons, List.map_nil, run_singleton_eq,
          avctLcbMsgInd_end registered label cr offset piece rx crBound fits]
        simp [fits]
      · -- a continue packet, and the rest from the longer message
        rw [contEndPackets, if_neg last, List.map_cons, Runs.run_cons_ok _ _ _ _ _ []
          (avctLcbMsgInd_cont registered label cr offset piece rx crBound fits),
          inductionHypothesis last]
        have sameStart :
            rx.offset + piece.length - (rx.data.length + piece.length) = rx.offset - rx.data.length := by
          omega
        simp only [List.flatten_cons, List.length_append, List.append_assoc, Nat.add_assoc]
        rw [sameStart]
        by_cases allFit : rx.offset + (piece.length + rest.flatten.length) ≤ rxBufLen
        · rw [if_pos allFit]
          cases avctLcbMsgDeliver registered
            ⟨rx.offset - rx.data.length, rx.data ++ (piece ++ rest.flatten)⟩ <;> rfl
        · rw [if_neg allFit]
          rfl
    · -- the packet runs past the buffer: the message is dropped, and the rest with it
      have tooBig : rxBufLen < rx.offset + piece.length := by omega
      have notAll : ¬rx.offset + (piece :: rest).flatten.length ≤ rxBufLen := by
        simp only [List.flatten_cons, List.length_append]
        omega
      rw [contEndPackets, List.map_cons, Runs.run_cons_ok _ _ none _ _ []
        (avctLcbMsgInd_contEnd_tooBig registered label cr offset _ piece rx (contEnd_type rest) crBound
          tooBig), run_contEndPackets_none registered label cr offset crBound rest, if_neg notAll]
      rfl

/-- A single packet is handled as it is. -/
theorem avctLcbMsgInd_single (rxMsg : Option RxMsg) (pid : UInt16) (payload : List UInt8)
    (crBound : cr < 4) :
    avctLcbMsgInd registered rxMsg ⟨offset, packetHeader label cr pid 0 avctPktTypeSingle ++ payload⟩ =
      (avctLcbMsgDeliver registered
          ⟨offset, packetHeader label cr pid 0 avctPktTypeSingle ++ payload⟩).map
        fun events => (none, events) := by
  have typed := avctPktType_avctBuildHdr label avctPktTypeSingle cr (by decide) crBound
  have notShort : ¬2 + payload.length + 1 < 3 := by omega
  simp only [avctLcbMsgInd, avctLcbMsgAsmbl, packetHeader_single, List.cons_append, typed]
  simp [avctLcbPktTypeLen, avctPktTypeSingle, avctHdrLenSingle, notShort, pure, Except.pure, bind,
    Except.bind]
  cases avctLcbMsgDeliver registered _ <;> rfl

/-- A start packet opens the reassembly buffer with its header octet written
over the packet count, or its copy runs past the buffer. -/
theorem avctLcbMsgInd_start (rxMsg : Option RxMsg) (pid : UInt16) (nosp : UInt8)
    (piece : List UInt8) (crBound : cr < 4) :
    avctLcbMsgInd registered rxMsg ⟨offset, packetHeader label cr pid nosp avctPktTypeStart ++ piece⟩ =
      if rxBufLen < offset + (avctHdrLenStart + piece.length) then .error ()
      else .ok (some ⟨offset + (avctHdrLenStart + piece.length),
          avctBuildHdr label avctPktTypeStart cr :: (beOctets 2 pid.toNat ++ piece)⟩, []) := by
  have typed := avctPktType_avctBuildHdr label avctPktTypeStart cr (by decide) crBound
  have packetLength : (beOctets 2 pid.toNat ++ piece).length + 1 + 1 = avctHdrLenStart + piece.length := by
    simp only [List.length_append, length_beOctets, avctHdrLenStart]
    omega
  simp only [avctLcbMsgInd, avctLcbMsgAsmbl, packetHeader_start, List.cons_append, typed,
    List.length_cons, packetLength]
  have notShort : ¬4 + piece.length < 4 := by omega
  unfold avctHdrLenStart
  by_cases overflow : rxBufLen < offset + (4 + piece.length)
  · simp [avctLcbPktTypeLen, avctPktTypeSingle, avctPktTypeStart, avctHdrLenStart, notShort,
      overflow, bind, Except.bind]
  · simp [avctLcbPktTypeLen, avctPktTypeSingle, avctPktTypeStart, avctHdrLenStart, notShort,
      overflow, bind, Except.bind, pure, Except.pure]

end Receiver

/-- **An AVCTP message comes through.** Fed in order, at any offset, the packets
that `avct_lcb_send_msg` sends for a non-empty message with a registered PID
and a command or response bit, the receiver hands the PID's callback the
message, with the label's four bits and the C/R bit, exactly when the message
fits one packet or the start packet's offset, the start header and the
message fit the reassembly buffer. Otherwise the copy of the start packet runs
past the buffer, or the message is dropped. -/
theorem avct_roundTrip (peerMtu label cr : Nat) (pid : UInt16) (msg : List UInt8)
    (registered : List UInt16) (offset : Nat) (mtuAtLeast : avctHdrLenStart ≤ peerMtu)
    (crValid : cr = avctCmd ∨ cr = avctRsp) (known : pid ∈ registered) (nonEmpty : msg ≠ []) :
    (avctLcbSendMsg peerMtu label cr pid msg).map
        (fun packets => Runs.run (avctLcbMsgInd registered) none (packets.map (Packet.mk offset))) =
      some (if msg.length ≤ peerMtu - avctHdrLenSingle ∨
            offset + avctHdrLenStart + msg.length ≤ rxBufLen then
          .ok (none, [.msgCback pid (label % 16) cr msg])
        else if rxBufLen < offset + peerMtu then .error ()
        else .ok (none, [])) := by
  have crBound : cr < 4 := by
    rcases crValid with rfl | rfl <;> decide
  rw [avctLcbSendMsg_eq peerMtu label cr pid msg mtuAtLeast, Option.map_some, Option.some.injEq,
    messagePackets, if_neg nonEmpty]
  by_cases fits : msg.length ≤ peerMtu - avctHdrLenSingle
  · -- one single packet
    rw [if_pos fits, if_pos (Or.inl fits), List.map_singleton, run_singleton_eq,
      avctLcbMsgInd_single registered label cr offset none pid msg crBound, packetHeader_single,
      List.cons_append, avctLcbMsgDeliver_known registered label cr offset avctPktTypeSingle pid msg
        (by decide) crValid known]
    rfl
  · -- a start packet, then the continue and end packets
    unfold avctHdrLenStart avctHdrLenSingle at *
    have startLength : (msg.take (peerMtu - 4)).length = peerMtu - 4 := by
      rw [List.length_take]
      omega
    have restLength : (msg.drop (peerMtu - 4)).length = msg.length - (peerMtu - 4) := List.length_drop
    rw [if_neg fits, List.map_cons]
    by_cases overflow : rxBufLen < offset + (avctHdrLenStart + (msg.take (peerMtu - 4)).length)
    · -- the copy of the start packet runs past the reassembly buffer
      have startFails := avctLcbMsgInd_start registered label cr offset none pid
        (avctNosp peerMtu msg.length) (msg.take (peerMtu - 4)) crBound
      rw [if_pos overflow] at startFails
      unfold avctHdrLenStart at overflow
      rw [startLength] at overflow
      rw [Runs.run_cons_error _ none _ _ () startFails, if_neg (by omega), if_pos (by omega)]
    · have started := avctLcbMsgInd_start registered label cr offset none pid
        (avctNosp peerMtu msg.length) (msg.take (peerMtu - 4)) crBound
      rw [if_neg overflow] at started
      unfold avctHdrLenStart at overflow started
      rw [startLength] at overflow started
      rw [Runs.run_cons_ok _ none _ _ _ [] started,
        run_contEndPackets registered label cr offset crBound _ (segments_ne_nil _ _),
        flatten_segments, restLength]
      have sameStart : offset + (4 + (peerMtu - 4)) -
          (avctBuildHdr label avctPktTypeStart cr :: (beOctets 2 pid.toNat ++ msg.take (peerMtu - 4))).length =
          offset + 1 := by
        simp only [List.length_cons, List.length_append, length_beOctets, startLength]
        omega
      have wholeMessage : avctBuildHdr label avctPktTypeStart cr ::
          (beOctets 2 pid.toNat ++ msg.take (peerMtu - 4)) ++ msg.drop (peerMtu - 4) =
          avctBuildHdr label avctPktTypeStart cr :: (beOctets 2 pid.toNat ++ msg) := by
        rw [List.cons_append, List.append_assoc, List.take_append_drop]
      rw [sameStart, wholeMessage, avctLcbMsgDeliver_known registered label cr (offset + 1)
        avctPktTypeStart pid msg (by decide) crValid known]
      by_cases delivered : offset + (4 + (peerMtu - 4)) + (msg.length - (peerMtu - 4)) ≤ rxBufLen
      · rw [if_pos delivered, if_pos (Or.inr (by omega))]
        rfl
      · rw [if_neg delivered, if_neg (by omega), if_neg (by omega)]
        rfl

end Fluoride.AvctLcb
