import Fluoride.ByteBuffer

/-!
# Receiving BNEP frames

`bnep_data_ind` (`stack/bnep/bnep_main.cc`) takes a frame received on a BNEP
channel: a type byte whose top bit announces extension headers, the header of
that type, then for a data frame the extension headers and the payload. A
control frame and every filter-control extension header go through
`bnep_process_control_packet` (`stack/bnep/bnep_utils.cc`), which checks the
message's length against the bytes left and hands filter sets to
`bnepu_process_peer_filter_set` and `bnepu_process_peer_multicast_filter_set`.

The model follows the frame by offsets (`p`) and the count of bytes left
(`rem_len`); what the procedures send to the peer and hand to the upper layer
is recorded, in order, as `Effect`s of the channel (`Bcb`).

An extension header is skipped by the length of the control message it holds,
as `bnep_process_control_packet` reads it, and not by its own length field
(`extensionLoop_controlLength`). The multicast filter set handler advances its
filter pointer while storing the filters and then hands that pointer to the
upper layer: the indication points just past the list it stored
(`bnepuProcessPeerMulticastFilterSet_indication`).
-/

namespace Fluoride.BnepData

open ByteBuffer (window)

/-! ## Constants of `bnep_int.h` and `bt_target.h` -/

def bnepFrameGeneralEthernet : Nat := 0x00
def bnepFrameControl : Nat := 0x01
def bnepFrameCompressedEthernet : Nat := 0x02
def bnepFrameCompressedEthernetSrcOnly : Nat := 0x03
def bnepFrameCompressedEthernetDestOnly : Nat := 0x04

/-- `bnep_frame_hdr_sizes`, by frame type. -/
def bnepFrameHdrSizes : List Nat := [14, 1, 2, 8, 8]

/-- `BNEP_MTU_SIZE`, that is `L2CAP_MTU_SIZE`. -/
def bnepMtuSize : Nat := 1691

def bnepControlCommandNotUnderstood : Nat := 0x00
def bnepSetupConnectionRequestMsg : Nat := 0x01
def bnepSetupConnectionResponseMsg : Nat := 0x02
def bnepFilterNetTypeSetMsg : Nat := 0x03
def bnepFilterNetTypeResponseMsg : Nat := 0x04
def bnepFilterMultiAddrSetMsg : Nat := 0x05
def bnepFilterMultiAddrResponseMsg : Nat := 0x06

def bnepExtensionFilterControl : Nat := 0x00

def bnepFilterCrlOk : Nat := 0x0000
def bnepFilterCrlBadRange : Nat := 0x0002
def bnepFilterCrlMaxReached : Nat := 0x0003

def bnepMaxProtFilters : Nat := 5
def bnepMaxMultiFilters : Nat := 5
def bdAddrLen : Nat := 6

/-! ## Reading the frame -/

/-- The byte at `position`; the model reads past the frame as zero. -/
def byteAt (frame : List UInt8) (position : Nat) : Nat :=
  (frame.getD position 0).toNat

/-- `BE_STREAM_TO_UINT16`. -/
def readBe16 (frame : List UInt8) (position : Nat) : Nat :=
  256 * byteAt frame position + byteAt frame (position + 1)

/-- `memcmp` of two byte strings of one length: the order of their first
differing bytes. -/
def memcmp : List UInt8 → List UInt8 → Ordering
  | first :: firsts, second :: seconds =>
    if first = second then memcmp firsts seconds else compare first.toNat second.toNat
  | _, _ => .eq

/-! ## The channel -/

/-- What the channel does besides parsing: frames sent to the peer, calls into
the upper layer and into the handlers this model does not follow, with the
offsets of the frame they are given. -/
inductive Effect
  /-- `bnep_send_command_not_understood`. -/
  | commandNotUnderstood (cmdCode : Nat)
  /-- `bnepu_send_peer_filter_rsp`. -/
  | filterRsp (responseCode : Nat)
  /-- `bnepu_send_peer_multicast_filter_rsp`. -/
  | multicastFilterRsp (responseCode : Nat)
  /-- `p_filter_ind_cb(handle, true, 0, len, p_filters)`. -/
  | filterInd (len filters : Nat)
  /-- `p_mfilter_ind_cb(handle, true, 0, len, p_filters)`. -/
  | mfilterInd (len filters : Nat)
  /-- `bnep_process_setup_conn_req(p_bcb, p, len)`. -/
  | setupConnReq (setup len : Nat)
  /-- `bnep_process_setup_conn_responce(p_bcb, p)`. -/
  | setupConnRsp (setup : Nat)
  /-- `bnepu_process_peer_filter_rsp(p_bcb, p)`. -/
  | peerFilterRsp (data : Nat)
  /-- `bnepu_process_multicast_filter_rsp(p_bcb, p)`. -/
  | peerMulticastFilterRsp (data : Nat)
  deriving DecidableEq, Repr

/-- `tBNEP_CONN`, the fields the receive path reads and writes: whether the
state is `BNEP_STATE_CONNECTED`, whether `BNEP_FLAGS_CONN_COMPLETED` is set, the
protocol and multicast filters received, the data kept from a setup request,
and the effects so far. -/
structure Bcb where
  stateConnected : Bool
  connCompleted : Bool
  rcvdNumFilters : Nat
  protFilters : List (Nat × Nat)
  rcvdMcastFilters : Nat
  mcastFilters : List (List UInt8 × List UInt8)
  pendingData : Option (List UInt8)
  effects : List Effect
  deriving DecidableEq, Repr

/-- The connection test of the receive path and of the filter handlers. -/
def Bcb.connected (bcb : Bcb) : Bool :=
  bcb.stateConnected || bcb.connCompleted

/-- One more effect. -/
def Bcb.emit (bcb : Bcb) (effect : Effect) : Bcb :=
  { bcb with effects := bcb.effects ++ [effect] }

/-! ## The filter handlers -/

/-- The first protocol filter range (`start > end`) that is not a range, among
`count` ranges from `position`. -/
def badProtRange (frame : List UInt8) : Nat → Nat → Bool
  | 0, _ => false
  | count + 1, position =>
    readBe16 frame position > readBe16 frame (position + 2) || badProtRange frame count (position + 4)

/-- The protocol filter ranges stored, `count` ranges from `position`. -/
def protRanges (frame : List UInt8) : Nat → Nat → List (Nat × Nat)
  | 0, _ => []
  | count + 1, position =>
    (readBe16 frame position, readBe16 frame (position + 2)) :: protRanges frame count (position + 4)

/-- `bnepu_process_peer_filter_set`: a set of protocol filters from the peer,
`len` bytes at `p_filters`, checked, handed to the upper layer, stored and
answered. -/
def bnepuProcessPeerFilterSet (bcb : Bcb) (frame : List UInt8) (pFilters len : Nat) : Bcb :=
  if !bcb.connected then bcb
  else if len % 4 ≠ 0 then bcb.emit (.filterRsp bnepFilterCrlBadRange)
  else
    let numFilters := len / 4
    let respCode :=
      if numFilters ≤ bnepMaxProtFilters then
        if badProtRange frame numFilters pFilters then bnepFilterCrlBadRange else bnepFilterCrlOk
      else bnepFilterCrlMaxReached
    if respCode ≠ bnepFilterCrlOk then bcb.emit (.filterRsp respCode)
    else
      let bcb := bcb.emit (.filterInd len pFilters)
      let bcb := { bcb with
        rcvdNumFilters := numFilters
        protFilters := protRanges frame numFilters pFilters }
      bcb.emit (.filterRsp respCode)

/-- The validation loop of the multicast handler: a range whose start address
is above its end address, among `count` ranges from `position`. -/
def badMcastRange (frame : List UInt8) : Nat → Nat → Bool
  | 0, _ => false
  | count + 1, position =>
    memcmp (window frame position bdAddrLen) (window frame (position + bdAddrLen) bdAddrLen) == .gt ||
      badMcastRange frame count (position + 2 * bdAddrLen)

/-- The storing loop of the multicast handler: `count` ranges are stored from
`p_filters`, which advances past each; a range of two zero addresses is stored
and stops the loop, marking every address as accepted. Returns the ranges
stored, `p_filters` after the loop, and whether it stopped on such a range. -/
def storeMcastRanges (frame : List UInt8) : Nat → Nat →
    List (List UInt8 × List UInt8) × Nat × Bool
  | 0, pFilters => ([], pFilters, false)
  | count + 1, pFilters =>
    let start := window frame pFilters bdAddrLen
    let stop := window frame (pFilters + bdAddrLen) bdAddrLen
    let pFilters := pFilters + 2 * bdAddrLen
    if start = List.replicate bdAddrLen 0 ∧ stop = List.replicate bdAddrLen 0 then
      ([(start, stop)], pFilters, true)
    else
      let (ranges, pFilters, allZero) := storeMcastRanges frame count pFilters
      ((start, stop) :: ranges, pFilters, allZero)

/-- `bnepu_process_peer_multicast_filter_set`: a set of multicast filters, `len`
bytes at `p_filters`, checked, stored, answered, and then handed to the upper
layer with `p_filters` as the storing loop left it. -/
def bnepuProcessPeerMulticastFilterSet (bcb : Bcb) (frame : List UInt8) (pFilters len : Nat) :
    Bcb :=
  if !bcb.connected then bcb
  else if len % 12 ≠ 0 then bcb.emit (.multicastFilterRsp bnepFilterCrlBadRange)
  else if len > bnepMaxMultiFilters * 2 * bdAddrLen then
    bcb.emit (.multicastFilterRsp bnepFilterCrlMaxReached)
  else
    let numFilters := len / 12
    if numFilters ≤ bnepMaxMultiFilters ∧ badMcastRange frame numFilters pFilters then
      bcb.emit (.multicastFilterRsp bnepFilterCrlBadRange)
    else
      let (ranges, pFilters, allZero) := storeMcastRanges frame numFilters pFilters
      let bcb := { bcb with
        rcvdMcastFilters := if allZero then 0xFFFF else numFilters
        mcastFilters := ranges }
      let bcb := bcb.emit (.multicastFilterRsp bnepFilterCrlOk)
      bcb.emit (.mfilterInd len pFilters)

/-! ## Control messages -/

/-- `bnep_process_control_packet` at `p` with `rem_len` bytes left, for a
control frame or, with `is_ext`, for the body of an extension header (its
length byte first). Returns the channel, `p` after the message (`none` for the
`NULL` of a message longer than what is left, with `rem_len` 0) and `rem_len`.
Only an unknown control type is skipped by the extension's length. -/
def bnepProcessControlPacket (bcb : Bcb) (frame : List UInt8) (p remLen : Nat) (isExt : Bool) :
    Bcb × Option Nat × Nat :=
  let bad := (bcb, none, 0)
  -- the extension's length byte, read only for an extension header
  if isExt ∧ remLen < 1 then bad
  else
    let extLen := if isExt then byteAt frame p else 0
    let p := if isExt then p + 1 else p
    let remLen := if isExt then remLen - 1 else remLen
    if remLen < 1 then bad
    else
      let controlType := byteAt frame p
      let p := p + 1
      let remLen := remLen - 1
      if controlType = bnepControlCommandNotUnderstood then
        if remLen < 1 then bad else (bcb, some (p + 1), remLen - 1)
      else if controlType = bnepSetupConnectionRequestMsg then
        if remLen < 1 then bad
        else
          let len := byteAt frame p
          let p := p + 1
          if remLen < 2 * len + 1 then bad
          else
            let bcb := if isExt then bcb else bcb.emit (.setupConnReq p len)
            (bcb, some (p + 2 * len), remLen - 2 * len - 1)
      else if controlType = bnepSetupConnectionResponseMsg then
        if remLen < 2 then bad
        else
          let bcb := if isExt then bcb else bcb.emit (.setupConnRsp p)
          (bcb, some (p + 2), remLen - 2)
      else if controlType = bnepFilterNetTypeSetMsg then
        if remLen < 2 then bad
        else
          let len := readBe16 frame p
          let p := p + 2
          if remLen < len + 2 then bad
          else (bnepuProcessPeerFilterSet bcb frame p len, some (p + len), remLen - len - 2)
      else if controlType = bnepFilterNetTypeResponseMsg then
        if remLen < 2 then bad else (bcb.emit (.peerFilterRsp p), some (p + 2), remLen - 2)
      else if controlType = bnepFilterMultiAddrSetMsg then
        if remLen < 2 then bad
        else
          let len := readBe16 frame p
          let p := p + 2
          if remLen < len + 2 then bad
          else (bnepuProcessPeerMulticastFilterSet bcb frame p len, some (p + len), remLen - len - 2)
      else if controlType = bnepFilterMultiAddrResponseMsg then
        if remLen < 2 then bad
        else (bcb.emit (.peerMulticastFilterRsp p), some (p + 2), remLen - 2)
      else
        let bcb := bcb.emit (.commandNotUnderstood controlType)
        if isExt ∧ extLen > 0 then
          if remLen < extLen - 1 then bad
          else (bcb, some (p + (extLen - 1)), remLen - (extLen - 1))
        else (bcb, some p, remLen)

/-! ## Extension headers -/

/-- The extension loop of a data frame: while an extension is announced, bytes
are left and `p` is not null, a filter-control extension header is handed to
`bnep_process_control_packet`; the first extension of another type stops the
loop. Carries `p`, `rem_len`, the announcement bit and `ext_type`. Every pass
consumes a byte, so `rem_len + 1` passes are enough. -/
def extensionLoop (frame : List UInt8) : Nat → Bcb × Option Nat × Nat × Bool × Nat →
    Bcb × Option Nat × Nat × Bool × Nat
  | 0, state => state
  | fuel + 1, (bcb, p, remLen, extensionPresent, extType) =>
    match p with
    | some position =>
      if extensionPresent ∧ remLen ≠ 0 then
        let byte := byteAt frame position
        let extensionPresent := byte >>> 7 = 1
        let extType := byte &&& 0x7F
        if extType ≠ 0 then (bcb, p, remLen, extensionPresent, extType)
        else
          let (bcb, p, remLen) := bnepProcessControlPacket bcb frame (position + 1) (remLen - 1) true
          extensionLoop frame fuel (bcb, p, remLen, extensionPresent, extType)
      else (bcb, p, remLen, extensionPresent, extType)
    | none => (bcb, p, remLen, extensionPresent, extType)

/-- The extension loop after a control frame: an extension of another type
than filter control stops it, after its type byte. -/
def controlExtensionLoop (frame : List UInt8) : Nat → Bcb × Option Nat × Nat × Bool → Bcb
  | 0, (bcb, _, _, _) => bcb
  | fuel + 1, (bcb, p, remLen, extensionPresent) =>
    match p with
    | some position =>
      if extensionPresent ∧ remLen ≠ 0 then
        let byte := byteAt frame position
        let extensionPresent := byte >>> 7 = 1
        if byte &&& 0x7F ≠ bnepExtensionFilterControl then bcb
        else
          let (bcb, p, remLen) := bnepProcessControlPacket bcb frame (position + 1) (remLen - 1) true
          controlExtensionLoop frame fuel (bcb, p, remLen, extensionPresent)
      else bcb
    | none => bcb

/-- The extension walk of a frame received on a channel that is not connected:
each header's length is checked against what is left, and a filter-control
header whose message type is past the known ones is answered with
command-not-understood. -/
def ignoredExtensions (bcb : Bcb) (frame : List UInt8) : Nat → Nat → Nat → Bcb
  | 0, _, _ => bcb
  | fuel + 1, p, orgLen =>
    if orgLen < 2 then bcb
    else
      let ext := byteAt frame p
      let length := byteAt frame (p + 1)
      let p := p + 2
      let newLen := length + 2
      if newLen > orgLen then bcb
      else if ext &&& 0x7F = bnepExtensionFilterControl ∧ length = 0 then bcb
      else
        let bcb :=
          if ext &&& 0x7F = bnepExtensionFilterControl ∧ byteAt frame p > bnepFilterMultiAddrResponseMsg then
            bcb.emit (.commandNotUnderstood (byteAt frame p))
          else bcb
        if ext >>> 7 = 1 then ignoredExtensions bcb frame fuel (p + length) (orgLen - newLen) else bcb

/-! ## bnep_data_ind -/

/-- What a data frame hands to the upper layer: the source and destination
addresses (offsets into the frame, `none` for the channel's and the local
address), the protocol, the payload, and whether an extension is forwarded. -/
structure Delivery where
  srcAddr : Option Nat
  dstAddr : Option Nat
  protocol : Nat
  payload : List UInt8
  fwExtPresent : Bool
  deriving DecidableEq, Repr

/-- `bnep_data_ind`: the channel after the frame, and what a data frame hands
to the upper layer through `p_data_buf_cb` (the buffer advanced to the last
`rem_len` bytes). -/
def bnepDataInd (bcb : Bcb) (frame : List UInt8) : Bcb × Option Delivery :=
  let remLen := frame.length
  if remLen = 0 then (bcb, none)
  else
    let typeByte := byteAt frame 0
    let extensionPresent := typeByte >>> 7 = 1
    let type := typeByte &&& 0x7F
    if type ≥ bnepFrameHdrSizes.length then (bcb, none)
    else if remLen ≤ bnepFrameHdrSizes.getD type 0 ∨ remLen > bnepMtuSize then (bcb, none)
    else
      let remLen := remLen - 1
      let p := 1
      if !bcb.stateConnected ∧ !bcb.connCompleted ∧ type ≠ bnepFrameControl then
        (if extensionPresent then ignoredExtensions bcb frame remLen p remLen else bcb, none)
      else if type = bnepFrameControl then
        let controlType := byteAt frame p
        let (bcb, p, remLen) := bnepProcessControlPacket bcb frame p remLen false
        match p with
        | some position =>
          if controlType = bnepSetupConnectionRequestMsg ∧ !bcb.stateConnected ∧ extensionPresent ∧
              remLen ≠ 0 then
            ({ bcb with pendingData := some (window frame position remLen) }, none)
          else (controlExtensionLoop frame (remLen + 1) (bcb, p, remLen, extensionPresent), none)
        | none => (bcb, none)
      else
        -- the header of each data frame type: addresses, then the protocol
        let (srcAddr, dstAddr, headerLen) :=
          if type = bnepFrameGeneralEthernet then (some (p + bdAddrLen), some p, 14)
          else if type = bnepFrameCompressedEthernet then (none, none, 2)
          else if type = bnepFrameCompressedEthernetSrcOnly then (some p, none, 8)
          else (none, some p, 8)
        let protocol := readBe16 frame (p + headerLen - 2)
        let (bcb, _, remLen, _, extType) :=
          extensionLoop frame (remLen + 1) (bcb, some (p + headerLen), remLen - headerLen,
            extensionPresent, 0)
        (bcb, some ⟨srcAddr, dstAddr, protocol, frame.drop (frame.length - remLen), extType ≠ 0⟩)

/-! ## The multicast indication -/

/-- A storing loop that meets no range of two zero addresses stores every range
and leaves `p_filters` past all of them. -/
theorem storeMcastRanges_advances (frame : List UInt8) (count pFilters : Nat)
    (ranges : List (List UInt8 × List UInt8)) (after : Nat)
    (stored : storeMcastRanges frame count pFilters = (ranges, after, false)) :
    after = pFilters + 12 * count := by
  induction count generalizing pFilters ranges after with
  | zero =>
    simp only [storeMcastRanges, Prod.mk.injEq] at stored
    omega
  | succ count inductionHypothesis =>
    simp only [storeMcastRanges] at stored
    split_ifs at stored with allZero
    · simp only [Prod.mk.injEq, Bool.true_eq_false, and_false] at stored
    · obtain ⟨rest, restAfter, restZero, split⟩ :
          ∃ rest restAfter restZero, storeMcastRanges frame count (pFilters + 2 * bdAddrLen) =
            (rest, restAfter, restZero) := ⟨_, _, _, rfl⟩
      rw [split] at stored
      simp only [Prod.mk.injEq] at stored
      obtain ⟨-, sameAfter, notZero⟩ := stored
      subst notZero
      have later := inductionHypothesis (pFilters + 2 * bdAddrLen) rest restAfter split
      rw [bdAddrLen] at later
      omega

/-- A multicast filter set that passes every check and holds no range of two
zero addresses is stored, answered with `BNEP_FILTER_CRL_OK`, and indicated to
the upper layer with a pointer `len` bytes past the list it stored. -/
theorem bnepuProcessPeerMulticastFilterSet_indication (bcb : Bcb) (frame : List UInt8)
    (pFilters len : Nat) (connected : bcb.connected = true) (whole : len % 12 = 0)
    (few : len ≤ bnepMaxMultiFilters * 2 * bdAddrLen)
    (ordered : badMcastRange frame (len / 12) pFilters = false)
    (ranges : List (List UInt8 × List UInt8)) (after : Nat)
    (stored : storeMcastRanges frame (len / 12) pFilters = (ranges, after, false)) :
    (bnepuProcessPeerMulticastFilterSet bcb frame pFilters len).effects =
      bcb.effects ++ [.multicastFilterRsp bnepFilterCrlOk, .mfilterInd len (pFilters + len)] := by
  have past : after = pFilters + len := by
    rw [storeMcastRanges_advances frame (len / 12) pFilters ranges after stored]
    omega
  simp only [bnepuProcessPeerMulticastFilterSet, connected, Bool.not_true, Bool.false_eq_true,
    if_false, whole, ne_eq, not_true_eq_false, Nat.not_lt.mpr few, ordered, and_false, stored,
    Bcb.emit, List.append_assoc, List.cons_append, List.nil_append, past]

/-! ## Extension headers -/

/-- Once no further extension is announced, the loop stops where it is. -/
theorem extensionLoop_stopped (frame : List UInt8) (fuel : Nat) (bcb : Bcb) (p : Option Nat)
    (remLen extType : Nat) :
    extensionLoop frame fuel (bcb, p, remLen, false, extType) = (bcb, p, remLen, false, extType) := by
  cases fuel with
  | zero => rfl
  | succ fuel => cases p <;> simp only [extensionLoop, Bool.false_eq_true, false_and, if_false]

/-- A filter-control extension holding a filter response is skipped by the
five bytes of its type, length, control type and response code, whatever its
length byte says. -/
theorem extensionLoop_controlLength (frame : List UInt8) (fuel : Nat) (bcb : Bcb)
    (position remLen : Nat) (lastExtension : byteAt frame position = 0)
    (response : byteAt frame (position + 2) = bnepFilterNetTypeResponseMsg) (room : 5 ≤ remLen) :
    extensionLoop frame (fuel + 1) (bcb, some position, remLen, true, 0) =
      (bcb.emit (.peerFilterRsp (position + 3)), some (position + 5), remLen - 5, false, 0) := by
  have notLast : ¬ (0 >>> 7 = 1) := by decide
  have afterExtLen : ¬ (remLen - 1 - 1 < 1) := by omega
  have responseBody : ¬ (remLen - 1 - 1 - 1 < 2) := by omega
  have notUnderstood : ¬ bnepFilterNetTypeResponseMsg = bnepControlCommandNotUnderstood := by decide
  have notSetupReq : ¬ bnepFilterNetTypeResponseMsg = bnepSetupConnectionRequestMsg := by decide
  have notSetupRsp : ¬ bnepFilterNetTypeResponseMsg = bnepSetupConnectionResponseMsg := by decide
  have notSet : ¬ bnepFilterNetTypeResponseMsg = bnepFilterNetTypeSetMsg := by decide
  simp only [extensionLoop, ne_eq, show remLen ≠ 0 by omega, not_false_eq_true, and_self,
    if_true, lastExtension, Nat.zero_and, not_true_eq_false, if_false, notLast,
    bnepProcessControlPacket, show ¬ (remLen - 1 < 1) by omega, afterExtLen,
    response, notUnderstood, notSetupReq, notSetupRsp, notSet, responseBody, and_false,
    decide_false, extensionLoop_stopped]
  have consumed : remLen - 1 - 1 - 1 - 2 = remLen - 5 := by omega
  rw [consumed]

/-! ## Two frames on a connected channel -/

/-- On a connected channel: a compressed Ethernet frame whose one extension
header has length 5 (a filter response and the two bytes `AA BB`) delivers
`AA BB CC`, the extension's last two bytes included; and a control frame
setting one multicast range stores it from offset 4 and indicates it at offset
16, the end of the 16-byte frame. -/
theorem bnepDataInd_extensionAndMulticast :
    let bcb : Bcb := ⟨true, false, 0, [], 0, [], none, []⟩
    let data : List UInt8 := [0x82, 0x08, 0x00, 0x00, 0x05, 0x04, 0x00, 0x00, 0xAA, 0xBB, 0xCC]
    let control : List UInt8 := [0x01, 0x05, 0x00, 0x0C, 1, 0, 0, 0, 0, 1, 1, 0, 0, 0, 0, 2]
    (bnepDataInd bcb data).2.map (·.payload) = some [0xAA, 0xBB, 0xCC] ∧
      (bnepDataInd bcb control).1.mcastFilters = [([1, 0, 0, 0, 0, 1], [1, 0, 0, 0, 0, 2])] ∧
      (bnepDataInd bcb control).1.effects =
        [.multicastFilterRsp bnepFilterCrlOk, .mfilterInd 12 16] ∧
      control.length = 16 := by
  intro bcb data control
  refine ⟨?_, ?_, ?_, rfl⟩ <;> decide

end Fluoride.BnepData
