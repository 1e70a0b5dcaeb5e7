import Fluoride.BtHdr
import Fluoride.Runs

/-!
# The HCI packet fragmenter

`hci/src/packet_fragmenter.cc` sits between the stack and the controller.
Outgoing ACL packets larger than the controller's data size are cut by
`fragment_and_dispatch` into fragments that share one buffer: after each
fragment is handed to the `fragmented` callback, the offset moves by the data
size and a continuation header is written over the last four payload bytes of
the fragment just sent. Incoming ACL fragments are glued back by
`reassemble_and_dispatch`, which keeps one partial packet per connection
handle in `partial_packets` and hands complete packets to `reassembled`.

The model follows the source statement by statement. The callbacks become the
list of `Callback` values the call emits, each carrying the buffer as it is at
the moment of the call, so a fragment is a snapshot and later writes to the
shared buffer cannot change it. The fragmenting loop has no structural measure
(with a zero data size the C loop never ends), so it runs on fuel, and `none`
means that the loop did not finish. `partial_packets` is a function from
handles to optional partial buffers. A partial buffer has `Option` cells,
`none` for a byte the allocator returned and no copy has written; a copy with a
negative count or a window outside the buffers is the failure `copyOutOfBounds`,
and a failing `CHECK` is the failure `checkFailed`.
-/

namespace Fluoride.PacketFragmenter

open ByteBuffer

/-- `HCI_ACL_PREAMBLE_SIZE`: the handle word and the length word. -/
def hciAclPreambleSize : Nat := 4

/-- `MSG_EVT_MASK`: the event class in the high byte of `event`. -/
def msgEvtMask : Nat := 0xFF00

/-- `MSG_SUB_EVT_MASK`: the controller id in the low byte of `event`. -/
def msgSubEvtMask : Nat := 0x00FF

/-- `MSG_STACK_TO_HC_HCI_ACL`: an outgoing ACL packet. -/
def msgStackToHcHciAcl : Nat := 0x2100

/-- `MSG_HC_TO_STACK_HCI_ACL`: an incoming ACL packet. -/
def msgHcToStackHciAcl : Nat := 0x1100

/-- `MSG_HC_TO_STACK_L2C_SEG_XMIT`: the event given back when L2CAP's segment
budget is used up. -/
def msgHcToStackL2cSegXmit : Nat := 0x1900

/-- `LOCAL_BR_EDR_CONTROLLER_ID`. -/
def localBrEdrControllerId : Nat := 0

/-- `HANDLE_MASK`: the connection handle without its two flag fields. -/
def handleMask : Nat := 0x0FFF

/-- `START_PACKET_BOUNDARY`: the packet boundary flag of a first fragment. -/
def startPacketBoundary : Nat := 2

/-- `L2CAP_HEADER_PDU_LEN_SIZE`. -/
def l2capHeaderPduLenSize : Nat := 2

/-- `L2CAP_HEADER_CID_SIZE`. -/
def l2capHeaderCidSize : Nat := 2

/-- `L2CAP_HEADER_SIZE`: length word and channel id. -/
def l2capHeaderSize : Nat := l2capHeaderPduLenSize + l2capHeaderCidSize

/-- `BT_DEFAULT_BUFFER_SIZE` (`internal_include/bt_target.h`). -/
def btDefaultBufferSize : Nat := 4096 + 16

/-- `APPLY_CONTINUATION_FLAG`: replace the boundary flag by `01`. -/
def applyContinuationFlag (handle : Nat) : Nat := (handle &&& 0xCFFF) ||| 0x1000

/-- `SUB_EVENT`. -/
def subEvent (event : Nat) : Nat := event &&& msgSubEvtMask

/-- `GET_BOUNDARY_FLAG`: bits 12 and 13 of the handle word. -/
def getBoundaryFlag (handle : Nat) : Nat := (handle >>> 12) &&& 0x0003

/-- The two data sizes the fragmenter asks the controller for (`uint16_t`). -/
structure Controller where
  getAclDataSizeClassic : Nat
  getAclDataSizeBle : Nat

/-- `max_data_size`: the classic or the BLE data size, by the packet's sub-event. -/
def maxDataSize (controller : Controller) (packet : BtHdr UInt8) : Nat :=
  if subEvent packet.event = localBrEdrControllerId then controller.getAclDataSizeClassic
  else controller.getAclDataSizeBle

/-- A call of one of the three `packet_fragmenter_callbacks_t` functions, with
the packet as it is at the moment of the call. -/
inductive Callback (α : Type) where
  | fragmented (packet : BtHdr α) (sendComplete : Bool)
  | transmitFinished (packet : BtHdr α) (allFragmentsSent : Bool)
  | reassembled (packet : BtHdr α)
deriving Repr, DecidableEq

/-- The body of `while (remaining_length > max_packet_size)` in
`fragment_and_dispatch`, iterated on fuel; the last fragment is the final
`fragmented(packet, true)` call after the loop. -/
def fragmentLoop (maxDataSize maxPacketSize continuationHandle : Nat) :
    Nat → BtHdr UInt8 → Nat → Option (List (Callback UInt8))
  | 0, _, _ => none
  | fuel + 1, packet, remainingLength =>
    if remainingLength > maxPacketSize then
      let sized : BtHdr UInt8 :=
        { packet with
          data := writeAt packet.data (packet.offset + 2) (le16 maxDataSize)
          len := maxPacketSize }
      let remaining := u16 (remainingLength - maxDataSize)
      let moved : BtHdr UInt8 :=
        { sized with offset := u16 (sized.offset + maxDataSize), len := remaining }
      let headed : BtHdr UInt8 :=
        { moved with
          data := writeAt moved.data moved.offset
            (le16 continuationHandle ++ le16 (u16 (remaining - hciAclPreambleSize))) }
      if headed.layerSpecific ≠ 0 then
        let counted : BtHdr UInt8 := { headed with layerSpecific := headed.layerSpecific - 1 }
        if counted.layerSpecific = 0 then
          some [.fragmented sized false,
            .transmitFinished { counted with event := msgHcToStackL2cSegXmit } false]
        else
          (fragmentLoop maxDataSize maxPacketSize continuationHandle fuel counted remaining).map
            (.fragmented sized false :: ·)
      else
        (fragmentLoop maxDataSize maxPacketSize continuationHandle fuel headed remaining).map
          (.fragmented sized false :: ·)
    else some [.fragmented packet true]

/-- `fragment_and_dispatch`: anything but an outgoing ACL packet passes through;
an ACL packet is cut to the data size of the controller its sub-event names.
`packet.len + 1` rounds of fuel cover every loop that ends. -/
def fragmentAndDispatch (controller : Controller) (packet : BtHdr UInt8) :
    Option (List (Callback UInt8)) :=
  if packet.event &&& msgEvtMask ≠ msgStackToHcHciAcl then some [.fragmented packet true]
  else
    let dataSize := maxDataSize controller packet
    let maxPacketSize := u16 (dataSize + hciAclPreambleSize)
    let continuationHandle := applyContinuationFlag (readLe16 packet.data packet.offset)
    fragmentLoop dataSize maxPacketSize continuationHandle (packet.len + 1) packet packet.len

/-- `check_uint16_overflow`: whether `a + b` leaves the 16-bit range. -/
def checkUint16Overflow (a b : Nat) : Bool := decide (65535 - (a : Int) < b)

/-- Why a call of `reassemble_and_dispatch` has no defined result: a failed
`CHECK` aborts, and a `memcpy` with a negative count or a window outside its
buffers is undefined. -/
inductive Failure where
  | checkFailed
  | copyOutOfBounds
deriving Repr, DecidableEq

/-- `partial_packets`: the partial packet kept for each connection handle. -/
abbrev PartialPackets := Nat → Option (BtHdr (Option UInt8))

/-- The reassembly buffer that `buffer_allocator->alloc` returns for a packet of
`fullLength` bytes after the first fragment is copied in and its ACL length is
rewritten; the allocator leaves every other cell unwritten. -/
def startPartial (packet : BtHdr UInt8) (fullLength : Nat) (copied : List (Option UInt8)) :
    BtHdr (Option UInt8) :=
  { event := packet.event, len := fullLength, offset := packet.len, layerSpecific := 0,
    data := writeAt copied 2 ((le16 (u16 (fullLength - hciAclPreambleSize))).map some) }

/-- The start-fragment branch of `reassemble_and_dispatch`, after the handle
has been masked and the boundary flag found to be `START_PACKET_BOUNDARY`. -/
def reassembleStart (partialPackets : PartialPackets) (packet : BtHdr UInt8)
    (handle aclLength : Nat) :
    Except Failure (PartialPackets × List (Callback (Option UInt8))) :=
  if aclLength < 2 then .ok (partialPackets, [])
  else
    let l2capLength := readLe16 packet.data 4
    let partialPackets := Function.update partialPackets handle none
    if aclLength < l2capHeaderPduLenSize then .ok (partialPackets, [])
    else
      let fullLength := u16 (l2capLength + l2capHeaderSize + hciAclPreambleSize)
      if checkUint16Overflow l2capLength (l2capHeaderSize + hciAclPreambleSize) ||
          decide (fullLength + BtHdr.headerSize > btDefaultBufferSize) then
        .ok (partialPackets, [])
      else if fullLength ≤ packet.len then .ok (partialPackets, [.reassembled packet.cells])
      else
        match copy? (List.replicate fullLength none) 0 (packet.data.map some) 0 packet.len with
        | none => .error .copyOutOfBounds
        | some copied =>
          .ok (Function.update partialPackets handle (some (startPartial packet fullLength copied)),
            [])

/-- The continuation branch of `reassemble_and_dispatch`: copy the payload
after the partial packet's offset, truncating a fragment that would pass the
expected length, and hand the packet on once its offset reaches its length. -/
def reassembleContinuation (partialPackets : PartialPackets) (packet : BtHdr UInt8)
    (handle : Nat) : Except Failure (PartialPackets × List (Callback (Option UInt8))) :=
  match partialPackets handle with
  | none => .ok (partialPackets, [])
  | some partialPacket =>
    let packet : BtHdr UInt8 := { packet with offset := hciAclPreambleSize }
    let projectedOffset :=
      u16 (partialPacket.offset + ((packet.len : Int) - hciAclPreambleSize))
    let truncated := decide (projectedOffset > partialPacket.len)
    let packet : BtHdr UInt8 :=
      if truncated then
        { packet with len := u16 ((partialPacket.len : Int) - partialPacket.offset) }
      else packet
    let projectedOffset := if truncated then partialPacket.len else projectedOffset
    match copy? partialPacket.data partialPacket.offset (packet.data.map some) packet.offset
        ((packet.len : Int) - packet.offset) with
    | none => .error .copyOutOfBounds
    | some written =>
      let partialPacket : BtHdr (Option UInt8) :=
        { partialPacket with data := written, offset := projectedOffset }
      if partialPacket.offset = partialPacket.len then
        .ok (Function.update partialPackets handle none,
          [.reassembled { partialPacket with offset := 0 }])
      else .ok (Function.update partialPackets handle (some partialPacket), [])

/-- `reassemble_and_dispatch`: read the ACL header of an incoming packet, check
its length word, and dispatch on the boundary flag; anything but an incoming
ACL packet passes through. -/
def reassembleAndDispatch (partialPackets : PartialPackets) (packet : BtHdr UInt8) :
    Except Failure (PartialPackets × List (Callback (Option UInt8))) :=
  if packet.event &&& msgEvtMask = msgHcToStackHciAcl then
    let handle := readLe16 packet.data 0
    let aclLength := readLe16 packet.data 2
    if (aclLength : Int) ≠ (packet.len : Int) - hciAclPreambleSize then .error .checkFailed
    else if getBoundaryFlag handle = startPacketBoundary then
      reassembleStart partialPackets packet (handle &&& handleMask) aclLength
    else reassembleContinuation partialPackets packet (handle &&& handleMask)
  else .ok (partialPackets, [.reassembled packet.cells])

/-- `partial_packets` after `init`: no handle has a partial packet. -/
def noPartialPackets : PartialPackets := fun _ => none

/-- Feed incoming packets to `reassemble_and_dispatch` in order. -/
def reassembleAll (partialPackets : PartialPackets) (packets : List (BtHdr UInt8)) :
    Except Failure (PartialPackets × List (Callback (Option UInt8))) :=
  Runs.run reassembleAndDispatch partialPackets packets

end Fluoride.PacketFragmenter
