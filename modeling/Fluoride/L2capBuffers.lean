import Fluoride.BtHdr

/-!
# L2CAP frame buffers

The constants of `l2c_api.h`, `l2cdefs.h` and `l2c_int.h` that the segmenters and
reassemblers of `l2c_fcr.cc` use, and `l2c_fcr_clone_buf`, which every segmenter
calls to copy the next piece of a queued SDU into a fresh buffer.

`l2c_fcr_clone_buf` computes the size it asks `osi_malloc` for in a `uint16_t`.
`l2cFcrCloneBuf_eq` says what it returns when that size fits; when it does not,
the allocation is short and the `memcpy` into it runs past its end, which the
model reports as `none` (`l2cFcrCloneBuf_overflow`).
-/

namespace Fluoride.L2capBuffers

open ByteBuffer

/-- `L2CAP_MIN_OFFSET`: HCI and L2CAP headers and the ERTM control word. -/
def l2capMinOffset : Nat := 13

/-- `L2CAP_LCC_SDU_LENGTH`: the SDU length field of a first K-frame. -/
def l2capLccSduLength : Nat := 2

/-- `L2CAP_LCC_OFFSET`: the offset of a first K-frame, room for its SDU length. -/
def l2capLccOffset : Nat := l2capMinOffset + l2capLccSduLength

/-- `L2CAP_PKT_OVERHEAD`: the basic L2CAP header, length and channel ID. -/
def l2capPktOverhead : Nat := 4

/-- `L2CAP_FCS_LEN`: the frame check sequence of an ERTM frame. -/
def l2capFcsLen : Nat := 2

/-- `L2CAP_BASE_APPL_CID`: the first channel ID `l2cu_allocate_ccb` hands out. -/
def l2capBaseApplCid : Nat := 0x0040

/-- `L2CAP_LE_MIN_MPS`: the smallest MPS a connection request may announce. -/
def l2capLeMinMps : Nat := 23

/-- `L2CAP_LE_MAX_MPS`: the largest MPS a connection request may announce. -/
def l2capLeMaxMps : Nat := 65533

/-- A basic L2CAP frame to channel `cid` carrying `information`: a window inside
its buffer, within reach of the 16-bit `offset` and `len`, that holds the payload
length, the channel ID and the payload. -/
structure IsL2capFrame (cid : Nat) (information : List UInt8) (frame : BtHdr UInt8) : Prop where
  inside : frame.offset + frame.len ≤ frame.data.length
  fits : frame.offset + frame.len < 65536
  length : frame.len = l2capPktOverhead + information.length
  contents : frame.payload = le16 information.length ++ le16 cid ++ information

/-- What `l2c_rcv_acl_data` hands to a channel: the frame's window past the basic
L2CAP header. -/
def receivedInformation (frame : BtHdr UInt8) : BtHdr UInt8 :=
  { frame with offset := frame.offset + l2capPktOverhead, len := frame.len - l2capPktOverhead }

/-- The receiver of a frame sees its information payload, inside the buffer. -/
theorem receivedInformation_payload (cid : Nat) (information : List UInt8) (frame : BtHdr UInt8)
    (isFrame : IsL2capFrame cid information frame) :
    (receivedInformation frame).payload = information ∧
      (receivedInformation frame).offset + (receivedInformation frame).len ≤ frame.data.length ∧
      (receivedInformation frame).offset + (receivedInformation frame).len < 65536 ∧
      (receivedInformation frame).len = information.length := by
  have lengthIs := isFrame.length
  have windowIs := isFrame.contents
  simp only [l2capPktOverhead] at lengthIs
  refine ⟨?_, ?_, ?_, ?_⟩
  · have dropped := congrArg (List.drop l2capPktOverhead) windowIs
    rw [BtHdr.payload, drop_window] at dropped
    simp only [receivedInformation, BtHdr.payload]
    rw [dropped]
    simp [l2capPktOverhead, le16]
  · simp only [receivedInformation, l2capPktOverhead]
    have inside := isFrame.inside
    omega
  · simp only [receivedInformation, l2capPktOverhead]
    have fits := isFrame.fits
    omega
  · simp only [receivedInformation, l2capPktOverhead]
    omega

/-- `l2c_fcr_clone_buf`: allocate `no_of_bytes + sizeof(BT_HDR) + new_offset +
L2CAP_FCS_LEN` bytes, a sum kept in a `uint16_t`, and copy `no_of_bytes` bytes of
the buffer's window to `new_offset` in the new buffer. The bytes `osi_malloc`
leaves unwritten, and the header fields the callers set afterwards, are zero. -/
def l2cFcrCloneBuf (buffer : BtHdr UInt8) (newOffset noOfBytes : Nat) : Option (BtHdr UInt8) := do
  let bufSize := (noOfBytes + BtHdr.headerSize + newOffset + l2capFcsLen) % 65536
  -- the new header's offset and len fields are written too
  if bufSize < BtHdr.headerSize then none
  let data ← copy? (List.replicate (bufSize - BtHdr.headerSize) 0) newOffset buffer.data
    buffer.offset noOfBytes
  return { event := 0, len := noOfBytes, offset := newOffset, layerSpecific := 0, data := data }

/-- When the allocation size fits in 16 bits, the clone holds the requested bytes
of the window at the new offset, with room for an FCS after them. -/
theorem l2cFcrCloneBuf_eq (buffer : BtHdr UInt8) (newOffset noOfBytes : Nat)
    (fits : noOfBytes + BtHdr.headerSize + newOffset + l2capFcsLen < 65536)
    (within : buffer.offset + noOfBytes ≤ buffer.data.length) :
    l2cFcrCloneBuf buffer newOffset noOfBytes =
      some
        { event := 0
          len := noOfBytes
          offset := newOffset
          layerSpecific := 0
          data := List.replicate newOffset 0 ++ window buffer.data buffer.offset noOfBytes ++
            List.replicate l2capFcsLen 0 } := by
  have sizeIs : (noOfBytes + BtHdr.headerSize + newOffset + l2capFcsLen) % 65536 -
      BtHdr.headerSize = newOffset + noOfBytes + l2capFcsLen := by
    rw [Nat.mod_eq_of_lt fits]
    omega
  have windowLength : (window buffer.data buffer.offset noOfBytes).length = noOfBytes :=
    length_window _ _ _ within
  have roomy : ¬ (noOfBytes + BtHdr.headerSize + newOffset + l2capFcsLen) % 65536 <
      BtHdr.headerSize := by
    rw [Nat.mod_eq_of_lt fits]
    omega
  have copied : copy? (List.replicate (newOffset + noOfBytes + l2capFcsLen) (0 : UInt8)) newOffset
      buffer.data buffer.offset noOfBytes =
      some (List.replicate newOffset 0 ++ window buffer.data buffer.offset noOfBytes ++
        List.replicate l2capFcsLen 0) := by
    rw [copy?_eq_some _ _ _ _ _ (by simp only [List.length_replicate]; omega) within]
    have split : List.replicate (newOffset + noOfBytes + l2capFcsLen) (0 : UInt8) =
        List.replicate newOffset 0 ++ List.replicate noOfBytes 0 ++ List.replicate l2capFcsLen 0 := by
      simp only [List.replicate_append_replicate]
    have overwritten := writeAt_append_of_length_eq (List.replicate newOffset (0 : UInt8))
      (List.replicate noOfBytes 0) (List.replicate l2capFcsLen 0)
      (window buffer.data buffer.offset noOfBytes) (by rw [windowLength, List.length_replicate])
    rw [List.length_replicate] at overwritten
    rw [split, overwritten]
  simp only [l2cFcrCloneBuf, roomy, ↓reduceIte, sizeIs, copied, Option.bind_eq_bind,
    Option.bind_some, Option.pure_def]

/-- When the allocation size passes `65535`, `osi_malloc` is handed the
truncated sum and the copy cannot fit in what it returns. -/
theorem l2cFcrCloneBuf_overflow (buffer : BtHdr UInt8) (newOffset noOfBytes : Nat)
    (wraps : 65536 ≤ noOfBytes + BtHdr.headerSize + newOffset + l2capFcsLen)
    (belowTwice : noOfBytes + BtHdr.headerSize + newOffset + l2capFcsLen < 131072)
    (positive : 0 < noOfBytes) :
    l2cFcrCloneBuf buffer newOffset noOfBytes = none := by
  have shortSize : (noOfBytes + BtHdr.headerSize + newOffset + l2capFcsLen) % 65536 =
      noOfBytes + BtHdr.headerSize + newOffset + l2capFcsLen - 65536 := by
    omega
  simp only [l2cFcrCloneBuf, shortSize]
  split_ifs with tooSmall
  · rfl
  · have noRoom : ¬ newOffset + noOfBytes ≤
        noOfBytes + BtHdr.headerSize + newOffset + l2capFcsLen - 65536 - BtHdr.headerSize := by
      simp only [BtHdr.headerSize, l2capFcsLen]
      omega
    simp [copy?, noRoom]

/-- A clone that succeeded had its allocation size fit in 16 bits, and holds the
requested bytes of the window at the new offset: every field inside them reads
as the field of the original. -/
theorem l2cFcrCloneBuf_some (buffer copy : BtHdr UInt8) (newOffset noOfBytes : Nat)
    (cloned : l2cFcrCloneBuf buffer newOffset noOfBytes = some copy) :
    noOfBytes + BtHdr.headerSize + newOffset + l2capFcsLen < 65536 ∧ copy.offset = newOffset ∧
      copy.len = noOfBytes ∧
      ∀ index, index + 2 ≤ noOfBytes →
        readLe16 copy.data (newOffset + index) = readLe16 buffer.data (buffer.offset + index) := by
  unfold l2cFcrCloneBuf at cloned
  simp only [Option.bind_eq_bind, Option.pure_def] at cloned
  split_ifs at cloned with tooSmall
  · simp at cloned
  rw [Option.bind_eq_some_iff] at cloned
  obtain ⟨data, copied, built⟩ := cloned
  cases built
  obtain ⟨-, inside, readable, written⟩ := copy?_some _ _ _ _ _ _ copied
  simp only [List.length_replicate, Int.toNat_natCast] at inside readable written
  refine ⟨by simp only [BtHdr.headerSize, l2capFcsLen] at inside tooSmall ⊢; omega, rfl, rfl, ?_⟩
  intro index within
  have windowLength : (window buffer.data buffer.offset noOfBytes).length = noOfBytes :=
    length_window _ _ _ readable
  rw [written, readLe16_writeAt_inside _ _ _ _ (by omega) (by simp only [List.length_replicate]; omega),
    readLe16_window_at _ _ _ _ within]

end Fluoride.L2capBuffers
