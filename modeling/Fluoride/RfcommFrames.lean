import Fluoride.BtHdr

/-!
# RFCOMM frames

`stack/rfcomm/rfc_ts_frames.cc` builds and parses the frames of the RFCOMM
multiplexer (GSM TS 07.10 as profiled by Bluetooth). A UIH frame is an address
byte (EA bit, C/R bit and the DLCI), a control byte (the frame type with the
P/F bit), a length field of one byte or, for more than 127 bytes, two, an
optional credit byte, the information field and an FCS byte computed over the
first two bytes (`rfc_calc_fcs`, `rfc_utils.cc`).

The model follows the source statement by statement. `rfcSendBufUih` writes
the header into the buffer space before the payload and the FCS after it; a
store outside the buffer is refused (`store?`), so a sender theorem shows that
every store lands in the buffer. `rfcParseData` reads the received frame
through `byteAt`, which gives `none` for any position outside the window
`[offset, offset + len)` the buffer delivers: a theorem that the parser never
returns `none` is a theorem that it reads only inside that window. The macros
of `rfcdefs.h` that the two functions use are definitions of their own.
-/

namespace Fluoride.RfcommFrames

open ByteBuffer

/-- `RFCOMM_SABME`: the frame type of a connection request. -/
def rfcommSabme : Nat := 0x2F

/-- `RFCOMM_UA`: the frame type of an acknowledgement. -/
def rfcommUa : Nat := 0x63

/-- `RFCOMM_DM`: the frame type of a disconnected-mode response. -/
def rfcommDm : Nat := 0x0F

/-- `RFCOMM_DISC`: the frame type of a disconnection request. -/
def rfcommDisc : Nat := 0x43

/-- `RFCOMM_UIH`: the frame type of data and multiplexer commands. -/
def rfcommUih : Nat := 0xEF

/-- `RFCOMM_CTRL_FRAME_LEN`: address, control and a one-byte length. -/
def rfcommCtrlFrameLen : Nat := 3

/-- `RFCOMM_EA`: the extension bit of the address and length fields. -/
def rfcommEa : Nat := 1

/-- `RFCOMM_CR_MASK`. -/
def rfcommCrMask : Nat := 0x02

/-- `RFCOMM_SHIFT_CR`. -/
def rfcommShiftCr : Nat := 1

/-- `RFCOMM_SHIFT_DLCI`. -/
def rfcommShiftDlci : Nat := 2

/-- `RFCOMM_SHIFT_DLCI2`. -/
def rfcommShiftDlci2 : Nat := 6

/-- `RFCOMM_PF`: the poll/final bit of the control byte. -/
def rfcommPf : Nat := 0x10

/-- `RFCOMM_PF_MASK`. -/
def rfcommPfMask : Nat := 0x10

/-- `RFCOMM_PF_OFFSET`. -/
def rfcommPfOffset : Nat := 4

/-- `RFCOMM_SHIFT_LENGTH1`. -/
def rfcommShiftLength1 : Nat := 1

/-- `RFCOMM_SHIFT_LENGTH2`. -/
def rfcommShiftLength2 : Nat := 7

/-- `RFCOMM_MIN_OFFSET`: the room a sender leaves before the payload for
control, length and credit bytes. -/
def rfcommMinOffset : Nat := 5

/-- `RFCOMM_MAX_DLCI`. -/
def rfcommMaxDlci : Nat := 61

/-- `RFCOMM_MX_DLCI`: the multiplexer control channel. -/
def rfcommMxDlci : Nat := 0

/-- `PORT_FC_CREDIT` (`port_int.h`): credit based flow control. -/
def portFcCredit : Nat := 2

/-- `RFCOMM_CR(initiator, is_command)`: the C/R bit, in place, of a frame sent by
the initiator or the responder. -/
def rfcommCr (initiator isCommand : Bool) : Nat :=
  (if (initiator && isCommand) || (!initiator && !isCommand) then 1 else 0) <<< 1

/-- `RFCOMM_FRAME_IS_CMD(initiator, cr)`. -/
def rfcommFrameIsCmd (initiator : Bool) (cr : Nat) : Bool :=
  (initiator && cr == 0) || (!initiator && cr != 0)

/-- `RFCOMM_FRAME_IS_RSP(initiator, cr)`. -/
def rfcommFrameIsRsp (initiator : Bool) (cr : Nat) : Bool :=
  (initiator && cr != 0) || (!initiator && cr == 0)

/-- `RFCOMM_VALID_DLCI(dlci)`: the control channel or a DLCI from 2 to 61. -/
def rfcommValidDlci (dlci : Nat) : Bool :=
  dlci == 0 || (2 ≤ dlci && dlci ≤ rfcommMaxDlci)

/-- `rfc_crctable`: the reversed CRC-8 table of polynomial `0x07`. -/
def rfcCrctable : List UInt8 := [
    0x00, 0x91, 0xE3, 0x72, 0x07, 0x96, 0xE4, 0x75, 0x0E, 0x9F, 0xED,
    0x7C, 0x09, 0x98, 0xEA, 0x7B, 0x1C, 0x8D, 0xFF, 0x6E, 0x1B, 0x8A,
    0xF8, 0x69, 0x12, 0x83, 0xF1, 0x60, 0x15, 0x84, 0xF6, 0x67, 0x38,
    0xA9, 0xDB, 0x4A, 0x3F, 0xAE, 0xDC, 0x4D, 0x36, 0xA7, 0xD5, 0x44,
    0x31, 0xA0, 0xD2, 0x43, 0x24, 0xB5, 0xC7, 0x56, 0x23, 0xB2, 0xC0,
    0x51, 0x2A, 0xBB, 0xC9, 0x58, 0x2D, 0xBC, 0xCE, 0x5F, 0x70, 0xE1,
    0x93, 0x02, 0x77, 0xE6, 0x94, 0x05, 0x7E, 0xEF, 0x9D, 0x0C, 0x79,
    0xE8, 0x9A, 0x0B, 0x6C, 0xFD, 0x8F, 0x1E, 0x6B, 0xFA, 0x88, 0x19,
    0x62, 0xF3, 0x81, 0x10, 0x65, 0xF4, 0x86, 0x17, 0x48, 0xD9, 0xAB,
    0x3A, 0x4F, 0xDE, 0xAC, 0x3D, 0x46, 0xD7, 0xA5, 0x34, 0x41, 0xD0,
    0xA2, 0x33, 0x54, 0xC5, 0xB7, 0x26, 0x53, 0xC2, 0xB0, 0x21, 0x5A,
    0xCB, 0xB9, 0x28, 0x5D, 0xCC, 0xBE, 0x2F, 0xE0, 0x71, 0x03, 0x92,
    0xE7, 0x76, 0x04, 0x95, 0xEE, 0x7F, 0x0D, 0x9C, 0xE9, 0x78, 0x0A,
    0x9B, 0xFC, 0x6D, 0x1F, 0x8E, 0xFB, 0x6A, 0x18, 0x89, 0xF2, 0x63,
    0x11, 0x80, 0xF5, 0x64, 0x16, 0x87, 0xD8, 0x49, 0x3B, 0xAA, 0xDF,
    0x4E, 0x3C, 0xAD, 0xD6, 0x47, 0x35, 0xA4, 0xD1, 0x40, 0x32, 0xA3,
    0xC4, 0x55, 0x27, 0xB6, 0xC3, 0x52, 0x20, 0xB1, 0xCA, 0x5B, 0x29,
    0xB8, 0xCD, 0x5C, 0x2E, 0xBF, 0x90, 0x01, 0x73, 0xE2, 0x97, 0x06,
    0x74, 0xE5, 0x9E, 0x0F, 0x7D, 0xEC, 0x99, 0x08, 0x7A, 0xEB, 0x8C,
    0x1D, 0x6F, 0xFE, 0x8B, 0x1A, 0x68, 0xF9, 0x82, 0x13, 0x61, 0xF0,
    0x85, 0x14, 0x66, 0xF7, 0xA8, 0x39, 0x4B, 0xDA, 0xAF, 0x3E, 0x4C,
    0xDD, 0xA6, 0x37, 0x45, 0xD4, 0xA1, 0x30, 0x42, 0xD3, 0xB4, 0x25,
    0x57, 0xC6, 0xB3, 0x22, 0x50, 0xC1, 0xBA, 0x2B, 0x59, 0xC8, 0xBD,
    0x2C, 0x5E, 0xCF]

/-- One table step `rfc_crctable[fcs ^ byte]`. -/
def crcStep (fcs byte : UInt8) : UInt8 := rfcCrctable.getD (fcs ^^^ byte).toNat 0

/-- The loop `while (len--) fcs = rfc_crctable[fcs ^ *p++]` from `0xFF`. -/
def crcRun (bytes : List UInt8) : UInt8 := bytes.foldl crcStep 0xFF

/-- `rfc_calc_fcs`: the ones' complement of the CRC of the bytes. -/
def rfcCalcFcs (bytes : List UInt8) : UInt8 := 0xFF - crcRun bytes

/-- `rfc_check_fcs`: the CRC of the bytes followed by the received FCS is `0xCF`. -/
def rfcCheckFcs (bytes : List UInt8) (receivedFcs : UInt8) : Bool :=
  crcStep (crcRun bytes) receivedFcs == 0xCF

/-- The events `rfc_parse_data` returns (`RFC_EVENT_*` of `rfc_int.h`). -/
inductive RfcEvent where
  | sabme
  | ua
  | dm
  | disc
  | uih
  | badFrame
deriving Repr, DecidableEq

/-- The fields of `tRFC_MCB` the two functions read. -/
structure RfcMcb where
  isInitiator : Bool
  flow : Nat

/-- The fields of `MX_FRAME` that `rfc_parse_data` fills in. -/
structure MxFrame where
  dlci : Nat
  type : Nat
  cr : Nat
  pf : Nat
  credit : Nat
deriving Repr, DecidableEq

/-- `rfc_send_buf_uih`: prepend the UIH header to the payload the buffer
holds, carrying the credits in `layer_specific` when the DLCI is not the
control channel, and append the FCS over the address and control bytes. -/
def rfcSendBufUih (mcb : RfcMcb) (dlci : Nat) (buffer : BtHdr UInt8) : Option (BtHdr UInt8) := do
  let cr := rfcommCr mcb.isInitiator true
  let offset := u16 ((buffer.offset : Int) - rfcommCtrlFrameLen)
  let offset := if buffer.len > 127 then u16 ((offset : Int) - 1) else offset
  let credits := if dlci ≠ 0 then buffer.layerSpecific % 256 else 0
  let offset := if credits ≠ 0 then u16 ((offset : Int) - 1) else offset
  -- the stores through p_data, in order
  let address := UInt8.ofNat (rfcommEa ||| cr ||| (dlci <<< rfcommShiftDlci))
  let control := UInt8.ofNat (rfcommUih ||| (if credits ≠ 0 then rfcommPf else 0))
  let lengthField :=
    if buffer.len ≤ 127 then [UInt8.ofNat (rfcommEa ||| (buffer.len <<< 1))]
    else [UInt8.ofNat ((buffer.len &&& 0x7f) <<< 1), UInt8.ofNat (buffer.len >>> rfcommShiftLength2)]
  let len := if buffer.len ≤ 127 then u16 (buffer.len + 3) else u16 (buffer.len + 4)
  let creditField := if credits ≠ 0 then [UInt8.ofNat credits] else []
  let len := if credits ≠ 0 then u16 (len + 1) else len
  let data ← store? buffer.data offset ([address, control] ++ lengthField ++ creditField)
  let data ← store? data (offset + len) [rfcCalcFcs (window data offset 2)]
  return { buffer with offset := offset, len := u16 (len + 1), data := data }

/-- `RFCOMM_PARSE_CTRL_FIELD`: the EA bit, the C/R bit and the DLCI of the
address field, and the position after it. A second address byte is read when
EA is clear. -/
def parseCtrlField (byteAt : Nat → Option UInt8) : Option (Nat × Nat × Nat × Nat) := do
  let address ← byteAt 0
  let ea := address.toNat &&& rfcommEa
  let cr := (address.toNat &&& rfcommCrMask) >>> rfcommShiftCr
  let dlci := address.toNat >>> rfcommShiftDlci
  if ea = 0 then
    let extension ← byteAt 1
    return (ea, cr, (dlci + (extension.toNat <<< rfcommShiftDlci2)) % 256, 2)
  else return (ea, cr, dlci, 1)

/-- `RFCOMM_PARSE_TYPE_FIELD`: the frame type without the P/F bit, and the P/F bit. -/
def parseTypeField (control : UInt8) : Nat × Nat :=
  (control.toNat &&& 0xEF, (control.toNat &&& rfcommPfMask) >>> rfcommPfOffset)

/-- The `switch (p_frame->type)` of `rfc_parse_data`: the checks of each frame
type, the FCS checked last over the first two (UIH) or three bytes. -/
def rfcFrameEvent (mcb : RfcMcb) (frame : MxFrame) (len : Nat) (fcs : UInt8)
    (byteAt : Nat → Option UInt8) : Option RfcEvent := do
  let headerBytes := fun count => (List.range count).mapM byteAt
  if frame.type = rfcommSabme then
    if rfcommFrameIsRsp mcb.isInitiator frame.cr || frame.pf == 0 || len != 0 ||
        !rfcommValidDlci frame.dlci then return .badFrame
    else if rfcCheckFcs (← headerBytes rfcommCtrlFrameLen) fcs then return .sabme
    else return .badFrame
  else if frame.type = rfcommUa then
    if rfcommFrameIsCmd mcb.isInitiator frame.cr || frame.pf == 0 || len != 0 ||
        !rfcommValidDlci frame.dlci then return .badFrame
    else if rfcCheckFcs (← headerBytes rfcommCtrlFrameLen) fcs then return .ua
    else return .badFrame
  else if frame.type = rfcommDm then
    if rfcommFrameIsCmd mcb.isInitiator frame.cr || len != 0 ||
        !rfcommValidDlci frame.dlci then return .badFrame
    else if rfcCheckFcs (← headerBytes rfcommCtrlFrameLen) fcs then return .dm
    else return .badFrame
  else if frame.type = rfcommDisc then
    if rfcommFrameIsRsp mcb.isInitiator frame.cr || frame.pf == 0 || len != 0 ||
        !rfcommValidDlci frame.dlci then return .badFrame
    else if rfcCheckFcs (← headerBytes rfcommCtrlFrameLen) fcs then return .disc
    else return .badFrame
  else if frame.type = rfcommUih then
    if !rfcommValidDlci frame.dlci then return .badFrame
    -- a response is accepted too, "to allow bad implementations to work"
    else if rfcCheckFcs (← headerBytes 2) fcs then return .uih
    else return .badFrame
  else return .badFrame

/-- `rfc_parse_data`: parse the header of a received frame into `frame`, leave
the buffer's window on the information field, and return the event the frame
raises. `none` is a read outside the received window. -/
def rfcParseData (mcb : RfcMcb) (frame : MxFrame) (buffer : BtHdr UInt8) :
    Option (RfcEvent × MxFrame × BtHdr UInt8) := do
  let byteAt := fun index => buffer.payload[index]?
  if buffer.len < rfcommCtrlFrameLen then return (.badFrame, frame, buffer)
  let (ead, cr, dlci, position) ← parseCtrlField byteAt
  let frame := { frame with cr := cr, dlci := dlci }
  if ead = 0 then return (.badFrame, frame, buffer)
  let (type, pf) := parseTypeField (← byteAt position)
  let frame := { frame with type := type, pf := pf }
  let lengthByte ← byteAt (position + 1)
  let eal := lengthByte.toNat &&& rfcommEa
  let mut len := lengthByte.toNat >>> rfcommShiftLength1
  let mut position := position + 2
  if eal = 0 ∧ buffer.len > rfcommCtrlFrameLen then
    len := (len + ((← byteAt position).toNat <<< rfcommShiftLength2)) % 65536
    position := position + 1
  else if eal = 0 then
    return (.badFrame, frame, buffer)
  let headerLength := 3 + (if ead = 0 then 1 else 0) + (if eal = 0 then 1 else 0)
  if buffer.len < headerLength + 1 then return (.badFrame, frame, buffer)
  let mut buffer := { buffer with
    len := buffer.len - (headerLength + 1)
    offset := u16 (buffer.offset + headerLength) }
  let mut frame := frame
  if mcb.flow = portFcCredit ∧ frame.type = rfcommUih ∧ frame.dlci ≠ rfcommMxDlci ∧
      frame.pf = 1 then
    if buffer.len < 1 then return (.badFrame, frame, buffer)
    frame := { frame with credit := (← byteAt position).toNat }
    position := position + 1
    buffer := { buffer with len := buffer.len - 1, offset := u16 (buffer.offset + 1) }
  else
    frame := { frame with credit := 0 }
  if buffer.len ≠ len then return (.badFrame, frame, buffer)
  let fcs ← byteAt (position + len)
  return (← rfcFrameEvent mcb frame len fcs byteAt, frame, buffer)

end Fluoride.RfcommFrames
