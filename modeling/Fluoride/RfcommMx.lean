import Fluoride.RfcommUih
import Fluoride.L2capBuffers

/-!
# Multiplexer control messages

The control channel (DLCI 0) of an RFCOMM multiplexer carries the messages of
GSM TS 07.10: parameter negotiation (PN), modem status (MSC), remote line status
(RLS), remote port negotiation (RPN), flow control on and off (FCON, FCOFF),
the non-supported-command response (NSC) and the echo test (TEST). Each
`rfc_send_*` of `rfc_ts_frames.cc` writes a type byte (EA, C/R and the type), a
one-byte length and the message's fields into a fresh buffer and hands it to
`rfc_send_buf_uih`; `rfc_process_mx_message` reads the type, a length of one
or two bytes and the fields, and calls the handler of the message, or frees
the buffer, answering with NSC when the message was a command it could not use.

The builders share one body (`sendMxMessage`), applied by each to its type, its
length constant and its fields as the source writes them; `rfc_send_test`
keeps its own, since it writes its header in front of the caller's buffer.
The receiver is cut at the header (`mxHeader`) and at the switch on the type
(`mxDispatch`, one decoder per message). Buffers from `osi_malloc` are zeroed
here: no byte outside the window the functions write is ever read.

Every message a builder makes is read back by the peer, through
`rfc_send_buf_uih` and `rfc_parse_data`, as the same message with the same
fields, with three exceptions: a TEST payload of 128 bytes or more, whose
length `rfc_send_test` writes as one byte, so that the peer reads a different
length and drops the frame; an NSC, which `rfc_send_nsc` sends as a response
while `rfc_process_mx_message` accepts it only as a command; and fields outside
their masks, which the builders truncate.
-/

namespace Fluoride.RfcommMx

open ByteBuffer RfcommFrames RfcommUih L2capBuffers

/-! ## The constants of `rfcdefs.h`, `rfc_int.h`, `port_int.h` and `bt_target.h` -/

/-- `RFCOMM_EA_MASK`. -/
def rfcommEaMask : Nat := 0x01

/-- `RFCOMM_I_CR(is_command)`: the C/R bit of a multiplexer message, in place. -/
def rfcommICr (isCommand : Bool) : Nat := if isCommand then 0x02 else 0x00

/-- `RFCOMM_MX_PN`. -/
def rfcommMxPn : Nat := 0x80

/-- `RFCOMM_MX_PN_LEN`. -/
def rfcommMxPnLen : Nat := 8

/-- `RFCOMM_MX_TEST`. -/
def rfcommMxTest : Nat := 0x20

/-- `RFCOMM_MX_FCON`. -/
def rfcommMxFcon : Nat := 0xA0

/-- `RFCOMM_MX_FCON_LEN`. -/
def rfcommMxFconLen : Nat := 0

/-- `RFCOMM_MX_FCOFF`. -/
def rfcommMxFcoff : Nat := 0x60

/-- `RFCOMM_MX_FCOFF_LEN`. -/
def rfcommMxFcoffLen : Nat := 0

/-- `RFCOMM_MX_MSC`. -/
def rfcommMxMsc : Nat := 0xE0

/-- `RFCOMM_MX_MSC_LEN_NO_BREAK`. -/
def rfcommMxMscLenNoBreak : Nat := 2

/-- `RFCOMM_MX_MSC_LEN_WITH_BREAK`. -/
def rfcommMxMscLenWithBreak : Nat := 3

/-- `RFCOMM_MX_NSC`. -/
def rfcommMxNsc : Nat := 0x10

/-- `RFCOMM_MX_NSC_LEN`. -/
def rfcommMxNscLen : Nat := 1

/-- `RFCOMM_MX_RPN`. -/
def rfcommMxRpn : Nat := 0x90

/-- `RFCOMM_MX_RPN_REQ_LEN`. -/
def rfcommMxRpnReqLen : Nat := 1

/-- `RFCOMM_MX_RPN_LEN`. -/
def rfcommMxRpnLen : Nat := 8

/-- `RFCOMM_MX_RLS`. -/
def rfcommMxRls : Nat := 0x50

/-- `RFCOMM_MX_RLS_LEN`. -/
def rfcommMxRlsLen : Nat := 2

/-- `RFCOMM_PN_DLCI_MASK`. -/
def rfcommPnDlciMask : Nat := 0x3F

/-- `RFCOMM_PN_FRAM_TYPE_UIH`. -/
def rfcommPnFramTypeUih : Nat := 0x00

/-- `RFCOMM_PN_FRAME_TYPE_MASK`. -/
def rfcommPnFrameTypeMask : Nat := 0x0F

/-- `RFCOMM_PN_CONV_LAYER_MASK`. -/
def rfcommPnConvLayerMask : Nat := 0xF0

/-- `RFCOMM_PN_PRIORITY_MASK`. -/
def rfcommPnPriorityMask : Nat := 0x3F

/-- `RFCOMM_PN_PRIORITY_0`. -/
def rfcommPnPriority0 : Nat := 0

/-- `RFCOMM_PN_K_MASK`. -/
def rfcommPnKMask : Nat := 0x07

/-- `RFCOMM_T1_DSEC`: not negotiable in RFCOMM. -/
def rfcommT1Dsec : Nat := 0

/-- `RFCOMM_N2`: the number of retransmissions. -/
def rfcommN2 : Nat := 0

/-- `RFCOMM_MIN_MTU`. -/
def rfcommMinMtu : Nat := 23

/-- `RFCOMM_MAX_MTU`. -/
def rfcommMaxMtu : Nat := 32767

/-- `RFCOMM_MSC_FC`: flow control. -/
def rfcommMscFc : Nat := 0x02

/-- `RFCOMM_MSC_RTC`: ready to communicate. -/
def rfcommMscRtc : Nat := 0x04

/-- `RFCOMM_MSC_RTR`: ready to receive. -/
def rfcommMscRtr : Nat := 0x08

/-- `RFCOMM_MSC_IC`: incoming call. -/
def rfcommMscIc : Nat := 0x40

/-- `RFCOMM_MSC_DV`: data valid. -/
def rfcommMscDv : Nat := 0x80

/-- `RFCOMM_MSC_SHIFT_BREAK`. -/
def rfcommMscShiftBreak : Nat := 4

/-- `RFCOMM_MSC_BREAK_MASK`. -/
def rfcommMscBreakMask : Nat := 0xF0

/-- `RFCOMM_MSC_BREAK_PRESENT_MASK`. -/
def rfcommMscBreakPresentMask : Nat := 0x02

/-- `RFCOMM_RPN_BITS_MASK`. -/
def rfcommRpnBitsMask : Nat := 0x03

/-- `RFCOMM_RPN_BITS_SHIFT`. -/
def rfcommRpnBitsShift : Nat := 0

/-- `RFCOMM_RPN_STOP_BITS_MASK`. -/
def rfcommRpnStopBitsMask : Nat := 0x01

/-- `RFCOMM_RPN_STOP_BITS_SHIFT`. -/
def rfcommRpnStopBitsShift : Nat := 2

/-- `RFCOMM_RPN_PARITY_MASK`. -/
def rfcommRpnParityMask : Nat := 0x01

/-- `RFCOMM_RPN_PARITY_SHIFT`. -/
def rfcommRpnParityShift : Nat := 3

/-- `RFCOMM_RPN_PARITY_TYPE_MASK`. -/
def rfcommRpnParityTypeMask : Nat := 0x03

/-- `RFCOMM_RPN_PARITY_TYPE_SHIFT`. -/
def rfcommRpnParityTypeShift : Nat := 4

/-- `RFCOMM_FC_MASK`. -/
def rfcommFcMask : Nat := 0x3F

/-- `RFCOMM_RPN_PM_MASK`: the parameter mask bits that RPN defines. -/
def rfcommRpnPmMask : Nat := 0x3F7F

/-- `RFCOMM_RLS_ERROR`. -/
def rfcommRlsError : Nat := 0x01

/-- `MODEM_SIGNAL_DTRDSR`. -/
def modemSignalDtrdsr : Nat := 0x01

/-- `MODEM_SIGNAL_RTSCTS`. -/
def modemSignalRtscts : Nat := 0x02

/-- `MODEM_SIGNAL_RI`. -/
def modemSignalRi : Nat := 0x04

/-- `MODEM_SIGNAL_DCD`. -/
def modemSignalDcd : Nat := 0x08

/-- `RFCOMM_CMD_BUF_SIZE`: `BT_SMALL_BUFFER_SIZE`, the `BT_HDR` included. -/
def rfcommCmdBufSize : Nat := 660

/-! ## The builders -/

/-- The fields of `tPORT_CTRL` that `rfc_send_msc` reads. -/
structure PortCtrl where
  modemSignal : Nat
  breakSignal : Nat
  fc : Bool
deriving Repr, DecidableEq

/-- The fields of `tPORT_STATE` that `rfc_send_rpn` reads. -/
structure PortState where
  baudRate : Nat
  byteSize : Nat
  stopBits : Nat
  parity : Nat
  parityType : Nat
  fcType : Nat
  xonChar : Nat
  xoffChar : Nat
deriving Repr, DecidableEq

/-- `*p_data++ = RFCOMM_EA | RFCOMM_I_CR(is_command) | type`. -/
def mxTypeByte (isCommand : Bool) (type : Nat) : UInt8 :=
  UInt8.ofNat (rfcommEa ||| rfcommICr isCommand ||| type)

/-- `*p_data++ = RFCOMM_EA | (len << 1)`: the length, in one byte. -/
def mxLengthByte (len : Nat) : UInt8 :=
  UInt8.ofNat (rfcommEa ||| (len <<< 1))

/-- `RFCOMM_EA | RFCOMM_CR_MASK | (dlci << RFCOMM_SHIFT_DLCI)`: the DLCI a message is about. -/
def mxDlciByte (dlci : Nat) : UInt8 :=
  UInt8.ofNat (rfcommEa ||| rfcommCrMask ||| (dlci <<< rfcommShiftDlci))

/-- The buffer an `rfc_send_*` allocates with `RFCOMM_CMD_BUF_SIZE` bytes, with
the message stored from `L2CAP_MIN_OFFSET + RFCOMM_CTRL_FRAME_LEN` on and `len`
set as the builder sets it. -/
def mxCommandBuffer (message : List UInt8) (len : Nat) : BtHdr UInt8 :=
  { event := 0, len := len, offset := l2capMinOffset + rfcommCtrlFrameLen, layerSpecific := 0,
    data := writeAt (List.replicate (rfcommCmdBufSize - BtHdr.headerSize) 0)
      (l2capMinOffset + rfcommCtrlFrameLen) message }

/-- The body every builder but `rfc_send_test` shares: the type byte, the length
byte, the fields, `len` as the fields' length constant plus the two header
bytes, and the frame sent on the control channel. -/
def sendMxMessage (mcb : RfcMcb) (isCommand : Bool) (type length : Nat) (fields : List UInt8) :
    Option (BtHdr UInt8) :=
  rfcSendBufUih mcb rfcommMxDlci
    (mxCommandBuffer (mxTypeByte isCommand type :: mxLengthByte length :: fields) (length + 2))

/-- `rfc_send_pn`. A response repeats the priority of the PN just received
(`rfc_cb.rfc.rx_frame.u.pn.priority`), which is `receivedPriority` here. -/
def rfcSendPn (mcb : RfcMcb) (dlci : Nat) (isCommand : Bool) (mtu cl k receivedPriority : Nat) :
    Option (BtHdr UInt8) :=
  sendMxMessage mcb isCommand rfcommMxPn rfcommMxPnLen
    [UInt8.ofNat dlci, UInt8.ofNat (rfcommPnFramTypeUih ||| cl),
      UInt8.ofNat (if isCommand then rfcommPnPriority0 else receivedPriority),
      UInt8.ofNat rfcommT1Dsec, UInt8.ofNat (mtu &&& 0xFF), UInt8.ofNat (mtu >>> 8),
      UInt8.ofNat rfcommN2, UInt8.ofNat k]

/-- `rfc_send_fcon`. -/
def rfcSendFcon (mcb : RfcMcb) (isCommand : Bool) : Option (BtHdr UInt8) :=
  sendMxMessage mcb isCommand rfcommMxFcon rfcommMxFconLen []

/-- `rfc_send_fcoff`. -/
def rfcSendFcoff (mcb : RfcMcb) (isCommand : Bool) : Option (BtHdr UInt8) :=
  sendMxMessage mcb isCommand rfcommMxFcoff rfcommMxFcoffLen []

/-- The signals byte of `rfc_send_msc`: EA, then one bit for the flow control
flag and for each of the four modem signals. -/
def mscSignalsByte (pars : PortCtrl) : UInt8 :=
  UInt8.ofNat (rfcommEa ||| (if pars.fc then rfcommMscFc else 0) |||
    (if pars.modemSignal &&& modemSignalDtrdsr ≠ 0 then rfcommMscRtc else 0) |||
    (if pars.modemSignal &&& modemSignalRtscts ≠ 0 then rfcommMscRtr else 0) |||
    (if pars.modemSignal &&& modemSignalRi ≠ 0 then rfcommMscIc else 0) |||
    (if pars.modemSignal &&& modemSignalDcd ≠ 0 then rfcommMscDv else 0))

/-- `rfc_send_msc`: the break octet is there when the break duration is not zero. -/
def rfcSendMsc (mcb : RfcMcb) (dlci : Nat) (isCommand : Bool) (pars : PortCtrl) :
    Option (BtHdr UInt8) :=
  let len := if pars.breakSignal ≠ 0 then rfcommMxMscLenWithBreak else rfcommMxMscLenNoBreak
  sendMxMessage mcb isCommand rfcommMxMsc len
    ([mxDlciByte dlci, mscSignalsByte pars] ++
      (if pars.breakSignal ≠ 0 then
        [UInt8.ofNat (rfcommEa ||| rfcommMscBreakPresentMask |||
          (pars.breakSignal <<< rfcommMscShiftBreak))]
      else []))

/-- `rfc_send_rls`. -/
def rfcSendRls (mcb : RfcMcb) (dlci : Nat) (isCommand : Bool) (status : Nat) :
    Option (BtHdr UInt8) :=
  sendMxMessage mcb isCommand rfcommMxRls rfcommMxRlsLen
    [mxDlciByte dlci, UInt8.ofNat (rfcommRlsError ||| status)]

/-- `rfc_send_nsc`: a response naming the type byte of the frame just received
(`rfc_cb.rfc.rx_frame`'s `ea`, `cr` and `type`). -/
def rfcSendNsc (mcb : RfcMcb) (rxEa rxCr rxType : Nat) : Option (BtHdr UInt8) :=
  sendMxMessage mcb false rfcommMxNsc rfcommMxNscLen
    [UInt8.ofNat (rxEa ||| (rxCr <<< rfcommShiftCr) ||| rxType)]

/-- `rfc_send_rpn`: the request form without settings, or the full form. -/
def rfcSendRpn (mcb : RfcMcb) (dlci : Nat) (isCommand : Bool) (pars : Option PortState)
    (mask : Nat) : Option (BtHdr UInt8) :=
  match pars with
  | none => sendMxMessage mcb isCommand rfcommMxRpn rfcommMxRpnReqLen [mxDlciByte dlci]
  | some pars =>
    sendMxMessage mcb isCommand rfcommMxRpn rfcommMxRpnLen
      [mxDlciByte dlci, UInt8.ofNat pars.baudRate,
        UInt8.ofNat ((pars.byteSize <<< rfcommRpnBitsShift) |||
          (pars.stopBits <<< rfcommRpnStopBitsShift) |||
          (pars.parity <<< rfcommRpnParityShift) |||
          (pars.parityType <<< rfcommRpnParityTypeShift)),
        UInt8.ofNat pars.fcType, UInt8.ofNat pars.xonChar, UInt8.ofNat pars.xoffChar,
        UInt8.ofNat (mask &&& 0xFF), UInt8.ofNat (mask >>> 8)]

/-- `rfc_send_test`: the caller's payload moves to a new buffer when there is no
room for the headers before it, the type byte and a one-byte length go in
front of it, and the frame is sent on the control channel. -/
def rfcSendTest (mcb : RfcMcb) (isCommand : Bool) (buffer : BtHdr UInt8) : Option (BtHdr UInt8) := do
  let buffer ← if buffer.offset < l2capMinOffset + rfcommMinOffset + 2 then do
      -- the new buffer has `len + 29` bytes with the `BT_HDR`, the payload copied to offset 20
      let data ← copy? (List.replicate (buffer.len + (l2capMinOffset + rfcommMinOffset + 2 + 1)) 0)
        (l2capMinOffset + rfcommMinOffset + 2) buffer.data buffer.offset buffer.len
      pure ⟨0, buffer.len, l2capMinOffset + rfcommMinOffset + 2, 0, data⟩
    else pure buffer
  let offset := u16 ((buffer.offset : Int) - 2)
  let data ← store? buffer.data offset [mxTypeByte isCommand rfcommMxTest, mxLengthByte buffer.len]
  rfcSendBufUih mcb rfcommMxDlci { buffer with offset, data, len := u16 (buffer.len + 2) }

/-! ## The receiver -/

/-- The settings of a full RPN, as `MX_FRAME`'s `u.rpn` holds them. -/
structure RpnSettings where
  baudRate : Nat
  byteSize : Nat
  stopBits : Nat
  parity : Nat
  parityType : Nat
  fcType : Nat
  xonChar : Nat
  xoffChar : Nat
  paramMask : Nat
deriving Repr, DecidableEq

/-- The fields of `MX_FRAME` a message fills in, by message type. A TEST carries
the bytes `u.test` points at and the window of the buffer handed on to the
echo or to `rfc_process_test_rsp`. -/
inductive MxMessage where
  | pn (dlci frameType convLayer priority t1 mtu n2 k : Nat)
  | test (data handedOn : List UInt8)
  | fcon
  | fcoff
  | msc (dlci signals breakPresent breakDuration : Nat)
  | nsc (ea cr type : Nat)
  | rpn (dlci : Nat) (settings : Option RpnSettings)
  | rls (dlci lineStatus : Nat)
deriving Repr, DecidableEq

/-- What `rfc_process_mx_message` does with a frame: call the handler of the
message, free it without a word, or free it after the switch, which answers a
command with NSC. -/
inductive MxOutcome where
  | processed (isCommand : Bool) (message : MxMessage)
  | dropped
  | refused (isCommand : Bool)
deriving Repr, DecidableEq

/-- The header of a message as `rfc_process_mx_message` reads it: the C/R bit,
the type, the length field and the bytes after the header. -/
structure MxHeader where
  isCommand : Bool
  type : Nat
  mxLen : Nat
  length : Nat
  position : Nat
deriving Repr, DecidableEq

/-- The header checks of `rfc_process_mx_message` on the window `payload` of
`len` bytes: `none` is a read outside the window, `some none` a frame freed
before the switch. `mx_len` is a `uint8_t`, so a two-byte length is taken
modulo 256. -/
def mxHeader (payload : List UInt8) (len : Nat) : Option (Option MxHeader) := do
  if len < 2 then return none
  let typeByte ← payload[0]?
  let ea := typeByte.toNat &&& rfcommEa
  let cr := (typeByte.toNat &&& rfcommCrMask) >>> rfcommShiftCr
  -- `~(RFCOMM_CR_MASK | RFCOMM_EA_MASK)` on a byte
  let type := typeByte.toNat &&& (0xFF ^^^ (rfcommCrMask ||| rfcommEaMask))
  if ea = 0 ∨ len = 0 then return none
  let lengthByte ← payload[1]?
  let mxLen := lengthByte.toNat >>> rfcommShiftLength1
  if lengthByte.toNat &&& rfcommEa = 0 then
    if len - 2 < 1 then return none
    let high ← payload[2]?
    let mxLen := (mxLen + (high.toNat <<< rfcommShiftLength2)) % 256
    if mxLen ≠ len - 3 then return none
    return some ⟨cr ≠ 0, type, mxLen, len - 3, 3⟩
  else
    if mxLen ≠ len - 2 then return none
    return some ⟨cr ≠ 0, type, mxLen, len - 2, 2⟩

/-- The EA bit, the C/R bit and the DLCI of the first field of MSC, RPN and RLS. -/
def dlciField (byte : UInt8) : Nat × Nat × Nat :=
  (byte.toNat &&& rfcommEa, (byte.toNat &&& rfcommCrMask) >>> rfcommShiftCr,
    byte.toNat >>> rfcommShiftDlci)

/-- The checks of that field: EA and C/R set, and a valid DLCI other than 0. -/
def dlciFieldOk (byte : UInt8) : Bool :=
  let (ea, cr, dlci) := dlciField byte
  ea ≠ 0 && cr ≠ 0 && dlci ≠ 0 && rfcommValidDlci dlci

/-- `case RFCOMM_MX_PN`. -/
def processPn (isCommand : Bool) (length : Nat) (fields : List UInt8) : Option MxOutcome := do
  if length ≠ rfcommMxPnLen then return .refused isCommand
  let dlci := (← fields[0]?).toNat &&& rfcommPnDlciMask
  let frameType := (← fields[1]?).toNat &&& rfcommPnFrameTypeMask
  let convLayer := (← fields[1]?).toNat &&& rfcommPnConvLayerMask
  let priority := (← fields[2]?).toNat &&& rfcommPnPriorityMask
  let t1 := (← fields[3]?).toNat
  let mtu := (← fields[4]?).toNat + ((← fields[5]?).toNat <<< 8)
  let n2 := (← fields[6]?).toNat
  let k := (← fields[7]?).toNat &&& rfcommPnKMask
  if dlci = 0 ∨ !rfcommValidDlci dlci ∨ mtu < rfcommMinMtu ∨ mtu > rfcommMaxMtu then
    return .refused isCommand
  return .processed isCommand (.pn dlci frameType convLayer priority t1 mtu n2 k)

/-- `case RFCOMM_MX_TEST`: the handler gets the buffer moved on by two bytes. -/
def processTest (isCommand : Bool) (length : Nat) (fields payload : List UInt8) : Option MxOutcome :=
  if length = 0 then some (.refused isCommand)
  else some (.processed isCommand (.test (fields.take length) (payload.drop 2)))

/-- `case RFCOMM_MX_MSC`: a bad length frees the frame without an answer. -/
def processMsc (isCommand : Bool) (mxLen length : Nat) (fields : List UInt8) : Option MxOutcome := do
  if length ≠ rfcommMxMscLenWithBreak ∧ length ≠ rfcommMxMscLenNoBreak then return .dropped
  let first ← fields[0]?
  if !dlciFieldOk first then return .refused isCommand
  let signals := (← fields[1]?).toNat
  if mxLen = rfcommMxMscLenWithBreak then
    let breakByte ← fields[2]?
    return .processed isCommand (.msc (dlciField first).2.2 signals
      (breakByte.toNat &&& rfcommMscBreakPresentMask)
      ((breakByte.toNat &&& rfcommMscBreakMask) >>> rfcommMscShiftBreak))
  else return .processed isCommand (.msc (dlciField first).2.2 signals 0 0)

/-- `case RFCOMM_MX_NSC`: only a command is taken. -/
def processNsc (isCommand : Bool) (length : Nat) (fields : List UInt8) : Option MxOutcome := do
  if length ≠ rfcommMxNscLen ∨ !isCommand then return .refused isCommand
  let byte ← fields[0]?
  return .processed isCommand (.nsc (byte.toNat &&& rfcommEa)
    ((byte.toNat &&& rfcommCrMask) >>> rfcommShiftCr) (byte.toNat >>> rfcommShiftDlci))

/-- `case RFCOMM_MX_RPN`: one byte is a request, eight bytes carry the settings. -/
def processRpn (isCommand : Bool) (length : Nat) (fields : List UInt8) : Option MxOutcome := do
  if length ≠ rfcommMxRpnReqLen ∧ length ≠ rfcommMxRpnLen then return .refused isCommand
  let first ← fields[0]?
  if !dlciFieldOk first then return .refused isCommand
  if length = rfcommMxRpnReqLen then
    return .processed isCommand (.rpn (dlciField first).2.2 none)
  let bits := (← fields[2]?).toNat
  let settings : RpnSettings :=
    { baudRate := (← fields[1]?).toNat
      byteSize := (bits >>> rfcommRpnBitsShift) &&& rfcommRpnBitsMask
      stopBits := (bits >>> rfcommRpnStopBitsShift) &&& rfcommRpnStopBitsMask
      parity := (bits >>> rfcommRpnParityShift) &&& rfcommRpnParityMask
      parityType := (bits >>> rfcommRpnParityTypeShift) &&& rfcommRpnParityTypeMask
      fcType := (← fields[3]?).toNat &&& rfcommFcMask
      xonChar := (← fields[4]?).toNat
      xoffChar := (← fields[5]?).toNat
      paramMask := ((← fields[6]?).toNat + ((← fields[7]?).toNat <<< 8)) &&& rfcommRpnPmMask }
  return .processed isCommand (.rpn (dlciField first).2.2 (some settings))

/-- `case RFCOMM_MX_RLS`: the line status without its error bit. -/
def processRls (isCommand : Bool) (length : Nat) (fields : List UInt8) : Option MxOutcome := do
  if length ≠ rfcommMxRlsLen then return .refused isCommand
  let first ← fields[0]?
  let lineStatus := (← fields[1]?).toNat &&& (0xFF ^^^ 0x01)
  if !dlciFieldOk first then return .refused isCommand
  return .processed isCommand (.rls (dlciField first).2.2 lineStatus)

/-- The `switch (p_rx_frame->type)` of `rfc_process_mx_message`, on the bytes
after the header. -/
def mxDispatch (payload : List UInt8) (header : MxHeader) : Option MxOutcome :=
  let fields := payload.drop header.position
  if header.type = rfcommMxPn then processPn header.isCommand header.length fields
  else if header.type = rfcommMxTest then processTest header.isCommand header.length fields payload
  else if header.type = rfcommMxFcon then
    some (if header.length ≠ rfcommMxFconLen then .refused header.isCommand
      else .processed header.isCommand .fcon)
  else if header.type = rfcommMxFcoff then
    some (if header.length ≠ rfcommMxFcoffLen then .refused header.isCommand
      else .processed header.isCommand .fcoff)
  else if header.type = rfcommMxMsc then
    processMsc header.isCommand header.mxLen header.length fields
  else if header.type = rfcommMxNsc then processNsc header.isCommand header.length fields
  else if header.type = rfcommMxRpn then processRpn header.isCommand header.length fields
  else if header.type = rfcommMxRls then processRls header.isCommand header.length fields
  else some (.refused header.isCommand)

/-- `rfc_process_mx_message` on the window `[offset, offset + len)` that
`rfc_parse_data` left on the information field. -/
def rfcProcessMxMessage (buffer : BtHdr UInt8) : Option MxOutcome := do
  match ← mxHeader buffer.payload buffer.len with
  | none => return .dropped
  | some header => mxDispatch buffer.payload header

/-! ## Fields read back

Each byte a builder writes is a few fields packed by shifts and ors; the
receiver takes them apart by masks and shifts. On the domains the fields have,
the two agree, which a finite check over each domain shows. -/

/-- The type byte gives back EA set, the C/R bit of the command flag and the
type, for every type that leaves the two low bits free. -/
theorem mxTypeByte_fields (isCommand : Bool) (type : Nat) (aligned : type % 4 = 0)
    (small : type < 256) :
    (mxTypeByte isCommand type).toNat &&& rfcommEa = 1 ∧
      ((mxTypeByte isCommand type).toNat &&& rfcommCrMask) >>> rfcommShiftCr =
        (if isCommand then 1 else 0) ∧
      (mxTypeByte isCommand type).toNat &&& (0xFF ^^^ (rfcommCrMask ||| rfcommEaMask)) = type := by
  have everySlot : ∀ slot : Fin 64, ∀ isCommand : Bool,
      (mxTypeByte isCommand (4 * slot.val)).toNat &&& rfcommEa = 1 ∧
      ((mxTypeByte isCommand (4 * slot.val)).toNat &&& rfcommCrMask) >>> rfcommShiftCr =
        (if isCommand then 1 else 0) ∧
      (mxTypeByte isCommand (4 * slot.val)).toNat &&& (0xFF ^^^ (rfcommCrMask ||| rfcommEaMask)) =
        4 * slot.val := by
    decide
  have fields := everySlot ⟨type / 4, by omega⟩ isCommand
  rwa [show 4 * (type / 4) = type by omega] at fields

/-- The length byte has EA set and reads back as the length below 128: a
length of 128 or more loses its top bits in the one byte it is written in. -/
theorem mxLengthByte_fields (len : Nat) :
    (mxLengthByte len).toNat &&& rfcommEa = 1 ∧
      (mxLengthByte len).toNat >>> rfcommShiftLength1 = len % 128 := by
  have everyResidue : ∀ residue : Fin 128,
      (mxLengthByte residue.val).toNat &&& rfcommEa = 1 ∧
        (mxLengthByte residue.val).toNat >>> rfcommShiftLength1 = residue.val := by
    decide
  have packed (value : Nat) : rfcommEa ||| (value <<< 1) = 2 * value + 1 := by
    rw [rfcommEa, Nat.or_comm, ← Nat.shiftLeft_add_eq_or_of_lt (by decide : 1 < 2 ^ 1),
      Nat.shiftLeft_eq]
    omega
  have sameByte : mxLengthByte len = mxLengthByte (len % 128) := by
    apply UInt8.toNat_inj.mp
    simp only [mxLengthByte, UInt8.toNat_ofNat', packed]
    omega
  rw [sameByte]
  exact everyResidue ⟨len % 128, Nat.mod_lt _ (by decide)⟩

/-- The DLCI byte of MSC, RPN and RLS gives back EA and C/R set and the DLCI. -/
theorem dlciField_mxDlciByte (dlci : Nat) (small : dlci < 64) :
    dlciField (mxDlciByte dlci) = (1, 1, dlci) := by
  have everyDlci : ∀ dlci : Fin 64, dlciField (mxDlciByte dlci.val) = (1, 1, dlci.val) := by
    decide
  exact everyDlci ⟨dlci, small⟩

/-- A DLCI byte for a data channel passes the receiver's checks. -/
theorem dlciFieldOk_mxDlciByte (dlci : Nat) (dataChannel : 2 ≤ dlci ∧ dlci ≤ rfcommMaxDlci) :
    dlciFieldOk (mxDlciByte dlci) = true := by
  have small : dlci < 64 := by simp only [rfcommMaxDlci] at dataChannel; omega
  simp only [dlciFieldOk, dlciField_mxDlciByte dlci small]
  simp only [rfcommValidDlci, rfcommMaxDlci] at dataChannel ⊢
  simp [dataChannel.1, dataChannel.2]
  omega

/-! ## The header and the channel -/

/-- A message of fewer than 128 bytes after a type byte and its one-byte
length passes the header checks with the C/R bit, the type and the length it
was written with. -/
theorem mxHeader_oneByte (isCommand : Bool) (type : Nat) (fields : List UInt8)
    (aligned : type % 4 = 0) (small : type < 256) (short : fields.length < 128) :
    mxHeader (mxTypeByte isCommand type :: mxLengthByte fields.length :: fields) (fields.length + 2) =
      some (some ⟨isCommand, type, fields.length, fields.length, 2⟩) := by
  obtain ⟨eaSet, crRead, typeRead⟩ := mxTypeByte_fields isCommand type aligned small
  obtain ⟨lengthEa, lengthRead⟩ := mxLengthByte_fields fields.length
  rw [Nat.mod_eq_of_lt short] at lengthRead
  have commandRead : decide ((if isCommand then 1 else 0) ≠ 0) = isCommand := by
    cases isCommand <;> rfl
  simp only [mxHeader, List.getElem?_cons_zero, List.getElem?_cons_succ, eaSet, crRead, typeRead,
    lengthEa, lengthRead, commandRead, Option.bind_eq_bind, Option.bind_some, Option.pure_def,
    Nat.add_sub_cancel, Nat.one_ne_zero, Nat.add_eq_zero_iff, Nat.reduceEqDiff, and_false,
    false_or, ↓reduceIte,
    show ¬ fields.length + 2 < 2 by omega, ne_eq, not_true_eq_false]

/-- What the peer makes of a frame a builder returns: `rfc_parse_data` takes it
as a UIH frame on the control channel, and `rfc_process_mx_message` then does
`outcome`. -/
def PeerReads (receiver : RfcMcb) (frame : MxFrame) (built : Option (BtHdr UInt8))
    (outcome : MxOutcome) : Prop :=
  ∃ sent parsedFrame parsedBuffer, built = some sent ∧
    rfcParseData receiver frame sent = some (.uih, parsedFrame, parsedBuffer) ∧
    parsedFrame.dlci = rfcommMxDlci ∧ rfcProcessMxMessage parsedBuffer = some outcome

/-- A buffer sent on the control channel reaches the other side's
`rfc_process_mx_message` as the window it was sent with, whatever the other
side's flow control: the receiver does what it would do with that window. -/
theorem rfcSendBufUih_peerReads (sender receiver : RfcMcb) (frame : MxFrame) (buffer : BtHdr UInt8)
    (outcome : MxOutcome) (oppositeRoles : receiver.isInitiator = !sender.isInitiator)
    (headroom : rfcommMinOffset ≤ buffer.offset)
    (room : buffer.offset + buffer.len + 1 ≤ buffer.data.length)
    (shortPayload : buffer.len ≤ 32767) (offsetFits : buffer.offset + buffer.len + 1 < 65536)
    (processed : rfcProcessMxMessage buffer = some outcome) :
    PeerReads receiver frame (rfcSendBufUih sender rfcommMxDlci buffer) outcome := by
  obtain ⟨sent, parsedFrame, parsedBuffer, built, parsed, onControl, -, -, -, sameLength,
    samePayload⟩ := rfcSendBufUih_rfcParseData sender receiver frame rfcommMxDlci buffer rfl
      (.inr rfl) (.inr rfl) oppositeRoles headroom room shortPayload offsetFits
  refine ⟨sent, parsedFrame, parsedBuffer, built, parsed, onControl, ?_⟩
  rw [← processed]
  simp only [rfcProcessMxMessage, samePayload, sameLength]

/-- A command buffer: the message at offset 16 of 652 bytes, and `len` as given. -/
theorem mxCommandBuffer_layout (message : List UInt8) (len : Nat) (fits : message.length ≤ 636) :
    (mxCommandBuffer message len).offset = 16 ∧ (mxCommandBuffer message len).data.length = 652 ∧
      (mxCommandBuffer message len).len = len := by
  have blockLength : (List.replicate (rfcommCmdBufSize - BtHdr.headerSize) (0 : UInt8)).length = 652 :=
    List.length_replicate
  refine ⟨rfl, ?_, rfl⟩
  simp only [mxCommandBuffer]
  rw [length_writeAt _ _ _ (by rw [blockLength]; simp only [l2capMinOffset, rfcommCtrlFrameLen]; omega),
    blockLength]

/-- The window of a command buffer is the message stored in it. -/
theorem payload_mxCommandBuffer (message : List UInt8) :
    (mxCommandBuffer message message.length).payload = message := by
  have blockLength : (List.replicate (rfcommCmdBufSize - BtHdr.headerSize) (0 : UInt8)).length = 652 :=
    List.length_replicate
  exact window_writeAt_self _ _ _ (by rw [blockLength]; decide)

/-- A message the shared builder body writes, with fewer than 128 bytes of
fields, is read by the peer's header checks as written, and then dispatched. -/
theorem sendMxMessage_peerReads (sender receiver : RfcMcb) (frame : MxFrame) (isCommand : Bool)
    (type length : Nat) (fields : List UInt8) (outcome : MxOutcome)
    (oppositeRoles : receiver.isInitiator = !sender.isInitiator)
    (aligned : type % 4 = 0) (small : type < 256) (sameLength : fields.length = length)
    (short : length < 128)
    (dispatched : mxDispatch (mxTypeByte isCommand type :: mxLengthByte length :: fields)
      ⟨isCommand, type, length, length, 2⟩ = some outcome) :
    PeerReads receiver frame (sendMxMessage sender isCommand type length fields) outcome := by
  subst sameLength
  have messageLength :
      (mxTypeByte isCommand type :: mxLengthByte fields.length :: fields).length = fields.length + 2 :=
    rfl
  have bufferPayload := payload_mxCommandBuffer
    (mxTypeByte isCommand type :: mxLengthByte fields.length :: fields)
  rw [messageLength] at bufferPayload
  obtain ⟨atOffset, dataLength, bufferLen⟩ := mxCommandBuffer_layout
    (mxTypeByte isCommand type :: mxLengthByte fields.length :: fields) (fields.length + 2)
    (by rw [messageLength]; omega)
  apply rfcSendBufUih_peerReads sender receiver frame _ outcome oppositeRoles
  · rw [atOffset]; decide
  · rw [atOffset, dataLength, bufferLen]; omega
  · rw [bufferLen]; omega
  · rw [atOffset, bufferLen]; omega
  · rw [rfcProcessMxMessage, bufferPayload, bufferLen, mxHeader_oneByte isCommand type fields aligned
      small short]
    exact dispatched

/-! ## Each message read back -/

/-- A value below `2 ^ width` stored in a byte reads back through the mask of
its `width` bits. -/
theorem ofNat_and_mask (value width : Nat) (small : value < 2 ^ width) (narrow : width ≤ 8) :
    (UInt8.ofNat value).toNat &&& (2 ^ width - 1) = value := by
  have byteSized : value < UInt8.size := by
    have := Nat.pow_le_pow_right (by decide : 0 < 2) narrow
    simp only [UInt8.size]
    omega
  rw [UInt8.toNat_ofNat_of_lt' byteSized, Nat.and_two_pow_sub_one_eq_mod, Nat.mod_eq_of_lt small]

/-- A 16-bit value stored low byte first reads back from its two bytes. -/
theorem ofNat_le16 (value : Nat) (small : value < 65536) :
    (UInt8.ofNat (value &&& 0xFF)).toNat + ((UInt8.ofNat (value >>> 8)).toNat <<< 8) = value := by
  rw [show (0xFF : Nat) = 2 ^ 8 - 1 from rfl, Nat.and_two_pow_sub_one_eq_mod, Nat.shiftRight_eq_div_pow,
    Nat.shiftLeft_eq, UInt8.toNat_ofNat', UInt8.toNat_ofNat']
  omega

/-- The second byte of PN: the frame type UIH in the low nibble and a
convergence layer in the high nibble, each read back by its mask. -/
theorem convLayer_fields (cl : Nat) (small : cl < 256) (highNibble : cl % 16 = 0) :
    (UInt8.ofNat (rfcommPnFramTypeUih ||| cl)).toNat &&& rfcommPnFrameTypeMask = rfcommPnFramTypeUih ∧
      (UInt8.ofNat (rfcommPnFramTypeUih ||| cl)).toNat &&& rfcommPnConvLayerMask = cl := by
  have everyLayer : ∀ layer : Fin 16,
      (UInt8.ofNat (rfcommPnFramTypeUih ||| 16 * layer.val)).toNat &&& rfcommPnFrameTypeMask =
        rfcommPnFramTypeUih ∧
      (UInt8.ofNat (rfcommPnFramTypeUih ||| 16 * layer.val)).toNat &&& rfcommPnConvLayerMask =
        16 * layer.val := by
    decide
  have fields := everyLayer ⟨cl / 16, by omega⟩
  rwa [show 16 * (cl / 16) = cl by omega] at fields

/-- PN, as `rfc_process_mx_message` reads its eight bytes. -/
theorem processPn_fields (isCommand : Bool) (dlci cl priority mtu k : Nat)
    (dataChannel : 2 ≤ dlci ∧ dlci ≤ rfcommMaxDlci) (small : cl < 256) (highNibble : cl % 16 = 0)
    (priorityBound : priority ≤ rfcommPnPriorityMask)
    (mtuRange : rfcommMinMtu ≤ mtu ∧ mtu ≤ rfcommMaxMtu) (kBound : k ≤ rfcommPnKMask) :
    processPn isCommand rfcommMxPnLen
        [UInt8.ofNat dlci, UInt8.ofNat (rfcommPnFramTypeUih ||| cl), UInt8.ofNat priority,
          UInt8.ofNat rfcommT1Dsec, UInt8.ofNat (mtu &&& 0xFF), UInt8.ofNat (mtu >>> 8),
          UInt8.ofNat rfcommN2, UInt8.ofNat k] =
      some (.processed isCommand
        (.pn dlci rfcommPnFramTypeUih cl priority rfcommT1Dsec mtu rfcommN2 k)) := by
  simp only [rfcommMaxDlci, rfcommPnPriorityMask, rfcommMinMtu, rfcommMaxMtu, rfcommPnKMask]
    at dataChannel priorityBound mtuRange kBound
  have dlciRead : (UInt8.ofNat dlci).toNat &&& rfcommPnDlciMask = dlci :=
    ofNat_and_mask dlci 6 (by omega) (by decide)
  have priorityRead : (UInt8.ofNat priority).toNat &&& rfcommPnPriorityMask = priority :=
    ofNat_and_mask priority 6 (by omega) (by decide)
  have kRead : (UInt8.ofNat k).toNat &&& rfcommPnKMask = k := ofNat_and_mask k 3 (by omega) (by decide)
  obtain ⟨frameTypeRead, layerRead⟩ := convLayer_fields cl small highNibble
  have mtuRead := ofNat_le16 mtu (by omega)
  have constantsRead : (UInt8.ofNat rfcommT1Dsec).toNat = rfcommT1Dsec ∧
      (UInt8.ofNat rfcommN2).toNat = rfcommN2 := by decide
  have validDlci : rfcommValidDlci dlci = true := by
    rw [rfcommValidDlci_iff, rfcommMaxDlci]
    omega
  have accepted : ¬ (dlci = 0 ∨ (!rfcommValidDlci dlci) = true ∨ mtu < rfcommMinMtu ∨
      mtu > rfcommMaxMtu) := by
    simp only [validDlci, Bool.not_true, Bool.false_eq_true, false_or, rfcommMinMtu, rfcommMaxMtu]
    omega
  simp only [processPn, List.getElem?_cons_zero, List.getElem?_cons_succ, Option.bind_eq_bind,
    Option.bind_some, Option.pure_def, ne_eq, not_true_eq_false, ↓reduceIte, dlciRead, priorityRead,
    kRead, frameTypeRead, layerRead, mtuRead, constantsRead, if_neg accepted]

/-- A PN with a data channel's DLCI, an MTU in range, a convergence layer, a
window `k` in its three bits and, for a response, the priority received, is
read by the peer as that PN. -/
theorem rfcSendPn_peerReads (sender receiver : RfcMcb) (frame : MxFrame) (dlci : Nat)
    (isCommand : Bool) (mtu cl k receivedPriority : Nat)
    (oppositeRoles : receiver.isInitiator = !sender.isInitiator)
    (dataChannel : 2 ≤ dlci ∧ dlci ≤ rfcommMaxDlci)
    (mtuRange : rfcommMinMtu ≤ mtu ∧ mtu ≤ rfcommMaxMtu) (small : cl < 256)
    (highNibble : cl % 16 = 0) (kBound : k ≤ rfcommPnKMask)
    (priorityBound : receivedPriority ≤ rfcommPnPriorityMask) :
    PeerReads receiver frame (rfcSendPn sender dlci isCommand mtu cl k receivedPriority)
      (.processed isCommand (.pn dlci rfcommPnFramTypeUih cl
        (if isCommand then rfcommPnPriority0 else receivedPriority) rfcommT1Dsec mtu rfcommN2 k)) := by
  apply sendMxMessage_peerReads sender receiver frame isCommand rfcommMxPn rfcommMxPnLen _ _
    oppositeRoles (by decide) (by decide) rfl (by decide)
  have priority : (if isCommand then rfcommPnPriority0 else receivedPriority) ≤ rfcommPnPriorityMask := by
    split
    · decide
    · exact priorityBound
  simp only [mxDispatch, List.drop_succ_cons, List.drop_zero, ↓reduceIte]
  exact processPn_fields isCommand dlci cl _ mtu k dataChannel small highNibble priority mtuRange kBound

/-- FCON is read by the peer as FCON, with the C/R bit it was sent with. -/
theorem rfcSendFcon_peerReads (sender receiver : RfcMcb) (frame : MxFrame) (isCommand : Bool)
    (oppositeRoles : receiver.isInitiator = !sender.isInitiator) :
    PeerReads receiver frame (rfcSendFcon sender isCommand) (.processed isCommand .fcon) :=
  sendMxMessage_peerReads sender receiver frame isCommand rfcommMxFcon rfcommMxFconLen [] _
    oppositeRoles (by decide) (by decide) rfl (by decide) rfl

/-- FCOFF is read by the peer as FCOFF, with the C/R bit it was sent with. -/
theorem rfcSendFcoff_peerReads (sender receiver : RfcMcb) (frame : MxFrame) (isCommand : Bool)
    (oppositeRoles : receiver.isInitiator = !sender.isInitiator) :
    PeerReads receiver frame (rfcSendFcoff sender isCommand) (.processed isCommand .fcoff) :=
  sendMxMessage_peerReads sender receiver frame isCommand rfcommMxFcoff rfcommMxFcoffLen [] _
    oppositeRoles (by decide) (by decide) rfl (by decide) rfl

/-- The signals byte of MSC carries the flow control flag and each modem signal
in a bit of its own. -/
theorem mscSignalsByte_bits (pars : PortCtrl) :
    ((mscSignalsByte pars).toNat &&& rfcommMscFc ≠ 0 ↔ pars.fc = true) ∧
      ((mscSignalsByte pars).toNat &&& rfcommMscRtc ≠ 0 ↔
        pars.modemSignal &&& modemSignalDtrdsr ≠ 0) ∧
      ((mscSignalsByte pars).toNat &&& rfcommMscRtr ≠ 0 ↔
        pars.modemSignal &&& modemSignalRtscts ≠ 0) ∧
      ((mscSignalsByte pars).toNat &&& rfcommMscIc ≠ 0 ↔ pars.modemSignal &&& modemSignalRi ≠ 0) ∧
      ((mscSignalsByte pars).toNat &&& rfcommMscDv ≠ 0 ↔ pars.modemSignal &&& modemSignalDcd ≠ 0) := by
  -- the byte depends on five conditions only: try each of their 32 values
  unfold mscSignalsByte
  by_cases fc : pars.fc = true <;>
    by_cases dtr : pars.modemSignal &&& modemSignalDtrdsr ≠ 0 <;>
    by_cases rts : pars.modemSignal &&& modemSignalRtscts ≠ 0 <;>
    by_cases ri : pars.modemSignal &&& modemSignalRi ≠ 0 <;>
    by_cases dcd : pars.modemSignal &&& modemSignalDcd ≠ 0 <;>
    simp only [ne_eq, fc, dtr, rts, ri, dcd, if_true, if_false, Bool.false_eq_true, iff_true,
      iff_false, not_false_eq_true, Decidable.not_not] <;>
    decide

/-- The break octet of MSC gives back a break duration of four bits, marked present. -/
theorem breakByte_fields (duration : Nat) (fourBits : duration ≤ 15) :
    (UInt8.ofNat (rfcommEa ||| rfcommMscBreakPresentMask ||| (duration <<< rfcommMscShiftBreak))).toNat &&&
        rfcommMscBreakPresentMask = rfcommMscBreakPresentMask ∧
      ((UInt8.ofNat (rfcommEa ||| rfcommMscBreakPresentMask |||
        (duration <<< rfcommMscShiftBreak))).toNat &&& rfcommMscBreakMask) >>> rfcommMscShiftBreak =
        duration := by
  have everyDuration : ∀ duration : Fin 16,
      (UInt8.ofNat (rfcommEa ||| rfcommMscBreakPresentMask |||
        (duration.val <<< rfcommMscShiftBreak))).toNat &&& rfcommMscBreakPresentMask =
          rfcommMscBreakPresentMask ∧
      ((UInt8.ofNat (rfcommEa ||| rfcommMscBreakPresentMask |||
        (duration.val <<< rfcommMscShiftBreak))).toNat &&& rfcommMscBreakMask) >>> rfcommMscShiftBreak =
          duration.val := by
    decide
  exact everyDuration ⟨duration, by omega⟩

/-- An MSC for a data channel with a break duration of at most 15 is read by the
peer with its DLCI, its signals byte and its break. -/
theorem rfcSendMsc_peerReads (sender receiver : RfcMcb) (frame : MxFrame) (dlci : Nat)
    (isCommand : Bool) (pars : PortCtrl)
    (oppositeRoles : receiver.isInitiator = !sender.isInitiator)
    (dataChannel : 2 ≤ dlci ∧ dlci ≤ rfcommMaxDlci) (breakBound : pars.breakSignal ≤ 15) :
    PeerReads receiver frame (rfcSendMsc sender dlci isCommand pars)
      (.processed isCommand (.msc dlci (mscSignalsByte pars).toNat
        (if pars.breakSignal ≠ 0 then rfcommMscBreakPresentMask else 0) pars.breakSignal)) := by
  have small : dlci < 64 := by simp only [rfcommMaxDlci] at dataChannel; omega
  have dlciOk := dlciFieldOk_mxDlciByte dlci dataChannel
  have dlciRead := dlciField_mxDlciByte dlci small
  unfold rfcSendMsc
  by_cases withBreak : pars.breakSignal ≠ 0
  · obtain ⟨presentRead, durationRead⟩ := breakByte_fields pars.breakSignal breakBound
    dsimp only
    rw [if_pos withBreak, if_pos withBreak, if_pos withBreak]
    apply sendMxMessage_peerReads sender receiver frame isCommand rfcommMxMsc
      rfcommMxMscLenWithBreak _ _ oppositeRoles (by decide) (by decide) rfl (by decide)
    simp only [mxDispatch, List.drop_succ_cons, List.drop_zero, processMsc, List.cons_append,
      List.nil_append, List.getElem?_cons_zero, List.getElem?_cons_succ, dlciOk, dlciRead,
      presentRead, durationRead, Option.bind_eq_bind, Option.bind_some, Option.pure_def,
      Bool.not_true, Bool.false_eq_true, ↓reduceIte]
    rfl
  · have noBreak : pars.breakSignal = 0 := by omega
    dsimp only
    rw [if_neg withBreak, if_neg withBreak, if_neg withBreak, List.append_nil, noBreak]
    apply sendMxMessage_peerReads sender receiver frame isCommand rfcommMxMsc
      rfcommMxMscLenNoBreak _ _ oppositeRoles (by decide) (by decide) rfl (by decide)
    simp only [mxDispatch, List.drop_succ_cons, List.drop_zero, processMsc,
      List.getElem?_cons_zero, List.getElem?_cons_succ, dlciOk, dlciRead, Option.bind_eq_bind,
      Option.bind_some, Option.pure_def, Bool.not_true, Bool.false_eq_true, ↓reduceIte]
    rfl

/-- The line status byte of RLS gives back a status whose error bit is clear. -/
theorem lineStatus_fields (status : Nat) (small : status < 256) (noErrorBit : status % 2 = 0) :
    (UInt8.ofNat (rfcommRlsError ||| status)).toNat &&& (0xFF ^^^ 0x01) = status := by
  have everyStatus : ∀ half : Fin 128,
      (UInt8.ofNat (rfcommRlsError ||| 2 * half.val)).toNat &&& (0xFF ^^^ 0x01) = 2 * half.val := by
    decide
  have read := everyStatus ⟨status / 2, by omega⟩
  rwa [show 2 * (status / 2) = status by omega] at read

/-- An RLS for a data channel is read by the peer with its DLCI and its line
status, the error bit that the sender adds taken off again. -/
theorem rfcSendRls_peerReads (sender receiver : RfcMcb) (frame : MxFrame) (dlci : Nat)
    (isCommand : Bool) (status : Nat)
    (oppositeRoles : receiver.isInitiator = !sender.isInitiator)
    (dataChannel : 2 ≤ dlci ∧ dlci ≤ rfcommMaxDlci) (small : status < 256)
    (noErrorBit : status % 2 = 0) :
    PeerReads receiver frame (rfcSendRls sender dlci isCommand status)
      (.processed isCommand (.rls dlci status)) := by
  have dlciSmall : dlci < 64 := by simp only [rfcommMaxDlci] at dataChannel; omega
  have dlciOk := dlciFieldOk_mxDlciByte dlci dataChannel
  have dlciRead := dlciField_mxDlciByte dlci dlciSmall
  have statusRead := lineStatus_fields status small noErrorBit
  apply sendMxMessage_peerReads sender receiver frame isCommand rfcommMxRls rfcommMxRlsLen _ _
    oppositeRoles (by decide) (by decide) rfl (by decide)
  simp only [mxDispatch, List.drop_succ_cons, List.drop_zero, processRls, List.getElem?_cons_zero,
    List.getElem?_cons_succ, dlciOk, dlciRead, statusRead, Option.bind_eq_bind, Option.bind_some,
    Option.pure_def, Bool.not_true, Bool.false_eq_true, ↓reduceIte]
  rfl

/-- The format byte of RPN gives back the data bits, stop bits, parity and
parity type, each inside its mask. -/
theorem rpnFormat_fields (byteSize stopBits parity parityType : Nat) (bitsBound : byteSize ≤ 3)
    (stopBound : stopBits ≤ 1) (parityBound : parity ≤ 1) (typeBound : parityType ≤ 3) :
    let format := (UInt8.ofNat ((byteSize <<< rfcommRpnBitsShift) |||
      (stopBits <<< rfcommRpnStopBitsShift) ||| (parity <<< rfcommRpnParityShift) |||
      (parityType <<< rfcommRpnParityTypeShift))).toNat
    (format >>> rfcommRpnBitsShift) &&& rfcommRpnBitsMask = byteSize ∧
      (format >>> rfcommRpnStopBitsShift) &&& rfcommRpnStopBitsMask = stopBits ∧
      (format >>> rfcommRpnParityShift) &&& rfcommRpnParityMask = parity ∧
      (format >>> rfcommRpnParityTypeShift) &&& rfcommRpnParityTypeMask = parityType := by
  have everyFormat : ∀ byteSize : Fin 4, ∀ stopBits : Fin 2, ∀ parity : Fin 2, ∀ parityType : Fin 4,
      let format := (UInt8.ofNat ((byteSize.val <<< rfcommRpnBitsShift) |||
        (stopBits.val <<< rfcommRpnStopBitsShift) ||| (parity.val <<< rfcommRpnParityShift) |||
        (parityType.val <<< rfcommRpnParityTypeShift))).toNat
      (format >>> rfcommRpnBitsShift) &&& rfcommRpnBitsMask = byteSize.val ∧
        (format >>> rfcommRpnStopBitsShift) &&& rfcommRpnStopBitsMask = stopBits.val ∧
        (format >>> rfcommRpnParityShift) &&& rfcommRpnParityMask = parity.val ∧
        (format >>> rfcommRpnParityTypeShift) &&& rfcommRpnParityTypeMask = parityType.val := by
    decide
  exact everyFormat ⟨byteSize, by omega⟩ ⟨stopBits, by omega⟩ ⟨parity, by omega⟩
    ⟨parityType, by omega⟩

/-- An RPN request for a data channel is read by the peer as a request for that DLCI. -/
theorem rfcSendRpn_request_peerReads (sender receiver : RfcMcb) (frame : MxFrame) (dlci : Nat)
    (isCommand : Bool) (mask : Nat) (oppositeRoles : receiver.isInitiator = !sender.isInitiator)
    (dataChannel : 2 ≤ dlci ∧ dlci ≤ rfcommMaxDlci) :
    PeerReads receiver frame (rfcSendRpn sender dlci isCommand none mask)
      (.processed isCommand (.rpn dlci none)) := by
  have dlciSmall : dlci < 64 := by simp only [rfcommMaxDlci] at dataChannel; omega
  have dlciOk := dlciFieldOk_mxDlciByte dlci dataChannel
  have dlciRead := dlciField_mxDlciByte dlci dlciSmall
  apply sendMxMessage_peerReads sender receiver frame isCommand rfcommMxRpn rfcommMxRpnReqLen _ _
    oppositeRoles (by decide) (by decide) rfl (by decide)
  simp only [mxDispatch, List.drop_succ_cons, List.drop_zero, processRpn, List.getElem?_cons_zero,
    dlciOk, dlciRead, Option.bind_eq_bind, Option.bind_some, Option.pure_def, Bool.not_true,
    Bool.false_eq_true, ↓reduceIte]
  rfl

/-- A full RPN for a data channel, with every setting inside its mask and a
parameter mask of the bits RPN defines, is read by the peer with the same
settings and mask. -/
theorem rfcSendRpn_settings_peerReads (sender receiver : RfcMcb) (frame : MxFrame) (dlci : Nat)
    (isCommand : Bool) (pars : PortState) (mask : Nat)
    (oppositeRoles : receiver.isInitiator = !sender.isInitiator)
    (dataChannel : 2 ≤ dlci ∧ dlci ≤ rfcommMaxDlci) (baudBound : pars.baudRate < 256)
    (bitsBound : pars.byteSize ≤ rfcommRpnBitsMask) (stopBound : pars.stopBits ≤ rfcommRpnStopBitsMask)
    (parityBound : pars.parity ≤ rfcommRpnParityMask)
    (typeBound : pars.parityType ≤ rfcommRpnParityTypeMask) (fcBound : pars.fcType ≤ rfcommFcMask)
    (xonBound : pars.xonChar < 256) (xoffBound : pars.xoffChar < 256) (maskBound : mask < 65536)
    (definedBits : mask &&& rfcommRpnPmMask = mask) :
    PeerReads receiver frame (rfcSendRpn sender dlci isCommand (some pars) mask)
      (.processed isCommand (.rpn dlci (some ⟨pars.baudRate, pars.byteSize, pars.stopBits,
        pars.parity, pars.parityType, pars.fcType, pars.xonChar, pars.xoffChar, mask⟩))) := by
  have dlciSmall : dlci < 64 := by simp only [rfcommMaxDlci] at dataChannel; omega
  have dlciOk := dlciFieldOk_mxDlciByte dlci dataChannel
  have dlciRead := dlciField_mxDlciByte dlci dlciSmall
  obtain ⟨bitsRead, stopRead, parityRead, typeRead⟩ := rpnFormat_fields pars.byteSize pars.stopBits
    pars.parity pars.parityType bitsBound stopBound parityBound typeBound
  have fcRead : (UInt8.ofNat pars.fcType).toNat &&& rfcommFcMask = pars.fcType :=
    ofNat_and_mask _ 6 (by simp only [rfcommFcMask] at fcBound; omega) (by decide)
  have maskRead : ((UInt8.ofNat (mask &&& 0xFF)).toNat + ((UInt8.ofNat (mask >>> 8)).toNat <<< 8)) &&&
      rfcommRpnPmMask = mask := by
    rw [ofNat_le16 mask maskBound, definedBits]
  have byteRead (value : Nat) (small : value < 256) : (UInt8.ofNat value).toNat = value :=
    UInt8.toNat_ofNat_of_lt' small
  apply sendMxMessage_peerReads sender receiver frame isCommand rfcommMxRpn rfcommMxRpnLen _ _
    oppositeRoles (by decide) (by decide) rfl (by decide)
  simp only [mxDispatch, List.drop_succ_cons, List.drop_zero, processRpn, List.getElem?_cons_zero,
    List.getElem?_cons_succ, dlciOk, dlciRead, bitsRead, stopRead, parityRead, typeRead, fcRead,
    maskRead, byteRead _ baudBound, byteRead _ xonBound, byteRead _ xoffBound, Option.bind_eq_bind,
    Option.bind_some, Option.pure_def, Bool.not_true, Bool.false_eq_true, ↓reduceIte]
  rfl

/-- An NSC, sent as a response, is taken by the peer's switch only as a
command: the peer frees it after the switch and does not answer, and
`rfc_process_nsc` is never called. -/
theorem rfcSendNsc_peerReads (sender receiver : RfcMcb) (frame : MxFrame) (rxEa rxCr rxType : Nat)
    (oppositeRoles : receiver.isInitiator = !sender.isInitiator) :
    PeerReads receiver frame (rfcSendNsc sender rxEa rxCr rxType) (.refused false) :=
  sendMxMessage_peerReads sender receiver frame false rfcommMxNsc rfcommMxNscLen _ _
    oppositeRoles (by decide) (by decide) rfl (by decide) rfl

/-- `rfc_send_test` frames the caller's payload behind the type byte and a
one-byte length, in the caller's buffer when there is room before the payload
and in a new buffer otherwise, and sends it on the control channel. -/
theorem rfcSendTest_eq (mcb : RfcMcb) (isCommand : Bool) (buffer : BtHdr UInt8)
    (inside : buffer.offset + buffer.len ≤ buffer.data.length)
    (room : l2capMinOffset + rfcommMinOffset + 2 ≤ buffer.offset →
      buffer.offset + buffer.len + 1 ≤ buffer.data.length)
    (fits : buffer.offset + buffer.len + 1 < 65536) (shortPayload : buffer.len ≤ 32765) :
    ∃ framed : BtHdr UInt8, rfcSendTest mcb isCommand buffer = rfcSendBufUih mcb rfcommMxDlci framed ∧
      framed.payload = mxTypeByte isCommand rfcommMxTest :: mxLengthByte buffer.len :: buffer.payload ∧
      framed.len = buffer.len + 2 ∧ rfcommMinOffset ≤ framed.offset ∧
      framed.offset + framed.len + 1 ≤ framed.data.length ∧
      framed.offset + framed.len + 1 < 65536 := by
  have payloadLength := buffer.length_payload inside
  have headerLength : [mxTypeByte isCommand rfcommMxTest, mxLengthByte buffer.len].length = 2 := rfl
  have lengthStored : u16 ((buffer.len : Int) + 2) = buffer.len + 2 := by
    simp only [u16]
    omega
  have framedLength : buffer.len + 2 =
      [mxTypeByte isCommand rfcommMxTest, mxLengthByte buffer.len].length + buffer.len := by
    rw [headerLength, Nat.add_comm]
  unfold rfcSendTest
  by_cases moved : buffer.offset < l2capMinOffset + rfcommMinOffset + 2
  · -- a new buffer with the payload at offset 20 and one byte to spare after it
    simp only [l2capMinOffset, rfcommMinOffset] at moved room ⊢
    have copied := copy?_eq_some (List.replicate (buffer.len + (13 + 5 + 2 + 1)) (0 : UInt8))
      (13 + 5 + 2) buffer.data buffer.offset buffer.len (by simp; omega) inside
    have freshLength : (writeAt (List.replicate (buffer.len + (13 + 5 + 2 + 1)) (0 : UInt8)) (13 + 5 + 2)
        (window buffer.data buffer.offset buffer.len)).length = buffer.len + 21 := by
      rw [length_writeAt _ _ _ (by rw [← BtHdr.payload, payloadLength]; simp; omega)]
      simp
    have stored := store?_eq_some (writeAt (List.replicate (buffer.len + (13 + 5 + 2 + 1)) (0 : UInt8))
      (13 + 5 + 2) (window buffer.data buffer.offset buffer.len)) 18
      [mxTypeByte isCommand rfcommMxTest, mxLengthByte buffer.len] (by rw [freshLength]; simp)
    have offsetStored : u16 (((13 + 5 + 2 : Nat) : Int) - 2) = 18 := by decide
    simp only [if_pos moved, copied, Option.bind_eq_bind, Option.bind_some, Option.pure_def,
      offsetStored, stored]
    refine ⟨_, rfl, ?_, lengthStored, ?_, ?_, ?_⟩
    · simp only [BtHdr.payload, lengthStored]
      rw [framedLength, window_writeAt_prefix _ _ _ _ (by rw [freshLength]; simp), headerLength,
        ← BtHdr.payload, ← payloadLength, window_writeAt_self _ _ _ (by simp)]
      rfl
    · show rfcommMinOffset ≤ 18
      decide
    · dsimp only
      rw [lengthStored, length_writeAt _ _ _ (by rw [freshLength]; simp), freshLength]
      omega
    · dsimp only
      rw [lengthStored]
      omega
  · -- the caller's buffer, with the header in the two bytes before the payload
    have headroom : 20 ≤ buffer.offset := by
      simp only [l2capMinOffset, rfcommMinOffset] at moved
      omega
    have spare := room (by simp only [l2capMinOffset, rfcommMinOffset]; omega)
    have offsetStored : u16 ((buffer.offset : Int) - 2) = buffer.offset - 2 := by
      simp only [u16]
      omega
    have stored := store?_eq_some buffer.data (buffer.offset - 2)
      [mxTypeByte isCommand rfcommMxTest, mxLengthByte buffer.len] (by simp; omega)
    simp only [if_neg moved, Option.bind_eq_bind, Option.pure_def, Option.bind_some, offsetStored,
      stored]
    refine ⟨_, rfl, ?_, lengthStored, ?_, ?_, ?_⟩
    · simp only [BtHdr.payload, lengthStored]
      rw [framedLength, window_writeAt_prefix _ _ _ _ (by simp; omega), headerLength,
        Nat.sub_add_cancel (by omega : 2 ≤ buffer.offset)]
      rfl
    · show rfcommMinOffset ≤ buffer.offset - 2
      simp only [rfcommMinOffset]
      omega
    · dsimp only
      rw [lengthStored, length_writeAt _ _ _ (by simp; omega)]
      omega
    · dsimp only
      rw [lengthStored]
      omega

/-- A message of 128 bytes or more behind a type byte and a one-byte length
fails the length check: the byte carries the length modulo 128. -/
theorem mxHeader_long (isCommand : Bool) (type : Nat) (fields : List UInt8)
    (aligned : type % 4 = 0) (small : type < 256) (long : 128 ≤ fields.length) :
    mxHeader (mxTypeByte isCommand type :: mxLengthByte fields.length :: fields) (fields.length + 2) =
      some none := by
  obtain ⟨eaSet, -, -⟩ := mxTypeByte_fields isCommand type aligned small
  obtain ⟨lengthEa, lengthRead⟩ := mxLengthByte_fields fields.length
  have mismatch : fields.length % 128 ≠ fields.length + 2 - 2 := by omega
  simp only [mxHeader, List.getElem?_cons_zero, List.getElem?_cons_succ, eaSet, lengthEa,
    lengthRead, Option.bind_eq_bind, Option.bind_some, Option.pure_def, Nat.one_ne_zero,
    Nat.add_eq_zero_iff, Nat.reduceEqDiff, and_false, false_or, ↓reduceIte, mismatch,
    show ¬ fields.length + 2 < 2 by omega, ne_eq, not_false_eq_true]

/-- A TEST of 1 to 127 bytes, in a buffer the payload lies in, is read by the
peer as a TEST with the same bytes, and the buffer handed on to the echo holds
them too. -/
theorem rfcSendTest_short_peerReads (sender receiver : RfcMcb) (frame : MxFrame) (isCommand : Bool)
    (buffer : BtHdr UInt8) (oppositeRoles : receiver.isInitiator = !sender.isInitiator)
    (inside : buffer.offset + buffer.len ≤ buffer.data.length)
    (room : l2capMinOffset + rfcommMinOffset + 2 ≤ buffer.offset →
      buffer.offset + buffer.len + 1 ≤ buffer.data.length)
    (fits : buffer.offset + buffer.len + 1 < 65536) (nonEmpty : 0 < buffer.len)
    (short : buffer.len < 128) :
    PeerReads receiver frame (rfcSendTest sender isCommand buffer)
      (.processed isCommand (.test buffer.payload buffer.payload)) := by
  have payloadLength := buffer.length_payload inside
  obtain ⟨framed, sent, framedPayload, framedLen, headroom, framedRoom, framedFits⟩ :=
    rfcSendTest_eq sender isCommand buffer inside room fits (by omega)
  rw [sent]
  apply rfcSendBufUih_peerReads sender receiver frame framed _ oppositeRoles headroom framedRoom
    (by omega) framedFits
  have header := mxHeader_oneByte isCommand rfcommMxTest buffer.payload (by decide) (by decide)
    (by omega)
  rw [payloadLength] at header
  rw [rfcProcessMxMessage, framedPayload, framedLen, header]
  show mxDispatch _ ⟨isCommand, rfcommMxTest, buffer.len, buffer.len, 2⟩ = _
  unfold mxDispatch
  dsimp only
  rw [if_neg (by decide), if_pos rfl, processTest, if_neg (by omega)]
  simp only [List.drop_succ_cons, List.drop_zero, ← payloadLength, List.take_length]

/-- A TEST of 128 bytes or more is dropped by the peer: `rfc_send_test` writes
its length in one byte, the peer reads the length modulo 128, and the length
check frees the frame without an answer. -/
theorem rfcSendTest_long_peerReads (sender receiver : RfcMcb) (frame : MxFrame) (isCommand : Bool)
    (buffer : BtHdr UInt8) (oppositeRoles : receiver.isInitiator = !sender.isInitiator)
    (inside : buffer.offset + buffer.len ≤ buffer.data.length)
    (room : l2capMinOffset + rfcommMinOffset + 2 ≤ buffer.offset →
      buffer.offset + buffer.len + 1 ≤ buffer.data.length)
    (fits : buffer.offset + buffer.len + 1 < 65536) (long : 128 ≤ buffer.len)
    (shortPayload : buffer.len ≤ 32765) :
    PeerReads receiver frame (rfcSendTest sender isCommand buffer) .dropped := by
  have payloadLength := buffer.length_payload inside
  obtain ⟨framed, sent, framedPayload, framedLen, headroom, framedRoom, framedFits⟩ :=
    rfcSendTest_eq sender isCommand buffer inside room fits shortPayload
  rw [sent]
  apply rfcSendBufUih_peerReads sender receiver frame framed _ oppositeRoles headroom framedRoom
    (by omega) framedFits
  have header := mxHeader_long isCommand rfcommMxTest buffer.payload (by decide) (by decide)
    (by omega)
  rw [payloadLength] at header
  rw [rfcProcessMxMessage, framedPayload, framedLen, header]
  rfl

/-- The buffer `PORT_Test` hands to `rfc_send_test`: `RFCOMM_CMD_BUF_SIZE`
bytes with the caller's bytes at `L2CAP_MIN_OFFSET + RFCOMM_MIN_OFFSET + 2`. -/
def portTestBuffer (bytes : List UInt8) : BtHdr UInt8 :=
  { event := 0, len := bytes.length, offset := l2capMinOffset + rfcommMinOffset + 2,
    layerSpecific := 0,
    data := writeAt (List.replicate (rfcommCmdBufSize - BtHdr.headerSize) 0)
      (l2capMinOffset + rfcommMinOffset + 2) bytes }

/-- `PORT_Test`'s buffer holds the caller's bytes at offset 20 of 652. -/
theorem portTestBuffer_layout (bytes : List UInt8) (fits : bytes.length ≤ 632) :
    (portTestBuffer bytes).offset = 20 ∧ (portTestBuffer bytes).len = bytes.length ∧
      (portTestBuffer bytes).data.length = 652 := by
  have blockLength : (List.replicate (rfcommCmdBufSize - BtHdr.headerSize) (0 : UInt8)).length = 652 :=
    List.length_replicate
  refine ⟨rfl, rfl, ?_⟩
  simp only [portTestBuffer]
  rw [length_writeAt _ _ _ (by rw [blockLength]; simp only [l2capMinOffset, rfcommMinOffset]; omega),
    blockLength]

/-- Two multiplexer messages the stack builds that the peer does not read back:
a TEST of 128 bytes from `PORT_Test` on a port whose MTU allows it, dropped by
the length check, and the NSC that answers an unknown command (here CLD,
type `0xC0`), refused by the switch because it is a response. -/
theorem mxMessages_notReadBack :
    PeerReads ⟨false, portFcCredit⟩ ⟨0, 0, 0, 0, 0⟩
        (rfcSendTest ⟨true, portFcCredit⟩ true (portTestBuffer (List.replicate 128 0x55))) .dropped ∧
      PeerReads ⟨false, portFcCredit⟩ ⟨0, 0, 0, 0, 0⟩ (rfcSendNsc ⟨true, portFcCredit⟩ 1 1 0xC0)
        (.refused false) :=
  by
  obtain ⟨atOffset, bufferLen, dataLength⟩ := portTestBuffer_layout (List.replicate 128 0x55)
    (by simp)
  simp only [List.length_replicate] at bufferLen
  refine ⟨?_, rfcSendNsc_peerReads _ _ _ 1 1 0xC0 rfl⟩
  apply rfcSendTest_long_peerReads _ _ _ true _ rfl <;> omega

end Fluoride.RfcommMx
