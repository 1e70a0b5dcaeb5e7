import Fluoride.RfcommFrames

/-!
# UIH frames across the link

A UIH frame built by `rfc_send_buf_uih` on one side of a multiplexer is parsed
by `rfc_parse_data` on the other into the DLCI, the credits and the window of
the payload it carries (`rfcSendBufUih_rfcParseData`). The sender is described
by the header it writes (`uihHeader`, `rfcSendBufUih_eq`) and the parser by
what it makes of a frame that starts with such a header (`rfcParseData_uih`);
both rest on the bit facts of the first section, which say that each field of
the header reads back as what was written.

For an arbitrary received buffer the parser reads only inside the window
`[offset, offset + len)` and, unless it rejects the frame, leaves a window that
ends before the FCS byte (`rfcParseData_bounded`).
-/

namespace Fluoride.RfcommUih

open ByteBuffer RfcommFrames

/-! ## Header fields read back -/

/-- The address byte gives back its EA bit, its C/R bit and a six-bit DLCI. -/
theorem addressByte_fields (dlci cr : Nat) (small : dlci < 64) (crBit : cr = 0 ∨ cr = 2) :
    (UInt8.ofNat (rfcommEa ||| cr ||| (dlci <<< rfcommShiftDlci))).toNat &&& rfcommEa = 1 ∧
    ((UInt8.ofNat (rfcommEa ||| cr ||| (dlci <<< rfcommShiftDlci))).toNat &&& rfcommCrMask) >>>
      rfcommShiftCr = cr / 2 ∧
    (UInt8.ofNat (rfcommEa ||| cr ||| (dlci <<< rfcommShiftDlci))).toNat >>> rfcommShiftDlci =
      dlci := by
  have every : ∀ dlci < 64, ∀ cr ∈ [0, 2],
      (UInt8.ofNat (rfcommEa ||| cr ||| (dlci <<< rfcommShiftDlci))).toNat &&& rfcommEa = 1 ∧
      ((UInt8.ofNat (rfcommEa ||| cr ||| (dlci <<< rfcommShiftDlci))).toNat &&& rfcommCrMask) >>>
        rfcommShiftCr = cr / 2 ∧
      (UInt8.ofNat (rfcommEa ||| cr ||| (dlci <<< rfcommShiftDlci))).toNat >>> rfcommShiftDlci =
        dlci := by
    decide
  exact every dlci small cr (by rcases crBit with rfl | rfl <;> simp)

/-- The control byte of a UIH frame gives back the UIH type and the P/F bit,
set exactly when credits are carried. -/
theorem controlByte_fields (credits : Nat) :
    parseTypeField (UInt8.ofNat (rfcommUih ||| (if credits ≠ 0 then rfcommPf else 0))) =
      (rfcommUih, if credits ≠ 0 then 1 else 0) := by
  split_ifs <;> decide

/-- A one-byte length field has EA set and gives back a length below 128. -/
theorem shortLength_fields (len : Nat) (short : len ≤ 127) :
    (UInt8.ofNat (rfcommEa ||| (len <<< 1))).toNat &&& rfcommEa = 1 ∧
    (UInt8.ofNat (rfcommEa ||| (len <<< 1))).toNat >>> rfcommShiftLength1 = len := by
  have every : ∀ len < 128,
      (UInt8.ofNat (rfcommEa ||| (len <<< 1))).toNat &&& rfcommEa = 1 ∧
      (UInt8.ofNat (rfcommEa ||| (len <<< 1))).toNat >>> rfcommShiftLength1 = len := by
    decide
  exact every len (by omega)

/-- A two-byte length field has EA clear in its first byte, and its two
seven- and eight-bit parts give back a length below `2 ^ 15`. -/
theorem longLength_fields (len : Nat) (fits : len ≤ 32767) :
    (UInt8.ofNat ((len &&& 0x7f) <<< 1)).toNat &&& rfcommEa = 0 ∧
    ((UInt8.ofNat ((len &&& 0x7f) <<< 1)).toNat >>> rfcommShiftLength1 +
      ((UInt8.ofNat (len >>> rfcommShiftLength2)).toNat <<< rfcommShiftLength2)) % 65536 = len := by
  have lowBits : len &&& 0x7f = len % 128 := Nat.and_two_pow_sub_one_eq_mod len 7
  have lowByte : (UInt8.ofNat ((len &&& 0x7f) <<< 1)).toNat = 2 * (len % 128) := by
    rw [UInt8.toNat_ofNat', lowBits, Nat.shiftLeft_eq, Nat.pow_one]
    omega
  have highByte : (UInt8.ofNat (len >>> rfcommShiftLength2)).toNat = len / 128 := by
    rw [UInt8.toNat_ofNat', rfcommShiftLength2, Nat.shiftRight_eq_div_pow]
    omega
  rw [lowByte, highByte, rfcommShiftLength1, rfcommShiftLength2, Nat.shiftRight_eq_div_pow,
    Nat.shiftLeft_eq, rfcommEa]
  constructor
  · rw [Nat.and_one_is_mod]
    omega
  · omega

set_option maxRecDepth 4096 in
/-- A byte and its complement to `0xFF` differ in every bit. -/
theorem xor_complement (fcs : UInt8) : fcs ^^^ (0xFF - fcs) = 0xFF := by
  have every : ∀ value < 256, value ^^^ (255 - value) = 255 := by decide
  have atMost : fcs ≤ 0xFF := by
    rw [UInt8.le_iff_toNat_le]
    exact Nat.le_of_lt_succ fcs.toNat_lt
  apply UInt8.toNat_inj.mp
  rw [UInt8.toNat_xor, UInt8.toNat_sub_of_le _ _ atMost]
  exact every _ fcs.toNat_lt

/-- The FCS a sender computes passes the receiver's check, over any bytes. -/
theorem rfcCheckFcs_rfcCalcFcs (bytes : List UInt8) :
    rfcCheckFcs bytes (rfcCalcFcs bytes) = true := by
  have lastEntry : rfcCrctable.getD 0xFF 0 = 0xCF := by decide
  simp only [rfcCheckFcs, rfcCalcFcs, crcStep, xor_complement, UInt8.toNat_ofNat, lastEntry]
  decide

/-! ## What the sender writes -/

/-- The credits `rfc_send_buf_uih` carries: `layer_specific` as a byte, on any
DLCI but the control channel. -/
def uihCredits (dlci : Nat) (buffer : BtHdr UInt8) : Nat :=
  if dlci ≠ 0 then buffer.layerSpecific % 256 else 0

/-- The header of a UIH frame with `len` payload bytes: address, control,
length field of one or two bytes, and the credit byte when credits are carried. -/
def uihHeader (cr dlci len credits : Nat) : List UInt8 :=
  [UInt8.ofNat (rfcommEa ||| cr ||| (dlci <<< rfcommShiftDlci)),
    UInt8.ofNat (rfcommUih ||| (if credits ≠ 0 then rfcommPf else 0))] ++
  (if len ≤ 127 then [UInt8.ofNat (rfcommEa ||| (len <<< 1))]
    else [UInt8.ofNat ((len &&& 0x7f) <<< 1), UInt8.ofNat (len >>> rfcommShiftLength2)]) ++
  (if credits ≠ 0 then [UInt8.ofNat credits] else [])

/-- A header is three bytes, one more for a long length and one more for credits. -/
theorem length_uihHeader (cr dlci len credits : Nat) :
    (uihHeader cr dlci len credits).length =
      3 + (if len ≤ 127 then 0 else 1) + (if credits ≠ 0 then 1 else 0) := by
  unfold uihHeader
  split_ifs <;> simp

/-- No header is longer than the room `RFCOMM_MIN_OFFSET` a sender leaves. -/
theorem length_uihHeader_le (cr dlci len credits : Nat) :
    2 ≤ (uihHeader cr dlci len credits).length ∧
      (uihHeader cr dlci len credits).length ≤ rfcommMinOffset := by
  rw [length_uihHeader, rfcommMinOffset]
  split_ifs <;> omega

/-- `rfc_send_buf_uih` writes the header into the room before the payload and
the FCS over its first two bytes after it, and widens the window to the frame. -/
theorem rfcSendBufUih_eq (mcb : RfcMcb) (dlci : Nat) (buffer : BtHdr UInt8)
    (headroom : rfcommMinOffset ≤ buffer.offset)
    (room : buffer.offset + buffer.len + 1 ≤ buffer.data.length)
    (shortPayload : buffer.len ≤ 32767) (offsetFits : buffer.offset + buffer.len + 1 < 65536) :
    rfcSendBufUih mcb dlci buffer =
      some { buffer with
        offset := buffer.offset -
          (uihHeader (rfcommCr mcb.isInitiator true) dlci buffer.len (uihCredits dlci buffer)).length
        len := buffer.len +
          (uihHeader (rfcommCr mcb.isInitiator true) dlci buffer.len (uihCredits dlci buffer)).length + 1
        data := writeAt
          (writeAt buffer.data (buffer.offset -
            (uihHeader (rfcommCr mcb.isInitiator true) dlci buffer.len (uihCredits dlci buffer)).length)
            (uihHeader (rfcommCr mcb.isInitiator true) dlci buffer.len (uihCredits dlci buffer)))
          (buffer.offset + buffer.len)
          [rfcCalcFcs ((uihHeader (rfcommCr mcb.isInitiator true) dlci buffer.len
            (uihCredits dlci buffer)).take 2)] } := by
  have credits : (if dlci ≠ 0 then buffer.layerSpecific % 256 else 0) = uihCredits dlci buffer :=
    rfl
  obtain ⟨twoBytes, atMostRoom⟩ := length_uihHeader_le (rfcommCr mcb.isInitiator true) dlci
    buffer.len (uihCredits dlci buffer)
  generalize headerIs : uihHeader (rfcommCr mcb.isInitiator true) dlci buffer.len
    (uihCredits dlci buffer) = header at twoBytes atMostRoom
  have headerLength := length_uihHeader (rfcommCr mcb.isInitiator true) dlci buffer.len
    (uihCredits dlci buffer)
  rw [headerIs] at headerLength
  simp only [rfcommMinOffset] at headroom atMostRoom
  -- the offset moved back over the header and the length grown by it, as the
  -- uint16 arithmetic of the source computes them
  have offsetEq : (if uihCredits dlci buffer ≠ 0 then
      u16 (((if buffer.len > 127 then u16 ((u16 ((buffer.offset : Int) - rfcommCtrlFrameLen) : Int) - 1)
        else u16 ((buffer.offset : Int) - rfcommCtrlFrameLen) : Nat) : Int) - 1)
      else if buffer.len > 127 then u16 ((u16 ((buffer.offset : Int) - rfcommCtrlFrameLen) : Int) - 1)
      else u16 ((buffer.offset : Int) - rfcommCtrlFrameLen)) = buffer.offset - header.length := by
    rw [headerLength]
    split_ifs <;> simp only [u16, rfcommCtrlFrameLen] <;> omega
  have lenEq : (if uihCredits dlci buffer ≠ 0 then
      u16 (((if buffer.len ≤ 127 then u16 ((buffer.len : Int) + 3) else u16 ((buffer.len : Int) + 4) :
        Nat) : Int) + 1)
      else if buffer.len ≤ 127 then u16 ((buffer.len : Int) + 3) else u16 ((buffer.len : Int) + 4)) =
      buffer.len + header.length := by
    rw [headerLength]
    split_ifs <;> simp only [u16] <;> omega
  have finalLen : u16 (((buffer.len + header.length : Nat) : Int) + 1) =
      buffer.len + header.length + 1 := by
    simp only [u16]
    omega
  have firstStore := store?_eq_some buffer.data (buffer.offset - header.length) header (by omega)
  have secondStore := store?_eq_some (writeAt buffer.data (buffer.offset - header.length) header)
    (buffer.offset - header.length + (buffer.len + header.length))
    [rfcCalcFcs (header.take 2)] (by
      rw [length_writeAt _ _ _ (by omega)]
      simp only [List.length_singleton]
      omega)
  have headerWindow : window (writeAt buffer.data (buffer.offset - header.length) header)
      (buffer.offset - header.length) 2 = header.take 2 := by
    rw [← take_window _ _ header.length 2 twoBytes, window_writeAt_self _ _ _ (by omega)]
  have fcsPosition : buffer.offset - header.length + (buffer.len + header.length) =
      buffer.offset + buffer.len := by
    omega
  simp only [rfcSendBufUih, credits, offsetEq, lenEq]
  rw [fcsPosition] at secondStore
  rw [← uihHeader.eq_1, headerIs, firstStore]
  simp only [Option.bind_eq_bind, Option.bind_some, headerWindow, fcsPosition, secondStore,
    Option.pure_def, finalLen]

/-! ## What the parser makes of a UIH frame -/

/-- `RFCOMM_VALID_DLCI` as a proposition. -/
theorem rfcommValidDlci_iff (dlci : Nat) :
    rfcommValidDlci dlci = true ↔ dlci = 0 ∨ (2 ≤ dlci ∧ dlci ≤ rfcommMaxDlci) := by
  simp [rfcommValidDlci]

/-- A length field that reads back as `len`: one byte with EA set, or two bytes
with EA clear in the first. -/
def LengthField (field : List UInt8) (len : Nat) : Prop :=
  (∃ single, field = [single] ∧ single.toNat &&& rfcommEa = 1 ∧
    single.toNat >>> rfcommShiftLength1 = len) ∨
  (∃ low high, field = [low, high] ∧ low.toNat &&& rfcommEa = 0 ∧
    (low.toNat >>> rfcommShiftLength1 + (high.toNat <<< rfcommShiftLength2)) % 65536 = len)

/-- A credit field that is there exactly when `present` holds, and then holds
`credit`; otherwise the frame carries no credit. -/
def CreditField (present : Prop) (field : List UInt8) (credit : Nat) : Prop :=
  (present ∧ ∃ byte, field = [byte] ∧ byte.toNat = credit) ∨ (¬ present ∧ field = [] ∧ credit = 0)

/-- A credit field reads the same under an equivalent condition for its presence. -/
theorem CreditField.of_iff {present other : Prop} {field : List UInt8} {credit : Nat}
    (same : present ↔ other) (read : CreditField present field credit) :
    CreditField other field credit := by
  unfold CreditField at read ⊢
  rw [← same]
  exact read

/-- The switch of `rfc_parse_data` on a UIH frame: a valid DLCI and an FCS that
checks over the address and control bytes give the UIH event. -/
theorem rfcFrameEvent_uih (mcb : RfcMcb) (dlci cr pf credit len : Nat)
    (fcs address control : UInt8) (byteAt : Nat → Option UInt8)
    (validDlci : rfcommValidDlci dlci = true) (readAddress : byteAt 0 = some address)
    (readControl : byteAt 1 = some control) (checked : rfcCheckFcs [address, control] fcs = true) :
    rfcFrameEvent mcb ⟨dlci, rfcommUih, cr, pf, credit⟩ len fcs byteAt = some .uih := by
  have notSabme : rfcommUih ≠ rfcommSabme := by decide
  have notUa : rfcommUih ≠ rfcommUa := by decide
  have notDm : rfcommUih ≠ rfcommDm := by decide
  have notDisc : rfcommUih ≠ rfcommDisc := by decide
  have rangeTwo : List.range 2 = [0, 1] := rfl
  simp only [rfcFrameEvent, notSabme, notUa, notDm, notDisc, ↓reduceIte, validDlci,
    Bool.not_true, Bool.false_eq_true, rangeTwo, List.mapM_cons, List.mapM_nil, readAddress,
    readControl, Option.bind_eq_bind, Option.bind_some, Option.pure_def, checked]

/-- A received UIH frame on a credit-based multiplexer: address and control
bytes, a length field for the payload, the credit field the P/F bit announces,
the payload and the FCS over the first two bytes. The parser returns the UIH
event with the frame's DLCI, C/R bit, P/F bit and credit, and leaves the window
on the payload. -/
theorem rfcParseData_uih (mcb : RfcMcb) (frame : MxFrame) (buffer : BtHdr UInt8)
    (address control : UInt8) (lengthField creditField payload : List UInt8)
    (cr dlci pf credit : Nat)
    (eaSet : address.toNat &&& rfcommEa = 1)
    (crRead : (address.toNat &&& rfcommCrMask) >>> rfcommShiftCr = cr)
    (dlciRead : address.toNat >>> rfcommShiftDlci = dlci)
    (validDlci : rfcommValidDlci dlci = true)
    (controlRead : parseTypeField control = (rfcommUih, pf))
    (lengthRead : LengthField lengthField payload.length)
    (creditRead : CreditField (mcb.flow = portFcCredit ∧ dlci ≠ rfcommMxDlci ∧ pf = 1) creditField
      credit)
    (received : buffer.payload = address :: control ::
      (lengthField ++ creditField ++ payload ++ [rfcCalcFcs [address, control]]))
    (inside : buffer.offset + buffer.len ≤ buffer.data.length)
    (offsetFits : buffer.offset + buffer.len < 65536) :
    rfcParseData mcb frame buffer =
      some (.uih, { frame with cr := cr, dlci := dlci, type := rfcommUih, pf := pf, credit := credit },
        { buffer with
          offset := buffer.offset + 2 + lengthField.length + creditField.length
          len := payload.length }) := by
  have bufferLength : buffer.len =
      2 + lengthField.length + creditField.length + payload.length + 1 := by
    have counted := congrArg List.length received
    simp only [buffer.length_payload inside, List.length_cons, List.length_append,
      List.length_nil] at counted
    omega
  -- the bytes the parser reads: the header by position, the FCS after the payload
  have readAddress : buffer.payload[0]? = some address := by rw [received]; rfl
  have readControl : buffer.payload[1]? = some control := by rw [received]; rfl
  have readThird : buffer.payload[2]? =
      (lengthField ++ creditField ++ payload ++ [rfcCalcFcs [address, control]])[0]? := by
    rw [received]
    rfl
  have readFourth : buffer.payload[3]? =
      (lengthField ++ creditField ++ payload ++ [rfcCalcFcs [address, control]])[1]? := by
    rw [received]
    rfl
  have readFifth : buffer.payload[4]? =
      (lengthField ++ creditField ++ payload ++ [rfcCalcFcs [address, control]])[2]? := by
    rw [received]
    rfl
  have readFcs : buffer.payload[2 + lengthField.length + creditField.length + payload.length]? =
      some (rfcCalcFcs [address, control]) := by
    have framed : address :: control :: (lengthField ++ creditField ++ payload ++
        [rfcCalcFcs [address, control]]) = (address :: control :: (lengthField ++ creditField ++
          payload)) ++ [rfcCalcFcs [address, control]] := by
      simp only [List.cons_append, List.append_assoc]
    have position : 2 + lengthField.length + creditField.length + payload.length =
        (address :: control :: (lengthField ++ creditField ++ payload)).length := by
      simp only [List.length_cons, List.length_append]
      omega
    rw [received, framed, position, List.getElem?_concat_length]
  have checked := rfcCheckFcs_rfcCalcFcs [address, control]
  have rangeTwo : List.range 2 = [0, 1] := rfl
  have notShort : ¬ buffer.len < 3 := by omega
  -- the length checks the frame passes, by the sizes of its fields
  have headerFits : ¬ buffer.len < 2 + lengthField.length + 1 := by omega
  have creditFits : ¬ buffer.len - (2 + lengthField.length + 1) < creditField.length := by omega
  have lengthAgrees :
      buffer.len - (2 + lengthField.length + 1) - creditField.length = payload.length := by
    omega
  have notSabme : rfcommUih ≠ rfcommSabme := by decide
  have notUa : rfcommUih ≠ rfcommUa := by decide
  have notDm : rfcommUih ≠ rfcommDm := by decide
  have notDisc : rfcommUih ≠ rfcommDisc := by decide
  simp only [ne_eq] at creditRead
  -- the four shapes of a header: one or two length bytes, with or without credits
  rcases lengthRead with ⟨single, lengthIs, ealBit, lengthBits⟩ | ⟨low, high, lengthIs, ealBit, lengthBits⟩
  all_goals
    rcases creditRead with ⟨credited, byte, creditIs, creditBits⟩ | ⟨credited, creditIs, creditBits⟩
  all_goals
    have longEnough : 3 < buffer.len := by
      simp only [lengthIs, List.length_cons, List.length_nil] at bufferLength
      omega
    simp only [lengthIs, creditIs, List.length_cons, List.length_nil, Nat.reduceAdd, List.cons_append,
      List.nil_append, List.getElem?_cons_succ, List.getElem?_cons_zero, Nat.sub_zero]
      at readThird readFourth readFifth readFcs headerFits creditFits lengthAgrees ⊢
    simp only [rfcParseData, rfcommCtrlFrameLen, notShort, parseCtrlField, readAddress, readControl,
      readThird, readFourth, readFifth, eaSet, crRead, dlciRead, controlRead, ealBit,
      Option.bind_eq_bind, Option.pure_def, Option.bind_some, Nat.reduceAdd, Nat.reduceEqDiff,
      ↓reduceIte, false_and, true_and, gt_iff_lt, longEnough, headerFits, creditFits, lengthBits,
      lengthAgrees, ne_eq, not_true_eq_false, not_false_eq_true, and_self, readFcs,
      creditBits, credited]
    rw [rfcFrameEvent_uih mcb dlci cr _ _ _ _ address control (fun index => buffer.payload[index]?)
      validDlci readAddress readControl checked]
    -- what is left is the uint16 arithmetic of the window's new offset
    simp only [Option.bind_some, Option.some.injEq, Prod.mk.injEq, BtHdr.mk.injEq, true_and, and_true, u16]
    omega

/-! ## Reads inside the received window -/

/-- The event of a frame exists once its first three bytes can be read: the
switch on the frame type reads nothing else. -/
theorem rfcFrameEvent_isSome (mcb : RfcMcb) (frame : MxFrame) (len : Nat) (fcs : UInt8)
    (byteAt : Nat → Option UInt8) (reads : ∀ index < 3, (byteAt index).isSome) :
    ∃ event, rfcFrameEvent mcb frame len fcs byteAt = some event := by
  obtain ⟨first, readFirst⟩ := Option.isSome_iff_exists.mp (reads 0 (by decide))
  obtain ⟨second, readSecond⟩ := Option.isSome_iff_exists.mp (reads 1 (by decide))
  obtain ⟨third, readThird⟩ := Option.isSome_iff_exists.mp (reads 2 (by decide))
  have rangeTwo : List.range 2 = [0, 1] := rfl
  have rangeThree : List.range rfcommCtrlFrameLen = [0, 1, 2] := rfl
  apply Option.isSome_iff_exists.mp
  unfold rfcFrameEvent
  split_ifs <;> simp [rangeTwo, rangeThree, readFirst, readSecond, readThird] <;> split <;> simp

/-- On any received buffer whose window lies inside its data, `rfc_parse_data`
reads only inside the window (it never returns `none`), leaves the data as it
is, and unless it rejects the frame leaves a window that, with the FCS byte
after it, lies inside the window it was given. -/
theorem rfcParseData_bounded (mcb : RfcMcb) (frame : MxFrame) (buffer : BtHdr UInt8)
    (inside : buffer.offset + buffer.len ≤ buffer.data.length)
    (offsetFits : buffer.offset + buffer.len < 65536) :
    ∃ event parsedFrame parsedBuffer,
      rfcParseData mcb frame buffer = some (event, parsedFrame, parsedBuffer) ∧
      parsedBuffer.data = buffer.data ∧
      (event ≠ .badFrame → buffer.offset ≤ parsedBuffer.offset ∧
        parsedBuffer.offset + parsedBuffer.len + 1 ≤ buffer.offset + buffer.len) := by
  have payloadLength := buffer.length_payload inside
  have readAt : ∀ index < buffer.len, ∃ byte, buffer.payload[index]? = some byte := by
    intro index within
    exact ⟨_, List.getElem?_eq_getElem (by omega)⟩
  -- a rejected frame leaves the data as it is and promises nothing more
  have rejected : ∀ (parsedFrame : MxFrame) (parsedBuffer : BtHdr UInt8),
      parsedBuffer.data = buffer.data → ∃ event resultFrame resultBuffer,
        some (RfcEvent.badFrame, parsedFrame, parsedBuffer) = some (event, resultFrame, resultBuffer) ∧
        resultBuffer.data = buffer.data ∧
        (event ≠ .badFrame → buffer.offset ≤ resultBuffer.offset ∧
          resultBuffer.offset + resultBuffer.len + 1 ≤ buffer.offset + buffer.len) :=
    fun parsedFrame parsedBuffer sameData =>
      ⟨_, parsedFrame, parsedBuffer, rfl, sameData, fun notBad => absurd rfl notBad⟩
  by_cases short : buffer.len < rfcommCtrlFrameLen
  case pos =>
    simp only [rfcParseData, short, ↓reduceIte, Option.pure_def]
    exact rejected frame buffer rfl
  simp only [rfcommCtrlFrameLen] at short
  have eventOf : ∀ frame len fcs, ∃ event,
      rfcFrameEvent mcb frame len fcs (fun index => buffer.payload[index]?) = some event :=
    fun frame len fcs => rfcFrameEvent_isSome mcb frame len fcs _ fun index below => by
      obtain ⟨byte, read⟩ := readAt index (by omega)
      simp only [read, Option.isSome_some]
  -- the last steps of a frame that passed the length checks: the FCS read after
  -- the information field, and the event of the frame's type
  have delivered : ∀ (parsedFrame : MxFrame) (parsedBuffer : BtHdr UInt8) (position len : Nat),
      position + len < buffer.len → parsedBuffer.data = buffer.data →
      buffer.offset ≤ parsedBuffer.offset →
      parsedBuffer.offset + parsedBuffer.len + 1 ≤ buffer.offset + buffer.len →
      ∃ event resultFrame resultBuffer,
        (buffer.payload[position + len]?.bind fun fcs =>
          (rfcFrameEvent mcb parsedFrame len fcs fun index => buffer.payload[index]?).bind
            fun event => some (event, parsedFrame, parsedBuffer)) =
          some (event, resultFrame, resultBuffer) ∧
        resultBuffer.data = buffer.data ∧
        (¬ event = .badFrame → buffer.offset ≤ resultBuffer.offset ∧
          resultBuffer.offset + resultBuffer.len + 1 ≤ buffer.offset + buffer.len) := by
    intro parsedFrame parsedBuffer position len within sameData after before
    obtain ⟨fcs, readFcs⟩ := readAt (position + len) within
    obtain ⟨event, eventIs⟩ := eventOf parsedFrame len fcs
    exact ⟨event, parsedFrame, parsedBuffer, by simp only [readFcs, eventIs, Option.bind_some],
      sameData, fun _ => ⟨after, before⟩⟩
  obtain ⟨address, readAddress⟩ := readAt 0 (by omega)
  obtain ⟨control, readControl⟩ := readAt 1 (by omega)
  obtain ⟨lengthByte, readLength⟩ := readAt 2 (by omega)
  by_cases ead : address.toNat &&& rfcommEa = 0
  case pos =>
    simp only [rfcParseData, rfcommCtrlFrameLen, short, ↓reduceIte, parseCtrlField, readAddress,
      readControl, ead, Option.bind_eq_bind, Option.bind_some, Option.pure_def]
    exact rejected _ buffer rfl
  -- a two-byte length field: the header is four bytes, five with the credit byte
  by_cases twoLengthBytes : lengthByte.toNat &&& rfcommEa = 0 ∧ 3 < buffer.len
  case pos =>
    obtain ⟨high, readHigh⟩ := readAt 3 twoLengthBytes.2
    simp only [rfcParseData, rfcommCtrlFrameLen, short, ↓reduceIte, parseCtrlField, readAddress,
      readControl, readLength, ead, twoLengthBytes, readHigh, Option.bind_eq_bind, Option.bind_some,
      Option.pure_def, Nat.reduceAdd, and_self]
    split_ifs with tooShort credited noCreditByte lengthDiffers lengthDiffers
    · exact rejected _ buffer rfl
    · exact rejected _ _ rfl
    · obtain ⟨credit, readCredit⟩ := readAt 4 (by omega)
      simp only [readCredit, Option.bind_some]
      exact rejected _ _ rfl
    · obtain ⟨credit, readCredit⟩ := readAt 4 (by omega)
      simp only [readCredit, Option.bind_some]
      exact delivered _ _ 5 _ (by omega) rfl (by simp only [u16]; omega) (by simp only [u16]; omega)
    · exact rejected _ _ rfl
    · exact delivered _ _ 4 _ (by omega) rfl (by simp only [u16]; omega) (by simp only [u16]; omega)
  by_cases eal : lengthByte.toNat &&& rfcommEa = 0
  case pos =>
    have onlyThree : ¬ 3 < buffer.len := fun longer => twoLengthBytes ⟨eal, longer⟩
    simp only [rfcParseData, rfcommCtrlFrameLen, short, ↓reduceIte, parseCtrlField, readAddress,
      readControl, readLength, ead, eal, onlyThree, Option.bind_eq_bind, Option.bind_some,
      Option.pure_def, Nat.reduceAdd, and_false]
    exact rejected _ buffer rfl
  -- a one-byte length field: the header is three bytes, four with the credit byte
  simp only [rfcParseData, rfcommCtrlFrameLen, short, ↓reduceIte, parseCtrlField, readAddress,
    readControl, readLength, ead, eal, Option.bind_eq_bind, Option.bind_some, Option.pure_def,
    Nat.reduceAdd, false_and]
  split_ifs with tooShort credited noCreditByte lengthDiffers lengthDiffers
  · exact rejected _ buffer rfl
  · exact rejected _ _ rfl
  · obtain ⟨credit, readCredit⟩ := readAt 3 (by omega)
    simp only [readCredit, Option.bind_some]
    exact rejected _ _ rfl
  · obtain ⟨credit, readCredit⟩ := readAt 3 (by omega)
    simp only [readCredit, Option.bind_some]
    exact delivered _ _ 4 _ (by omega) rfl (by simp only [u16]; omega) (by simp only [u16]; omega)
  · exact rejected _ _ rfl
  · exact delivered _ _ 3 _ (by omega) rfl (by simp only [u16]; omega) (by simp only [u16]; omega)

/-! ## Across the link -/

/-- The C/R bit a sender puts on a command is 0 or 2, and the other side of the
link, whose role is the opposite, reads it as a command. -/
theorem rfcommCr_command (initiator : Bool) :
    (rfcommCr initiator true = 0 ∨ rfcommCr initiator true = 2) ∧
      rfcommFrameIsCmd (!initiator) (rfcommCr initiator true / 2) = true := by
  cases initiator <;> decide

/-- A header the sender writes splits into the fields the parser reads: an
address byte with EA set, the C/R bit and the DLCI, a control byte with the UIH
type and P/F set exactly when credits are carried, a length field that reads
back as the payload length, and a credit field present exactly when credits are. -/
theorem uihHeader_fields (cr dlci len credits : Nat) (crBit : cr = 0 ∨ cr = 2) (small : dlci < 64)
    (shortPayload : len ≤ 32767) (creditByte : credits < 256)
    (creditsOnData : credits ≠ 0 → dlci ≠ rfcommMxDlci) :
    ∃ address control lengthField creditField,
      uihHeader cr dlci len credits = address :: control :: (lengthField ++ creditField) ∧
      address.toNat &&& rfcommEa = 1 ∧
      (address.toNat &&& rfcommCrMask) >>> rfcommShiftCr = cr / 2 ∧
      address.toNat >>> rfcommShiftDlci = dlci ∧
      parseTypeField control = (rfcommUih, if credits ≠ 0 then 1 else 0) ∧
      LengthField lengthField len ∧
      CreditField (dlci ≠ rfcommMxDlci ∧ (if credits ≠ 0 then 1 else 0) = 1) creditField credits := by
  obtain ⟨eaSet, crRead, dlciRead⟩ := addressByte_fields dlci cr small crBit
  refine ⟨_, _, _, _, rfl, eaSet, crRead, dlciRead, controlByte_fields credits, ?length, ?credit⟩
  case length =>
    unfold LengthField
    split_ifs with oneByte
    · exact Or.inl ⟨_, rfl, shortLength_fields len oneByte⟩
    · exact Or.inr ⟨_, _, rfl, longLength_fields len shortPayload⟩
  case credit =>
    unfold CreditField
    split_ifs with credited
    · refine Or.inl ⟨⟨creditsOnData credited, rfl⟩, _, rfl, ?_⟩
      rw [UInt8.toNat_ofNat']
      omega
    · exact Or.inr ⟨by simp, rfl, by omega⟩

/-- A UIH frame built by `rfc_send_buf_uih` on one side of a multiplexer is
parsed by `rfc_parse_data` on the other side, with credit-based flow control,
into a UIH event for the sender's DLCI, a command from the receiver's point of
view, the credits the sender carried, and the window of the payload the
sender was given. -/
theorem rfcSendBufUih_rfcParseData (sender receiver : RfcMcb) (frame : MxFrame) (dlci : Nat)
    (buffer : BtHdr UInt8) (validDlci : rfcommValidDlci dlci = true)
    (creditCount : buffer.layerSpecific < 256 ∨ dlci = rfcommMxDlci)
    (creditBased : receiver.flow = portFcCredit ∨ dlci = rfcommMxDlci)
    (oppositeRoles : receiver.isInitiator = !sender.isInitiator)
    (headroom : rfcommMinOffset ≤ buffer.offset)
    (room : buffer.offset + buffer.len + 1 ≤ buffer.data.length)
    (shortPayload : buffer.len ≤ 32767) (offsetFits : buffer.offset + buffer.len + 1 < 65536) :
    ∃ sent parsedFrame parsedBuffer,
      rfcSendBufUih sender dlci buffer = some sent ∧
      rfcParseData receiver frame sent = some (.uih, parsedFrame, parsedBuffer) ∧
      parsedFrame.dlci = dlci ∧
      rfcommFrameIsCmd receiver.isInitiator parsedFrame.cr = true ∧
      parsedFrame.credit = (if dlci ≠ 0 then buffer.layerSpecific else 0) ∧
      parsedBuffer.offset = buffer.offset ∧ parsedBuffer.len = buffer.len ∧
      parsedBuffer.payload = buffer.payload := by
  obtain ⟨crBit, command⟩ := rfcommCr_command sender.isInitiator
  have small : dlci < 64 := by
    rw [rfcommValidDlci_iff, rfcommMaxDlci] at validDlci
    omega
  have creditByte : uihCredits dlci buffer < 256 := by
    unfold uihCredits
    split_ifs
    · exact Nat.mod_lt _ (by decide)
    · decide
  have creditsOnData : uihCredits dlci buffer ≠ 0 → dlci ≠ rfcommMxDlci := by
    unfold uihCredits rfcommMxDlci
    split_ifs with onData <;> simp [onData]
  obtain ⟨address, control, lengthField, creditField, headerIs, eaSet, crRead, dlciRead,
    controlRead, lengthRead, creditRead⟩ := uihHeader_fields _ dlci buffer.len _ crBit small
      shortPayload creditByte creditsOnData
  have payloadLength : buffer.payload.length = buffer.len := buffer.length_payload (by omega)
  -- the receiver reads a credit byte exactly when the sender writes one
  have creditPresence (pf : Nat) : (dlci ≠ rfcommMxDlci ∧ pf = 1) ↔
      (receiver.flow = portFcCredit ∧ dlci ≠ rfcommMxDlci ∧ pf = 1) := by
    rcases creditBased with credited | onControl
    · simp [credited]
    · simp [onControl]
  obtain ⟨twoBytes, atMostRoom⟩ := length_uihHeader_le (rfcommCr sender.isInitiator true) dlci
    buffer.len (uihCredits dlci buffer)
  rw [rfcSendBufUih_eq sender dlci buffer headroom room shortPayload offsetFits]
  generalize uihHeader (rfcommCr sender.isInitiator true) dlci buffer.len
    (uihCredits dlci buffer) = header at headerIs twoBytes atMostRoom ⊢
  have headerLength : header.length = 2 + lengthField.length + creditField.length := by
    rw [headerIs]
    simp only [List.length_cons, List.length_append]
    omega
  simp only [rfcommMinOffset] at headroom atMostRoom
  -- the frame on the wire: header, payload and FCS
  have framed := window_writeAt_around buffer.data (buffer.offset - header.length) header
    buffer.payload (rfcCalcFcs (header.take 2)) (by omega)
    (by rw [Nat.sub_add_cancel (by omega), payloadLength]; rfl)
  have trailerAt : buffer.offset - header.length + header.length + buffer.payload.length =
      buffer.offset + buffer.len := by
    omega
  have frameLength : header.length + buffer.payload.length + 1 = buffer.len + header.length + 1 := by
    omega
  rw [trailerAt, frameLength] at framed
  have headerWritten : (writeAt buffer.data (buffer.offset - header.length) header).length =
      buffer.data.length :=
    length_writeAt _ _ _ (by omega)
  have sentLength : (writeAt (writeAt buffer.data (buffer.offset - header.length) header)
      (buffer.offset + buffer.len) [rfcCalcFcs (header.take 2)]).length = buffer.data.length := by
    rw [length_writeAt _ _ _ (by rw [headerWritten, List.length_singleton]; omega), headerWritten]
  -- the payload's window is untouched by the header before it and the FCS after it
  have untouched : window (writeAt (writeAt buffer.data (buffer.offset - header.length) header)
      (buffer.offset + buffer.len) [rfcCalcFcs (header.take 2)]) buffer.offset buffer.len =
      buffer.payload :=
    window_writeAt_between _ _ _ _ _ _ _ (by omega) (Nat.le_refl _) (by omega)
  generalize writeAt (writeAt buffer.data (buffer.offset - header.length) header)
    (buffer.offset + buffer.len) [rfcCalcFcs (header.take 2)] = sentData at framed sentLength untouched ⊢
  have received : BtHdr.payload { buffer with
      offset := buffer.offset - header.length
      len := buffer.len + header.length + 1
      data := sentData } =
      address :: control :: (lengthField ++ creditField ++ buffer.payload ++
        [rfcCalcFcs [address, control]]) := by
    rw [BtHdr.payload, framed, headerIs]
    simp
  have parsed := rfcParseData_uih receiver frame _ address control lengthField creditField
    buffer.payload _ dlci _ _ eaSet crRead dlciRead validDlci controlRead
    (payloadLength ▸ lengthRead) (CreditField.of_iff (creditPresence _) creditRead) received
    (by simp only [sentLength]; omega)
    (by dsimp only; omega)
  refine ⟨_, _, _, rfl, parsed, rfl, oppositeRoles ▸ command, ?credit, ?offset, payloadLength,
    ?payload⟩
  case credit =>
    show uihCredits dlci buffer = if dlci ≠ 0 then buffer.layerSpecific else 0
    unfold uihCredits
    simp only [rfcommMxDlci] at creditCount
    split_ifs <;> omega
  case offset =>
    show buffer.offset - header.length + 2 + lengthField.length + creditField.length = buffer.offset
    omega
  case payload =>
    have windowStart : buffer.offset - header.length + 2 + lengthField.length +
        creditField.length = buffer.offset := by
      omega
    rw [BtHdr.payload]
    simp only [windowStart, payloadLength, untouched]

/-- The UIH contract of the two sides: every frame `rfc_send_buf_uih` builds on
one side reads back on the other as the DLCI, credits and payload that were
sent, and every buffer `rfc_parse_data` is given is read inside its window,
leaving a window that ends before the FCS byte unless the frame is rejected. -/
theorem uihFrame_contract :
    (∀ (sender receiver : RfcMcb) (frame : MxFrame) (dlci : Nat) (buffer : BtHdr UInt8),
      rfcommValidDlci dlci = true → buffer.layerSpecific < 256 →
      receiver.flow = portFcCredit → receiver.isInitiator = !sender.isInitiator →
      rfcommMinOffset ≤ buffer.offset → buffer.offset + buffer.len + 1 ≤ buffer.data.length →
      buffer.len ≤ 32767 → buffer.offset + buffer.len + 1 < 65536 →
      ∃ sent parsedFrame parsedBuffer,
        rfcSendBufUih sender dlci buffer = some sent ∧
        rfcParseData receiver frame sent = some (.uih, parsedFrame, parsedBuffer) ∧
        parsedFrame.dlci = dlci ∧
        rfcommFrameIsCmd receiver.isInitiator parsedFrame.cr = true ∧
        parsedFrame.credit = (if dlci ≠ 0 then buffer.layerSpecific else 0) ∧
        parsedBuffer.offset = buffer.offset ∧ parsedBuffer.len = buffer.len ∧
        parsedBuffer.payload = buffer.payload) ∧
    (∀ (mcb : RfcMcb) (frame : MxFrame) (buffer : BtHdr UInt8),
      buffer.offset + buffer.len ≤ buffer.data.length → buffer.offset + buffer.len < 65536 →
      ∃ event parsedFrame parsedBuffer,
        rfcParseData mcb frame buffer = some (event, parsedFrame, parsedBuffer) ∧
        parsedBuffer.data = buffer.data ∧
        (event ≠ .badFrame → buffer.offset ≤ parsedBuffer.offset ∧
          parsedBuffer.offset + parsedBuffer.len + 1 ≤ buffer.offset + buffer.len)) :=
  ⟨fun sender receiver frame dlci buffer validDlci creditCount creditBased =>
      rfcSendBufUih_rfcParseData sender receiver frame dlci buffer validDlci (.inl creditCount)
        (.inl creditBased),
    rfcParseData_bounded⟩

/-- The contract at a one-byte payload with three credits on DLCI 2, sent by the
initiator, and at a received buffer of two bytes. -/
theorem uihFrame_contract_oneBytePayload :
    (∃ sent parsedFrame parsedBuffer,
      rfcSendBufUih ⟨true, portFcCredit⟩ 2 ⟨0, 1, 5, 3, [0, 0, 0, 0, 0, 0x41, 0]⟩ = some sent ∧
      rfcParseData ⟨false, portFcCredit⟩ ⟨0, 0, 0, 0, 0⟩ sent =
        some (.uih, parsedFrame, parsedBuffer) ∧
      parsedFrame.dlci = 2 ∧ rfcommFrameIsCmd false parsedFrame.cr = true ∧
      parsedFrame.credit = 3 ∧ parsedBuffer.offset = 5 ∧ parsedBuffer.len = 1 ∧
      parsedBuffer.payload = [0x41]) ∧
    (∃ event parsedFrame parsedBuffer,
      rfcParseData ⟨false, portFcCredit⟩ ⟨0, 0, 0, 0, 0⟩ ⟨0, 2, 0, 0, [0x0B, 0xEF]⟩ =
        some (event, parsedFrame, parsedBuffer) ∧
      parsedBuffer.data = [0x0B, 0xEF] ∧
      (event ≠ .badFrame → 0 ≤ parsedBuffer.offset ∧ parsedBuffer.offset + parsedBuffer.len + 1 ≤ 2)) :=
  ⟨uihFrame_contract.1 ⟨true, portFcCredit⟩ ⟨false, portFcCredit⟩ ⟨0, 0, 0, 0, 0⟩ 2
      ⟨0, 1, 5, 3, [0, 0, 0, 0, 0, 0x41, 0]⟩ (by decide) (by decide) rfl rfl (by decide)
      (by decide) (by decide) (by decide),
    uihFrame_contract.2 ⟨false, portFcCredit⟩ ⟨0, 0, 0, 0, 0⟩ ⟨0, 2, 0, 0, [0x0B, 0xEF]⟩
      (by decide) (by decide)⟩

end Fluoride.RfcommUih
