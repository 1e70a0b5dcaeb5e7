import Fluoride.ByteBuffer

/-!
# Building ATT PDUs that carry an attribute value

`attp_build_value_cmd` (`stack/gatt/att_protocol.cc`) streams an ATT PDU: the
op code, for a Read By Type response the length of each handle-value pair, the
attribute handle (not in Read and Read Blob responses), the value offset of a
prepare write, then the value. A value that would pass `payload_size` (the
ATT MTU) is cut to the room left after the header, and the pair length of a
Read By Type response, computed into a `uint8_t` as `len + 2` before the cut,
is patched to the cut length plus two.

Every PDU is the header followed by the longest prefix of the value that fits,
so it never passes the MTU (`attpBuildValueCmd_layout`). The pair length is
stored in one byte: it counts the bytes after it only while the handle and the
value prefix are fewer than 256 bytes (`pairLength_eq_iff`), which an MTU
above 257 lets an application's value pass.

`attp_build_sr_msg` picks the builder for each server response; every response
it builds fits the MTU (`attpBuildSrMsg_fits`).
-/

namespace Fluoride.AttProtocol

open ByteBuffer

/-! ## Op codes -/

def gattRspError : Nat := 0x01
def gattRspMtu : Nat := 0x03
def gattRspReadByType : Nat := 0x09
def gattRspRead : Nat := 0x0B
def gattRspReadBlob : Nat := 0x0D
def gattRspWrite : Nat := 0x13
def gattReqPrepareWrite : Nat := 0x16
def gattRspPrepareWrite : Nat := 0x17
def gattReqExecWrite : Nat := 0x18
def gattRspExecWrite : Nat := 0x19
def gattHandleValueNotif : Nat := 0x1B
def gattHandleValueInd : Nat := 0x1D

def gattPrepWriteExec : Nat := 0x01

/-! ## attp_build_value_cmd -/

/-- The fields `attp_build_value_cmd` streams before the value: the op code, the
pair length of a Read By Type response, the handle except in Read and Read Blob
responses, and the offset of a prepare write request or response. -/
def valueHeader (opCode handle offset pairLen : Nat) : List UInt8 :=
  UInt8.ofNat opCode ::
    ((if opCode = gattRspReadByType then [UInt8.ofNat pairLen] else []) ++
      (if opCode ≠ gattRspReadBlob ∧ opCode ≠ gattRspRead then le16 handle else []) ++
      (if opCode = gattReqPrepareWrite ∨ opCode = gattRspPrepareWrite then le16 offset else []))

/-- `attp_build_value_cmd`: the `len` bytes of the built buffer from its
`offset`. When `payload_size - p_buf->len < len` the value is cut to
`payload_size - p_buf->len` (a `uint16_t`) and a Read By Type response's pair
length byte, at index 1, is rewritten to the cut length plus two. A value is
copied only when `len > 0` and `p_data` is not null. -/
def attpBuildValueCmd (payloadSize opCode handle offset len : Nat)
    (pData : Option (List UInt8)) : List UInt8 :=
  let header := valueHeader opCode handle offset (len + 2)
  match pData with
  | some data =>
    if 0 < len then
      if (payloadSize : Int) - header.length < len then
        let cut := u16 ((payloadSize : Int) - header.length)
        let patched :=
          if opCode = gattRspReadByType then header.set 1 (UInt8.ofNat (cut + 2)) else header
        patched ++ data.take cut
      else header ++ data.take len
    else header
  | none => header

/-- The header's length, by op code. -/
def headerLength (opCode : Nat) : Nat :=
  1 + (if opCode = gattRspReadByType then 1 else 0) +
    (if opCode ≠ gattRspReadBlob ∧ opCode ≠ gattRspRead then 2 else 0) +
    (if opCode = gattReqPrepareWrite ∨ opCode = gattRspPrepareWrite then 2 else 0)

@[simp] theorem length_valueHeader (opCode handle offset pairLen : Nat) :
    (valueHeader opCode handle offset pairLen).length = headerLength opCode := by
  unfold valueHeader headerLength
  split_ifs <;> simp only [List.length_cons, List.length_append, List.length_nil, length_le16]

/-- No header is longer than a prepare write's five bytes. -/
theorem headerLength_le (opCode : Nat) : headerLength opCode ≤ 5 := by
  unfold headerLength gattRspReadByType gattReqPrepareWrite gattRspPrepareWrite
  split_ifs <;> omega

/-- Only a Read By Type response carries the pair length. -/
theorem valueHeader_of_ne (opCode handle offset pairLen otherLen : Nat)
    (notReadByType : opCode ≠ gattRspReadByType) :
    valueHeader opCode handle offset pairLen = valueHeader opCode handle offset otherLen := by
  simp only [valueHeader, if_neg notReadByType]

/-- Patching the byte after the op code rewrites the pair length. -/
theorem set_valueHeader (handle offset pairLen otherLen : Nat) :
    (valueHeader gattRspReadByType handle offset pairLen).set 1 (UInt8.ofNat otherLen) =
      valueHeader gattRspReadByType handle offset otherLen := by
  rfl

/-- The built PDU: the header, with the pair length counting the value bytes
sent, followed by the longest prefix of the value that fits in
`payload_size`. -/
theorem attpBuildValueCmd_layout (payloadSize opCode handle offset : Nat) (value : List UInt8)
    (roomy : headerLength opCode ≤ payloadSize) (short : payloadSize < 65536) :
    let sent : Nat := min value.length (payloadSize - headerLength opCode)
    attpBuildValueCmd payloadSize opCode handle offset value.length (some value) =
      valueHeader opCode handle offset (sent + 2) ++ value.take sent := by
  intro sent
  simp only [attpBuildValueCmd, length_valueHeader]
  by_cases empty : value = []
  · subst empty
    have none : sent = 0 := Nat.zero_min _
    rw [List.length_nil, if_neg (Nat.lt_irrefl 0), none, List.take_nil, List.append_nil]
  · have nonempty : 0 < value.length := List.length_pos_iff.mpr empty
    rw [if_pos nonempty]
    split_ifs with cut readByType
    · -- the value is cut and the pair length patched
      have cutSent : sent = payloadSize - headerLength opCode := by omega
      rw [u16_sub payloadSize (headerLength opCode) roomy short, cutSent, readByType,
        set_valueHeader]
    · -- the value is cut, and there is no pair length to patch
      have cutSent : sent = payloadSize - headerLength opCode := by omega
      rw [u16_sub payloadSize (headerLength opCode) roomy short, cutSent,
        valueHeader_of_ne _ _ _ _ _ readByType]
    · -- the whole value fits
      have whole : sent = value.length := by omega
      rw [whole]

/-- No value PDU passes the MTU. -/
theorem attpBuildValueCmd_length_le (payloadSize opCode handle offset : Nat)
    (value : List UInt8) (roomy : headerLength opCode ≤ payloadSize)
    (short : payloadSize < 65536) :
    (attpBuildValueCmd payloadSize opCode handle offset value.length (some value)).length ≤
      payloadSize := by
  rw [attpBuildValueCmd_layout payloadSize opCode handle offset value roomy short]
  simp only [List.length_append, length_valueHeader, List.length_take]
  omega

/-- A Read By Type response is the op code, the pair length, the handle, and the
value prefix sent. -/
theorem attpBuildValueCmd_readByType (payloadSize handle : Nat) (value : List UInt8)
    (roomy : 4 ≤ payloadSize) (short : payloadSize < 65536) :
    let sent : Nat := min value.length (payloadSize - 4)
    attpBuildValueCmd payloadSize gattRspReadByType handle 0 value.length (some value) =
      UInt8.ofNat gattRspReadByType :: UInt8.ofNat (sent + 2) :: (le16 handle ++ value.take sent) := by
  intro sent
  have length : headerLength gattRspReadByType = 4 := rfl
  have layout := attpBuildValueCmd_layout payloadSize gattRspReadByType handle 0 value
    (by omega) short
  rw [length] at layout
  rw [layout]
  rfl

/-- The pair length byte of a Read By Type response counts the bytes after it
exactly when they are fewer than 256. -/
theorem pairLength_eq_iff (payloadSize handle : Nat) (value : List UInt8)
    (roomy : 4 ≤ payloadSize) (short : payloadSize < 65536) :
    let pdu : List UInt8 :=
      attpBuildValueCmd payloadSize gattRspReadByType handle 0 value.length (some value)
    ((pdu.getD 1 0).toNat = pdu.length - 2 ↔ pdu.length - 2 < 256) := by
  intro pdu
  have built := attpBuildValueCmd_readByType payloadSize handle value roomy short
  simp only [pdu, built, List.getD_cons_succ, List.getD_cons_zero, UInt8.toNat_ofNat',
    List.length_cons, List.length_append, length_le16, List.length_take]
  omega

/-- At an MTU of 517 a Read By Type response with a 300-byte value is sent
whole, and its pair length byte reads 46 while the 302 bytes of the handle and
the value follow it. -/
theorem attpBuildValueCmd_pairLengthWraps :
    attpBuildValueCmd 517 gattRspReadByType 3 0 300 (some (List.replicate 300 0x41)) =
        UInt8.ofNat gattRspReadByType :: 46 :: (le16 3 ++ List.replicate 300 0x41) ∧
      (le16 3 ++ List.replicate 300 0x41).length = 302 := by
  have built := attpBuildValueCmd_readByType 517 3 (List.replicate 300 0x41) (by omega)
    (by omega)
  rw [List.length_replicate] at built
  have sent : min 300 (517 - 4) = 300 := by omega
  refine ⟨?_, ?_⟩
  · rw [built]
    simp only [sent, List.take_replicate, Nat.min_self]
    rfl
  · simp only [List.length_append, length_le16, List.length_replicate]

/-! ## attp_build_sr_msg -/

/-- The fields of `tGATT_VALUE` the builders read. -/
structure GattValue where
  handle : Nat
  offset : Nat
  len : Nat
  value : List UInt8
  deriving Repr, DecidableEq

/-- `tGATT_ERROR`. -/
structure GattError where
  handle : Nat
  cmdCode : Nat
  reason : Nat
  deriving Repr, DecidableEq

/-- `tGATT_SR_MSG`, a union of which each op code reads one member. -/
structure GattSrMsg where
  attrValue : GattValue
  error : GattError
  mtu : Nat
  deriving Repr, DecidableEq

/-- `attp_build_mtu_cmd`: the op code and the MTU. -/
def attpBuildMtuCmd (opCode rxMtu : Nat) : List UInt8 :=
  UInt8.ofNat opCode :: le16 rxMtu

/-- `attp_build_exec_write_cmd`: the op code, and for a request the flag masked
to `GATT_PREP_WRITE_EXEC`. -/
def attpBuildExecWriteCmd (opCode flag : Nat) : List UInt8 :=
  UInt8.ofNat opCode ::
    (if opCode = gattReqExecWrite then [UInt8.ofNat flag &&& UInt8.ofNat gattPrepWriteExec] else [])

/-- `attp_build_err_cmd`: `GATT_RSP_ERROR`, the failed request's op code, the
handle and the reason. -/
def attpBuildErrCmd (cmdCode errHandle reason : Nat) : List UInt8 :=
  UInt8.ofNat gattRspError :: UInt8.ofNat cmdCode :: (le16 errHandle ++ [UInt8.ofNat reason])

/-- `attp_build_opcode_cmd`: the op code alone. -/
def attpBuildOpcodeCmd (opCode : Nat) : List UInt8 :=
  [UInt8.ofNat opCode]

/-- `attp_build_sr_msg`: the server response for `op_code`, or `none` for an op
code it does not build (`LOG(FATAL)`). Only Read Blob and prepare write
responses carry the message's offset. -/
def attpBuildSrMsg (payloadSize opCode : Nat) (msg : GattSrMsg) : Option (List UInt8) :=
  if opCode = gattRspReadBlob ∨ opCode = gattRspPrepareWrite then
    some (attpBuildValueCmd payloadSize opCode msg.attrValue.handle msg.attrValue.offset
      msg.attrValue.len (some msg.attrValue.value))
  else if opCode = gattRspReadByType ∨ opCode = gattRspRead ∨ opCode = gattHandleValueNotif ∨
      opCode = gattHandleValueInd then
    some (attpBuildValueCmd payloadSize opCode msg.attrValue.handle 0 msg.attrValue.len
      (some msg.attrValue.value))
  else if opCode = gattRspWrite then some (attpBuildOpcodeCmd opCode)
  else if opCode = gattRspError then
    some (attpBuildErrCmd msg.error.cmdCode msg.error.handle msg.error.reason)
  else if opCode = gattRspExecWrite then some (attpBuildExecWriteCmd opCode 0)
  else if opCode = gattRspMtu then some (attpBuildMtuCmd opCode msg.mtu)
  else none

/-- An Error Response is built from the message's error member. -/
theorem attpBuildSrMsg_error (payloadSize : Nat) (msg : GattSrMsg) :
    attpBuildSrMsg payloadSize gattRspError msg =
      some (attpBuildErrCmd msg.error.cmdCode msg.error.handle msg.error.reason) := by
  rfl

/-- A value PDU fits the MTU whatever `len` says of the value it copies from. -/
theorem attpBuildValueCmd_fits (payloadSize opCode handle offset len : Nat)
    (data : List UInt8) (roomy : headerLength opCode ≤ payloadSize)
    (short : payloadSize < 65536) :
    (attpBuildValueCmd payloadSize opCode handle offset len (some data)).length ≤ payloadSize := by
  simp only [attpBuildValueCmd, length_valueHeader]
  split_ifs with nonempty cut readByType
  · rw [u16_sub payloadSize (headerLength opCode) roomy short]
    simp only [List.length_append, List.length_set, length_valueHeader, List.length_take]
    omega
  · rw [u16_sub payloadSize (headerLength opCode) roomy short]
    simp only [List.length_append, length_valueHeader, List.length_take]
    omega
  · simp only [List.length_append, length_valueHeader, List.length_take]
    omega
  · simp only [length_valueHeader]
    exact roomy

/-- Every server response `attp_build_sr_msg` builds fits an MTU of at least
five bytes. -/
theorem attpBuildSrMsg_fits (payloadSize opCode : Nat) (msg : GattSrMsg) (pdu : List UInt8)
    (roomy : 5 ≤ payloadSize) (short : payloadSize < 65536)
    (built : attpBuildSrMsg payloadSize opCode msg = some pdu) : pdu.length ≤ payloadSize := by
  have header := Nat.le_trans (headerLength_le opCode) roomy
  unfold attpBuildSrMsg at built
  split_ifs at built with offsetValue plainValue write error exec mtu <;> cases built
  · exact attpBuildValueCmd_fits _ _ _ _ _ _ header short
  · exact attpBuildValueCmd_fits _ _ _ _ _ _ header short
  · simp only [attpBuildOpcodeCmd, List.length_singleton]
    omega
  · simp only [attpBuildErrCmd, List.length_cons, List.length_append, length_le16]
    omega
  · -- a response carries no flag
    have single : (attpBuildExecWriteCmd gattRspExecWrite 0).length = 1 := rfl
    rw [exec, single]
    omega
  · simp only [attpBuildMtuCmd, List.length_cons, length_le16]
    omega

end Fluoride.AttProtocol
