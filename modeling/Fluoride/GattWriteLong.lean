import Fluoride.ByteBuffer
import Fluoride.Segments
import Fluoride.Runs

/-!
# The GATT client's long write

A value longer than fits in one Write Request goes to the server in Prepare
Write requests (`gatt_send_prepare_write`), each carrying the handle, the
offset into the value and a piece of at most `payload_size - 5` octets. The
server echoes every Prepare Write request in its response;
`gatt_process_prep_write_rsp` reads the echo and `gatt_check_write_long_terminate`
compares it with what was sent. A good echo advances `p_attr->offset` and
either sends the next piece or ends the queue with an Execute Write request
that commits it; a bad one cancels the queue and reports `GATT_ERROR`. A write
started with `GATT_WRITE_PREPARE` only queues: it adds the application's
start offset to every offset it sends and hands each echo to the application.

The client state is the part of `tGATT_CLCB` and of its `tGATT_VALUE` buffer
that these functions read; a response is fed as the octets after its op code,
through the length check of `gatt_client_handle_server_rsp`. What the client
sends and reports are actions. Sending is assumed to succeed, as it does
whenever the ATT layer has a buffer.

Against a server that echoes every request, the requests cut the value into
the pieces of `Segments.segments` at the offsets where they start
(`gattWriteLong_echoRun`, `getElem?_prepareWrites`). A response whose handle,
length or value differs from the request ends the write with `GATT_ERROR`
(`gattProcessPrepWriteRsp_rejects`). The echoed offset is never read: a
response that echoes the handle and the value with a wrong offset is accepted
like an exact echo (`gattProcessPrepWriteRsp_echoedOffset`).
-/

namespace Fluoride.GattWriteLong

open ByteBuffer (u16 le16 readLe16 window)
open Segments (segments)
open Runs (run)

/-! ### Constants -/

/-- `GATT_HDR_SIZE`: op code and handle. -/
def gattHdrSize : Nat := 3

/-- `GATT_WRITE_LONG_HDR_SIZE`: op code, handle and offset. -/
def gattWriteLongHdrSize : Nat := 5

/-- `GATT_PREP_WRITE_RSP_MIN_LEN`. -/
def gattPrepWriteRspMinLen : Nat := 4

/-- `GATT_SUCCESS`. -/
def gattSuccess : Nat := 0x00

/-- `GATT_INVALID_PDU`. -/
def gattInvalidPdu : Nat := 0x04

/-- `GATT_ERROR`. -/
def gattError : Nat := 0x85

/-- `GATT_PREP_WRITE_CANCEL`. -/
def gattPrepWriteCancel : Nat := 0x00

/-- `GATT_PREP_WRITE_EXEC`. -/
def gattPrepWriteExec : Nat := 0x01

/-! ### Client state, actions and responses -/

/-- `tGATT_WRITE_TYPE`. -/
inductive WriteType where
  | writeNoRsp
  | write
  | writePrepare
  deriving DecidableEq, Repr

/-- `tGATT_VALUE`: the attribute handle, the offset, and the `len` octets of the
value. -/
structure GattValue where
  handle : Nat
  offset : Nat
  value : List UInt8
  deriving DecidableEq, Repr

/-- The fields of `tGATT_CLCB` a write reads and writes; `attr` is the
`tGATT_VALUE` in `p_attr_buf`. -/
structure Clcb where
  opSubtype : WriteType
  attr : GattValue
  counter : Nat
  startOffset : Nat
  status : Nat
  sHandle : Nat
  deriving DecidableEq, Repr

/-- What the client sends to the server or reports to the application. -/
inductive ClientAction where
  /-- `GATT_CMD_WRITE`, or `GATT_SIGN_CMD_WRITE` when the data is signed. -/
  | writeCommand (signed : Bool) (handle : Nat) (data : List UInt8)
  /-- `GATT_REQ_WRITE`. -/
  | writeRequest (handle : Nat) (data : List UInt8)
  /-- `GATT_REQ_PREPARE_WRITE`. -/
  | prepareWrite (handle offset : Nat) (data : List UInt8)
  /-- `GATT_REQ_EXEC_WRITE`. -/
  | executeWrite (flag : Nat)
  /-- `gatt_end_operation`: the operation ends with a status. -/
  | endOperation (status : Nat)
  deriving DecidableEq, Repr

/-- A server response to the outstanding request, as the octets after its op
code. -/
inductive ServerRsp where
  /-- `GATT_RSP_WRITE`. -/
  | write (data : List UInt8)
  /-- `GATT_RSP_PREPARE_WRITE`. -/
  | prepareWrite (data : List UInt8)
  /-- `GATT_RSP_EXEC_WRITE`. -/
  | execWrite (data : List UInt8)
  deriving DecidableEq, Repr

/-! ### The client -/

/-- `GATTC_Write`: the client's write state. A prepared write keeps the
application's offset as the start offset and writes its value from offset
0; the other fields of a newly allocated control block are zero. -/
def gattcWrite (type : WriteType) (write : GattValue) : Clcb :=
  { opSubtype := type,
    attr := if type = .writePrepare then { write with offset := 0 } else write,
    counter := 0,
    startOffset := if type = .writePrepare then write.offset else 0,
    status := 0,
    sHandle := 0 }

/-- `gatt_send_prepare_write`: send the next piece, at most
`payload_size - GATT_WRITE_LONG_HDR_SIZE` octets from `p_attr->offset`, and
remember its length in `p_clcb->counter`. The `uint16_t` arithmetic is
`u16`; `payload_size` is at least 23. -/
def gattSendPrepareWrite (payloadSize : Nat) (clcb : Clcb) : Clcb × ClientAction :=
  let attr := clcb.attr
  let toSend := u16 ((attr.value.length : Int) - attr.offset)
  let toSend :=
    if toSend > payloadSize - gattWriteLongHdrSize then payloadSize - gattWriteLongHdrSize
    else toSend
  let offset := if clcb.opSubtype = .writePrepare then u16 (attr.offset + clcb.startOffset)
    else attr.offset
  ({ clcb with sHandle := attr.handle, counter := toSend },
    .prepareWrite attr.handle offset (window attr.value attr.offset toSend))

/-- `gatt_send_queue_write_cancel`: the Execute Write request that commits or
cancels the queue. -/
def gattSendQueueWriteCancel (flag : Nat) : ClientAction :=
  .executeWrite flag

/-- `gatt_check_write_long_terminate` on a response value: whether the long
write ends, the state after the check, and the Execute Write request sent when
a write that is not a prepared write ends. The echoed offset is not compared. -/
def gattCheckWriteLongTerminate (clcb : Clcb) (rspValue : GattValue) :
    Bool × Clcb × List ClientAction :=
  let attr := clcb.attr
  let (terminate, flag, clcb) :=
    if rspValue.handle ≠ attr.handle ∨ rspValue.value.length ≠ clcb.counter ∨
        rspValue.value ≠ window attr.value attr.offset rspValue.value.length then
      -- data does not match
      (true, gattPrepWriteCancel, { clcb with status := gattError })
    else
      let offset := u16 (attr.offset + rspValue.value.length)
      (decide (offset ≥ attr.value.length), gattPrepWriteExec,
        { clcb with status := gattSuccess, attr := { attr with offset } })
  (terminate, clcb,
    if terminate ∧ clcb.opSubtype ≠ .writePrepare then [gattSendQueueWriteCancel flag] else [])

/-- `gatt_process_prep_write_rsp`: read the echoed handle, offset and value
from the `len` octets of the response, check them, and either send the next
piece or end. -/
def gattProcessPrepWriteRsp (payloadSize : Nat) (clcb : Clcb) (len : Nat) (data : List UInt8) :
    Clcb × List ClientAction :=
  if len < gattPrepWriteRspMinLen then (clcb, [.endOperation gattInvalidPdu])
  else
    let value : GattValue :=
      { handle := readLe16 data 0, offset := readLe16 data 2, value := window data 4 (len - 4) }
    let (terminate, clcb, sent) := gattCheckWriteLongTerminate clcb value
    if !terminate then
      let (clcb, request) := gattSendPrepareWrite payloadSize clcb
      (clcb, sent ++ [request])
    else if clcb.opSubtype = .writePrepare then
      -- the application checks the echo of a prepared write itself
      (clcb, sent ++ [.endOperation clcb.status])
    else (clcb, sent)

/-- `gatt_act_write`: start the write. A value that fits in one Write Request
goes as one; a longer one, and every prepared write, goes as Prepare Write
requests. -/
def gattActWrite (payloadSize : Nat) (signData : Bool) (clcb : Clcb) : Clcb × List ClientAction :=
  let attr := clcb.attr
  match clcb.opSubtype with
  | .writeNoRsp =>
    ({ clcb with sHandle := attr.handle },
      [.writeCommand signData attr.handle attr.value, .endOperation gattSuccess])
  | .write =>
    if attr.value.length ≤ payloadSize - gattHdrSize then
      ({ clcb with sHandle := attr.handle }, [.writeRequest attr.handle attr.value])
    else
      let (clcb, request) := gattSendPrepareWrite payloadSize clcb
      (clcb, [request])
  | .writePrepare =>
    let (clcb, request) := gattSendPrepareWrite payloadSize clcb
    (clcb, [request])

/-- `gatt_client_handle_server_rsp` for the responses of a write: a response of
`payload_size` octets or more ends the operation with `GATT_ERROR`; otherwise
it goes to its handler. The step cannot fail. -/
def gattClientHandleServerRsp (payloadSize : Nat) (clcb : Clcb) (rsp : ServerRsp) :
    Except Empty (Clcb × List ClientAction) :=
  match rsp with
  | .write data =>
    if data.length ≥ payloadSize then .ok (clcb, [.endOperation gattError])
    else .ok (clcb, [.endOperation gattSuccess])
  | .prepareWrite data =>
    if data.length ≥ payloadSize then .ok (clcb, [.endOperation gattError])
    else .ok (gattProcessPrepWriteRsp payloadSize clcb data.length data)
  | .execWrite data =>
    if data.length ≥ payloadSize then .ok (clcb, [.endOperation gattError])
    else .ok (clcb, [.endOperation clcb.status])

/-! ### The server -/

/-- The octets after the op code of a Prepare Write Response that echoes the
handle, the offset and the value of a request. -/
def echo (handle offset : Nat) (data : List UInt8) : List UInt8 :=
  le16 handle ++ le16 offset ++ data

/-- A server that echoes every Prepare Write request and accepts every other
request. -/
def echoRsp : ClientAction → ServerRsp
  | .prepareWrite handle offset data => .prepareWrite (echo handle offset data)
  | .writeRequest _ _ => .write []
  | _ => .execWrite []

@[simp] theorem length_echo (handle offset : Nat) (data : List UInt8) :
    (echo handle offset data).length = data.length + 4 := by
  simp only [echo, List.length_append, ByteBuffer.length_le16]
  omega

theorem readLe16_echo (handle offset : Nat) (data : List UInt8) :
    readLe16 (echo handle offset data) 0 = handle % 65536 := by
  rw [echo, List.append_assoc, ByteBuffer.readLe16_le16_append]

theorem window_echo (handle offset : Nat) (data : List UInt8) :
    window (echo handle offset data) 4 data.length = data := by
  simp [echo, window, ByteBuffer.le16]

/-! ### One step of the client -/

/-- The offset `gatt_send_prepare_write` puts in the request for the piece
that starts `sent` octets into the value: a prepared write adds the
application's start offset. -/
def requestOffset (clcb : Clcb) (sent : Nat) : Nat :=
  if clcb.opSubtype = .writePrepare then u16 (sent + clcb.startOffset) else sent

/-- A piece is what is left of the value, cut to `size` octets. -/
theorem take_drop_min (value : List UInt8) (sent size : Nat) :
    (value.drop sent).take (min (value.length - sent) size) = (value.drop sent).take size := by
  rw [← List.length_drop, ← List.take_take, List.take_of_length_le]
  rw [List.length_take]
  exact Nat.min_le_right _ _

/-- `gatt_send_prepare_write` on a value whose offset is inside it: the next
piece, and its length in the counter. -/
theorem gattSendPrepareWrite_eq (payloadSize : Nat) (clcb : Clcb)
    (inside : clcb.attr.offset ≤ clcb.attr.value.length)
    (shortValue : clcb.attr.value.length < 65536) :
    gattSendPrepareWrite payloadSize clcb =
      ({ clcb with
          sHandle := clcb.attr.handle
          counter := min (clcb.attr.value.length - clcb.attr.offset)
            (payloadSize - gattWriteLongHdrSize) },
        .prepareWrite clcb.attr.handle (requestOffset clcb clcb.attr.offset)
          ((clcb.attr.value.drop clcb.attr.offset).take (payloadSize - gattWriteLongHdrSize))) := by
  have left : u16 ((clcb.attr.value.length : Int) - clcb.attr.offset) =
      clcb.attr.value.length - clcb.attr.offset := by
    rw [ByteBuffer.u16_of_lt _ (by omega) (by omega)]
    omega
  have cut : (if clcb.attr.value.length - clcb.attr.offset > payloadSize - gattWriteLongHdrSize
      then payloadSize - gattWriteLongHdrSize else clcb.attr.value.length - clcb.attr.offset) =
      min (clcb.attr.value.length - clcb.attr.offset) (payloadSize - gattWriteLongHdrSize) := by
    split <;> omega
  simp only [gattSendPrepareWrite, left, cut, requestOffset, window, take_drop_min]

/-- A response that echoes the handle and the piece just sent is accepted,
whatever offset it echoes: the offset moves past the piece, the status is
`GATT_SUCCESS`, and a write that is not a prepared write commits the queue when
the value is done. -/
theorem gattCheckWriteLongTerminate_accepts (clcb : Clcb) (rspValue : GattValue)
    (sameHandle : rspValue.handle = clcb.attr.handle)
    (sameLength : rspValue.value.length = clcb.counter)
    (sameData : rspValue.value = window clcb.attr.value clcb.attr.offset clcb.counter) :
    let offset := u16 (clcb.attr.offset + clcb.counter)
    gattCheckWriteLongTerminate clcb rspValue =
      (decide (offset ≥ clcb.attr.value.length),
        { clcb with status := gattSuccess, attr := { clcb.attr with offset } },
        if offset ≥ clcb.attr.value.length ∧ clcb.opSubtype ≠ .writePrepare then
          [.executeWrite gattPrepWriteExec] else []) := by
  intro offset
  have matched : ¬ (rspValue.handle ≠ clcb.attr.handle ∨ rspValue.value.length ≠ clcb.counter ∨
      rspValue.value ≠ window clcb.attr.value clcb.attr.offset rspValue.value.length) := by
    rw [sameLength]
    simp [sameHandle, sameData]
  simp only [gattCheckWriteLongTerminate]
  rw [if_neg matched]
  simp only [sameLength, gattSendQueueWriteCancel, decide_eq_true_eq]
  rfl

/-- A response that differs from the request in handle, length or value cancels
the queue of a write and reports `GATT_ERROR`. -/
theorem gattCheckWriteLongTerminate_rejects (clcb : Clcb) (rspValue : GattValue)
    (differs : rspValue.handle ≠ clcb.attr.handle ∨ rspValue.value.length ≠ clcb.counter ∨
      rspValue.value ≠ window clcb.attr.value clcb.attr.offset rspValue.value.length) :
    gattCheckWriteLongTerminate clcb rspValue =
      (true, { clcb with status := gattError },
        if clcb.opSubtype ≠ .writePrepare then [.executeWrite gattPrepWriteCancel] else []) := by
  simp only [gattCheckWriteLongTerminate, if_pos differs, gattSendQueueWriteCancel, true_and]

/-- The client has sent the piece of `value` that starts `sent` octets in, cut
to `size` octets, and remembers its length. -/
structure Sending (size : Nat) (clcb : Clcb) (handle sent : Nat) (value : List UInt8) : Prop where
  attr : clcb.attr = ⟨handle, sent, value⟩
  counter : clcb.counter = min (value.length - sent) size
  inside : sent ≤ value.length

/-- The echo of the piece just sent, with any offset, moves the client to the
next piece, or ends the write: a prepared write reports `GATT_SUCCESS`, any
other write commits the queue. -/
theorem gattProcessPrepWriteRsp_echo (payloadSize : Nat) (clcb : Clcb) (handle sent echoed : Nat)
    (value : List UInt8) (sending : Sending (payloadSize - gattWriteLongHdrSize) clcb handle sent value)
    (smallHandle : handle < 65536) (shortValue : value.length < 65536) :
    let size := payloadSize - gattWriteLongHdrSize
    let piece := (value.drop sent).take size
    let next := sent + piece.length
    let accepted : Clcb := { clcb with status := gattSuccess, attr := ⟨handle, next, value⟩ }
    gattProcessPrepWriteRsp payloadSize clcb (echo handle echoed piece).length
        (echo handle echoed piece) =
      if next < value.length then
        ({ accepted with sHandle := handle, counter := min (value.length - next) size },
          [.prepareWrite handle (requestOffset clcb next) ((value.drop next).take size)])
      else if clcb.opSubtype = .writePrepare then (accepted, [.endOperation gattSuccess])
      else (accepted, [.executeWrite gattPrepWriteExec]) := by
  intro size piece next accepted
  obtain ⟨attrIs, counterIs, inside⟩ := sending
  have pieceLength : piece.length = clcb.counter := by
    simp only [piece, counterIs, List.length_take, List.length_drop]
    omega
  have nextInside : next ≤ value.length := by
    simp only [next, piece, List.length_take, List.length_drop]
    omega
  have notShort : ¬ (echo handle echoed piece).length < gattPrepWriteRspMinLen := by
    simp [gattPrepWriteRspMinLen]
  have handleRead : readLe16 (echo handle echoed piece) 0 = clcb.attr.handle := by
    rw [readLe16_echo, Nat.mod_eq_of_lt smallHandle, attrIs]
  have pieceRead : window (echo handle echoed piece) 4 ((echo handle echoed piece).length - 4) =
      piece := by
    rw [length_echo, Nat.add_sub_cancel, window_echo]
  have sameData : piece = window clcb.attr.value clcb.attr.offset clcb.counter := by
    simp only [attrIs, counterIs, window, piece, size, take_drop_min]
  have advanced : u16 (sent + clcb.counter) = next := by
    have fits : sent + piece.length < 65536 := by
      have : sent + piece.length ≤ value.length := nextInside
      omega
    rw [← pieceLength]
    exact ByteBuffer.u16_natCast _ fits
  have checked := gattCheckWriteLongTerminate_accepts clcb
    ⟨readLe16 (echo handle echoed piece) 0, readLe16 (echo handle echoed piece) 2,
      window (echo handle echoed piece) 4 ((echo handle echoed piece).length - 4)⟩
    handleRead (by rw [pieceRead, pieceLength]) (by rw [pieceRead]; exact sameData)
  rw [gattProcessPrepWriteRsp, if_neg notShort]
  simp only [checked]
  simp only [attrIs]
  simp only [advanced]
  by_cases more : next < value.length
  · have notDone : ¬ next ≥ value.length := by omega
    have resent := gattSendPrepareWrite_eq payloadSize accepted (by exact nextInside) shortValue
    simp only [notDone, more, decide_false, Bool.not_false, if_true, false_and, if_false,
      List.nil_append, accepted] at resent ⊢
    rw [resent]
    rfl
  · have done : next ≥ value.length := by omega
    by_cases prepared : clcb.opSubtype = .writePrepare
    · simp [done, more, prepared, accepted]
    · simp [done, more, prepared, accepted]

/-- The response to a Prepare Write request carries the echo from its fifth
octet on. -/
theorem drop_echo (handle offset : Nat) (data : List UInt8) :
    (echo handle offset data).drop 4 = data := by
  simp [echo, ByteBuffer.le16]

/-- `gatt_check_write_long_terminate` never reads the echoed offset. -/
theorem gattCheckWriteLongTerminate_offset (clcb : Clcb) (rspValue : GattValue) (offset : Nat) :
    gattCheckWriteLongTerminate clcb { rspValue with offset } =
      gattCheckWriteLongTerminate clcb rspValue := rfl

/-- Two Prepare Write Responses that differ only in the echoed offset are
handled alike: the client cannot tell a wrong offset from the right one. -/
theorem gattProcessPrepWriteRsp_echoedOffset (payloadSize : Nat) (clcb : Clcb)
    (handle offset otherOffset : Nat) (data : List UInt8) :
    gattProcessPrepWriteRsp payloadSize clcb (echo handle otherOffset data).length
        (echo handle otherOffset data) =
      gattProcessPrepWriteRsp payloadSize clcb (echo handle offset data).length
        (echo handle offset data) := by
  have sameHandle : readLe16 (echo handle otherOffset data) 0 = readLe16 (echo handle offset data) 0 := by
    rw [readLe16_echo, readLe16_echo]
  have sameValue (width : Nat) :
      window (echo handle otherOffset data) 4 width = window (echo handle offset data) 4 width := by
    rw [window, window, drop_echo, drop_echo]
  have checked := gattCheckWriteLongTerminate_offset clcb
    ⟨readLe16 (echo handle offset data) 0, readLe16 (echo handle offset data) 2,
      window (echo handle offset data) 4 (data.length + 4 - 4)⟩
    (readLe16 (echo handle otherOffset data) 2)
  simp only [gattProcessPrepWriteRsp, length_echo, sameHandle, sameValue]
  rw [checked]

/-- A Prepare Write Response whose handle, length or value differs from the
request ends the long write: a write cancels the queue, a prepared write reports
`GATT_ERROR`, and no further Prepare Write is sent. -/
theorem gattProcessPrepWriteRsp_rejects (payloadSize : Nat) (clcb : Clcb) (data : List UInt8)
    (long : gattPrepWriteRspMinLen ≤ data.length)
    (differs : readLe16 data 0 ≠ clcb.attr.handle ∨ data.length - 4 ≠ clcb.counter ∨
      data.drop 4 ≠ window clcb.attr.value clcb.attr.offset (data.length - 4)) :
    gattProcessPrepWriteRsp payloadSize clcb data.length data =
      ({ clcb with status := gattError },
        if clcb.opSubtype = .writePrepare then [.endOperation gattError]
        else [.executeWrite gattPrepWriteCancel]) := by
  have notShort : ¬ data.length < gattPrepWriteRspMinLen := Nat.not_lt.mpr long
  have wholeRest : window data 4 (data.length - 4) = data.drop 4 := by
    rw [window, List.take_of_length_le (List.length_drop ▸ Nat.le_refl _)]
  have valueLength : (window data 4 (data.length - 4)).length = data.length - 4 := by
    rw [wholeRest, List.length_drop]
  have checked := gattCheckWriteLongTerminate_rejects clcb
    ⟨readLe16 data 0, readLe16 data 2, window data 4 (data.length - 4)⟩
    (by rw [valueLength, wholeRest]; exact differs)
  rw [gattProcessPrepWriteRsp, if_neg notShort]
  simp only [checked]
  by_cases prepared : clcb.opSubtype = .writePrepare
  · simp [prepared]
  · simp [prepared]

/-- An echo of a piece that fits the payload passes the dispatcher's length
check and goes to `gatt_process_prep_write_rsp`. -/
theorem gattClientHandleServerRsp_echo (payloadSize : Nat) (clcb : Clcb) (handle offset : Nat)
    (piece : List UInt8) (fits : piece.length + gattWriteLongHdrSize ≤ payloadSize) :
    gattClientHandleServerRsp payloadSize clcb (echoRsp (.prepareWrite handle offset piece)) =
      .ok (gattProcessPrepWriteRsp payloadSize clcb (echo handle offset piece).length
        (echo handle offset piece)) := by
  have short : ¬ (echo handle offset piece).length ≥ payloadSize := by
    rw [length_echo]
    simp only [gattWriteLongHdrSize] at fits
    omega
  simp only [echoRsp, gattClientHandleServerRsp, if_neg short]

/-- The Execute Write Response ends the operation with the status the last
check left. -/
theorem gattClientHandleServerRsp_execWrite (payloadSize : Nat) (clcb : Clcb)
    (positive : 0 < payloadSize) :
    gattClientHandleServerRsp payloadSize clcb (echoRsp (.executeWrite gattPrepWriteExec)) =
      .ok (clcb, [.endOperation clcb.status]) := by
  have short : ¬ ([] : List UInt8).length ≥ payloadSize := by
    rw [List.length_nil]
    omega
  simp only [echoRsp, gattClientHandleServerRsp, if_neg short]

/-! ### A whole long write against an echoing server -/

/-- The Prepare Write requests for `pieces` of the value at `handle`, the first
starting `sent` octets in, each at the offset `offsetOf` gives its start. -/
def prepareWrites (offsetOf : Nat → Nat) (handle : Nat) : Nat → List (List UInt8) → List ClientAction
  | _, [] => []
  | sent, piece :: rest =>
    .prepareWrite handle (offsetOf sent) piece ::
      prepareWrites offsetOf handle (sent + piece.length) rest

/-- The Execute Write request that commits the queue once the last piece is
echoed; a prepared write leaves the queue to the application. -/
def commitRequests : WriteType → List ClientAction
  | .writePrepare => []
  | _ => [.executeWrite gattPrepWriteExec]

/-- The first request for the pieces of some data carries its first `size`
octets. -/
theorem prepareWrites_segments (offsetOf : Nat → Nat) (handle sent size : Nat) (data : List UInt8)
    (positive : 0 < size) :
    prepareWrites offsetOf handle sent (segments size data) =
      .prepareWrite handle (offsetOf sent) (data.take size) ::
        (prepareWrites offsetOf handle sent (segments size data)).tail := by
  by_cases fits : data.length ≤ size
  · rw [Segments.segments_of_le size data fits, List.take_of_length_le fits]
    rfl
  · rw [Segments.segments_of_lt size data positive (by omega)]
    rfl

/-- There is one request per piece. -/
@[simp] theorem length_prepareWrites (offsetOf : Nat → Nat) (handle sent : Nat)
    (pieces : List (List UInt8)) :
    (prepareWrites offsetOf handle sent pieces).length = pieces.length := by
  induction pieces generalizing sent with
  | nil => rfl
  | cons piece rest inductionHypothesis =>
    rw [prepareWrites, List.length_cons, List.length_cons, inductionHypothesis]

/-- The `index`-th request carries the `index`-th piece, at the offset where the
pieces before it end. -/
theorem getElem?_prepareWrites (offsetOf : Nat → Nat) (handle sent : Nat)
    (pieces : List (List UInt8)) (index : Nat) (inside : index < pieces.length) :
    (prepareWrites offsetOf handle sent pieces)[index]? =
      some (.prepareWrite handle (offsetOf (sent + (pieces.take index).flatten.length))
        pieces[index]) := by
  induction pieces generalizing sent index with
  | nil => exact absurd inside (Nat.not_lt_zero _)
  | cons piece rest inductionHypothesis =>
    cases index with
    | zero => simp [prepareWrites]
    | succ index =>
      have restInside : index < rest.length := by
        rw [List.length_cons] at inside
        omega
      rw [prepareWrites, List.getElem?_cons_succ, inductionHypothesis _ _ restInside,
        List.take_succ_cons, List.flatten_cons, List.length_append, Nat.add_assoc]
      rfl

section EchoRun

variable (payloadSize handle : Nat) (value : List UInt8)

/-- From any piece on, against a server that echoes every request, the client
sends a Prepare Write for each remaining piece of `segments`, commits the queue
of a write, and ends with `GATT_SUCCESS`. -/
theorem echoRun_from (bigPayload : gattWriteLongHdrSize < payloadSize)
    (smallHandle : handle < 65536) (shortValue : value.length < 65536) (clcb : Clcb) (sent : Nat)
    (sending : Sending (payloadSize - gattWriteLongHdrSize) clcb handle sent value) :
    ∃ final, run (gattClientHandleServerRsp payloadSize) clcb
        ((prepareWrites (requestOffset clcb) handle sent
            (segments (payloadSize - gattWriteLongHdrSize) (value.drop sent)) ++
          commitRequests clcb.opSubtype).map echoRsp) =
      .ok (final, (prepareWrites (requestOffset clcb) handle sent
            (segments (payloadSize - gattWriteLongHdrSize) (value.drop sent))).tail ++
          commitRequests clcb.opSubtype ++ [.endOperation gattSuccess]) := by
  have positive : 0 < payloadSize - gattWriteLongHdrSize := by omega
  generalize dataIs : value.drop sent = data
  -- the induction follows the cut of the rest of the value, one piece per step
  induction data using Segments.segments.induct (payloadSize - gattWriteLongHdrSize)
    generalizing clcb sent with
  | case1 data whole =>
    have fits : data.length ≤ payloadSize - gattWriteLongHdrSize := by omega
    have dataLength : data.length = value.length - sent := by rw [← dataIs, List.length_drop]
    have done : ¬ sent + data.length < value.length := by omega
    have stepped := gattProcessPrepWriteRsp_echo payloadSize clcb handle sent
      (requestOffset clcb sent) value sending smallHandle shortValue
    simp only [dataIs, List.take_of_length_le fits, if_neg done] at stepped
    have dispatched := gattClientHandleServerRsp_echo payloadSize clcb handle
      (requestOffset clcb sent) data (by omega)
    rw [Segments.segments_of_le _ data fits]
    cases type : clcb.opSubtype with
    | writePrepare =>
      simp only [type, if_true] at stepped
      simp only [prepareWrites, commitRequests, List.append_nil, List.map_cons, List.map_nil,
        List.tail_cons, List.nil_append]
      rw [Runs.run_cons_ok _ clcb _ _ _ _ (dispatched.trans (congrArg Except.ok stepped))]
      exact ⟨_, rfl⟩
    | write =>
      simp only [type, reduceCtorEq, if_false] at stepped
      simp only [prepareWrites, commitRequests, List.cons_append, List.nil_append, List.map_cons,
        List.map_nil, List.tail_cons]
      rw [Runs.run_cons_ok _ clcb _ _ _ _ (dispatched.trans (congrArg Except.ok stepped)),
        Runs.run_cons_ok _ _ _ _ _ _ (gattClientHandleServerRsp_execWrite payloadSize _ (by omega))]
      exact ⟨_, rfl⟩
    | writeNoRsp =>
      simp only [type, reduceCtorEq, if_false] at stepped
      simp only [prepareWrites, commitRequests, List.cons_append, List.nil_append, List.map_cons,
        List.map_nil, List.tail_cons]
      rw [Runs.run_cons_ok _ clcb _ _ _ _ (dispatched.trans (congrArg Except.ok stepped)),
        Runs.run_cons_ok _ _ _ _ _ _ (gattClientHandleServerRsp_execWrite payloadSize _ (by omega))]
      exact ⟨_, rfl⟩
  | case2 data cut inductionHypothesis =>
    have longer : payloadSize - gattWriteLongHdrSize < data.length := by omega
    have dataLength : data.length = value.length - sent := by rw [← dataIs, List.length_drop]
    have more : sent + (payloadSize - gattWriteLongHdrSize) < value.length := by omega
    have pieceLength : (data.take (payloadSize - gattWriteLongHdrSize)).length =
        payloadSize - gattWriteLongHdrSize := by
      rw [List.length_take]
      omega
    have restIs : value.drop (sent + (payloadSize - gattWriteLongHdrSize)) =
        data.drop (payloadSize - gattWriteLongHdrSize) := by
      rw [← dataIs, List.drop_drop]
    have stepped := gattProcessPrepWriteRsp_echo payloadSize clcb handle sent
      (requestOffset clcb sent) value sending smallHandle shortValue
    simp only [dataIs, pieceLength, if_pos more, restIs] at stepped
    have dispatched := gattClientHandleServerRsp_echo payloadSize clcb handle
      (requestOffset clcb sent) (data.take (payloadSize - gattWriteLongHdrSize)) (by omega)
    -- the state in which the client waits for the echo of the next piece
    let next : Clcb := { clcb with
      status := gattSuccess
      attr := ⟨handle, sent + (payloadSize - gattWriteLongHdrSize), value⟩
      sHandle := handle
      counter := min (value.length - (sent + (payloadSize - gattWriteLongHdrSize)))
        (payloadSize - gattWriteLongHdrSize) }
    have sameOffset : requestOffset next = requestOffset clcb := rfl
    have sameType : next.opSubtype = clcb.opSubtype := rfl
    obtain ⟨final, ran⟩ := inductionHypothesis next (sent + (payloadSize - gattWriteLongHdrSize))
      ⟨rfl, rfl, by omega⟩ restIs
    rw [sameOffset, sameType] at ran
    rw [Segments.segments_of_lt _ data positive longer]
    simp only [prepareWrites, pieceLength, List.cons_append, List.map_cons, List.tail_cons]
    rw [Runs.run_cons_ok _ clcb next _ _ _ (dispatched.trans (congrArg Except.ok stepped)), ran]
    refine ⟨final, ?_⟩
    conv_rhs => rw [prepareWrites_segments _ _ _ _ _ positive]
    rfl

end EchoRun

/-- A write too long for one Write Request, and every prepared write, starts
with its first Prepare Write. -/
theorem gattActWrite_prepare (payloadSize : Nat) (signData : Bool) (clcb : Clcb)
    (longWrite : clcb.opSubtype = .write ∧ payloadSize - gattHdrSize < clcb.attr.value.length ∨
      clcb.opSubtype = .writePrepare) :
    gattActWrite payloadSize signData clcb =
      ((gattSendPrepareWrite payloadSize clcb).1, [(gattSendPrepareWrite payloadSize clcb).2]) := by
  rcases longWrite with ⟨isWrite, long⟩ | isPrepare
  · have notFits : ¬ clcb.attr.value.length ≤ payloadSize - gattHdrSize := Nat.not_le.mpr long
    simp only [gattActWrite, isWrite, if_neg notFits]
  · simp only [gattActWrite, isPrepare]

/-- A long write started by `GATTC_Write` and `gatt_act_write`, against a
server that echoes every request: the client cuts the value from where the
write starts into the pieces of `segments`, sends one Prepare Write per piece at
the offset where the piece starts (after the application's offset, for a
prepared write), commits the queue of a write with one Execute Write, and ends
with `GATT_SUCCESS`. -/
theorem gattWriteLong_echoRun (payloadSize : Nat) (signData : Bool) (type : WriteType)
    (write : GattValue) (bigPayload : gattWriteLongHdrSize < payloadSize)
    (longWrite : type = .write ∧ payloadSize - gattHdrSize < write.value.length ∧
        write.offset ≤ write.value.length ∨ type = .writePrepare)
    (smallHandle : write.handle < 65536) (shortValue : write.value.length < 65536) :
    let clcb := gattcWrite type write
    let requests := prepareWrites (requestOffset clcb) write.handle clcb.attr.offset
      (segments (payloadSize - gattWriteLongHdrSize) (write.value.drop clcb.attr.offset))
    ∃ started final,
      gattActWrite payloadSize signData clcb = (started, requests.take 1) ∧
      run (gattClientHandleServerRsp payloadSize) started
          ((requests ++ commitRequests type).map echoRsp) =
        .ok (final, requests.drop 1 ++ commitRequests type ++ [.endOperation gattSuccess]) := by
  intro clcb requests
  have positive : 0 < payloadSize - gattWriteLongHdrSize := by omega
  have attrIs : clcb.attr = ⟨write.handle, clcb.attr.offset, write.value⟩ := by
    simp only [clcb, gattcWrite]
    split <;> rfl
  have inside : clcb.attr.offset ≤ clcb.attr.value.length := by
    rcases longWrite with ⟨isWrite, _, inside⟩ | isPrepare
    · simp [clcb, gattcWrite, isWrite, inside]
    · simp [clcb, gattcWrite, isPrepare]
  have clcbLong : clcb.opSubtype = .write ∧ payloadSize - gattHdrSize < clcb.attr.value.length ∨
      clcb.opSubtype = .writePrepare := by
    rcases longWrite with ⟨isWrite, long, _⟩ | isPrepare
    · exact Or.inl ⟨isWrite, by rw [attrIs]; exact long⟩
    · exact Or.inr isPrepare
  have handleIs : clcb.attr.handle = write.handle := by rw [attrIs]
  have valueIs : clcb.attr.value = write.value := by rw [attrIs]
  have sent := gattSendPrepareWrite_eq payloadSize clcb inside (by rw [valueIs]; exact shortValue)
  rw [handleIs, valueIs] at sent
  -- the state in which the client waits for the echo of the first piece
  let started : Clcb := { clcb with
    sHandle := write.handle
    counter := min (write.value.length - clcb.attr.offset) (payloadSize - gattWriteLongHdrSize) }
  have sending : Sending (payloadSize - gattWriteLongHdrSize) started write.handle clcb.attr.offset
      write.value := ⟨attrIs, rfl, by rw [attrIs] at inside; exact inside⟩
  obtain ⟨final, ran⟩ := echoRun_from payloadSize write.handle write.value bigPayload smallHandle
    shortValue started clcb.attr.offset sending
  have firstRequest := prepareWrites_segments (requestOffset clcb) write.handle clcb.attr.offset
    (payloadSize - gattWriteLongHdrSize) (write.value.drop clcb.attr.offset) positive
  refine ⟨started, final, ?_, ?_⟩
  · rw [gattActWrite_prepare payloadSize signData clcb clcbLong, sent]
    simp only [requests]
    rw [firstRequest, List.take_succ_cons, List.take_zero]
  · rw [List.drop_one]
    exact ran

/-- The octets `0`, `1`, ... up to `count - 1`. -/
def countingOctets (count : Nat) : List UInt8 :=
  (List.range count).map UInt8.ofNat

/-- A 40-octet write over a 23-octet payload. The server echoes the first piece
with offset 5 where the request had 0, and the client accepts the echo and
sends the second piece. -/
theorem gattWriteLong_wrongOffsetAccepted :
    (gattActWrite 23 false (gattcWrite .write ⟨0x10, 0, countingOctets 40⟩)).2 =
        [.prepareWrite 0x10 0 ((countingOctets 40).take 18)] ∧
      (gattClientHandleServerRsp 23
          (gattActWrite 23 false (gattcWrite .write ⟨0x10, 0, countingOctets 40⟩)).1
          (.prepareWrite (echo 0x10 5 ((countingOctets 40).take 18)))).map
          (fun reply => (reply.1.status, reply.2)) =
        .ok (gattSuccess, [.prepareWrite 0x10 18 (((countingOctets 40).drop 18).take 18)]) := by
  decide

end Fluoride.GattWriteLong
