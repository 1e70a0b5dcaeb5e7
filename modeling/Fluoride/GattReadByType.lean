import Fluoride.GattReadMulti

/-!
# The GATT server's Read By Type response

`gatts_process_read_by_type_req` (`stack/gatt/gatt_sr.cc`) answers a Read By
Type request for `(s_hdl, e_hdl, type)` from every registered service whose
range meets `[s_hdl, e_hdl]`. On each it calls
`gatts_db_read_attr_value_by_type` (`stack/gatt/gatt_db.cc`), which walks the
service's attributes and appends a record, the handle and the value, for each
attribute of the requested type. The services share one response: its length,
the buffer left (`buf_len`), and the size of a record, latched in
`p_msg->offset` by the first record and sent as the response's length byte.

Whatever the database, every record of the response has the latched size and
is the handle and value of an attribute of the requested type at or above
`s_hdl`, and the response fits the payload size (`readByTypeServices_records`,
`length_rspPdu`). The upper end of the range is checked for the service only:
the attribute loop tests `attr.handle >= s_hdl` and nothing else, so a service
that straddles `e_hdl` answers with its attributes above it
(`readByType_recordAboveRange`).

Type comparison is that of `GattPerm.Uuid`, which tells 16-bit UUIDs apart
and takes every wider UUID as one.
-/

namespace Fluoride.GattReadByType

open GattPerm (Uuid)
open GattReadMulti (DbAttr Service Tcb ReadOutcome readAttrValue gattsSendAppReadRequest
  attpSendSrMsg gattSendErrorRsp gattSuccess gattInvalidHandle gattInvalidPdu gattNotFound
  gattNoResources gattBusy gattPending)
open ByteBuffer (le16 readLe16)

def gattReqReadByType : Nat := 0x08

/-! ## Parsing the request -/

/-- `read_handles`, on the request after its op code: the range and the bytes
after it. An error carries the status and the `s_hdl` its Error Response names;
no handle is read from fewer than four bytes. -/
def readHandles (payload : List UInt8) : Except (Nat × Nat) (Nat × Nat × List UInt8) :=
  if payload.length < 4 then .error (gattInvalidPdu, 0)
  else
    let sHdl := readLe16 payload 0
    let eHdl := readLe16 payload 2
    -- `GATT_HANDLE_IS_VALID(x)` is `x != 0`
    if sHdl > eHdl ∨ sHdl = 0 ∨ eHdl = 0 then .error (gattInvalidHandle, sHdl)
    else .ok (sHdl, eHdl, payload.drop 4)

/-- The twelve low bytes of the base UUID, little endian. -/
def baseLow : List UInt8 := [0xfb, 0x34, 0x9b, 0x5f, 0x80, 0x00, 0x00, 0x80, 0x00, 0x10, 0x00, 0x00]

/-- `Uuid::From128BitLE` of sixteen bytes, as `GattPerm.Uuid` sees it: empty
when every byte is zero, a 16-bit UUID when the bytes are the base UUID with a
16-bit value in bytes 12 and 13. -/
def from128BitLE (bytes : List UInt8) : Uuid :=
  if bytes.take 16 = List.replicate 16 0 then .empty
  else if bytes.take 12 = baseLow ∧ bytes.getD 14 0 = 0 ∧ bytes.getD 15 0 = 0 then
    .bit16 (readLe16 bytes 12)
  else .wide

/-- `gatt_parse_uuid_from_cmd` on `uuid_size` bytes: none where it returns
false. An empty UUID leaves the `Uuid::kEmpty` the callers start from. -/
def gattParseUuidFromCmd (uuidSize : Nat) (bytes : List UInt8) : Option Uuid :=
  if uuidSize = 2 then some (.bit16 (readLe16 bytes 0))
  else if uuidSize = 16 then some (from128BitLE bytes)
  else if uuidSize = 0 then some .empty
  else none

/-- `gatts_validate_packet_format` for a Read By Type request: the range, then
a UUID of every byte left. -/
def gattsValidatePacketFormat (payload : List UInt8) : Except (Nat × Nat) (Nat × Nat × Uuid) :=
  match readHandles payload with
  | .error failure => .error failure
  | .ok (sHdl, eHdl, rest) =>
    if rest.length < 2 then .error (gattInvalidPdu, sHdl)
    else
      match gattParseUuidFromCmd rest.length rest with
      | some uuid => .ok (sHdl, eHdl, uuid)
      | none => .error (gattInvalidPdu, sHdl)

/-! ## The response -/

/-- The part of the response's `BT_HDR` the loops update: `len`, the record
size latched in `offset`, and the bytes after the length byte. -/
structure RspMsg where
  len : Nat
  offset : Nat
  data : List UInt8
  deriving DecidableEq, Repr

/-- What the loops carry besides their status: the server, the response, the
buffer left (`buf_len`, the callee's `*p_len`) and the handle of a failed read
(`err_hdl`, the callee's `*p_cur_handle`). -/
structure ByTypeState where
  tcb : Tcb
  msg : RspMsg
  bufLen : Nat
  curHandle : Nat

/-- The loop of `gatts_db_read_attr_value_by_type` over a service's
attributes, from the status reached so far. Every attribute at or above
`s_handle` of the requested type is read with room for `*p_len - 2` bytes; the
loop ends at the first read that is not a value of the latched size. The sums
on `p_rsp->len` and `*p_len` stay below `2 ^ 16`: a value is read only into
the room left. -/
def attrValueByTypeLoop (service : Service) (opCode sHandle : Nat) (type : Uuid)
    (secFlag keySize transId : Nat) : List DbAttr → Nat → ByTypeState → Nat × ByTypeState
  | [], status, state => (status, state)
  | attr :: attrs, status, state =>
    if attr.handle ≥ sHandle ∧ type = attr.attr.uuid then
      if state.bufLen ≤ 2 then (gattNoResources, state)
      else
        match readAttrValue attr false (state.bufLen - 2) secFlag keySize with
        | .pending =>
          -- one callback at a time
          let (tcb, status) := gattsSendAppReadRequest state.tcb service attr opCode transId
          (status, { state with tcb := tcb })
        | .value bytes =>
          let offset := if state.msg.offset = 0 then bytes.length + 2 else state.msg.offset
          if offset = bytes.length + 2 then
            attrValueByTypeLoop service opCode sHandle type secFlag keySize transId attrs gattSuccess
              { state with
                msg := ⟨state.msg.len + (bytes.length + 2), offset,
                  state.msg.data ++ le16 attr.handle ++ bytes⟩
                bufLen := state.bufLen - (bytes.length + 2) }
          -- format mismatch
          else (gattNoResources, state)
        | .failed status => (status, { state with curHandle := attr.handle })
    else attrValueByTypeLoop service opCode sHandle type secFlag keySize transId attrs status state

/-- `gatts_db_read_attr_value_by_type` on one service, with transaction 0. -/
def gattsDbReadAttrValueByType (service : Service) (opCode sHandle : Nat) (type : Uuid)
    (secFlag keySize : Nat) (state : ByTypeState) : Nat × ByTypeState :=
  attrValueByTypeLoop service opCode sHandle type secFlag keySize 0 service.attrs gattNotFound state

/-- The loop of `gatts_process_read_by_type_req` over `srv_list_info`: every
service whose range meets `[s_hdl, e_hdl]` is read into the shared response.
Returns the reason and the `s_hdl` an Error Response names: a read that
neither succeeds nor finds nothing ends the loop and names `err_hdl`. -/
def readByTypeServices (opCode sHdl eHdl : Nat) (type : Uuid) (secFlag keySize : Nat) :
    List Service → Nat → ByTypeState → Nat × Nat × ByTypeState
  | [], reason, state => (reason, sHdl, state)
  | el :: els, reason, state =>
    if el.sHdl ≤ eHdl ∧ el.eHdl ≥ sHdl then
      let (ret, state) := gattsDbReadAttrValueByType el opCode sHdl type secFlag keySize state
      let reason :=
        if ret ≠ gattNotFound then (if ret = gattNoResources then gattSuccess else ret) else reason
      if ret ≠ gattSuccess ∧ ret ≠ gattNotFound then (reason, state.curHandle, state)
      else readByTypeServices opCode sHdl eHdl type secFlag keySize els reason state
    else readByTypeServices opCode sHdl eHdl type secFlag keySize els reason state

/-- The response PDU: the op code, the length byte `(uint8_t)p_msg->offset`
and the records. -/
def rspPdu (opCode : Nat) (msg : RspMsg) : List UInt8 :=
  UInt8.ofNat (opCode + 1) :: UInt8.ofNat msg.offset :: msg.data

/-- The response before any record: the op code and the reserved length byte,
and `buf_len = payload_size - 2`. -/
def ByTypeState.initial (tcb : Tcb) : ByTypeState :=
  ⟨tcb, ⟨2, 0, []⟩, tcb.payloadSize - 2, 0⟩

/-- `gatts_process_read_by_type_req` on the request after its op code, with the
link's security flags and key size. -/
def gattsProcessReadByTypeReq (db : List Service) (secFlag keySize : Nat) (tcb : Tcb)
    (opCode : Nat) (payload : List UInt8) : Tcb :=
  match gattsValidatePacketFormat payload with
  | .error (reason, sHdl) => gattSendErrorRsp tcb reason opCode sHdl
  | .ok (sHdl, eHdl, uuid) =>
    let (reason, errHdl, state) :=
      readByTypeServices opCode sHdl eHdl uuid secFlag keySize db gattNotFound (ByTypeState.initial tcb)
    if reason ≠ gattSuccess then
      -- a read left to an application answers later; BUSY is not expected here
      if reason ≠ gattPending ∧ reason ≠ gattBusy then gattSendErrorRsp state.tcb reason opCode errHdl
      else state.tcb
    else attpSendSrMsg state.tcb (rspPdu opCode state.msg)

/-! ## The records of the response -/

/-- The bytes of the records of `attrs`: each attribute's handle, then the
value read for it. -/
def recordBytes (attrs : List DbAttr) : List UInt8 :=
  (attrs.map fun attr => le16 attr.handle ++ attr.declaration).flatten

@[simp] theorem recordBytes_nil : recordBytes [] = [] := rfl

theorem recordBytes_concat (attrs : List DbAttr) (attr : DbAttr) :
    recordBytes (attrs ++ [attr]) = recordBytes attrs ++ le16 attr.handle ++ attr.declaration := by
  simp only [recordBytes, List.map_append, List.map_cons, List.map_nil, List.flatten_append,
    List.flatten_cons, List.flatten_nil, List.append_nil, List.append_assoc]

/-- What holds of the response after any number of records, for a request
from `s_hdl` for `type` on a link of payload size `payloadSize`: its length
counts the op code, the length byte and the records, the rest of the payload
is `buf_len`, and its bytes are the records of attributes of the database, each
of the requested type, at or above `s_hdl` and of the latched size. -/
structure Records (db : List Service) (payloadSize sHdl : Nat) (type : Uuid) (msg : RspMsg)
    (bufLen : Nat) : Prop where
  fits : msg.len + bufLen = payloadSize
  counted : msg.len = msg.data.length + 2
  listed : ∃ attrs : List DbAttr, msg.data = recordBytes attrs ∧
    ∀ attr ∈ attrs, (∃ service ∈ db, attr ∈ service.attrs) ∧ attr.attr.uuid = type ∧
      sHdl ≤ attr.handle ∧ attr.declaration.length + 2 = msg.offset

section Records

variable {db : List Service} {payloadSize sHdl : Nat} {type : Uuid}

/-- The response before any record. -/
theorem Records.initial (tcb : Tcb) (roomy : 2 ≤ tcb.payloadSize) :
    Records db tcb.payloadSize sHdl type (ByTypeState.initial tcb).msg
      (ByTypeState.initial tcb).bufLen := by
  refine ⟨?_, rfl, [], rfl, ?_⟩
  · show 2 + (tcb.payloadSize - 2) = tcb.payloadSize
    omega
  · intro attr member
    exact absurd member List.not_mem_nil

/-- A record of the declaration of `attr`, appended where the room left holds it
and the latch allows its size, keeps the response's records. -/
theorem Records.append {msg : RspMsg} {bufLen : Nat} (holds : Records db payloadSize sHdl type msg bufLen)
    (attr : DbAttr) (service : Service) (member : service ∈ db) (within : attr ∈ service.attrs)
    (sameType : attr.attr.uuid = type) (above : sHdl ≤ attr.handle)
    (room : attr.declaration.length + 2 ≤ bufLen)
    (latched : (if msg.offset = 0 then attr.declaration.length + 2 else msg.offset) =
      attr.declaration.length + 2) :
    Records db payloadSize sHdl type
      ⟨msg.len + (attr.declaration.length + 2),
        if msg.offset = 0 then attr.declaration.length + 2 else msg.offset,
        msg.data ++ le16 attr.handle ++ attr.declaration⟩
      (bufLen - (attr.declaration.length + 2)) := by
  obtain ⟨fits, counted, attrs, listing, listed⟩ := holds
  refine ⟨?_, ?_, attrs ++ [attr], by rw [listing, recordBytes_concat], ?_⟩
  · dsimp only
    omega
  · simp only [List.length_append, ByteBuffer.length_le16]
    omega
  · intro record recorded
    dsimp only
    rw [latched]
    rcases List.mem_append.mp recorded with old | new
    · obtain ⟨found, typed, aboveOld, sized⟩ := listed record old
      refine ⟨found, typed, aboveOld, ?_⟩
      by_cases empty : msg.offset = 0
      · omega
      · rw [if_neg empty] at latched
        omega
    · rw [List.mem_singleton.mp new]
      exact ⟨⟨service, member, within⟩, sameType, above, rfl⟩

end Records

/-- A value read by `read_attr_value` is the declaration, in the room given. -/
theorem readAttrValue_eq_value (attr : DbAttr) (readLong : Bool) (mtu secFlag keySize : Nat)
    (bytes : List UInt8) (read : readAttrValue attr readLong mtu secFlag keySize = .value bytes) :
    bytes = attr.declaration ∧ bytes.length ≤ mtu := by
  simp only [readAttrValue] at read
  split_ifs at read with failed declared tooLong
  cases read
  exact ⟨rfl, Nat.le_of_not_lt tooLong⟩

/-- Handing a read to an application sends nothing to the peer. -/
theorem gattsSendAppReadRequest_sent (tcb : Tcb) (service : Service) (attr : DbAttr)
    (opCode transId : Nat) : (gattsSendAppReadRequest tcb service attr opCode transId).1.sent = tcb.sent := by
  simp only [gattsSendAppReadRequest, GattReadMulti.gattSrEnqueueCmd]
  split_ifs <;> rfl

section Loops

variable {db : List Service} {payloadSize sHdl : Nat} {type : Uuid}

/-- **The attribute loop keeps the records.** Every record it appends is a
declaration of the service of the requested type at or above `s_hdl`, in the
room left and of the latched size; an application read or a failure ends it
with the response as it was. Nothing is sent to the peer. -/
theorem attrValueByTypeLoop_records (service : Service) (member : service ∈ db)
    (opCode secFlag keySize transId : Nat) (attrs : List DbAttr)
    (within : ∀ attr ∈ attrs, attr ∈ service.attrs) (status : Nat) (state : ByTypeState)
    (holds : Records db payloadSize sHdl type state.msg state.bufLen) :
    Records db payloadSize sHdl type
        (attrValueByTypeLoop service opCode sHdl type secFlag keySize transId attrs status state).2.msg
        (attrValueByTypeLoop service opCode sHdl type secFlag keySize transId attrs status state).2.bufLen ∧
      (attrValueByTypeLoop service opCode sHdl type secFlag keySize transId attrs status
        state).2.tcb.sent = state.tcb.sent := by
  induction attrs generalizing status state with
  | nil => exact ⟨holds, rfl⟩
  | cons attr attrs inductionHypothesis =>
    have rest : ∀ other ∈ attrs, other ∈ service.attrs :=
      fun other listed => within other (List.mem_cons_of_mem attr listed)
    by_cases matched : attr.handle ≥ sHdl ∧ type = attr.attr.uuid
    · by_cases full : state.bufLen ≤ 2
      · simp only [attrValueByTypeLoop, if_pos matched, if_pos full]
        exact ⟨holds, trivial⟩
      · cases read : readAttrValue attr false (state.bufLen - 2) secFlag keySize with
        | pending =>
          rcases sending : gattsSendAppReadRequest state.tcb service attr opCode transId with
            ⟨tcb, sendStatus⟩
          have unsent := gattsSendAppReadRequest_sent state.tcb service attr opCode transId
          rw [sending] at unsent
          simp only [attrValueByTypeLoop, if_pos matched, if_neg full, read, sending]
          exact ⟨holds, unsent⟩
        | value bytes =>
          obtain ⟨rfl, short⟩ := readAttrValue_eq_value attr false _ secFlag keySize bytes read
          by_cases latched : (if state.msg.offset = 0 then attr.declaration.length + 2
              else state.msg.offset) = attr.declaration.length + 2
          · simp only [attrValueByTypeLoop, if_pos matched, if_neg full, read, if_pos latched]
            exact inductionHypothesis rest gattSuccess _
              (holds.append attr service member (within attr List.mem_cons_self) matched.2.symm
                matched.1 (by omega) latched)
          · simp only [attrValueByTypeLoop, if_pos matched, if_neg full, read, if_neg latched]
            exact ⟨holds, trivial⟩
        | failed failure =>
          simp only [attrValueByTypeLoop, if_pos matched, if_neg full, read]
          exact ⟨holds, trivial⟩
    · simp only [attrValueByTypeLoop, if_neg matched]
      exact inductionHypothesis rest status state holds

/-- **The service loop keeps the records**, over any list of registered
services, and sends nothing. -/
theorem readByTypeServices_records (opCode eHdl secFlag keySize : Nat) (services : List Service)
    (within : ∀ el ∈ services, el ∈ db) (reason : Nat) (state : ByTypeState)
    (holds : Records db payloadSize sHdl type state.msg state.bufLen) :
    Records db payloadSize sHdl type
        (readByTypeServices opCode sHdl eHdl type secFlag keySize services reason state).2.2.msg
        (readByTypeServices opCode sHdl eHdl type secFlag keySize services reason state).2.2.bufLen ∧
      (readByTypeServices opCode sHdl eHdl type secFlag keySize services reason state).2.2.tcb.sent =
        state.tcb.sent := by
  induction services generalizing reason state with
  | nil => exact ⟨holds, rfl⟩
  | cons el els inductionHypothesis =>
    have rest : ∀ other ∈ els, other ∈ db := fun other listed => within other (List.mem_cons_of_mem el listed)
    by_cases meets : el.sHdl ≤ eHdl ∧ el.eHdl ≥ sHdl
    · have read := attrValueByTypeLoop_records el (within el List.mem_cons_self) opCode secFlag keySize 0
        el.attrs (fun _ listed => listed) gattNotFound state holds
      rcases reading : gattsDbReadAttrValueByType el opCode sHdl type secFlag keySize state with
        ⟨ret, after⟩
      rw [← gattsDbReadAttrValueByType, reading] at read
      simp only [readByTypeServices, if_pos meets, reading]
      by_cases stopped : ret ≠ gattSuccess ∧ ret ≠ gattNotFound
      · rw [if_pos stopped]
        exact read
      · rw [if_neg stopped]
        obtain ⟨records, sent⟩ := inductionHypothesis rest _ after read.1
        exact ⟨records, sent.trans read.2⟩
    · simp only [readByTypeServices, if_neg meets]
      exact inductionHypothesis rest reason state holds

end Loops

/-- A response with its records fits the payload size. -/
theorem length_rspPdu {db : List Service} {payloadSize sHdl : Nat} {type : Uuid} {msg : RspMsg}
    {bufLen : Nat} (holds : Records db payloadSize sHdl type msg bufLen) (opCode : Nat) :
    (rspPdu opCode msg).length ≤ payloadSize := by
  have fits := holds.fits
  have counted := holds.counted
  rw [rspPdu, List.length_cons, List.length_cons]
  omega

/-- **What a Read By Type request sends.** Nothing (a read was handed to an
application), an Error Response, or, for a request that parses, one response
whose records are declarations of the database of the requested type at or
above `s_hdl`, all of the size in its length byte, within the payload size. -/
theorem gattsProcessReadByTypeReq_sent (db : List Service) (secFlag keySize : Nat) (tcb : Tcb)
    (opCode : Nat) (payload : List UInt8) (roomy : 2 ≤ tcb.payloadSize) :
    (gattsProcessReadByTypeReq db secFlag keySize tcb opCode payload).sent = tcb.sent ∨
      (∃ reason handle, (gattsProcessReadByTypeReq db secFlag keySize tcb opCode payload).sent =
        tcb.sent ++ [AttProtocol.attpBuildErrCmd opCode handle reason]) ∨
      ∃ sHdl eHdl type msg bufLen, gattsValidatePacketFormat payload = .ok (sHdl, eHdl, type) ∧
        Records db tcb.payloadSize sHdl type msg bufLen ∧
        (gattsProcessReadByTypeReq db secFlag keySize tcb opCode payload).sent =
          tcb.sent ++ [rspPdu opCode msg] := by
  cases validated : gattsValidatePacketFormat payload with
  | error failure =>
    obtain ⟨reason, sHdl⟩ := failure
    right; left
    refine ⟨reason, sHdl, ?_⟩
    simp only [gattsProcessReadByTypeReq, validated, GattReadMulti.gattSendErrorRsp_eq]
  | ok request =>
    obtain ⟨sHdl, eHdl, uuid⟩ := request
    have looped := @readByTypeServices_records db tcb.payloadSize sHdl uuid opCode eHdl secFlag keySize db
      (fun _ listed => listed) gattNotFound (ByTypeState.initial tcb) (Records.initial tcb roomy)
    rcases reading : readByTypeServices opCode sHdl eHdl uuid secFlag keySize db gattNotFound
      (ByTypeState.initial tcb) with ⟨reason, errHdl, state⟩
    rw [reading] at looped
    obtain ⟨records, unsent⟩ := looped
    simp only [gattsProcessReadByTypeReq, validated, reading]
    split_ifs with failed reported
    · right; left
      refine ⟨reason, errHdl, ?_⟩
      rw [GattReadMulti.gattSendErrorRsp_eq, unsent]
      rfl
    · left
      exact unsent
    · right; right
      exact ⟨sHdl, eHdl, uuid, state.msg, state.bufLen, rfl, records, by rw [attpSendSrMsg, unsent]; rfl⟩

/-! ## A service across the end of the range -/

/-- The handle invariants of a registered service: a non-empty range of valid
handles, and attributes that start at its start handle, increase and stay in
the range. -/
def ServiceHandlesValid (service : Service) : Prop :=
  1 ≤ service.sHdl ∧ service.sHdl ≤ service.eHdl ∧ service.eHdl < 65536 ∧
    (service.attrs.map DbAttr.handle).head? = some service.sHdl ∧
    (service.attrs.map DbAttr.handle).Pairwise (· < ·) ∧ ∀ attr ∈ service.attrs, attr.handle ≤ service.eHdl

instance (service : Service) : Decidable (ServiceHandlesValid service) :=
  inferInstanceAs (Decidable (1 ≤ service.sHdl ∧ service.sHdl ≤ service.eHdl ∧ service.eHdl < 65536 ∧
    (service.attrs.map DbAttr.handle).head? = some service.sHdl ∧
    (service.attrs.map DbAttr.handle).Pairwise (· < ·) ∧ ∀ attr ∈ service.attrs, attr.handle ≤ service.eHdl))

/-- The handle invariants of the database: those of every service, and ranges
that increase without overlapping, in the order `srv_list_info` keeps. -/
def DbHandlesValid (db : List Service) : Prop :=
  (∀ service ∈ db, ServiceHandlesValid service) ∧ db.Pairwise fun first second => first.eHdl < second.sHdl

instance (db : List Service) : Decidable (DbHandlesValid db) :=
  inferInstanceAs (Decidable ((∀ service ∈ db, ServiceHandlesValid service) ∧
    db.Pairwise fun first second => first.eHdl < second.sHdl))

/-- A readable primary service over handles 1 to 5 with two characteristics:
declarations at handles 2 and 4 for values at handles 3 and 5. -/
def twoCharacteristics : List Service :=
  [⟨1, 5, 1,
    [⟨1, ⟨.bit16 GattPerm.gattUuidPriService, GattPerm.gattPermRead⟩, .primaryService, [0x00, 0x18]⟩,
      ⟨2, ⟨.bit16 GattPerm.gattUuidCharDeclare, GattPerm.gattPermRead⟩, .characteristic,
        [0x02, 0x03, 0x00, 0x00, 0x2A]⟩,
      ⟨3, ⟨.bit16 0x2A00, GattPerm.gattPermRead⟩, .characteristic, []⟩,
      ⟨4, ⟨.bit16 GattPerm.gattUuidCharDeclare, GattPerm.gattPermRead⟩, .characteristic,
        [0x02, 0x05, 0x00, 0x01, 0x2A]⟩,
      ⟨5, ⟨.bit16 0x2A01, GattPerm.gattPermRead⟩, .characteristic, []⟩]⟩]

/-- A server with nothing pending on a link of the smallest payload size. -/
def idleTcb : Tcb :=
  ⟨23, 0, GattReadMulti.SrCmd.cleared, fun _ => 0, [], []⟩

/-- **Records above the range.** Discovering the characteristics of handles 1
to 2 (Read By Type of `0x2803` from 1 to 2) on a database that keeps its handle
invariants is answered without an application read, and the response lists the
declaration at handle 4 after the one at handle 2. -/
theorem readByType_recordAboveRange :
    DbHandlesValid twoCharacteristics ∧
      (gattsProcessReadByTypeReq twoCharacteristics 0 0 idleTcb gattReqReadByType
        [0x01, 0x00, 0x02, 0x00, 0x03, 0x28]).appReads = [] ∧
      (gattsProcessReadByTypeReq twoCharacteristics 0 0 idleTcb gattReqReadByType
        [0x01, 0x00, 0x02, 0x00, 0x03, 0x28]).sent =
        [[0x09, 0x07, 0x02, 0x00, 0x02, 0x03, 0x00, 0x00, 0x2A, 0x04, 0x00, 0x02, 0x05, 0x00, 0x01, 0x2A]] := by
  refine ⟨?_, ?_, ?_⟩ <;> decide

end Fluoride.GattReadByType
