import Fluoride.GattPerm
import Fluoride.AttProtocol

/-!
# The GATT server's Read Multiple procedure

`gatt_process_read_multi_req` (`stack/gatt/gatt_sr.cc`) reads up to ten
handles from a Read Multiple request, checks that each names a readable
attribute of a registered service, records the request as the server's pending
command (`tcb.sr_cmd`) and then reads every handle. A declaration (service,
characteristic or include) is read from the database at once and its value
handed to `gatt_sr_process_app_rsp` before the loop goes on; any other
attribute is asked of its application, which answers later through
`GATTS_SendRsp`. Every value, whichever way it comes, is appended to
`multi_rsp_q`, and when the queue holds as many values as there are handles,
`process_read_multi_rsp` builds the response by pairing the i-th queued value
with the i-th handle; a value queued at another handle's place ends the
response with `GATT_NOT_FOUND`.

The server is modelled as a state (`Tcb`) stepped by the two events of the
procedure: a request arriving, and an application's answer. When the values
are queued in the order of the handles, the one response sent is the op code
followed by the values, cut to the MTU (`readMulti_inOrder`). The queue's
order is that of the answers, with every declaration's value ahead of every
application's: a request naming an application's attribute before a
declaration is answered with an error whatever the application does.
-/

namespace Fluoride.GattReadMulti

open GattPerm (GattAttr GattStatus Uuid gattsCheckAttrReadability)
open AttProtocol (GattValue GattSrMsg GattError attpBuildSrMsg)
open ByteBuffer (le16 readLe16)

/-! ## Status and op codes -/

def gattSuccess : Nat := 0x00
def gattInvalidHandle : Nat := 0x01
def gattInvalidPdu : Nat := 0x04
def gattNotFound : Nat := 0x0A
def gattNoResources : Nat := 0x80
def gattBusy : Nat := 0x84
def gattError : Nat := 0x85
def gattPending : Nat := 0x88

/-- The `tGATT_STATUS` byte of a permission check's result. -/
def statusCode : GattStatus → Nat
  | .success => 0x00
  | .readNotPermit => 0x02
  | .writeNotPermit => 0x03
  | .invalidPdu => 0x04
  | .insufAuthentication => 0x05
  | .notFound => 0x0A
  | .notLong => 0x0B
  | .insufKeySize => 0x0C
  | .invalidAttrLen => 0x0D
  | .insufEncryption => 0x0F

def gattReqMtu : Nat := 0x02
def gattReqReadBlob : Nat := 0x0C
def gattReqReadMulti : Nat := 0x0E
def gattRspReadMulti : Nat := 0x0F
def gattHandleValueConf : Nat := 0x1E

def gattMaxReadMultiHandles : Nat := 10
def gattMaxApps : Nat := 32
def gattMaxAttrLen : Nat := 600
def gattTransIdMax : Nat := 0x0fffffff

/-- The UUIDs of the declarations the server reads itself: primary and secondary
service, characteristic and include. -/
def isDeclaration : Uuid → Bool
  | .bit16 value =>
    value = GattPerm.gattUuidPriService || value = GattPerm.gattUuidSecService ||
      value = GattPerm.gattUuidCharDeclare || value = GattPerm.gattUuidIncludeService
  | _ => false

/-! ## The database -/

/-- `bt_gatt_db_attribute_type_t`. -/
inductive AttrType
  | primaryService
  | secondaryService
  | included
  | characteristic
  | descriptor
  deriving DecidableEq, Repr

/-- `tGATT_ATTR`: the handle, the type and permission, the kind of attribute
the application declared, and the bytes `read_attr_value` streams from
`p_value` when the attribute is a declaration. -/
structure DbAttr where
  handle : Nat
  attr : GattAttr
  gattType : AttrType
  declaration : List UInt8
  deriving DecidableEq, Repr

/-- `tGATT_SRV_LIST_ELEM`: a registered service's handle range, the application
that registered it, and its attributes. -/
structure Service where
  sHdl : Nat
  eHdl : Nat
  gattIf : Nat
  attrs : List DbAttr
  deriving DecidableEq, Repr

/-- `gatt_sr_find_i_rcb_by_handle`: the first service whose range holds the handle. -/
def gattSrFindIRcbByHandle (db : List Service) (handle : Nat) : Option Service :=
  db.find? fun service => decide (service.sHdl ≤ handle ∧ handle ≤ service.eHdl)

/-- `find_attr_by_handle`. -/
def findAttrByHandle (service : Service) (handle : Nat) : Option DbAttr :=
  service.attrs.find? fun attr => decide (attr.handle = handle)

/-- `gatts_read_attr_perm_check`. -/
def gattsReadAttrPermCheck (service : Service) (isLong : Bool) (handle secFlag keySize : Nat) :
    Nat :=
  match findAttrByHandle service handle with
  | none => gattNotFound
  | some attr => statusCode (gattsCheckAttrReadability attr.attr isLong secFlag keySize)

/-- What `read_attr_value` does: a value it streams, a read to ask of the
application (`GATT_PENDING`), or a failure. -/
inductive ReadOutcome
  | value (bytes : List UInt8)
  | pending
  | failed (status : Nat)
  deriving DecidableEq, Repr

/-- `read_attr_value`: the readability check, then a declaration streamed if
it fits in `mtu`, and anything else left to the application. -/
def readAttrValue (attr : DbAttr) (readLong : Bool) (mtu secFlag keySize : Nat) : ReadOutcome :=
  let status := gattsCheckAttrReadability attr.attr readLong secFlag keySize
  if status ≠ .success then .failed (statusCode status)
  else if isDeclaration attr.attr.uuid then
    if mtu < attr.declaration.length then .failed gattNoResources else .value attr.declaration
  else .pending

/-! ## The server's state -/

/-- A read request handed to an application (`gatt_sr_send_req_callback`). -/
structure AppRead where
  gattIf : Nat
  transId : Nat
  handle : Nat
  deriving DecidableEq, Repr

/-- `tGATT_SR_CMD`, the pending request: its op code, first handle,
transaction, status, the callbacks owed per application, the handles of a Read
Multiple request, the values queued for it, and the response built. -/
structure SrCmd where
  opCode : Nat
  handle : Nat
  transId : Nat
  status : Nat
  cbackCnt : Nat → Nat
  handles : List Nat
  multiRspQ : List GattValue
  pRspMsg : Option (List UInt8)

/-- The command after `memset(&tcb.sr_cmd, 0, ...)`. -/
def SrCmd.cleared : SrCmd where
  opCode := 0
  handle := 0
  transId := 0
  status := 0
  cbackCnt := fun _ => 0
  handles := []
  multiRspQ := []
  pRspMsg := none

/-- `tGATT_TCB`, the fields the procedure uses, with the PDUs sent to the peer
and the read requests handed to applications. -/
structure Tcb where
  payloadSize : Nat
  transId : Nat
  srCmd : SrCmd
  prepCnt : Nat → Nat
  sent : List (List UInt8)
  appReads : List AppRead

/-! ## Sending and dequeuing -/

/-- `attp_send_sr_msg`: the PDU goes to L2CAP. -/
def attpSendSrMsg (tcb : Tcb) (pdu : List UInt8) : Tcb :=
  { tcb with sent := tcb.sent ++ [pdu] }

/-- `gatt_send_error_rsp` without dequeuing: an Error Response for `op_code`
at `handle` with `err_code` as its reason. -/
def gattSendErrorRsp (tcb : Tcb) (errCode opCode handle : Nat) : Tcb :=
  let msg : GattSrMsg := ⟨⟨0, 0, 0, []⟩, ⟨handle, opCode, errCode⟩, 0⟩
  match attpBuildSrMsg tcb.payloadSize AttProtocol.gattRspError msg with
  | some pdu => attpSendSrMsg tcb pdu
  | none => tcb

/-- `gatt_dequeue_sr_cmd`: the queued values and the response are freed and
the command cleared. -/
def gattDequeueSrCmd (tcb : Tcb) : Tcb :=
  { tcb with srCmd := SrCmd.cleared }

/-- `gatt_sr_enqueue_cmd`: with no request pending, a request takes the next
transaction id and becomes the pending command; commands and confirmations
only take an id. Returns 0 when a request is already pending. -/
def gattSrEnqueueCmd (tcb : Tcb) (opCode handle : Nat) : Tcb × Nat :=
  if tcb.srCmd.opCode = 0 ∨ opCode = gattHandleValueConf then
    let transId := (tcb.transId + 1) % 2 ^ 32
    if opCode = GattPerm.gattCmdWrite ∨ opCode = GattPerm.gattSignCmdWrite ∨ opCode = gattReqMtu ∨
        opCode = gattHandleValueConf then
      ({ tcb with transId := transId }, transId)
    else
      let cmd := { tcb.srCmd with
        transId := transId, opCode := opCode, handle := handle, status := gattNotFound }
      ({ tcb with transId := transId % gattTransIdMax, srCmd := cmd }, transId)
  else (tcb, 0)

/-! ## Callback counts -/

/-- `gatt_sr_update_cback_cnt(tcb, gatt_if, false, false)`: one callback fewer
owed by `gatt_if`, unless none is. -/
def decrementCback (cnt : Nat → Nat) (gattIf : Nat) : Nat → Nat :=
  fun index => if index = gattIf - 1 ∧ cnt index ≠ 0 then cnt index - 1 else cnt index

/-- `gatt_sr_update_prep_cnt(tcb, gatt_if, true, false)`. -/
def incrementPrep (cnt : Nat → Nat) (gattIf : Nat) : Nat → Nat :=
  fun index => if index = gattIf - 1 then cnt index + 1 else cnt index

/-- `gatt_sr_is_cback_cnt_zero`. -/
def gattSrIsCbackCntZero (cnt : Nat → Nat) : Bool :=
  (List.range gattMaxApps).all fun index => cnt index = 0

/-! ## Building the response -/

/-- The loop of `process_read_multi_rsp` from the `ii`-th handle on: the i-th
queued value must be at the i-th handle; a value that would pass the MTU is
cut to what is left and ends the loop. Carries `p_buf->len` and the bytes
written, and ends with `false` where the status becomes `GATT_NOT_FOUND` (a
value at another handle, or no value left). -/
def multiRspLoop (mtu : Nat) : List Nat → List GattValue → Nat × List UInt8 →
    (Nat × List UInt8) × Bool
  | [], _, acc => (acc, true)
  | _ :: _, [], acc => (acc, false)
  | handle :: handles, rsp :: queue, (len, bytes) =>
    let totalLen := len + rsp.len
    let copied := if totalLen > mtu then rsp.len - (totalLen - mtu) else rsp.len
    if rsp.handle = handle then
      let acc := (len + copied, bytes ++ rsp.value.take copied)
      if totalLen > mtu then (acc, true) else multiRspLoop mtu handles queue acc
    else ((len, bytes), false)

/-- `process_read_multi_rsp`: queues the value; once there are as many values as
handles, builds the response from the queue and reports that every reply has
come. Any status but success reports it at once. -/
def processReadMultiRsp (cmd : SrCmd) (status : Nat) (msg : GattValue) (mtu : Nat) :
    SrCmd × Bool :=
  let cmd := { cmd with multiRspQ := cmd.multiRspQ ++ [msg], status := status }
  if status = gattSuccess then
    if cmd.multiRspQ.length = cmd.handles.length then
      let ((len, bytes), matched) :=
        multiRspLoop mtu cmd.handles cmd.multiRspQ (1, [UInt8.ofNat gattRspReadMulti])
      let cmd := if matched then cmd else { cmd with status := gattNotFound }
      if len = 0 then ({ cmd with status := gattNotFound }, true)
      else if cmd.pRspMsg.isSome then (cmd, true)
      else ({ cmd with pRspMsg := some bytes }, true)
    else (cmd, false)
  else (cmd, true)

/-- The end of `gatt_sr_process_app_rsp`: once no callback is owed, the
response built is sent if the command succeeded, and an Error Response
carrying the answer's `status` otherwise; then the command is dequeued. -/
def finishAppRsp (tcb : Tcb) (opCode status : Nat) : Tcb :=
  if gattSrIsCbackCntZero tcb.srCmd.cbackCnt then
    let tcb :=
      match tcb.srCmd.pRspMsg with
      | some pdu =>
        if tcb.srCmd.status = gattSuccess then
          attpSendSrMsg { tcb with srCmd := { tcb.srCmd with pRspMsg := none } } pdu
        else gattSendErrorRsp tcb status opCode tcb.srCmd.handle
      | none => gattSendErrorRsp tcb status opCode tcb.srCmd.handle
    gattDequeueSrCmd tcb
  else tcb

/-- `gatt_sr_process_app_rsp`: an answer to the pending command, from an
application or from the server's own read of a declaration. A Read Multiple
answer goes through `process_read_multi_rsp`; any other builds the response
for `op_code + 1` from the answer once no callback is owed. -/
def gattSrProcessAppRsp (tcb : Tcb) (gattIf opCode status : Nat) (msg : GattValue) : Tcb :=
  let tcb := { tcb with srCmd := { tcb.srCmd with cbackCnt := decrementCback tcb.srCmd.cbackCnt gattIf } }
  if opCode = gattReqReadMulti then
    let (cmd, done) := processReadMultiRsp tcb.srCmd status msg tcb.payloadSize
    let tcb := { tcb with srCmd := cmd }
    if done then finishAppRsp tcb opCode status else tcb
  else
    let tcb :=
      if opCode = AttProtocol.gattReqPrepareWrite ∧ status = gattSuccess then
        { tcb with prepCnt := incrementPrep tcb.prepCnt gattIf }
      else tcb
    let tcb :=
      if opCode = AttProtocol.gattReqExecWrite ∧ status ≠ gattSuccess then
        { tcb with srCmd := { tcb.srCmd with cbackCnt := fun _ => 0 } }
      else tcb
    let tcb := { tcb with srCmd := { tcb.srCmd with status := status } }
    -- the answer is read as the `tGATT_SR_MSG` union, of which the responses
    -- built here read only the attribute value
    let tcb :=
      if gattSrIsCbackCntZero tcb.srCmd.cbackCnt ∧ status = gattSuccess ∧ tcb.srCmd.pRspMsg = none then
        { tcb with srCmd := { tcb.srCmd with
            pRspMsg := attpBuildSrMsg tcb.payloadSize (opCode + 1) ⟨msg, ⟨0, 0, 0⟩, 0⟩ } }
      else tcb
    finishAppRsp tcb opCode status

/-! ## Reading the attributes -/

/-- `gatts_send_app_read_request`: the read handed to the service's application
under the request's transaction (a fresh one is enqueued only for a transaction
of 0), for a characteristic or descriptor value only. -/
def gattsSendAppReadRequest (tcb : Tcb) (service : Service) (attr : DbAttr) (opCode transId : Nat) :
    Tcb × Nat :=
  let (tcb, transId) :=
    if transId = 0 then
      let (tcb, transId) := gattSrEnqueueCmd tcb opCode attr.handle
      ({ tcb with srCmd := { tcb.srCmd with
          cbackCnt := fun index => if index = service.gattIf - 1 then 1 else 0 } }, transId)
    else (tcb, transId)
  if transId ≠ 0 then
    if attr.gattType = .descriptor ∨ attr.gattType = .characteristic then
      ({ tcb with appReads := tcb.appReads ++ [⟨service.gattIf, transId, attr.handle⟩] }, gattPending)
    else (tcb, gattError)
  else (tcb, gattBusy)

/-- `gatts_read_attr_value_by_handle` at offset 0 with room for
`GATT_MAX_ATTR_LEN` bytes: the status and the value read. -/
def gattsReadAttrValueByHandle (tcb : Tcb) (service : Service) (opCode handle secFlag keySize
    transId : Nat) : Tcb × Nat × List UInt8 :=
  match findAttrByHandle service handle with
  | none => (tcb, gattNotFound, [])
  | some attr =>
    match readAttrValue attr (opCode = gattReqReadBlob) gattMaxAttrLen secFlag keySize with
    | .value bytes => (tcb, gattSuccess, bytes)
    | .failed status => (tcb, status, [])
    | .pending =>
      let (tcb, status) := gattsSendAppReadRequest tcb service attr opCode transId
      (tcb, status, [])

/-- The checking loop of `gatt_process_read_multi_req`: while two bytes are left
and fewer than ten handles are recorded, a handle is read; a handle outside
every service stops it with `GATT_INVALID_HANDLE`, one that is not readable is
recorded and stops it with the check's status. Returns the handles recorded,
the status and the last handle read. -/
def collectHandles (db : List Service) (secFlag keySize : Nat) :
    List UInt8 → List Nat → Nat → List Nat × Nat × Nat
  | low :: high :: rest, handles, last =>
    if handles.length < gattMaxReadMultiHandles then
      let handle := readLe16 [low, high] 0
      match gattSrFindIRcbByHandle db handle with
      | some service =>
        let err := gattsReadAttrPermCheck service false handle secFlag keySize
        if err ≠ gattSuccess then (handles ++ [handle], err, handle)
        else collectHandles db secFlag keySize rest (handles ++ [handle]) handle
      | none => (handles, gattInvalidHandle, handle)
    else (handles, gattSuccess, last)
  | _, handles, last => (handles, gattSuccess, last)

/-- One pass of the reading loop of `gatt_process_read_multi_req`, at index
`ll`: the attribute is read, and a value read at once is handed to
`gatt_sr_process_app_rsp` as the server's own answer. Carries the last status
and handle. -/
def readOne (db : List Service) (secFlag keySize transId ll : Nat) (state : Tcb × Nat × Nat) :
    Tcb × Nat × Nat :=
  let (tcb, _, _) := state
  let handle := tcb.srCmd.handles.getD ll 0
  match gattSrFindIRcbByHandle db handle with
  | some service =>
    let (tcb, err, value) :=
      gattsReadAttrValueByHandle tcb service gattReqReadMulti handle secFlag keySize transId
    if err = gattSuccess then
      (gattSrProcessAppRsp tcb service.gattIf gattReqReadMulti gattSuccess
        ⟨handle, 0, value.length, value⟩, err, handle)
    else (tcb, err, handle)
  -- every handle recorded was found in a service by the checking loop
  | none => (tcb, gattInvalidHandle, handle)

/-- The reading loop `for (ll = 0; ll < tcb.sr_cmd.multi_req.num_handles; ll++)`.
The bound is read again at each pass: a response sent from inside the loop
dequeues the command and ends it. The bound never grows, so `fuel`, the number
of handles when the loop starts, is never the reason it stops. -/
def readLoop (db : List Service) (secFlag keySize transId : Nat) :
    Nat → Nat → Tcb × Nat × Nat → Tcb × Nat × Nat
  | 0, _, state => state
  | fuel + 1, ll, state =>
    if ll < state.1.srCmd.handles.length then
      readLoop db secFlag keySize transId fuel (ll + 1) (readOne db secFlag keySize transId ll state)
    else state

/-- `gatt_process_read_multi_req`. -/
def gattProcessReadMultiReq (db : List Service) (secFlag keySize : Nat) (tcb : Tcb)
    (payload : List UInt8) : Tcb :=
  let (handles, err, handle) := collectHandles db secFlag keySize payload [] 0
  let tcb := { tcb with srCmd := { tcb.srCmd with handles := handles } }
  let err := if handles = [] then gattInvalidHandle else err
  let (tcb, err, handle) :=
    if err = gattSuccess then
      let (tcb, transId) := gattSrEnqueueCmd tcb gattReqReadMulti (handles.getD 0 0)
      if transId ≠ 0 then
        let tcb := { tcb with srCmd := { tcb.srCmd with cbackCnt := fun _ => 0 } }
        readLoop db secFlag keySize transId handles.length 0 (tcb, err, handle)
      else (tcb, gattNoResources, handle)
    else (tcb, err, handle)
  if err ≠ gattSuccess ∧ err ≠ gattPending ∧ err ≠ gattBusy then
    gattSendErrorRsp tcb err gattReqReadMulti handle
  else tcb

/-! ## The procedure's events -/

/-- What reaches the server during a Read Multiple procedure: the request (its
bytes after the op code), and an application's answer through
`GATTS_SendRsp`. -/
inductive Event
  | readMultiReq (payload : List UInt8)
  | sendRsp (gattIf transId status : Nat) (msg : GattValue)

/-- One event: `gatt_server_handle_client_req` drops a request while another is
pending and refuses one as long as the MTU; `GATTS_SendRsp` drops an answer
to another transaction. -/
def serverStep (db : List Service) (secFlag keySize : Nat) (tcb : Tcb) : Event → Tcb
  | .readMultiReq payload =>
    if tcb.srCmd.opCode ≠ 0 then tcb
    else if tcb.payloadSize ≤ payload.length then
      gattSendErrorRsp tcb gattInvalidPdu gattReqReadMulti 0
    else gattProcessReadMultiReq db secFlag keySize tcb payload
  | .sendRsp gattIf transId status msg =>
    if tcb.srCmd.transId ≠ transId then tcb
    else gattSrProcessAppRsp tcb gattIf tcb.srCmd.opCode status msg

/-- The server after a sequence of events. -/
def serverRun (db : List Service) (secFlag keySize : Nat) (tcb : Tcb) (events : List Event) : Tcb :=
  events.foldl (serverStep db secFlag keySize) tcb

/-! ## The checking loop -/

section Requests

variable (db : List Service) (secFlag keySize : Nat)

/-- A handle naming a readable characteristic or descriptor value of a
registered service, which the server asks its application for. -/
structure AppValue (handle : Nat) (service : Service) (attr : DbAttr) : Prop where
  registered : gattSrFindIRcbByHandle db handle = some service
  found : findAttrByHandle service handle = some attr
  readable : gattsCheckAttrReadability attr.attr false secFlag keySize = .success
  notDeclaration : isDeclaration attr.attr.uuid = false
  valueType : attr.gattType = .descriptor ∨ attr.gattType = .characteristic

/-- A handle some application answers for. -/
def AppOwned (handle : Nat) : Prop :=
  ∃ service attr, AppValue db secFlag keySize handle service attr

variable {db secFlag keySize}

theorem AppValue.permCheck {handle : Nat} {service : Service} {attr : DbAttr}
    (value : AppValue db secFlag keySize handle service attr) :
    gattsReadAttrPermCheck service false handle secFlag keySize = gattSuccess := by
  simp only [gattsReadAttrPermCheck, value.found, value.readable]
  rfl

theorem AppValue.attrHandle {handle : Nat} {service : Service} {attr : DbAttr}
    (value : AppValue db secFlag keySize handle service attr) : attr.handle = handle := by
  have matched := List.find?_some value.found
  simpa only [decide_eq_true_eq] using matched

theorem AppValue.readAttrValue {handle : Nat} {service : Service} {attr : DbAttr}
    (value : AppValue db secFlag keySize handle service attr) (mtu : Nat) :
    readAttrValue attr false mtu secFlag keySize = .pending := by
  simp only [GattReadMulti.readAttrValue, value.readable, value.notDeclaration, ne_eq,
    not_true_eq_false, if_false, Bool.false_eq_true]

/-- The two bytes of a 16-bit handle read back as the handle. -/
theorem readLe16_handle (handle : Nat) (short : handle < 65536) :
    readLe16 [UInt8.ofNat handle, UInt8.ofNat (handle / 256)] 0 = handle := by
  have read := ByteBuffer.readLe16_le16 handle
  rw [Nat.mod_eq_of_lt short] at read
  exact read

/-- The checking loop over a request naming application values only, no more
than ten of them: it records every handle and succeeds. -/
theorem collectHandles_appOwned (handles recorded : List Nat) (last : Nat)
    (owned : ∀ handle ∈ handles, AppOwned db secFlag keySize handle)
    (short : ∀ handle ∈ handles, handle < 65536)
    (room : recorded.length + handles.length ≤ gattMaxReadMultiHandles) :
    collectHandles db secFlag keySize (handles.flatMap le16) recorded last =
      (recorded ++ handles, gattSuccess, handles.getLastD last) := by
  induction handles generalizing recorded last with
  | nil => simp only [List.flatMap_nil, collectHandles, List.append_nil, List.getLastD_nil]
  | cons handle rest inductionHypothesis =>
    obtain ⟨service, attr, value⟩ := owned handle List.mem_cons_self
    have fits : recorded.length < gattMaxReadMultiHandles := by
      simp only [List.length_cons] at room
      omega
    have later := inductionHypothesis (recorded ++ [handle]) handle
      (fun other mem => owned other (List.mem_cons_of_mem handle mem))
      (fun other mem => short other (List.mem_cons_of_mem handle mem))
      (by simp only [List.length_append, List.length_cons, List.length_nil] at room ⊢; omega)
    simp only [List.flatMap_cons, le16, List.cons_append, List.nil_append]
    rw [collectHandles, if_pos fits, readLe16_handle handle (short handle List.mem_cons_self)]
    dsimp only
    rw [value.registered]
    simp only [value.permCheck, ne_eq, not_true_eq_false, if_false]
    rw [later, List.append_assoc, List.singleton_append, List.getLastD_cons]

/-- The read the server hands to the application whose service holds `handle`. -/
def askedRead (db : List Service) (transId handle : Nat) : Option AppRead :=
  (gattSrFindIRcbByHandle db handle).map fun service => ⟨service.gattIf, transId, handle⟩

/-- A request on an idle server takes the next transaction id and becomes the
pending command. -/
theorem gattSrEnqueueCmd_idle (tcb : Tcb) (handle : Nat) (idle : tcb.srCmd.opCode = 0) :
    gattSrEnqueueCmd tcb gattReqReadMulti handle =
      ({ tcb with
          transId := (tcb.transId + 1) % 2 ^ 32 % gattTransIdMax
          srCmd := { tcb.srCmd with
            transId := (tcb.transId + 1) % 2 ^ 32
            opCode := gattReqReadMulti
            handle := handle
            status := gattNotFound } },
        (tcb.transId + 1) % 2 ^ 32) := by
  have request : ¬ (gattReqReadMulti = GattPerm.gattCmdWrite ∨
      gattReqReadMulti = GattPerm.gattSignCmdWrite ∨ gattReqReadMulti = gattReqMtu ∨
      gattReqReadMulti = gattHandleValueConf) := by decide
  simp only [gattSrEnqueueCmd, idle, true_or, if_true, if_neg request]

/-- Reading an application's value hands the read to the application and
leaves the status `GATT_PENDING`. -/
theorem readOne_appValue (tcb : Tcb) (transId ll handle status last : Nat) (service : Service)
    (attr : DbAttr) (at_ll : tcb.srCmd.handles.getD ll 0 = handle)
    (value : AppValue db secFlag keySize handle service attr) (nonzero : transId ≠ 0) :
    readOne db secFlag keySize transId ll (tcb, status, last) =
      ({ tcb with appReads := tcb.appReads ++ [⟨service.gattIf, transId, handle⟩] },
        gattPending, handle) := by
  have notBlob : decide (gattReqReadMulti = gattReqReadBlob) = false := by decide
  have notSuccess : ¬ gattPending = gattSuccess := by decide
  simp only [readOne, at_ll, value.registered, gattsReadAttrValueByHandle, value.found, notBlob,
    value.readAttrValue, gattsSendAppReadRequest, nonzero, if_false, ne_eq, not_false_eq_true,
    if_true, value.valueType, if_neg notSuccess, value.attrHandle]

/-- The reading loop stops once the index reaches the number of handles. -/
theorem readLoop_done (transId fuel ll : Nat) (state : Tcb × Nat × Nat)
    (past : state.1.srCmd.handles.length ≤ ll) :
    readLoop db secFlag keySize transId fuel ll state = state := by
  cases fuel with
  | zero => rfl
  | succ fuel => simp only [readLoop, if_neg (Nat.not_lt.mpr past)]

/-- The reading loop over application values only: every read is handed to its
application, and the last status is `GATT_PENDING`. -/
theorem readLoop_appOwned (handles : List Nat) (transId : Nat) (nonzero : transId ≠ 0)
    (owned : ∀ handle ∈ handles, AppOwned db secFlag keySize handle) :
    ∀ (fuel ll : Nat) (tcb : Tcb) (status last : Nat), tcb.srCmd.handles = handles →
      ll < handles.length → handles.length ≤ ll + fuel →
      ∃ final, readLoop db secFlag keySize transId fuel ll (tcb, status, last) =
        ({ tcb with appReads := tcb.appReads ++ (handles.drop ll).filterMap (askedRead db transId) },
          gattPending, final) := by
  intro fuel
  induction fuel with
  | zero =>
    intro ll tcb status last recorded inside enough
    omega
  | succ fuel inductionHypothesis =>
    intro ll tcb status last recorded inside enough
    obtain ⟨service, attr, value⟩ := owned handles[ll] (List.getElem_mem inside)
    have at_ll : tcb.srCmd.handles.getD ll 0 = handles[ll] := by
      rw [recorded, List.getD_eq_getElem _ _ inside]
    have asked : askedRead db transId handles[ll] = some ⟨service.gattIf, transId, handles[ll]⟩ := by
      simp only [askedRead, value.registered, Option.map_some]
    have remaining : (handles.drop ll).filterMap (askedRead db transId) =
        ⟨service.gattIf, transId, handles[ll]⟩ :: (handles.drop (ll + 1)).filterMap (askedRead db transId) := by
      rw [List.drop_eq_getElem_cons inside, List.filterMap_cons_some asked]
    rw [readLoop, if_pos (by rw [recorded]; exact inside),
      readOne_appValue tcb transId ll handles[ll] status last service attr at_ll value nonzero,
      remaining]
    by_cases more : ll + 1 < handles.length
    · -- more handles to read: the rest of the loop from the next index
      obtain ⟨final, rest⟩ := inductionHypothesis (ll + 1)
        { tcb with appReads := tcb.appReads ++ [⟨service.gattIf, transId, handles[ll]⟩] }
        gattPending handles[ll] recorded more (by omega)
      refine ⟨final, ?_⟩
      rw [rest, List.append_assoc, List.singleton_append]
    · -- that was the last handle
      have none : handles.drop (ll + 1) = [] := List.drop_eq_nil_of_le (by omega)
      refine ⟨handles[ll], ?_⟩
      rw [readLoop_done transId fuel (ll + 1) _ (by simp only [recorded]; omega), none,
        List.filterMap_nil]

/-- The server waiting for the answers to a Read Multiple request: the request
is the pending command under `transId` with its handles, `queue` holds the
values queued so far, no callback is owed, no response is built, and the PDUs
sent are `sent`. -/
structure Awaiting (tcb : Tcb) (transId : Nat) (handles : List Nat) (queue : List GattValue)
    (sent : List (List UInt8)) : Prop where
  pending : tcb.srCmd.opCode = gattReqReadMulti
  transaction : tcb.srCmd.transId = transId
  recorded : tcb.srCmd.handles = handles
  queued : tcb.srCmd.multiRspQ = queue
  owesNone : ∀ index, tcb.srCmd.cbackCnt index = 0
  unbuilt : tcb.srCmd.pRspMsg = none
  silent : tcb.sent = sent

/-- A request naming one to ten application values, on an idle server: the
server hands every read to its application and waits, with nothing queued and
nothing sent. -/
theorem gattProcessReadMultiReq_appOwned (tcb : Tcb) (handles : List Nat)
    (owned : ∀ handle ∈ handles, AppOwned db secFlag keySize handle)
    (short : ∀ handle ∈ handles, handle < 65536) (nonempty : handles ≠ [])
    (atMost : handles.length ≤ gattMaxReadMultiHandles) (idle : tcb.srCmd = SrCmd.cleared)
    (fresh : (tcb.transId + 1) % 2 ^ 32 ≠ 0) :
    let after := gattProcessReadMultiReq db secFlag keySize tcb (handles.flatMap le16)
    Awaiting after ((tcb.transId + 1) % 2 ^ 32) handles [] tcb.sent ∧
      after.appReads = tcb.appReads ++ handles.filterMap (askedRead db ((tcb.transId + 1) % 2 ^ 32)) ∧
      after.payloadSize = tcb.payloadSize := by
  intro after
  have collected := collectHandles_appOwned handles [] 0 owned short
    (by rw [List.length_nil, Nat.zero_add]; exact atMost)
  have inside : 0 < handles.length := List.length_pos_iff.mpr nonempty
  have noError : ¬ (gattPending ≠ gattSuccess ∧ gattPending ≠ gattPending ∧ gattPending ≠ gattBusy) := by
    decide
  simp only [after, gattProcessReadMultiReq, collected, List.nil_append, if_neg nonempty, if_true]
  rw [gattSrEnqueueCmd_idle _ _ (by rw [idle]; rfl)]
  simp only [ne_eq, fresh, not_false_eq_true, if_true]
  -- the command as the reading loop starts
  let started : Tcb :=
    { payloadSize := tcb.payloadSize
      transId := (tcb.transId + 1) % 2 ^ 32 % gattTransIdMax
      srCmd :=
        { opCode := gattReqReadMulti
          handle := handles.getD 0 0
          transId := (tcb.transId + 1) % 2 ^ 32
          status := gattNotFound
          cbackCnt := fun _ => 0
          handles := handles
          multiRspQ := tcb.srCmd.multiRspQ
          pRspMsg := tcb.srCmd.pRspMsg }
      prepCnt := tcb.prepCnt
      sent := tcb.sent
      appReads := tcb.appReads }
  obtain ⟨final, loop⟩ := readLoop_appOwned handles _ fresh owned handles.length 0 started
    gattSuccess (handles.getLastD 0) rfl inside (Nat.le_add_left _ _)
  rw [loop, if_neg noError, List.drop_zero]
  refine ⟨⟨rfl, rfl, rfl, ?_, fun _ => rfl, ?_, rfl⟩, rfl, rfl⟩
  · simp only [started, idle, SrCmd.cleared]
  · simp only [started, idle, SrCmd.cleared]

end Requests

/-- `gatt_send_error_rsp` sends one Error Response. -/
theorem gattSendErrorRsp_eq (tcb : Tcb) (errCode opCode handle : Nat) :
    gattSendErrorRsp tcb errCode opCode handle =
      { tcb with sent := tcb.sent ++ [AttProtocol.attpBuildErrCmd opCode handle errCode] } := by
  simp only [gattSendErrorRsp, AttProtocol.attpBuildSrMsg_error, attpSendSrMsg]

/-! ## Building the response from the queue -/

/-- Values queued in the order of the handles, each holding its `len` bytes:
the loop appends them to what is written, cut at `mtu`, and every value
matches its handle. -/
theorem multiRspLoop_inOrder (mtu : Nat) (queue : List GattValue) (bytes : List UInt8)
    (exact : ∀ value ∈ queue, value.value.length = value.len) (fits : bytes.length ≤ mtu) :
    let written : List UInt8 := bytes ++ ((queue.map (·.value)).flatten).take (mtu - bytes.length)
    multiRspLoop mtu (queue.map (·.handle)) queue (bytes.length, bytes) =
      ((written.length, written), true) := by
  induction queue generalizing bytes with
  | nil => simp only [List.map_nil, multiRspLoop, List.flatten_nil, List.take_nil, List.append_nil]
  | cons rsp rest inductionHypothesis =>
    intro written
    have rspExact := exact rsp List.mem_cons_self
    simp only [List.map_cons, multiRspLoop, if_true]
    by_cases exceeds : bytes.length + rsp.len > mtu
    · -- the value is cut to what is left, and the loop ends
      have cut : rsp.len - (bytes.length + rsp.len - mtu) = mtu - bytes.length := by omega
      have within : (rsp.value ++ (rest.map (·.value)).flatten).take (mtu - bytes.length) =
          rsp.value.take (mtu - bytes.length) := List.take_append_of_le_length (by omega)
      have length : bytes.length + (mtu - bytes.length) =
          (bytes ++ rsp.value.take (mtu - bytes.length)).length := by
        rw [List.length_append, List.length_take]
        omega
      simp only [if_pos exceeds, cut, written, List.map_cons, List.flatten_cons, within, length]
    · -- the whole value is copied and the loop goes on
      have whole : rsp.value.take rsp.len = rsp.value := by
        rw [← rspExact, List.take_length]
      have grown : bytes.length + rsp.len = (bytes ++ rsp.value).length := by
        rw [List.length_append, rspExact]
      have next := inductionHypothesis (bytes ++ rsp.value)
        (fun value member => exact value (List.mem_cons_of_mem rsp member)) (by omega)
      have rest_written : bytes ++ rsp.value ++
          ((rest.map (·.value)).flatten).take (mtu - (bytes ++ rsp.value).length) =
          bytes ++ (rsp.value ++ (rest.map (·.value)).flatten).take (mtu - bytes.length) := by
        have valueFits : rsp.value.length ≤ mtu - bytes.length := by omega
        rw [List.length_append, List.take_append, List.take_of_length_le valueFits, Nat.sub_sub,
          List.append_assoc]
      simp only [if_neg exceeds]
      simp only [whole, grown, next, written, List.map_cons, List.flatten_cons, rest_written]

/-- A value queued in the order of the handles, after an op code, is the
response cut to the MTU. -/
theorem multiRspLoop_response (mtu : Nat) (queue : List GattValue)
    (exact : ∀ value ∈ queue, value.value.length = value.len) (roomy : 1 ≤ mtu) :
    let response : List UInt8 :=
      ([UInt8.ofNat gattRspReadMulti] ++ (queue.map (·.value)).flatten).take mtu
    multiRspLoop mtu (queue.map (·.handle)) queue (1, [UInt8.ofNat gattRspReadMulti]) =
      ((response.length, response), true) := by
  intro response
  have opCode : [UInt8.ofNat gattRspReadMulti].length ≤ mtu := roomy
  have built := multiRspLoop_inOrder mtu queue [UInt8.ofNat gattRspReadMulti] exact opCode
  have cut : ([UInt8.ofNat gattRspReadMulti] ++ (queue.map (·.value)).flatten).take mtu =
      [UInt8.ofNat gattRspReadMulti] ++
        ((queue.map (·.value)).flatten).take (mtu - [UInt8.ofNat gattRspReadMulti].length) := by
    rw [List.take_append, List.take_of_length_le opCode]
  simp only [response, cut]
  exact built

/-! ## The answers -/

section Answers

variable (db : List Service) (secFlag keySize : Nat)

/-- Counting down a count that is zero everywhere leaves it zero. -/
theorem decrementCback_zero (cnt : Nat → Nat) (gattIf : Nat) (owesNone : ∀ index, cnt index = 0)
    (index : Nat) : decrementCback cnt gattIf index = 0 := by
  simp only [decrementCback, owesNone, ne_eq, not_true_eq_false, and_false, if_false]

theorem gattSrIsCbackCntZero_of (cnt : Nat → Nat) (owesNone : ∀ index, cnt index = 0) :
    gattSrIsCbackCntZero cnt = true := by
  simp only [gattSrIsCbackCntZero, List.all_eq_true, owesNone, decide_true, implies_true]

/-- An answer that leaves values to come is queued, and nothing is sent. -/
theorem serverStep_queues (tcb : Tcb) (transId : Nat) (handles : List Nat)
    (queue : List GattValue) (sent : List (List UInt8))
    (awaiting : Awaiting tcb transId handles queue sent) (gattIf : Nat) (msg : GattValue)
    (more : queue.length + 1 < handles.length) :
    let next := serverStep db secFlag keySize tcb (.sendRsp gattIf transId gattSuccess msg)
    Awaiting next transId handles (queue ++ [msg]) sent ∧ next.payloadSize = tcb.payloadSize ∧
      next.appReads = tcb.appReads := by
  intro next
  have notAll : ¬ (queue ++ [msg]).length = handles.length := by
    rw [List.length_append, List.length_singleton]
    omega
  simp only [next, serverStep, awaiting.transaction, ne_eq, not_true_eq_false, if_false,
    gattSrProcessAppRsp, awaiting.pending, if_true, processReadMultiRsp, awaiting.queued,
    awaiting.recorded, if_neg notAll, Bool.false_eq_true]
  exact ⟨⟨rfl, rfl, rfl, rfl, decrementCback_zero _ gattIf awaiting.owesNone, awaiting.unbuilt,
    awaiting.silent⟩, trivial, trivial⟩

/-- The answer that completes a queue in the order of the handles: the response
is sent and the command dequeued. -/
theorem serverStep_responds (tcb : Tcb) (transId : Nat) (handles : List Nat)
    (queue : List GattValue) (sent : List (List UInt8))
    (awaiting : Awaiting tcb transId handles queue sent) (gattIf : Nat) (msg : GattValue)
    (inOrder : (queue ++ [msg]).map (·.handle) = handles)
    (exact : ∀ value ∈ queue ++ [msg], value.value.length = value.len)
    (roomy : 1 ≤ tcb.payloadSize) :
    let next := serverStep db secFlag keySize tcb (.sendRsp gattIf transId gattSuccess msg)
    next.sent = sent ++
        [([UInt8.ofNat gattRspReadMulti] ++ ((queue ++ [msg]).map (·.value)).flatten).take
          tcb.payloadSize] ∧
      next.srCmd.opCode = 0 ∧ next.payloadSize = tcb.payloadSize ∧ next.appReads = tcb.appReads := by
  intro next
  have all : (queue ++ [msg]).length = handles.length := by
    rw [← inOrder, List.length_map]
  have built := multiRspLoop_response tcb.payloadSize (queue ++ [msg]) exact roomy
  rw [inOrder] at built
  have written : ¬ (([UInt8.ofNat gattRspReadMulti] ++
      ((queue ++ [msg]).map (·.value)).flatten).take tcb.payloadSize).length = 0 := by
    rw [List.length_take, List.length_append, List.length_singleton]
    omega
  have owed : gattSrIsCbackCntZero (decrementCback tcb.srCmd.cbackCnt gattIf) = true :=
    gattSrIsCbackCntZero_of _ (decrementCback_zero _ gattIf awaiting.owesNone)
  simp only [next, serverStep, awaiting.transaction, ne_eq, not_true_eq_false, if_false,
    gattSrProcessAppRsp, awaiting.pending, if_true, processReadMultiRsp, awaiting.queued,
    awaiting.recorded, all, built, if_neg written, awaiting.unbuilt, Option.isSome_none,
    Bool.false_eq_true, finishAppRsp, owed, attpSendSrMsg, gattDequeueSrCmd, awaiting.silent,
    SrCmd.cleared, and_self]

/-- The server's state is stepped event by event. -/
theorem serverRun_cons (tcb : Tcb) (event : Event) (events : List Event) :
    serverRun db secFlag keySize tcb (event :: events) =
      serverRun db secFlag keySize (serverStep db secFlag keySize tcb event) events := rfl

/-- The answers to a server awaiting them, completing the queue in the order of
the handles: exactly one response is sent, the op code and every value cut to
the MTU, and the server is idle again. -/
theorem serverRun_answers (answers : List (Nat × GattValue)) (nonempty : answers ≠ []) :
    ∀ (tcb : Tcb) (transId : Nat) (handles : List Nat) (queue : List GattValue)
      (sent : List (List UInt8)), Awaiting tcb transId handles queue sent →
      queue.map (·.handle) ++ answers.map (·.2.handle) = handles →
      (∀ value ∈ queue ++ answers.map (·.2), value.value.length = value.len) →
      1 ≤ tcb.payloadSize →
      let final := serverRun db secFlag keySize tcb
        (answers.map fun answer => .sendRsp answer.1 transId gattSuccess answer.2)
      final.sent = sent ++
          [([UInt8.ofNat gattRspReadMulti] ++
            ((queue ++ answers.map (·.2)).map (·.value)).flatten).take tcb.payloadSize] ∧
        final.srCmd.opCode = 0 ∧ final.appReads = tcb.appReads := by
  induction answers with
  | nil => exact absurd rfl nonempty
  | cons answer rest inductionHypothesis =>
    intro tcb transId handles queue sent awaiting inOrder exact roomy final
    simp only [final, List.map_cons, serverRun_cons]
    by_cases lastAnswer : rest = []
    · -- this answer completes the queue
      subst lastAnswer
      have ordered : (queue ++ [answer.2]).map (·.handle) = handles := by
        rw [List.map_append, ← inOrder]
        rfl
      obtain ⟨sentOne, idleAgain, -, reads⟩ := serverStep_responds db secFlag keySize tcb transId
        handles queue sent awaiting answer.1 answer.2 ordered exact roomy
      exact ⟨sentOne, idleAgain, reads⟩
    · -- more answers to come: this one is queued
      have counted := congrArg List.length inOrder
      simp only [List.length_append, List.length_map, List.length_cons] at counted
      have more : queue.length + 1 < handles.length := by
        have restLength : 0 < rest.length := List.length_pos_iff.mpr lastAnswer
        omega
      obtain ⟨next, samePayload, sameReads⟩ := serverStep_queues db secFlag keySize tcb transId
        handles queue sent awaiting answer.1 answer.2 more
      have rest_inOrder : (queue ++ [answer.2]).map (·.handle) ++ rest.map (·.2.handle) = handles := by
        rw [← inOrder, List.map_append, List.append_assoc]
        rfl
      have rest_exact : ∀ value ∈ queue ++ [answer.2] ++ rest.map (·.2),
          value.value.length = value.len := by
        intro value member
        apply exact value
        simpa only [List.append_assoc, List.singleton_append, List.map_cons] using member
      obtain ⟨sentAll, idleAgain, reads⟩ := inductionHypothesis lastAnswer _ transId handles
        (queue ++ [answer.2]) sent next rest_inOrder rest_exact (by rw [samePayload]; exact roomy)
      refine ⟨?_, idleAgain, by rw [reads, sameReads]⟩
      rw [sentAll, samePayload]
      simp only [List.append_assoc, List.singleton_append]

/-- The answer that completes a queue whose first value is not at the first
handle: an Error Response carrying the answer's status is sent in place of the
Read Multiple Response, and the command is dequeued. -/
theorem serverStep_misordered (tcb : Tcb) (transId : Nat) (handle : Nat) (handles : List Nat)
    (queue : List GattValue) (sent : List (List UInt8))
    (awaiting : Awaiting tcb transId (handle :: handles) queue sent) (gattIf : Nat)
    (msg : GattValue) (all : queue.length = handles.length)
    (misplaced : ((queue ++ [msg]).head (by simp)).handle ≠ handle) :
    let next := serverStep db secFlag keySize tcb (.sendRsp gattIf transId gattSuccess msg)
    next.sent = sent ++ [AttProtocol.attpBuildErrCmd gattReqReadMulti tcb.srCmd.handle gattSuccess] ∧
      next.srCmd.opCode = 0 := by
  intro next
  obtain ⟨first, later, split⟩ : ∃ first later, queue ++ [msg] = first :: later :=
    List.exists_cons_of_ne_nil (by simp)
  have firstAway : first.handle ≠ handle := by
    simp only [split, List.head_cons] at misplaced
    exact misplaced
  have complete : (queue ++ [msg]).length = (handle :: handles).length := by
    rw [List.length_append, List.length_singleton, List.length_cons, all]
  have refused : multiRspLoop tcb.payloadSize (handle :: handles) (queue ++ [msg])
      (1, [UInt8.ofNat gattRspReadMulti]) = ((1, [UInt8.ofNat gattRspReadMulti]), false) := by
    rw [split, multiRspLoop, if_neg firstAway]
  have owed : gattSrIsCbackCntZero (decrementCback tcb.srCmd.cbackCnt gattIf) = true :=
    gattSrIsCbackCntZero_of _ (decrementCback_zero _ gattIf awaiting.owesNone)
  have notFound : ¬ gattNotFound = gattSuccess := by decide
  simp only [next, serverStep, awaiting.transaction, ne_eq, not_true_eq_false, if_false,
    gattSrProcessAppRsp, awaiting.pending, if_true, processReadMultiRsp, awaiting.queued,
    awaiting.recorded, complete, refused, Bool.false_eq_true, one_ne_zero, awaiting.unbuilt,
    Option.isSome_none, finishAppRsp, owed, if_neg notFound, gattSendErrorRsp_eq,
    gattDequeueSrCmd, awaiting.silent, SrCmd.cleared, and_true]

end Answers

/-- A Read Multiple request naming one to ten application values, answered in
the order of the handles, on an idle server with an MTU above the request:
every read is handed to its application, and the one response sent is the op
code followed by the values, cut to the MTU; the server is idle again. -/
theorem readMulti_inOrder (db : List Service) (secFlag keySize : Nat) (tcb : Tcb)
    (handles : List Nat) (answers : List (Nat × GattValue))
    (owned : ∀ handle ∈ handles, AppOwned db secFlag keySize handle)
    (short : ∀ handle ∈ handles, handle < 65536) (nonempty : handles ≠ [])
    (atMost : handles.length ≤ gattMaxReadMultiHandles) (idle : tcb.srCmd = SrCmd.cleared)
    (fresh : (tcb.transId + 1) % 2 ^ 32 ≠ 0)
    (fits : (handles.flatMap le16).length < tcb.payloadSize)
    (inOrder : answers.map (·.2.handle) = handles)
    (exact : ∀ answer ∈ answers, answer.2.value.length = answer.2.len) :
    let transId : Nat := (tcb.transId + 1) % 2 ^ 32
    let final := serverRun db secFlag keySize tcb
      (.readMultiReq (handles.flatMap le16) ::
        answers.map fun answer => .sendRsp answer.1 transId gattSuccess answer.2)
    final.sent = tcb.sent ++
        [([UInt8.ofNat gattRspReadMulti] ++ (answers.map (·.2.value)).flatten).take tcb.payloadSize] ∧
      final.srCmd.opCode = 0 ∧
      final.appReads = tcb.appReads ++ handles.filterMap (askedRead db transId) := by
  intro transId final
  have accepted : serverStep db secFlag keySize tcb (.readMultiReq (handles.flatMap le16)) =
      gattProcessReadMultiReq db secFlag keySize tcb (handles.flatMap le16) := by
    have notPending : tcb.srCmd.opCode = 0 := by rw [idle]; rfl
    simp only [serverStep, notPending, ne_eq, not_true_eq_false, if_false,
      if_neg (Nat.not_le.mpr fits)]
  obtain ⟨awaiting, reads, samePayload⟩ :=
    gattProcessReadMultiReq_appOwned tcb handles owned short nonempty atMost idle fresh
  have answered : answers ≠ [] := by
    rintro rfl
    exact nonempty (by rw [← inOrder, List.map_nil])
  have values : ∀ value ∈ [] ++ answers.map (·.2), value.value.length = value.len := by
    intro value member
    obtain ⟨answer, belongs, rfl⟩ := List.mem_map.mp (by simpa only [List.nil_append] using member)
    exact exact answer belongs
  obtain ⟨sentAll, idleAgain, sameReads⟩ := serverRun_answers db secFlag keySize answers answered _
    transId handles [] tcb.sent awaiting (by rw [List.map_nil, List.nil_append, inOrder]) values
    (by rw [samePayload]; omega)
  have run : final = serverRun db secFlag keySize
      (gattProcessReadMultiReq db secFlag keySize tcb (handles.flatMap le16))
      (answers.map fun answer => .sendRsp answer.1 transId gattSuccess answer.2) := by
    simp only [final, serverRun_cons, accepted]
  rw [run]
  refine ⟨?_, idleAgain, by rw [sameReads, reads]⟩
  rw [sentAll, samePayload, List.nil_append, List.map_map]
  rfl

/-- A service of application 1 with its declaration at handle 1 and a readable
characteristic value at handle 3, read by a request naming handle 3 and then
handle 1: the application is asked for handle 3 and answers it, and the server
sends an Error Response with reason 0 in place of the Read Multiple Response
(op code, the value of handle 3, the declaration). -/
theorem readMulti_declarationAfterAppValue :
    let db : List Service :=
      [⟨1, 3, 1, [⟨1, ⟨.bit16 GattPerm.gattUuidPriService, GattPerm.gattPermRead⟩,
        .primaryService, [0x0D, 0x18]⟩,
        ⟨3, ⟨.bit16 0x2A37, GattPerm.gattPermRead⟩, .characteristic, []⟩]⟩]
    let tcb : Tcb := ⟨23, 0, SrCmd.cleared, fun _ => 0, [], []⟩
    let final : Tcb := serverRun db 0 0 tcb
      [.readMultiReq (le16 3 ++ le16 1), .sendRsp 1 1 gattSuccess ⟨3, 0, 2, [0x41, 0x42]⟩]
    AppOwned db 0 0 3 ∧ final.appReads = [⟨1, 1, 3⟩] ∧
      final.sent = [AttProtocol.attpBuildErrCmd gattReqReadMulti 3 gattSuccess] ∧
      final.sent ≠ [[UInt8.ofNat gattRspReadMulti, 0x41, 0x42, 0x0D, 0x18]] := by
  intro db tcb final
  refine ⟨⟨_, _, ⟨rfl, rfl, by decide, rfl, Or.inr rfl⟩⟩, ?_, ?_, ?_⟩ <;> decide

end Fluoride.GattReadMulti
