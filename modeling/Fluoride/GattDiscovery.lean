import Fluoride.GattReadByType
import Fluoride.Runs

/-!
# The GATT client's discovery procedures

`GATTC_Discover` (`stack/gatt/gatt_api.cc`) starts a discovery of services,
included services, characteristics or descriptors over a handle range, and
`gatt_act_discovery` (`stack/gatt/gatt_cl.cc`) sends a request for what is
left of the range, `[s_handle, e_handle]`, or ends the procedure once
`s_handle` passes `e_handle` or is 0. Each response
(`gatt_process_read_info_rsp`, `gatt_process_find_type_value_rsp`,
`gatt_process_read_by_type_rsp`, and for an included service with a 128-bit
UUID the Read of `gatt_process_read_rsp`) reports its records to the
application through `p_disc_res_cb`, sets `s_handle` to the last handle it read
plus one, and asks `gatt_act_discovery` for the next request.

The client is a state (`Clcb`) stepped by the server's responses
(`gattClientHandleServerRsp`), run by `Runs.run`. Every request of any run
names a range that starts at 1 or above and ends at the end handle asked for
(`discovery_requestsWithin`). Nothing compares a handle of the response to
the range of the request: a server that answers a Find Information request
over `[10, 20]` with the descriptor at handle 5 has handle 5 reported, and the
next request starts at 6; answered so again and again, the client never ends
(`discovery_belowRangeRepeats`).

Handles are `uint16_t`; `s_handle` takes the last handle plus one modulo
`2 ^ 16`. A Find Information response with no record leaves the handle the
loop would have read uninitialised, and the step fails there.
-/

namespace Fluoride.GattDiscovery

open GattPerm (Uuid)
open GattReadByType (gattParseUuidFromCmd from128BitLE)
open ByteBuffer (readLe16)

/-! ## Op codes, statuses and results -/

def gattRspError : Nat := 0x01
def gattReqFindInfo : Nat := 0x04
def gattRspFindInfo : Nat := 0x05
def gattReqFindTypeValue : Nat := 0x06
def gattRspFindTypeValue : Nat := 0x07
def gattReqReadByType : Nat := 0x08
def gattRspReadByType : Nat := 0x09
def gattReqRead : Nat := 0x0A
def gattRspRead : Nat := 0x0B
def gattReqReadByGrpType : Nat := 0x10
def gattRspReadByGrpType : Nat := 0x11
def gattCmdWrite : Nat := 0x52

def gattSuccess : Nat := 0x00
def gattInvalidHandle : Nat := 0x01
def gattInvalidPdu : Nat := 0x04
def gattNotFound : Nat := 0x0A
def gattError : Nat := 0x85

def gattInfoTypePair16 : Nat := 0x01
def gattInfoTypePair128 : Nat := 0x02

/-- `tGATT_DISC_TYPE`. -/
inductive DiscType
  | srvcAll
  | srvcByUuid
  | incSrvc
  | char
  | charDscpt
  deriving DecidableEq, Repr

/-- `disc_type_to_att_opcode`. -/
def discTypeToAttOpcode : DiscType → Nat
  | .srvcAll => gattReqReadByGrpType
  | .srvcByUuid => gattReqFindTypeValue
  | .incSrvc => gattReqReadByType
  | .char => gattReqReadByType
  | .charDscpt => gattReqFindInfo

/-- `disc_type_to_uuid`, the attribute type of a discovery's results. -/
def discTypeToUuid : DiscType → Nat
  | .srvcAll => GattPerm.gattUuidPriService
  | .srvcByUuid => GattPerm.gattUuidPriService
  | .incSrvc => GattPerm.gattUuidIncludeService
  | .char => GattPerm.gattUuidCharDeclare
  | .charDscpt => 0

/-- `gatt_cmd_to_rsp_code`. -/
def gattCmdToRspCode (cmdCode : Nat) : Nat :=
  if cmdCode > 1 ∧ cmdCode ≠ gattCmdWrite then cmdCode + 1 else 0

/-- `tGATT_DISC_VALUE`, by the member a result fills; `none` where the
handler leaves it as it was. -/
inductive DiscValue
  | none
  | group (eHandle : Nat) (serviceType : Uuid)
  | inclService (sHandle eHandle : Nat) (serviceType : Uuid)
  | dclr (charProp valHandle : Nat) (charUuid : Uuid)
  deriving DecidableEq, Repr

/-- `tGATT_DISC_RES`. -/
structure DiscRes where
  type : Uuid
  handle : Nat
  value : DiscValue
  deriving DecidableEq, Repr

/-- What the procedure does that the server or the application sees: a
discovery request for a range, the Read of an included service's UUID, a
result handed to `p_disc_res_cb`, and the end of the operation with its
status. -/
inductive Event
  | request (opCode sHandle eHandle : Nat)
  | read (handle : Nat)
  | discRes (result : DiscRes)
  | cmpl (status : Nat)
  deriving DecidableEq, Repr

/-! ## The client's state -/

/-- `tGATT_CLCB` of a discovery: whether it is in use, the discovery type, the
range left, the UUID asked for, the op code of the request in flight (the head
of `cl_cmd_q`), and `read_uuid128`: whether the client waits for an included
service's UUID, the start handle after it and the result held back. -/
structure Clcb where
  inUse : Bool
  opSubtype : DiscType
  sHandle : Nat
  eHandle : Nat
  uuid : Uuid
  cmdQ : Option Nat
  waitForReadRsp : Bool
  nextDiscStartHdl : Nat
  heldResult : DiscRes
  deriving DecidableEq, Repr

/-- `gatt_end_operation`: the application is told the status and the control
block is freed. -/
def gattEndOperation (clcb : Clcb) (status : Nat) : Clcb × List Event :=
  ({ clcb with inUse := false }, [.cmpl status])

/-- `gatt_act_discovery`: the end of the range ends the procedure; otherwise
the request for `[s_handle, e_handle]` is sent and queued. Sending is taken to
succeed. -/
def gattActDiscovery (clcb : Clcb) : Clcb × List Event :=
  if clcb.sHandle > clcb.eHandle ∨ clcb.sHandle = 0 then gattEndOperation clcb gattSuccess
  else
    let opCode := discTypeToAttOpcode clcb.opSubtype
    ({ clcb with cmdQ := some opCode }, [.request opCode clcb.sHandle clcb.eHandle])

/-- `GATTC_Discover`: none where it returns `GATT_ILLEGAL_PARAMETER`. -/
def gattcDiscover (discType : DiscType) (startHandle endHandle : Nat) (uuid : Uuid) :
    Option (Clcb × List Event) :=
  if startHandle = 0 ∨ endHandle = 0 ∨ (discType = .srvcByUuid ∧ uuid = .empty) then none
  else
    some (gattActDiscovery
      ⟨true, discType, startHandle, endHandle, uuid, none, false, 0, ⟨.empty, 0, .none⟩⟩)

/-- `s_handle` after a response: 0 (the end) after handle 0, else the next
handle as a `uint16_t`. -/
def nextStart (handle : Nat) : Nat :=
  if handle = 0 then 0 else (handle + 1) % 65536

/-- The results handed to the application, then what the procedure does next. -/
def reportThen (results : List DiscRes) (next : Clcb × List Event) : Clcb × List Event :=
  (next.1, results.map .discRes ++ next.2)

/-! ## Find Information -/

/-- The record loop of `gatt_process_read_info_rsp`, `while (len >= uuid_len + 2)`:
a handle and a UUID of `uuid_len` bytes, or the UUID asked for when the format
is unknown. Carries the results and the handle last read, none before the
first. Every pass takes two bytes or more, so `fuel`, the length, never stops
the loop. -/
def readInfoLoop (uuidLen : Nat) (uuid : Uuid) :
    Nat → List UInt8 → List DiscRes → Option Nat → List DiscRes × Option Nat
  | 0, _, results, handle => (results, handle)
  | fuel + 1, bytes, results, handle =>
    if bytes.length ≥ uuidLen + 2 then
      let found := readLe16 bytes 0
      let type := if uuidLen > 0 then gattParseUuidFromCmd uuidLen (bytes.drop 2) else some uuid
      match type with
      -- a failed parse breaks the loop; sizes 2 and 16 always parse
      | none => (results, some found)
      | some type =>
        readInfoLoop uuidLen uuid fuel (bytes.drop (uuidLen + 2)) (results ++ [⟨type, found, .none⟩])
          (some found)
    else (results, handle)

/-- The end of `gatt_process_read_info_rsp`: the results reported, and the
discovery goes on after the handle last read. Fails where the loop read no
handle: `result` is not initialised. -/
def readInfoFinish (clcb : Clcb) : List DiscRes × Option Nat → Except Unit (Clcb × List Event)
  | (_, none) => .error ()
  | (results, some handle) =>
    .ok (reportThen results (gattActDiscovery { clcb with sHandle := nextStart handle }))

/-- `gatt_process_read_info_rsp`. -/
def gattProcessReadInfoRsp (clcb : Clcb) (bytes : List UInt8) : Except Unit (Clcb × List Event) :=
  if bytes.length < 1 then .ok (gattEndOperation clcb gattInvalidPdu)
  else if clcb.opSubtype ≠ .charDscpt then .ok (clcb, [])
  else
    let format := (bytes.getD 0 0).toNat
    let uuidLen :=
      if format = gattInfoTypePair16 then 2 else if format = gattInfoTypePair128 then 16 else 0
    readInfoFinish clcb (readInfoLoop uuidLen clcb.uuid bytes.length (bytes.drop 1) [] none)

/-! ## Find By Type Value -/

/-- The record loop of `gatt_process_find_type_value_rsp`, `while (len >= 4)`:
handle ranges of the services found. Carries the results and the last end
handle, 0 before the first (`result` is cleared). -/
def findTypeValueLoop (uuid : Uuid) : List UInt8 → List DiscRes → Nat → List DiscRes × Nat
  | sLow :: sHigh :: eLow :: eHigh :: rest, results, _ =>
    let eHandle := readLe16 [eLow, eHigh] 0
    findTypeValueLoop uuid rest
      (results ++ [⟨.bit16 GattPerm.gattUuidPriService, readLe16 [sLow, sHigh] 0, .group eHandle uuid⟩])
      eHandle
  | _, results, eHandle => (results, eHandle)

/-- `gatt_process_find_type_value_rsp`. -/
def gattProcessFindTypeValueRsp (clcb : Clcb) (bytes : List UInt8) : Clcb × List Event :=
  if clcb.opSubtype ≠ .srvcByUuid then (clcb, [])
  else
    let (results, eHandle) := findTypeValueLoop clcb.uuid bytes [] 0
    reportThen results (gattActDiscovery { clcb with sHandle := nextStart eHandle })

/-! ## Read By Type and Read By Group Type -/

/-- How the record loop of `gatt_process_read_by_type_rsp` ends: out of
records, or at a break, with the handle variable last read; by ending the
operation with a status; or by leaving for the Read of an included service's
128-bit UUID, with its start handle, the handle to go on from and the result
held back. -/
inductive ByTypeEnd
  | exhausted (handle : Nat)
  | ended (status : Nat)
  | readIncluded (inclHandle nextHandle : Nat) (held : DiscRes)
  deriving DecidableEq, Repr

/-- One record of `gatt_process_read_by_type_rsp` after its handle, by the
discovery: the result to report (none for a characteristic of another UUID),
or how the loop ends there. `rest` is the record after its handle; the value
`handle` is the handle variable after the record (a group's end handle). -/
def byTypeRecord (clcb : Clcb) (opCode valueLen handle : Nat) (rest : List UInt8) :
    Except ByTypeEnd (Option DiscRes × Nat) :=
  let type := Uuid.bit16 (discTypeToUuid clcb.opSubtype)
  if clcb.opSubtype = .srvcAll ∧ opCode = gattRspReadByGrpType then
    let eHandle := readLe16 rest 0
    if eHandle = 0 then .error (.ended gattInvalidHandle)
    else
      match gattParseUuidFromCmd valueLen (rest.drop 2) with
      | some serviceType => .ok (some ⟨type, handle, .group eHandle serviceType⟩, eHandle)
      -- discover all service response parsing failure: break
      | none => .error (.exhausted eHandle)
  else if clcb.opSubtype = .incSrvc then
    let inclStart := readLe16 rest 0
    let inclEnd := readLe16 rest 2
    if inclStart = 0 ∨ inclEnd = 0 then .error (.ended gattInvalidHandle)
    else if valueLen = 6 then
      .ok (some ⟨type, handle, .inclService inclStart inclEnd (.bit16 (readLe16 rest 4))⟩, handle)
    else if valueLen = 4 then
      .error (.readIncluded inclStart ((handle + 1) % 65536)
        ⟨type, handle, .inclService inclStart inclEnd .empty⟩)
    else .error (.ended gattInvalidPdu)
  else
    -- discover characteristic
    let valHandle := readLe16 rest 1
    if valHandle = 0 then .error (.ended gattInvalidHandle)
    else
      match gattParseUuidFromCmd ((valueLen + 65536 - 3) % 65536) (rest.drop 3) with
      -- invalid format: the operation ends, the result skipped
      | none => .error (.ended gattSuccess)
      | some charUuid =>
        if clcb.uuid ≠ .empty ∧ charUuid ≠ .empty ∧ charUuid ≠ clcb.uuid then .ok (none, handle)
        else .ok (some ⟨type, handle, .dclr (rest.getD 0 0).toNat valHandle charUuid⟩, handle)

/-- The record loop of `gatt_process_read_by_type_rsp`,
`while (len >= handle_len + value_len)`: each record's handle, 0 ending the
operation, then the record by the discovery. Every pass takes two bytes or
more, so `fuel`, the length, never stops the loop. -/
def readByTypeLoop (clcb : Clcb) (opCode handleLen valueLen : Nat) :
    Nat → List UInt8 → List DiscRes → Nat → List DiscRes × ByTypeEnd
  | 0, _, results, handle => (results, .exhausted handle)
  | fuel + 1, bytes, results, handle =>
    if bytes.length ≥ handleLen + valueLen then
      let handle := readLe16 bytes 0
      if handle = 0 then (results, .ended gattInvalidHandle)
      else
        match byTypeRecord clcb opCode valueLen handle (bytes.drop 2) with
        | .error finish => (results, finish)
        | .ok (result, handle) =>
          readByTypeLoop clcb opCode handleLen valueLen fuel (bytes.drop (handleLen + valueLen))
            (results ++ result.toList) handle
    else (results, .exhausted handle)

/-- The end of `gatt_process_read_by_type_rsp`: the results reported, then the
next request after the handle last read, the end of the operation, or the Read
of an included service's UUID. -/
def byTypeFinish (clcb : Clcb) : List DiscRes × ByTypeEnd → Clcb × List Event
  | (results, .exhausted handle) =>
    reportThen results (gattActDiscovery { clcb with sHandle := nextStart handle })
  | (results, .ended status) => reportThen results (gattEndOperation clcb status)
  | (results, .readIncluded inclHandle nextHandle held) =>
    -- `gatt_act_read` for `GATT_READ_INC_SRV_UUID128`
    reportThen results
      ({ clcb with
          sHandle := inclHandle, waitForReadRsp := true, nextDiscStartHdl := nextHandle,
          heldResult := held, cmdQ := some gattReqRead }, [.read inclHandle])

/-- `gatt_process_read_by_type_rsp` for a discovery. The length byte is checked
against the payload and the response, then less the handle bytes is kept as a
`uint8_t`. -/
def gattProcessReadByTypeRsp (payloadSize : Nat) (clcb : Clcb) (opCode : Nat) (bytes : List UInt8) :
    Clcb × List Event :=
  if bytes.length < 1 then gattEndOperation clcb gattInvalidPdu
  else
    let valueLen := (bytes.getD 0 0).toNat
    if valueLen > payloadSize - 2 ∨ valueLen > bytes.length - 1 then gattEndOperation clcb gattError
    else
      let handleLen := if opCode = gattRspReadByGrpType then 4 else 2
      let valueLen := (valueLen + 256 - handleLen) % 256
      byTypeFinish clcb (readByTypeLoop clcb opCode handleLen valueLen bytes.length (bytes.drop 1) [] 0)

/-- `gatt_process_read_rsp` for a discovery: the 128-bit UUID of the included
service held back completes its result, and the discovery goes on. -/
def gattProcessReadRsp (clcb : Clcb) (bytes : List UInt8) : Clcb × List Event :=
  if clcb.opSubtype = .incSrvc ∧ clcb.waitForReadRsp then
    let clcb := { clcb with sHandle := clcb.nextDiscStartHdl, waitForReadRsp := false }
    if bytes.length = 16 then
      let held := clcb.heldResult
      let completed : DiscValue :=
        match held.value with
        | .inclService inclStart inclEnd _ => .inclService inclStart inclEnd (from128BitLE bytes)
        | value => value
      reportThen [{ held with value := completed }] (gattActDiscovery clcb)
    else gattEndOperation clcb gattInvalidPdu
  else (clcb, [])

/-! ## Errors and the dispatch -/

/-- `gatt_process_error_rsp` for a discovery, through `gatt_proc_disc_error_rsp`:
`GATT_NOT_FOUND` for a discovery request is the end of the discovery. -/
def gattProcessErrorRsp (clcb : Clcb) (bytes : List UInt8) : Clcb × List Event :=
  let (opcode, reason) :=
    if bytes.length < 4 then (0, 0x7F) else ((bytes.getD 0 0).toNat, (bytes.getD 3 0).toNat)
  let discoveryOpcode :=
    opcode = gattReqReadByGrpType ∨ opcode = gattReqFindTypeValue ∨ opcode = gattReqReadByType ∨
      opcode = gattReqFindInfo
  gattEndOperation clcb (if discoveryOpcode ∧ reason = gattNotFound then gattSuccess else reason)

/-- `gatt_client_handle_server_rsp` for a discovery: the response to the request
in flight, after its op code. A response to nothing, of the wrong op code, or to
a freed control block is dropped; one that fills the payload ends the
operation. -/
def gattClientHandleServerRsp (payloadSize : Nat) (clcb : Clcb) (response : Nat × List UInt8) :
    Except Unit (Clcb × List Event) :=
  let (opCode, bytes) := response
  match clcb.cmdQ with
  | none => .ok (clcb, [])
  | some cmdCode =>
    let clcb := { clcb with cmdQ := none }
    if gattCmdToRspCode cmdCode ≠ opCode ∧ opCode ≠ gattRspError then .ok (clcb, [])
    else if !clcb.inUse then .ok (clcb, [])
    else if bytes.length ≥ payloadSize then .ok (gattEndOperation clcb gattError)
    else if opCode = gattRspError then .ok (gattProcessErrorRsp clcb bytes)
    else if opCode = gattRspFindInfo then gattProcessReadInfoRsp clcb bytes
    else if opCode = gattRspReadByType ∨ opCode = gattRspReadByGrpType then
      .ok (gattProcessReadByTypeRsp payloadSize clcb opCode bytes)
    else if opCode = gattRspRead then .ok (gattProcessReadRsp clcb bytes)
    else if opCode = gattRspFindTypeValue then .ok (gattProcessFindTypeValueRsp clcb bytes)
    else .ok (clcb, [])

/-! ## Requests stay in the range asked for -/

/-- A discovery request from handle 1 or above to the end handle `eHandle`. -/
def RequestWithin (eHandle : Nat) : Event → Prop
  | .request _ sHandle endHandle => 1 ≤ sHandle ∧ sHandle ≤ eHandle ∧ endHandle = eHandle
  | _ => True

/-- What the client does after a response keeps the end handle of `clcb` and
asks only for ranges within it. -/
def KeepsRange (clcb : Clcb) (next : Clcb × List Event) : Prop :=
  next.1.eHandle = clcb.eHandle ∧ ∀ event ∈ next.2, RequestWithin clcb.eHandle event

section KeepsRange

variable {clcb : Clcb}

theorem KeepsRange.endOperation {other : Clcb} (sameEnd : other.eHandle = clcb.eHandle) (status : Nat) :
    KeepsRange clcb (gattEndOperation other status) := by
  refine ⟨sameEnd, ?_⟩
  intro event member
  rw [gattEndOperation, List.mem_singleton] at member
  rw [member]
  trivial

/-- `gatt_act_discovery` asks for a range only when it starts at 1 or above and
not past its end. -/
theorem KeepsRange.actDiscovery {other : Clcb} (sameEnd : other.eHandle = clcb.eHandle) :
    KeepsRange clcb (gattActDiscovery other) := by
  unfold gattActDiscovery
  split_ifs with finished
  · exact KeepsRange.endOperation sameEnd gattSuccess
  · refine ⟨sameEnd, ?_⟩
    intro event member
    rw [List.mem_singleton] at member
    rw [member, ← sameEnd]
    refine ⟨?_, ?_, rfl⟩ <;> omega

theorem KeepsRange.report {next : Clcb × List Event} (keeps : KeepsRange clcb next)
    (results : List DiscRes) : KeepsRange clcb (reportThen results next) := by
  refine ⟨keeps.1, ?_⟩
  intro event member
  rcases List.mem_append.mp member with reported | later
  · obtain ⟨result, -, rfl⟩ := List.mem_map.mp reported
    trivial
  · exact keeps.2 event later

theorem KeepsRange.unchanged : KeepsRange clcb (clcb, []) :=
  ⟨rfl, fun _ member => absurd member List.not_mem_nil⟩

theorem readInfoFinish_keepsRange (outcome : List DiscRes × Option Nat) (next : Clcb × List Event)
    (finished : readInfoFinish clcb outcome = .ok next) : KeepsRange clcb next := by
  obtain ⟨results, _ | handle⟩ := outcome
  · cases finished
  · cases finished
    exact (KeepsRange.actDiscovery rfl).report results

theorem gattProcessReadInfoRsp_keepsRange (bytes : List UInt8) (next : Clcb × List Event)
    (handled : gattProcessReadInfoRsp clcb bytes = .ok next) : KeepsRange clcb next := by
  unfold gattProcessReadInfoRsp at handled
  split_ifs at handled with short other
  · cases handled
    exact KeepsRange.endOperation rfl gattInvalidPdu
  · cases handled
    exact KeepsRange.unchanged
  · exact readInfoFinish_keepsRange _ next handled

theorem gattProcessFindTypeValueRsp_keepsRange (bytes : List UInt8) :
    KeepsRange clcb (gattProcessFindTypeValueRsp clcb bytes) := by
  unfold gattProcessFindTypeValueRsp
  split_ifs with other
  · exact KeepsRange.unchanged
  · exact (KeepsRange.actDiscovery rfl).report _

theorem byTypeFinish_keepsRange (outcome : List DiscRes × ByTypeEnd) :
    KeepsRange clcb (byTypeFinish clcb outcome) := by
  obtain ⟨results, finish⟩ := outcome
  cases finish with
  | exhausted handle => exact (KeepsRange.actDiscovery rfl).report results
  | ended status => exact (KeepsRange.endOperation rfl status).report results
  | readIncluded inclHandle nextHandle held =>
    refine KeepsRange.report ⟨rfl, ?_⟩ results
    intro event member
    rw [List.mem_singleton] at member
    rw [member]
    trivial

theorem gattProcessReadByTypeRsp_keepsRange (payloadSize opCode : Nat) (bytes : List UInt8) :
    KeepsRange clcb (gattProcessReadByTypeRsp payloadSize clcb opCode bytes) := by
  unfold gattProcessReadByTypeRsp
  dsimp only
  split_ifs with short tooLong grouped
  · exact KeepsRange.endOperation rfl gattInvalidPdu
  · exact KeepsRange.endOperation rfl gattError
  · exact byTypeFinish_keepsRange _
  · exact byTypeFinish_keepsRange _

theorem gattProcessReadRsp_keepsRange (bytes : List UInt8) :
    KeepsRange clcb (gattProcessReadRsp clcb bytes) := by
  unfold gattProcessReadRsp
  split_ifs with waiting sized
  · exact (KeepsRange.actDiscovery rfl).report _
  · exact KeepsRange.endOperation rfl gattInvalidPdu
  · exact KeepsRange.unchanged

/-- **A response keeps the range.** Whatever the server answers, the client's
end handle stays, and every request it sends names a range from handle 1 or
above to that end handle. -/
theorem gattClientHandleServerRsp_keepsRange (payloadSize : Nat) (response : Nat × List UInt8)
    (next : Clcb × List Event) (handled : gattClientHandleServerRsp payloadSize clcb response = .ok next) :
    KeepsRange clcb next := by
  obtain ⟨opCode, bytes⟩ := response
  cases queue : clcb.cmdQ with
  | none =>
    simp only [gattClientHandleServerRsp, queue, Except.ok.injEq] at handled
    rw [← handled]
    exact KeepsRange.unchanged
  | some cmdCode =>
    -- the command leaves the queue; the range is that of the control block
    have dequeued : ∀ after : Clcb × List Event,
        KeepsRange { clcb with cmdQ := none } after → KeepsRange clcb after := fun _ keeps => keeps
    simp only [gattClientHandleServerRsp, queue] at handled
    split_ifs at handled with mismatched freed full failed info byType read findTypeValue
    · cases handled
      exact dequeued _ KeepsRange.unchanged
    · cases handled
      exact dequeued _ KeepsRange.unchanged
    · cases handled
      exact dequeued _ (KeepsRange.endOperation rfl gattError)
    · cases handled
      exact dequeued _ (KeepsRange.endOperation rfl _)
    · exact dequeued _ (gattProcessReadInfoRsp_keepsRange bytes next handled)
    · cases handled
      exact dequeued _ (gattProcessReadByTypeRsp_keepsRange payloadSize opCode bytes)
    · cases handled
      exact dequeued _ (gattProcessReadRsp_keepsRange bytes)
    · cases handled
      exact dequeued _ (gattProcessFindTypeValueRsp_keepsRange bytes)
    · cases handled
      exact dequeued _ KeepsRange.unchanged

end KeepsRange

/-- **Every request of a discovery stays in the range asked for.** From
`GATTC_Discover` on, whatever the server answers, every request the client
sends starts at handle 1 or above and not past the end handle, and ends there. -/
theorem discovery_requestsWithin (discType : DiscType) (startHandle endHandle : Nat) (uuid : Uuid)
    (clcb : Clcb) (first : List Event) (started : gattcDiscover discType startHandle endHandle uuid = some (clcb, first))
    (payloadSize : Nat) (responses : List (Nat × List UInt8)) (final : Clcb) (emitted : List Event)
    (ran : Runs.run (gattClientHandleServerRsp payloadSize) clcb responses = .ok (final, emitted)) :
    ∀ event ∈ first ++ emitted, RequestWithin endHandle event := by
  unfold gattcDiscover at started
  split_ifs at started with invalid
  rw [Option.some.injEq] at started
  obtain ⟨sameEnd, firstWithin⟩ : KeepsRange
      ⟨true, discType, startHandle, endHandle, uuid, none, false, 0, ⟨.empty, 0, .none⟩⟩ (clcb, first) := by
    rw [← started]
    exact KeepsRange.actDiscovery rfl
  have later := Runs.run_outputs (gattClientHandleServerRsp payloadSize) (fun state => state.eHandle = endHandle)
    (fun state response next emitted holds handled =>
      ((gattClientHandleServerRsp_keepsRange payloadSize response (next, emitted) handled).1).trans holds)
    (RequestWithin endHandle)
    (fun state response next emitted holds handled => by
      have keeps := gattClientHandleServerRsp_keepsRange payloadSize response (next, emitted) handled
      rw [← holds]
      exact keeps.2)
    clcb final responses emitted sameEnd ran
  intro event member
  rcases List.mem_append.mp member with fromFirst | fromLater
  · exact firstWithin event fromFirst
  · exact later event fromLater

/-! ## A server that answers below the range -/

/-- The descriptor discovery of handles 10 to 20 after its first request. -/
def discovering : Clcb :=
  ⟨true, .charDscpt, 10, 20, .empty, some gattReqFindInfo, false, 0, ⟨.empty, 0, .none⟩⟩

/-- A Find Information Response of one 16-bit pair: the Client Characteristic
Configuration descriptor at handle 5. -/
def belowRange : Nat × List UInt8 :=
  (gattRspFindInfo, [0x01, 0x05, 0x00, 0x02, 0x29])

/-- The descriptor at handle 5 reported, and the next request from handle 6. -/
def belowRangeEvents : List Event :=
  [.discRes ⟨.bit16 GattPerm.gattUuidCharClientConfig, 5, .none⟩, .request gattReqFindInfo 6 20]

/-- The step from the discovery waiting for its first answer, or for an answer
to a request from handle 6. -/
theorem belowRange_step (clcb : Clcb) (waiting : clcb = discovering ∨ clcb = { discovering with sHandle := 6 }) :
    gattClientHandleServerRsp 23 clcb belowRange = .ok ({ discovering with sHandle := 6 }, belowRangeEvents) := by
  rcases waiting with rfl | rfl <;> decide

/-- Answered so, the discovery stays where it was, reporting handle 5 and asking
again from handle 6. -/
theorem belowRange_run (count : Nat) :
    Runs.run (gattClientHandleServerRsp 23) { discovering with sHandle := 6 } (List.replicate count belowRange) =
      .ok ({ discovering with sHandle := 6 }, (List.replicate count belowRangeEvents).flatten) := by
  induction count with
  | zero => rfl
  | succ count inductionHypothesis =>
    rw [List.replicate_succ, Runs.run_cons_ok _ _ _ _ _ _ (belowRange_step _ (Or.inr rfl)),
      inductionHypothesis]
    rfl

/-- **A discovery that never ends.** A descriptor discovery of handles 10 to 20
asks for that range; a server that answers every request with the descriptor at
handle 5 has handle 5, outside the range, reported for each, and after `n + 1`
answers the client has sent `n + 2` requests, every one after the first from
handle 6, and has not ended. -/
theorem discovery_belowRangeRepeats (count : Nat) :
    gattcDiscover .charDscpt 10 20 .empty = some (discovering, [.request gattReqFindInfo 10 20]) ∧
      Runs.run (gattClientHandleServerRsp 23) discovering (List.replicate (count + 1) belowRange) =
        .ok ({ discovering with sHandle := 6 }, (List.replicate (count + 1) belowRangeEvents).flatten) := by
  refine ⟨rfl, ?_⟩
  rw [List.replicate_succ, Runs.run_cons_ok _ _ _ _ _ _ (belowRange_step _ (Or.inl rfl)),
    belowRange_run count]
  rfl

end Fluoride.GattDiscovery
