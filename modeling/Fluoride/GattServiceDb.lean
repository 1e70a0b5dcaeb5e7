import Fluoride.GattReadMulti
import Fluoride.Runs

/-!
# The GATT server's service databases and their handle ranges

`GATTS_AddService` (`stack/gatt/gatt_api.cc`) gives a new service a range of
attribute handles, records it in `hdl_list_info` (kept in descending order of
start handle), builds its database (`gatts_init_service_db` and the
`gatts_add_*` functions of `stack/gatt/gatt_db.cc`, each taking the next handle
through `allocate_attr_in_db`) and lists it in `srv_list_info` (ascending).
An application service starts one past the end of the highest range, or at
`app_start_hdl`. `GATTS_StopService` takes a service out of `srv_list_info`;
`GATTS_DeleteService` stops it if it is active and frees its range.

Handles are `uint16_t`. A range that ends at `0xFFFF` passes the space check,
but `gatts_init_service_db` computes its end handle `s_hdl + num_handle` as
`0x10000`, which is `0`, and the very first `allocate_attr_in_db` stops the
stack with `LOG(FATAL)` (`gattsAddService_lastHandleFatal`).

A `LOG(FATAL)` is the failure of a call. `p_db`, a pointer to a database in
`hdl_list_info`, is the start handle of the range that holds it; the SDP
record, the NV-save callback and the service-changed indication that the calls
also make are left out.
-/

namespace Fluoride.GattServiceDb

open GattReadMulti (AttrType gattMaxApps)
open GattPerm (gattPermRead gattWriteSignedPerm gattUuidPriService gattUuidSecService
  gattUuidIncludeService gattUuidCharDeclare)

/-! ## Constants and UUIDs -/

def gattGattStartHandle : Nat := 1
def gattGapStartHandle : Nat := 20
def gattAppStartHandle : Nat := 40

def gattInternalError : Nat := 0x81
def gattServiceStarted : Nat := 0x8c

def gattCharPropBitAuth : Nat := 1 <<< 6

def uuidServclassGapServer : Nat := 0x1800
def uuidServclassGattServer : Nat := 0x1801

/-- A `uint16_t` handle is taken modulo this. -/
def handleModulus : Nat := 0x10000

/-- `bluetooth::Uuid`, as its 128-bit big-endian value. -/
structure Uuid where
  value : Nat
  deriving DecidableEq, Repr

namespace Uuid

/-- `kBase`, the Bluetooth base UUID `00000000-0000-1000-8000-00805F9B34FB`. -/
def kBase : Uuid := ⟨0x0000000000001000800000805F9B34FB⟩

/-- `kEmpty`. -/
def kEmpty : Uuid := ⟨0⟩

/-- `Uuid::From16Bit`: the 16-bit value in octets 2 and 3 of the base UUID. -/
def from16Bit (uuid16 : Nat) : Uuid := ⟨kBase.value + uuid16 % 0x10000 * 2 ^ 96⟩

/-- `Uuid::IsEmpty`. -/
def isEmpty (uuid : Uuid) : Bool := uuid == kEmpty

end Uuid

/-- `is_gatt_attr_type`: the declaration types an application may not use. -/
def isGattAttrType (uuid : Uuid) : Bool :=
  uuid == Uuid.from16Bit gattUuidPriService || uuid == Uuid.from16Bit gattUuidSecService ||
    uuid == Uuid.from16Bit gattUuidIncludeService || uuid == Uuid.from16Bit gattUuidCharDeclare

/-! ## Service databases -/

/-- `btgatt_db_element_t`: the fields `GATTS_AddService` reads, and
`attribute_handle`, which it also writes. -/
structure DbElement where
  type : AttrType
  uuid : Uuid
  properties : Nat
  permissions : Nat
  attributeHandle : Nat
  deriving DecidableEq, Repr

/-- The handles `compute_service_size` counts for an element. -/
def elementHandles : AttrType → Nat
  | .primaryService => 1
  | .secondaryService => 1
  | .descriptor => 1
  | .included => 1
  | .characteristic => 2

/-- `compute_service_size`, returned as a `uint16_t`. -/
def computeServiceSize (service : List DbElement) : Nat :=
  (service.map fun el => elementHandles el.type).sum % handleModulus

/-- What `p_value` of an attribute holds. -/
inductive AttrValue
  | none
  | serviceUuid (uuid : Uuid)
  | charDecl (property charValHandle : Nat)
  | inclHandle (sHandle eHandle : Nat) (serviceType : Uuid)
  deriving DecidableEq, Repr

/-- `tGATT_ATTR`, the fields the database builders write. -/
structure GattAttr where
  handle : Nat
  uuid : Uuid
  permission : Nat
  pValue : AttrValue
  deriving DecidableEq, Repr

/-- `tGATT_SVC_DB`. -/
structure SvcDb where
  attrList : List GattAttr
  endHandle : Nat
  nextHandle : Nat
  deriving DecidableEq, Repr

/-- How a call stops the stack: `LOG(FATAL)`. -/
inductive Abort
  | fatal
  deriving DecidableEq, Repr

/-- The `p_value` of the attribute with the handle, written through the
reference `allocate_attr_in_db` returned. -/
def SvcDb.setValue (db : SvcDb) (handle : Nat) (value : AttrValue) : SvcDb :=
  { db with attrList := db.attrList.map fun attr =>
      if attr.handle = handle then { attr with pValue := value } else attr }

/-- `allocate_attr_in_db`: the next handle, or `LOG(FATAL)` when the database
has none left. -/
def allocateAttrInDb (db : SvcDb) (uuid : Uuid) (perm : Nat) : Except Abort (SvcDb × Nat) :=
  if db.nextHandle ≥ db.endHandle then .error .fatal
  else .ok ({ db with attrList := db.attrList ++ [⟨db.nextHandle, uuid, perm, .none⟩],
                      nextHandle := (db.nextHandle + 1) % handleModulus }, db.nextHandle)

/-- `gatts_init_service_db`: an empty database over `num_handle` handles from
`s_hdl`, holding the service declaration. -/
def gattsInitServiceDb (serviceUuid : Uuid) (isPri : Bool) (sHdl numHandle : Nat) :
    Except Abort SvcDb := do
  let db : SvcDb := { attrList := [], endHandle := (sHdl + numHandle) % handleModulus, nextHandle := sHdl }
  let (db, handle) ← allocateAttrInDb db
    (Uuid.from16Bit (if isPri then gattUuidPriService else gattUuidSecService)) gattPermRead
  return db.setValue handle (.serviceUuid serviceUuid)

/-- `gatts_add_included_service`: `0` and no attribute for illegal parameters. -/
def gattsAddIncludedService (db : SvcDb) (sHandle eHandle : Nat) (service : Uuid) :
    Except Abort (SvcDb × Nat) :=
  if service.isEmpty || sHandle == 0 || eHandle == 0 then .ok (db, 0)
  else do
    let (db, handle) ← allocateAttrInDb db (Uuid.from16Bit gattUuidIncludeService) gattPermRead
    return (db.setValue handle (.inclHandle sHandle eHandle service), handle)

/-- `gatts_add_characteristic`: the declaration, then the value, whose handle it
returns. -/
def gattsAddCharacteristic (db : SvcDb) (perm property : Nat) (charUuid : Uuid) :
    Except Abort (SvcDb × Nat) := do
  let (db, charDecl) ← allocateAttrInDb db (Uuid.from16Bit gattUuidCharDeclare) gattPermRead
  let (db, charVal) ← allocateAttrInDb db charUuid perm
  return (db.setValue charDecl (.charDecl property charVal), charVal)

/-- `gatts_add_char_descr`. -/
def gattsAddCharDescr (db : SvcDb) (perm : Nat) (descrUuid : Uuid) : Except Abort (SvcDb × Nat) :=
  allocateAttrInDb db descrUuid perm

/-! ## The control block -/

/-- `tGATT_HDL_CFG`. -/
structure HdlCfg where
  gattStartHdl : Nat
  gapStartHdl : Nat
  appStartHdl : Nat
  deriving DecidableEq, Repr

/-- `tGATTS_HNDL_RANGE`. -/
structure HndlRange where
  appUuid128 : Uuid
  svcUuid : Uuid
  sHandle : Nat
  eHandle : Nat
  isPrimary : Bool
  deriving DecidableEq, Repr

/-- `tGATT_HDL_LIST_ELEM`. -/
structure HdlListElem where
  asgnRange : HndlRange
  svcDb : SvcDb
  deriving DecidableEq, Repr

/-- `tGATT_SRV_LIST_ELEM`; `pDb` is the start handle of the range whose
database `p_db` points to. -/
structure SrvListElem where
  gattIf : Nat
  sHdl : Nat
  eHdl : Nat
  pDb : Nat
  isPrimary : Bool
  appUuid : Uuid
  type : Nat
  deriving DecidableEq, Repr

/-- The part of `gatt_cb` the server's service calls use; `clRcb` holds the
application UUID of each registration in use. -/
structure GattCb where
  hdlCfg : HdlCfg
  clRcb : List (Option Uuid)
  hdlListInfo : List HdlListElem
  srvListInfo : List SrvListElem
  lastServiceHandle : Nat
  deriving DecidableEq, Repr

/-- `gatt_get_regcb`: the application UUID of a registration in use. -/
def gattGetRegcb (cb : GattCb) (gattIf : Nat) : Option Uuid :=
  if gattIf < 1 ∨ gattIf > gattMaxApps then none else cb.clRcb.getD (gattIf - 1) none

/-- `gatt_add_an_item_to_list`: the new range goes before the first range that
starts lower. -/
def gattAddAnItemToList (item : HdlListElem) : List HdlListElem → List HdlListElem
  | [] => [item]
  | it :: rest =>
    if item.asgnRange.sHandle > it.asgnRange.sHandle then item :: it :: rest
    else it :: gattAddAnItemToList item rest

/-- `gatt_find_hdl_buffer_by_handle`: the range that starts at the handle. -/
def gattFindHdlBufferByHandle (hdlList : List HdlListElem) (handle : Nat) : Option HdlListElem :=
  hdlList.find? fun elem => elem.asgnRange.sHandle == handle

/-- The place `GATTS_AddService` gives a new service in `srv_list_info`: before
the first service that starts higher. -/
def insertSrvListElem (elem : SrvListElem) : List SrvListElem → List SrvListElem
  | [] => [elem]
  | it :: rest => if elem.sHdl < it.sHdl then elem :: it :: rest else it :: insertSrvListElem elem rest

/-- `gatt_update_last_srv_info`: the start handle of the last service listed. -/
def gattUpdateLastSrvInfo (srvList : List SrvListElem) : Nat :=
  srvList.foldl (fun _ el => el.sHdl) 0

/-! ## Adding a service -/

/-- Where `GATTS_AddService` starts a service: the configured handle of the GATT
and GAP services, and for an application's service one past the end of the
highest range (in `uint16_t`), at least `app_start_hdl`. -/
def serviceStartHandle (cb : GattCb) (svcUuid : Uuid) : Nat :=
  if svcUuid = Uuid.from16Bit uuidServclassGattServer then cb.hdlCfg.gattStartHdl
  else if svcUuid = Uuid.from16Bit uuidServclassGapServer then cb.hdlCfg.gapStartHdl
  else
    let sHdl := match cb.hdlListInfo with
      | [] => 0
      | front :: _ => (front.asgnRange.eHandle + 1) % handleModulus
    if sHdl < cb.hdlCfg.appStartHdl then cb.hdlCfg.appStartHdl else sHdl

/-- One element after the service in `GATTS_AddService`: its attributes and the
handle written back to it, or `none` for the `GATT_INTERNAL_ERROR` an invalid
element returns. `hdlList` is the range list, the new range included, that an
included service is looked up in. -/
def addElement (hdlList : List HdlListElem) (db : SvcDb) (el : DbElement) :
    Except Abort (Option (SvcDb × Nat)) :=
  match el.type with
  | .characteristic =>
    if (el.properties &&& gattCharPropBitAuth ≠ 0 ∧ el.permissions &&& gattWriteSignedPerm = 0) ∨
        (el.permissions &&& gattWriteSignedPerm ≠ 0 ∧ el.properties &&& gattCharPropBitAuth = 0) then
      .ok none
    else if isGattAttrType el.uuid then .ok none
    else (gattsAddCharacteristic db el.permissions el.properties el.uuid).map some
  | .descriptor =>
    if isGattAttrType el.uuid then .ok none
    else (gattsAddCharDescr db el.permissions el.uuid).map some
  | .included =>
    match gattFindHdlBufferByHandle hdlList el.attributeHandle with
    | none => .ok none
    | some incl =>
      (gattsAddIncludedService db incl.asgnRange.sHandle incl.asgnRange.eHandle
        incl.asgnRange.svcUuid).map some
  | .primaryService => .ok (some (db, el.attributeHandle))
  | .secondaryService => .ok (some (db, el.attributeHandle))

/-- The loop of `GATTS_AddService` over the elements after the service: the
database, the elements with their handles, and whether every element was valid. -/
def addElements (hdlList : List HdlListElem) : SvcDb → List DbElement →
    Except Abort (SvcDb × List DbElement × Bool)
  | db, [] => .ok (db, [], true)
  | db, el :: rest => do
    match ← addElement hdlList db el with
    | none => return (db, el :: rest, false)
    | some (db, handle) =>
      let (db, rest, valid) ← addElements hdlList db rest
      return (db, { el with attributeHandle := handle } :: rest, valid)

/-- `GATTS_AddService`: the control block after the call, the status, and the
elements with the handles written to them. -/
def gattsAddService (cb : GattCb) (gattIf : Nat) (service : DbElement) (others : List DbElement) :
    Except Abort (GattCb × Nat × List DbElement) :=
  match gattGetRegcb cb gattIf with
  | none => .ok (cb, gattInternalError, service :: others)
  | some appUuid128 =>
    let isPri := service.type == .primaryService
    let numHandles := computeServiceSize (service :: others)
    let sHdl := serviceStartHandle cb service.uuid
    if numHandles > 0xFFFF - sHdl + 1 then .ok (cb, gattInternalError, service :: others)
    else do
      let range : HndlRange :=
        { appUuid128 := appUuid128, svcUuid := service.uuid, sHandle := sHdl,
          eHandle := (sHdl + numHandles + 0xFFFF) % handleModulus, isPrimary := isPri }
      let db ← gattsInitServiceDb service.uuid isPri sHdl numHandles
      let (db, written, valid) ← addElements (gattAddAnItemToList ⟨range, db⟩ cb.hdlListInfo) db others
      let hdlList := gattAddAnItemToList ⟨range, db⟩ cb.hdlListInfo
      let elements := { service with attributeHandle := sHdl } :: written
      if valid then
        let elem : SrvListElem :=
          { gattIf := gattIf, sHdl := sHdl, eHdl := range.eHandle, pDb := sHdl, isPrimary := isPri,
            appUuid := appUuid128, type := if isPri then gattUuidPriService else gattUuidSecService }
        let srvList := insertSrvListElem elem cb.srvListInfo
        return ({ cb with hdlListInfo := hdlList, srvListInfo := srvList,
                          lastServiceHandle := gattUpdateLastSrvInfo srvList },
          gattServiceStarted, elements)
      else return ({ cb with hdlListInfo := hdlList }, gattInternalError, elements)

/-! ## Stopping and deleting a service -/

/-- `gatts_get_service_uuid` on the database `p_db` points to: the value of its
first attribute, the service declaration. -/
def gattsGetServiceUuid (cb : GattCb) (pDb : Nat) : Option Uuid :=
  match cb.hdlListInfo.find? (fun elem => elem.asgnRange.sHandle == pDb) with
  | none => none
  | some elem =>
    match elem.svcDb.attrList with
    | [] => none
    | first :: _ =>
      match first.pValue with
      | .serviceUuid uuid => some uuid
      | _ => none

/-- `is_active_service`: a listed service of the application, with the service
UUID, starting at the handle. -/
def isActiveService (cb : GattCb) (appUuid128 svcUuid : Uuid) (startHandle : Nat) : Bool :=
  cb.srvListInfo.any fun info =>
    match gattsGetServiceUuid cb info.pDb with
    | some uuid => appUuid128 == info.appUuid && svcUuid == uuid && startHandle == info.sHdl
    | none => false

/-- The test of `gatt_sr_find_i_rcb_by_handle`: the service's range holds the handle. -/
def holdsHandle (handle : Nat) (info : SrvListElem) : Bool :=
  info.sHdl ≤ handle && info.eHdl ≥ handle

/-- `GATTS_StopService`: the first listed service whose range holds the handle
leaves `srv_list_info`. -/
def gattsStopService (cb : GattCb) (serviceHandle : Nat) : GattCb :=
  match cb.srvListInfo.find? (holdsHandle serviceHandle) with
  | none => cb
  | some _ =>
    let srvList := cb.srvListInfo.eraseP (holdsHandle serviceHandle)
    { cb with srvListInfo := srvList, lastServiceHandle := gattUpdateLastSrvInfo srvList }

/-- The test of `gatt_find_hdl_buffer_by_app_id`. -/
def isAppRange (appUuid128 svcUuid : Uuid) (startHandle : Nat) (elem : HdlListElem) : Bool :=
  appUuid128 == elem.asgnRange.appUuid128 && svcUuid == elem.asgnRange.svcUuid &&
    startHandle == elem.asgnRange.sHandle

/-- `GATTS_DeleteService`: the range of the application's service found by its
UUID and start handle is freed, after the service is stopped if it is active. -/
def gattsDeleteService (cb : GattCb) (gattIf : Nat) (svcUuid : Uuid) (svcInst : Nat) : GattCb × Bool :=
  match gattGetRegcb cb gattIf with
  | none => (cb, false)
  | some appUuid128 =>
    match cb.hdlListInfo.find? (isAppRange appUuid128 svcUuid svcInst) with
    | none => (cb, false)
    | some it =>
      let cb := if isActiveService cb appUuid128 svcUuid svcInst then
          gattsStopService cb it.asgnRange.sHandle
        else cb
      ({ cb with hdlListInfo := cb.hdlListInfo.eraseP (isAppRange appUuid128 svcUuid svcInst) }, true)

/-! ## Looking up an attribute -/

/-- `find_attr_by_handle`: the attributes in order, stopping at the first one
past the handle. -/
def findAttrByHandle : List GattAttr → Nat → Option GattAttr
  | [], _ => none
  | attr :: rest, handle =>
    if attr.handle = handle then some attr
    else if attr.handle > handle then none
    else findAttrByHandle rest handle

/-- The lookup of `gatts_process_attribute_req`: a valid handle, the first listed
service whose range holds it, and the attribute with the handle in the database
its `p_db` points to; `none` is the `GATT_INVALID_HANDLE` it answers, and also
stands for a `p_db` left pointing at a freed database. -/
def gattsAttributeLookup (cb : GattCb) (handle : Nat) : Option (SrvListElem × GattAttr) :=
  if handle = 0 then none
  else
    match cb.srvListInfo.find? (holdsHandle handle) with
    | none => none
    | some el =>
      match gattFindHdlBufferByHandle cb.hdlListInfo el.pDb with
      | none => none
      | some elem => (elem.svcDb.attrList.find? fun attr => attr.handle == handle).map fun attr => (el, attr)

/-- The server's service calls. -/
inductive GattsCall
  | addService (gattIf : Nat) (service : DbElement) (others : List DbElement)
  | stopService (serviceHandle : Nat)
  | deleteService (gattIf : Nat) (svcUuid : Uuid) (svcInst : Nat)
  deriving DecidableEq, Repr

/-- One call, with the status it returns (`GATTS_DeleteService`'s `true` as 1). -/
def gattsStep (cb : GattCb) : GattsCall → Except Abort (GattCb × List Nat)
  | .addService gattIf service others =>
    (gattsAddService cb gattIf service others).map fun added => (added.1, [added.2.1])
  | .stopService serviceHandle => .ok (gattsStopService cb serviceHandle, [])
  | .deleteService gattIf svcUuid svcInst =>
    let deleted := gattsDeleteService cb gattIf svcUuid svcInst
    .ok (deleted.1, [if deleted.2 then 1 else 0])

/-- A range that would end at `0xFFFF` stops the stack: its database's end
handle wraps to `0`, and allocating the service declaration is fatal. -/
theorem gattsAddService_lastHandleFatal (cb : GattCb) (gattIf : Nat) (service : DbElement)
    (others : List DbElement) (appUuid128 : Uuid) (registered : gattGetRegcb cb gattIf = some appUuid128)
    (lastHandle : serviceStartHandle cb service.uuid + computeServiceSize (service :: others) = 0x10000) :
    gattsAddService cb gattIf service others = .error .fatal := by
  have fits : ¬ computeServiceSize (service :: others) > 0xFFFF - serviceStartHandle cb service.uuid + 1 := by
    omega
  have wrapped : (serviceStartHandle cb service.uuid + computeServiceSize (service :: others)) %
      handleModulus = 0 := by
    rw [lastHandle]
    rfl
  have declaration : ∀ isPri : Bool, gattsInitServiceDb service.uuid isPri (serviceStartHandle cb service.uuid)
      (computeServiceSize (service :: others)) = .error .fatal := by
    intro isPri
    simp only [gattsInitServiceDb, allocateAttrInDb, wrapped, Nat.zero_le, if_true]
    rfl
  simp only [gattsAddService, registered, fits, if_false, declaration]
  rfl

/-- A control block with the handle ranges `gatt_init` sets up, one application
registered as `gatt_if` 1, and no service yet: `gatt_init` itself also adds the
GATT service through `gatt_profile_db_init`, which this model of the database
for applications leaves out. -/
def initialCb (appUuid : Uuid) : GattCb where
  hdlCfg := ⟨gattGattStartHandle, gattGapStartHandle, gattAppStartHandle⟩
  clRcb := [some appUuid]
  hdlListInfo := []
  srvListInfo := []
  lastServiceHandle := 0

/-- A readable characteristic user description (`0x2901`). -/
def userDescription : DbElement :=
  ⟨.descriptor, Uuid.from16Bit 0x2901, 0, gattPermRead, 0⟩

/-- Descriptors take one handle each. -/
theorem sizeOfDescriptors (count : Nat) :
    ((List.replicate count userDescription).map fun el => elementHandles el.type).sum = count := by
  rw [List.map_replicate, List.sum_replicate_nat]
  exact Nat.mul_one count

/-- A service whose handle range ends at `0xFFFF` passes the free-space check,
its `e_hdl` wraps to 0, and `allocate_attr_in_db` hits its `LOG(FATAL)`. -/
theorem gattsAddService_fullRangeFatal :
    gattsAddService (initialCb ⟨1⟩) 1 ⟨.primaryService, Uuid.from16Bit 0x180D, 0, 0, 0⟩
      (List.replicate 65495 userDescription) = .error .fatal := by
  have start : serviceStartHandle (initialCb ⟨1⟩)
      (⟨.primaryService, Uuid.from16Bit 0x180D, 0, 0, 0⟩ : DbElement).uuid = 40 := by decide
  have size : computeServiceSize (⟨.primaryService, Uuid.from16Bit 0x180D, 0, 0, 0⟩ ::
      List.replicate 65495 userDescription) = 65496 := by
    rw [computeServiceSize, List.map_cons, List.sum_cons, sizeOfDescriptors]
    rfl
  apply gattsAddService_lastHandleFatal _ _ _ _ ⟨1⟩ rfl
  rw [start, size]

end Fluoride.GattServiceDb
