import Fluoride.GattServiceDb

/-!
# The handle layout the GATT server keeps over every run of its service calls

`GATTS_AddService` places an application's service one past the end of the
highest range, so the ranges in `hdl_list_info` stay disjoint and in descending
order, and each database takes its handles in order from the start of its range
through `allocate_attr_in_db`. `GATTS_DeleteService` frees a range after
stopping the service when `is_active_service` finds it listed. A listed service
always points at the database that starts where it starts, so that check finds
every listed service, and no entry of `srv_list_info` is left pointing at a
freed database.

`LaidOut` is that layout. Every call keeps it (`gattsStep_laidOut`), and so
does every run of calls that adds no GATT or GAP service (`LaidOut.run`); those
two services start at configured handles instead of above the highest range.
The results are about what follows for the server after any such run: the
attribute handles of all its databases are distinct and inside their ranges,
every listed service finds its database and the UUID it declares, and the
service list stays in ascending order with `last_service_handle` its highest
start.
-/

namespace Fluoride.GattServiceDb

open GattPerm (gattUuidPriService gattUuidSecService)

/-! ## Databases -/

/-- A database built over the range from `sHandle` to `eHandle` for the service
`svcUuid`: its attributes hold the handles from `sHandle` up to its next handle,
the first one declares the service, and its end handle is one past the range,
which ends below `0xFFFF`. -/
structure DbLaidOut (db : SvcDb) (svcUuid : Uuid) (sHandle eHandle : Nat) : Prop where
  handles : db.attrList.map GattAttr.handle = List.range' sHandle (db.nextHandle - sHandle)
  declared : sHandle < db.nextHandle
  within : db.nextHandle ≤ eHandle + 1
  ends : db.endHandle = eHandle + 1
  belowLast : eHandle < 0xFFFF
  declares : ∃ decl rest, db.attrList = decl :: rest ∧ decl.pValue = .serviceUuid svcUuid

@[simp] theorem SvcDb.handles_setValue (db : SvcDb) (handle : Nat) (value : AttrValue) :
    (db.setValue handle value).attrList.map GattAttr.handle = db.attrList.map GattAttr.handle := by
  simp only [SvcDb.setValue, List.map_map]
  apply List.map_congr_left
  intro attr _
  by_cases same : attr.handle = handle <;> simp [same]

@[simp] theorem SvcDb.nextHandle_setValue (db : SvcDb) (handle : Nat) (value : AttrValue) :
    (db.setValue handle value).nextHandle = db.nextHandle := rfl

@[simp] theorem SvcDb.endHandle_setValue (db : SvcDb) (handle : Nat) (value : AttrValue) :
    (db.setValue handle value).endHandle = db.endHandle := rfl

/-- What `allocate_attr_in_db` does when it does not stop the stack. -/
theorem allocateAttrInDb_eq_ok {db db' : SvcDb} {uuid : Uuid} {perm handle : Nat}
    (allocated : allocateAttrInDb db uuid perm = .ok (db', handle)) :
    handle = db.nextHandle ∧ db.nextHandle < db.endHandle ∧
      db' = { db with attrList := db.attrList ++ [⟨db.nextHandle, uuid, perm, .none⟩],
                      nextHandle := (db.nextHandle + 1) % handleModulus } := by
  unfold allocateAttrInDb at allocated
  split at allocated
  · cases allocated
  · rename_i room
    cases allocated
    exact ⟨rfl, Nat.lt_of_not_le room, rfl⟩

/-- A builder that maps its result through `some` succeeds with `some` exactly
when the builder succeeds. -/
theorem map_some_eq_ok {α : Type} {built : Except Abort α} {result : α}
    (mapped : built.map some = .ok (some result)) : built = .ok result := by
  cases built with
  | error failure => cases mapped
  | ok value =>
    cases mapped
    rfl

namespace DbLaidOut

variable {db db' : SvcDb} {svcUuid : Uuid} {sHandle eHandle : Nat}

/-- The service declaration holds the start handle. -/
theorem handle_declaration (laid : DbLaidOut db svcUuid sHandle eHandle) {decl : GattAttr}
    {rest : List GattAttr} (listed : db.attrList = decl :: rest) : decl.handle = sHandle := by
  have handles := laid.handles
  obtain ⟨count, counted⟩ : ∃ count, db.nextHandle - sHandle = count + 1 :=
    ⟨db.nextHandle - sHandle - 1, by have := laid.declared; omega⟩
  rw [listed, counted, List.range'_succ, List.map_cons] at handles
  exact (List.cons.inj handles).1

/-- Writing the value of an attribute past the declaration keeps the layout. -/
theorem setValue (laid : DbLaidOut db svcUuid sHandle eHandle) {handle : Nat} (value : AttrValue)
    (above : sHandle < handle) : DbLaidOut (db.setValue handle value) svcUuid sHandle eHandle := by
  obtain ⟨decl, rest, listed, declares⟩ := laid.declares
  have kept : decl.handle ≠ handle := by
    rw [laid.handle_declaration listed]
    exact Nat.ne_of_lt above
  refine ⟨?_, laid.declared, laid.within, laid.ends, laid.belowLast,
    ⟨decl, rest.map fun attr => if attr.handle = handle then { attr with pValue := value } else attr, ?_,
      declares⟩⟩
  · rw [SvcDb.handles_setValue]
    exact laid.handles
  · simp [SvcDb.setValue, listed, kept]

/-- `allocate_attr_in_db` appends the next handle, which lies past the declaration. -/
theorem allocate (laid : DbLaidOut db svcUuid sHandle eHandle) {uuid : Uuid} {perm handle : Nat}
    (allocated : allocateAttrInDb db uuid perm = .ok (db', handle)) :
    DbLaidOut db' svcUuid sHandle eHandle ∧ sHandle < handle := by
  obtain ⟨rfl, room, rfl⟩ := allocateAttrInDb_eq_ok allocated
  have declared := laid.declared
  have next : (db.nextHandle + 1) % handleModulus = db.nextHandle + 1 := by
    apply Nat.mod_eq_of_lt
    have := laid.ends
    have := laid.belowLast
    unfold handleModulus
    omega
  have counted : db.nextHandle + 1 - sHandle = db.nextHandle - sHandle + 1 := by omega
  obtain ⟨decl, rest, listed, declares⟩ := laid.declares
  refine ⟨⟨?_, ?_, ?_, laid.ends, laid.belowLast,
    ⟨decl, rest ++ [⟨db.nextHandle, uuid, perm, .none⟩], by simp [listed], declares⟩⟩, declared⟩
  · rw [List.map_append, laid.handles, next, counted, List.range'_concat]
    simp only [List.map_cons, List.map_nil, Nat.one_mul]
    congr 2
    omega
  · simp only [next]
    omega
  · simp only [next]
    have := laid.ends
    omega

theorem addIncludedService (laid : DbLaidOut db svcUuid sHandle eHandle) {inclStart inclEnd handle : Nat}
    {service : Uuid} (added : gattsAddIncludedService db inclStart inclEnd service = .ok (db', handle)) :
    DbLaidOut db' svcUuid sHandle eHandle := by
  unfold gattsAddIncludedService at added
  split at added
  · cases added
    exact laid
  · obtain ⟨⟨allocatedDb, allocatedHandle⟩, allocated, written⟩ := (Runs.bind_eq_ok _ _ _).mp added
    cases written
    obtain ⟨allocatedLaid, above⟩ := laid.allocate allocated
    exact allocatedLaid.setValue _ above

theorem addCharacteristic (laid : DbLaidOut db svcUuid sHandle eHandle) {perm property handle : Nat}
    {charUuid : Uuid} (added : gattsAddCharacteristic db perm property charUuid = .ok (db', handle)) :
    DbLaidOut db' svcUuid sHandle eHandle := by
  obtain ⟨⟨declDb, declHandle⟩, declAllocated, continued⟩ := (Runs.bind_eq_ok _ _ _).mp added
  obtain ⟨⟨valueDb, valueHandle⟩, valueAllocated, written⟩ := (Runs.bind_eq_ok _ _ _).mp continued
  cases written
  obtain ⟨declLaid, declAbove⟩ := laid.allocate declAllocated
  obtain ⟨valueLaid, -⟩ := declLaid.allocate valueAllocated
  exact valueLaid.setValue _ declAbove

theorem addCharDescr (laid : DbLaidOut db svcUuid sHandle eHandle) {perm handle : Nat}
    {descrUuid : Uuid} (added : gattsAddCharDescr db perm descrUuid = .ok (db', handle)) :
    DbLaidOut db' svcUuid sHandle eHandle :=
  (laid.allocate added).1

/-- Every element `GATTS_AddService` writes keeps the layout. -/
theorem addElement (laid : DbLaidOut db svcUuid sHandle eHandle) {hdlList : List HdlListElem}
    {el : DbElement} {handle : Nat} (added : GattServiceDb.addElement hdlList db el = .ok (some (db', handle))) :
    DbLaidOut db' svcUuid sHandle eHandle := by
  unfold GattServiceDb.addElement at added
  split at added
  case h_1 =>
    split at added
    · cases added
    split at added
    · cases added
    exact laid.addCharacteristic (map_some_eq_ok added)
  case h_2 =>
    split at added
    · cases added
    exact laid.addCharDescr (map_some_eq_ok added)
  case h_3 =>
    split at added
    · cases added
    exact laid.addIncludedService (map_some_eq_ok added)
  case h_4 =>
    cases added
    exact laid
  case h_5 =>
    cases added
    exact laid

/-- The loop over the elements after the service keeps the layout, up to the
first invalid element or the end. -/
theorem addElements (laid : DbLaidOut db svcUuid sHandle eHandle) {hdlList : List HdlListElem}
    {others written : List DbElement} {valid : Bool}
    (added : GattServiceDb.addElements hdlList db others = .ok (db', written, valid)) :
    DbLaidOut db' svcUuid sHandle eHandle := by
  induction others generalizing db written with
  | nil =>
    cases added
    exact laid
  | cons el rest inductionHypothesis =>
    obtain ⟨result, stepped, continued⟩ := (Runs.bind_eq_ok _ _ _).mp added
    cases result with
    | none =>
      cases continued
      exact laid
    | some next =>
      obtain ⟨nextDb, handle⟩ := next
      obtain ⟨⟨restDb, restWritten, restValid⟩, restAdded, returned⟩ :=
        (Runs.bind_eq_ok _ _ _).mp continued
      cases returned
      exact inductionHypothesis (laid.addElement stepped) restAdded

end DbLaidOut

/-- `gatts_init_service_db` over a range that passed the space check and did
not wrap lays out the database of the range `GATTS_AddService` records. -/
theorem gattsInitServiceDb_laidOut {svcUuid : Uuid} {isPri : Bool} {sHdl numHandle : Nat} {db : SvcDb}
    (space : ¬ numHandle > 0xFFFF - sHdl + 1)
    (init : gattsInitServiceDb svcUuid isPri sHdl numHandle = .ok db) :
    DbLaidOut db svcUuid sHdl ((sHdl + numHandle + 0xFFFF) % handleModulus) := by
  obtain ⟨⟨allocatedDb, handle⟩, allocated, written⟩ := (Runs.bind_eq_ok _ _ _).mp init
  obtain ⟨declared, room, rfl⟩ := allocateAttrInDb_eq_ok allocated
  cases written
  simp only at declared room
  subst handle
  have fits : sHdl + numHandle < handleModulus ∧ 0 < numHandle := by
    unfold handleModulus at room ⊢
    omega
  have next : (sHdl + 1) % handleModulus = sHdl + 1 := by
    apply Nat.mod_eq_of_lt
    omega
  have last : (sHdl + numHandle + 0xFFFF) % handleModulus = sHdl + numHandle - 1 := by
    unfold handleModulus at fits ⊢
    omega
  have ends : (sHdl + numHandle) % handleModulus = sHdl + numHandle := Nat.mod_eq_of_lt fits.1
  refine ⟨?_, ?_, ?_, ?_, ?_, ?_⟩
  · simp [next]
  · simp [next]
  · simp only [SvcDb.nextHandle_setValue, next, last]
    omega
  · simp only [SvcDb.endHandle_setValue, ends, last]
    omega
  · rw [last]
    unfold handleModulus at fits
    omega
  · simp [SvcDb.setValue]

/-! ## The control block -/

/-- A listed service and the range it was given: the same handles, `p_db`
pointing at the range's database, and the range's application. -/
structure Describes (info : SrvListElem) (elem : HdlListElem) : Prop where
  starts : elem.asgnRange.sHandle = info.sHdl
  ends : elem.asgnRange.eHandle = info.eHdl
  points : info.pDb = info.sHdl
  app : info.appUuid = elem.asgnRange.appUuid128

/-- The layout the server keeps: ranges in descending order, each below the
previous one; each range's database laid out over it; the services in
ascending order, each describing a range; `last_service_handle` as
`gatt_update_last_srv_info` leaves it; and no range, nor the start of the
application ranges, at the invalid handle `0`. -/
structure LaidOut (cb : GattCb) : Prop where
  rangesDescending : cb.hdlListInfo.Pairwise fun higher lower =>
    lower.asgnRange.eHandle < higher.asgnRange.sHandle
  databases : ∀ elem ∈ cb.hdlListInfo,
    DbLaidOut elem.svcDb elem.asgnRange.svcUuid elem.asgnRange.sHandle elem.asgnRange.eHandle
  servicesAscending : cb.srvListInfo.Pairwise fun lower higher => lower.eHdl < higher.sHdl
  servicesListed : ∀ info ∈ cb.srvListInfo, ∃ elem ∈ cb.hdlListInfo, Describes info elem
  lastListed : cb.lastServiceHandle = gattUpdateLastSrvInfo cb.srvListInfo
  rangesValid : ∀ elem ∈ cb.hdlListInfo, 0 < elem.asgnRange.sHandle
  appStartValid : 0 < cb.hdlCfg.appStartHdl

/-- The first listed element that a test holds of is the only one: after
erasing it, the test fails everywhere, when the order forbids two elements
passing it. -/
theorem eraseP_excludes {α : Type} {p : α → Bool} {R : α → α → Prop} {l : List α}
    (pairwise : l.Pairwise R) (exclusive : ∀ a b, p a = true → p b = true → ¬ R a b) :
    ∀ x ∈ l.eraseP p, p x = false := by
  induction l with
  | nil => simp
  | cons head rest inductionHypothesis =>
    intro x member
    rw [List.pairwise_cons] at pairwise
    cases passes : p head
    · rw [List.eraseP_cons, passes, cond_false] at member
      rcases List.mem_cons.mp member with rfl | later
      · exact passes
      · exact inductionHypothesis pairwise.2 x later
    · rw [List.eraseP_cons, passes, cond_true] at member
      cases other : p x
      · rfl
      · exact absurd (pairwise.1 x member) (exclusive head x passes other)

/-- In a list of ranges each below the previous one, a range is the first that
starts where it starts. -/
theorem find_start_of_descending {hdlList : List HdlListElem}
    (descending : hdlList.Pairwise fun higher lower => lower.asgnRange.eHandle < higher.asgnRange.sHandle)
    (ordered : ∀ elem ∈ hdlList, elem.asgnRange.sHandle ≤ elem.asgnRange.eHandle) {elem : HdlListElem}
    (member : elem ∈ hdlList) :
    gattFindHdlBufferByHandle hdlList elem.asgnRange.sHandle = some elem := by
  unfold gattFindHdlBufferByHandle
  induction hdlList with
  | nil => cases member
  | cons head rest inductionHypothesis =>
    rw [List.pairwise_cons] at descending
    rw [List.find?_cons]
    rcases List.mem_cons.mp member with rfl | later
    · simp
    · have below := descending.1 elem later
      have elemOrdered := ordered elem (List.mem_cons_of_mem head later)
      have differs : (head.asgnRange.sHandle == elem.asgnRange.sHandle) = false := by
        simp only [beq_eq_false_iff_ne]
        omega
      rw [differs]
      exact inductionHypothesis descending.2
        (fun other member => ordered other (List.mem_cons_of_mem head member)) later

namespace LaidOut

variable {cb : GattCb}

theorem start_le_end (laid : LaidOut cb) :
    ∀ elem ∈ cb.hdlListInfo, elem.asgnRange.sHandle ≤ elem.asgnRange.eHandle := by
  intro elem member
  have laidDb := laid.databases elem member
  have := laidDb.declared
  have := laidDb.within
  omega

theorem service_start_le_end (laid : LaidOut cb) : ∀ info ∈ cb.srvListInfo, info.sHdl ≤ info.eHdl := by
  intro info member
  obtain ⟨elem, elemMember, describes⟩ := laid.servicesListed info member
  rw [← describes.starts, ← describes.ends]
  exact laid.start_le_end elem elemMember

/-- A range is the one `gatt_find_hdl_buffer_by_handle` finds at its start. -/
theorem find_start (laid : LaidOut cb) {elem : HdlListElem} (member : elem ∈ cb.hdlListInfo) :
    gattFindHdlBufferByHandle cb.hdlListInfo elem.asgnRange.sHandle = some elem :=
  find_start_of_descending laid.rangesDescending laid.start_le_end member

/-- Two ranges that start at the same handle are the same range. -/
theorem range_unique (laid : LaidOut cb) {elem other : HdlListElem} (member : elem ∈ cb.hdlListInfo)
    (otherMember : other ∈ cb.hdlListInfo) (same : elem.asgnRange.sHandle = other.asgnRange.sHandle) :
    elem = other := by
  have found := laid.find_start member
  rw [same, laid.find_start otherMember] at found
  exact (Option.some_inj.mp found).symm

/-- `gatts_get_service_uuid` at the start of a range reads the UUID its
database declares. -/
theorem gattsGetServiceUuid_start (laid : LaidOut cb) {elem : HdlListElem}
    (member : elem ∈ cb.hdlListInfo) :
    gattsGetServiceUuid cb elem.asgnRange.sHandle = some elem.asgnRange.svcUuid := by
  have found := laid.find_start member
  obtain ⟨decl, rest, listed, declares⟩ := (laid.databases elem member).declares
  unfold gattFindHdlBufferByHandle at found
  unfold gattsGetServiceUuid
  rw [found]
  simp [listed, declares]

/-- `is_active_service` finds every listed service by its range's application,
service UUID and start. -/
theorem isActiveService_of_describes (laid : LaidOut cb) {elem : HdlListElem} {info : SrvListElem}
    (member : elem ∈ cb.hdlListInfo) (infoMember : info ∈ cb.srvListInfo) (describes : Describes info elem) :
    isActiveService cb elem.asgnRange.appUuid128 elem.asgnRange.svcUuid elem.asgnRange.sHandle = true := by
  apply List.any_eq_true.mpr
  refine ⟨info, infoMember, ?_⟩
  rw [describes.points, ← describes.starts, laid.gattsGetServiceUuid_start member]
  simp [describes.app, describes.starts]

end LaidOut

/-! ## Each call keeps the layout -/

/-- Where `GATTS_AddService` starts an application's service lies past the end of
every range. -/
theorem serviceStartHandle_above {cb : GattCb} {svcUuid : Uuid} (laid : LaidOut cb)
    (notGatt : svcUuid ≠ Uuid.from16Bit uuidServclassGattServer)
    (notGap : svcUuid ≠ Uuid.from16Bit uuidServclassGapServer) :
    ∀ elem ∈ cb.hdlListInfo, elem.asgnRange.eHandle < serviceStartHandle cb svcUuid := by
  have descending := laid.rangesDescending
  have databases := laid.databases
  have ordered := laid.start_le_end
  unfold serviceStartHandle
  rw [if_neg notGatt, if_neg notGap]
  cases listed : cb.hdlListInfo with
  | nil => simp
  | cons front rest =>
    rw [listed] at descending databases ordered
    have belowLast := (databases front List.mem_cons_self).belowLast
    have wraps : (front.asgnRange.eHandle + 1) % handleModulus = front.asgnRange.eHandle + 1 :=
      Nat.mod_eq_of_lt (by unfold handleModulus; omega)
    simp only [wraps]
    intro elem member
    have below : elem.asgnRange.eHandle ≤ front.asgnRange.eHandle := by
      rcases List.mem_cons.mp member with rfl | later
      · exact le_rfl
      · have := List.rel_of_pairwise_cons descending later
        have := ordered front List.mem_cons_self
        omega
    split <;> omega

/-- An application's service starts at `app_start_hdl` or above. -/
theorem appStartHdl_le_serviceStartHandle {cb : GattCb} {svcUuid : Uuid}
    (notGatt : svcUuid ≠ Uuid.from16Bit uuidServclassGattServer)
    (notGap : svcUuid ≠ Uuid.from16Bit uuidServclassGapServer) :
    cb.hdlCfg.appStartHdl ≤ serviceStartHandle cb svcUuid := by
  unfold serviceStartHandle
  rw [if_neg notGatt, if_neg notGap]
  dsimp only
  -- first the front of the list, then the clamp to `app_start_hdl`
  split
  all_goals split <;> omega

/-- A range above every range goes to the front of `hdl_list_info`. -/
theorem gattAddAnItemToList_above {item : HdlListElem} {hdlList : List HdlListElem}
    (above : ∀ elem ∈ hdlList, elem.asgnRange.sHandle < item.asgnRange.sHandle) :
    gattAddAnItemToList item hdlList = item :: hdlList := by
  cases hdlList with
  | nil => rfl
  | cons front rest => exact if_pos (above front List.mem_cons_self)

/-- A service above every service goes to the end of `srv_list_info`. -/
theorem insertSrvListElem_above {elem : SrvListElem} {srvList : List SrvListElem}
    (above : ∀ info ∈ srvList, info.sHdl ≤ elem.sHdl) :
    insertSrvListElem elem srvList = srvList ++ [elem] := by
  induction srvList with
  | nil => rfl
  | cons front rest inductionHypothesis =>
    have stays : ¬ elem.sHdl < front.sHdl := Nat.not_lt.mpr (above front List.mem_cons_self)
    rw [insertSrvListElem, if_neg stays, List.cons_append,
      inductionHypothesis (fun info member => above info (List.mem_cons_of_mem front member))]

/-- The range `GATTS_AddService` records for a service. -/
def serviceRange (cb : GattCb) (appUuid128 : Uuid) (service : DbElement) (others : List DbElement) :
    HndlRange :=
  { appUuid128 := appUuid128, svcUuid := service.uuid, sHandle := serviceStartHandle cb service.uuid,
    eHandle := (serviceStartHandle cb service.uuid + computeServiceSize (service :: others) + 0xFFFF) %
      handleModulus,
    isPrimary := service.type == .primaryService }

/-- The entry `GATTS_AddService` lists for a range. -/
def srvListEntry (gattIf : Nat) (range : HndlRange) : SrvListElem :=
  { gattIf := gattIf, sHdl := range.sHandle, eHdl := range.eHandle, pDb := range.sHandle,
    isPrimary := range.isPrimary, appUuid := range.appUuid128,
    type := if range.isPrimary then gattUuidPriService else gattUuidSecService }

/-- The control block `GATTS_AddService` leaves after building the database
`built` over `range`: the range is recorded, and the service listed when every
element was valid. -/
def addedCb (cb : GattCb) (gattIf : Nat) (range : HndlRange) (built : SvcDb) (valid : Bool) : GattCb :=
  if valid then
    { cb with hdlListInfo := gattAddAnItemToList ⟨range, built⟩ cb.hdlListInfo,
              srvListInfo := insertSrvListElem (srvListEntry gattIf range) cb.srvListInfo,
              lastServiceHandle :=
                gattUpdateLastSrvInfo (insertSrvListElem (srvListEntry gattIf range) cb.srvListInfo) }
  else { cb with hdlListInfo := gattAddAnItemToList ⟨range, built⟩ cb.hdlListInfo }

/-- What `GATTS_AddService` can do without stopping the stack: nothing, or
build the service's database over its range and record it. -/
theorem gattsAddService_eq_ok {cb cb' : GattCb} {gattIf status : Nat} {service : DbElement}
    {others elements : List DbElement}
    (added : gattsAddService cb gattIf service others = .ok (cb', status, elements)) :
    cb' = cb ∨ ∃ appUuid128 db built written valid, gattGetRegcb cb gattIf = some appUuid128 ∧
      ¬ computeServiceSize (service :: others) > 0xFFFF - serviceStartHandle cb service.uuid + 1 ∧
      gattsInitServiceDb service.uuid (service.type == .primaryService) (serviceStartHandle cb service.uuid)
        (computeServiceSize (service :: others)) = .ok db ∧
      addElements (gattAddAnItemToList ⟨serviceRange cb appUuid128 service others, db⟩ cb.hdlListInfo) db
        others = .ok (built, written, valid) ∧
      cb' = addedCb cb gattIf (serviceRange cb appUuid128 service others) built valid := by
  unfold gattsAddService at added
  split at added
  · cases added
    exact .inl rfl
  · rename_i appUuid128 registered
    dsimp only at added
    split at added
    · cases added
      exact .inl rfl
    · rename_i space
      obtain ⟨db, init, continued⟩ := (Runs.bind_eq_ok _ _ _).mp added
      obtain ⟨⟨built, written, valid⟩, building, returned⟩ := (Runs.bind_eq_ok _ _ _).mp continued
      refine .inr ⟨appUuid128, db, built, written, valid, registered, space, init, building, ?_⟩
      cases valid <;> cases returned <;> rfl

namespace LaidOut

variable {cb : GattCb}

/-- Recording a range above every range, with its database laid out over it,
keeps the layout, whether or not the service is listed. -/
theorem addedCb (laid : LaidOut cb) {gattIf : Nat} {range : HndlRange} {built : SvcDb} (valid : Bool)
    (above : ∀ elem ∈ cb.hdlListInfo, elem.asgnRange.eHandle < range.sHandle)
    (builtLaid : DbLaidOut built range.svcUuid range.sHandle range.eHandle) (startValid : 0 < range.sHandle) :
    LaidOut (GattServiceDb.addedCb cb gattIf range built valid) := by
  have recorded : gattAddAnItemToList ⟨range, built⟩ cb.hdlListInfo = ⟨range, built⟩ :: cb.hdlListInfo :=
    gattAddAnItemToList_above fun elem member =>
      Nat.lt_of_le_of_lt (laid.start_le_end elem member) (above elem member)
  have rangesDescending : (⟨range, built⟩ :: cb.hdlListInfo).Pairwise fun higher lower =>
      lower.asgnRange.eHandle < higher.asgnRange.sHandle :=
    List.Pairwise.cons above laid.rangesDescending
  have databases : ∀ elem ∈ (⟨range, built⟩ :: cb.hdlListInfo : List HdlListElem),
      DbLaidOut elem.svcDb elem.asgnRange.svcUuid elem.asgnRange.sHandle elem.asgnRange.eHandle := by
    intro elem member
    rcases List.mem_cons.mp member with rfl | old
    · exact builtLaid
    · exact laid.databases elem old
  have stillListed : ∀ info ∈ cb.srvListInfo,
      ∃ elem ∈ (⟨range, built⟩ :: cb.hdlListInfo : List HdlListElem), Describes info elem := by
    intro info member
    obtain ⟨elem, elemMember, describes⟩ := laid.servicesListed info member
    exact ⟨elem, List.mem_cons_of_mem _ elemMember, describes⟩
  have rangesValid : ∀ elem ∈ (⟨range, built⟩ :: cb.hdlListInfo : List HdlListElem),
      0 < elem.asgnRange.sHandle := by
    intro elem member
    rcases List.mem_cons.mp member with rfl | old
    · exact startValid
    · exact laid.rangesValid elem old
  cases valid
  case false =>
    simp only [GattServiceDb.addedCb, Bool.false_eq_true, if_false, recorded]
    exact ⟨rangesDescending, databases, laid.servicesAscending, stillListed, laid.lastListed, rangesValid,
      laid.appStartValid⟩
  case true =>
    have servicesBelow : ∀ info ∈ cb.srvListInfo, info.eHdl < range.sHandle := by
      intro info member
      obtain ⟨elem, elemMember, describes⟩ := laid.servicesListed info member
      rw [← describes.ends]
      exact above elem elemMember
    have appended : insertSrvListElem (srvListEntry gattIf range) cb.srvListInfo =
        cb.srvListInfo ++ [srvListEntry gattIf range] :=
      insertSrvListElem_above fun info member =>
        Nat.le_of_lt (Nat.lt_of_le_of_lt (laid.service_start_le_end info member) (servicesBelow info member))
    simp only [GattServiceDb.addedCb, if_true, recorded, appended]
    refine ⟨rangesDescending, databases, ?_, ?_, rfl, rangesValid, laid.appStartValid⟩
    · exact List.pairwise_append.mpr ⟨laid.servicesAscending, List.pairwise_singleton _ _,
        fun info member entry isEntry => by
          rw [List.mem_singleton.mp isEntry]
          exact servicesBelow info member⟩
    · intro info member
      rcases List.mem_append.mp member with old | isEntry
      · exact stillListed info old
      · rw [List.mem_singleton.mp isEntry]
        exact ⟨⟨range, built⟩, List.mem_cons_self, ⟨rfl, rfl, rfl, rfl⟩⟩

/-- Freeing a range that no listed service starts at keeps the layout. -/
theorem eraseRange (laid : LaidOut cb) {appUuid128 svcUuid : Uuid} {svcInst : Nat}
    (unlisted : ∀ info ∈ cb.srvListInfo, info.sHdl ≠ svcInst) :
    LaidOut { cb with hdlListInfo := cb.hdlListInfo.eraseP (isAppRange appUuid128 svcUuid svcInst) } := by
  refine ⟨laid.rangesDescending.sublist List.eraseP_sublist,
    fun elem member => laid.databases elem (List.mem_of_mem_eraseP member),
    laid.servicesAscending, ?_, laid.lastListed,
    fun elem member => laid.rangesValid elem (List.mem_of_mem_eraseP member), laid.appStartValid⟩
  intro info member
  obtain ⟨elem, elemMember, describes⟩ := laid.servicesListed info member
  have kept : ¬ isAppRange appUuid128 svcUuid svcInst elem = true := by
    simp only [isAppRange, Bool.and_eq_true, beq_iff_eq, not_and]
    intro _ same
    exact unlisted info member (describes.starts ▸ same.symm)
  exact ⟨elem, (List.mem_eraseP_of_neg kept).mpr elemMember, describes⟩

end LaidOut

/-- `GATTS_AddService` keeps the layout for every service but the GATT and GAP
services. -/
theorem gattsAddService_laidOut {cb cb' : GattCb} {gattIf status : Nat} {service : DbElement}
    {others elements : List DbElement} (laid : LaidOut cb)
    (notGatt : service.uuid ≠ Uuid.from16Bit uuidServclassGattServer)
    (notGap : service.uuid ≠ Uuid.from16Bit uuidServclassGapServer)
    (added : gattsAddService cb gattIf service others = .ok (cb', status, elements)) : LaidOut cb' := by
  rcases gattsAddService_eq_ok added with rfl | ⟨appUuid128, db, built, written, valid, -, space, init,
    building, rfl⟩
  · exact laid
  · have builtLaid := (gattsInitServiceDb_laidOut space init).addElements building
    exact laid.addedCb valid (serviceStartHandle_above laid notGatt notGap) builtLaid
      (Nat.lt_of_lt_of_le laid.appStartValid (appStartHdl_le_serviceStartHandle notGatt notGap))

/-- `GATTS_StopService` keeps the layout. -/
theorem gattsStopService_laidOut {cb : GattCb} (laid : LaidOut cb) (serviceHandle : Nat) :
    LaidOut (gattsStopService cb serviceHandle) := by
  unfold gattsStopService
  split
  · exact laid
  · exact ⟨laid.rangesDescending, laid.databases, laid.servicesAscending.sublist List.eraseP_sublist,
      fun info member => laid.servicesListed info (List.mem_of_mem_eraseP member), rfl, laid.rangesValid,
      laid.appStartValid⟩

/-- After `GATTS_StopService` no listed service holds the handle: the services
are disjoint, so the one it erases is the only one. -/
theorem gattsStopService_releases {cb : GattCb} (laid : LaidOut cb) (serviceHandle : Nat) :
    ∀ info ∈ (gattsStopService cb serviceHandle).srvListInfo, holdsHandle serviceHandle info = false := by
  unfold gattsStopService
  split
  · rename_i noneHolds
    intro info member
    simpa using List.find?_eq_none.mp noneHolds info member
  · apply eraseP_excludes laid.servicesAscending
    intro lower higher lowerHolds higherHolds below
    simp only [holdsHandle, Bool.and_eq_true, decide_eq_true_eq] at lowerHolds higherHolds
    omega

/-- `GATTS_DeleteService` keeps the layout: when the range it frees is listed,
`is_active_service` finds it and the service is stopped first. -/
theorem gattsDeleteService_laidOut {cb : GattCb} (laid : LaidOut cb) (gattIf : Nat) (svcUuid : Uuid)
    (svcInst : Nat) : LaidOut (gattsDeleteService cb gattIf svcUuid svcInst).1 := by
  unfold gattsDeleteService
  split
  · exact laid
  · rename_i appUuid128 _
    split
    · exact laid
    · rename_i it found
      have itMember := List.mem_of_find?_eq_some found
      have matching := List.find?_some found
      simp only [isAppRange, Bool.and_eq_true, beq_iff_eq] at matching
      obtain ⟨⟨rfl, rfl⟩, rfl⟩ := matching
      by_cases active : isActiveService cb it.asgnRange.appUuid128 it.asgnRange.svcUuid it.asgnRange.sHandle
      · simp only [active, if_true]
        apply (gattsStopService_laidOut laid _).eraseRange
        intro info member same
        have released := gattsStopService_releases laid _ info member
        have ordered := (gattsStopService_laidOut laid _).service_start_le_end info member
        simp only [holdsHandle, Bool.and_eq_false_iff, decide_eq_false_iff_not] at released
        omega
      · simp only [active, Bool.false_eq_true, if_false]
        apply laid.eraseRange
        intro info member same
        obtain ⟨elem, elemMember, describes⟩ := laid.servicesListed info member
        have sameRange : elem = it := laid.range_unique elemMember itMember (describes.starts.trans same)
        subst sameRange
        exact active (laid.isActiveService_of_describes elemMember member describes)

/-- A call that adds no GATT or GAP service: those two start at the handles the
configuration fixes, not above the highest range. -/
def AppCall : GattsCall → Prop
  | .addService _ service _ =>
    service.uuid ≠ Uuid.from16Bit uuidServclassGattServer ∧ service.uuid ≠ Uuid.from16Bit uuidServclassGapServer
  | .stopService _ => True
  | .deleteService _ _ _ => True

instance (call : GattsCall) : Decidable (AppCall call) :=
  match call with
  | .addService _ service _ =>
    inferInstanceAs (Decidable (service.uuid ≠ Uuid.from16Bit uuidServclassGattServer ∧
      service.uuid ≠ Uuid.from16Bit uuidServclassGapServer))
  | .stopService _ => inferInstanceAs (Decidable True)
  | .deleteService _ _ _ => inferInstanceAs (Decidable True)

/-- Every call keeps the layout. -/
theorem gattsStep_laidOut : Runs.PreservesOn gattsStep AppCall LaidOut := by
  intro cb call next statuses laid allowed stepped
  cases call with
  | addService gattIf service others =>
    cases adding : gattsAddService cb gattIf service others with
    | error failure => simp [gattsStep, adding, Except.map] at stepped
    | ok added =>
      obtain ⟨added, status, elements⟩ := added
      simp only [gattsStep, adding, Except.map, Except.ok.injEq, Prod.mk.injEq] at stepped
      obtain ⟨rfl, -⟩ := stepped
      exact gattsAddService_laidOut laid allowed.1 allowed.2 adding
  | stopService serviceHandle =>
    cases stepped
    exact gattsStopService_laidOut laid serviceHandle
  | deleteService gattIf svcUuid svcInst =>
    cases stepped
    exact gattsDeleteService_laidOut laid gattIf svcUuid svcInst

/-- Every run of calls that adds no GATT or GAP service keeps the layout. -/
theorem LaidOut.run {cb final : GattCb} {calls : List GattsCall} {statuses : List Nat} (laid : LaidOut cb)
    (allowed : ∀ call ∈ calls, AppCall call) (ran : Runs.run gattsStep cb calls = .ok (final, statuses)) :
    LaidOut final :=
  Runs.run_preserves_trace gattsStep (fun _ _ state => LaidOut state) AppCall
    (fun _ _ state call next emitted => gattsStep_laidOut state call next emitted) [] [] cb final calls
    statuses laid allowed ran

/-! ## What the layout gives the server -/

namespace LaidOut

variable {cb : GattCb}

/-- No two attributes of the server's databases share a handle: each database
holds distinct handles, and the ranges are disjoint. -/
theorem handlesDistinct (laid : LaidOut cb) :
    (cb.hdlListInfo.flatMap fun elem => elem.svcDb.attrList.map GattAttr.handle).Nodup := by
  apply List.nodup_flatMap.mpr
  refine ⟨fun elem member => ?_, ?_⟩
  · rw [(laid.databases elem member).handles]
    exact List.nodup_range'
  · apply laid.rangesDescending.imp_of_mem
    intro higher lower higherMember lowerMember below handle inHigher inLower
    dsimp only at inHigher inLower
    rw [(laid.databases higher higherMember).handles, List.mem_range'_1] at inHigher
    rw [(laid.databases lower lowerMember).handles, List.mem_range'_1] at inLower
    have := (laid.databases lower lowerMember).within
    omega

/-- Every attribute of a range's database holds a handle of the range. -/
theorem handle_within (laid : LaidOut cb) {elem : HdlListElem} (member : elem ∈ cb.hdlListInfo)
    {attr : GattAttr} (attrMember : attr ∈ elem.svcDb.attrList) :
    elem.asgnRange.sHandle ≤ attr.handle ∧ attr.handle ≤ elem.asgnRange.eHandle := by
  have laidDb := laid.databases elem member
  have listed : attr.handle ∈ List.range' elem.asgnRange.sHandle
      (elem.svcDb.nextHandle - elem.asgnRange.sHandle) := by
    rw [← laidDb.handles]
    exact List.mem_map_of_mem attrMember
  rw [List.mem_range'_1] at listed
  have := laidDb.within
  omega

/-- Every listed service finds, through `p_db`, the database of its range, the
UUID it declares, and is found by `is_active_service`. -/
theorem resolves (laid : LaidOut cb) {info : SrvListElem} (member : info ∈ cb.srvListInfo) :
    ∃ elem, gattFindHdlBufferByHandle cb.hdlListInfo info.pDb = some elem ∧
      elem.asgnRange.sHandle = info.sHdl ∧ elem.asgnRange.eHandle = info.eHdl ∧
      gattsGetServiceUuid cb info.pDb = some elem.asgnRange.svcUuid ∧
      isActiveService cb info.appUuid elem.asgnRange.svcUuid info.sHdl = true := by
  obtain ⟨elem, elemMember, describes⟩ := laid.servicesListed info member
  refine ⟨elem, ?_, describes.starts, describes.ends, ?_, ?_⟩
  · rw [describes.points, ← describes.starts]
    exact laid.find_start elemMember
  · rw [describes.points, ← describes.starts]
    exact laid.gattsGetServiceUuid_start elemMember
  · rw [describes.app, ← describes.starts]
    exact laid.isActiveService_of_describes elemMember member describes

/-- `last_service_handle` is the start of the highest listed service. -/
theorem lastServiceHandle_highest (laid : LaidOut cb) :
    (∀ info ∈ cb.srvListInfo, info.sHdl ≤ cb.lastServiceHandle) ∧
      (cb.srvListInfo ≠ [] → ∃ info ∈ cb.srvListInfo, info.sHdl = cb.lastServiceHandle) := by
  have ascending := laid.servicesAscending
  have ordered := laid.service_start_le_end
  rw [laid.lastListed]
  rcases List.eq_nil_or_concat' cb.srvListInfo with empty | ⟨earlier, last, split⟩
  · simp [empty]
  · have folded : gattUpdateLastSrvInfo (earlier ++ [last]) = last.sHdl := by
      simp [gattUpdateLastSrvInfo, List.foldl_append]
    rw [split] at ascending ordered ⊢
    rw [folded]
    refine ⟨fun info member => ?_, fun _ => ⟨last, by simp, rfl⟩⟩
    rcases List.mem_append.mp member with before | isLast
    · have below := (List.pairwise_append.mp ascending).2.2 info before last (List.mem_singleton_self _)
      have := ordered info member
      omega
    · rw [List.mem_singleton.mp isLast]

end LaidOut

/-! ## Finding an attribute by its handle -/

/-- Over attributes in ascending order of handle, stopping at the first one past
the handle loses nothing: `find_attr_by_handle` is the plain search. -/
theorem findAttrByHandle_eq_find? {attrList : List GattAttr}
    (ascending : (attrList.map GattAttr.handle).Pairwise (· < ·)) (handle : Nat) :
    findAttrByHandle attrList handle = attrList.find? fun attr => attr.handle == handle := by
  induction attrList with
  | nil => rfl
  | cons attr rest inductionHypothesis =>
    rw [List.map_cons, List.pairwise_cons] at ascending
    by_cases found : attr.handle = handle
    · simp [findAttrByHandle, found]
    · have passed : (attr.handle == handle) = false := by simpa using found
      rw [findAttrByHandle, if_neg found, List.find?_cons, passed]
      by_cases past : attr.handle > handle
      · rw [if_pos past]
        symm
        apply List.find?_eq_none.mpr
        intro later member
        have above := ascending.1 later.handle (List.mem_map_of_mem member)
        simp only [beq_iff_eq]
        omega
      · rw [if_neg past]
        exact inductionHypothesis ascending.2

/-- Over attributes in ascending order of handle, the search finds each
attribute by its own handle. -/
theorem find?_handle {attrList : List GattAttr}
    (ascending : (attrList.map GattAttr.handle).Pairwise (· < ·)) {attr : GattAttr}
    (member : attr ∈ attrList) :
    (attrList.find? fun other => other.handle == attr.handle) = some attr := by
  induction attrList with
  | nil => cases member
  | cons head rest inductionHypothesis =>
    rw [List.map_cons, List.pairwise_cons] at ascending
    rw [List.find?_cons]
    rcases List.mem_cons.mp member with rfl | later
    · simp
    · have below := ascending.1 attr.handle (List.mem_map_of_mem later)
      have differs : (head.handle == attr.handle) = false := by
        simp only [beq_eq_false_iff_ne]
        omega
      rw [differs]
      exact inductionHypothesis ascending.2 later

/-- In services in ascending order, each disjoint from the next, the service
found for a handle it holds is that service. -/
theorem find?_holdsHandle {srvList : List SrvListElem}
    (ascending : srvList.Pairwise fun lower higher => lower.eHdl < higher.sHdl) {info : SrvListElem}
    (member : info ∈ srvList) {handle : Nat} (holds : holdsHandle handle info = true) :
    srvList.find? (holdsHandle handle) = some info := by
  induction srvList with
  | nil => cases member
  | cons head rest inductionHypothesis =>
    rw [List.pairwise_cons] at ascending
    rw [List.find?_cons]
    rcases List.mem_cons.mp member with rfl | later
    · rw [holds]
    · have below := ascending.1 info later
      have headMisses : holdsHandle handle head = false := by
        simp only [holdsHandle, Bool.and_eq_true, decide_eq_true_eq] at holds
        simp only [holdsHandle, Bool.and_eq_false_iff, decide_eq_false_iff_not]
        omega
      rw [headMisses]
      exact inductionHypothesis ascending.2 later

namespace LaidOut

variable {cb : GattCb}

/-- A database laid out over its range holds its attributes in ascending order of handle. -/
theorem handlesAscending (laid : LaidOut cb) {elem : HdlListElem} (member : elem ∈ cb.hdlListInfo) :
    (elem.svcDb.attrList.map GattAttr.handle).Pairwise (· < ·) := by
  rw [(laid.databases elem member).handles]
  exact List.pairwise_lt_range'

/-- The lookup of an attribute request finds every attribute of a listed
service through that service, and so does `find_attr_by_handle` in its database. -/
theorem lookup (laid : LaidOut cb) {info : SrvListElem} (member : info ∈ cb.srvListInfo)
    {elem : HdlListElem} (found : gattFindHdlBufferByHandle cb.hdlListInfo info.pDb = some elem)
    {attr : GattAttr} (attrMember : attr ∈ elem.svcDb.attrList) :
    gattsAttributeLookup cb attr.handle = some (info, attr) ∧
      findAttrByHandle elem.svcDb.attrList attr.handle = some attr := by
  obtain ⟨listedElem, listedMember, describes⟩ := laid.servicesListed info member
  have sameElem : listedElem = elem := by
    rw [describes.points, ← describes.starts, laid.find_start listedMember] at found
    exact Option.some_inj.mp found
  subst sameElem
  have within := laid.handle_within listedMember attrMember
  have valid := laid.rangesValid listedElem listedMember
  have holds : holdsHandle attr.handle info = true := by
    simp only [holdsHandle, Bool.and_eq_true, decide_eq_true_eq]
    rw [← describes.starts, ← describes.ends]
    exact within
  have attrFound := find?_handle (laid.handlesAscending listedMember) attrMember
  refine ⟨?_, (findAttrByHandle_eq_find? (laid.handlesAscending listedMember) _).trans attrFound⟩
  unfold gattsAttributeLookup
  rw [if_neg (by omega), find?_holdsHandle laid.servicesAscending member holds]
  simp only [found]
  rw [attrFound]
  rfl

end LaidOut

/-- The control block after `gatt_init` is laid out. -/
theorem initialCb_laidOut (appUuid : Uuid) : LaidOut (initialCb appUuid) := by
  refine ⟨List.Pairwise.nil, ?_, List.Pairwise.nil, ?_, rfl, ?_, ?_⟩ <;> simp [initialCb, gattAppStartHandle]

/-! ## Every run -/

/-- A heart-rate service, its measurement characteristic and the client
configuration descriptor, and a battery service with its level: the services
of the runs the results are shown on. -/
def heartRateService : DbElement := ⟨.primaryService, Uuid.from16Bit 0x180D, 0, 0, 0⟩

def heartRateElements : List DbElement :=
  [⟨.characteristic, Uuid.from16Bit 0x2A37, 0x10, 0, 0⟩, ⟨.descriptor, Uuid.from16Bit 0x2902, 0, 0x11, 0⟩]

def batteryService : DbElement := ⟨.primaryService, Uuid.from16Bit 0x180F, 0, 0, 0⟩

def batteryElements : List DbElement := [⟨.characteristic, Uuid.from16Bit 0x2A19, 0x12, 0x01, 0⟩]

/-- Both services added, the first deleted, and added again above the second. -/
def serviceCalls : List GattsCall :=
  [.addService 1 heartRateService heartRateElements, .addService 1 batteryService batteryElements,
    .deleteService 1 (Uuid.from16Bit 0x180D) 40, .addService 1 heartRateService heartRateElements]

theorem serviceCalls_allowed : ∀ call ∈ serviceCalls, AppCall call := by decide

/-- The calls succeed from the control block after `gatt_init`. -/
theorem serviceCalls_run :
    ∃ final statuses, Runs.run gattsStep (initialCb ⟨1⟩) serviceCalls = .ok (final, statuses) :=
  ⟨_, _, rfl⟩

section Runs

variable {cb final : GattCb} {calls : List GattsCall} {statuses : List Nat}

/-- After every run of calls that adds no GATT or GAP service, from a laid-out
server, no two attributes of the server share a handle, and every attribute
lies in the range of its service. -/
theorem gattsRun_handlesDistinct (laid : LaidOut cb) (allowed : ∀ call ∈ calls, AppCall call)
    (ran : Runs.run gattsStep cb calls = .ok (final, statuses)) :
    (final.hdlListInfo.flatMap fun elem => elem.svcDb.attrList.map GattAttr.handle).Nodup ∧
      ∀ elem ∈ final.hdlListInfo, ∀ attr ∈ elem.svcDb.attrList,
        elem.asgnRange.sHandle ≤ attr.handle ∧ attr.handle ≤ elem.asgnRange.eHandle := by
  have reached := laid.run allowed ran
  exact ⟨reached.handlesDistinct, fun elem member attr attrMember => reached.handle_within member attrMember⟩

/-- After adding the heart-rate and battery services, deleting one and adding it
again, no two attributes share a handle. -/
theorem gattsRun_handlesDistinct_serviceCalls :
    ∃ final statuses, Runs.run gattsStep (initialCb ⟨1⟩) serviceCalls = .ok (final, statuses) ∧
      (final.hdlListInfo.flatMap fun elem => elem.svcDb.attrList.map GattAttr.handle).Nodup :=
by
  obtain ⟨final, statuses, ran⟩ := serviceCalls_run
  exact ⟨final, statuses, ran,
    (gattsRun_handlesDistinct (initialCb_laidOut ⟨1⟩) serviceCalls_allowed ran).1⟩

/-- After every such run no listed service is left dangling: its `p_db` finds
the database of its range, `gatts_get_service_uuid` reads the UUID it declares,
and `is_active_service` finds it, so `GATTS_DeleteService` stops it before
freeing its range. -/
theorem gattsRun_servicesResolve (laid : LaidOut cb) (allowed : ∀ call ∈ calls, AppCall call)
    (ran : Runs.run gattsStep cb calls = .ok (final, statuses)) :
    ∀ info ∈ final.srvListInfo, ∃ elem, gattFindHdlBufferByHandle final.hdlListInfo info.pDb = some elem ∧
      elem.asgnRange.sHandle = info.sHdl ∧ elem.asgnRange.eHandle = info.eHdl ∧
      gattsGetServiceUuid final info.pDb = some elem.asgnRange.svcUuid ∧
      isActiveService final info.appUuid elem.asgnRange.svcUuid info.sHdl = true := by
  intro info member
  exact (laid.run allowed ran).resolves member

/-- After the same calls, every listed service resolves to its database, its
declared UUID and an active service. -/
theorem gattsRun_servicesResolve_serviceCalls :
    ∃ final statuses, Runs.run gattsStep (initialCb ⟨1⟩) serviceCalls = .ok (final, statuses) ∧
      ∀ info ∈ final.srvListInfo, ∃ elem : HdlListElem,
        gattsGetServiceUuid final info.pDb = some elem.asgnRange.svcUuid ∧
        isActiveService final info.appUuid elem.asgnRange.svcUuid info.sHdl = true := by
  obtain ⟨final, statuses, ran⟩ := serviceCalls_run
  refine ⟨final, statuses, ran, fun info member => ?_⟩
  obtain ⟨elem, -, -, -, named, active⟩ :=
    gattsRun_servicesResolve (initialCb_laidOut ⟨1⟩) serviceCalls_allowed ran info member
  exact ⟨elem, named, active⟩

/-- After every such run the listed services are disjoint and in ascending
order, and `last_service_handle`, the service whose discovery answer ends at
`0xFFFF`, is the start of the highest of them. -/
theorem gattsRun_lastServiceHighest (laid : LaidOut cb) (allowed : ∀ call ∈ calls, AppCall call)
    (ran : Runs.run gattsStep cb calls = .ok (final, statuses)) :
    final.srvListInfo.Pairwise (fun lower higher => lower.eHdl < higher.sHdl) ∧
      (∀ info ∈ final.srvListInfo, info.sHdl ≤ info.eHdl ∧ info.sHdl ≤ final.lastServiceHandle) ∧
      (final.srvListInfo ≠ [] → ∃ info ∈ final.srvListInfo, info.sHdl = final.lastServiceHandle) := by
  have reached := laid.run allowed ran
  obtain ⟨belowLast, lastListed⟩ := reached.lastServiceHandle_highest
  exact ⟨reached.servicesAscending,
    fun info member => ⟨reached.service_start_le_end info member, belowLast info member⟩, lastListed⟩

/-- After the same calls, the listed services are disjoint and ascending, and
`last_service_handle` is at least every start handle. -/
theorem gattsRun_lastServiceHighest_serviceCalls :
    ∃ final statuses, Runs.run gattsStep (initialCb ⟨1⟩) serviceCalls = .ok (final, statuses) ∧
      final.srvListInfo.Pairwise (fun lower higher => lower.eHdl < higher.sHdl) ∧
      ∀ info ∈ final.srvListInfo, info.sHdl ≤ final.lastServiceHandle := by
  obtain ⟨final, statuses, ran⟩ := serviceCalls_run
  have listed := gattsRun_lastServiceHighest (initialCb_laidOut ⟨1⟩) serviceCalls_allowed ran
  exact ⟨final, statuses, ran, listed.1, fun info member => (listed.2.1 info member).2⟩

/-- After every such run the server finds every attribute of every listed
service by its handle: `gatts_process_attribute_req` reaches it through the
service whose range holds the handle; and `find_attr_by_handle`, which stops
at the first attribute past the handle, gives what the plain search gives in
every database. -/
theorem gattsRun_attributesFound (laid : LaidOut cb) (allowed : ∀ call ∈ calls, AppCall call)
    (ran : Runs.run gattsStep cb calls = .ok (final, statuses)) :
    (∀ info ∈ final.srvListInfo, ∀ elem, gattFindHdlBufferByHandle final.hdlListInfo info.pDb = some elem →
      ∀ attr ∈ elem.svcDb.attrList,
        gattsAttributeLookup final attr.handle = some (info, attr) ∧
        findAttrByHandle elem.svcDb.attrList attr.handle = some attr) ∧
    ∀ elem ∈ final.hdlListInfo, ∀ handle,
      findAttrByHandle elem.svcDb.attrList handle = elem.svcDb.attrList.find? fun attr => attr.handle == handle := by
  have reached := laid.run allowed ran
  refine ⟨fun info member elem found attr attrMember => reached.lookup member found attrMember, ?_⟩
  intro elem member handle
  exact findAttrByHandle_eq_find? (reached.handlesAscending member) handle

/-- After the same calls, the lookup of `gatts_process_attribute_req` finds every
attribute of every listed service. -/
theorem gattsRun_attributesFound_serviceCalls :
    ∃ final statuses, Runs.run gattsStep (initialCb ⟨1⟩) serviceCalls = .ok (final, statuses) ∧
      ∀ info ∈ final.srvListInfo, ∀ elem, gattFindHdlBufferByHandle final.hdlListInfo info.pDb = some elem →
        ∀ attr ∈ elem.svcDb.attrList, gattsAttributeLookup final attr.handle = some (info, attr) := by
  obtain ⟨final, statuses, ran⟩ := serviceCalls_run
  have found := (gattsRun_attributesFound (initialCb_laidOut ⟨1⟩) serviceCalls_allowed ran).1
  exact ⟨final, statuses, ran, fun info member elem resolved attr attrMember =>
    (found info member elem resolved attr attrMember).1⟩

end Runs

end Fluoride.GattServiceDb
