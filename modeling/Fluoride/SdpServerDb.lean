import Fluoride.Runs
import Fluoride.ByteBuffer

/-!
# The SDP server database

The SDP server keeps its service records in `sdp_cb.server_db`
(`stack/sdp/sdp_db.cc`): an array of records, each an array of
`SDP_MAX_REC_ATTR` attribute slots kept sorted by id and a pad of
`SDP_MAX_PAD_LEN` bytes holding the attribute values, filled up to
`free_pad_ptr`. `SDP_CreateRecord`, `SDP_DeleteRecord`, `SDP_AddAttribute` and
`SDP_DeleteAttribute` maintain it by hand: deleting an attribute moves the
value pointers above it down, shifts the slots after it up one and compacts
the pad.

The database is a state stepped by the four calls (`sdpStep`) and read as an
abstract store, a map from record handles to the attributes of each record with
their type and value bytes (`SdpDb.view`). The shift loop of
`SDP_DeleteAttribute` starts its counter at the index of the record (`xx`), not
at that of the attribute (`yy`), and so moves `num_attributes - xx` slots where
`num_attributes - yy` are owed: in the second record, deleting the first
attribute of two moves none, and the attribute said to be deleted stays while
the other is gone (`deleteAttribute_secondRecord`).

Value pointers are offsets into their record's pad; `SDP_DeleteRecord`'s
adjustment of them by `sizeof(tSDP_RECORD)` is the identity on offsets. A read
or write of a slot or a pad byte outside its array is a failure of the step.
-/

namespace Fluoride.SdpServerDb

open ByteBuffer (window)

def sdpMaxRecords : Nat := 30
def sdpMaxRecAttr : Nat := 25
def sdpMaxPadLen : Nat := 600

def attrIdServiceRecordHdl : Nat := 0x0000
def uintDescType : Nat := 1
def textStrDescType : Nat := 4

/-! ## Records -/

/-- `tSDP_ATTRIBUTE`: the length, `value_ptr` as an offset into the record's
`attr_pad`, the id and the type. A null pointer reads as offset 0: no
comparison `value_ptr > pad_ptr` tells them apart. -/
structure SdpAttribute where
  len : Nat
  valuePtr : Nat
  id : Nat
  type : Nat
  deriving DecidableEq, Repr

/-- A cleared slot. -/
def SdpAttribute.zero : SdpAttribute := ⟨0, 0, 0, 0⟩

/-- `tSDP_RECORD`. -/
structure SdpRecord where
  recordHandle : Nat
  freePadPtr : Nat
  numAttributes : Nat
  attributes : Vector SdpAttribute sdpMaxRecAttr
  attrPad : Vector UInt8 sdpMaxPadLen
  deriving DecidableEq, Repr

/-- A record after `memset(&record, 0, sizeof(tSDP_RECORD))`. -/
def SdpRecord.zero : SdpRecord :=
  ⟨0, 0, 0, Vector.replicate sdpMaxRecAttr SdpAttribute.zero, Vector.replicate sdpMaxPadLen 0⟩

/-- `tSDP_DB`: the primary Device ID record and the records
`record[0 .. num_records)`. A slot past `num_records` is cleared before it is
used, so only the live records are kept. -/
structure SdpDb where
  diPrimaryHandle : Nat
  record : List SdpRecord
  deriving DecidableEq, Repr

/-- The database before any record. -/
def SdpDb.empty : SdpDb := ⟨0, []⟩

/-- A store into slot `index` of an array; none outside it. -/
def setSlot? {α : Type} {size : Nat} (array : Vector α size) (index : Nat) (value : α) :
    Option (Vector α size) :=
  if inside : index < size then some (array.set index value inside) else none

/-! ## `SDP_DeleteAttribute` -/

/-- The attribute loop of the API calls: the first of the live slots with the
id, and its index. -/
def findAttr (attrId : Nat) : List SdpAttribute → Nat → Option (Nat × SdpAttribute)
  | [], _ => none
  | attr :: attrs, index => if attr.id = attrId then some (index, attr) else findAttr attrId attrs (index + 1)

/-- `if (p_rec->attribute[zz].value_ptr > pad_ptr) p_rec->attribute[zz].value_ptr -= len`
for every `zz` of `indices`. -/
def adjustPtrs (padPtr len : Nat) (attrs : Vector SdpAttribute sdpMaxRecAttr) :
    List Nat → Option (Vector SdpAttribute sdpMaxRecAttr)
  | [] => some attrs
  | zz :: rest => do
    let attr ← attrs[zz]?
    let attrs ← if attr.valuePtr > padPtr then setSlot? attrs zz { attr with valuePtr := attr.valuePtr - len }
      else pure attrs
    adjustPtrs padPtr len attrs rest

/-- `*p_attr = *(p_attr + 1)` for `count` slots from `position` up. -/
def shiftDown (attrs : Vector SdpAttribute sdpMaxRecAttr) : Nat → Nat → Option (Vector SdpAttribute sdpMaxRecAttr)
  | _, 0 => some attrs
  | position, count + 1 => do
    let next ← attrs[position + 1]?
    let attrs ← setSlot? attrs position next
    shiftDown attrs (position + 1) count

/-- `*pad_ptr = *(pad_ptr + len)` for `count` bytes from `position` up. -/
def compactPad (len : Nat) (pad : Vector UInt8 sdpMaxPadLen) : Nat → Nat → Option (Vector UInt8 sdpMaxPadLen)
  | _, 0 => some pad
  | position, count + 1 => do
    let byte ← pad[position + len]?
    let pad ← setSlot? pad position byte
    compactPad len pad (position + 1) count

/-- The body of `SDP_DeleteAttribute` on the record at index `xx`: none where the
attribute is not in it. The value pointers above the deleted value move down,
the slots from the attribute's on are shifted, counting from `xx`, and the pad
above the value is moved down over it. -/
def deleteInRecord (rec : SdpRecord) (xx attrId : Nat) : Option (Option SdpRecord) :=
  match findAttr attrId (rec.attributes.toList.take rec.numAttributes) 0 with
  | none => some none
  | some (yy, found) => do
    let padPtr := found.valuePtr
    let len := found.len
    let attrs ← if len ≠ 0 then adjustPtrs padPtr len rec.attributes (List.range rec.numAttributes)
      else pure rec.attributes
    let num := rec.numAttributes - 1
    -- `for (uint16_t zz = xx; zz < p_rec->num_attributes; zz++, p_attr++)`
    let attrs ← shiftDown attrs yy (num - xx)
    if len ≠ 0 then
      -- `xx = free_pad_ptr - ((pad_ptr + len) - attr_pad)`, into a `uint16_t`
      let count := (((rec.freePadPtr : Int) - (padPtr + len)) % 65536).toNat
      let pad ← compactPad len rec.attrPad padPtr count
      pure (some { rec with
        numAttributes := num, attributes := attrs, attrPad := pad, freePadPtr := rec.freePadPtr - len })
    else pure (some { rec with numAttributes := num, attributes := attrs })

/-- The record loop of `SDP_DeleteAttribute` from index `xx`: the database and
the result. -/
def deleteAttributeLoop (db : SdpDb) (handle attrId : Nat) : List SdpRecord → Nat → Option (SdpDb × Bool)
  | [], _ => some (db, false)
  | rec :: recs, xx =>
    if rec.recordHandle = handle then do
      match ← deleteInRecord rec xx attrId with
      | some rec => pure ({ db with record := db.record.set xx rec }, true)
      | none => deleteAttributeLoop db handle attrId recs (xx + 1)
    else deleteAttributeLoop db handle attrId recs (xx + 1)

/-- `SDP_DeleteAttribute(handle, attr_id)`. -/
def sdpDeleteAttribute (db : SdpDb) (handle attrId : Nat) : Option (SdpDb × Bool) :=
  deleteAttributeLoop db handle attrId db.record 0

/-! ## `SDP_AddAttribute` -/

/-- The attribute loop of `SDP_AddAttribute`: the index of the first live slot
with the id (true) or with a larger id, else the number of slots. -/
def insertIndex (attrId : Nat) : List SdpAttribute → Nat → Nat × Bool
  | [], index => (index, false)
  | attr :: attrs, index =>
    if attr.id = attrId then (index, true)
    else if attr.id > attrId then (index, false)
    else insertIndex attrId attrs (index + 1)

/-- `p_rec->attribute[yy] = p_rec->attribute[yy - 1]` for `count` slots from
`top` down. -/
def shiftUp (attrs : Vector SdpAttribute sdpMaxRecAttr) : Nat → Nat → Option (Vector SdpAttribute sdpMaxRecAttr)
  | _, 0 => some attrs
  | top, count + 1 => do
    let below ← attrs[top - 1]?
    let attrs ← setSlot? attrs top below
    shiftUp attrs (top - 1) count

/-- The stores of `SDP_AddAttribute` into the record found, from the slot `xx`
the attribute goes to: the result, and the record. -/
def addToRecord (rec : SdpRecord) (xx attrId attrType attrLen : Nat) (pVal : Option (List UInt8)) :
    Option (Bool × SdpRecord) := do
  if rec.numAttributes = sdpMaxRecAttr then return (false, rec)
  -- attributes are kept in sorted order: the slots from `xx` on move up one
  let attrs ← if xx = rec.numAttributes then pure rec.attributes
    else shiftUp rec.attributes rec.numAttributes (rec.numAttributes - xx)
  let slot ← attrs[xx]?
  let slot := { slot with id := attrId, type := attrType, len := attrLen }
  let attrLen :=
    if rec.freePadPtr + attrLen ≥ sdpMaxPadLen then
      -- only a text string is truncated
      if attrType = textStrDescType then sdpMaxPadLen - rec.freePadPtr else 0
    else attrLen
  match pVal with
  | some bytes =>
    if attrLen > 0 then
      if bytes.length < attrLen then none
      else
        let pad ← ByteBuffer.storeVector? rec.attrPad rec.freePadPtr (bytes.take attrLen)
        let attrs ← setSlot? attrs xx { slot with len := attrLen, valuePtr := rec.freePadPtr }
        pure (true, { rec with
          attributes := attrs, attrPad := pad, freePadPtr := rec.freePadPtr + attrLen,
          numAttributes := rec.numAttributes + 1 })
    else if slot.len ≠ 0 then
      -- truncated to nothing: the slot is cleared and the call fails
      let attrs ← setSlot? attrs xx { slot with id := 0, type := 0, len := 0 }
      pure (false, { rec with attributes := attrs })
    else
      let attrs ← setSlot? attrs xx slot
      pure (true, { rec with attributes := attrs, numAttributes := rec.numAttributes + 1 })
  | none =>
    let attrs ← setSlot? attrs xx { slot with id := 0, type := 0, len := 0 }
    pure (false, { rec with attributes := attrs })

/-- `SDP_AddAttribute(handle, attr_id, attr_type, attr_len, p_val)`, with `p_val`
none for a null pointer. An attribute already there is deleted first with
`SDP_DeleteAttribute`. -/
def sdpAddAttribute (db : SdpDb) (handle attrId attrType attrLen : Nat) (pVal : Option (List UInt8)) :
    Option (SdpDb × Bool) :=
  match db.record.findIdx? (·.recordHandle = handle) with
  | none => some (db, false)
  | some zz => do
    let rec ← db.record[zz]?
    let (xx, present) := insertIndex attrId (rec.attributes.toList.take rec.numAttributes) 0
    let db ← if present then (sdpDeleteAttribute db handle attrId).map (·.1) else pure db
    let rec ← db.record[zz]?
    let (added, rec) ← addToRecord rec xx attrId attrType attrLen pVal
    pure ({ db with record := db.record.set zz rec }, added)

/-! ## Records -/

/-- `UINT32_TO_BE_FIELD`. -/
def be32 (value : Nat) : List UInt8 :=
  [UInt8.ofNat (value / 2 ^ 24), UInt8.ofNat (value / 2 ^ 16), UInt8.ofNat (value / 2 ^ 8), UInt8.ofNat value]

/-- `SDP_CreateRecord`: the handle, 0 when the database is full. The handle is
one above the last record's, as a `uint32_t`, and is added as the record's
first attribute. -/
def sdpCreateRecord (db : SdpDb) : Option (SdpDb × Nat) :=
  if db.record.length < sdpMaxRecords then
    let handle := match db.record.getLast? with
      | some last => (last.recordHandle + 1) % 2 ^ 32
      | none => 0x10000
    let db := { db with record := db.record ++ [{ SdpRecord.zero with recordHandle := handle }] }
    (sdpAddAttribute db handle attrIdServiceRecordHdl uintDescType 4 (some (be32 handle))).map
      fun added => (added.1, handle)
  else some (db, 0)

/-- `SDP_DeleteRecord`: handle 0 deletes every record. -/
def sdpDeleteRecord (db : SdpDb) (handle : Nat) : SdpDb × Bool :=
  if handle = 0 ∨ db.record = [] then (⟨0, []⟩, true)
  else
    match db.record.findIdx? (·.recordHandle = handle) with
    | some xx =>
      ({ diPrimaryHandle := if db.diPrimaryHandle = handle then 0 else db.diPrimaryHandle,
         record := db.record.eraseIdx xx }, true)
    | none => (db, false)

/-! ## The calls and the abstract store -/

/-- The database maintenance calls. -/
inductive SdpCall
  | createRecord
  | deleteRecord (handle : Nat)
  | addAttribute (handle attrId attrType attrLen : Nat) (value : Option (List UInt8))
  | deleteAttribute (handle attrId : Nat)
  deriving DecidableEq, Repr

/-- What a call returns. -/
inductive SdpReturn
  | handle (value : Nat)
  | result (ok : Bool)
  deriving DecidableEq, Repr

/-- One call; a store outside an array fails. -/
def sdpStep (db : SdpDb) : SdpCall → Except Unit (SdpDb × List SdpReturn)
  | .createRecord =>
    match sdpCreateRecord db with
    | some (db, handle) => .ok (db, [.handle handle])
    | none => .error ()
  | .deleteRecord handle =>
    let (db, ok) := sdpDeleteRecord db handle
    .ok (db, [.result ok])
  | .addAttribute handle attrId attrType attrLen value =>
    match sdpAddAttribute db handle attrId attrType attrLen value with
    | some (db, ok) => .ok (db, [.result ok])
    | none => .error ()
  | .deleteAttribute handle attrId =>
    match sdpDeleteAttribute db handle attrId with
    | some (db, ok) => .ok (db, [.result ok])
    | none => .error ()

/-- An attribute of the abstract store: its id, its type and its value bytes. -/
structure AttrView where
  id : Nat
  type : Nat
  value : List UInt8
  deriving DecidableEq, Repr

/-- A record of the abstract store: its handle and its attributes, in order. -/
structure RecordView where
  handle : Nat
  entries : List AttrView
  deriving DecidableEq, Repr

/-- The attributes of a record as a client reads them: id, type and the `len`
value bytes at `value_ptr`, in slot order. -/
def SdpRecord.entries (rec : SdpRecord) : List AttrView :=
  (rec.attributes.toList.take rec.numAttributes).map fun attr =>
    ⟨attr.id, attr.type, window rec.attrPad.toList attr.valuePtr attr.len⟩

/-- The abstract store: each record's handle with its attributes. -/
def SdpDb.view (db : SdpDb) : List RecordView :=
  db.record.map fun rec => ⟨rec.recordHandle, rec.entries⟩

/-! ## Deleting from the second record -/

/-- **The attribute deleted stays.** Two records are created, with handles
`0x10000` and `0x10001`, each holding its handle as attribute 0; attribute 1
(one byte, 5) is added to the second, and attribute 0 of the second is
deleted. Every call succeeds, but the second record then lists attribute 0,
over the moved pad, and no attribute 1. -/
theorem deleteAttribute_secondRecord :
    (Runs.run sdpStep SdpDb.empty [.createRecord, .createRecord,
      .addAttribute 0x10001 1 uintDescType 1 (some [5]), .deleteAttribute 0x10001 attrIdServiceRecordHdl]).map
      (fun result => (result.1.view, result.2)) =
    .ok ([⟨0x10000, [⟨0, 1, [0, 1, 0, 0]⟩]⟩, ⟨0x10001, [⟨0, 1, [5, 1, 0, 1]⟩]⟩],
      [.handle 0x10000, .handle 0x10001, .result true, .result true]) := by
  decide

end Fluoride.SdpServerDb
