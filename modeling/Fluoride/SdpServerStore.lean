import Fluoride.SdpServerDb

/-!
# The SDP server database as a store of sorted records

Read through `SdpDb.view`, the database that `SDP_CreateRecord`,
`SDP_DeleteRecord` and `SDP_AddAttribute` maintain (`stack/sdp/sdp_db.cc`) is a
list of records, each a map from attribute ids to a type and the octets of a
value, kept in the order of the ids. `storeStep` states that purpose: a new
record is appended with its handle as attribute 0, a record is erased, and a new
attribute goes in where its id sorts, with the octets of its value the record's
pad keeps: all of them while they fit below `SDP_MAX_PAD_LEN`, and the room left
for a text string. What the store leaves open fails there: replacing an
attribute the record holds goes through `SDP_DeleteAttribute`, whose shift loop
is wrong outside the first record (`deleteAttribute_secondRecord`), and a null
value or a value the pad refuses makes `SDP_AddAttribute` fail half way.

The slots and the pad refine the store (`sdpRun_refinesStore`): every run of
calls the store completes, the database completes from empty with the same
returns, and its view is the store. What carries the proof is that every record
stays laid out (`RecordLaidOut`): the values of its live attributes lie below
`free_pad_ptr`, which counts their octets, so a value appended there leaves the
others as they were. Through the store, the live attributes of every record stay
sorted by id, without repeats (`sdpRun_attributesSorted`). A value the pad
refuses in the middle of a record is a failure that the store does not cover
(`addToRecord_refusedDropsLast`): the slots have been moved up, the cleared slot
stays live and the record's last attribute is lost.
-/

namespace Fluoride.SdpServerDb

open ByteBuffer (window writeVector)

/-! ## The store -/

/-- The ids of a record's attributes, in order. -/
def RecordView.ids (record : RecordView) : List Nat := record.entries.map AttrView.id

/-- The octets of the pad that a record's values take. -/
def RecordView.used (record : RecordView) : Nat := (record.entries.map fun entry => entry.value.length).sum

/-- A record whose attribute ids rise. -/
def RecordView.Sorted (record : RecordView) : Prop := record.ids.Pairwise (· < ·)

/-- A new attribute, inserted where its id sorts. -/
def RecordView.insert (record : RecordView) (entry : AttrView) : RecordView :=
  { record with entries := record.entries.orderedInsert (fun first second => first.id ≤ second.id) entry }

/-- The octets of a value of `attrLen` octets that the pad keeps when `used` are
taken: all of them below `SDP_MAX_PAD_LEN`; past it, the room left for a text
string and none for any other type. -/
def keptLength (used attrType attrLen : Nat) : Nat :=
  if used + attrLen ≥ sdpMaxPadLen then (if attrType = textStrDescType then sdpMaxPadLen - used else 0)
  else attrLen

/-- `SDP_AddAttribute` on a record of the store: a full record refuses; otherwise
the attribute goes in where its id sorts, with the octets of its value the pad
keeps. The calls the store leaves open are none: an id the record holds, a value
the pad refuses, and a value shorter than the octets it is to give. -/
def RecordView.addEntry? (record : RecordView) (attrId attrType attrLen : Nat) (value : List UInt8) :
    Option (Bool × RecordView) :=
  if attrId ∈ record.ids then none
  else if record.entries.length = sdpMaxRecAttr then some (false, record)
  else
    let kept := keptLength record.used attrType attrLen
    if attrLen ≠ 0 ∧ kept = 0 ∨ value.length < kept then none
    else some (true, record.insert ⟨attrId, attrType, value.take kept⟩)

/-- `SDP_AddAttribute` on the store: the first record with the handle takes the
attribute, and the call is refused when there is none. -/
def storeAdd? (store : List RecordView) (handle attrId attrType attrLen : Nat) (value : List UInt8) :
    Option (List RecordView × Bool) :=
  match store.findIdx? (·.handle = handle) with
  | none => some (store, false)
  | some zz => do
    let record ← store[zz]?
    let (added, record) ← record.addEntry? attrId attrType attrLen value
    pure (store.set zz record, added)

/-- The handle `SDP_CreateRecord` gives a new record: one above the last
record's, as a `uint32_t`, and `0x10000` for the first. -/
def nextHandle (store : List RecordView) : Nat :=
  match store.getLast? with
  | some last => (last.handle + 1) % 2 ^ 32
  | none => 0x10000

/-- The calls on the store; `SDP_DeleteAttribute` is not one of them. -/
def storeStep (store : List RecordView) : SdpCall → Except Unit (List RecordView × List SdpReturn)
  | .createRecord =>
    if store.length < sdpMaxRecords then
      let handle := nextHandle store
      match storeAdd? (store ++ [⟨handle, []⟩]) handle attrIdServiceRecordHdl uintDescType 4 (be32 handle) with
      | some (store, _) => .ok (store, [.handle handle])
      | none => .error ()
    else .ok (store, [.handle 0])
  | .deleteRecord handle =>
    if handle = 0 ∨ store = [] then .ok ([], [.result true])
    else
      match store.findIdx? (·.handle = handle) with
      | some xx => .ok (store.eraseIdx xx, [.result true])
      | none => .ok (store, [.result false])
  | .addAttribute handle attrId attrType attrLen value =>
    match value with
    | some bytes =>
      match storeAdd? store handle attrId attrType attrLen bytes with
      | some (store, added) => .ok (store, [.result added])
      | none => .error ()
    | none => .error ()
  | .deleteAttribute _ _ => .error ()

/-! ## The store keeps its records sorted -/

/-- Inserting an id a sorted record does not hold keeps it sorted. -/
theorem pairwise_orderedInsert (entry : AttrView) (entries : List AttrView)
    (sorted : (entries.map AttrView.id).Pairwise (· < ·)) (absent : entry.id ∉ entries.map AttrView.id) :
    ((entries.orderedInsert (fun first second => first.id ≤ second.id) entry).map AttrView.id).Pairwise
      (· < ·) := by
  induction entries with
  | nil => simp
  | cons head rest inductionHypothesis =>
    rw [List.map_cons, List.pairwise_cons] at sorted
    have fresh : entry.id ≠ head.id := fun same => absent (same ▸ List.mem_cons_self)
    have restAbsent : entry.id ∉ rest.map AttrView.id := fun member => absent (List.mem_cons_of_mem _ member)
    rw [List.orderedInsert_cons]
    split
    · rename_i before
      have below : entry.id < head.id := Nat.lt_of_le_of_ne before fresh
      rw [List.map_cons, List.map_cons, List.pairwise_cons, List.pairwise_cons]
      refine ⟨?_, sorted.1, sorted.2⟩
      intro later member
      rcases List.mem_cons.mp member with rfl | member
      · exact below
      · exact Nat.lt_trans below (sorted.1 later member)
    · rename_i after
      rw [List.map_cons, List.pairwise_cons]
      refine ⟨?_, inductionHypothesis sorted.2 restAbsent⟩
      intro later member
      obtain ⟨inserted, insertedMember, rfl⟩ := List.mem_map.mp member
      rcases (List.mem_orderedInsert _).mp insertedMember with rfl | kept
      · exact Nat.lt_of_not_le after
      · exact sorted.1 _ (List.mem_map_of_mem kept)

theorem RecordView.sorted_insert (record : RecordView) (entry : AttrView) (sorted : record.Sorted)
    (absent : entry.id ∉ record.ids) : (record.insert entry).Sorted :=
  pairwise_orderedInsert entry record.entries sorted absent

/-- Every record of the store after an accepted `SDP_AddAttribute` is sorted. -/
theorem storeAdd?_sorted (store result : List RecordView) (handle attrId attrType attrLen : Nat)
    (value : List UInt8) (added : Bool) (sorted : ∀ record ∈ store, record.Sorted)
    (accepted : storeAdd? store handle attrId attrType attrLen value = some (result, added)) :
    ∀ record ∈ result, record.Sorted := by
  unfold storeAdd? at accepted
  split at accepted
  · rename_i none
    obtain ⟨rfl, -⟩ := Prod.mk.inj (Option.some.inj accepted)
    exact sorted
  · rename_i zz found
    obtain ⟨record, present, accepted⟩ := Option.bind_eq_some_iff.mp accepted
    obtain ⟨⟨ok, inserted⟩, entered, accepted⟩ := Option.bind_eq_some_iff.mp accepted
    obtain ⟨rfl, -⟩ := Prod.mk.inj (Option.some.inj accepted)
    have recordSorted := sorted record (List.mem_of_getElem? present)
    have insertedSorted : inserted.Sorted := by
      unfold RecordView.addEntry? at entered
      split at entered
      · cases entered
      split at entered
      · rename_i absent full
        obtain ⟨-, rfl⟩ := Prod.mk.inj (Option.some.inj entered)
        exact recordSorted
      · rename_i absent room
        dsimp only at entered
        split at entered
        · cases entered
        · obtain ⟨-, rfl⟩ := Prod.mk.inj (Option.some.inj entered)
          exact record.sorted_insert _ recordSorted absent
    intro other member
    rcases List.mem_or_eq_of_mem_set member with kept | rfl
    · exact sorted other kept
    · exact insertedSorted

/-- A call the store accepts keeps every record sorted. -/
theorem storeStep_sorted : Runs.Preserves storeStep fun store => ∀ record ∈ store, record.Sorted := by
  intro store call result returns sorted stepped
  cases call with
  | createRecord =>
    simp only [storeStep] at stepped
    split at stepped
    · split at stepped
      · rename_i appended added accepted
        obtain ⟨rfl, -⟩ := Prod.mk.inj (Except.ok.inj stepped)
        refine storeAdd?_sorted _ _ _ _ _ _ _ added ?_ accepted
        intro record member
        rcases List.mem_append.mp member with old | fresh
        · exact sorted record old
        · rw [List.mem_singleton.mp fresh]
          exact List.Pairwise.nil
      · cases stepped
    · obtain ⟨rfl, -⟩ := Prod.mk.inj (Except.ok.inj stepped)
      exact sorted
  | deleteRecord handle =>
    simp only [storeStep] at stepped
    split at stepped
    · obtain ⟨rfl, -⟩ := Prod.mk.inj (Except.ok.inj stepped)
      intro record member
      cases member
    · split at stepped
      · obtain ⟨rfl, -⟩ := Prod.mk.inj (Except.ok.inj stepped)
        intro record member
        exact sorted record (List.mem_of_mem_eraseIdx member)
      · obtain ⟨rfl, -⟩ := Prod.mk.inj (Except.ok.inj stepped)
        exact sorted
  | addAttribute handle attrId attrType attrLen value =>
    simp only [storeStep] at stepped
    split at stepped
    · split at stepped
      · rename_i bytes _ stored added accepted
        obtain ⟨rfl, -⟩ := Prod.mk.inj (Except.ok.inj stepped)
        exact storeAdd?_sorted _ _ _ _ _ _ _ added sorted accepted
      · cases stepped
    · cases stepped
  | deleteAttribute handle attrId => cases stepped

/-! ## Laid-out records -/

/-- The live slots of a record. -/
def SdpRecord.live (rec : SdpRecord) : List SdpAttribute := rec.attributes.toList.take rec.numAttributes

/-- An attribute as a client reads it from its record's pad. -/
def SdpAttribute.read (pad : Vector UInt8 sdpMaxPadLen) (attr : SdpAttribute) : AttrView :=
  ⟨attr.id, attr.type, window pad.toList attr.valuePtr attr.len⟩

theorem SdpRecord.entries_eq (rec : SdpRecord) : rec.entries = rec.live.map (SdpAttribute.read rec.attrPad) :=
  rfl

/-- A record as the calls of the store leave it: no more live slots than there
are, and the values of the live attributes that have octets below
`free_pad_ptr`, which counts their octets and stays inside the pad. -/
structure RecordLaidOut (rec : SdpRecord) : Prop where
  slots : rec.numAttributes ≤ sdpMaxRecAttr
  padded : rec.freePadPtr ≤ sdpMaxPadLen
  below : ∀ attr ∈ rec.live, attr.len = 0 ∨ attr.valuePtr + attr.len ≤ rec.freePadPtr
  counted : rec.freePadPtr = (rec.live.map SdpAttribute.len).sum

/-- Every record of the database laid out. -/
def DbLaidOut (db : SdpDb) : Prop := ∀ rec ∈ db.record, RecordLaidOut rec

/-- A record's entry in the store. -/
def SdpRecord.toView (rec : SdpRecord) : RecordView := ⟨rec.recordHandle, rec.entries⟩

theorem SdpDb.view_eq (db : SdpDb) : db.view = db.record.map SdpRecord.toView := rfl

theorem length_live (rec : SdpRecord) (laid : RecordLaidOut rec) : rec.live.length = rec.numAttributes := by
  rw [SdpRecord.live, List.length_take, Vector.length_toList]
  exact Nat.min_eq_left laid.slots

theorem ids_toView (rec : SdpRecord) : rec.toView.ids = rec.live.map SdpAttribute.id := by
  rw [RecordView.ids, SdpRecord.toView, SdpRecord.entries_eq, List.map_map]
  rfl

/-- A live value of a laid-out record reads as many octets as its slot says. -/
theorem length_read_value (rec : SdpRecord) (laid : RecordLaidOut rec) (attr : SdpAttribute)
    (live : attr ∈ rec.live) : (attr.read rec.attrPad).value.length = attr.len := by
  rcases laid.below attr live with empty | inside
  · simp [SdpAttribute.read, window, empty]
  · have padded := laid.padded
    simp only [SdpAttribute.read, window, List.length_take, List.length_drop, Vector.length_toList]
    omega

/-- What the store counts as used is `free_pad_ptr`. -/
theorem used_toView (rec : SdpRecord) (laid : RecordLaidOut rec) : rec.toView.used = rec.freePadPtr := by
  rw [RecordView.used, SdpRecord.toView, SdpRecord.entries_eq, List.map_map, laid.counted]
  congr 1
  apply List.map_congr_left
  intro attr live
  exact length_read_value rec laid attr live

theorem laidOut_zero (handle : Nat) : RecordLaidOut { SdpRecord.zero with recordHandle := handle } where
  slots := Nat.zero_le _
  padded := Nat.zero_le _
  below := by
    intro attr live
    simp [SdpRecord.live, SdpRecord.zero] at live
  counted := rfl

/-! ## `SDP_AddAttribute` on a laid-out record -/

/-- Where `SDP_AddAttribute`'s loop stops for an id that is not there: after the
live slots with smaller ids, at the first with a larger one. -/
theorem insertIndex_of_not_mem (attrId : Nat) (attrs : List SdpAttribute) (index : Nat)
    (absent : attrId ∉ attrs.map SdpAttribute.id) :
    insertIndex attrId attrs index = (index + (attrs.takeWhile fun attr => attr.id < attrId).length, false) := by
  induction attrs generalizing index with
  | nil => rfl
  | cons attr rest inductionHypothesis =>
    have fresh : attr.id ≠ attrId := fun same => absent (same ▸ List.mem_cons_self)
    have restAbsent : attrId ∉ rest.map SdpAttribute.id := fun member => absent (List.mem_cons_of_mem _ member)
    rw [insertIndex, if_neg fresh, List.takeWhile_cons]
    split
    · rename_i larger
      have notSmaller : ¬ attr.id < attrId := Nat.lt_asymm larger
      simp [notSmaller]
    · rename_i notLarger
      have smaller : attr.id < attrId := by omega
      rw [inductionHypothesis (index + 1) restAbsent, if_pos (decide_eq_true smaller), List.length_cons]
      congr 1
      omega

/-- `SDP_AddAttribute`'s shift loop moves each of the `count` slots below `top`
up one: after it, a slot in `(top - count, top]` holds the one that was below
it, and the others are as they were. -/
theorem shiftUp_eq_some (attrs : Vector SdpAttribute sdpMaxRecAttr) (top count : Nat)
    (fits : top < sdpMaxRecAttr) (within : count ≤ top) :
    ∃ shifted, shiftUp attrs top count = some shifted ∧
      ∀ (position : Nat) (inside : position < sdpMaxRecAttr),
        shifted[position] = if top - count < position ∧ position ≤ top then attrs[position - 1] else attrs[position] := by
  induction count generalizing top attrs with
  | zero =>
    refine ⟨attrs, rfl, ?_⟩
    intro position inside
    rw [if_neg (by omega)]
  | succ count inductionHypothesis =>
    have belowFits : top - 1 < sdpMaxRecAttr := by omega
    obtain ⟨shifted, shiftedRun, moved⟩ :=
      inductionHypothesis (attrs.set top attrs[top - 1] fits) (top - 1) belowFits (by omega)
    refine ⟨shifted, ?_, ?_⟩
    · simp only [shiftUp, Vector.getElem?_eq_getElem belowFits, setSlot?, dif_pos fits, Option.bind_eq_bind,
        Option.bind_some]
      exact shiftedRun
    · intro position inside
      rw [moved position inside, Vector.getElem_set, Vector.getElem_set]
      split_ifs <;> first | rfl | omega | (subst_vars; rfl)

/-- The slots of `SDP_AddAttribute` before the store into slot `xx`: moved up
when the attribute goes in before the last live slot, and as they were when it
goes in after them. -/
theorem shiftedSlots (attrs : Vector SdpAttribute sdpMaxRecAttr) (xx num : Nat) (room : num < sdpMaxRecAttr)
    (within : xx ≤ num) :
    ∃ shifted, (if xx = num then pure attrs else shiftUp attrs num (num - xx)) = some shifted ∧
      ∀ (position : Nat) (inside : position < sdpMaxRecAttr),
        shifted[position] = if xx < position ∧ position ≤ num then attrs[position - 1] else attrs[position] := by
  by_cases atEnd : xx = num
  · refine ⟨attrs, if_pos atEnd, ?_⟩
    intro position inside
    rw [if_neg (by omega)]
  · obtain ⟨shifted, shiftedRun, moved⟩ := shiftUp_eq_some attrs num (num - xx) room (by omega)
    refine ⟨shifted, by rw [if_neg atEnd]; exact shiftedRun, ?_⟩
    intro position inside
    rw [moved position inside, show num - (num - xx) = xx by omega]

/-- After the shift and the store into slot `xx`, the live slots are the old
ones with the new slot at `xx`. -/
theorem live_set_shifted (attrs shifted : Vector SdpAttribute sdpMaxRecAttr) (xx num : Nat)
    (room : num < sdpMaxRecAttr) (within : xx ≤ num)
    (moved : ∀ (position : Nat) (inside : position < sdpMaxRecAttr),
      shifted[position] = if xx < position ∧ position ≤ num then attrs[position - 1] else attrs[position])
    (slot : SdpAttribute) :
    (shifted.set xx slot (by omega)).toList.take (num + 1) =
      (attrs.toList.take num).take xx ++ slot :: (attrs.toList.take num).drop xx := by
  apply List.ext_getElem
  · simp only [List.length_take, Vector.length_toList, List.length_append, List.length_cons,
      List.length_drop]
    omega
  · intro position inLeft inRight
    have upTo : position ≤ num := by
      simp only [List.length_take, Vector.length_toList] at inLeft
      omega
    have inside : position < sdpMaxRecAttr := by omega
    have prefixLength : ((attrs.toList.take num).take xx).length = xx := by
      simp only [List.length_take, Vector.length_toList]
      omega
    rw [List.getElem_take, Vector.getElem_toList, Vector.getElem_set]
    by_cases before : position < xx
    · rw [if_neg (by omega), moved position inside, if_neg (by omega),
        List.getElem_append_left (by rw [prefixLength]; exact before)]
      simp only [List.getElem_take, Vector.getElem_toList]
    · rw [List.getElem_append_right (by rw [prefixLength]; omega)]
      simp only [prefixLength]
      by_cases here : position = xx
      · subst here
        simp only [if_pos, Nat.sub_self, List.getElem_cons_zero]
      · rw [if_neg (Ne.symm here), moved position inside, if_pos (by omega), List.getElem_cons,
          dif_neg (by omega)]
        simp only [List.getElem_drop, List.getElem_take, Vector.getElem_toList]
        congr 1
        omega

/-- The live slots of a record that `SDP_AddAttribute` gave one more: the old
ones, with the new slot at `xx`. -/
theorem live_of_slots (rec next : SdpRecord) (shifted : Vector SdpAttribute sdpMaxRecAttr) (xx : Nat)
    (slot : SdpAttribute) (room : rec.numAttributes < sdpMaxRecAttr) (within : xx ≤ rec.numAttributes)
    (moved : ∀ (position : Nat) (inside : position < sdpMaxRecAttr),
      shifted[position] = if xx < position ∧ position ≤ rec.numAttributes then rec.attributes[position - 1]
        else rec.attributes[position])
    (slotsAfter : next.attributes = shifted.set xx slot (by omega))
    (countAfter : next.numAttributes = rec.numAttributes + 1) :
    next.live = rec.live.take xx ++ slot :: rec.live.drop xx := by
  rw [SdpRecord.live, slotsAfter, countAfter]
  exact live_set_shifted rec.attributes shifted xx rec.numAttributes room within moved slot

/-- What `SDP_AddAttribute` computes for the octets it keeps. -/
theorem ite_eq_keptLength (used attrType attrLen : Nat) :
    (if used + attrLen ≥ sdpMaxPadLen then (if attrType = textStrDescType then sdpMaxPadLen - used else 0)
      else attrLen) = keptLength used attrType attrLen := rfl

/-- The octets kept stay inside the pad. -/
theorem add_keptLength_le (used attrType attrLen : Nat) (padded : used ≤ sdpMaxPadLen) :
    used + keptLength used attrType attrLen ≤ sdpMaxPadLen := by
  unfold keptLength
  split_ifs <;> omega

theorem keptLength_zero (used attrType : Nat) : keptLength used attrType 0 = 0 := by
  unfold keptLength
  split_ifs <;> omega

section AddToRecord

variable (rec : SdpRecord) (xx attrId attrType attrLen : Nat) (bytes : List UInt8)
  (shifted : Vector SdpAttribute sdpMaxRecAttr)

theorem addToRecord_full (full : rec.numAttributes = sdpMaxRecAttr) (value : Option (List UInt8)) :
    addToRecord rec xx attrId attrType attrLen value = some (false, rec) := by
  unfold addToRecord
  rw [if_pos full]
  rfl

/-- A value with octets the pad keeps is stored at `free_pad_ptr`, and its slot
at `xx` of the shifted slots. -/
theorem addToRecord_stores (room : rec.numAttributes < sdpMaxRecAttr) (inside : xx < sdpMaxRecAttr)
    (shiftedRun : (if xx = rec.numAttributes then pure rec.attributes
      else shiftUp rec.attributes rec.numAttributes (rec.numAttributes - xx)) = some shifted)
    (positive : 0 < keptLength rec.freePadPtr attrType attrLen)
    (long : keptLength rec.freePadPtr attrType attrLen ≤ bytes.length)
    (fits : rec.freePadPtr + (bytes.take (keptLength rec.freePadPtr attrType attrLen)).length ≤ sdpMaxPadLen) :
    ∃ next, addToRecord rec xx attrId attrType attrLen (some bytes) = some (true, next) ∧
      next.recordHandle = rec.recordHandle ∧
      next.attributes = shifted.set xx ⟨keptLength rec.freePadPtr attrType attrLen, rec.freePadPtr, attrId, attrType⟩
        inside ∧
      next.numAttributes = rec.numAttributes + 1 ∧
      next.attrPad = writeVector rec.attrPad rec.freePadPtr (bytes.take (keptLength rec.freePadPtr attrType attrLen)) fits ∧
      next.freePadPtr = rec.freePadPtr + keptLength rec.freePadPtr attrType attrLen := by
  refine ⟨{ rec with
    attributes := shifted.set xx ⟨keptLength rec.freePadPtr attrType attrLen, rec.freePadPtr, attrId, attrType⟩ inside,
    attrPad := writeVector rec.attrPad rec.freePadPtr (bytes.take (keptLength rec.freePadPtr attrType attrLen)) fits,
    freePadPtr := rec.freePadPtr + keptLength rec.freePadPtr attrType attrLen,
    numAttributes := rec.numAttributes + 1 }, ?_, rfl, rfl, rfl, rfl, rfl⟩
  unfold addToRecord
  rw [if_neg (Nat.ne_of_lt room), ← apply_ite (· >>= _), shiftedRun, Option.bind_eq_bind, Option.bind_some]
  simp only [Vector.getElem?_eq_getElem inside, Option.bind_eq_bind, Option.bind_some, ite_eq_keptLength, gt_iff_lt,
    if_pos positive, if_neg (Nat.not_lt.mpr long), ByteBuffer.storeVector?_eq_some _ _ _ fits, setSlot?, dif_pos inside]
  rfl

/-- A value of no octets takes slot `xx` of the shifted slots with no value. -/
theorem addToRecord_keepsEmpty (room : rec.numAttributes < sdpMaxRecAttr) (inside : xx < sdpMaxRecAttr)
    (shiftedRun : (if xx = rec.numAttributes then pure rec.attributes
      else shiftUp rec.attributes rec.numAttributes (rec.numAttributes - xx)) = some shifted) :
    ∃ next, addToRecord rec xx attrId attrType 0 (some bytes) = some (true, next) ∧
      next.recordHandle = rec.recordHandle ∧
      next.attributes = shifted.set xx ⟨0, shifted[xx].valuePtr, attrId, attrType⟩ inside ∧
      next.numAttributes = rec.numAttributes + 1 ∧ next.attrPad = rec.attrPad ∧ next.freePadPtr = rec.freePadPtr := by
  refine ⟨{ rec with
    attributes := shifted.set xx ⟨0, shifted[xx].valuePtr, attrId, attrType⟩ inside,
    numAttributes := rec.numAttributes + 1 }, ?_, rfl, rfl, rfl, rfl, rfl⟩
  unfold addToRecord
  rw [if_neg (Nat.ne_of_lt room), ← apply_ite (· >>= _), shiftedRun, Option.bind_eq_bind, Option.bind_some]
  simp only [Vector.getElem?_eq_getElem inside, Option.bind_eq_bind, Option.bind_some, ite_eq_keptLength,
    keptLength_zero, gt_iff_lt, Nat.lt_irrefl, if_false, ne_eq, not_true_eq_false, setSlot?, dif_pos inside]
  rfl

/-- A value the pad refuses clears slot `xx` of the shifted slots and fails, with
the slots left shifted and no more live ones. -/
theorem addToRecord_clears (room : rec.numAttributes < sdpMaxRecAttr) (inside : xx < sdpMaxRecAttr)
    (shiftedRun : (if xx = rec.numAttributes then pure rec.attributes
      else shiftUp rec.attributes rec.numAttributes (rec.numAttributes - xx)) = some shifted)
    (refused : attrLen ≠ 0 ∧ keptLength rec.freePadPtr attrType attrLen = 0) :
    ∃ next, addToRecord rec xx attrId attrType attrLen (some bytes) = some (false, next) ∧
      next.attributes = shifted.set xx ⟨0, shifted[xx].valuePtr, 0, 0⟩ inside ∧
      next.numAttributes = rec.numAttributes ∧ next.attrPad = rec.attrPad := by
  refine ⟨{ rec with attributes := shifted.set xx ⟨0, shifted[xx].valuePtr, 0, 0⟩ inside }, ?_, rfl, rfl, rfl⟩
  unfold addToRecord
  rw [if_neg (Nat.ne_of_lt room), ← apply_ite (· >>= _), shiftedRun, Option.bind_eq_bind, Option.bind_some]
  simp only [Vector.getElem?_eq_getElem inside, Option.bind_eq_bind, Option.bind_some, ite_eq_keptLength,
    refused.2, gt_iff_lt, Nat.lt_irrefl, if_false, if_pos refused.1, setSlot?, dif_pos inside]
  rfl

end AddToRecord

/-- `l.take` of the length of a prefix `takeWhile` keeps is that prefix. -/
theorem take_length_takeWhile {α : Type} (p : α → Bool) (l : List α) : l.take (l.takeWhile p).length = l.takeWhile p := by
  induction l with
  | nil => rfl
  | cons head rest inductionHypothesis =>
    rw [List.takeWhile_cons]
    split
    · rw [List.length_cons, List.take_succ_cons, inductionHypothesis]
    · rfl

theorem drop_length_takeWhile {α : Type} (p : α → Bool) (l : List α) : l.drop (l.takeWhile p).length = l.dropWhile p := by
  induction l with
  | nil => rfl
  | cons head rest inductionHypothesis =>
    rw [List.takeWhile_cons, List.dropWhile_cons]
    split
    · rw [List.length_cons, List.drop_succ_cons, inductionHypothesis]
    · rfl

/-- Where `orderedInsert` puts an entry: after the entries with smaller ids. -/
theorem orderedInsert_eq_insertAt (entries : List AttrView) (entry : AttrView) :
    entries.orderedInsert (fun first second => first.id ≤ second.id) entry =
      entries.take (entries.takeWhile fun other => other.id < entry.id).length ++ entry ::
        entries.drop (entries.takeWhile fun other => other.id < entry.id).length := by
  have samePredicate : (fun other : AttrView => decide ¬ entry.id ≤ other.id) = fun other => decide (other.id < entry.id) := by
    funext other
    simp only [Nat.not_le]
  rw [List.orderedInsert_eq_take_drop, samePredicate, take_length_takeWhile, drop_length_takeWhile]

/-- A value appended at `free_pad_ptr` leaves the values of a laid-out record as
they were. -/
theorem read_writeVector (rec : SdpRecord) (laid : RecordLaidOut rec) (source : List UInt8)
    (fits : rec.freePadPtr + source.length ≤ sdpMaxPadLen) (attr : SdpAttribute) (live : attr ∈ rec.live) :
    attr.read (writeVector rec.attrPad rec.freePadPtr source fits) = attr.read rec.attrPad := by
  rcases laid.below attr live with empty | before
  · simp [SdpAttribute.read, window, empty]
  · have reached : rec.freePadPtr ≤ rec.attrPad.toList.length := by
      rw [Vector.length_toList]
      exact laid.padded
    simp only [SdpAttribute.read, writeVector, Vector.toList_mk]
    rw [ByteBuffer.window_writeAt_of_before _ _ _ _ _ before reached]

/-- The entries of a record whose live slots are the old ones with one more at
`xx`, over a pad that reads the old values as before. -/
theorem entries_of_live (rec next : SdpRecord) (xx : Nat) (slot : SdpAttribute)
    (liveAfter : next.live = rec.live.take xx ++ slot :: rec.live.drop xx)
    (sameReads : ∀ attr ∈ rec.live, attr.read next.attrPad = attr.read rec.attrPad) :
    next.entries = rec.entries.take xx ++ slot.read next.attrPad :: rec.entries.drop xx := by
  rw [SdpRecord.entries_eq, liveAfter, List.map_append, List.map_cons, SdpRecord.entries_eq, ← List.map_take,
    ← List.map_drop]
  congr 1
  · apply List.map_congr_left
    intro attr member
    exact sameReads attr (List.mem_of_mem_take member)
  · congr 1
    apply List.map_congr_left
    intro attr member
    exact sameReads attr (List.mem_of_mem_drop member)

/-- A record with one more live slot at `xx`, whose octets `free_pad_ptr` has
grown by, above the others, stays laid out. -/
theorem laidOut_of_live (rec next : SdpRecord) (laid : RecordLaidOut rec) (xx : Nat) (slot : SdpAttribute)
    (liveAfter : next.live = rec.live.take xx ++ slot :: rec.live.drop xx)
    (slots : next.numAttributes ≤ sdpMaxRecAttr) (grown : next.freePadPtr = rec.freePadPtr + slot.len)
    (padded : next.freePadPtr ≤ sdpMaxPadLen) (slotBelow : slot.len = 0 ∨ slot.valuePtr + slot.len ≤ next.freePadPtr) :
    RecordLaidOut next where
  slots := slots
  padded := padded
  below := by
    have old : ∀ attr ∈ rec.live, attr.len = 0 ∨ attr.valuePtr + attr.len ≤ next.freePadPtr := by
      intro attr member
      rcases laid.below attr member with empty | inside
      · exact .inl empty
      · exact .inr (by omega)
    intro attr member
    rw [liveAfter] at member
    rcases List.mem_append.mp member with early | later
    · exact old attr (List.mem_of_mem_take early)
    · rcases List.mem_cons.mp later with rfl | later
      · exact slotBelow
      · exact old attr (List.mem_of_mem_drop later)
  counted := by
    rw [grown, laid.counted, liveAfter, List.map_append, List.map_cons, List.sum_append, List.sum_cons,
      ← List.sum_take_add_sum_drop (rec.live.map SdpAttribute.len) xx, List.map_take, List.map_drop]
    omega

/-- The store's insertion into a record's entry, at the place where
`SDP_AddAttribute`'s loop over the live slots stops. -/
theorem toView_insert (rec : SdpRecord) (entry : AttrView) :
    rec.toView.insert entry = ⟨rec.recordHandle,
      rec.entries.take (rec.live.takeWhile fun attr => attr.id < entry.id).length ++ entry ::
        rec.entries.drop (rec.live.takeWhile fun attr => attr.id < entry.id).length⟩ := by
  have samePlace : (rec.entries.takeWhile fun other => other.id < entry.id).length =
      (rec.live.takeWhile fun attr => attr.id < entry.id).length := by
    rw [SdpRecord.entries_eq, List.takeWhile_map, List.length_map]
    rfl
  rw [RecordView.insert, orderedInsert_eq_insertAt]
  simp only [SdpRecord.toView]
  rw [samePlace]

/-- `SDP_AddAttribute`'s stores into a laid-out record do what the store does to
the record's entry, from where its loop stops, and leave the record laid out. -/
theorem addToRecord_simulates (rec : SdpRecord) (laid : RecordLaidOut rec) (attrId attrType attrLen : Nat)
    (bytes : List UInt8) (added : Bool) (entry : RecordView)
    (entered : rec.toView.addEntry? attrId attrType attrLen bytes = some (added, entry)) :
    ∃ xx next, insertIndex attrId rec.live 0 = (xx, false) ∧
      addToRecord rec xx attrId attrType attrLen (some bytes) = some (added, next) ∧
      next.toView = entry ∧ RecordLaidOut next := by
  unfold RecordView.addEntry? at entered
  split at entered
  · cases entered
  rename_i absent
  rw [ids_toView] at absent
  have stops := insertIndex_of_not_mem attrId rec.live 0 absent
  rw [Nat.zero_add] at stops
  have within : (rec.live.takeWhile fun attr => attr.id < attrId).length ≤ rec.numAttributes := by
    rw [← length_live rec laid]
    exact (List.takeWhile_sublist _).length_le
  have lengthEntries : rec.toView.entries.length = rec.numAttributes := by
    rw [SdpRecord.toView, SdpRecord.entries_eq, List.length_map, length_live rec laid]
  split at entered
  · rename_i full
    obtain ⟨rfl, rfl⟩ := Prod.mk.inj (Option.some.inj entered)
    rw [lengthEntries] at full
    exact ⟨_, rec, stops, addToRecord_full rec _ attrId attrType attrLen full _, rfl, laid⟩
  rename_i notFull
  rw [lengthEntries] at notFull
  have room : rec.numAttributes < sdpMaxRecAttr := Nat.lt_of_le_of_ne laid.slots notFull
  dsimp only at entered
  split at entered
  · cases entered
  rename_i accepted
  obtain ⟨rfl, rfl⟩ := Prod.mk.inj (Option.some.inj entered)
  rw [used_toView rec laid] at accepted
  obtain ⟨shifted, shiftedRun, moved⟩ := shiftedSlots rec.attributes _ rec.numAttributes room within
  have inside : (rec.live.takeWhile fun attr => attr.id < attrId).length < sdpMaxRecAttr := by omega
  have liveAfter := live_set_shifted rec.attributes shifted _ rec.numAttributes room within moved
  rw [used_toView rec laid, toView_insert]
  by_cases empty : attrLen = 0
  · subst empty
    obtain ⟨next, addedTo, sameHandle, slotsAfter, countAfter, padAfter, freeAfter⟩ :=
      addToRecord_keepsEmpty rec _ attrId attrType bytes shifted room inside shiftedRun
    have liveAfter := live_of_slots rec next shifted _ _ room within moved slotsAfter countAfter
    refine ⟨_, next, stops, addedTo, ?_, ?_⟩
    · have entries := entries_of_live rec next _ _ liveAfter (fun attr _ => by rw [padAfter])
      simp only [SdpRecord.toView]
      rw [entries, sameHandle, keptLength_zero, List.take_zero]
      simp [SdpAttribute.read, window]
    · refine laidOut_of_live rec next laid _ _ liveAfter ?_ ?_ ?_ (.inl rfl)
      · rw [countAfter]
        exact room
      · exact freeAfter
      · rw [freeAfter]
        exact laid.padded
  · have positive : 0 < keptLength rec.freePadPtr attrType attrLen := by
      rcases Nat.eq_zero_or_pos (keptLength rec.freePadPtr attrType attrLen) with none | some
      · exact absurd (.inl ⟨empty, none⟩) accepted
      · exact some
    have long : keptLength rec.freePadPtr attrType attrLen ≤ bytes.length :=
      Nat.le_of_not_lt fun short => accepted (.inr short)
    have takenLength : (bytes.take (keptLength rec.freePadPtr attrType attrLen)).length =
        keptLength rec.freePadPtr attrType attrLen := List.length_take_of_le long
    have fits : rec.freePadPtr + (bytes.take (keptLength rec.freePadPtr attrType attrLen)).length ≤ sdpMaxPadLen := by
      rw [takenLength]
      exact add_keptLength_le _ _ _ laid.padded
    obtain ⟨next, addedTo, sameHandle, slotsAfter, countAfter, padAfter, freeAfter⟩ :=
      addToRecord_stores rec _ attrId attrType attrLen bytes shifted room inside shiftedRun positive long fits
    have liveAfter := live_of_slots rec next shifted _ _ room within moved slotsAfter countAfter
    refine ⟨_, next, stops, addedTo, ?_, ?_⟩
    · have entries := entries_of_live rec next _ _ liveAfter
        (fun attr live => by rw [padAfter]; exact read_writeVector rec laid _ fits attr live)
      simp only [SdpRecord.toView]
      rw [entries, sameHandle, padAfter]
      have readBack := ByteBuffer.window_writeVector_self rec.attrPad rec.freePadPtr _ fits
      rw [takenLength] at readBack
      simp only [SdpAttribute.read, readBack]
    · refine laidOut_of_live rec next laid _ _ liveAfter ?_ freeAfter ?_ (.inr (Nat.le_of_eq freeAfter.symm))
      · rw [countAfter]
        exact room
      · rw [freeAfter]
        exact add_keptLength_le _ _ _ laid.padded

/-! ## The database refines the store -/

theorem findIdx?_view (db : SdpDb) (handle : Nat) :
    db.view.findIdx? (·.handle = handle) = db.record.findIdx? (·.recordHandle = handle) := by
  rw [SdpDb.view_eq, List.findIdx?_map]
  rfl

theorem getElem?_view (db : SdpDb) (index : Nat) : db.view[index]? = db.record[index]?.map SdpRecord.toView := by
  rw [SdpDb.view_eq, List.getElem?_map]

/-- `SDP_AddAttribute` on a record with an id it does not hold: the stores into
the record where the loop stops. -/
theorem sdpAddAttribute_of_absent (db : SdpDb) (handle attrId attrType attrLen zz xx : Nat)
    (value : Option (List UInt8)) (rec next : SdpRecord) (added : Bool)
    (found : db.record.findIdx? (·.recordHandle = handle) = some zz) (stored : db.record[zz]? = some rec)
    (stops : insertIndex attrId rec.live 0 = (xx, false))
    (addedTo : addToRecord rec xx attrId attrType attrLen value = some (added, next)) :
    sdpAddAttribute db handle attrId attrType attrLen value = some ({ db with record := db.record.set zz next }, added) := by
  unfold sdpAddAttribute
  simp only [SdpRecord.live] at stops
  simp only [found, stored, stops, addedTo, Option.bind_eq_bind, Option.bind_some, Bool.false_eq_true, if_false,
    Option.pure_def]

/-- `SDP_AddAttribute` does to a laid-out database what the store does to its view. -/
theorem sdpAddAttribute_simulates (db : SdpDb) (laid : DbLaidOut db) (handle attrId attrType attrLen : Nat)
    (bytes : List UInt8) (store : List RecordView) (added : Bool)
    (accepted : storeAdd? db.view handle attrId attrType attrLen bytes = some (store, added)) :
    ∃ next, sdpAddAttribute db handle attrId attrType attrLen (some bytes) = some (next, added) ∧
      next.view = store ∧ DbLaidOut next := by
  unfold storeAdd? at accepted
  rw [findIdx?_view] at accepted
  split at accepted
  · rename_i missing
    obtain ⟨rfl, rfl⟩ := Prod.mk.inj (Option.some.inj accepted)
    refine ⟨db, ?_, rfl, laid⟩
    unfold sdpAddAttribute
    rw [missing]
  · rename_i zz found
    obtain ⟨entry, present, accepted⟩ := Option.bind_eq_some_iff.mp accepted
    rw [getElem?_view] at present
    obtain ⟨rec, stored, rfl⟩ := Option.map_eq_some_iff.mp present
    obtain ⟨⟨ok, inserted⟩, entered, accepted⟩ := Option.bind_eq_some_iff.mp accepted
    obtain ⟨rfl, rfl⟩ := Prod.mk.inj (Option.some.inj accepted)
    obtain ⟨xx, next, stops, addedTo, viewed, nextLaid⟩ :=
      addToRecord_simulates rec (laid rec (List.mem_of_getElem? stored)) attrId attrType attrLen bytes ok inserted entered
    refine ⟨_, sdpAddAttribute_of_absent db handle attrId attrType attrLen zz xx _ rec next ok found stored stops
      addedTo, ?_, ?_⟩
    · rw [SdpDb.view_eq, List.map_set, ← SdpDb.view_eq, viewed]
    · intro other member
      rcases List.mem_or_eq_of_mem_set member with kept | rfl
      · exact laid other kept
      · exact nextLaid

/-- `SDP_CreateRecord`, with the handle it gives read off the store. -/
theorem sdpCreateRecord_eq (db : SdpDb) : sdpCreateRecord db =
    if db.record.length < sdpMaxRecords then
      (sdpAddAttribute { db with record := db.record ++ [{ SdpRecord.zero with recordHandle := nextHandle db.view }] }
        (nextHandle db.view) attrIdServiceRecordHdl uintDescType 4 (some (be32 (nextHandle db.view)))).map
        fun added => (added.1, nextHandle db.view)
    else some (db, 0) := by
  unfold sdpCreateRecord nextHandle
  rw [SdpDb.view_eq, List.getLast?_map]
  cases db.record.getLast? <;> rfl

/-- A call the store accepts, the database makes too from a laid-out state, with
the same returns, leaving it laid out with the store as its view. -/
theorem sdpStep_simulates (db : SdpDb) (call : SdpCall) (store : List RecordView) (returns : List SdpReturn)
    (laid : DbLaidOut db) (stepped : storeStep db.view call = .ok (store, returns)) :
    ∃ next, sdpStep db call = .ok (next, returns) ∧ next.view = store ∧ DbLaidOut next := by
  have lengthView : db.view.length = db.record.length := List.length_map _
  cases call with
  | createRecord =>
    simp only [storeStep] at stepped
    simp only [sdpStep, sdpCreateRecord_eq]
    split at stepped
    · rename_i below
      split at stepped
      · rename_i created ignored accepted
        obtain ⟨rfl, rfl⟩ := Prod.mk.inj (Except.ok.inj stepped)
        have appendedView : ({ db with record := db.record ++ [{ SdpRecord.zero with recordHandle := nextHandle db.view }] }
            : SdpDb).view = db.view ++ [⟨nextHandle db.view, []⟩] := by
          rw [SdpDb.view_eq, SdpDb.view_eq, List.map_append]
          rfl
        have appendedLaid : DbLaidOut { db with record := db.record ++ [{ SdpRecord.zero with recordHandle := nextHandle db.view }] } := by
          intro rec member
          rcases List.mem_append.mp member with old | fresh
          · exact laid rec old
          · rw [List.mem_singleton.mp fresh]
            exact laidOut_zero _
        rw [← appendedView] at accepted
        obtain ⟨next, addedTo, viewed, nextLaid⟩ :=
          sdpAddAttribute_simulates _ appendedLaid _ _ _ _ _ _ _ accepted
        refine ⟨next, ?_, viewed, nextLaid⟩
        rw [if_pos (lengthView ▸ below), addedTo]
        rfl
      · cases stepped
    · rename_i full
      obtain ⟨rfl, rfl⟩ := Prod.mk.inj (Except.ok.inj stepped)
      refine ⟨db, ?_, rfl, laid⟩
      rw [if_neg (lengthView ▸ full)]
  | deleteRecord handle =>
    simp only [storeStep] at stepped
    simp only [sdpStep, sdpDeleteRecord]
    have emptyView : db.view = [] ↔ db.record = [] := List.map_eq_nil_iff
    split at stepped
    · rename_i everything
      obtain ⟨rfl, rfl⟩ := Prod.mk.inj (Except.ok.inj stepped)
      refine ⟨⟨0, []⟩, ?_, rfl, fun _ member => (List.not_mem_nil member).elim⟩
      rw [if_pos (everything.imp_right emptyView.mp)]
    · rename_i notEverything
      rw [if_neg fun everything => notEverything (everything.imp_right emptyView.mpr)]
      rw [findIdx?_view] at stepped
      cases found : db.record.findIdx? (·.recordHandle = handle) with
      | some xx =>
        simp only [found] at stepped
        obtain ⟨rfl, rfl⟩ := Prod.mk.inj (Except.ok.inj stepped)
        refine ⟨⟨if db.diPrimaryHandle = handle then 0 else db.diPrimaryHandle, db.record.eraseIdx xx⟩, ?_, ?_, ?_⟩
        · rfl
        · rw [SdpDb.view_eq, SdpDb.view_eq, List.eraseIdx_map]
        · intro rec member
          exact laid rec (List.mem_of_mem_eraseIdx member)
      | none =>
        simp only [found] at stepped
        obtain ⟨rfl, rfl⟩ := Prod.mk.inj (Except.ok.inj stepped)
        exact ⟨db, rfl, rfl, laid⟩
  | addAttribute handle attrId attrType attrLen value =>
    cases value with
    | none => cases stepped
    | some bytes =>
      simp only [storeStep] at stepped
      split at stepped
      · rename_i result added accepted
        obtain ⟨rfl, rfl⟩ := Prod.mk.inj (Except.ok.inj stepped)
        obtain ⟨next, addedTo, viewed, nextLaid⟩ := sdpAddAttribute_simulates db laid _ _ _ _ _ _ _ accepted
        refine ⟨next, ?_, viewed, nextLaid⟩
        simp only [sdpStep, addedTo]
      · cases stepped
  | deleteAttribute handle attrId => cases stepped

/-- **The database refines the store.** Every run of calls that the store
completes, the SDP database completes from empty with the same returns: its view
is then the store, and every record is laid out. -/
theorem sdpRun_refinesStore (calls : List SdpCall) (store : List RecordView) (returns : List SdpReturn)
    (accepted : Runs.run storeStep [] calls = .ok (store, returns)) :
    ∃ db, Runs.run sdpStep SdpDb.empty calls = .ok (db, returns) ∧ db.view = store ∧ DbLaidOut db :=
  Runs.run_simulates sdpStep storeStep SdpDb.view DbLaidOut sdpStep_simulates SdpDb.empty calls
    (fun _ member => (List.not_mem_nil member).elim) store returns accepted

/-- The store's run of two new records and an attribute of one octet for the second. -/
theorem storeRun_twoRecords :
    Runs.run storeStep [] [.createRecord, .createRecord, .addAttribute 0x10001 1 uintDescType 1 (some [5])] =
      .ok ([⟨0x10000, [⟨0, 1, [0, 1, 0, 0]⟩]⟩, ⟨0x10001, [⟨0, 1, [0, 1, 0, 1]⟩, ⟨1, 1, [5]⟩]⟩],
        [.handle 0x10000, .handle 0x10001, .result true]) := by
  rfl

/-- Two records created and one attribute added to the second: the database's
view is the sorted store's, and it stays laid out. -/
theorem sdpRun_refinesStore_twoRecords :
    ∃ db, Runs.run sdpStep SdpDb.empty [.createRecord, .createRecord, .addAttribute 0x10001 1 uintDescType 1 (some [5])] =
      .ok (db, [.handle 0x10000, .handle 0x10001, .result true]) ∧
      db.view = [⟨0x10000, [⟨0, 1, [0, 1, 0, 0]⟩]⟩, ⟨0x10001, [⟨0, 1, [0, 1, 0, 1]⟩, ⟨1, 1, [5]⟩]⟩] ∧ DbLaidOut db :=
  sdpRun_refinesStore _ _ _ storeRun_twoRecords

/-- **Records stay sorted.** After every run of calls that the store completes,
the live attributes of every record of the SDP database rise by id, so that no
id is listed twice. -/
theorem sdpRun_attributesSorted (calls : List SdpCall) (store : List RecordView) (returns : List SdpReturn)
    (accepted : Runs.run storeStep [] calls = .ok (store, returns)) :
    ∃ db, Runs.run sdpStep SdpDb.empty calls = .ok (db, returns) ∧
      ∀ rec ∈ db.record, (rec.live.map SdpAttribute.id).Pairwise (· < ·) := by
  obtain ⟨db, ran, viewed, -⟩ := Runs.run_simulates sdpStep storeStep SdpDb.view DbLaidOut sdpStep_simulates
    SdpDb.empty calls (fun _ member => (List.not_mem_nil member).elim) store returns accepted
  have storeSorted := Runs.run_preserves storeStep _ storeStep_sorted [] store calls returns
    (fun _ member => (List.not_mem_nil member).elim) accepted
  refine ⟨db, ran, ?_⟩
  intro rec member
  have inStore : rec.toView ∈ store := viewed ▸ List.mem_map_of_mem member
  rw [← ids_toView]
  exact storeSorted rec.toView inStore

/-- After the same calls every record's live attributes are in ascending
order of their identifiers. -/
theorem sdpRun_attributesSorted_twoRecords :
    ∃ db, Runs.run sdpStep SdpDb.empty [.createRecord, .createRecord, .addAttribute 0x10001 1 uintDescType 1 (some [5])] =
      .ok (db, [.handle 0x10000, .handle 0x10001, .result true]) ∧
      ∀ rec ∈ db.record, (rec.live.map SdpAttribute.id).Pairwise (· < ·) :=
  sdpRun_attributesSorted _ _ _ storeRun_twoRecords

/-! ## A value the pad refuses -/

/-- The live slots of a record after a refused store into slot `xx` before the
last live slot: the old ones, with the cleared slot at `xx` and the last one
gone. -/
theorem live_of_cleared (rec next : SdpRecord) (shifted : Vector SdpAttribute sdpMaxRecAttr) (xx : Nat)
    (slot : SdpAttribute) (room : rec.numAttributes < sdpMaxRecAttr) (middle : xx < rec.numAttributes)
    (moved : ∀ (position : Nat) (inside : position < sdpMaxRecAttr),
      shifted[position] = if xx < position ∧ position ≤ rec.numAttributes then rec.attributes[position - 1]
        else rec.attributes[position])
    (slotsAfter : next.attributes = shifted.set xx slot (by omega))
    (countAfter : next.numAttributes = rec.numAttributes) :
    next.live = rec.live.take xx ++ slot :: (rec.live.drop xx).dropLast := by
  have grown := live_set_shifted rec.attributes shifted xx rec.numAttributes room middle.le moved slot
  have prefixLength : (rec.live.take xx).length = xx := by
    rw [List.length_take, SdpRecord.live, List.length_take, Vector.length_toList]
    omega
  have suffixLength : (rec.live.drop xx).length = rec.numAttributes - xx := by
    rw [List.length_drop, SdpRecord.live, List.length_take, Vector.length_toList]
    omega
  rw [SdpRecord.live, slotsAfter, countAfter, ← Nat.min_eq_left (Nat.le_succ rec.numAttributes), ← List.take_take,
    grown]
  rw [← SdpRecord.live, List.take_append, List.take_of_length_le (by omega), prefixLength,
    show rec.numAttributes - xx = rec.numAttributes - xx - 1 + 1 by omega, List.take_succ_cons,
    List.dropLast_eq_take, suffixLength]

/-- **A refused value costs the record its last attribute.** When the pad cannot
keep the value of a new attribute whose id sorts before the last live one,
`SDP_AddAttribute` fails, but the slots it moved up stay moved: the cleared slot
is listed in the new attribute's place as attribute 0 of type 0 with no value,
and the record's last attribute is listed no more. -/
theorem sdpAddAttribute_refusedDropsLast (db : SdpDb) (handle attrId attrType attrLen zz xx : Nat)
    (bytes : List UInt8) (rec : SdpRecord)
    (found : db.record.findIdx? (·.recordHandle = handle) = some zz) (stored : db.record[zz]? = some rec)
    (room : rec.numAttributes < sdpMaxRecAttr) (stops : insertIndex attrId rec.live 0 = (xx, false))
    (middle : xx < rec.numAttributes) (refused : attrLen ≠ 0 ∧ keptLength rec.freePadPtr attrType attrLen = 0) :
    ∃ next, sdpAddAttribute db handle attrId attrType attrLen (some bytes) =
        some ({ db with record := db.record.set zz next }, false) ∧
      next.entries = rec.entries.take xx ++ ⟨0, 0, []⟩ :: (rec.entries.drop xx).dropLast := by
  obtain ⟨shifted, shiftedRun, moved⟩ := shiftedSlots rec.attributes xx rec.numAttributes room middle.le
  have inside : xx < sdpMaxRecAttr := Nat.lt_trans middle room
  obtain ⟨next, addedTo, slotsAfter, countAfter, padAfter⟩ :=
    addToRecord_clears rec xx attrId attrType attrLen bytes shifted room inside shiftedRun refused
  have liveAfter := live_of_cleared rec next shifted xx _ room middle moved slotsAfter countAfter
  refine ⟨next, sdpAddAttribute_of_absent db handle attrId attrType attrLen zz xx _ rec next false found stored
    stops addedTo, ?_⟩
  rw [SdpRecord.entries_eq, liveAfter, padAfter, List.map_append, List.map_cons, List.map_dropLast,
    SdpRecord.entries_eq, List.map_take, List.map_drop]
  simp [SdpAttribute.read, window]

/-- A record holding attribute 0 (four octets) and attribute 5 (one octet), with
five octets of its pad used. -/
def twoAttributeRecord : SdpRecord :=
  { SdpRecord.zero with
    recordHandle := 0x10000, freePadPtr := 5, numAttributes := 2,
    attributes := (SdpRecord.zero.attributes.set 0 ⟨4, 0, 0, uintDescType⟩).set 1 ⟨1, 4, 5, uintDescType⟩ }

/-- A value longer than the pad refused on a record of two attributes: the
record keeps the first, an empty slot, and loses the last. -/
theorem sdpAddAttribute_refusedDropsLast_twoAttributes :
    ∃ next, sdpAddAttribute ⟨0, [twoAttributeRecord]⟩ 0x10000 2 uintDescType sdpMaxPadLen
        (some (List.replicate sdpMaxPadLen 7)) =
        some ({ (⟨0, [twoAttributeRecord]⟩ : SdpDb) with record := [twoAttributeRecord].set 0 next }, false) ∧
      next.entries = twoAttributeRecord.entries.take 1 ++ ⟨0, 0, []⟩ :: (twoAttributeRecord.entries.drop 1).dropLast :=
  sdpAddAttribute_refusedDropsLast ⟨0, [twoAttributeRecord]⟩ 0x10000 2 uintDescType sdpMaxPadLen 0 1
    (List.replicate sdpMaxPadLen 7) twoAttributeRecord (by decide) rfl (by decide) (by decide) (by decide)
    (by decide)

end Fluoride.SdpServerDb
