import Mathlib.Data.Nat.Bitwise

/-!
# Attribute permissions of the GATT server

`gatts_check_attr_readability` and `gatts_write_attr_perm_check`
(`stack/gatt/gatt_db.cc`) decide whether a client may read or write an
attribute, from the attribute's permission word (`GATT_PERM_*` bits and, in its
top nibble, the minimum key size), the security of the link (`sec_flag`) and
its key size. Both are ladders of checks, each returning or setting a status.

A read granted has the permission and the link security the permission asks
for, and so has a write that is not a signed write, after the mapping of mixed
security modes that plain writes of a signed attribute go through; both grants
only get easier as the link gains security or key size. A signed write
(`GATT_SIGN_CMD_WRITE`) is refused on an encrypted link, but a signed write to
an attribute without signed-write permission is granted: the status
`GATT_WRITE_NOT_PERMIT` set for it is overwritten by every branch of the ladder
that follows (`signedWrite_withoutSignedPerm`).
-/

namespace Fluoride.GattPerm

/-! ## Permissions, link security and status -/

def gattPermRead : Nat := 1 <<< 0
def gattPermReadEncrypted : Nat := 1 <<< 1
def gattPermReadEncMitm : Nat := 1 <<< 2
def gattPermWrite : Nat := 1 <<< 4
def gattPermWriteEncrypted : Nat := 1 <<< 5
def gattPermWriteEncMitm : Nat := 1 <<< 6
def gattPermWriteSigned : Nat := 1 <<< 7
def gattPermWriteSignedMitm : Nat := 1 <<< 8

/-- The top nibble of a permission word: the minimum key size, less 6. -/
def gattEncryptKeySizeMask : Nat := 0xF000

def gattReadAllowed : Nat := gattPermRead ||| gattPermReadEncrypted ||| gattPermReadEncMitm
def gattReadAuthRequired : Nat := gattPermReadEncrypted
def gattReadMitmRequired : Nat := gattPermReadEncMitm
def gattReadEncryptedRequired : Nat := gattPermReadEncrypted ||| gattPermReadEncMitm

def gattWriteAllowed : Nat :=
  gattPermWrite ||| gattPermWriteEncrypted ||| gattPermWriteEncMitm ||| gattPermWriteSigned |||
    gattPermWriteSignedMitm
def gattWriteAuthRequired : Nat := gattPermWriteEncrypted ||| gattPermWriteSigned
def gattWriteMitmRequired : Nat := gattPermWriteEncMitm ||| gattPermWriteSignedMitm
def gattWriteEncryptedPerm : Nat := gattPermWriteEncrypted ||| gattPermWriteEncMitm
def gattWriteSignedPerm : Nat := gattPermWriteSigned ||| gattPermWriteSignedMitm

/-- The link security flags (`BTM_SEC_FLAG_*`, named `GATT_SEC_FLAG_*` in GATT). -/
def gattSecFlagEncrypted : Nat := 0x04
def gattSecFlagLkeyUnauthed : Nat := 0x10
def gattSecFlagLkeyAuthed : Nat := 0x20

/-- The write op codes. -/
def gattReqWrite : Nat := 0x12
def gattCmdWrite : Nat := 0x52
def gattReqPrepareWrite : Nat := 0x16
def gattSignCmdWrite : Nat := 0xD2

/-- The attribute types the checks look at. -/
def gattUuidPriService : Nat := 0x2800
def gattUuidSecService : Nat := 0x2801
def gattUuidIncludeService : Nat := 0x2802
def gattUuidCharDeclare : Nat := 0x2803
def gattUuidCharExtProp : Nat := 0x2900
def gattUuidCharDescription : Nat := 0x2901
def gattUuidCharClientConfig : Nat := 0x2902
def gattUuidCharSrvrConfig : Nat := 0x2903
def gattUuidCharPresentFormat : Nat := 0x2904
def gattUuidCharAggFormat : Nat := 0x2905
def gattUuidCharValidRange : Nat := 0x2906

/-- The statuses the checks return (`tGATT_STATUS`). -/
inductive GattStatus
  | success
  | readNotPermit
  | writeNotPermit
  | invalidPdu
  | insufAuthentication
  | notFound
  | notLong
  | insufKeySize
  | invalidAttrLen
  | insufEncryption
deriving DecidableEq, Repr

/-- An attribute type as the checks see it: `IsEmpty`, `Is16Bit` with its
16-bit value, or a 32- or 128-bit UUID. -/
inductive Uuid
  | empty
  | bit16 (value : Nat)
  | wide
deriving DecidableEq, Repr

/-- `tGATT_ATTR`, the fields the checks read. -/
structure GattAttr where
  uuid : Uuid
  permission : Nat
deriving DecidableEq, Repr

/-- The minimum key size a permission word asks for: its top nibble plus 6,
or none. -/
def minKeySize (perm : Nat) : Nat :=
  if (perm &&& gattEncryptKeySizeMask) >>> 12 ≠ 0 then ((perm &&& gattEncryptKeySizeMask) >>> 12) + 6
  else 0

/-! ## The read check -/

/-- The attribute types a read blob is refused for. -/
def notLongUuid : Uuid → Bool
  | .bit16 value =>
    value = gattUuidPriService || value = gattUuidSecService || value = gattUuidCharDeclare ||
      value = gattUuidIncludeService || value = gattUuidCharExtProp || value = gattUuidCharClientConfig ||
      value = gattUuidCharSrvrConfig || value = gattUuidCharPresentFormat
  | _ => false

/-- `gatts_check_attr_readability`; the offset it is passed is unused. -/
def gattsCheckAttrReadability (attr : GattAttr) (readLong : Bool) (secFlag keySize : Nat) : GattStatus :=
  if attr.permission &&& gattReadAllowed = 0 then .readNotPermit
  else if attr.permission &&& gattReadAuthRequired ≠ 0 ∧ secFlag &&& gattSecFlagLkeyUnauthed = 0 ∧
      secFlag &&& gattSecFlagEncrypted = 0 then .insufAuthentication
  else if attr.permission &&& gattReadMitmRequired ≠ 0 ∧ secFlag &&& gattSecFlagLkeyAuthed = 0 then
    .insufAuthentication
  else if attr.permission &&& gattReadEncryptedRequired ≠ 0 ∧ secFlag &&& gattSecFlagEncrypted = 0 then
    .insufEncryption
  else if attr.permission &&& gattReadEncryptedRequired ≠ 0 ∧ secFlag &&& gattSecFlagEncrypted ≠ 0 ∧
      keySize < minKeySize attr.permission then .insufKeySize
  else if readLong ∧ notLongUuid attr.uuid then .notLong
  else .success

/-! ## The write check -/

/-- The mixed security modes of a plain write to a signed attribute (Core
10.2.3): signed and encrypted is encrypted, and signed with MITM and encrypted,
or signed and encrypted with MITM, is encrypted with MITM. -/
def mixedSecurityPerm (opCode perm : Nat) : Nat :=
  if (opCode = gattCmdWrite ∨ opCode = gattReqWrite) ∧ perm &&& gattWriteSignedPerm ≠ 0 then
    if perm &&& gattPermWriteSigned ≠ 0 ∧ perm &&& gattPermWriteEncrypted ≠ 0 then gattPermWriteEncrypted
    else if perm &&& gattPermWriteSignedMitm ≠ 0 ∧ perm &&& gattPermWriteEncrypted ≠ 0 ∨
        perm &&& gattWriteSignedPerm ≠ 0 ∧ perm &&& gattPermWriteEncMitm ≠ 0 then gattPermWriteEncMitm
    else perm
  else perm

/-- The descriptors written as two bytes at offset 0. -/
def isConfigDescriptor (uuid : Uuid) : Bool :=
  uuid = .bit16 gattUuidCharClientConfig || uuid = .bit16 gattUuidCharSrvrConfig

/-- The switch on the attribute type in the last branch of
`gatts_write_attr_perm_check`: the status, and the length a configuration
descriptor must have. -/
def uuidWriteStatus : Uuid → GattStatus × Nat
  | .empty => (.invalidPdu, 0)
  | .bit16 value =>
    if value = gattUuidCharPresentFormat ∨ value = gattUuidCharExtProp ∨ value = gattUuidCharAggFormat ∨
        value = gattUuidCharValidRange then (.writeNotPermit, 0)
    else if value = gattUuidCharClientConfig ∨ value = gattUuidCharSrvrConfig then (.success, 2)
    else (.success, 0)
  | .wide => (.success, 0)

/-- The last branch of `gatts_write_attr_perm_check`, for an attribute the
security checks let through: the status by the attribute type, then the data
and the configuration descriptors. -/
def writableStatus (uuid : Uuid) (opCode offset : Nat) (pDataPresent : Bool) (len : Nat) : GattStatus :=
  if !pDataPresent ∧ 0 < len then .invalidPdu
  else if isConfigDescriptor uuid then
    if opCode = gattReqPrepareWrite ∧ offset ≠ 0 then .notLong
    else if len ≠ (uuidWriteStatus uuid).2 then .invalidAttrLen
    else .success
  else (uuidWriteStatus uuid).1

/-- `gatts_write_attr_perm_check`, on the attribute `find_attr_by_handle` found.
Before the ladder the source sets the status to `GATT_WRITE_NOT_PERMIT` for a
signed write without signed-write permission; every branch of the ladder sets
the status again, so that value is never returned. -/
def gattsWriteAttrPermCheck (attr : Option GattAttr) (opCode offset : Nat) (pDataPresent : Bool)
    (len secFlag keySize : Nat) : GattStatus :=
  match attr with
  | none => .notFound
  | some attr =>
    let perm := mixedSecurityPerm opCode attr.permission
    if opCode = gattSignCmdWrite ∧ secFlag &&& gattSecFlagEncrypted ≠ 0 then .invalidPdu
    else if perm &&& gattWriteAllowed = 0 then .writeNotPermit
    else if perm &&& gattWriteAuthRequired ≠ 0 ∧ secFlag &&& gattSecFlagLkeyUnauthed = 0 then
      .insufAuthentication
    else if perm &&& gattWriteMitmRequired ≠ 0 ∧ secFlag &&& gattSecFlagLkeyAuthed = 0 then
      .insufAuthentication
    else if perm &&& gattWriteEncryptedPerm ≠ 0 ∧ secFlag &&& gattSecFlagEncrypted = 0 then
      .insufEncryption
    else if perm &&& gattWriteEncryptedPerm ≠ 0 ∧ secFlag &&& gattSecFlagEncrypted ≠ 0 ∧
        keySize < minKeySize attr.permission then .insufKeySize
    else if perm &&& gattWriteSignedPerm ≠ 0 ∧ opCode ≠ gattSignCmdWrite ∧
        secFlag &&& gattSecFlagEncrypted = 0 ∧ perm &&& gattWriteAllowed = 0 then .insufAuthentication
    else writableStatus attr.uuid opCode offset pDataPresent len

/-! ## Bits -/

/-- A bit the link security has, it keeps when more flags are added. -/
theorem land_or_ne_zero (flags extra bits : Nat) (has : flags &&& bits ≠ 0) :
    (flags ||| extra) &&& bits ≠ 0 := by
  rw [Nat.and_or_distrib_right]
  intro none
  exact has (Nat.or_eq_zero_iff.mp none).1

/-- A word with one of some bits has one of every larger set of bits. -/
theorem land_ne_zero_of_submask (word small big : Nat) (within : small &&& big = small)
    (has : word &&& small ≠ 0) : word &&& big ≠ 0 := by
  intro none
  apply has
  rw [← within, Nat.land_comm small big, ← Nat.land_assoc, none, Nat.zero_and]

/-! ## What a grant means -/

/-- A read is granted exactly when every rung of the ladder passes: the
attribute is readable, an encrypted permission has a known key or encryption, a
MITM permission has an authenticated key, an encrypted permission has an
encrypted link with a key of the minimum size, and a read blob is not for a
declaration or configuration attribute. -/
theorem gattsCheckAttrReadability_eq_success (attr : GattAttr) (readLong : Bool) (secFlag keySize : Nat) :
    gattsCheckAttrReadability attr readLong secFlag keySize = .success ↔
      attr.permission &&& gattReadAllowed ≠ 0 ∧
      (attr.permission &&& gattReadAuthRequired ≠ 0 →
        secFlag &&& gattSecFlagLkeyUnauthed ≠ 0 ∨ secFlag &&& gattSecFlagEncrypted ≠ 0) ∧
      (attr.permission &&& gattReadMitmRequired ≠ 0 → secFlag &&& gattSecFlagLkeyAuthed ≠ 0) ∧
      (attr.permission &&& gattReadEncryptedRequired ≠ 0 →
        secFlag &&& gattSecFlagEncrypted ≠ 0 ∧ minKeySize attr.permission ≤ keySize) ∧
      (readLong = true → notLongUuid attr.uuid = false) := by
  unfold gattsCheckAttrReadability
  -- one rung fails, or all pass; the rest is propositional
  split_ifs with allowed auth mitm encrypted keySmall long <;> grind

/-- A write is granted exactly when the rungs of the ladder pass on the
permission after the mixed-security mapping: a signed write has an unencrypted
link, the attribute is writable, an encrypted or signed permission has a known
key, a MITM permission an authenticated key, an encrypted permission an
encrypted link with a key of the minimum size, and the attribute type and data
are writable. The rung for LE security mode 2 never fires: it asks for a
signed permission without a write bit. -/
theorem gattsWriteAttrPermCheck_eq_success (attr : GattAttr) (opCode offset : Nat) (pDataPresent : Bool)
    (len secFlag keySize : Nat) :
    gattsWriteAttrPermCheck (some attr) opCode offset pDataPresent len secFlag keySize = .success ↔
      (opCode = gattSignCmdWrite → secFlag &&& gattSecFlagEncrypted = 0) ∧
      mixedSecurityPerm opCode attr.permission &&& gattWriteAllowed ≠ 0 ∧
      (mixedSecurityPerm opCode attr.permission &&& gattWriteAuthRequired ≠ 0 →
        secFlag &&& gattSecFlagLkeyUnauthed ≠ 0) ∧
      (mixedSecurityPerm opCode attr.permission &&& gattWriteMitmRequired ≠ 0 →
        secFlag &&& gattSecFlagLkeyAuthed ≠ 0) ∧
      (mixedSecurityPerm opCode attr.permission &&& gattWriteEncryptedPerm ≠ 0 →
        secFlag &&& gattSecFlagEncrypted ≠ 0 ∧ minKeySize attr.permission ≤ keySize) ∧
      writableStatus attr.uuid opCode offset pDataPresent len = .success := by
  unfold gattsWriteAttrPermCheck
  dsimp only
  -- one rung fails, or all pass and the attribute type decides
  split_ifs with signedEncrypted allowed auth mitm encrypted keySmall modeTwo <;> grind

/-- The mapping of mixed security modes keeps a write bit: it only maps signed
permissions, which are write bits, to write bits. -/
theorem mixedSecurityPerm_writeAllowed (opCode perm : Nat)
    (allowed : mixedSecurityPerm opCode perm &&& gattWriteAllowed ≠ 0) : perm &&& gattWriteAllowed ≠ 0 := by
  unfold mixedSecurityPerm at allowed
  split_ifs at allowed with plain
  all_goals first
    | exact allowed
    | exact land_ne_zero_of_submask perm gattWriteSignedPerm gattWriteAllowed (by decide) plain.2

/-- A configuration descriptor must have two bytes. -/
theorem uuidWriteStatus_configDescriptor (uuid : Uuid) (descriptor : isConfigDescriptor uuid = true) :
    (uuidWriteStatus uuid).2 = 2 := by
  have configUuid : uuid = .bit16 gattUuidCharClientConfig ∨ uuid = .bit16 gattUuidCharSrvrConfig := by
    simpa [isConfigDescriptor] using descriptor
  rcases configUuid with rfl | rfl <;> decide

/-- A configuration descriptor is only written with two bytes, at offset 0 when
the write is a prepared one. -/
theorem writableStatus_configDescriptor (uuid : Uuid) (opCode offset : Nat) (pDataPresent : Bool)
    (len : Nat) (granted : writableStatus uuid opCode offset pDataPresent len = .success)
    (descriptor : isConfigDescriptor uuid = true) :
    len = 2 ∧ (opCode = gattReqPrepareWrite → offset = 0) := by
  simp only [writableStatus, descriptor, if_true] at granted
  split_ifs at granted with noData notLong wrongLength
  constructor
  · rw [uuidWriteStatus_configDescriptor uuid descriptor] at wrongLength
    omega
  · intro prepared
    by_contra moved
    exact notLong ⟨prepared, moved⟩

/-! ## Grants -/

/-- A read granted is of a readable attribute, with an encrypted link and a key
of the minimum size where the permission asks for encryption, and an
authenticated key where it asks for MITM protection. -/
theorem gattsCheckAttrReadability_granted (attr : GattAttr) (readLong : Bool) (secFlag keySize : Nat)
    (granted : gattsCheckAttrReadability attr readLong secFlag keySize = .success) :
    attr.permission &&& gattReadAllowed ≠ 0 ∧
      (attr.permission &&& gattReadEncryptedRequired ≠ 0 →
        secFlag &&& gattSecFlagEncrypted ≠ 0 ∧ minKeySize attr.permission ≤ keySize) ∧
      (attr.permission &&& gattReadMitmRequired ≠ 0 → secFlag &&& gattSecFlagLkeyAuthed ≠ 0) := by
  obtain ⟨allowed, -, mitm, encrypted, -⟩ := (gattsCheckAttrReadability_eq_success attr readLong secFlag keySize).mp granted
  exact ⟨allowed, encrypted, mitm⟩

/-- A write granted is of a writable attribute; a signed write is on an
unencrypted link; after the mixed-security mapping, an encrypted permission has
an encrypted link and a key of the minimum size and a MITM permission an
authenticated key; and a configuration descriptor is written with two bytes, at
offset 0 when the write is a prepared one. -/
theorem gattsWriteAttrPermCheck_granted (attr : GattAttr) (opCode offset : Nat) (pDataPresent : Bool)
    (len secFlag keySize : Nat)
    (granted : gattsWriteAttrPermCheck (some attr) opCode offset pDataPresent len secFlag keySize = .success) :
    attr.permission &&& gattWriteAllowed ≠ 0 ∧
      (opCode = gattSignCmdWrite → secFlag &&& gattSecFlagEncrypted = 0) ∧
      (mixedSecurityPerm opCode attr.permission &&& gattWriteEncryptedPerm ≠ 0 →
        secFlag &&& gattSecFlagEncrypted ≠ 0 ∧ minKeySize attr.permission ≤ keySize) ∧
      (mixedSecurityPerm opCode attr.permission &&& gattWriteMitmRequired ≠ 0 →
        secFlag &&& gattSecFlagLkeyAuthed ≠ 0) ∧
      (isConfigDescriptor attr.uuid = true → len = 2 ∧ (opCode = gattReqPrepareWrite → offset = 0)) := by
  obtain ⟨signed, allowed, -, mitm, encrypted, writable⟩ :=
    (gattsWriteAttrPermCheck_eq_success attr opCode offset pDataPresent len secFlag keySize).mp granted
  exact ⟨mixedSecurityPerm_writeAllowed opCode attr.permission allowed, signed, encrypted, mitm,
    writableStatus_configDescriptor attr.uuid opCode offset pDataPresent len writable⟩

/-- A read granted stays granted on a link with more security flags and a key at
least as long. -/
theorem gattsCheckAttrReadability_mono (attr : GattAttr) (readLong : Bool) (secFlag extra keySize larger : Nat)
    (granted : gattsCheckAttrReadability attr readLong secFlag keySize = .success) (longer : keySize ≤ larger) :
    gattsCheckAttrReadability attr readLong (secFlag ||| extra) larger = .success := by
  obtain ⟨allowed, auth, mitm, encrypted, long⟩ :=
    (gattsCheckAttrReadability_eq_success attr readLong secFlag keySize).mp granted
  refine (gattsCheckAttrReadability_eq_success attr readLong _ _).mpr
    ⟨allowed, fun required => ?_, fun required => land_or_ne_zero _ _ _ (mitm required), fun required => ?_, long⟩
  · rcases auth required with known | encryptedLink
    · exact .inl (land_or_ne_zero _ _ _ known)
    · exact .inr (land_or_ne_zero _ _ _ encryptedLink)
  · obtain ⟨encryptedLink, keyFits⟩ := encrypted required
    exact ⟨land_or_ne_zero _ _ _ encryptedLink, le_trans keyFits longer⟩

/-- A write other than a signed write, granted, stays granted on a link with
more security flags and a key at least as long. -/
theorem gattsWriteAttrPermCheck_mono (attr : GattAttr) (opCode offset : Nat) (pDataPresent : Bool)
    (len secFlag extra keySize larger : Nat) (unsigned : opCode ≠ gattSignCmdWrite)
    (granted : gattsWriteAttrPermCheck (some attr) opCode offset pDataPresent len secFlag keySize = .success)
    (longer : keySize ≤ larger) :
    gattsWriteAttrPermCheck (some attr) opCode offset pDataPresent len (secFlag ||| extra) larger = .success := by
  obtain ⟨-, allowed, auth, mitm, encrypted, writable⟩ :=
    (gattsWriteAttrPermCheck_eq_success attr opCode offset pDataPresent len secFlag keySize).mp granted
  refine (gattsWriteAttrPermCheck_eq_success attr opCode offset pDataPresent len _ _).mpr
    ⟨fun signed => absurd signed unsigned, allowed, fun required => land_or_ne_zero _ _ _ (auth required),
      fun required => land_or_ne_zero _ _ _ (mitm required), fun required => ?_, writable⟩
  obtain ⟨encryptedLink, keyFits⟩ := encrypted required
  exact ⟨land_or_ne_zero _ _ _ encryptedLink, le_trans keyFits longer⟩

/-- A signed write to an attribute without signed-write permission, on an
unencrypted link, is checked exactly as an unsigned write command: the
`GATT_WRITE_NOT_PERMIT` the source sets for it never reaches the caller. -/
theorem signedWrite_withoutSignedPerm (attr : GattAttr) (offset : Nat) (pDataPresent : Bool)
    (len secFlag keySize : Nat) (unsignedPerm : attr.permission &&& gattWriteSignedPerm = 0)
    (unencrypted : secFlag &&& gattSecFlagEncrypted = 0) :
    gattsWriteAttrPermCheck (some attr) gattSignCmdWrite offset pDataPresent len secFlag keySize =
      gattsWriteAttrPermCheck (some attr) gattCmdWrite offset pDataPresent len secFlag keySize := by
  have unmapped (opCode : Nat) : mixedSecurityPerm opCode attr.permission = attr.permission := by
    simp [mixedSecurityPerm, unsignedPerm]
  have notPrepared (opCode : Nat) (write : opCode = gattSignCmdWrite ∨ opCode = gattCmdWrite) :
      writableStatus attr.uuid opCode offset pDataPresent len =
        writableStatus attr.uuid gattCmdWrite offset pDataPresent len := by
    rcases write with rfl | rfl <;> rfl
  simp only [gattsWriteAttrPermCheck, unmapped, unencrypted, unsignedPerm, notPrepared gattSignCmdWrite (.inl rfl)]
  simp [gattSignCmdWrite, gattCmdWrite]

/-- A signed write to an attribute that only has the plain write permission is
granted, on a link with no security at all. -/
theorem gattsWriteAttrPermCheck_signedWriteGranted :
    gattPermWrite &&& gattWriteSignedPerm = 0 ∧
      gattsWriteAttrPermCheck (some ⟨.bit16 0x2A00, gattPermWrite⟩) gattSignCmdWrite 0 true 4 0 0 =
        .success := by
  decide

end Fluoride.GattPerm
