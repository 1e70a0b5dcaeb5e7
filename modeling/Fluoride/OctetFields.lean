import Mathlib.Data.Nat.Bitwise

/-!
# Bit fields of an octet

An octet that packs several fields keeps each field in the bits of a mask, and
a set of options is an octet with one bit per option. A value *fits* a mask
when it has no bit outside it (`value & ~mask` is zero, the test a C builder
makes before it packs a field). Packing fields of disjoint masks with `|` and
masking the octet with one field's mask gives that field back
(`and_mask_of_fits`, `and_eq_zero_of_fits`), and a masked octet fits its mask
(`fits_and_mask`).

For option sets: two sets *meet* when their intersection is not empty; a set
meets each of two sets whose intersection it meets
(`and_ne_zero_of_and_and_ne_zero`); and a non-empty set that fits the union of
some bits meets one of them (`exists_and_ne_zero_of_fits_union`). A chain of
tests `if (set & A) ... else if (set & B) ...` is a scan for the first option
the set has (`firstMatch`), and a scan over bits whose union covers a non-empty
set finds one (`firstMatch_isSome`).
-/

namespace OctetFields

/-- `value` has no bit outside `mask`. -/
def Fits (mask value : UInt8) : Prop := value &&& ~~~mask = 0

instance (mask value : UInt8) : Decidable (Fits mask value) :=
  inferInstanceAs (Decidable (value &&& ~~~mask = 0))

/-- The union of some bits. -/
def union (bits : List UInt8) : UInt8 := bits.foldr (· ||| ·) 0

@[simp] theorem union_nil : union [] = 0 := rfl

@[simp] theorem union_cons (bit : UInt8) (bits : List UInt8) :
    union (bit :: bits) = bit ||| union bits := rfl

theorem and_or_distrib_right (x y z : UInt8) : (x ||| y) &&& z = x &&& z ||| y &&& z :=
  UInt8.toBitVec_inj.mp BitVec.and_or_distrib_right

theorem and_or_distrib_left (x y z : UInt8) : x &&& (y ||| z) = x &&& y ||| x &&& z :=
  UInt8.toBitVec_inj.mp BitVec.and_or_distrib_left

/-- A value that fits a mask passes the mask unchanged. -/
theorem and_mask_of_fits {mask value : UInt8} (fits : Fits mask value) : value &&& mask = value :=
  calc value &&& mask = value &&& mask ||| value &&& ~~~mask := by rw [fits, UInt8.or_zero]
    _ = value &&& (mask ||| ~~~mask) := (and_or_distrib_left value mask (~~~mask)).symm
    _ = value := by rw [UInt8.or_not_self, UInt8.and_neg_one]

/-- A value that fits one mask has no bit in a mask disjoint from it. -/
theorem and_eq_zero_of_fits {mask other value : UInt8} (fits : Fits mask value)
    (disjoint : mask &&& other = 0) : value &&& other = 0 := by
  rw [← and_mask_of_fits fits, UInt8.and_assoc, disjoint, UInt8.and_zero]

/-- An octet masked with a mask fits it. -/
theorem fits_and_mask (value mask : UInt8) : Fits mask (value &&& mask) := by
  unfold Fits
  rw [UInt8.and_assoc, UInt8.and_not_self, UInt8.and_zero]

/-- What fits a mask still fits it after more bits are cleared. -/
theorem fits_and_of_fits {mask value : UInt8} (fits : Fits mask value) (other : UInt8) :
    Fits mask (value &&& other) := by
  unfold Fits at fits ⊢
  rw [UInt8.and_assoc, UInt8.and_comm other, ← UInt8.and_assoc, fits, UInt8.zero_and]

/-- A value whose bits are all in `x` and in `y` meets `z` only if both do. -/
theorem and_ne_zero_of_and_and_ne_zero {x y z : UInt8} (meets : x &&& y &&& z ≠ 0) :
    x &&& z ≠ 0 ∧ y &&& z ≠ 0 := by
  constructor
  · intro disjoint
    apply meets
    rw [UInt8.and_assoc, UInt8.and_comm y, ← UInt8.and_assoc, disjoint, UInt8.zero_and]
  · intro disjoint
    apply meets
    rw [UInt8.and_assoc, disjoint, UInt8.and_zero]

/-- A value that fits the union of a bit and some more bits, and has no bit in
common with the first, fits the union of the rest. -/
theorem fits_of_fits_or {bit rest value : UInt8} (fits : Fits (bit ||| rest) value)
    (missed : value &&& bit = 0) : Fits rest value := by
  have whole : value = value &&& rest := by
    calc value = value &&& (bit ||| rest) := (and_mask_of_fits fits).symm
      _ = value &&& bit ||| value &&& rest := and_or_distrib_left value bit rest
      _ = value &&& rest := by rw [missed, UInt8.zero_or]
  unfold Fits
  rw [whole, UInt8.and_assoc, UInt8.and_not_self, UInt8.and_zero]

/-- A non-empty value that fits the union of some bits has one of them. -/
theorem exists_and_ne_zero_of_fits_union (bits : List UInt8) (value : UInt8)
    (fits : Fits (union bits) value) (nonEmpty : value ≠ 0) : ∃ bit ∈ bits, value &&& bit ≠ 0 := by
  induction bits with
  | nil =>
    apply absurd _ nonEmpty
    rw [← and_mask_of_fits fits, union_nil, UInt8.and_zero]
  | cons bit rest inductionHypothesis =>
    by_cases missed : value &&& bit = 0
    · obtain ⟨found, member, meets⟩ := inductionHypothesis (fits_of_fits_or fits missed)
      exact ⟨found, List.mem_cons_of_mem bit member, meets⟩
    · exact ⟨bit, List.mem_cons_self, missed⟩

/-- The first candidate, in order, whose bit `available` has. -/
def firstMatch {α : Type} (bit : α → UInt8) (candidates : List α) (available : UInt8) :
    Option α :=
  candidates.find? fun candidate => available &&& bit candidate != 0

section Scan

variable {α : Type} {bit : α → UInt8} {candidates : List α} {available : UInt8}

theorem firstMatch_some {found : α} (matched : firstMatch bit candidates available = some found) :
    found ∈ candidates ∧ available &&& bit found ≠ 0 := by
  refine ⟨List.mem_of_find?_eq_some matched, ?_⟩
  simpa using List.find?_some matched

/-- A scan over one candidate finds only that candidate. -/
theorem firstMatch_singleton {candidate found : α}
    (matched : firstMatch bit [candidate] available = some found) :
    found = candidate ∧ available &&& bit found ≠ 0 := by
  obtain ⟨member, meets⟩ := firstMatch_some matched
  exact ⟨List.mem_singleton.mp member, meets⟩

theorem firstMatch_eq_none :
    firstMatch bit candidates available = none ↔
      ∀ candidate ∈ candidates, available &&& bit candidate = 0 := by
  simp [firstMatch, List.find?_eq_none]

/-- A scan over bits whose union covers a non-empty value finds one. -/
theorem firstMatch_isSome (fits : Fits (union (candidates.map bit)) available)
    (nonEmpty : available ≠ 0) : (firstMatch bit candidates available).isSome := by
  obtain ⟨covering, member, meets⟩ := exists_and_ne_zero_of_fits_union _ available fits nonEmpty
  obtain ⟨candidate, present, rfl⟩ := List.mem_map.mp member
  rw [Option.isSome_iff_ne_none]
  intro missed
  exact meets (firstMatch_eq_none.mp missed candidate present)

end Scan

end OctetFields
