import Mathlib

/-!
# Fixed-width integers as octet lists

A `width`-octet integer goes onto a byte stream least significant octet first
(`leOctets`) or most significant octet first (`beOctets`), and comes back with
`leValue` and `beValue`. The round-trip laws `leValue_leOctets` and
`beValue_beOctets` return the value modulo `256 ^ width`, and
`leOctets_leValue` says that a list of octets is the encoding of its value.

`byteSwap` reverses the octets of a `width`-octet integer. Writing the swapped
value least significant octet first writes the value itself most significant
octet first (`leOctets_byteSwap`): this is how a little-endian appender puts a
big-endian field on the wire.
-/

namespace Octets

/-- The `width` low octets of `value`, least significant first; higher octets
are dropped. -/
def leOctets : Nat → Nat → List UInt8
  | 0, _ => []
  | width + 1, value => UInt8.ofNat value :: leOctets width (value / 256)

/-- The integer whose octets, least significant first, are the given list. -/
def leValue : List UInt8 → Nat
  | [] => 0
  | octet :: rest => octet.toNat + 256 * leValue rest

/-- The `width` low octets of `value`, most significant first. -/
def beOctets (width value : Nat) : List UInt8 :=
  (leOctets width value).reverse

/-- The integer whose octets, most significant first, are the given list. -/
def beValue (octets : List UInt8) : Nat :=
  leValue octets.reverse

/-- The `width`-octet integer with the octets of `value` in reverse order. -/
def byteSwap (width value : Nat) : Nat :=
  beValue (leOctets width value)

@[simp] theorem leOctets_zero (value : Nat) : leOctets 0 value = [] := rfl

@[simp] theorem leOctets_succ (width value : Nat) :
    leOctets (width + 1) value = UInt8.ofNat value :: leOctets width (value / 256) := rfl

@[simp] theorem leValue_nil : leValue [] = 0 := rfl

@[simp] theorem leValue_cons (octet : UInt8) (rest : List UInt8) :
    leValue (octet :: rest) = octet.toNat + 256 * leValue rest := rfl

/-- An octet holds its value modulo `256`. -/
theorem toNat_ofNat_octet (value : Nat) : (UInt8.ofNat value).toNat = value % 256 :=
  UInt8.toNat_ofNat'

@[simp] theorem length_leOctets (width value : Nat) : (leOctets width value).length = width := by
  induction width generalizing value with
  | zero => rfl
  | succ width ih => rw [leOctets_succ, List.length_cons, ih]

@[simp] theorem length_beOctets (width value : Nat) : (beOctets width value).length = width := by
  rw [beOctets, List.length_reverse, length_leOctets]

/-- Octets read back as the value modulo `256 ^ width`. -/
theorem leValue_leOctets (width value : Nat) :
    leValue (leOctets width value) = value % 256 ^ width := by
  induction width generalizing value with
  | zero => rw [leOctets_zero, leValue_nil, Nat.pow_zero, Nat.mod_one]
  | succ width ih =>
    have split : value % 256 ^ (width + 1) = value % 256 + 256 * (value / 256 % 256 ^ width) := by
      rw [Nat.pow_succ', Nat.mod_mul]
    rw [leOctets_succ, leValue_cons, ih, toNat_ofNat_octet, split]

/-- A list of octets holds a value below `256` to the power of its length. -/
theorem leValue_lt (octets : List UInt8) : leValue octets < 256 ^ octets.length := by
  induction octets with
  | nil => exact Nat.one_pos
  | cons octet rest ih =>
    have small : octet.toNat < 256 := octet.toNat_lt
    rw [leValue_cons, List.length_cons, Nat.pow_succ']
    omega

/-- A list of octets is the encoding of its own value. -/
theorem leOctets_leValue (octets : List UInt8) : leOctets octets.length (leValue octets) = octets := by
  induction octets with
  | nil => rfl
  | cons octet rest ih =>
    have small : octet.toNat < 256 := octet.toNat_lt
    rw [List.length_cons, leOctets_succ, leValue_cons]
    congr 1
    · apply UInt8.toNat_inj.mp
      rw [toNat_ofNat_octet, Nat.add_mul_mod_self_left, Nat.mod_eq_of_lt small]
    · rw [Nat.add_mul_div_left _ _ (by decide), Nat.div_eq_of_lt small, Nat.zero_add, ih]

/-- Octets read most significant first give back the value modulo `256 ^ width`. -/
theorem beValue_beOctets (width value : Nat) :
    beValue (beOctets width value) = value % 256 ^ width := by
  rw [beValue, beOctets, List.reverse_reverse, leValue_leOctets]

/-- A swapped value still fits in its width. -/
theorem byteSwap_lt (width value : Nat) : byteSwap width value < 256 ^ width := by
  have fits := leValue_lt (leOctets width value).reverse
  rwa [List.length_reverse, length_leOctets] at fits

/-- Writing a swapped value least significant octet first writes the value most
significant octet first. -/
theorem leOctets_byteSwap (width value : Nat) :
    leOctets width (byteSwap width value) = beOctets width value := by
  have reversed := leOctets_leValue (leOctets width value).reverse
  rwa [List.length_reverse, length_leOctets] at reversed

/-- Octet `index` of the little-endian encoding is the value moved down
`8 * index` places. -/
theorem leOctets_eq_map_range (width value : Nat) :
    leOctets width value = (List.range width).map fun index => UInt8.ofNat (value >>> (index * 8)) := by
  induction width generalizing value with
  | zero => rfl
  | succ width inductionHypothesis =>
    rw [leOctets_succ, inductionHypothesis, List.range_succ_eq_map, List.map_cons, List.map_map,
      Nat.zero_mul, Nat.shiftRight_zero]
    congr 1
    apply List.map_congr_left
    intro index _
    have moved : value >>> ((index + 1) * 8) = (value / 256) >>> (index * 8) := by
      rw [Nat.succ_mul, Nat.add_comm, Nat.shiftRight_add, Nat.shiftRight_eq_div_pow value 8]
    rw [Function.comp_apply, moved]

/-- Octet `index` of the big-endian encoding is the value moved down
`8 * (width - index - 1)` places. -/
theorem beOctets_eq_map_range (width value : Nat) :
    beOctets width value =
      (List.range width).map fun index => UInt8.ofNat (value >>> ((width - index - 1) * 8)) := by
  apply List.ext_getElem
  · rw [length_beOctets, List.length_map, List.length_range]
  · intro index inside _
    simp only [beOctets, List.getElem_reverse, leOctets_eq_map_range, List.getElem_map,
      List.getElem_range, List.length_map, List.length_range]
    rw [Nat.sub_right_comm]

end Octets
