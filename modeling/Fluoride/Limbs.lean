import Mathlib.Data.Nat.Bitwise

/-!
# Multiprecision numbers in 32-bit words

A number is a list of 32-bit words, least significant first (`value`). C code
on such numbers detects the wrap of a word operation by a comparison it then
uses as a number (`below x y` is `(x < y)` read as `0` or `1`). The lemmas
here say what one word step of that code computes, over the numbers: the
wrapped sum and the carry its comparison finds (`toNat_add_below`), the
wrapped difference and its borrow (`toNat_sub_above`), the two words of a
64-bit product (`mulHigh_mul`), and a shift by one place (`toNat_shiftLeft_or`).
Loops over the words are proved from them by induction on the list, with
`value_cons` and `value_append`.
-/

namespace Limbs

/-- The number little-endian 32-bit words stand for. -/
def value : List UInt32 → Nat
  | [] => 0
  | word :: words => word.toNat + 2 ^ 32 * value words

/-- A comparison as C hands it to arithmetic: `1` when it holds, else `0`. -/
def below (x y : UInt32) : UInt32 :=
  if x < y then 1 else 0

/-- The high word of the 64-bit product of two words. -/
def mulHigh (x y : UInt32) : UInt32 :=
  ((x.toUInt64 * y.toUInt64) >>> 32).toUInt32

@[simp] theorem value_nil : value [] = 0 := rfl

@[simp] theorem value_cons (word : UInt32) (words : List UInt32) :
    value (word :: words) = word.toNat + 2 ^ 32 * value words := rfl

theorem value_append (first second : List UInt32) :
    value (first ++ second) = value first + 2 ^ (32 * first.length) * value second := by
  induction first with
  | nil => rw [List.nil_append, value_nil, List.length_nil, Nat.mul_zero, Nat.pow_zero, Nat.one_mul,
      Nat.zero_add]
  | cons word words inductionHypothesis =>
    rw [List.cons_append, value_cons, value_cons, inductionHypothesis, List.length_cons, Nat.mul_succ,
      Nat.pow_add, Nat.mul_add, Nat.add_assoc, Nat.mul_comm (2 ^ (32 * words.length)) (2 ^ 32),
      Nat.mul_assoc]

/-- Words stand for a number below the power their count allows. -/
theorem value_lt (words : List UInt32) : value words < 2 ^ (32 * words.length) := by
  induction words with
  | nil => exact Nat.one_pos
  | cons word words inductionHypothesis =>
    have low := word.toNat_lt
    have high : value words + 1 ≤ 2 ^ (32 * words.length) := inductionHypothesis
    have scaled := Nat.mul_le_mul_left (2 ^ 32) high
    rw [value_cons, List.length_cons, Nat.mul_succ, Nat.pow_add, Nat.mul_comm (2 ^ (32 * words.length))]
    rw [Nat.mul_add, Nat.mul_one] at scaled
    omega

@[simp] theorem value_replicate_zero (count : Nat) : value (List.replicate count 0) = 0 := by
  induction count with
  | zero => rfl
  | succ count inductionHypothesis =>
    rw [List.replicate_succ, value_cons, inductionHypothesis]
    rfl

theorem toNat_below (x y : UInt32) : (below x y).toNat = if x.toNat < y.toNat then 1 else 0 := by
  unfold below
  by_cases less : x < y
  · rw [if_pos less, if_pos (UInt32.lt_iff_toNat_lt.mp less)]
    rfl
  · rw [if_neg less, if_neg (fun toNatLess => less (UInt32.lt_iff_toNat_lt.mpr toNatLess))]
    rfl

theorem toNat_below_le (x y : UInt32) : (below x y).toNat ≤ 1 := by
  rw [toNat_below]
  split <;> omega

/-- **The carry of a sum.** The sum wraps exactly when it ends below an addend. -/
theorem toNat_add_below (x y : UInt32) :
    (x + y).toNat + 2 ^ 32 * (below (x + y) y).toNat = x.toNat + y.toNat := by
  have xFits := x.toNat_lt
  have yFits := y.toNat_lt
  rw [toNat_below, UInt32.toNat_add]
  by_cases fits : x.toNat + y.toNat < 2 ^ 32
  · rw [Nat.mod_eq_of_lt fits, if_neg (by omega)]
    omega
  · have wrapped : (x.toNat + y.toNat) % 2 ^ 32 = x.toNat + y.toNat - 2 ^ 32 := by
      rw [Nat.mod_eq_sub_mod (Nat.le_of_not_lt fits), Nat.mod_eq_of_lt (by omega)]
    rw [wrapped, if_pos (by omega)]
    omega

/-- **The borrow of a difference.** The difference wraps exactly when it ends
above the number subtracted from. -/
theorem toNat_sub_above (x y : UInt32) :
    (x - y).toNat + y.toNat = x.toNat + 2 ^ 32 * (below x (x - y)).toNat := by
  have xFits := x.toNat_lt
  have yFits := y.toNat_lt
  rw [toNat_below, UInt32.toNat_sub]
  by_cases fits : y.toNat ≤ x.toNat
  · have exact : (2 ^ 32 - y.toNat + x.toNat) % 2 ^ 32 = x.toNat - y.toNat := by
      rw [Nat.mod_eq_sub_mod (by omega), Nat.mod_eq_of_lt (by omega)]
      omega
    rw [exact, if_neg (by omega)]
    omega
  · rw [Nat.mod_eq_of_lt (by omega), if_pos (by omega)]
    omega

/-- A 64-bit product is its high word and its wrapped low word. -/
theorem mulHigh_mul (x y : UInt32) :
    2 ^ 32 * (mulHigh x y).toNat + (x * y).toNat = x.toNat * y.toNat := by
  have xFits := x.toNat_lt
  have yFits := y.toNat_lt
  have productFits : x.toNat * y.toNat < 2 ^ 64 := by
    calc x.toNat * y.toNat < 2 ^ 32 * 2 ^ 32 := Nat.mul_lt_mul'' xFits yFits
      _ = 2 ^ 64 := by rw [← Nat.pow_add]
  have high : (mulHigh x y).toNat = x.toNat * y.toNat / 2 ^ 32 := by
    rw [mulHigh, UInt64.toNat_toUInt32, UInt64.toNat_shiftRight, UInt64.toNat_mul,
      UInt32.toNat_toUInt64, UInt32.toNat_toUInt64, Nat.mod_eq_of_lt productFits,
      Nat.shiftRight_eq_div_pow]
    apply Nat.mod_eq_of_lt
    exact Nat.div_lt_of_lt_mul (by rw [← Nat.pow_add]; exact productFits)
  rw [high, UInt32.toNat_mul, Nat.div_add_mod]

/-- **A shift by one place.** The word moves up a bit, takes the bit brought in
from below, and gives its top bit to the word above. -/
theorem toNat_shiftLeft_or (x carrier : UInt32) (small : carrier.toNat ≤ 1) :
    (x <<< 1 ||| carrier).toNat + 2 ^ 32 * (x >>> 31).toNat = 2 * x.toNat + carrier.toNat := by
  have xFits := x.toNat_lt
  have shifted : (x <<< 1).toNat = 2 * x.toNat % 2 ^ 32 := by
    rw [UInt32.toNat_shiftLeft, Nat.shiftLeft_eq]
    rw [Nat.mul_comm]
    rfl
  have even : (x <<< 1).toNat = (2 * x.toNat % 2 ^ 32 / 2) <<< 1 := by
    rw [shifted, Nat.shiftLeft_eq, Nat.pow_one]
    omega
  have joined : (x <<< 1 ||| carrier).toNat = (x <<< 1).toNat + carrier.toNat := by
    rw [UInt32.toNat_or, even, ← Nat.shiftLeft_add_eq_or_of_lt (by rw [Nat.pow_one]; omega)]
  have top : (x >>> 31).toNat = x.toNat / 2 ^ 31 := by
    rw [UInt32.toNat_shiftRight, Nat.shiftRight_eq_div_pow]
    rfl
  rw [joined, shifted, top]
  omega

/-- Two comparisons that never hold together add up under `|||`. -/
theorem toNat_or_of_le_one (x y : UInt32) (xSmall : x.toNat ≤ 1) (notBoth : x.toNat + y.toNat ≤ 1) :
    (x ||| y).toNat = x.toNat + y.toNat := by
  rw [UInt32.toNat_or]
  rcases Nat.le_one_iff_eq_zero_or_eq_one.mp xSmall with zero | one
  · rw [zero, Nat.zero_or, Nat.zero_add]
  · have yZero : y.toNat = 0 := by omega
    rw [one, yZero, Nat.or_zero]

/-- Words of one count are equal when they stand for the same number. -/
theorem eq_of_value_eq (first second : List UInt32) (sameLength : first.length = second.length)
    (sameValue : value first = value second) : first = second := by
  induction first generalizing second with
  | nil => exact (List.eq_nil_of_length_eq_zero sameLength.symm).symm
  | cons word words inductionHypothesis =>
    cases second with
    | nil => exact absurd sameLength (by rw [List.length_cons, List.length_nil]; omega)
    | cons other others =>
      rw [value_cons, value_cons] at sameValue
      have lowWord := word.toNat_lt
      have lowOther := other.toNat_lt
      have sameLow : word.toNat = other.toNat := by omega
      have sameHigh : value words = value others := by omega
      rw [UInt32.toNat_inj.mp sameLow,
        inductionHypothesis others (Nat.succ_injective sameLength) sameHigh]

end Limbs
