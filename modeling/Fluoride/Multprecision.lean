import Fluoride.Limbs
import Mathlib.Tactic.Ring

/-!
# P-256 field arithmetic

The multiprecision arithmetic of LE Secure Connections pairing
(`stack/smp/p_256_multprecision.cc`), on numbers of `keyLength` 32-bit words,
least significant first: the carry chains `multiprecision_add`,
`multiprecision_sub` and `multiprecision_lshift`, `multiprecision_compare`,
the schoolbook `multiprecision_mult`, the modular `multiprecision_add_mod`,
`multiprecision_sub_mod` and `multiprecision_lshift_mod`, and the reduction
modulo `p = 2^256 - 2^224 + 2^192 + 2^96 - 1` of a 16-word product,
`multiprecision_fast_mod_P256`, behind `multiprecision_mersenns_mult_mod`.

The carry chains compute the sum, the difference and the double with the carry
or borrow out (`multiprecisionAdd_value`, `multiprecisionSub_value`,
`multiprecisionLshift_value`), the comparison orders the numbers
(`multiprecisionCompare_nonneg`), and the product is exact whatever the buffer
held (`multiprecisionMult_value`). For any modulus and operands below it, the
modular operations give the residue (`multiprecisionAddMod_value`,
`multiprecisionSubMod_value`, `multiprecisionLshiftMod_value`).

The reduction is not right for every product: where the running carry is
negative and larger than the next word, the code carries the borrow as `+1`
instead of `-1`, and `2^176 · 2^176` is reduced to the wrong residue
(`fastModP256_wrongResidue`).
-/

namespace Fluoride.Multprecision

open Limbs

/-! ### The carry chains -/

/-- The loop of `multiprecision_add` from its carry: the words `c[i]` and the
carry out. -/
def addLoop (carrier : UInt32) : List UInt32 → List UInt32 → List UInt32 × UInt32
  | a :: as, b :: bs =>
    let temp := a + carrier
    let carrier := below temp carrier
    let temp := temp + b
    let carrier := carrier ||| below temp b
    let rest := addLoop carrier as bs
    (temp :: rest.1, rest.2)
  | _, _ => ([], carrier)

/-- `multiprecision_add(c, a, b, keyLength)`: `c` and the carry it returns. -/
def multiprecisionAdd (a b : List UInt32) : List UInt32 × UInt32 :=
  addLoop 0 a b

/-- The loop of `multiprecision_sub` from its borrow. -/
def subLoop (borrow : UInt32) : List UInt32 → List UInt32 → List UInt32 × UInt32
  | a :: as, b :: bs =>
    let temp := a - borrow
    -- `borrow = (temp > a[i])`
    let borrow := below a temp
    let c := temp - b
    -- `borrow |= (c[i] > temp)`
    let borrow := borrow ||| below temp c
    let rest := subLoop borrow as bs
    (c :: rest.1, rest.2)
  | _, _ => ([], borrow)

/-- `multiprecision_sub(c, a, b, keyLength)`: `c = a - b` and the borrow it
returns. -/
def multiprecisionSub (a b : List UInt32) : List UInt32 × UInt32 :=
  subLoop 0 a b

/-- `multiprecision_compare`: its loop runs from the top word down, and the
first word that differs decides. -/
def multiprecisionCompare : List UInt32 → List UInt32 → Int
  | a :: as, b :: bs =>
    let higher := multiprecisionCompare as bs
    if higher ≠ 0 then higher else if a > b then 1 else if a < b then -1 else 0
  | _, _ => 0

/-- The loop of `multiprecision_lshift` from the bit brought in. -/
def lshiftLoop (carrier : UInt32) : List UInt32 → List UInt32 × UInt32
  | [] => ([], carrier)
  | temp :: rest =>
    let shifted := lshiftLoop (temp >>> 31) rest
    ((temp <<< 1 ||| carrier) :: shifted.1, shifted.2)

/-- `multiprecision_lshift(c, a, keyLength)`: `c = a << 1` and the bit shifted
out. -/
def multiprecisionLshift (a : List UInt32) : List UInt32 × UInt32 :=
  lshiftLoop 0 a

/-- The weight of the words above the first `count + 1`, split off a power. -/
theorem pow_words_succ (count carry : Nat) :
    2 ^ (32 * (count + 1)) * carry = 2 ^ 32 * (2 ^ (32 * count) * carry) := by
  rw [Nat.mul_succ, Nat.pow_add, Nat.mul_comm (2 ^ (32 * count)) (2 ^ 32), Nat.mul_assoc]

/-- **The carry chain of `multiprecision_add`**: the words and the carry out
stand for the sum, and the carry stays a bit. -/
theorem addLoop_value (carrier : UInt32) (as bs : List UInt32) (sameLength : as.length = bs.length)
    (small : carrier.toNat ≤ 1) :
    value (addLoop carrier as bs).1 + 2 ^ (32 * as.length) * (addLoop carrier as bs).2.toNat =
        value as + value bs + carrier.toNat ∧
      (addLoop carrier as bs).2.toNat ≤ 1 := by
  induction as generalizing carrier bs with
  | nil =>
    rw [List.length_nil] at sameLength
    rw [List.eq_nil_of_length_eq_zero sameLength.symm]
    exact ⟨by simp [addLoop], small⟩
  | cons a as inductionHypothesis =>
    cases bs with
    | nil => exact absurd sameLength (by simp)
    | cons b bs =>
      -- the two additions of the word and the carries their comparisons find
      have first := toNat_add_below a carrier
      have second := toNat_add_below (a + carrier) b
      have firstSmall := toNat_below_le (a + carrier) carrier
      have secondSmall := toNat_below_le (a + carrier + b) b
      have aFits := a.toNat_lt
      have bFits := b.toNat_lt
      have joined := toNat_or_of_le_one (below (a + carrier) carrier) (below (a + carrier + b) b)
        firstSmall (by omega)
      obtain ⟨rest, restSmall⟩ := inductionHypothesis
        (below (a + carrier) carrier ||| below (a + carrier + b) b) bs
        (Nat.succ_injective sameLength) (by omega)
      simp only [addLoop, value_cons, List.length_cons]
      rw [pow_words_succ]
      exact ⟨by omega, restSmall⟩

/-- `multiprecision_add` returns the sum, its overflow in the carry. -/
theorem multiprecisionAdd_value (a b : List UInt32) (sameLength : a.length = b.length) :
    value (multiprecisionAdd a b).1 + 2 ^ (32 * a.length) * (multiprecisionAdd a b).2.toNat =
      value a + value b :=
  (addLoop_value 0 a b sameLength (by decide)).1

theorem multiprecisionAdd_carry_le (a b : List UInt32) (sameLength : a.length = b.length) :
    (multiprecisionAdd a b).2.toNat ≤ 1 :=
  (addLoop_value 0 a b sameLength (by decide)).2

/-- **The borrow chain of `multiprecision_sub`**: the words and the borrow out
stand for the difference. -/
theorem subLoop_value (borrow : UInt32) (as bs : List UInt32) (sameLength : as.length = bs.length)
    (small : borrow.toNat ≤ 1) :
    value (subLoop borrow as bs).1 + value bs + borrow.toNat =
        value as + 2 ^ (32 * as.length) * (subLoop borrow as bs).2.toNat ∧
      (subLoop borrow as bs).2.toNat ≤ 1 := by
  induction as generalizing borrow bs with
  | nil =>
    rw [List.length_nil] at sameLength
    rw [List.eq_nil_of_length_eq_zero sameLength.symm]
    exact ⟨by simp [subLoop], small⟩
  | cons a as inductionHypothesis =>
    cases bs with
    | nil => exact absurd sameLength (by simp)
    | cons b bs =>
      have first := toNat_sub_above a borrow
      have second := toNat_sub_above (a - borrow) b
      have firstSmall := toNat_below_le a (a - borrow)
      have secondSmall := toNat_below_le (a - borrow) (a - borrow - b)
      have aFits := a.toNat_lt
      have bFits := b.toNat_lt
      have differenceFits := (a - borrow - b).toNat_lt
      have joined := toNat_or_of_le_one (below a (a - borrow)) (below (a - borrow) (a - borrow - b))
        firstSmall (by omega)
      obtain ⟨rest, restSmall⟩ := inductionHypothesis
        (below a (a - borrow) ||| below (a - borrow) (a - borrow - b)) bs
        (Nat.succ_injective sameLength) (by omega)
      simp only [subLoop, value_cons, List.length_cons]
      rw [pow_words_succ]
      exact ⟨by omega, restSmall⟩

/-- `multiprecision_sub` returns the difference, wrapped, and the borrow. -/
theorem multiprecisionSub_value (a b : List UInt32) (sameLength : a.length = b.length) :
    value (multiprecisionSub a b).1 + value b =
      value a + 2 ^ (32 * a.length) * (multiprecisionSub a b).2.toNat := by
  have chain := (subLoop_value 0 a b sameLength (by decide)).1
  rw [UInt32.toNat_zero, Nat.add_zero] at chain
  exact chain

theorem multiprecisionSub_borrow_le (a b : List UInt32) (sameLength : a.length = b.length) :
    (multiprecisionSub a b).2.toNat ≤ 1 :=
  (subLoop_value 0 a b sameLength (by decide)).2

/-- **`multiprecision_compare` orders the numbers.** -/
theorem multiprecisionCompare_eq (as bs : List UInt32) (sameLength : as.length = bs.length) :
    multiprecisionCompare as bs =
      if value as < value bs then -1 else if value bs < value as then 1 else 0 := by
  induction as generalizing bs with
  | nil =>
    rw [List.length_nil] at sameLength
    rw [List.eq_nil_of_length_eq_zero sameLength.symm]
    rfl
  | cons a as inductionHypothesis =>
    cases bs with
    | nil => exact absurd sameLength (by simp)
    | cons b bs =>
      have aFits := a.toNat_lt
      have bFits := b.toNat_lt
      rw [multiprecisionCompare, inductionHypothesis bs (Nat.succ_injective sameLength), value_cons,
        value_cons]
      simp only [gt_iff_lt, UInt32.lt_iff_toNat_lt]
      -- the words above decide unless they are equal
      split_ifs <;> omega

theorem multiprecisionCompare_nonneg (a b : List UInt32) (sameLength : a.length = b.length) :
    0 ≤ multiprecisionCompare a b ↔ value b ≤ value a := by
  rw [multiprecisionCompare_eq a b sameLength]
  split_ifs <;> omega

/-- **The shift of `multiprecision_lshift`**: the words and the bit shifted out
stand for the double. -/
theorem lshiftLoop_value (carrier : UInt32) (as : List UInt32) (small : carrier.toNat ≤ 1) :
    value (lshiftLoop carrier as).1 + 2 ^ (32 * as.length) * (lshiftLoop carrier as).2.toNat =
        2 * value as + carrier.toNat ∧
      (lshiftLoop carrier as).2.toNat ≤ 1 := by
  induction as generalizing carrier with
  | nil => exact ⟨by simp [lshiftLoop], small⟩
  | cons temp rest inductionHypothesis =>
    have word := toNat_shiftLeft_or temp carrier small
    have tempFits := temp.toNat_lt
    have shiftedFits := (temp <<< 1 ||| carrier).toNat_lt
    obtain ⟨restValue, restSmall⟩ := inductionHypothesis (temp >>> 31) (by omega)
    simp only [lshiftLoop, value_cons, List.length_cons]
    rw [pow_words_succ]
    exact ⟨by omega, restSmall⟩

theorem multiprecisionLshift_value (a : List UInt32) :
    value (multiprecisionLshift a).1 + 2 ^ (32 * a.length) * (multiprecisionLshift a).2.toNat =
      2 * value a := by
  have chain := (lshiftLoop_value 0 a (by decide)).1
  rw [UInt32.toNat_zero, Nat.add_zero] at chain
  exact chain

theorem length_addLoop (carrier : UInt32) (as bs : List UInt32) (sameLength : as.length = bs.length) :
    (addLoop carrier as bs).1.length = as.length := by
  induction as generalizing carrier bs with
  | nil => rfl
  | cons a as inductionHypothesis =>
    cases bs with
    | nil => exact absurd sameLength (by simp)
    | cons b bs =>
      simp only [addLoop, List.length_cons]
      rw [inductionHypothesis _ bs (Nat.succ_injective sameLength)]

theorem length_subLoop (borrow : UInt32) (as bs : List UInt32) (sameLength : as.length = bs.length) :
    (subLoop borrow as bs).1.length = as.length := by
  induction as generalizing borrow bs with
  | nil => rfl
  | cons a as inductionHypothesis =>
    cases bs with
    | nil => exact absurd sameLength (by simp)
    | cons b bs =>
      simp only [subLoop, List.length_cons]
      rw [inductionHypothesis _ bs (Nat.succ_injective sameLength)]

theorem length_lshiftLoop (carrier : UInt32) (as : List UInt32) :
    (lshiftLoop carrier as).1.length = as.length := by
  induction as generalizing carrier with
  | nil => rfl
  | cons temp rest inductionHypothesis =>
    simp only [lshiftLoop, List.length_cons]
    rw [inductionHypothesis]

theorem length_multiprecisionAdd (a b : List UInt32) (sameLength : a.length = b.length) :
    (multiprecisionAdd a b).1.length = a.length :=
  length_addLoop 0 a b sameLength

theorem length_multiprecisionSub (a b : List UInt32) (sameLength : a.length = b.length) :
    (multiprecisionSub a b).1.length = a.length :=
  length_subLoop 0 a b sameLength

theorem length_multiprecisionLshift (a : List UInt32) : (multiprecisionLshift a).1.length = a.length :=
  length_lshiftLoop 0 a

theorem multiprecisionLshift_carry_le (a : List UInt32) : (multiprecisionLshift a).2.toNat ≤ 1 :=
  (lshiftLoop_value 0 a (by decide)).2

/-! ### Modular operations

`keyLength` selects the modulus, `curve_p256.p` for eight words; the
operations are modelled for the modulus they are given. -/

/-- `curve_p256.p`, as `p_256_init_curve` sets it. -/
def curveP256P : List UInt32 :=
  [0xFFFFFFFF, 0xFFFFFFFF, 0xFFFFFFFF, 0x0, 0x0, 0x0, 0x00000001, 0xFFFFFFFF]

/-- `multiprecision_add_mod(c, a, b, keyLength)` with the modulus `modp`. -/
def multiprecisionAddMod (modp a b : List UInt32) : List UInt32 :=
  let (c, carrier) := multiprecisionAdd a b
  if carrier ≠ 0 then (multiprecisionSub c modp).1
  else if multiprecisionCompare c modp ≥ 0 then (multiprecisionSub c modp).1
  else c

/-- `multiprecision_sub_mod(c, a, b, keyLength)` with the modulus `modp`. -/
def multiprecisionSubMod (modp a b : List UInt32) : List UInt32 :=
  let (c, borrow) := multiprecisionSub a b
  if borrow ≠ 0 then (multiprecisionAdd c modp).1 else c

/-- `multiprecision_lshift_mod(c, a, keyLength)` with the modulus `modp`. -/
def multiprecisionLshiftMod (modp a : List UInt32) : List UInt32 :=
  let (c, carrier) := multiprecisionLshift a
  if carrier ≠ 0 then (multiprecisionSub c modp).1
  else if multiprecisionCompare c modp ≥ 0 then (multiprecisionSub c modp).1
  else c

/-- A carry or borrow weighs nothing or its full weight. -/
theorem mul_bit_cases (weight bit : Nat) (small : bit ≤ 1) : weight * bit = 0 ∨ weight * bit = weight := by
  rcases Nat.le_one_iff_eq_zero_or_eq_one.mp small with zero | one
  · left
    rw [zero, Nat.mul_zero]
  · right
    rw [one, Nat.mul_one]

/-- A number between the modulus and its double reduces by one subtraction. -/
theorem mod_of_lt_double (x modulus : Nat) (low : modulus ≤ x) (high : x < 2 * modulus) :
    x % modulus = x - modulus := by
  rw [Nat.mod_eq_sub_mod low, Nat.mod_eq_of_lt (by omega)]

section Modulus

/-! The modular operations, for any modulus of the operands' word count and
operands below it. -/

variable (modp a : List UInt32) (modLength : modp.length = a.length)
  (aBelow : value a < value modp)

include modLength aBelow

/-- **`multiprecision_add_mod` gives the residue of the sum.** -/
theorem multiprecisionAddMod_value (b : List UInt32) (sameLength : a.length = b.length)
    (bBelow : value b < value modp) :
    value (multiprecisionAddMod modp a b) = (value a + value b) % value modp := by
  have sum := multiprecisionAdd_value a b sameLength
  have carrySmall := multiprecisionAdd_carry_le a b sameLength
  have sumLength := length_multiprecisionAdd a b sameLength
  have modBound := value_lt modp
  rw [modLength] at modBound
  rcases added : multiprecisionAdd a b with ⟨c, carrier⟩
  rw [added] at sum carrySmall sumLength
  dsimp only at sum carrySmall sumLength
  have cLength : c.length = a.length := sumLength
  have cBound := value_lt c
  have reduced := multiprecisionSub_value c modp (by rw [cLength, modLength])
  have reducedBound := value_lt (multiprecisionSub c modp).1
  rw [length_multiprecisionSub c modp (by rw [cLength, modLength]), cLength] at reducedBound
  rw [cLength] at cBound reduced
  have borrowSmall := multiprecisionSub_borrow_le c modp (by rw [cLength, modLength])
  have borrowCases := mul_bit_cases (2 ^ (32 * a.length)) _ borrowSmall
  have carryCases := mul_bit_cases (2 ^ (32 * a.length)) _ carrySmall
  simp only [multiprecisionAddMod, added]
  by_cases carried : carrier ≠ 0
  · -- the sum overflowed the words: one subtraction, which wraps, reduces it
    have one : carrier.toNat = 1 := by
      have nonzero : carrier.toNat ≠ 0 := fun zero => carried (UInt32.toNat_inj.mp zero)
      omega
    rw [one, Nat.mul_one] at sum
    rw [if_pos carried, mod_of_lt_double _ _ (by omega) (by omega)]
    omega
  · have zero : carrier.toNat = 0 := by rw [not_not.mp carried]; rfl
    rw [zero, Nat.mul_zero, Nat.add_zero] at sum
    rw [if_neg carried]
    by_cases atLeast : value modp ≤ value c
    · rw [if_pos ((multiprecisionCompare_nonneg c modp (by rw [cLength, modLength])).mpr atLeast),
        mod_of_lt_double _ _ (by omega) (by omega)]
      omega
    · rw [if_neg (fun nonneg => atLeast
        ((multiprecisionCompare_nonneg c modp (by rw [cLength, modLength])).mp nonneg)),
        Nat.mod_eq_of_lt (by omega)]
      omega

/-- **`multiprecision_sub_mod` gives the residue of the difference.** -/
theorem multiprecisionSubMod_value (b : List UInt32) (sameLength : a.length = b.length)
    (bBelow : value b < value modp) :
    value (multiprecisionSubMod modp a b) = (value a + value modp - value b) % value modp := by
  have difference := multiprecisionSub_value a b sameLength
  have borrowSmall := multiprecisionSub_borrow_le a b sameLength
  have differenceLength := length_multiprecisionSub a b sameLength
  rcases subtracted : multiprecisionSub a b with ⟨c, borrow⟩
  rw [subtracted] at difference borrowSmall differenceLength
  dsimp only at difference borrowSmall differenceLength
  have cLength : c.length = a.length := differenceLength
  have cBound := value_lt c
  rw [cLength] at cBound
  have restored := multiprecisionAdd_value c modp (by rw [cLength, modLength])
  have restoredBound := value_lt (multiprecisionAdd c modp).1
  rw [length_multiprecisionAdd c modp (by rw [cLength, modLength]), cLength] at restoredBound
  rw [cLength] at restored
  have carrySmall := multiprecisionAdd_carry_le c modp (by rw [cLength, modLength])
  have carryCases := mul_bit_cases (2 ^ (32 * a.length)) _ carrySmall
  have borrowCases := mul_bit_cases (2 ^ (32 * a.length)) _ borrowSmall
  have modBound := value_lt modp
  rw [modLength] at modBound
  simp only [multiprecisionSubMod, subtracted]
  by_cases borrowed : borrow ≠ 0
  · -- the difference wrapped: adding the modulus wraps it back
    have one : borrow.toNat = 1 := by
      have nonzero : borrow.toNat ≠ 0 := fun zero => borrowed (UInt32.toNat_inj.mp zero)
      omega
    rw [one, Nat.mul_one] at difference
    rw [if_pos borrowed, Nat.mod_eq_of_lt (by omega)]
    omega
  · have zero : borrow.toNat = 0 := by rw [not_not.mp borrowed]; rfl
    rw [zero, Nat.mul_zero, Nat.add_zero] at difference
    rw [if_neg borrowed, mod_of_lt_double _ _ (by omega) (by omega)]
    omega

/-- **`multiprecision_lshift_mod` gives the residue of the double.** -/
theorem multiprecisionLshiftMod_value :
    value (multiprecisionLshiftMod modp a) = 2 * value a % value modp := by
  have double := multiprecisionLshift_value a
  have carrySmall := multiprecisionLshift_carry_le a
  have doubleLength := length_multiprecisionLshift a
  have modBound := value_lt modp
  rw [modLength] at modBound
  rcases shifted : multiprecisionLshift a with ⟨c, carrier⟩
  rw [shifted] at double carrySmall doubleLength
  dsimp only at double carrySmall doubleLength
  have cLength : c.length = a.length := doubleLength
  have cBound := value_lt c
  have reduced := multiprecisionSub_value c modp (by rw [cLength, modLength])
  have reducedBound := value_lt (multiprecisionSub c modp).1
  rw [length_multiprecisionSub c modp (by rw [cLength, modLength]), cLength] at reducedBound
  rw [cLength] at cBound reduced
  have borrowSmall := multiprecisionSub_borrow_le c modp (by rw [cLength, modLength])
  have borrowCases := mul_bit_cases (2 ^ (32 * a.length)) _ borrowSmall
  simp only [multiprecisionLshiftMod, shifted]
  by_cases carried : carrier ≠ 0
  · have one : carrier.toNat = 1 := by
      have nonzero : carrier.toNat ≠ 0 := fun zero => carried (UInt32.toNat_inj.mp zero)
      omega
    rw [one, Nat.mul_one] at double
    rw [if_pos carried, mod_of_lt_double _ _ (by omega) (by omega)]
    omega
  · have zero : carrier.toNat = 0 := by rw [not_not.mp carried]; rfl
    rw [zero, Nat.mul_zero, Nat.add_zero] at double
    rw [if_neg carried]
    by_cases atLeast : value modp ≤ value c
    · rw [if_pos ((multiprecisionCompare_nonneg c modp (by rw [cLength, modLength])).mpr atLeast),
        mod_of_lt_double _ _ (by omega) (by omega)]
      omega
    · rw [if_neg (fun nonneg => atLeast
        ((multiprecisionCompare_nonneg c modp (by rw [cLength, modLength])).mp nonneg)),
        Nat.mod_eq_of_lt (by omega)]
      omega

end Modulus

/-! ### Schoolbook multiplication -/

/-- The inner loop of `multiprecision_mult` for one row: `a[i]` times the
words of `b`, added into the words `c[i + j]`; the words written and the carry
`U` left. -/
def multRow (ai : UInt32) (U : UInt32) : List UInt32 → List UInt32 → List UInt32 × UInt32
  | bj :: bs, cij :: cs =>
    let W := mulHigh ai bj
    let V := ai * bj
    let V := V + U
    let U := below V U
    let U := U + W
    let V := V + cij
    let U := U + below V cij
    let rest := multRow ai U bs cs
    (V :: rest.1, rest.2)
  | _, _ => ([], U)

/-- The outer loop of `multiprecision_mult` from row `i`: the row rewrites
`c[i]` to `c[i + keyLength - 1]` and stores its carry in `c[i + keyLength]`. -/
def multRows (b : List UInt32) : Nat → List UInt32 → List UInt32 → List UInt32
  | _, [], c => c
  | i, ai :: as, c =>
    let row := multRow ai 0 b ((c.drop i).take b.length)
    multRows b (i + 1) as (c.take i ++ row.1 ++ [row.2] ++ c.drop (i + b.length + 1))

/-- `multiprecision_mult(c, a, b, keyLength)` on a buffer `c` of
`2 * keyLength` words: the low half is cleared, the high half is whatever the
buffer held. -/
def multiprecisionMult (c a b : List UInt32) : List UInt32 :=
  multRows b 0 a (List.replicate a.length 0 ++ c.drop a.length)

theorem length_multRow (ai U : UInt32) (bs cs : List UInt32) (sameLength : bs.length = cs.length) :
    (multRow ai U bs cs).1.length = bs.length := by
  induction bs generalizing U cs with
  | nil => rfl
  | cons bj bs inductionHypothesis =>
    cases cs with
    | nil => exact absurd sameLength (by simp)
    | cons cij cs =>
      simp only [multRow, List.length_cons]
      rw [inductionHypothesis _ cs (Nat.succ_injective sameLength)]

/-- **One row of `multiprecision_mult`**: the words written and the carry left
stand for `a[i]` times `b` added to the words it rewrote. -/
theorem multRow_value (ai U : UInt32) (bs cs : List UInt32) (sameLength : bs.length = cs.length) :
    value (multRow ai U bs cs).1 + 2 ^ (32 * bs.length) * (multRow ai U bs cs).2.toNat =
      ai.toNat * value bs + value cs + U.toNat := by
  induction bs generalizing U cs with
  | nil =>
    rw [List.length_nil] at sameLength
    rw [List.eq_nil_of_length_eq_zero sameLength.symm]
    simp [multRow]
  | cons bj bs inductionHypothesis =>
    cases cs with
    | nil => exact absurd sameLength (by simp)
    | cons cij cs =>
      -- the 64-bit step `U:V = a[i] * b[j] + U + c[i + j]`
      have product := mulHigh_mul ai bj
      have withCarry := toNat_add_below (ai * bj) U
      have withWord := toNat_add_below (ai * bj + U) cij
      have firstSmall := toNat_below_le (ai * bj + U) U
      have secondSmall := toNat_below_le (ai * bj + U + cij) cij
      have aiFits := ai.toNat_lt
      have bjFits := bj.toNat_lt
      have UFits := U.toNat_lt
      have cijFits := cij.toNat_lt
      have lowFits := (ai * bj + U + cij).toNat_lt
      have productBound : ai.toNat * bj.toNat ≤ (2 ^ 32 - 1) * (2 ^ 32 - 1) :=
        Nat.mul_le_mul (by omega) (by omega)
      -- the new carry does not wrap
      have carried : (below (ai * bj + U) U + mulHigh ai bj + below (ai * bj + U + cij) cij).toNat =
          (below (ai * bj + U) U).toNat + (mulHigh ai bj).toNat +
            (below (ai * bj + U + cij) cij).toNat := by
        rw [UInt32.toNat_add, UInt32.toNat_add, Nat.mod_eq_of_lt (by omega),
          Nat.mod_eq_of_lt (by omega)]
      have rest := inductionHypothesis
        (below (ai * bj + U) U + mulHigh ai bj + below (ai * bj + U + cij) cij) cs
        (Nat.succ_injective sameLength)
      simp only [multRow, value_cons, List.length_cons]
      rw [pow_words_succ, Nat.mul_add ai.toNat, Nat.mul_left_comm ai.toNat]
      omega

/-- Each row keeps the buffer's length. -/
theorem length_multRows (b : List UInt32) (i : Nat) (as c : List UInt32)
    (sized : c.length = i + b.length + as.length) : (multRows b i as c).length = c.length := by
  induction as generalizing i c with
  | nil => rfl
  | cons ai as inductionHypothesis =>
    rw [List.length_cons] at sized
    have windowLength : ((c.drop i).take b.length).length = b.length := by
      rw [List.length_take, List.length_drop]
      omega
    have rowLength := length_multRow ai 0 b _ windowLength.symm
    have writtenLength : (c.take i ++ (multRow ai 0 b ((c.drop i).take b.length)).1 ++
        [(multRow ai 0 b ((c.drop i).take b.length)).2] ++ c.drop (i + b.length + 1)).length =
        c.length := by
      simp only [List.length_append, List.length_take, List.length_drop, rowLength,
        List.length_singleton]
      omega
    rw [multRows, inductionHypothesis (i + 1) _ (by rw [writtenLength]; omega), writtenLength]

/-- **The rows of `multiprecision_mult` from row `i` on**: what the rows below
left in the low words, plus the remaining rows' product at their weight. The
words above the current row are never read. -/
theorem multRows_value (b : List UInt32) (i : Nat) (as c : List UInt32)
    (sized : c.length = i + b.length + as.length) :
    value (multRows b i as c) = value (c.take (i + b.length)) + 2 ^ (32 * i) * (value as * value b) := by
  induction as generalizing i c with
  | nil =>
    rw [List.length_nil, Nat.add_zero] at sized
    rw [multRows, List.take_of_length_le (by omega), value_nil, Nat.zero_mul, Nat.mul_zero, Nat.add_zero]
  | cons ai as inductionHypothesis =>
    rw [List.length_cons] at sized
    have windowLength : ((c.drop i).take b.length).length = b.length := by
      rw [List.length_take, List.length_drop]
      omega
    have rowLength := length_multRow ai 0 b _ windowLength.symm
    have row := multRow_value ai 0 b ((c.drop i).take b.length) windowLength.symm
    rw [UInt32.toNat_zero, Nat.add_zero] at row
    have lowLength : (c.take i).length = i := by
      rw [List.length_take]
      omega
    -- the words up to the row's carry, after the row
    have front : (c.take i ++ (multRow ai 0 b ((c.drop i).take b.length)).1 ++
        [(multRow ai 0 b ((c.drop i).take b.length)).2] ++ c.drop (i + b.length + 1)).take
          (i + 1 + b.length) =
        c.take i ++ (multRow ai 0 b ((c.drop i).take b.length)).1 ++
          [(multRow ai 0 b ((c.drop i).take b.length)).2] := by
      apply List.take_left'
      simp only [List.length_append, lowLength, rowLength, List.length_singleton]
      omega
    have writtenLength : (c.take i ++ (multRow ai 0 b ((c.drop i).take b.length)).1 ++
        [(multRow ai 0 b ((c.drop i).take b.length)).2] ++ c.drop (i + b.length + 1)).length =
        i + 1 + b.length + as.length := by
      simp only [List.length_append, lowLength, rowLength, List.length_singleton, List.length_drop]
      omega
    -- the words up to the row, before it
    have before : c.take (i + b.length) = c.take i ++ (c.drop i).take b.length := List.take_add ..
    rw [multRows, inductionHypothesis (i + 1) _ writtenLength, front, before]
    simp only [value_append, List.length_append, lowLength, rowLength, value_cons, value_nil,
      Nat.mul_zero, Nat.add_zero]
    calc value (c.take i) + 2 ^ (32 * i) * value (multRow ai 0 b ((c.drop i).take b.length)).1 +
          2 ^ (32 * (i + b.length)) * (multRow ai 0 b ((c.drop i).take b.length)).2.toNat +
          2 ^ (32 * (i + 1)) * (value as * value b)
        = value (c.take i) + 2 ^ (32 * i) * (value (multRow ai 0 b ((c.drop i).take b.length)).1 +
            2 ^ (32 * b.length) * (multRow ai 0 b ((c.drop i).take b.length)).2.toNat) +
          2 ^ (32 * (i + 1)) * (value as * value b) := by ring
      _ = value (c.take i) + 2 ^ (32 * i) * (ai.toNat * value b + value ((c.drop i).take b.length)) +
          2 ^ (32 * (i + 1)) * (value as * value b) := by rw [row]
      _ = value (c.take i) + 2 ^ (32 * i) * value ((c.drop i).take b.length) +
          2 ^ (32 * i) * ((ai.toNat + 2 ^ 32 * value as) * value b) := by ring

/-- **`multiprecision_mult` writes the exact product**, whatever the high half
of its buffer held. -/
theorem multiprecisionMult_value (c a b : List UInt32) (sameLength : a.length = b.length)
    (buffer : c.length = 2 * a.length) : value (multiprecisionMult c a b) = value a * value b := by
  have sized : (List.replicate a.length 0 ++ c.drop a.length).length = 0 + b.length + a.length := by
    rw [List.length_append, List.length_replicate, List.length_drop]
    omega
  have cleared : (List.replicate a.length 0 ++ c.drop a.length).take (0 + b.length) =
      List.replicate a.length 0 := by
    rw [Nat.zero_add, ← sameLength]
    exact List.take_left' (List.length_replicate ..)
  rw [multiprecisionMult, multRows_value b 0 a _ sized, cleared, value_replicate_zero, Nat.mul_zero,
    Nat.pow_zero, Nat.one_mul, Nat.zero_add]

theorem length_multiprecisionMult (c a b : List UInt32) (sameLength : a.length = b.length)
    (buffer : c.length = 2 * a.length) : (multiprecisionMult c a b).length = c.length := by
  have sized : (List.replicate a.length 0 ++ c.drop a.length).length = 0 + b.length + a.length := by
    rw [List.length_append, List.length_replicate, List.length_drop]
    omega
  rw [multiprecisionMult, length_multRows b 0 a _ sized, sized]
  omega

/-! ### Reduction modulo p -/

/-- `(x < y)` stored in a `uint8_t`. -/
def belowOctet (x y : UInt32) : UInt8 :=
  if x < y then 1 else 0

/-- `S += x; US += (S < x)`: a sum of input words with its carries counted in a
`uint8_t`, as the reduction forms `A` to `G`. -/
def addCounted (sum : UInt32 × UInt8) (word : UInt32) : UInt32 × UInt8 :=
  let total := sum.1 + word
  (total, sum.2 + belowOctet total word)

/-- `US -= (S < x); S -= x`. -/
def subCounted (sum : UInt32 × UInt8) (word : UInt32) : UInt32 × UInt8 :=
  (sum.1 - word, sum.2 - belowOctet sum.1 word)

/-- A statement of the reduction on the word `c[i]` and the running carry `U`. -/
inductive Step
  /-- `c[i] += x; U += (c[i] < x)` -/
  | add (word : UInt32)
  /-- `U -= (c[i] < x); c[i] -= x` -/
  | sub (word : UInt32)
  /-- `U += UX` -/
  | addHigh (high : UInt8)
  /-- `U -= UX` -/
  | subHigh (high : UInt8)

/-- One statement on `(c[i], U)`. -/
def Step.run (state : UInt32 × UInt32) : Step → UInt32 × UInt32
  | .add word =>
    let c := state.1 + word
    (c, state.2 + below c word)
  | .sub word => (state.1 - word, state.2 - below state.1 word)
  | .addHigh high => (state.1, state.2 + high.toUInt32)
  | .subHigh high => (state.1, state.2 - high.toUInt32)

/-- The start of word `i`: the carry `U` of the word below added into `a[i]`,
a negative carry through its magnitude `UU`. -/
def carryInto (U ai : UInt32) : UInt32 × UInt32 :=
  if U &&& 0x80000000 ≠ 0 then
    let UU := 0 - U
    -- `U = (a[i] < UU); c[i] = a[i] - UU`
    (ai - UU, below ai UU)
  else
    let c := ai + U
    (c, below c ai)

/-- `multiprecision_fast_mod_P256(c, a)` on the sixteen words of `a`. -/
def multiprecisionFastModP256 (a : List UInt32) : List UInt32 :=
  let a := fun index => a.getD index 0
  let C := addCounted (addCounted (a 13, 0) (a 14)) (a 15)
  let E := addCounted (a 8, 0) (a 9)
  let F := addCounted (a 9, 0) (a 10)
  let G := addCounted (a 10, 0) (a 11)
  let B := addCounted C (a 12)
  let A := subCounted (addCounted B (a 11)) (a 15)
  let D := subCounted (addCounted A (a 10)) (a 14)
  let c0 := [Step.add E.1, .addHigh E.2, .sub A.1, .subHigh A.2].foldl Step.run (a 0, 0)
  let c1 := [Step.add F.1, .addHigh F.2, .sub B.1, .subHigh B.2].foldl Step.run (carryInto c0.2 (a 1))
  let c2 := [Step.add G.1, .addHigh G.2, .sub C.1, .subHigh C.2].foldl Step.run (carryInto c1.2 (a 2))
  let c3 := [Step.add A.1, .addHigh A.2, .add (a 11), .add (a 12), .sub (a 14), .sub (a 15),
    .sub E.1, .subHigh E.2].foldl Step.run (carryInto c2.2 (a 3))
  let c4 := [Step.add B.1, .addHigh B.2, .sub (a 15), .add (a 12), .add (a 13), .sub F.1,
    .subHigh F.2].foldl Step.run (carryInto c3.2 (a 4))
  let c5 := [Step.add C.1, .addHigh C.2, .add (a 13), .add (a 14), .sub G.1,
    .subHigh G.2].foldl Step.run (carryInto c4.2 (a 5))
  let c6 := [Step.add C.1, .addHigh C.2, .add (a 14), .add (a 14), .add (a 15), .sub E.1,
    .subHigh E.2].foldl Step.run (carryInto c5.2 (a 6))
  let c7 := [Step.add (a 15), .add (a 15), .add (a 15), .add (a 8), .sub D.1,
    .subHigh D.2].foldl Step.run (carryInto c6.2 (a 7))
  let c := [c0.1, c1.1, c2.1, c3.1, c4.1, c5.1, c6.1, c7.1]
  let U := c7.2
  -- the last carry is disposed of by adding or subtracting `p`, once per unit
  let c :=
    if U &&& 0x80000000 ≠ 0 then
      Nat.repeat (fun c => (multiprecisionAdd c curveP256P).1) (0 - U).toNat c
    else Nat.repeat (fun c => (multiprecisionSub c curveP256P).1) U.toNat c
  if multiprecisionCompare c curveP256P ≥ 0 then (multiprecisionSub c curveP256P).1 else c

/-- `multiprecision_mersenns_mult_mod(c, a, b, 8)`: the product in the stack
buffer `cc`, reduced modulo `p`. -/
def multiprecisionMersennsMultMod (cc a b : List UInt32) : List UInt32 :=
  multiprecisionFastModP256 (multiprecisionMult cc a b)

/-- `p = 2^256 - 2^224 + 2^192 + 2^96 - 1`. -/
def p256 : Nat := 2 ^ 256 - 2 ^ 224 + 2 ^ 192 + 2 ^ 96 - 1

/-- `2^176` in eight words, a number below `p`. -/
def twoPow176 : List UInt32 := [0, 0, 0, 0, 0, 0x10000, 0, 0]

/-- `2^352`, its square, in sixteen words. -/
def twoPow352 : List UInt32 := [0, 0, 0, 0, 0, 0, 0, 0, 0, 0, 0, 1, 0, 0, 0, 0]

/-- **The reduction is wrong on `2^352`.** Its first word leaves a carry of
`-1` that the second word, `0`, cannot absorb, and the borrow is carried on as
`+1`: the result is not congruent to the input. The product `2^176 · 2^176` of
`multiprecision_mersenns_mult_mod` is that input, whatever its stack buffer
held. -/
theorem fastModP256_wrongResidue :
    value (multiprecisionFastModP256 twoPow352) % p256 ≠ value twoPow352 % p256 ∧
      ∀ cc : List UInt32, cc.length = 16 →
        value (multiprecisionMersennsMultMod cc twoPow176 twoPow176) % p256 ≠
          value twoPow176 * value twoPow176 % p256 := by
  have wrong : value (multiprecisionFastModP256 twoPow352) % p256 ≠ value twoPow352 % p256 := by
    decide +kernel
  have square : value twoPow176 * value twoPow176 = value twoPow352 := by decide
  refine ⟨wrong, ?_⟩
  intro cc sized
  -- the product in the buffer is `2^352` in every word, by its value and length
  have product : multiprecisionMult cc twoPow176 twoPow176 = twoPow352 := by
    apply eq_of_value_eq
    · rw [length_multiprecisionMult cc twoPow176 twoPow176 rfl sized, sized]
      rfl
    · rw [multiprecisionMult_value cc twoPow176 twoPow176 rfl sized, square]
  rw [multiprecisionMersennsMultMod, product, square]
  exact wrong

theorem fastModP256_wrongResidue_zeroBuffer :
    (List.replicate 16 (0 : UInt32)).length = 16 ∧
      value (multiprecisionMersennsMultMod (List.replicate 16 0) twoPow176 twoPow176) % p256 ≠
        value twoPow176 * value twoPow176 % p256 :=
  ⟨rfl, fastModP256_wrongResidue.2 _ rfl⟩

end Fluoride.Multprecision
