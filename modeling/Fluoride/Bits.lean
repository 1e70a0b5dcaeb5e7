import Mathlib.Data.Nat.Bitwise

/-!
# Bit strings, least significant bit first

`lowBits value width` lists the low `width` bits of a number from the least
significant one up; `octetBits` does so for the eight bits of an octet, and
`packBits` packs a bit string into octets, eight bits to an octet, each octet
filled from its least significant bit.

A bit string that is the concatenation of the bits of some octets packs back to
those octets (`packBits_flatMap_append`). The low bits of a number split at
any position into the low bits and the bits above (`lowBits_add`), and the low
bits of `low ||| high <<< width`, for `low` below `2 ^ width`, are those of
`low` followed by those of `high` (`lowBits_or_shiftLeft`): the two facts a
writer that merges pending bits with new ones is proved with.
-/

namespace Bits

/-- The low `width` bits of `value`, least significant first. -/
def lowBits (value : Nat) : Nat → List Bool
  | 0 => []
  | width + 1 => value.testBit 0 :: lowBits (value / 2) width

/-- The eight bits of an octet, least significant first. -/
def octetBits (octet : UInt8) : List Bool :=
  lowBits octet.toNat 8

/-- The number whose bits, least significant first, are the given ones. -/
def bitsValue : List Bool → Nat
  | [] => 0
  | bit :: rest => bit.toNat + 2 * bitsValue rest

/-- Pack bits into octets, eight at a time, each octet filled from its least
significant bit; a last group of fewer than eight bits fills the low bits of a
last octet. -/
def packBits (bits : List Bool) : List UInt8 :=
  if bits = [] then [] else UInt8.ofNat (bitsValue (bits.take 8)) :: packBits (bits.drop 8)
termination_by bits.length
decreasing_by
  have nonEmpty : bits.length ≠ 0 := by
    intro empty
    exact ‹¬ bits = []› (List.eq_nil_of_length_eq_zero empty)
  rw [List.length_drop]
  omega

@[simp] theorem packBits_nil : packBits [] = [] := by
  rw [packBits, if_pos rfl]

@[simp] theorem lowBits_zero (value : Nat) : lowBits value 0 = [] := rfl

@[simp] theorem lowBits_succ (value width : Nat) :
    lowBits value (width + 1) = value.testBit 0 :: lowBits (value / 2) width := rfl

@[simp] theorem length_lowBits (value width : Nat) : (lowBits value width).length = width := by
  induction width generalizing value with
  | zero => rfl
  | succ width inductionHypothesis => rw [lowBits_succ, List.length_cons, inductionHypothesis]

@[simp] theorem length_octetBits (octet : UInt8) : (octetBits octet).length = 8 :=
  length_lowBits _ 8

@[simp] theorem length_flatMap_octetBits (octets : List UInt8) :
    (octets.flatMap octetBits).length = 8 * octets.length := by
  induction octets with
  | nil => rfl
  | cons octet rest inductionHypothesis =>
    rw [List.flatMap_cons, List.length_append, length_octetBits, inductionHypothesis,
      List.length_cons]
    omega

/-- The low bits of a number split into the lowest ones and the bits above them. -/
theorem lowBits_add (value first second : Nat) :
    lowBits value (first + second) = lowBits value first ++ lowBits (value >>> first) second := by
  induction first generalizing value with
  | zero => rw [Nat.zero_add, lowBits_zero, List.nil_append, Nat.shiftRight_zero]
  | succ first inductionHypothesis =>
    have moved : value >>> (first + 1) = (value / 2) >>> first := by
      rw [Nat.add_comm, Nat.shiftRight_add, Nat.shiftRight_one]
    rw [Nat.add_right_comm, lowBits_succ, inductionHypothesis, lowBits_succ, moved, List.cons_append]

/-- Numbers that agree on their low `width` bits have the same low bits. -/
theorem lowBits_congr (first second width : Nat)
    (agree : ∀ index < width, first.testBit index = second.testBit index) :
    lowBits first width = lowBits second width := by
  induction width generalizing first second with
  | zero => rfl
  | succ width inductionHypothesis =>
    have halves : ∀ index < width, (first / 2).testBit index = (second / 2).testBit index := by
      intro index inside
      rw [← Nat.testBit_succ, ← Nat.testBit_succ]
      exact agree (index + 1) (by omega)
    rw [lowBits_succ, lowBits_succ, agree 0 (Nat.succ_pos width), inductionHypothesis _ _ halves]

/-- Dropping bits at or above `width` changes none of the low `width` bits. -/
theorem lowBits_mod (value bound width : Nat) (within : width ≤ bound) :
    lowBits (value % 2 ^ bound) width = lowBits value width := by
  apply lowBits_congr
  intro index inside
  rw [Nat.testBit_mod_two_pow]
  simp [Nat.lt_of_lt_of_le inside within]

/-- The low bits of pending bits merged with new ones above them: those of the
pending bits, then those of the new ones. -/
theorem lowBits_or_shiftLeft (low high width count : Nat) (fits : low < 2 ^ width) :
    lowBits (low ||| high <<< width) (width + count) = lowBits low width ++ lowBits high count := by
  have below : ∀ index < width, (low ||| high <<< width).testBit index = low.testBit index := by
    intro index inside
    rw [Nat.testBit_or, Nat.testBit_shiftLeft]
    simp [Nat.not_le.mpr inside]
  have above : (low ||| high <<< width) >>> width = high := by
    rw [Nat.shiftRight_or_distrib, Nat.shiftLeft_shiftRight, Nat.shiftRight_eq_div_pow,
      Nat.div_eq_of_lt fits, Nat.zero_or]
  rw [lowBits_add, lowBits_congr _ _ _ below, above]

/-- The value of the low bits of a number is the number modulo a power of two. -/
theorem bitsValue_lowBits (value width : Nat) : bitsValue (lowBits value width) = value % 2 ^ width := by
  induction width generalizing value with
  | zero => rw [lowBits_zero, bitsValue, Nat.pow_zero, Nat.mod_one]
  | succ width inductionHypothesis =>
    have lowest : (value.testBit 0).toNat = value % 2 := by
      rw [Nat.testBit_zero]
      rcases Nat.mod_two_eq_zero_or_one value with even | odd
      · simp [even]
      · simp [odd]
    have split : value % 2 ^ (width + 1) = value % 2 + 2 * (value / 2 % 2 ^ width) := by
      rw [Nat.pow_succ', Nat.mod_mul]
    rw [lowBits_succ, bitsValue, inductionHypothesis, lowest, split]

/-- An octet's bits pack back to the octet. -/
theorem ofNat_bitsValue_octetBits (octet : UInt8) : UInt8.ofNat (bitsValue (octetBits octet)) = octet := by
  rw [octetBits, bitsValue_lowBits]
  apply UInt8.toNat_inj.mp
  rw [UInt8.toNat_ofNat', Nat.mod_mod_of_dvd _ (by decide),
    Nat.mod_eq_of_lt octet.toNat_lt]

/-- **Packing undoes unpacking.** The bits of some octets, followed by more
bits, pack to those octets followed by the packing of the rest. -/
theorem packBits_flatMap_append (octets : List UInt8) (rest : List Bool) :
    packBits (octets.flatMap octetBits ++ rest) = octets ++ packBits rest := by
  induction octets with
  | nil => rw [List.flatMap_nil, List.nil_append, List.nil_append]
  | cons octet others inductionHypothesis =>
    have notEmpty : (octet :: others).flatMap octetBits ++ rest ≠ [] := by
      rw [List.flatMap_cons, List.append_assoc]
      intro empty
      have counted := congrArg List.length empty
      rw [List.length_append, length_octetBits, List.length_nil] at counted
      omega
    have front : ((octet :: others).flatMap octetBits ++ rest).take 8 = octetBits octet := by
      rw [List.flatMap_cons, List.append_assoc, List.take_left' (length_octetBits octet)]
    have back : ((octet :: others).flatMap octetBits ++ rest).drop 8 =
        others.flatMap octetBits ++ rest := by
      rw [List.flatMap_cons, List.append_assoc, List.drop_left' (length_octetBits octet)]
    rw [packBits, if_neg notEmpty, front, back, ofNat_bitsValue_octetBits, inductionHypothesis,
      List.cons_append]

end Bits
