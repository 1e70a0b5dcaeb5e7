import Mathlib.Data.Nat.Bitwise

/-!
# Reflected CRCs, bit by bit and octet by octet

A reflected CRC keeps its register with the first bit of the message at the
bottom. The bitwise algorithm (`reflected`) adds each octet into the low octet
of the register and then takes eight bit steps, each moving the register down
one place and adding the reflected polynomial when the bit moved out was set.
Table-driven code replaces the eight bit steps by one lookup.

A bit step is linear in exclusive or (`bitStep_xor`), and eight of them only
move down a register whose low octet is clear (`bitSteps_high`). So an octet
step is the register moved down eight places plus the table entry of its low
octet with the octet (`byteStep_table`), and a table-driven loop whose step
agrees with that on the registers it reaches computes the bitwise CRC
(`foldl_reflected`). The CRC of a concatenation is the CRC of the second part
from the register the first part left (`reflected_append`).

A polynomial is given by its reflected constant; `reverseBits` turns the usual
constant (`0x8005`, `0x07`) into it. Nothing here fixes a width or a
polynomial.
-/

namespace Crc

/-- The low `width` bits of `value` in reverse order: a polynomial written with
its highest term first, as a reflected CRC adds it. -/
def reverseBits : Nat → Nat → Nat
  | 0, _ => 0
  | width + 1, value => (value % 2) <<< width ||| reverseBits width (value / 2)

/-- One bit of a reflected CRC: the register moves down one place, and the
reflected polynomial is added when the bit moved out was set. -/
def bitStep (poly register : Nat) : Nat :=
  if register.testBit 0 then register >>> 1 ^^^ poly else register >>> 1

/-- `count` bit steps. -/
def bitSteps (poly : Nat) : Nat → Nat → Nat
  | 0, register => register
  | count + 1, register => bitSteps poly count (bitStep poly register)

/-- One octet of the bitwise algorithm: the octet goes into the low octet of the
register, then eight bit steps. -/
def byteStep (poly register : Nat) (octet : UInt8) : Nat :=
  bitSteps poly 8 (register ^^^ octet.toNat)

/-- The bitwise reflected CRC of an octet string from an initial register, with
no final exclusive or. -/
def reflected (poly init : Nat) (octets : List UInt8) : Nat :=
  octets.foldl (byteStep poly) init

/-- The table of a reflected CRC: eight bit steps of each octet. -/
def tableEntry (poly index : Nat) : Nat :=
  bitSteps poly 8 index

/-- A bit step is linear in exclusive or. -/
theorem bitStep_xor (poly first second : Nat) :
    bitStep poly (first ^^^ second) = bitStep poly first ^^^ bitStep poly second := by
  unfold bitStep
  rw [Nat.testBit_xor, Nat.shiftRight_xor_distrib]
  cases first.testBit 0 <;> cases second.testBit 0 <;>
    simp [Nat.xor_left_comm, Nat.xor_comm]

/-- So are any number of them. -/
theorem bitSteps_xor (poly count first second : Nat) :
    bitSteps poly count (first ^^^ second) =
      bitSteps poly count first ^^^ bitSteps poly count second := by
  induction count generalizing first second with
  | zero => rfl
  | succ count inductionHypothesis =>
    rw [bitSteps, bitSteps, bitSteps, bitStep_xor, inductionHypothesis]

/-- A register whose low `count` bits are clear only moves down through `count`
bit steps. -/
theorem bitSteps_high (poly count register : Nat)
    (clear : ∀ index < count, register.testBit index = false) :
    bitSteps poly count register = register >>> count := by
  induction count generalizing register with
  | zero => rfl
  | succ count inductionHypothesis =>
    have lowClear : register.testBit 0 = false := clear 0 (Nat.succ_pos count)
    have shiftedClear : ∀ index < count, (register >>> 1).testBit index = false := by
      intro index inside
      rw [Nat.testBit_shiftRight]
      exact clear (1 + index) (by omega)
    rw [bitSteps, bitStep, if_neg (by rw [lowClear]; decide), inductionHypothesis _ shiftedClear,
      ← Nat.shiftRight_add, Nat.add_comm 1 count]

/-- A register is its low octet and the rest of it. -/
theorem split_lowOctet (register : Nat) :
    register = register % 256 ^^^ (register >>> 8 <<< 8) := by
  apply Nat.eq_of_testBit_eq
  intro index
  have asPower : (256 : Nat) = 2 ^ 8 := rfl
  rw [Nat.testBit_xor, asPower, Nat.testBit_mod_two_pow, Nat.testBit_shiftLeft,
    Nat.testBit_shiftRight]
  by_cases low : index < 8
  · have notHigh : ¬ 8 ≤ index := Nat.not_le.mpr low
    simp [low, notHigh]
  · have back : 8 + (index - 8) = index := by omega
    simp [low, back, Nat.le_of_not_lt low]

/-- **One octet from the table**: the register moved down eight places, and the
table entry of its low octet with the octet. -/
theorem byteStep_table (poly register : Nat) (octet : UInt8) :
    byteStep poly register octet =
      register >>> 8 ^^^ tableEntry poly (register % 256 ^^^ octet.toNat) := by
  have split : register ^^^ octet.toNat =
      (register % 256 ^^^ octet.toNat) ^^^ (register >>> 8 <<< 8) := by
    conv_lhs => rw [split_lowOctet register]
    rw [Nat.xor_assoc, Nat.xor_comm (register >>> 8 <<< 8), ← Nat.xor_assoc]
  have highClear : ∀ index < 8, (register >>> 8 <<< 8).testBit index = false := by
    intro index inside
    rw [Nat.testBit_shiftLeft]
    simp [Nat.not_le.mpr inside]
  rw [byteStep, split, bitSteps_xor, bitSteps_high poly 8 _ highClear, Nat.shiftLeft_shiftRight,
    tableEntry, Nat.xor_comm]

/-- A bit step stays below a power of two that bounds the register and the
polynomial. -/
theorem bitStep_lt (poly register width : Nat) (polyFits : poly < 2 ^ width)
    (fits : register < 2 ^ width) : bitStep poly register < 2 ^ width := by
  have shifted : register >>> 1 < 2 ^ width := Nat.lt_of_le_of_lt (Nat.shiftRight_le _ _) fits
  unfold bitStep
  split
  · exact Nat.xor_lt_two_pow shifted polyFits
  · exact shifted

/-- So do any number of them. -/
theorem bitSteps_lt (poly count register width : Nat) (polyFits : poly < 2 ^ width)
    (fits : register < 2 ^ width) : bitSteps poly count register < 2 ^ width := by
  induction count generalizing register with
  | zero => exact fits
  | succ count inductionHypothesis =>
    exact inductionHypothesis _ (bitStep_lt poly register width polyFits fits)

/-- The CRC of a concatenation continues from the register the first part left. -/
theorem reflected_append (poly init : Nat) (first second : List UInt8) :
    reflected poly init (first ++ second) = reflected poly (reflected poly init first) second := by
  rw [reflected, List.foldl_append]
  rfl

/-- **Table-driven loops.** A loop over any state whose step agrees with the
octet step on the states it reaches computes the bitwise CRC of the octets. -/
theorem foldl_reflected {σ : Type} (step : σ → UInt8 → σ) (value : σ → Nat)
    (reachable : σ → Prop) (poly : Nat)
    (stays : ∀ state octet, reachable state → reachable (step state octet))
    (agrees : ∀ state octet, reachable state →
      value (step state octet) = byteStep poly (value state) octet)
    (octets : List UInt8) (state : σ) (start : reachable state) :
    value (octets.foldl step state) = reflected poly (value state) octets := by
  induction octets generalizing state with
  | nil => rfl
  | cons octet rest inductionHypothesis =>
    rw [List.foldl_cons, inductionHypothesis _ (stays state octet start),
      agrees state octet start]
    rfl

end Crc
