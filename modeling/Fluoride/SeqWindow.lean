import Mathlib.Data.Int.GCD
import Mathlib.Data.List.Range
import Mathlib.Data.Nat.ModEq

/-!
# Sequence numbers on a cycle

Window protocols number their frames modulo a fixed `modulus`. A sender keeps
the frames it has sent and not yet seen acknowledged, numbered consecutively
from the oldest on, and an acknowledgement names the first number the receiver
still expects. `distance later earlier` is how far `later` lies ahead of
`earlier` on the cycle, and `numbers start count` the numbers of `count`
consecutive frames from `start`.

The lemmas are the window arithmetic of such a sender: the distance is the one
step below the modulus that leads from one number to the other
(`distance_spec`, `distance_eq_of_step`), a new frame extends the run by the
next number (`distance_succ`, `numbers_succ`), and an acknowledgement cuts the
run where the number it names lies (`distance_sub`, `add_distance_mod`,
`take_numbers`, `drop_numbers`).
-/

namespace SeqWindow

/-- How far `later` lies ahead of `earlier` on a cycle of `modulus` sequence numbers. -/
def distance (modulus later earlier : Nat) : Nat :=
  (((later : Int) - earlier) % modulus).toNat

/-- The numbers of `count` consecutive frames from `start`. -/
def numbers (modulus start count : Nat) : List Nat :=
  (List.range count).map fun index => (start + index) % modulus

section Distance

variable {modulus : Nat}

/-- The distance is the step below `modulus` that leads from `earlier` to `later`. -/
theorem distance_spec (positive : 0 < modulus) (later earlier : Nat) :
    distance modulus later earlier < modulus ∧
      (earlier + distance modulus later earlier) % modulus = later % modulus := by
  have nonNegative : 0 ≤ ((later : Int) - earlier) % modulus := Int.emod_nonneg _ (by omega)
  have below : ((later : Int) - earlier) % modulus < modulus := Int.emod_lt_of_pos _ (by omega)
  refine ⟨by unfold distance; omega, ?_⟩
  have cast : ((distance modulus later earlier : Nat) : Int) = ((later : Int) - earlier) % modulus := by
    unfold distance; omega
  have leads : ((earlier : Int) + distance modulus later earlier) % modulus =
      (later : Int) % modulus := by
    rw [cast, Int.add_emod, Int.emod_emod, ← Int.add_emod, add_sub_cancel]
  exact_mod_cast leads

/-- A step below `modulus` that leads from `earlier` to `later` is the distance. -/
theorem distance_eq_of_step (later earlier step : Nat) (short : step < modulus)
    (leads : (earlier + step) % modulus = later % modulus) :
    distance modulus later earlier = step := by
  have congruent : ((later : Int) - earlier) % modulus = step := by
    have intLeads : ((earlier : Int) + step) % modulus = (later : Int) % modulus := by
      exact_mod_cast leads
    rw [Int.sub_emod, ← intLeads, ← Int.sub_emod, add_sub_cancel_left]
    exact Int.emod_eq_of_lt (by omega) (by omega)
  unfold distance
  omega

/-- A number is no distance from itself. -/
@[simp] theorem distance_self (positive : 0 < modulus) (number : Nat) :
    distance modulus number number = 0 :=
  distance_eq_of_step number number 0 positive rfl

/-- The next number lies one step further, while the step stays inside the cycle. -/
theorem distance_succ (positive : 0 < modulus) (later earlier : Nat)
    (room : distance modulus later earlier + 1 < modulus) :
    distance modulus ((later + 1) % modulus) earlier = distance modulus later earlier + 1 := by
  obtain ⟨-, leads⟩ := distance_spec positive later earlier
  apply distance_eq_of_step _ _ _ room
  rw [Nat.mod_mod, ← Nat.add_assoc, Nat.add_mod, leads, ← Nat.add_mod]

/-- Walking the distance from `earlier` reaches `later`. -/
theorem add_distance_mod (positive : 0 < modulus) (later earlier : Nat) (bound : later < modulus) :
    (earlier + distance modulus later earlier) % modulus = later := by
  rw [(distance_spec positive later earlier).2, Nat.mod_eq_of_lt bound]

/-- A number passed on the way to `later` leaves the rest of the way. -/
theorem distance_sub (positive : 0 < modulus) (later middle earlier : Nat)
    (passed : distance modulus middle earlier ≤ distance modulus later earlier) :
    distance modulus later middle = distance modulus later earlier - distance modulus middle earlier := by
  obtain ⟨short, leads⟩ := distance_spec positive later earlier
  obtain ⟨-, reaches⟩ := distance_spec positive middle earlier
  apply distance_eq_of_step _ _ _ (by omega)
  have regroup : earlier + distance modulus middle earlier +
      (distance modulus later earlier - distance modulus middle earlier) =
      earlier + distance modulus later earlier := by omega
  rw [Nat.add_mod, ← reaches, ← Nat.add_mod, regroup, leads]

end Distance

section Numbers

variable {modulus : Nat}

/-- A run of `count` frames has `count` numbers. -/
@[simp] theorem length_numbers (start count : Nat) : (numbers modulus start count).length = count := by
  simp [numbers]

/-- Only the start's place on the cycle matters. -/
theorem numbers_mod (start count : Nat) :
    numbers modulus (start % modulus) count = numbers modulus start count := by
  simp [numbers, Nat.mod_add_mod]

/-- One more frame carries the next number. -/
theorem numbers_succ (start count : Nat) :
    numbers modulus start (count + 1) = numbers modulus start count ++ [(start + count) % modulus] := by
  simp [numbers, List.range_succ]

/-- The first frame carries the start's number; the rest run from the next one. -/
theorem numbers_cons (start count : Nat) :
    numbers modulus start (count + 1) = start % modulus :: numbers modulus (start + 1) count := by
  simp [numbers, List.range_succ_eq_map, Nat.add_assoc, Nat.add_comm 1]

/-- Fewer frames than the modulus never reach the number that follows them. -/
theorem not_mem_numbers (start count : Nat) (short : count < modulus) :
    (start + count) % modulus ∉ numbers modulus start count := by
  intro member
  obtain ⟨index, inRange, same⟩ := List.mem_map.mp member
  have congruent : index % modulus = count % modulus :=
    Nat.ModEq.add_left_cancel' start same
  rw [Nat.mod_eq_of_lt (by simp at inRange; omega), Nat.mod_eq_of_lt short] at congruent
  simp at inRange
  omega

/-- The first frames of a run are a shorter run. -/
theorem take_numbers (start count keep : Nat) (within : keep ≤ count) :
    (numbers modulus start count).take keep = numbers modulus start keep := by
  simp [numbers, ← List.map_take, List.take_range, Nat.min_eq_left within]

/-- The frames after the first ones are a run from further on. -/
theorem drop_numbers (start count skip : Nat) :
    (numbers modulus start count).drop skip = numbers modulus (start + skip) (count - skip) := by
  apply List.ext_getElem
  · simp
  · intro index inDropped inRun
    simp [numbers, Nat.add_assoc]

end Numbers

section Wrap

variable {modulus : Nat}

/-- A pointer stepped by one and reset to the start when it reaches the end
moves one place on the cycle. -/
theorem succ_wrap_eq_mod (position : Nat) (bound : position < modulus) :
    (if position + 1 ≥ modulus then 0 else position + 1) = (position + 1) % modulus := by
  split_ifs with reached
  · rw [show position + 1 = modulus by omega, Nat.mod_self]
  · rw [Nat.mod_eq_of_lt (by omega)]

/-- A pointer advanced by at most a whole cycle and pulled back once when it
passes the end moves that far on the cycle. -/
theorem add_wrap_eq_mod (position count : Nat) (bound : position < modulus)
    (short : count ≤ modulus) :
    (if position + count ≥ modulus then position + count - modulus else position + count) =
      (position + count) % modulus := by
  split_ifs with passed
  · rw [Nat.mod_eq_sub_mod passed, Nat.mod_eq_of_lt (by omega)]
  · rw [Nat.mod_eq_of_lt (by omega)]

end Wrap

end SeqWindow
