import Mathlib.Data.List.Basic

/-!
# Cutting a list into pieces of bounded size

A sender that splits a payload to fit a transport unit of `size` cells cuts
`size` cells at a time while more than `size` are left, and sends the rest as a
last piece. `segments` is that cut. Its pieces concatenate back to the data
(`flatten_segments`), every piece but the last has exactly `size` cells
(`length_of_mem_dropLast`), the last has between one and `size` cells when the
data is not empty (`length_getLast`), and there are `max 1 ⌈n / size⌉` pieces
(`length_segments`).

The segmenters of the stack are proved to emit `segments` of their payload;
the reassemblers are proved to deliver the concatenation of what they receive.
-/

namespace Segments

universe u
variable {α : Type u}

/-- Cut `size` cells at a time while more than `size` are left. Data that fits,
and any data when the size is zero, stays one piece. -/
def segments (size : Nat) (data : List α) : List (List α) :=
  if data.length ≤ size ∨ size = 0 then [data]
  else data.take size :: segments size (data.drop size)
termination_by data.length
decreasing_by
  simp only [List.length_drop]
  omega

/-- Data that fits is one piece. -/
theorem segments_of_le (size : Nat) (data : List α) (fits : data.length ≤ size) :
    segments size data = [data] := by
  rw [segments, if_pos (Or.inl fits)]

/-- Longer data loses its first `size` cells to the first piece. -/
theorem segments_of_lt (size : Nat) (data : List α) (positive : 0 < size)
    (longer : size < data.length) :
    segments size data = data.take size :: segments size (data.drop size) := by
  have notFits : ¬ (data.length ≤ size ∨ size = 0) := by omega
  rw [segments, if_neg notFits]

/-- The pieces concatenate back to the data. -/
theorem flatten_segments (size : Nat) (data : List α) : (segments size data).flatten = data := by
  induction data using segments.induct size with
  | case1 data whole => rw [segments, if_pos whole, List.flatten_singleton]
  | case2 data cut inductionHypothesis =>
    rw [segments, if_neg cut, List.flatten_cons, inductionHypothesis, List.take_append_drop]

/-- There is always at least one piece, possibly empty. -/
theorem segments_ne_nil (size : Nat) (data : List α) : segments size data ≠ [] := by
  unfold segments
  split <;> simp

/-- There are `max 1 ⌈n / size⌉` pieces. -/
theorem length_segments (size : Nat) (data : List α) (positive : 0 < size) :
    (segments size data).length = max 1 ((data.length + size - 1) / size) := by
  induction data using segments.induct size with
  | case2 data cut inductionHypothesis =>
      have longer : size < data.length := by omega
      rw [segments, if_neg cut, List.length_cons, inductionHypothesis, List.length_drop]
      have restCount : (data.length - size + size - 1) / size + 1 =
          (data.length + size - 1) / size := by
        have shift : data.length + size - 1 = (data.length - size + size - 1) + size := by omega
        rw [shift, Nat.add_div_right _ positive]
      have restPositive : 1 ≤ (data.length - size + size - 1) / size := by
        apply (Nat.le_div_iff_mul_le positive).mpr
        omega
      omega
  | case1 data whole =>
      have fits : data.length ≤ size := by omega
      rw [segments_of_le size data fits]
      have atMostOne : (data.length + size - 1) / size < 2 :=
        (Nat.div_lt_iff_lt_mul positive).mpr (by omega)
      simp only [List.length_singleton]
      omega

/-- Every piece but the last holds exactly `size` cells. -/
theorem length_of_mem_dropLast (size : Nat) (data piece : List α)
    (member : piece ∈ (segments size data).dropLast) : piece.length = size := by
  induction data using segments.induct size with
  | case1 data whole =>
    rw [segments, if_pos whole] at member
    simp at member
  | case2 data cut inductionHypothesis =>
    rw [segments, if_neg cut, List.dropLast_cons_of_ne_nil (segments_ne_nil size _)] at member
    rcases List.mem_cons.mp member with first | later
    · rw [first, List.length_take]
      omega
    · exact inductionHypothesis later

/-- The last piece holds what is left: between one and `size` cells of
non-empty data, when the size is positive. -/
theorem length_getLast (size : Nat) (data : List α) (positive : 0 < size) (nonEmpty : data ≠ []) :
    1 ≤ ((segments size data).getLast (segments_ne_nil size data)).length ∧
      ((segments size data).getLast (segments_ne_nil size data)).length ≤ size := by
  induction data using segments.induct size with
  | case1 data whole =>
    have fits : data.length ≤ size := by omega
    simp only [segments_of_le size data fits, List.getLast_singleton]
    have positiveLength : 0 < data.length := List.length_pos_iff.mpr nonEmpty
    omega
  | case2 data cut inductionHypothesis =>
    have longer : size < data.length := by omega
    have restNonEmpty : data.drop size ≠ [] := by
      intro empty
      have emptyLength := congrArg List.length empty
      simp only [List.length_drop, List.length_nil] at emptyLength
      omega
    have same : (segments size data).getLast (segments_ne_nil size data) =
        (segments size (data.drop size)).getLast (segments_ne_nil size _) := by
      simp only [segments_of_lt size data positive longer]
      exact List.getLast_cons (segments_ne_nil size _)
    rw [same]
    exact inductionHypothesis restNonEmpty

/-- No piece is longer than `size`, when the size is positive. -/
theorem length_le_of_mem (size : Nat) (data piece : List α) (positive : 0 < size)
    (member : piece ∈ segments size data) : piece.length ≤ size := by
  induction data using segments.induct size with
  | case1 data whole =>
    rw [segments, if_pos whole, List.mem_singleton] at member
    rw [member]
    omega
  | case2 data cut inductionHypothesis =>
    rw [segments, if_neg cut] at member
    rcases List.mem_cons.mp member with first | later
    · rw [first, List.length_take]
      omega
    · exact inductionHypothesis later

/-- No piece of non-empty data is empty, when the size is positive. -/
theorem length_pos_of_mem (size : Nat) (data piece : List α) (positive : 0 < size)
    (nonEmpty : data ≠ []) (member : piece ∈ segments size data) : 0 < piece.length := by
  induction data using segments.induct size with
  | case1 data whole =>
    rw [segments, if_pos whole, List.mem_singleton] at member
    rw [member]
    exact List.length_pos_iff.mpr nonEmpty
  | case2 data cut inductionHypothesis =>
    rw [segments, if_neg cut] at member
    rcases List.mem_cons.mp member with first | later
    · rw [first, List.length_take]
      omega
    · apply inductionHypothesis _ later
      intro empty
      have emptyLength := congrArg List.length empty
      simp only [List.length_drop, List.length_nil] at emptyLength
      omega

/-- Every piece before the last, counted by position, holds exactly `size` cells. -/
theorem length_getElem_of_lt (size : Nat) (data : List α) (index : Nat)
    (beforeLast : index + 1 < (segments size data).length) :
    (segments size data)[index].length = size := by
  apply length_of_mem_dropLast size data
  have inDropLast : index < (segments size data).dropLast.length := by
    simp only [List.length_dropLast]
    omega
  rw [← List.getElem_dropLast inDropLast]
  exact List.getElem_mem inDropLast

end Segments
