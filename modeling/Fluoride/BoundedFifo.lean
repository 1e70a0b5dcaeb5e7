import Mathlib.Data.List.Basic

/-!
# Bounded first-in first-out queues

The specification a byte ring buffer is measured against: a queue of at most
`capacity` elements, read from the front and written at the back. Every
operation is total in its amounts: a write takes only as many elements as there
is room for, and a delete, a peek or a pop takes only as many as the queue
holds, each reporting how many it took. A write reads its elements from the
caller's source, and the one way an operation fails is a source that ends
before the elements the write takes.

The lemmas are what a refinement proof needs of these operations: when two
queues are equal (`ext`), when a write is accepted (`insert_eq_some`,
`insert_eq_none`), the amounts they report (`count_peek`), and that a pop is a
peek from the front followed by a delete of what was seen
(`pop_eq_peek_delete`).
-/

universe u

/-- A queue of at most `capacity` elements, oldest first. -/
structure BoundedFifo (α : Type u) where
  capacity : Nat
  items : List α
  bounded : items.length ≤ capacity

namespace BoundedFifo

variable {α : Type u}

/-- The queue with nothing in it. -/
def empty (capacity : Nat) : BoundedFifo α := ⟨capacity, [], Nat.zero_le _⟩

/-- Room left for writes. -/
def free (queue : BoundedFifo α) : Nat := queue.capacity - queue.items.length

/-- Append the first `length` elements of `source`, or as many as there is room
for, and report how many were taken; a source shorter than that is refused. -/
def insert (queue : BoundedFifo α) (source : List α) (length : Nat) :
    Option (BoundedFifo α × Nat) :=
  if min length queue.free ≤ source.length then
    some (⟨queue.capacity, queue.items ++ source.take (min length queue.free), by
      have := queue.bounded
      simp only [List.length_append, List.length_take, free]
      omega⟩, min length queue.free)
  else none

/-- Remove the first `length` elements, or all of them, and report how many went. -/
def delete (queue : BoundedFifo α) (length : Nat) : BoundedFifo α × Nat :=
  (⟨queue.capacity, queue.items.drop length, by
    simp only [List.length_drop]; have := queue.bounded; omega⟩,
    min length queue.items.length)

/-- The elements from position `offset` on, at most `length` of them, with their number. -/
def peek (queue : BoundedFifo α) (offset length : Nat) : Nat × List α :=
  (min length (queue.items.length - offset), (queue.items.drop offset).take length)

/-- Remove and return the first `length` elements, or all of them. -/
def pop (queue : BoundedFifo α) (length : Nat) : BoundedFifo α × Nat × List α :=
  (⟨queue.capacity, queue.items.drop length, by
    simp only [List.length_drop]; have := queue.bounded; omega⟩,
    min length queue.items.length, queue.items.take length)

/-- Queues with the same capacity and the same elements are the same queue. -/
@[ext] theorem ext {queue other : BoundedFifo α} (sameCapacity : queue.capacity = other.capacity)
    (sameItems : queue.items = other.items) : queue = other := by
  obtain ⟨capacity, items, bounded⟩ := queue
  subst sameCapacity sameItems
  rfl

/-- A write whose source has the elements it takes appends them. -/
theorem insert_eq_some (queue next : BoundedFifo α) (source : List α) (length : Nat)
    (enough : min length queue.free ≤ source.length) (sameCapacity : next.capacity = queue.capacity)
    (appended : next.items = queue.items ++ source.take (min length queue.free)) :
    queue.insert source length = some (next, min length queue.free) := by
  unfold insert
  rw [if_pos enough]
  exact congrArg (fun written => some (written, min length queue.free))
    (ext sameCapacity.symm appended.symm)

/-- A write whose source ends before the elements it takes is refused. -/
theorem insert_eq_none (queue : BoundedFifo α) (source : List α) (length : Nat)
    (short : source.length < min length queue.free) : queue.insert source length = none := by
  unfold insert
  rw [if_neg (by omega)]

/-- A peek reports the number of elements it returns. -/
theorem count_peek (queue : BoundedFifo α) (offset length : Nat) :
    (queue.peek offset length).1 = (queue.peek offset length).2.length := by
  simp [peek]

/-- A pop returns what a peek from the front shows and removes what a delete of
that many removes. -/
theorem pop_eq_peek_delete (queue : BoundedFifo α) (length : Nat) :
    queue.pop length =
      ((queue.delete (queue.peek 0 length).1).1, queue.peek 0 length) := by
  simp only [pop, delete, peek, List.drop_zero, Nat.sub_zero, ← List.drop_eq_drop_min]

end BoundedFifo
