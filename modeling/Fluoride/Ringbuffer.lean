import Fluoride.ByteBuffer
import Fluoride.Runs
import Fluoride.SeqWindow
import Fluoride.BoundedFifo

/-!
# The osi byte ring buffer

`osi/src/ringbuffer.cc` keeps its bytes in one block of `total` bytes, between
a `head` pointer (the oldest byte) and a `tail` pointer (the next byte to
write), with `available` counting the room left. A write copies byte by byte
and resets `tail` to the block's start when it reaches the end; a delete and a
pop move `head` in one addition and pull it back by `total` once; a peek finds
its first byte by a remainder.

The pointers are offsets from `base` here, and the block is the list `base`.
A store or a read outside the block is a failure value, and so is a failed
`CHECK`. The `size_t` lengths the callers pass are `UInt64` values, the width
of the LP64 targets, and the one sum that can pass `SIZE_MAX`, the
`offset + length` of `ringbuffer_peek`, is taken modulo `2 ^ 64` as the code
computes it.

The bytes the buffer holds are read off the block from `head`, `size` of them
around the cycle (`contents`), and the buffer refines a bounded FIFO of
capacity `total` (`BoundedFifo`) through that view: every call the stack can
make returns what the same call on the FIFO returns and leaves the FIFO's
contents, from any state that keeps the layout invariant (`RingInvariant`).
The one exception is a peek whose `offset + length` passes `SIZE_MAX`: the sum
wraps, the clamp is skipped, and the peek returns `length` bytes, going round
the block as many times as it takes.
-/

namespace Fluoride.Ringbuffer

open ByteBuffer SeqWindow

/-- Sums of `size_t` values are taken modulo this on the LP64 targets. -/
def sizeTModulus : Nat := 2 ^ 64

/-- A ring buffer: `ringbuffer_t`, with `head` and `tail` as offsets into the
block `base` of `total` bytes. -/
structure RingbufferT where
  total : Nat
  available : Nat
  base : List UInt8
  head : Nat
  tail : Nat
deriving Repr, DecidableEq

/-- How a call goes wrong: a failed `CHECK`, or a read or a store outside the
memory it points into. -/
inductive RingbufferFailure where
  | checkFailed
  | outOfBounds
deriving Repr, DecidableEq

/-- `ringbuffer_init`: an empty buffer over a zeroed block of `size` bytes. -/
def ringbufferInit (size : UInt64) : RingbufferT :=
  { total := size.toNat, available := size.toNat, base := List.replicate size.toNat 0,
    head := 0, tail := 0 }

/-- `ringbuffer_available`. -/
def ringbufferAvailable (rb : RingbufferT) : Nat := rb.available

/-- `ringbuffer_size`. -/
def ringbufferSize (rb : RingbufferT) : Nat := rb.total - rb.available

/-- The copy loop of `ringbuffer_insert`: `*rb->tail++ = *p++`, then `tail` back
to `base` when it reaches the end of the block, `count` times. -/
def insertLoop (total : Nat) : List UInt8 → Nat → List UInt8 → Nat → Option (List UInt8 × Nat)
  | base, tail, _, 0 => some (base, tail)
  | base, tail, p, count + 1 => do
    let byte ← p.head?
    let base ← store? base tail [byte]
    insertLoop total base (if tail + 1 ≥ total then 0 else tail + 1) p.tail count

/-- `ringbuffer_insert`: as many of the `length` bytes at `p` as there is room
for, and their number. -/
def ringbufferInsert (rb : RingbufferT) (p : List UInt8) (length : UInt64) :
    Except RingbufferFailure (RingbufferT × Nat) :=
  let length := if length.toNat > ringbufferAvailable rb then ringbufferAvailable rb
    else length.toNat
  match insertLoop rb.total rb.base rb.tail p length with
  | none => .error .outOfBounds
  | some (base, tail) => .ok ({ rb with base, tail, available := rb.available - length }, length)

/-- `ringbuffer_delete`: drop up to `length` bytes from the head. -/
def ringbufferDelete (rb : RingbufferT) (length : UInt64) : RingbufferT × Nat :=
  let length := if length.toNat > ringbufferSize rb then ringbufferSize rb else length.toNat
  let head := rb.head + length
  ({ rb with head := if head ≥ rb.total then head - rb.total else head,
             available := rb.available + length }, length)

/-- The copy loop of `ringbuffer_peek`: `*p++ = *b++`, then `b` back to `base`
when it reaches the end of the block, `count` times. -/
def peekLoop (total : Nat) (base : List UInt8) : Nat → Nat → Option (List UInt8)
  | _, 0 => some []
  | b, count + 1 => do
    let byte ← base[b]?
    let rest ← peekLoop total base (if b + 1 ≥ total then 0 else b + 1) count
    return byte :: rest

/-- `ringbuffer_peek`: up to `length` bytes from `offset` bytes past the head,
and their number. The clamp compares the `size_t` sum `offset + length`. -/
def ringbufferPeek (rb : RingbufferT) (offset : Int) (length : UInt64) :
    Except RingbufferFailure (Nat × List UInt8) :=
  if offset < 0 ∨ offset.toNat > ringbufferSize rb then .error .checkFailed
  else
    let b := (rb.head + offset.toNat) % rb.total
    let bytesToCopy := if (offset.toNat + length.toNat) % sizeTModulus > ringbufferSize rb
      then ringbufferSize rb - offset.toNat else length.toNat
    match peekLoop rb.total rb.base b bytesToCopy with
    | none => .error .outOfBounds
    | some bytes => .ok (bytesToCopy, bytes)

/-- `ringbuffer_pop`: a peek from the head, then the head moves past what was copied. -/
def ringbufferPop (rb : RingbufferT) (length : UInt64) :
    Except RingbufferFailure (RingbufferT × Nat × List UInt8) := do
  let (copied, bytes) ← ringbufferPeek rb 0 length
  let head := rb.head + copied
  return ({ rb with head := if head ≥ rb.total then head - rb.total else head,
                    available := rb.available + copied }, copied, bytes)

/-- A call of the ring buffer's interface, with the caller's bytes for an insert. -/
inductive RingbufferCall where
  | insert (p : List UInt8) (length : UInt64)
  | delete (length : UInt64)
  | peek (offset : Int) (length : UInt64)
  | pop (length : UInt64)
  | size
  | available
deriving Repr, DecidableEq

/-- One call: the buffer after it, the `size_t` it returns and the bytes it
copies out to the caller. -/
def ringbufferStep (rb : RingbufferT) :
    RingbufferCall → Except RingbufferFailure (RingbufferT × List (Nat × List UInt8))
  | .insert p length => (ringbufferInsert rb p length).map fun (rb, added) => (rb, [(added, [])])
  | .delete length =>
    let (rb, deleted) := ringbufferDelete rb length
    .ok (rb, [(deleted, [])])
  | .peek offset length => (ringbufferPeek rb offset length).map fun peeked => (rb, [peeked])
  | .pop length => (ringbufferPop rb length).map fun (rb, popped) => (rb, [popped])
  | .size => .ok (rb, [(ringbufferSize rb, [])])
  | .available => .ok (rb, [(ringbufferAvailable rb, [])])

/-! ## The FIFO the buffer stands for -/

/-- The bytes the buffer holds, oldest first: `size` bytes of the block from
`head` on, around the cycle. -/
def contents (rb : RingbufferT) : List UInt8 :=
  (numbers rb.total rb.head (ringbufferSize rb)).map fun index => rb.base.getD index 0

/-- The buffer seen as a FIFO of capacity `total`. -/
def abstraction (rb : RingbufferT) : BoundedFifo UInt8 :=
  ⟨rb.total, contents rb, by simp [contents, ringbufferSize]⟩

/-- The same calls on a FIFO: the interface as its header describes it. A peek
past the end and a negative offset fail their `CHECK`, and an insert whose
caller has fewer bytes than it takes reads past them. -/
def fifoStep (queue : BoundedFifo UInt8) :
    RingbufferCall → Except RingbufferFailure (BoundedFifo UInt8 × List (Nat × List UInt8))
  | .insert p length =>
    match queue.insert p length.toNat with
    | none => .error .outOfBounds
    | some (queue, added) => .ok (queue, [(added, [])])
  | .delete length =>
    let (queue, deleted) := queue.delete length.toNat
    .ok (queue, [(deleted, [])])
  | .peek offset length =>
    if offset < 0 ∨ offset.toNat > queue.items.length then .error .checkFailed
    else .ok (queue, [queue.peek offset.toNat length.toNat])
  | .pop length =>
    let (queue, popped) := queue.pop length.toNat
    .ok (queue, [popped])
  | .size => .ok (queue, [(queue.items.length, [])])
  | .available => .ok (queue, [(queue.free, [])])

/-- A call whose `size_t` arithmetic does not wrap: a peek's `offset + length`
stays below `2 ^ 64`. -/
def CallFits : RingbufferCall → Prop
  | .peek offset length => offset + length.toNat < sizeTModulus
  | _ => True

instance (call : RingbufferCall) : Decidable (CallFits call) :=
  match call with
  | .peek offset length => inferInstanceAs (Decidable (offset + length.toNat < sizeTModulus))
  | .insert _ _ | .delete _ | .pop _ | .size | .available => inferInstanceAs (Decidable True)

/-- The layout a buffer keeps: a non-empty block of `total` bytes, `head`
inside it, `available` at most `total`, and `tail` `size` bytes past `head`
around the cycle. -/
structure RingInvariant (rb : RingbufferT) : Prop where
  positive : 0 < rb.total
  storage : rb.base.length = rb.total
  headBound : rb.head < rb.total
  availableBound : rb.available ≤ rb.total
  tailAt : rb.tail = (rb.head + ringbufferSize rb) % rb.total

/-! ## The copy loops -/

section Loops

variable {total : Nat}

/-- Inside the block, the peek loop reads `count` bytes around the cycle from `b`. -/
theorem peekLoop_eq (base : List UInt8) (storage : base.length = total) (count : Nat) :
    ∀ b, b < total →
      peekLoop total base b count = some ((numbers total b count).map fun index => base.getD index 0) := by
  induction count with
  | zero => intro b _; rfl
  | succ count inductionHypothesis =>
    intro b inside
    have read : base[b]? = some (base.getD b 0) := by
      rw [List.getD_eq_getElem?_getD, List.getElem?_eq_getElem (by omega)]
      rfl
    have nextInside : (b + 1) % total < total := Nat.mod_lt _ (by omega)
    rw [peekLoop, read, succ_wrap_eq_mod b inside, inductionHypothesis _ nextInside,
      numbers_cons, numbers_mod, Nat.mod_eq_of_lt inside]
    rfl

/-- Storing a byte just past a window of fewer than `total` bytes extends the window by it. -/
theorem window_set_next (base : List UInt8) (storage : base.length = total) (head used : Nat)
    (byte : UInt8) (short : used < total) :
    (numbers total head (used + 1)).map (fun index => (base.set ((head + used) % total) byte).getD index 0) =
      (numbers total head used).map (fun index => base.getD index 0) ++ [byte] := by
  have untouched : ∀ index ∈ numbers total head used,
      (base.set ((head + used) % total) byte).getD index 0 = base.getD index 0 := by
    intro index member
    have apart : (head + used) % total ≠ index := fun same =>
      not_mem_numbers head used short (same ▸ member)
    rw [List.getD_eq_getElem?_getD, List.getElem?_set_ne apart, ← List.getD_eq_getElem?_getD]
  have stored : (base.set ((head + used) % total) byte).getD ((head + used) % total) 0 = byte := by
    rw [List.getD_eq_getElem?_getD, List.getElem?_set_self (by rw [storage]; exact Nat.mod_lt _ (by omega))]
    rfl
  rw [numbers_succ, List.map_append, List.map_singleton, List.map_congr_left untouched, stored]

/-- With room for `count` more bytes and at least `count` bytes at `p`, the insert
loop from the byte after a window of `used` bytes succeeds, leaves `tail` after
the new bytes, and the window grows by them. -/
theorem insertLoop_window (head : Nat) (positive : 0 < total) (count : Nat) :
    ∀ base used p, base.length = total → used + count ≤ total → count ≤ p.length →
      ∃ stored, insertLoop total base ((head + used) % total) p count =
          some (stored, (head + (used + count)) % total) ∧ stored.length = total ∧
        (numbers total head (used + count)).map (fun index => stored.getD index 0) =
          (numbers total head used).map (fun index => base.getD index 0) ++ p.take count := by
  induction count with
  | zero =>
    intro base used p storage _ _
    exact ⟨base, rfl, storage, by simp⟩
  | succ count inductionHypothesis =>
    intro base used p storage room enough
    obtain ⟨byte, rest, rfl⟩ : ∃ byte rest, p = byte :: rest := by
      cases p with
      | nil => simp at enough
      | cons byte rest => exact ⟨byte, rest, rfl⟩
    have tailInside : (head + used) % total < total := Nat.mod_lt _ positive
    have nextTail : (if (head + used) % total + 1 ≥ total then 0 else (head + used) % total + 1) =
        (head + (used + 1)) % total := by
      rw [succ_wrap_eq_mod _ tailInside, Nat.mod_add_mod, Nat.add_assoc]
    obtain ⟨stored, looped, storedLength, grown⟩ :=
      inductionHypothesis (base.set ((head + used) % total) byte) (used + 1) rest
        (by rw [List.length_set, storage]) (by omega) (by simp at enough; omega)
    refine ⟨stored, ?_, storedLength, ?_⟩
    · rw [insertLoop, List.head?_cons]
      simp only [Option.bind_eq_bind, Option.bind_some, List.tail_cons]
      rw [store?_singleton _ _ _ (by omega), Option.bind_some, nextTail, looped,
        show used + 1 + count = used + (count + 1) by omega]
    · rw [show used + (count + 1) = used + 1 + count by omega, grown,
        window_set_next base storage head used byte (by omega), List.take_succ_cons,
        List.append_assoc, List.singleton_append]

/-- An insert loop whose caller has fewer bytes than it copies reads past them. -/
theorem insertLoop_short (count : Nat) :
    ∀ base tail p, base.length = total → tail < total → p.length < count →
      insertLoop total base tail p count = none := by
  induction count with
  | zero => intro base tail p _ _ short; simp at short
  | succ count inductionHypothesis =>
    intro base tail p storage inside short
    cases p with
    | nil => rfl
    | cons byte rest =>
      rw [insertLoop, List.head?_cons]
      simp only [Option.bind_eq_bind, Option.bind_some, List.tail_cons]
      rw [store?_singleton _ _ _ (by omega), Option.bind_some]
      apply inductionHypothesis _ _ _ (by rw [List.length_set, storage])
      · split_ifs <;> omega
      · simp at short; omega

end Loops

/-! ## One call at a time -/

/-- The FIFO holds `size` bytes. -/
@[simp] theorem length_contents (rb : RingbufferT) : (contents rb).length = ringbufferSize rb := by
  simp [contents]

/-- The room the FIFO has left is what `ringbuffer_available` returns. -/
theorem free_abstraction (rb : RingbufferT) (invariant : RingInvariant rb) :
    (abstraction rb).free = ringbufferAvailable rb := by
  have := invariant.availableBound
  simp only [BoundedFifo.free, abstraction, length_contents, ringbufferSize, ringbufferAvailable]
  omega

/-- A fresh buffer keeps the layout. -/
theorem ringInvariant_init (size : UInt64) (positive : 0 < size.toNat) :
    RingInvariant (ringbufferInit size) where
  positive := positive
  storage := List.length_replicate
  headBound := positive
  availableBound := Nat.le_refl _
  tailAt := by simp [ringbufferInit, ringbufferSize]

/-- A fresh buffer is the empty FIFO. -/
theorem abstraction_init (size : UInt64) :
    abstraction (ringbufferInit size) = BoundedFifo.empty size.toNat :=
  BoundedFifo.ext rfl (by simp [abstraction, contents, ringbufferInit, ringbufferSize, numbers,
    BoundedFifo.empty])

/-- An insert whose caller has the bytes it takes appends them: `length` of
them or as many as there is room for. -/
theorem ringbufferInsert_ok (rb : RingbufferT) (invariant : RingInvariant rb) (p : List UInt8)
    (length : UInt64) (enough : min length.toNat rb.available ≤ p.length) :
    ∃ next, ringbufferInsert rb p length = .ok (next, min length.toNat rb.available) ∧
      RingInvariant next ∧ next.total = rb.total ∧
      contents next = contents rb ++ p.take (min length.toNat rb.available) := by
  have clamp : (if length.toNat > ringbufferAvailable rb then ringbufferAvailable rb
      else length.toNat) = min length.toNat rb.available := by
    unfold ringbufferAvailable
    split_ifs <;> omega
  have bounded := invariant.availableBound
  have grownSize : rb.total - (rb.available - min length.toNat rb.available) =
      ringbufferSize rb + min length.toNat rb.available := by
    unfold ringbufferSize
    omega
  obtain ⟨stored, looped, storedLength, grown⟩ :=
    insertLoop_window rb.head invariant.positive (min length.toNat rb.available) rb.base
      (ringbufferSize rb) p invariant.storage (by unfold ringbufferSize; omega) enough
  let next : RingbufferT := { rb with
    base := stored
    tail := (rb.head + (ringbufferSize rb + min length.toNat rb.available)) % rb.total
    available := rb.available - min length.toNat rb.available }
  refine ⟨next, ?_, ?_, rfl, ?_⟩
  · unfold ringbufferInsert
    dsimp only
    rw [clamp, invariant.tailAt, looped]
  · exact {
      positive := invariant.positive
      storage := storedLength
      headBound := invariant.headBound
      availableBound := by show rb.available - _ ≤ rb.total; omega
      tailAt := by
        show _ = (rb.head + (rb.total - (rb.available - min length.toNat rb.available))) % rb.total
        rw [grownSize] }
  · show (numbers rb.total rb.head (rb.total - (rb.available - min length.toNat rb.available))).map
      (fun index => stored.getD index 0) = _
    rw [grownSize, grown]
    rfl

/-- An insert whose caller has fewer bytes than it takes reads past them. -/
theorem ringbufferInsert_short (rb : RingbufferT) (invariant : RingInvariant rb) (p : List UInt8)
    (length : UInt64) (short : p.length < min length.toNat rb.available) :
    ringbufferInsert rb p length = .error .outOfBounds := by
  have clamp : (if length.toNat > ringbufferAvailable rb then ringbufferAvailable rb
      else length.toNat) = min length.toNat rb.available := by
    unfold ringbufferAvailable
    split_ifs <;> omega
  have tailInside : rb.tail < rb.total := by
    rw [invariant.tailAt]
    exact Nat.mod_lt _ invariant.positive
  unfold ringbufferInsert
  dsimp only
  rw [clamp, insertLoop_short _ _ _ _ invariant.storage tailInside short]

/-- Moving the head past `count` of the bytes held, as a delete and a pop do,
keeps the layout and drops those bytes from the front. -/
theorem consume (rb : RingbufferT) (invariant : RingInvariant rb) (count : Nat)
    (within : count ≤ ringbufferSize rb) :
    RingInvariant { rb with
        head := if rb.head + count ≥ rb.total then rb.head + count - rb.total else rb.head + count,
        available := rb.available + count } ∧
      contents { rb with
        head := if rb.head + count ≥ rb.total then rb.head + count - rb.total else rb.head + count,
        available := rb.available + count } = (contents rb).drop count := by
  have bounded := invariant.availableBound
  have moved := add_wrap_eq_mod rb.head count invariant.headBound
    (by unfold ringbufferSize at within; omega)
  have shrunk : rb.total - (rb.available + count) = ringbufferSize rb - count := by
    unfold ringbufferSize
    omega
  constructor
  · exact {
      positive := invariant.positive
      storage := invariant.storage
      headBound := by dsimp only; rw [moved]; exact Nat.mod_lt _ invariant.positive
      availableBound := by dsimp only; unfold ringbufferSize at within; omega
      tailAt := by
        change rb.tail = (_ + (rb.total - (rb.available + count))) % rb.total
        rw [moved, shrunk, Nat.mod_add_mod, Nat.add_assoc, Nat.add_sub_cancel' within]
        exact invariant.tailAt }
  · simp only [contents, ringbufferSize] at shrunk ⊢
    rw [moved, shrunk, numbers_mod, ← List.map_drop, drop_numbers]

/-- A delete keeps the layout and drops `length` bytes, or all of them, from the front. -/
theorem ringbufferDelete_spec (rb : RingbufferT) (invariant : RingInvariant rb) (length : UInt64) :
    RingInvariant (ringbufferDelete rb length).1 ∧ (ringbufferDelete rb length).1.total = rb.total ∧
      contents (ringbufferDelete rb length).1 = (contents rb).drop length.toNat ∧
      (ringbufferDelete rb length).2 = min length.toNat (ringbufferSize rb) := by
  have clamp : (if length.toNat > ringbufferSize rb then ringbufferSize rb else length.toNat) =
      min length.toNat (ringbufferSize rb) := by
    split_ifs <;> omega
  obtain ⟨kept, dropped⟩ := consume rb invariant (min length.toNat (ringbufferSize rb))
    (Nat.min_le_right _ _)
  unfold ringbufferDelete
  dsimp only
  rw [clamp]
  refine ⟨kept, rfl, ?_, rfl⟩
  rw [dropped, @List.drop_eq_drop_min _ (contents rb) length.toNat, length_contents]

/-- A peek that passes its checks copies `bytes_to_copy` bytes around the cycle,
from `offset` bytes past the head: as many as the clamp on the `size_t` sum
`offset + length` leaves. -/
theorem ringbufferPeek_ok (rb : RingbufferT) (invariant : RingInvariant rb) (offset : Int)
    (length : UInt64) (nonNegative : 0 ≤ offset) (within : offset.toNat ≤ ringbufferSize rb) :
    let bytesToCopy := if (offset.toNat + length.toNat) % sizeTModulus > ringbufferSize rb
      then ringbufferSize rb - offset.toNat else length.toNat
    ringbufferPeek rb offset length =
      .ok (bytesToCopy, (numbers rb.total (rb.head + offset.toNat) bytesToCopy).map
        fun index => rb.base.getD index 0) := by
  intro bytesToCopy
  have passes : ¬ (offset < 0 ∨ offset.toNat > ringbufferSize rb) := by omega
  unfold ringbufferPeek
  rw [if_neg passes]
  dsimp only
  rw [peekLoop_eq rb.base invariant.storage _ _ (Nat.mod_lt _ invariant.positive), numbers_mod]

/-- Without a wrapping sum, a peek returns what the FIFO shows from `offset` on. -/
theorem ringbufferPeek_fits (rb : RingbufferT) (invariant : RingInvariant rb) (offset : Int)
    (length : UInt64) (nonNegative : 0 ≤ offset) (within : offset.toNat ≤ ringbufferSize rb)
    (fits : offset + length.toNat < sizeTModulus) :
    ringbufferPeek rb offset length = .ok ((abstraction rb).peek offset.toNat length.toNat) := by
  have clamped : (if (offset.toNat + length.toNat) % sizeTModulus > ringbufferSize rb
      then ringbufferSize rb - offset.toNat else length.toNat) =
      min length.toNat (ringbufferSize rb - offset.toNat) := by
    rw [Nat.mod_eq_of_lt (by omega)]
    split_ifs <;> omega
  have shown : (numbers rb.total (rb.head + offset.toNat)
      (min length.toNat (ringbufferSize rb - offset.toNat))).map (fun index => rb.base.getD index 0) =
      ((contents rb).drop offset.toNat).take length.toNat := by
    rw [contents, ← List.map_drop, drop_numbers, ← List.map_take, List.take_eq_take_min,
      length_numbers, take_numbers _ _ _ (Nat.min_le_right _ _)]
  rw [ringbufferPeek_ok rb invariant offset length nonNegative within, clamped, shown]
  simp only [BoundedFifo.peek, abstraction, length_contents]

/-- A peek from a negative offset or from past the bytes held fails its `CHECK`. -/
theorem ringbufferPeek_check (rb : RingbufferT) (offset : Int) (length : UInt64)
    (outside : offset < 0 ∨ offset.toNat > ringbufferSize rb) :
    ringbufferPeek rb offset length = .error .checkFailed := by
  unfold ringbufferPeek
  rw [if_pos outside]

/-- A pop returns the first `length` bytes, or all of them, and drops them. -/
theorem ringbufferPop_spec (rb : RingbufferT) (invariant : RingInvariant rb) (length : UInt64) :
    ∃ next, ringbufferPop rb length =
        .ok (next, min length.toNat (ringbufferSize rb), (contents rb).take length.toNat) ∧
      RingInvariant next ∧ next.total = rb.total ∧ contents next = (contents rb).drop length.toNat := by
  have peeked := ringbufferPeek_fits rb invariant 0 length (Int.le_refl 0) (Nat.zero_le _)
    (by have := length.toNat_lt; simp only [sizeTModulus]; omega)
  simp only [BoundedFifo.peek, abstraction, length_contents, Int.toNat_zero, Nat.sub_zero,
    List.drop_zero] at peeked
  obtain ⟨kept, dropped⟩ := consume rb invariant (min length.toNat (ringbufferSize rb))
    (Nat.min_le_right _ _)
  refine ⟨_, ?_, kept, rfl, ?_⟩
  · unfold ringbufferPop
    rw [peeked]
    rfl
  · rw [dropped, @List.drop_eq_drop_min _ (contents rb) length.toNat, length_contents]

/-! ## Runs of calls -/

/-- Every call keeps the layout. -/
theorem ringbufferStep_preserves : Runs.Preserves ringbufferStep RingInvariant := by
  intro rb call next emitted invariant stepped
  cases call with
  | insert p length =>
    by_cases enough : min length.toNat rb.available ≤ p.length
    · obtain ⟨inserted, insertedOk, nextInvariant, -⟩ := ringbufferInsert_ok rb invariant p length enough
      simp only [ringbufferStep, insertedOk, Except.map, Except.ok.injEq, Prod.mk.injEq] at stepped
      exact stepped.1 ▸ nextInvariant
    · simp [ringbufferStep, ringbufferInsert_short rb invariant p length (by omega), Except.map] at stepped
  | delete length =>
    simp only [ringbufferStep, Except.ok.injEq, Prod.mk.injEq] at stepped
    exact stepped.1 ▸ (ringbufferDelete_spec rb invariant length).1
  | peek offset length =>
    cases peeked : ringbufferPeek rb offset length <;>
      simp [ringbufferStep, peeked, Except.map] at stepped
    exact stepped.1 ▸ invariant
  | pop length =>
    obtain ⟨popped, poppedOk, nextInvariant, -⟩ := ringbufferPop_spec rb invariant length
    simp only [ringbufferStep, poppedOk, Except.map, Except.ok.injEq, Prod.mk.injEq] at stepped
    exact stepped.1 ▸ nextInvariant
  | size | available =>
    simp only [ringbufferStep, Except.ok.injEq, Prod.mk.injEq] at stepped
    exact stepped.1 ▸ invariant

/-- Every call whose sums do not wrap does to the FIFO the buffer stands for what
the same call does to a FIFO: the same result, the same bytes, the same failure. -/
theorem ringbufferStep_refines (rb : RingbufferT) (invariant : RingInvariant rb)
    (call : RingbufferCall) (fits : CallFits call) :
    (ringbufferStep rb call).map (fun result => (abstraction result.1, result.2)) =
      fifoStep (abstraction rb) call := by
  cases call with
  | insert p length =>
    have room := free_abstraction rb invariant
    by_cases enough : min length.toNat rb.available ≤ p.length
    · obtain ⟨next, inserted, -, sameTotal, grown⟩ := ringbufferInsert_ok rb invariant p length enough
      have accepted := BoundedFifo.insert_eq_some (abstraction rb) (abstraction next) p length.toNat
        (by rw [room]; exact enough) sameTotal (by rw [room]; exact grown)
      rw [room] at accepted
      simp only [ringbufferStep, fifoStep, inserted, accepted]
      rfl
    · have refused := BoundedFifo.insert_eq_none (abstraction rb) p length.toNat
        (by rw [room]; unfold ringbufferAvailable; omega)
      simp only [ringbufferStep, fifoStep, ringbufferInsert_short rb invariant p length (by omega),
        refused]
      rfl
  | delete length =>
    obtain ⟨-, sameTotal, dropped, deleted⟩ := ringbufferDelete_spec rb invariant length
    have abstractDelete : (abstraction rb).delete length.toNat =
        (abstraction (ringbufferDelete rb length).1, min length.toNat (ringbufferSize rb)) :=
      Prod.ext (BoundedFifo.ext sameTotal.symm dropped.symm) (by simp [BoundedFifo.delete, abstraction])
    simp only [ringbufferStep, fifoStep, Except.map, deleted, abstractDelete]
  | peek offset length =>
    have heldLength : (abstraction rb).items.length = ringbufferSize rb := length_contents rb
    by_cases outside : offset < 0 ∨ offset.toNat > ringbufferSize rb
    · simp only [ringbufferStep, fifoStep, ringbufferPeek_check rb offset length outside, heldLength,
        if_pos outside]
      rfl
    · simp only [ringbufferStep, fifoStep, heldLength, if_neg outside,
        ringbufferPeek_fits rb invariant offset length (by omega) (by omega) fits]
      rfl
  | pop length =>
    obtain ⟨next, popped, -, sameTotal, dropped⟩ := ringbufferPop_spec rb invariant length
    have abstractPop : (abstraction rb).pop length.toNat =
        (abstraction next, min length.toNat (ringbufferSize rb), (contents rb).take length.toNat) :=
      Prod.ext (BoundedFifo.ext sameTotal.symm dropped.symm) (by simp [BoundedFifo.pop, abstraction])
    simp only [ringbufferStep, fifoStep, popped, Except.map, abstractPop]
  | size => simp [ringbufferStep, fifoStep, Except.map, abstraction]
  | available =>
    simp only [ringbufferStep, fifoStep, Except.map, free_abstraction rb invariant]

/-- From `ringbuffer_init` of a non-empty block, every sequence of calls whose
`size_t` sums do not wrap returns what the same calls return on an empty FIFO of
that capacity, fails where they fail, and leaves the buffer holding what the
FIFO holds; the `ringbuffer_size` and `ringbuffer_available` calls among them
return the FIFO's length and its free room. -/
theorem ringbuffer_refinesFifo (size : UInt64) (positive : 0 < size.toNat)
    (calls : List RingbufferCall) (fits : ∀ call ∈ calls, CallFits call) :
    (Runs.run ringbufferStep (ringbufferInit size) calls).map
        (fun result => (abstraction result.1, result.2)) =
      Runs.run fifoStep (BoundedFifo.empty size.toNat) calls := by
  rw [← abstraction_init size]
  exact Runs.run_refines ringbufferStep fifoStep abstraction RingInvariant CallFits
    ringbufferStep_preserves
    (fun rb call invariant callFits => ringbufferStep_refines rb invariant call callFits)
    (ringbufferInit size) calls (ringInvariant_init size positive) fits

/-- The calls of the library's own multiple insert and delete test, on a buffer
of 16 bytes, wrapping the tail and then the head. -/
theorem ringbuffer_refinesFifo_multiInsertDelete :
    (Runs.run ringbufferStep (ringbufferInit 16)
        [.insert (List.replicate 8 0xAA) 8, .insert (List.replicate 5 0xBB) 5, .peek 0 16,
          .delete 8, .insert (List.replicate 9 0xCC) 9, .peek 0 7, .pop 7,
          .insert (List.replicate 8 0xDD) 8, .available, .delete 16, .size,
          .insert (List.replicate 3 0xAE) 3, .pop 16, .available, .size]).map
        (fun result => (abstraction result.1, result.2)) =
      Runs.run fifoStep (BoundedFifo.empty 16)
        [.insert (List.replicate 8 0xAA) 8, .insert (List.replicate 5 0xBB) 5, .peek 0 16,
          .delete 8, .insert (List.replicate 9 0xCC) 9, .peek 0 7, .pop 7,
          .insert (List.replicate 8 0xDD) 8, .available, .delete 16, .size,
          .insert (List.replicate 3 0xAE) 3, .pop 16, .available, .size] :=
  ringbuffer_refinesFifo 16 (by decide) _ (by decide)

/-- A peek whose `offset + length` passes `SIZE_MAX` skips its clamp: after two
bytes are inserted into a buffer of four, a peek of `SIZE_MAX` bytes from offset
one returns `SIZE_MAX`, where the FIFO shows the one byte left. -/
theorem ringbufferPeek_sumWraps :
    ringbufferInsert (ringbufferInit 4) [7, 8] 2 = .ok (⟨4, 2, [7, 8, 0, 0], 0, 2⟩, 2) ∧
      (∃ bytes, ringbufferPeek ⟨4, 2, [7, 8, 0, 0], 0, 2⟩ 1 18446744073709551615 =
        .ok (18446744073709551615, bytes)) ∧
      (abstraction ⟨4, 2, [7, 8, 0, 0], 0, 2⟩).peek 1 18446744073709551615 = (1, [8]) := by
  have invariant : RingInvariant ⟨4, 2, [7, 8, 0, 0], 0, 2⟩ :=
    ⟨by decide, rfl, by decide, by decide, by decide⟩
  refine ⟨by decide, ⟨_, ringbufferPeek_ok _ invariant 1 _ (by decide) (by decide)⟩, by decide⟩

end Fluoride.Ringbuffer
