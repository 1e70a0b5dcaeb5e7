import Fluoride.Bits
import Fluoride.Octets

/-!
# Packet bits: `BitInserter`, `PacketBuilder::insert` and `Iterator::extract`

The packet builders of `gd/packet` write through a `BitInserter`, which appends
bytes to a vector and keeps the bits of a byte not yet complete.
`insert_bits(byte, num_bits)` merges the low `num_bits` bits of `byte` above the
saved ones in a 16-bit value, appends its low byte once eight bits are there,
and keeps the rest masked to the bits still pending; the high bits of `byte`
are not masked before the merge.

The inserter's contents are the bits of the bytes appended followed by the
saved bits (`BitInserter.toBits`). Every call with at most eight bits appends
its low bits to them and keeps fewer than eight saved bits with nothing stale
above them (`insertBits_spec`), so a run of calls whose bit counts add up to a
multiple of eight appends the least-significant-first packing of their bits
(`insertAll_packs`).

`PacketBuilder::insert` writes a fixed-width value a byte at a time, least or
most significant first, and `Iterator::extract` reads the bytes back into the
value's bytes, in order or reversed. The value's bytes are read as the
little-endian host lays them out, and a value of `sizeof(T)` bytes is a
`BitVec (8 * size)`, signed types by their two's complement bits.
-/

namespace Fluoride.PacketBits

open Bits (lowBits octetBits packBits)
open Octets (leOctets leValue beOctets)

/-- `BitInserter`: the vector its bytes are appended to, and the bits of the
byte not yet complete. -/
structure BitInserter where
  vector : List UInt8
  numSavedBits : Nat
  savedBits : UInt8
  deriving DecidableEq, Repr

namespace BitInserter

/-- A `BitInserter` on a vector, with no saved bits. -/
def new (vector : List UInt8) : BitInserter :=
  ⟨vector, 0, 0⟩

/-- `insert_bits`: the low `num_bits` bits of `byte` after the saved ones. The
merge is a `uint16_t`, the appended byte and the saved bits its `uint8_t`
casts, and the mask `0xff >> (8 - num_saved_bits_)`. -/
def insertBits (it : BitInserter) (byte : UInt8) (numBits : Nat) : BitInserter :=
  let totalBits := numBits + it.numSavedBits
  let newValue := (it.savedBits.toNat ||| byte.toNat <<< it.numSavedBits) % 2 ^ 16
  let (vector, totalBits, newValue) :=
    if totalBits ≥ 8 then (it.vector ++ [UInt8.ofNat newValue], totalBits - 8, newValue >>> 8)
    else (it.vector, totalBits, newValue)
  let mask : UInt8 := UInt8.ofNat (0xff >>> (8 - totalBits))
  { vector, numSavedBits := totalBits, savedBits := UInt8.ofNat newValue &&& mask }

/-- `insert_byte`. -/
def insertByte (it : BitInserter) (byte : UInt8) : BitInserter :=
  it.insertBits byte 8

/-- `IsByteAligned`. -/
def isByteAligned (it : BitInserter) : Bool :=
  it.numSavedBits == 0

/-- The bits the inserter holds: those of the bytes appended, then the saved
ones. -/
def toBits (it : BitInserter) : List Bool :=
  it.vector.flatMap octetBits ++ lowBits it.savedBits.toNat it.numSavedBits

/-- Fewer than eight saved bits, and no stale bit above them. -/
structure WellFormed (it : BitInserter) : Prop where
  fewer : it.numSavedBits < 8
  clean : it.savedBits.toNat < 2 ^ it.numSavedBits

/-- A new inserter holds the bits of its vector. -/
theorem new_wellFormed (vector : List UInt8) : (new vector).WellFormed :=
  ⟨Nat.succ_pos 7, Nat.one_pos⟩

theorem toBits_new (vector : List UInt8) : (new vector).toBits = vector.flatMap octetBits := by
  simp only [toBits, new, Bits.lowBits_zero, List.append_nil]

/-- The mask of `insert_bits` keeps the low `count` bits of the byte cast from
the merged value. -/
theorem toNat_masked (value count : Nat) (small : count ≤ 8) :
    (UInt8.ofNat value &&& UInt8.ofNat (0xff >>> (8 - count))).toNat = value % 2 ^ count := by
  have mask : ∀ count ≤ 8, 0xff >>> (8 - count) = 2 ^ count - 1 := by decide
  have divides : 2 ^ count ∣ 2 ^ 8 := Nat.pow_dvd_pow 2 small
  rw [UInt8.toNat_and, UInt8.toNat_ofNat', UInt8.toNat_ofNat', mask count small,
    Nat.mod_eq_of_lt (Nat.lt_of_lt_of_le (Nat.sub_lt (Nat.two_pow_pos count) Nat.one_pos)
      (Nat.pow_le_pow_right (by decide) small)),
    Nat.and_two_pow_sub_one_eq_mod, Nat.mod_mod_of_dvd _ divides]

/-- **One call.** From a well-formed inserter, `insert_bits` with at most eight
bits adds the low bits of the byte to what the inserter holds, and the inserter
stays well formed. -/
theorem insertBits_spec (it : BitInserter) (byte : UInt8) (numBits : Nat)
    (wellFormed : it.WellFormed) (small : numBits ≤ 8) :
    (it.insertBits byte numBits).toBits = it.toBits ++ lowBits byte.toNat numBits ∧
      (it.insertBits byte numBits).WellFormed := by
  obtain ⟨fewer, clean⟩ := wellFormed
  -- the merged value: the saved bits, and the whole byte above them
  have shiftedFits : byte.toNat <<< it.numSavedBits < 2 ^ (8 + it.numSavedBits) := by
    rw [Nat.shiftLeft_eq, Nat.pow_add]
    exact Nat.mul_lt_mul_of_pos_right byte.toNat_lt (Nat.two_pow_pos _)
  have mergedFits : it.savedBits.toNat ||| byte.toNat <<< it.numSavedBits < 2 ^ 16 := by
    apply Nat.or_lt_two_pow
    · exact Nat.lt_of_lt_of_le clean (Nat.pow_le_pow_right (by decide) (by omega))
    · exact Nat.lt_of_lt_of_le shiftedFits (Nat.pow_le_pow_right (by decide) (by omega))
  have merged := Bits.lowBits_or_shiftLeft it.savedBits.toNat byte.toNat it.numSavedBits numBits
    clean
  have uncut : (it.savedBits.toNat ||| byte.toNat <<< it.numSavedBits) % 2 ^ 16 =
      it.savedBits.toNat ||| byte.toNat <<< it.numSavedBits := Nat.mod_eq_of_lt mergedFits
  by_cases full : numBits + it.numSavedBits ≥ 8
  · -- a byte is complete: it is appended, and the bits above it are kept
    simp only [insertBits, if_pos full, uncut]
    have remaining : numBits + it.numSavedBits - 8 ≤ 8 := by omega
    constructor
    · have emitted : octetBits (UInt8.ofNat (it.savedBits.toNat ||| byte.toNat <<< it.numSavedBits)) =
          lowBits (it.savedBits.toNat ||| byte.toNat <<< it.numSavedBits) 8 := by
        rw [octetBits, UInt8.toNat_ofNat']
        exact Bits.lowBits_mod _ 8 8 (Nat.le_refl 8)
      have total : it.numSavedBits + numBits = 8 + (numBits + it.numSavedBits - 8) := by omega
      rw [toBits, toNat_masked _ _ remaining, Bits.lowBits_mod _ _ _ (Nat.le_refl _),
        List.flatMap_append, List.flatMap_singleton, emitted, List.append_assoc,
        ← Bits.lowBits_add, ← total, merged, toBits, List.append_assoc]
    · constructor
      · show numBits + it.numSavedBits - 8 < 8
        omega
      · rw [toNat_masked _ _ remaining]
        exact Nat.mod_lt _ (Nat.two_pow_pos _)
  · -- no byte is complete: all the bits stay saved
    have notFull : numBits + it.numSavedBits < 8 := Nat.lt_of_not_le full
    simp only [insertBits, if_neg full, uncut]
    constructor
    · rw [toBits, toNat_masked _ _ (Nat.le_of_lt notFull),
        Bits.lowBits_mod _ _ _ (Nat.le_refl _), Nat.add_comm numBits, merged, toBits,
        List.append_assoc]
    · constructor
      · exact notFull
      · rw [toNat_masked _ _ (Nat.le_of_lt notFull)]
        exact Nat.mod_lt _ (Nat.two_pow_pos _)

/-- A run of `insert_bits` calls, each a byte and a bit count. -/
def insertAll (it : BitInserter) (calls : List (UInt8 × Nat)) : BitInserter :=
  calls.foldl (fun it call => it.insertBits call.1 call.2) it

/-- The bits a run of calls inserts: the low bits of each byte, in order. -/
def callBits (calls : List (UInt8 × Nat)) : List Bool :=
  calls.flatMap fun call => lowBits call.1.toNat call.2

theorem length_callBits (calls : List (UInt8 × Nat)) :
    (callBits calls).length = (calls.map Prod.snd).sum := by
  induction calls with
  | nil => rfl
  | cons call rest inductionHypothesis =>
    rw [callBits, List.flatMap_cons, List.length_append, Bits.length_lowBits, ← callBits,
      inductionHypothesis, List.map_cons, List.sum_cons]

/-- **A run of calls.** From a well-formed inserter, calls with at most eight
bits each add their bits in order, and the inserter stays well formed. -/
theorem insertAll_spec (it : BitInserter) (calls : List (UInt8 × Nat)) (wellFormed : it.WellFormed)
    (small : ∀ call ∈ calls, call.2 ≤ 8) :
    (insertAll it calls).toBits = it.toBits ++ callBits calls ∧ (insertAll it calls).WellFormed := by
  induction calls generalizing it with
  | nil =>
    refine ⟨?_, wellFormed⟩
    rw [insertAll, List.foldl_nil, callBits, List.flatMap_nil, List.append_nil]
  | cons call rest inductionHypothesis =>
    obtain ⟨stepped, steppedWellFormed⟩ :=
      insertBits_spec it call.1 call.2 wellFormed (small call List.mem_cons_self)
    obtain ⟨ran, ranWellFormed⟩ := inductionHypothesis _ steppedWellFormed
      (fun other inside => small other (List.mem_cons_of_mem call inside))
    have unfolded : callBits (call :: rest) = lowBits call.1.toNat call.2 ++ callBits rest := by
      rw [callBits, List.flatMap_cons]
      rfl
    refine ⟨?_, ranWellFormed⟩
    rw [insertAll, List.foldl_cons, ← insertAll, ran, stepped, unfolded, List.append_assoc]

/-- **Packing.** Calls with at most eight bits each, whose bit counts add up to
a multiple of eight, append to the vector the least-significant-first packing
of their bits, and leave no bit saved. -/
theorem insertAll_packs (vector : List UInt8) (calls : List (UInt8 × Nat))
    (small : ∀ call ∈ calls, call.2 ≤ 8) (whole : (calls.map Prod.snd).sum % 8 = 0) :
    (insertAll (new vector) calls).vector = vector ++ packBits (callBits calls) ∧
      (insertAll (new vector) calls).numSavedBits = 0 := by
  obtain ⟨ran, wellFormed⟩ := insertAll_spec (new vector) calls (new_wellFormed vector) small
  rw [toBits_new] at ran
  have counted := congrArg List.length ran
  rw [toBits, List.length_append, List.length_append, Bits.length_flatMap_octetBits,
    Bits.length_lowBits, Bits.length_flatMap_octetBits, length_callBits] at counted
  have noneSaved : (insertAll (new vector) calls).numSavedBits = 0 := by
    have fewer := wellFormed.fewer
    omega
  refine ⟨?_, noneSaved⟩
  rw [toBits, noneSaved, Bits.lowBits_zero, List.append_nil] at ran
  calc (insertAll (new vector) calls).vector
      = packBits ((insertAll (new vector) calls).vector.flatMap octetBits ++ []) := by
        rw [Bits.packBits_flatMap_append, Bits.packBits_nil, List.append_nil]
    _ = vector ++ packBits (callBits calls) := by
        rw [List.append_nil, ran, Bits.packBits_flatMap_append]

/-- The calls of `BitInserterTest.addMoreBits` give the bytes it expects. -/
example :
    (insertAll (new []) [(0, 0), (1, 1), (2, 2), (3, 3), (4, 4), (5, 5), (6, 6), (7, 7), (8, 8),
        (0b1010, 4)]).vector = [0b00011101, 0b00010101, 0b11100011, 0b10000000, 0b10100000] := by
  decide

/-- From an inserter with no saved bits, `insert_byte` appends the byte. -/
theorem insertByte_new (vector : List UInt8) (byte : UInt8) :
    (new vector).insertByte byte = new (vector ++ [byte]) := by
  have merged : ((0 : UInt8).toNat ||| byte.toNat <<< 0) % 2 ^ 16 = byte.toNat := by
    rw [UInt8.toNat_zero, Nat.zero_or, Nat.shiftLeft_zero]
    exact Nat.mod_eq_of_lt (Nat.lt_trans byte.toNat_lt (by decide))
  have full : 8 + 0 ≥ 8 := Nat.le_refl 8
  simp only [new, insertByte, insertBits, if_pos full, merged, UInt8.ofNat_toNat]
  simp

/-- From an inserter with no saved bits, `insert_byte` calls append their bytes. -/
theorem foldl_insertByte_new (vector : List UInt8) (byteAt : Nat → UInt8) (indices : List Nat) :
    indices.foldl (fun it index => it.insertByte (byteAt index)) (new vector) =
      new (vector ++ indices.map byteAt) := by
  induction indices generalizing vector with
  | nil => rw [List.foldl_nil, List.map_nil, List.append_nil]
  | cons index rest inductionHypothesis =>
    rw [List.foldl_cons, insertByte_new, inductionHypothesis, List.map_cons, List.append_assoc,
      List.singleton_append]

end BitInserter

/-- `PacketBuilder<little_endian>::insert` of a value of `sizeof(T) = size`
bytes: byte `i` is the value moved down `8 i` places, or `8 (size - i - 1)`
places for a big-endian builder. An arithmetic shift of a signed value leaves
the same low byte. -/
def insert (littleEndian : Bool) (size : Nat) (value : BitVec (8 * size)) (it : BitInserter) :
    BitInserter :=
  (List.range size).foldl (fun it i =>
    it.insertByte (UInt8.ofNat (value.toNat >>> ((if littleEndian then i else size - i - 1) * 8)))) it

/-- `Iterator<little_endian>::extract<T>` for a `T` of `size` bytes: the next
`size` bytes go to `value_ptr[i]`, or to `value_ptr[size - i - 1]` for a
big-endian iterator, and the value is read from its bytes as the little-endian
host lays them out. Reading past the end of the packet fails its assertion. -/
def extract (littleEndian : Bool) (size : Nat) (octets : List UInt8) :
    Option (BitVec (8 * size) × List UInt8) :=
  if octets.length < size then none
  else
    let read := octets.take size
    let memory := if littleEndian then read else read.reverse
    some (BitVec.ofNat (8 * size) (leValue memory), octets.drop size)

/-- The bytes `insert` writes: the value's encoding, least or most significant
byte first. -/
theorem map_range_insertedBytes (littleEndian : Bool) (size value : Nat) :
    (List.range size).map (fun i =>
        UInt8.ofNat (value >>> ((if littleEndian then i else size - i - 1) * 8))) =
      if littleEndian then leOctets size value else beOctets size value := by
  cases littleEndian with
  | true => rw [Octets.leOctets_eq_map_range]; rfl
  | false => rw [Octets.beOctets_eq_map_range]; rfl

/-- `extract` on exactly `size` bytes reads them all. -/
theorem extract_of_length (littleEndian : Bool) (size : Nat) (octets : List UInt8)
    (counted : octets.length = size) :
    extract littleEndian size octets =
      some (BitVec.ofNat (8 * size) (leValue (if littleEndian then octets else octets.reverse)), []) := by
  have enough : ¬ octets.length < size := by omega
  rw [extract, if_neg enough, List.take_of_length_le (Nat.le_of_eq counted),
    List.drop_of_length_le (Nat.le_of_eq counted)]

/-- Reading back the encoding of a value gives the value. -/
theorem extract_encoding (littleEndian : Bool) (size : Nat) (value : BitVec (8 * size)) :
    extract littleEndian size
        (if littleEndian then leOctets size value.toNat else beOctets size value.toNat) =
      some (value, []) := by
  have fits : value.toNat < 256 ^ size := by
    have bound := value.isLt
    rwa [Nat.pow_mul] at bound
  have readBack : BitVec.ofNat (8 * size) (leValue (leOctets size value.toNat)) = value := by
    rw [Octets.leValue_leOctets, Nat.mod_eq_of_lt fits, BitVec.ofNat_toNat, BitVec.setWidth_eq]
  cases littleEndian with
  | true =>
    rw [if_pos rfl, extract_of_length _ _ _ (Octets.length_leOctets size value.toNat), if_pos rfl,
      readBack]
  | false =>
    rw [if_neg Bool.false_ne_true, extract_of_length _ _ _ (Octets.length_beOctets size value.toNat),
      if_neg Bool.false_ne_true, Octets.beOctets, List.reverse_reverse, readBack]

/-- **Round trip.** A value inserted into a new inserter appends bytes from
which the iterator of the same byte order extracts the value. -/
theorem insert_extract (littleEndian : Bool) (size : Nat) (value : BitVec (8 * size))
    (vector : List UInt8) :
    ∃ octets, (insert littleEndian size value (BitInserter.new vector)).vector = vector ++ octets ∧
      extract littleEndian size octets = some (value, []) := by
  refine ⟨if littleEndian then leOctets size value.toNat else beOctets size value.toNat, ?_,
    extract_encoding littleEndian size value⟩
  rw [insert, BitInserter.foldl_insertByte_new, map_range_insertedBytes]
  rfl

/-- **The bit inserter and the byte-order round trip.** Calls to `insert_bits`
with at most eight bits each, whose counts add up to a multiple of eight, append
the least-significant-first packing of the low bits of their bytes; fewer than
eight bits are saved after every call; and a value a builder inserts is
extracted back by the iterator of the same byte order. -/
theorem bitInserter_packs :
    (∀ (vector : List UInt8) (calls : List (UInt8 × Nat)), (∀ call ∈ calls, call.2 ≤ 8) →
      (calls.map Prod.snd).sum % 8 = 0 →
      (BitInserter.insertAll (BitInserter.new vector) calls).vector =
        vector ++ packBits (BitInserter.callBits calls)) ∧
    (∀ (vector : List UInt8) (calls : List (UInt8 × Nat)), (∀ call ∈ calls, call.2 ≤ 8) →
      ∀ count, (BitInserter.insertAll (BitInserter.new vector) (calls.take count)).numSavedBits < 8) ∧
    (∀ (littleEndian : Bool) (size : Nat) (value : BitVec (8 * size)) (vector : List UInt8),
      ∃ octets, (insert littleEndian size value (BitInserter.new vector)).vector = vector ++ octets ∧
        extract littleEndian size octets = some (value, [])) := by
  refine ⟨fun vector calls small whole => (BitInserter.insertAll_packs vector calls small whole).1,
    fun vector calls small count => ?_, insert_extract⟩
  have prefixSmall : ∀ call ∈ calls.take count, call.2 ≤ 8 :=
    fun call inside => small call (List.mem_of_mem_take inside)
  exact (BitInserter.insertAll_spec _ _ (BitInserter.new_wellFormed vector) prefixSmall).2.fewer

/-- The calls of `BitInserterTest.addMoreBits`: `i` bits of `i` for each `i`
up to 8, then the four bits `1010`; after the first three calls three bits are
saved. -/
theorem bitInserter_packs_addMoreBits :
    (BitInserter.insertAll (BitInserter.new [])
        [(0, 0), (1, 1), (2, 2), (3, 3), (4, 4), (5, 5), (6, 6), (7, 7), (8, 8), (0b1010, 4)]).vector =
      [] ++ packBits (BitInserter.callBits
        [(0, 0), (1, 1), (2, 2), (3, 3), (4, 4), (5, 5), (6, 6), (7, 7), (8, 8), (0b1010, 4)]) ∧
    (BitInserter.insertAll (BitInserter.new [])
        ([(0, 0), (1, 1), (2, 2), (3, 3), (4, 4), (5, 5), (6, 6), (7, 7), (8, 8),
          (0b1010, 4)].take 3)).numSavedBits < 8 :=
  ⟨bitInserter_packs.1 []
    [(0, 0), (1, 1), (2, 2), (3, 3), (4, 4), (5, 5), (6, 6), (7, 7), (8, 8), (0b1010, 4)]
    (by decide) (by decide),
  bitInserter_packs.2.1 []
    [(0, 0), (1, 1), (2, 2), (3, 3), (4, 4), (5, 5), (6, 6), (7, 7), (8, 8), (0b1010, 4)]
    (by decide) 3⟩

end Fluoride.PacketBits
