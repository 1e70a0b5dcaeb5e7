import Mathlib

/-!
# Buffers as lists of cells

A buffer is a list of cells; a C `memcpy` or a run of `*p++ = b` stores into it
overwrite a window of consecutive cells. `writeAt` is that overwrite when the
window lies inside the buffer; `copy?` is the checked version, which refuses a
negative count and a window that leaves either buffer. A refused copy is the
shallow-embedding image of undefined behaviour, so a safety theorem is a
theorem that no reachable call of `copy?` returns `none`.

Two-byte little-endian fields (`le16`, `readLe16`) and the window view
`window` complete the vocabulary that the packet models share. Nothing here
names a protocol: the lemmas are the algebra of writes and reads that the
models' proofs cite by name.
-/

namespace ByteBuffer

universe u
variable {α : Type u}

/-- Overwrite the cells from `position` on with `source`. Inside the buffer the
length is kept; the definition is total so that it can be evaluated. -/
def writeAt (buffer : List α) (position : Nat) (source : List α) : List α :=
  buffer.take position ++ source ++ buffer.drop (position + source.length)

/-- The `count` cells starting at `position`, as a C reader would see them
through `buffer + position`. -/
def window (buffer : List α) (position count : Nat) : List α :=
  (buffer.drop position).take count

/-- A `memcpy` of `count` cells from `source + start` to `destination + position`.
A negative count (a C `int` converted to `size_t`) and a window outside either
buffer are refused. -/
def copy? (destination : List α) (position : Nat) (source : List α) (start : Nat)
    (count : Int) : Option (List α) :=
  if count < 0 then none
  else if position + count.toNat ≤ destination.length ∧ start + count.toNat ≤ source.length then
    some (writeAt destination position (window source start count.toNat))
  else none

/-- A run of byte stores `*p++ = b` from `buffer + position`; a store outside the
buffer is refused. -/
def store? (buffer : List α) (position : Nat) (source : List α) : Option (List α) :=
  if position + source.length ≤ buffer.length then some (writeAt buffer position source)
  else none

/-- A write inside the buffer keeps its length. -/
@[simp] theorem length_writeAt (buffer : List α) (position : Nat) (source : List α)
    (inside : position + source.length ≤ buffer.length) :
    (writeAt buffer position source).length = buffer.length := by
  simp only [writeAt, List.length_append, List.length_take, List.length_drop]
  omega

/-- Cells before the written window are untouched. -/
theorem take_writeAt_of_le (buffer : List α) (position : Nat) (source : List α) (count : Nat)
    (before : count ≤ position) (reached : position ≤ buffer.length) :
    (writeAt buffer position source).take count = buffer.take count := by
  have prefixLength : (buffer.take position).length = position := by
    simp only [List.length_take]
    omega
  rw [writeAt, List.append_assoc, List.take_append_of_le_length (by omega), List.take_take,
    Nat.min_eq_left before]

/-- Cells after the written window are untouched. -/
theorem drop_writeAt_of_le (buffer : List α) (position : Nat) (source : List α) (count : Nat)
    (after : position + source.length ≤ count) (reached : position ≤ buffer.length) :
    (writeAt buffer position source).drop count = buffer.drop count := by
  have prefixLength : (buffer.take position ++ source).length = position + source.length := by
    simp only [List.length_append, List.length_take]
    omega
  rw [writeAt, List.drop_append, List.drop_eq_nil_of_le (by omega), List.nil_append,
    List.drop_drop, prefixLength]
  congr 1
  omega

/-- Reading from the start of the window gives the source and then the old cells. -/
theorem drop_writeAt_self (buffer : List α) (position : Nat) (source : List α)
    (reached : position ≤ buffer.length) :
    (writeAt buffer position source).drop position =
      source ++ buffer.drop (position + source.length) := by
  have prefixLength : (buffer.take position).length = position := by
    simp only [List.length_take]
    omega
  rw [writeAt, List.append_assoc, List.drop_append_of_le_length (by omega),
    List.drop_eq_nil_of_le (by omega), List.nil_append]

/-- The written window reads back as the source. -/
theorem window_writeAt_self (buffer : List α) (position : Nat) (source : List α)
    (reached : position ≤ buffer.length) :
    window (writeAt buffer position source) position source.length = source := by
  rw [window, drop_writeAt_self buffer position source reached, List.take_left']
  rfl

/-- A window splits at any point inside it. -/
theorem window_add (buffer : List α) (position first second : Nat) :
    window buffer position (first + second) =
      window buffer position first ++ window buffer (position + first) second := by
  simp only [window, List.take_add, List.drop_drop]

/-- The beginning of a window is a shorter window. -/
theorem take_window (buffer : List α) (position count keep : Nat) (within : keep ≤ count) :
    (window buffer position count).take keep = window buffer position keep := by
  simp only [window, List.take_take, Nat.min_eq_left within]

/-- The end of a window is a window further on. -/
theorem drop_window (buffer : List α) (position count skip : Nat) :
    (window buffer position count).drop skip = window buffer (position + skip) (count - skip) := by
  simp only [window, List.drop_take, List.drop_drop]

/-- A window of a buffer seen through a map is the map of the window. -/
theorem window_map {β : Type u} (f : α → β) (buffer : List α) (position count : Nat) :
    window (buffer.map f) position count = (window buffer position count).map f := by
  simp only [window, List.map_drop, List.map_take]

/-- A window inside the buffer has the requested length. -/
theorem length_window (buffer : List α) (position count : Nat)
    (inside : position + count ≤ buffer.length) : (window buffer position count).length = count := by
  simp only [window, List.length_take, List.length_drop]
  omega

/-- The first cell of a non-empty window is the cell where it starts. -/
theorem getElem?_of_window (buffer : List α) (position count : Nat) (first : α) (rest : List α)
    (contents : window buffer position count = first :: rest) : buffer[position]? = some first := by
  have positive : 0 < count := by
    rcases Nat.eq_zero_or_pos count with empty | positive
    · simp [window, empty] at contents
    · exact positive
  have head := congrArg (fun cells => cells[0]?) contents
  simp only [window, List.getElem?_take_of_lt positive, List.getElem?_drop, Nat.add_zero] at head
  simpa using head

/-- A window that ends before a write starts does not see the write. -/
theorem window_writeAt_of_before (buffer : List α) (position : Nat) (source : List α)
    (start count : Nat) (before : start + count ≤ position) (reached : position ≤ buffer.length) :
    window (writeAt buffer position source) start count = window buffer start count := by
  have cut (list : List α) : window list start count = (list.take (start + count)).drop start := by
    rw [window, List.take_drop]
  rw [cut, cut, take_writeAt_of_le buffer position source (start + count) before reached]

/-- A window that starts after a write ends does not see the write. -/
theorem window_writeAt_of_after (buffer : List α) (position : Nat) (source : List α)
    (start count : Nat) (after : position + source.length ≤ start)
    (reached : position ≤ buffer.length) :
    window (writeAt buffer position source) start count = window buffer start count := by
  have shifted (list : List α) : window list start count =
      ((list.drop (position + source.length)).drop (start - (position + source.length))).take
        count := by
    rw [window, List.drop_drop]
    congr 2
    omega
  rw [shifted, shifted, drop_writeAt_of_le buffer position source _ (Nat.le_refl _) reached]

/-- A header written just before a window reads, with the window, as the
header followed by the window's old cells. -/
theorem window_writeAt_prefix (buffer : List α) (start : Nat) (header : List α) (count : Nat)
    (reached : start + header.length ≤ buffer.length) :
    window (writeAt buffer start header) start (header.length + count) =
      header ++ window buffer (start + header.length) count := by
  rw [window_add, window_writeAt_self _ _ _ (by omega),
    window_writeAt_of_after _ _ _ _ _ (Nat.le_refl _) (by omega)]

/-- A source written right after a window extends the window by the source. -/
theorem window_writeAt_append (buffer : List α) (start count : Nat) (source : List α)
    (inside : start + count + source.length ≤ buffer.length) :
    window (writeAt buffer (start + count) source) start (count + source.length) =
      window buffer start count ++ source := by
  rw [window_add, window_writeAt_of_before _ _ _ _ _ (Nat.le_refl _) (by omega),
    window_writeAt_self _ _ _ (by omega)]

/-- A window between a write before it and a write after it sees neither. -/
theorem window_writeAt_between (buffer : List α) (start : Nat) (header trailer : List α)
    (trailerStart position count : Nat) (afterHeader : start + header.length ≤ position)
    (beforeTrailer : position + count ≤ trailerStart) (reached : trailerStart ≤ buffer.length) :
    window (writeAt (writeAt buffer start header) trailerStart trailer) position count =
      window buffer position count := by
  have framedLength : (writeAt buffer start header).length = buffer.length :=
    length_writeAt _ _ _ (by omega)
  rw [window_writeAt_of_before _ _ _ _ _ beforeTrailer (by omega),
    window_writeAt_of_after _ _ _ _ _ afterHeader (by omega)]

/-- A header written before a body and a trailer written after it frame the
body: the window over the three is their concatenation. -/
theorem window_writeAt_around (buffer : List α) (start : Nat) (header body : List α) (trailer : α)
    (inside : start + header.length + body.length + 1 ≤ buffer.length)
    (holds : window buffer (start + header.length) body.length = body) :
    window (writeAt (writeAt buffer start header) (start + header.length + body.length) [trailer])
        start (header.length + body.length + 1) = header ++ body ++ [trailer] := by
  have headerInside : start + header.length ≤ buffer.length := by omega
  have framedLength : (writeAt buffer start header).length = buffer.length :=
    length_writeAt _ _ _ headerInside
  have headerPart : window (writeAt (writeAt buffer start header)
      (start + header.length + body.length) [trailer]) start header.length = header := by
    rw [window_writeAt_of_before _ _ _ _ _ (by omega) (by omega),
      window_writeAt_self _ _ _ (by omega)]
  have bodyPart : window (writeAt (writeAt buffer start header)
      (start + header.length + body.length) [trailer]) (start + header.length) body.length =
      body := by
    rw [window_writeAt_between _ _ _ _ _ _ _ (Nat.le_refl _) (Nat.le_refl _) (by omega), holds]
  have trailerPart : window (writeAt (writeAt buffer start header)
      (start + header.length + body.length) [trailer]) (start + header.length + body.length) 1 =
      [trailer] :=
    window_writeAt_self _ _ [trailer] (by omega)
  rw [window_add, window_add, headerPart, bodyPart, ← Nat.add_assoc, trailerPart]

/-- Writing the next source right after an already assembled prefix extends the
prefix, in a buffer whose rest is a run of one filler cell. This is the shape of
every reassembly buffer: data so far, then cells not yet written. -/
theorem writeAt_append_replicate (assembled source : List α) (filler : α) (spare : Nat) :
    writeAt (assembled ++ List.replicate spare filler) assembled.length source =
      assembled ++ source ++ List.replicate (spare - source.length) filler := by
  simp only [writeAt, List.take_left', List.drop_append,
    List.drop_eq_nil_of_le (by omega : assembled.length ≤ assembled.length + source.length),
    List.nil_append, List.drop_replicate]
  congr 3
  omega

/-- Overwriting a middle part by a source of the same length replaces just that part. -/
theorem writeAt_append_of_length_eq (front middle back source : List α)
    (sameLength : source.length = middle.length) :
    writeAt (front ++ middle ++ back) front.length source = front ++ source ++ back := by
  have frontPart : (front ++ middle ++ back).take front.length = front := by
    rw [List.append_assoc, List.take_left' rfl]
  have backPart : (front ++ middle ++ back).drop (front.length + source.length) = back := by
    rw [List.drop_left' (by rw [List.length_append, sameLength])]
  rw [writeAt, frontPart, backPart]

/-- Writing a header into the end of a run of filler cells in front of a body. -/
theorem writeAt_replicate_append (count : Nat) (filler : α) (source rest : List α)
    (fits : source.length ≤ count) :
    writeAt (List.replicate count filler ++ rest) (count - source.length) source =
      List.replicate (count - source.length) filler ++ source ++ rest := by
  have split : List.replicate count filler =
      List.replicate (count - source.length) filler ++ List.replicate source.length filler := by
    rw [List.replicate_append_replicate, Nat.sub_add_cancel fits]
  have overwritten := writeAt_append_of_length_eq (List.replicate (count - source.length) filler)
    (List.replicate source.length filler) rest source (by rw [List.length_replicate])
  rw [List.length_replicate] at overwritten
  rw [split, overwritten]

/-- The window just after a run of filler cells sees the cells that follow it. -/
theorem window_replicate_append (count : Nat) (filler : α) (front rest : List α) :
    window (List.replicate count filler ++ (front ++ rest)) count front.length = front := by
  have skipped : (List.replicate count filler ++ (front ++ rest)).drop count = front ++ rest :=
    List.drop_left' List.length_replicate
  rw [window, skipped, List.take_left' rfl]

/-- A successful checked copy is the unchecked overwrite with the read window. -/
theorem copy?_eq_some (destination : List α) (position : Nat) (source : List α) (start : Nat)
    (count : Nat) (fitsDestination : position + count ≤ destination.length)
    (fitsSource : start + count ≤ source.length) :
    copy? destination position source start count =
      some (writeAt destination position (window source start count)) := by
  simp [copy?, fitsDestination, fitsSource]

/-- Copying a whole source into the front of a fresh buffer of filler cells. -/
theorem copy?_replicate (source : List α) (filler : α) (count : Nat)
    (fits : source.length ≤ count) :
    copy? (List.replicate count filler) 0 source 0 source.length =
      some (source ++ List.replicate (count - source.length) filler) := by
  have fresh := writeAt_append_replicate [] source filler count
  rw [List.nil_append, List.nil_append, List.length_nil] at fresh
  rw [copy?_eq_some _ _ _ _ _ (by simp [fits]) (by omega), window, List.drop_zero,
    List.take_length, fresh]

/-- Stores inside the buffer are the overwrite. -/
theorem store?_eq_some (buffer : List α) (position : Nat) (source : List α)
    (inside : position + source.length ≤ buffer.length) :
    store? buffer position source = some (writeAt buffer position source) := by
  simp [store?, inside]

/-- A one-cell store inside the buffer sets that cell. -/
theorem store?_singleton (buffer : List α) (position : Nat) (value : α)
    (inside : position < buffer.length) :
    store? buffer position [value] = some (buffer.set position value) := by
  rw [store?_eq_some _ _ _ (by simp; omega), writeAt, List.set_eq_take_append_cons_drop,
    if_pos inside]
  simp

/-- A store that succeeded lay inside the buffer and is the overwrite. -/
theorem store?_some (buffer : List α) (position : Nat) (source result : List α)
    (stored : store? buffer position source = some result) :
    position + source.length ≤ buffer.length ∧ result = writeAt buffer position source := by
  unfold store? at stored
  split_ifs at stored with inside
  exact ⟨inside, (Option.some.inj stored).symm⟩

/-- A run of stores inside a C array of `size` cells, declared with its size. -/
def writeVector {size : Nat} (array : Vector α size) (position : Nat) (source : List α)
    (inside : position + source.length ≤ size) : Vector α size :=
  ⟨(writeAt array.toList position source).toArray, by
    rw [List.size_toArray, length_writeAt _ _ _ (by simpa using inside), Vector.length_toList]⟩

/-- A run of stores into a C array of `size` cells; a store outside the array
is refused. -/
def storeVector? {size : Nat} (array : Vector α size) (position : Nat) (source : List α) :
    Option (Vector α size) :=
  if inside : position + source.length ≤ size then some (writeVector array position source inside)
  else none

/-- A store of one cell followed by stores just after it is one run of
stores. -/
theorem writeAt_cons (buffer : List α) (position : Nat) (first : α) (rest : List α)
    (inside : position < buffer.length) :
    writeAt (writeAt buffer position [first]) (position + 1) rest =
      writeAt buffer position (first :: rest) := by
  have prefixLength : (buffer.take position).length = position := by simp; omega
  have shift : position + 1 + rest.length - position = rest.length + 1 := by omega
  simp only [writeAt, List.take_append, List.drop_append, prefixLength, List.length_cons,
    List.length_nil, List.take_take, Nat.min_eq_right (Nat.le_succ position), shift,
    List.drop_succ_cons, List.drop_drop,
    List.drop_eq_nil_of_le (show (buffer.take position).length ≤ position + 1 + rest.length by
      rw [prefixLength]; omega),
    List.nil_append, List.append_assoc, List.cons_append, Nat.add_sub_cancel_left,
    List.take_succ_cons, List.take_zero, Nat.zero_add]
  rw [show position + 1 + rest.length = position + (rest.length + 1) by omega]

/-- The same for a C array. -/
theorem writeVector_cons {size : Nat} (array : Vector α size) (position : Nat) (first : α)
    (rest : List α) (headFits : position + [first].length ≤ size)
    (restFits : position + 1 + rest.length ≤ size) (allFits : position + (first :: rest).length ≤ size) :
    writeVector (writeVector array position [first] headFits) (position + 1) rest restFits =
      writeVector array position (first :: rest) allFits := by
  apply Vector.toList_inj.mp
  have inside : position < array.toList.length := by simp at headFits ⊢; omega
  simp only [writeVector, Vector.toList_mk]
  exact writeAt_cons array.toList position first rest inside

/-- The run written into a C array reads back. -/
theorem window_writeVector_self {size : Nat} (array : Vector α size) (position : Nat)
    (source : List α) (inside : position + source.length ≤ size) :
    window (writeVector array position source inside).toList position source.length = source := by
  have reached : position ≤ array.toList.length := by simp; omega
  simp only [writeVector, Vector.toList_mk]
  exact window_writeAt_self array.toList position source reached

/-- Stores inside the array are the overwrite. -/
theorem storeVector?_eq_some {size : Nat} (array : Vector α size) (position : Nat)
    (source : List α) (inside : position + source.length ≤ size) :
    storeVector? array position source = some (writeVector array position source inside) := by
  simp [storeVector?, inside]

/-- A copy that succeeded had a count of at least zero, lay inside both buffers
and is the overwrite with the read window. -/
theorem copy?_some (destination : List α) (position : Nat) (source : List α) (start : Nat)
    (count : Int) (result : List α)
    (copied : copy? destination position source start count = some result) :
    0 ≤ count ∧ position + count.toNat ≤ destination.length ∧
      start + count.toNat ≤ source.length ∧
      result = writeAt destination position (window source start count.toNat) := by
  unfold copy? at copied
  split_ifs at copied with negative inside
  exact ⟨by omega, inside.1, inside.2, (Option.some.inj copied).symm⟩

/-- A negative count is always refused. -/
theorem copy?_negative (destination : List α) (position : Nat) (source : List α) (start : Nat)
    (count : Int) (negative : count < 0) :
    copy? destination position source start count = none := by
  simp [copy?, negative]

/-- A window reaching past the destination's end is refused. -/
theorem copy?_overflow (destination : List α) (position : Nat) (source : List α) (start : Nat)
    (count : Nat) (overflow : destination.length < position + count) :
    copy? destination position source start count = none := by
  have notFits : ¬ (position + count ≤ destination.length) := by omega
  simp [copy?, notFits]

/-- The value a C `int` expression leaves in a `uint16_t` it is stored into. -/
def u16 (value : Int) : Nat := (value % 65536).toNat

/-- A value that fits is stored unchanged. -/
theorem u16_of_lt (value : Int) (nonNegative : 0 ≤ value) (fits : value < 65536) :
    u16 value = value.toNat := by
  simp only [u16, Int.emod_eq_of_lt nonNegative fits]

/-- A natural number that fits is stored unchanged. -/
@[simp] theorem u16_natCast (value : Nat) (fits : value < 65536) : u16 value = value := by
  rw [u16_of_lt value (Int.natCast_nonneg value) (by omega), Int.toNat_natCast]

/-- A sum of natural numbers that fits is stored unchanged. -/
theorem u16_add (first second : Nat) (fits : first + second < 65536) :
    u16 ((first : Int) + second) = first + second := by
  rw [← Int.natCast_add, u16_natCast _ fits]

/-- A difference of natural numbers that does not go below zero is stored unchanged. -/
theorem u16_sub (first second : Nat) (le : second ≤ first) (fits : first < 65536) :
    u16 ((first : Int) - second) = first - second := by
  rw [← Int.natCast_sub le, u16_natCast _ (by omega)]

/-- Two little-endian bytes of a 16-bit field; higher bits are dropped as a
store into a `uint16_t` drops them. -/
def le16 (value : Nat) : List UInt8 :=
  [UInt8.ofNat value, UInt8.ofNat (value / 256)]

/-- The 16-bit little-endian field at `position`; missing bytes read as zero. -/
def readLe16 (bytes : List UInt8) (position : Nat) : Nat :=
  (bytes.getD position 0).toNat + 256 * (bytes.getD (position + 1) 0).toNat

@[simp] theorem length_le16 (value : Nat) : (le16 value).length = 2 := rfl

/-- A stored field reads back modulo `2 ^ 16`. -/
theorem readLe16_le16 (value : Nat) : readLe16 (le16 value) 0 = value % 65536 := by
  simp only [readLe16, le16, List.getD_cons_zero, List.getD_cons_succ, UInt8.toNat_ofNat']
  omega

/-- A 16-bit field is below `2 ^ 16`. -/
theorem readLe16_lt (bytes : List UInt8) (position : Nat) : readLe16 bytes position < 65536 := by
  have low := (bytes.getD position 0).toNat_lt
  have high := (bytes.getD (position + 1) 0).toNat_lt
  simp only [readLe16]
  omega

/-- A field at the front of a longer list reads back modulo `2 ^ 16`. -/
theorem readLe16_le16_append (value : Nat) (rest : List UInt8) :
    readLe16 (le16 value ++ rest) 0 = value % 65536 := by
  simp only [readLe16, le16, List.cons_append, List.getD_cons_zero, List.getD_cons_succ,
    UInt8.toNat_ofNat']
  omega

/-- A field read at `position` is the field at the start of the dropped list. -/
theorem readLe16_drop (bytes : List UInt8) (position : Nat) :
    readLe16 bytes position = readLe16 (bytes.drop position) 0 := by
  simp only [readLe16, List.getD_eq_getElem?_getD, List.getElem?_drop, Nat.add_zero,
    Nat.zero_add]

/-- A window of at least two bytes starts with the field at its position. -/
theorem readLe16_window (bytes : List UInt8) (position count : Nat) (atLeastTwo : 2 ≤ count) :
    readLe16 (window bytes position count) 0 = readLe16 bytes position := by
  rw [readLe16_drop bytes position]
  obtain ⟨more, rfl⟩ : ∃ more, count = 2 + more := ⟨count - 2, by omega⟩
  have firstInside : 0 < 2 + more := by omega
  have secondInside : 1 < 2 + more := by omega
  simp only [readLe16, window, List.getD_eq_getElem?_getD, List.getElem?_take, firstInside,
    secondInside, if_true, List.getElem?_drop, Nat.add_zero, Nat.zero_add]

/-- A field read inside a window is the field of the buffer at that place. -/
theorem readLe16_window_at (bytes : List UInt8) (position count index : Nat)
    (within : index + 2 ≤ count) :
    readLe16 (window bytes position count) index = readLe16 bytes (position + index) := by
  rw [readLe16_drop, drop_window, readLe16_window _ _ _ (by omega)]

/-- A field written as two little-endian bytes reads back modulo `2 ^ 16`. -/
theorem readLe16_writeAt_self (buffer : List UInt8) (position value : Nat)
    (reached : position ≤ buffer.length) :
    readLe16 (writeAt buffer position (le16 value)) position = value % 65536 := by
  rw [readLe16_drop, drop_writeAt_self _ _ _ reached, readLe16_le16_append]

/-- A field inside a write reads as the field of the source. -/
theorem readLe16_writeAt_inside (buffer : List UInt8) (position : Nat) (source : List UInt8)
    (index : Nat) (within : index + 2 ≤ source.length) (reached : position ≤ buffer.length) :
    readLe16 (writeAt buffer position source) (position + index) = readLe16 source index := by
  rw [← readLe16_window_at _ position source.length index within,
    window_writeAt_self _ _ _ reached]

/-- A field that ends before a write starts is untouched by it. -/
theorem readLe16_writeAt_of_before (buffer : List UInt8) (position : Nat) (source : List UInt8)
    (field : Nat) (before : field + 2 ≤ position) (reached : position ≤ buffer.length) :
    readLe16 (writeAt buffer position source) field = readLe16 buffer field := by
  rw [← readLe16_window _ field 2 (Nat.le_refl 2), ← readLe16_window buffer field 2 (Nat.le_refl 2),
    window_writeAt_of_before _ _ _ _ _ before reached]

/-- A field that starts after a write ends is untouched by it. -/
theorem readLe16_writeAt_of_after (buffer : List UInt8) (position : Nat) (source : List UInt8)
    (field : Nat) (after : position + source.length ≤ field) (reached : position ≤ buffer.length) :
    readLe16 (writeAt buffer position source) field = readLe16 buffer field := by
  rw [← readLe16_window _ field 2 (Nat.le_refl 2), ← readLe16_window buffer field 2 (Nat.le_refl 2),
    window_writeAt_of_after _ _ _ _ _ after reached]

/-- A field inside the first of two lists reads the same through both. -/
theorem readLe16_append_of_le (front back : List UInt8) (position : Nat)
    (inside : position + 2 ≤ front.length) :
    readLe16 (front ++ back) position = readLe16 front position := by
  simp only [readLe16, List.getD_eq_getElem?_getD,
    List.getElem?_append_left (show position < front.length by omega),
    List.getElem?_append_left (show position + 1 < front.length by omega)]

/-- A field past the first of two lists reads from the second. -/
theorem readLe16_append_length (front back : List UInt8) (position : Nat) :
    readLe16 (front ++ back) (front.length + position) = readLe16 back position := by
  simp only [readLe16, List.getD_eq_getElem?_getD, Nat.add_assoc,
    List.getElem?_append_right (Nat.le_add_right _ _), Nat.add_sub_cancel_left]

/-- A field stored after a prefix reads back, modulo `2 ^ 16`, at the prefix's
length. -/
theorem readLe16_append_le16 (front back : List UInt8) (value : Nat) :
    readLe16 (front ++ le16 value ++ back) front.length = value % 65536 := by
  have shifted := readLe16_append_length front (le16 value ++ back) 0
  rw [Nat.add_zero] at shifted
  rw [List.append_assoc, shifted, readLe16_le16_append]

/-- The window over the middle of three lists is that list. -/
theorem window_append_length (front middle back : List α) :
    window (front ++ middle ++ back) front.length middle.length = middle := by
  simp [window]

end ByteBuffer
