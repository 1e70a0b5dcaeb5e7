import Fluoride.Octets

/-!
# Packet views over fragments

`gd/packet` reads a received packet through a `PacketView`: a list of `View`s,
each the window `[begin_, end_)` of a shared byte vector. `PacketView::at` and
the dereference of an `Iterator` walk the fragments, taking each size off the
index; `GetSubviewList` cuts a window of the packet into windows of the
fragments it crosses, and a subview is a new `PacketView` over those.

The bytes a view stands for are its fragments' windows one after another
(`PacketView.bytes`). Every observation the stack makes of a view (`at`,
`size`, the dereference of an iterator and `extract`) is a function of those
bytes and the view's endianness, and a subview cuts the same window out of them
(`bytes_subview`). A chain of subviews of a packet in many fragments therefore
agrees with the same chain on the packet in one fragment
(`subviewChain_singleFragment`).

The template parameter `little_endian` is a field here. `View(data, begin,
end)` is modelled for `begin ≤ end`, the only way the package calls it: the
other order gives a view whose `size()` wraps. A failed `ASSERT` is `none`.
-/

namespace Fluoride.GdPacketView

/-- The `size_t` arithmetic of the iterators is modulo this on the LP64 targets. -/
def sizeTModulus : Nat := 2 ^ 64

/-- A `View`: the window `[begin_, end_)` of the shared vector `data_`. -/
structure View where
  data_ : List UInt8
  begin_ : Nat
  end_ : Nat
  begin_le_end : begin_ ≤ end_
  end_le_length : end_ ≤ data_.length

namespace View

/-- `View::size`. -/
def size (view : View) : Nat := view.end_ - view.begin_

/-- The bytes in the window. -/
def bytes (view : View) : List UInt8 := (view.data_.drop view.begin_).take view.size

/-- `View::View(data, begin, end)`: a window of a vector, each end clamped to
its size. -/
def ofData (data : List UInt8) (begin end_ : Nat) (ordered : begin ≤ end_) : View where
  data_ := data
  begin_ := min begin data.length
  end_ := min end_ data.length
  begin_le_end := by omega
  end_le_length := Nat.min_le_right end_ data.length

/-- `View::View(view, begin, end)`: a window of a view, each end clamped to its
size. -/
def sub (view : View) (begin end_ : Nat) (ordered : begin ≤ end_) : View where
  data_ := view.data_
  begin_ := min begin view.size + view.begin_
  end_ := min end_ view.size + view.begin_
  begin_le_end := by omega
  end_le_length := by
    have within := view.end_le_length
    have ordered := view.begin_le_end
    have clamped := Nat.min_le_right end_ view.size
    have sized : view.size = view.end_ - view.begin_ := rfl
    omega

/-- `View::operator[]`: `none` is the failed `ASSERT_LOG`. -/
def get (view : View) (i : Nat) : Option UInt8 :=
  if i + view.begin_ < view.end_ then view.data_[i + view.begin_]? else none

@[simp] theorem length_bytes (view : View) : view.bytes.length = view.size := by
  have within := view.end_le_length
  simp only [bytes, size, List.length_take, List.length_drop]
  omega

/-- Indexing a view reads its bytes. -/
theorem get_eq (view : View) (i : Nat) : view.get i = view.bytes[i]? := by
  rw [get, bytes, List.getElem?_take, List.getElem?_drop]
  by_cases inside : i < view.size
  · rw [if_pos (by unfold size at inside; omega), if_pos inside, Nat.add_comm]
  · rw [if_neg (by unfold size at inside; omega), if_neg inside]

theorem size_sub (view : View) (begin end_ : Nat) (ordered : begin ≤ end_) :
    (view.sub begin end_ ordered).size = min end_ view.size - min begin view.size := by
  simp only [sub, size]
  omega

/-- A window of a view holds the window of its bytes, each end clamped. -/
theorem bytes_sub (view : View) (begin end_ : Nat) (ordered : begin ≤ end_) :
    (view.sub begin end_ ordered).bytes =
      (view.bytes.drop (min begin view.size)).take (min end_ view.size - min begin view.size) := by
  have within : min end_ view.size - min begin view.size ≤ view.size - min begin view.size :=
    Nat.sub_le_sub_right (Nat.min_le_right end_ view.size) _
  rw [bytes, size_sub, bytes, List.drop_take, List.take_take, Nat.min_eq_left within,
    List.drop_drop]
  simp only [sub]
  rw [Nat.add_comm view.begin_]

theorem bytes_ofData (data : List UInt8) (begin end_ : Nat) (ordered : begin ≤ end_) :
    (ofData data begin end_ ordered).bytes = (data.drop begin).take (end_ - begin) := by
  simp only [bytes, size, ofData]
  by_cases past : data.length ≤ begin
  · rw [List.drop_eq_nil_of_le past, List.drop_eq_nil_of_le (by omega)]
    simp
  · rw [Nat.min_eq_left (Nat.le_of_lt (Nat.lt_of_not_le past)), List.take_eq_take_min,
      @List.take_eq_take_min _ _ (end_ - begin), List.length_drop]
    congr 1
    omega

end View

/-- The bytes of a list of fragments, one window after another. -/
def fragmentBytes (fragments : List View) : List UInt8 := fragments.flatMap View.bytes

@[simp] theorem fragmentBytes_nil : fragmentBytes [] = [] := rfl

@[simp] theorem fragmentBytes_cons (fragment : View) (rest : List View) :
    fragmentBytes (fragment :: rest) = fragment.bytes ++ fragmentBytes rest := rfl

theorem length_fragmentBytes (fragments : List View) :
    (fragmentBytes fragments).length = (fragments.map View.size).sum := by
  induction fragments with
  | nil => rfl
  | cons fragment rest ih => simp [ih]

/-- The walk of `PacketView::at` and `Iterator::operator*` over the fragments:
`none` when the index runs past the last one. -/
def fragmentAt : List View → Nat → Option UInt8
  | [], _ => none
  | fragment :: rest, index =>
    if index < fragment.size then fragment.get index else fragmentAt rest (index - fragment.size)

/-- The walk over the fragments reads the bytes of the fragments. -/
theorem fragmentAt_eq (fragments : List View) (index : Nat) :
    fragmentAt fragments index = (fragmentBytes fragments)[index]? := by
  induction fragments generalizing index with
  | nil => rfl
  | cons fragment rest ih =>
    rw [fragmentAt, fragmentBytes_cons]
    by_cases inside : index < fragment.size
    · rw [if_pos inside, View.get_eq, List.getElem?_append_left (by simpa using inside)]
    · rw [if_neg inside, ih, List.getElem?_append_right (by simpa using inside),
        View.length_bytes]

/-- The loop of `GetSubviewList`: `begin` counts down the fragments before the
window, `length` what is left of it. -/
def subviewLoop : List View → Nat → Nat → List View
  | [], _, _ => []
  | fragment :: rest, begin, length =>
    if begin ≥ fragment.size then subviewLoop rest (begin - fragment.size) length
    else
      let view := fragment.sub begin (begin + min length (fragment.size - begin)) (Nat.le_add_right _ _)
      view :: subviewLoop rest 0 (length - view.size)

/-- The windows `GetSubviewList` cuts hold the window of the fragments' bytes. -/
theorem fragmentBytes_subviewLoop (fragments : List View) (begin length : Nat) :
    fragmentBytes (subviewLoop fragments begin length) =
      ((fragmentBytes fragments).drop begin).take length := by
  induction fragments generalizing begin length with
  | nil => simp [subviewLoop]
  | cons fragment rest ih =>
    rw [subviewLoop, fragmentBytes_cons]
    by_cases before : fragment.size ≤ begin
    · rw [if_pos before, ih, List.drop_append,
        @List.drop_eq_nil_of_le _ fragment.bytes begin (by simpa using before), List.nil_append,
        View.length_bytes]
    · have inside : begin < fragment.size := Nat.lt_of_not_le before
      have cut : min begin fragment.size = begin := Nat.min_eq_left (Nat.le_of_lt inside)
      have reach : min (begin + min length (fragment.size - begin)) fragment.size =
          begin + min length (fragment.size - begin) := Nat.min_eq_left (by omega)
      rw [if_neg before, fragmentBytes_cons, View.bytes_sub, ih, View.size_sub, cut, reach,
        List.drop_zero, List.drop_append_of_le_length (by simpa using Nat.le_of_lt inside),
        List.take_append, List.length_drop, View.length_bytes, Nat.add_sub_cancel_left]
      congr 1
      · rw [List.take_eq_take_min, @List.take_eq_take_min _ _ length, List.length_drop,
          View.length_bytes]
        congr 1
        omega
      · congr 1
        omega

/-- A `PacketView`: its fragments, and `length_`, their total size. -/
structure PacketView where
  littleEndian : Bool
  fragments_ : List View
  length_ : Nat
  length_eq : length_ = (fragments_.map View.size).sum

namespace PacketView

/-- `PacketView(fragments)`. -/
def ofFragments (littleEndian : Bool) (fragments : List View) : PacketView :=
  ⟨littleEndian, fragments, (fragments.map View.size).sum, rfl⟩

/-- `PacketView(packet)`: one fragment over the whole vector. -/
def ofVector (littleEndian : Bool) (packet : List UInt8) : PacketView where
  littleEndian := littleEndian
  fragments_ := [View.ofData packet 0 packet.length (Nat.zero_le _)]
  length_ := packet.length
  length_eq := by simp [View.ofData, View.size]

/-- `PacketView::size`. -/
def size (packet : PacketView) : Nat := packet.length_

/-- The bytes the view stands for. -/
def bytes (packet : PacketView) : List UInt8 := fragmentBytes packet.fragments_

/-- `PacketView::at`: `none` is a failed `ASSERT_LOG`. -/
def at? (packet : PacketView) (index : Nat) : Option UInt8 :=
  if index < packet.length_ then fragmentAt packet.fragments_ index else none

/-- `GetSubviewList`: `none` is a failed `ASSERT`. -/
def getSubviewList (packet : PacketView) (begin end_ : Nat) : Option (List View) :=
  if begin ≤ end_ ∧ end_ ≤ packet.length_ then some (subviewLoop packet.fragments_ begin (end_ - begin))
  else none

/-- `GetLittleEndianSubview`. -/
def getLittleEndianSubview (packet : PacketView) (begin end_ : Nat) : Option PacketView :=
  (packet.getSubviewList begin end_).map (ofFragments true)

/-- `GetBigEndianSubview`. -/
def getBigEndianSubview (packet : PacketView) (begin end_ : Nat) : Option PacketView :=
  (packet.getSubviewList begin end_).map (ofFragments false)

@[simp] theorem length_bytes (packet : PacketView) : packet.bytes.length = packet.size := by
  rw [bytes, length_fragmentBytes, size, packet.length_eq]

@[simp] theorem bytes_ofFragments (littleEndian : Bool) (fragments : List View) :
    (ofFragments littleEndian fragments).bytes = fragmentBytes fragments := rfl

@[simp] theorem bytes_ofVector (littleEndian : Bool) (packet : List UInt8) :
    (ofVector littleEndian packet).bytes = packet := by
  simp [bytes, ofVector, View.bytes_ofData]

/-- `at` reads the bytes of the view. -/
theorem at?_eq (packet : PacketView) (index : Nat) : packet.at? index = packet.bytes[index]? := by
  rw [at?]
  by_cases inside : index < packet.length_
  · rw [if_pos inside, fragmentAt_eq, bytes]
  · rw [if_neg inside, List.getElem?_eq_none (by rw [length_bytes, size]; omega)]

end PacketView

/-- One step of a chain of subviews: the endianness asked for and the window. -/
structure SubviewStep where
  littleEndian : Bool
  begin : Nat
  end_ : Nat

namespace PacketView

/-- The subview a step asks for: `GetLittleEndianSubview` or `GetBigEndianSubview`. -/
def subview (packet : PacketView) (step : SubviewStep) : Option PacketView :=
  if step.littleEndian then packet.getLittleEndianSubview step.begin step.end_
  else packet.getBigEndianSubview step.begin step.end_

theorem subview_eq (packet : PacketView) (step : SubviewStep) :
    packet.subview step =
      if step.begin ≤ step.end_ ∧ step.end_ ≤ packet.size then
        some (ofFragments step.littleEndian (subviewLoop packet.fragments_ step.begin (step.end_ - step.begin)))
      else none := by
  rw [subview, getLittleEndianSubview, getBigEndianSubview, getSubviewList, size]
  by_cases fits : step.begin ≤ step.end_ ∧ step.end_ ≤ packet.length_
  · cases little : step.littleEndian <;> simp [fits]
  · cases step.littleEndian <;> simp [fits]

/-- A subview holds the window of the view's bytes. -/
theorem bytes_subview (packet view : PacketView) (step : SubviewStep)
    (cut : packet.subview step = some view) :
    view.littleEndian = step.littleEndian ∧
      view.bytes = (packet.bytes.drop step.begin).take (step.end_ - step.begin) := by
  rw [subview_eq] at cut
  by_cases fits : step.begin ≤ step.end_ ∧ step.end_ ≤ packet.size
  · rw [if_pos fits, Option.some_inj] at cut
    subst cut
    exact ⟨rfl, fragmentBytes_subviewLoop _ _ _⟩
  · rw [if_neg fits] at cut
    cases cut

/-- Two views that read alike: the same endianness and the same bytes. -/
def Agrees (packet other : PacketView) : Prop :=
  packet.littleEndian = other.littleEndian ∧ packet.bytes = other.bytes

/-- Views that read alike have subviews that read alike. -/
theorem subview_agrees (packet other : PacketView) (agrees : Agrees packet other)
    (step : SubviewStep) : Option.Rel Agrees (packet.subview step) (other.subview step) := by
  have sized : packet.size = other.size := by rw [← length_bytes, ← length_bytes, agrees.2]
  rw [subview_eq, subview_eq, ← sized]
  by_cases fits : step.begin ≤ step.end_ ∧ step.end_ ≤ packet.size
  · rw [if_pos fits, if_pos fits]
    refine Option.Rel.some ⟨rfl, ?_⟩
    rw [bytes_ofFragments, bytes_ofFragments, fragmentBytes_subviewLoop, fragmentBytes_subviewLoop]
    exact congrArg (fun bytes => (bytes.drop step.begin).take (step.end_ - step.begin)) agrees.2
  · rw [if_neg fits, if_neg fits]
    exact Option.Rel.none

end PacketView

/-- A chain of subviews, each cut out of the one before. -/
def subviewChain : List SubviewStep → PacketView → Option PacketView
  | [], packet => some packet
  | step :: rest, packet => (packet.subview step).bind (subviewChain rest)

/-- Views that read alike stay alike along every chain of subviews. -/
theorem subviewChain_agrees (chain : List SubviewStep) :
    ∀ packet other, PacketView.Agrees packet other →
      Option.Rel PacketView.Agrees (subviewChain chain packet) (subviewChain chain other) := by
  induction chain with
  | nil =>
    intro packet other agrees
    exact Option.Rel.some agrees
  | cons step rest ih =>
    intro packet other agrees
    rw [subviewChain, subviewChain]
    have related := PacketView.subview_agrees packet other agrees step
    generalize packet.subview step = cut at related ⊢
    generalize other.subview step = otherCut at related ⊢
    cases related with
    | none => exact Option.Rel.none
    | some cutAgrees => exact ih _ _ cutAgrees

/-- An iterator: the fragments it walks, its index and their total size. -/
structure Iterator where
  littleEndian : Bool
  data_ : List View
  index_ : Nat
  length_ : Nat

namespace Iterator

/-- `Iterator(data, offset)`. -/
def make (littleEndian : Bool) (data : List View) (offset : Nat) : Iterator :=
  ⟨littleEndian, data, offset, (data.map View.size).sum⟩

/-- `Iterator::operator+=`: the `int` offset is added to the `size_t` index. -/
def add (it : Iterator) (offset : Int) : Iterator :=
  { it with index_ := ((it.index_ + offset) % (sizeTModulus : Int)).toNat }

/-- `Iterator::operator++`. -/
def increment (it : Iterator) : Iterator := { it with index_ := it.index_ + 1 }

/-- `Iterator::operator*`: `none` is a failed `ASSERT_LOG`. -/
def deref (it : Iterator) : Option UInt8 :=
  if it.index_ < it.length_ then fragmentAt it.data_ it.index_ else none

/-- `Iterator::NumBytesRemaining`. -/
def numBytesRemaining (it : Iterator) : Nat :=
  if it.length_ > it.index_ then it.length_ - it.index_ else 0

/-- The loop of `Iterator::extract`: the `i`-th byte read is stored at `i` of the
value on a little-endian view and at `width - i - 1` on a big-endian one. -/
def extractLoop (width : Nat) : Nat → Nat → List UInt8 → Iterator → Option (List UInt8 × Iterator)
  | 0, _, value, it => some (value, it)
  | remaining + 1, i, value, it =>
    match it.deref with
    | none => none
    | some octet =>
      extractLoop width remaining (i + 1)
        (value.set (if it.littleEndian then i else width - i - 1) octet) it.increment

/-- `Iterator::extract` of a type `width` bytes wide: the bytes of the value as
they lie in memory, and the iterator moved past them. -/
def extract (it : Iterator) (width : Nat) : Option (List UInt8 × Iterator) :=
  extractLoop width width 0 (List.replicate width 0) it

/-- Two iterators that read alike: the same endianness, index and length over
the same bytes. -/
def Agrees (it other : Iterator) : Prop :=
  it.littleEndian = other.littleEndian ∧ it.index_ = other.index_ ∧ it.length_ = other.length_ ∧
    fragmentBytes it.data_ = fragmentBytes other.data_

theorem deref_agrees (it other : Iterator) (agrees : Agrees it other) : it.deref = other.deref := by
  obtain ⟨-, sameIndex, sameLength, sameBytes⟩ := agrees
  rw [deref, deref, fragmentAt_eq, fragmentAt_eq, sameIndex, sameLength, sameBytes]

theorem increment_agrees (it other : Iterator) (agrees : Agrees it other) :
    Agrees it.increment other.increment := by
  obtain ⟨sameOrder, sameIndex, sameLength, sameBytes⟩ := agrees
  exact ⟨sameOrder, congrArg (· + 1) sameIndex, sameLength, sameBytes⟩

theorem add_agrees (it other : Iterator) (agrees : Agrees it other) (offset : Int) :
    Agrees (it.add offset) (other.add offset) := by
  obtain ⟨sameOrder, sameIndex, sameLength, sameBytes⟩ := agrees
  refine ⟨sameOrder, ?_, sameLength, sameBytes⟩
  simp only [add, sameIndex]

/-- Iterators that read alike extract the same bytes and stay alike. -/
theorem extractLoop_agrees (width remaining : Nat) :
    ∀ (i : Nat) (value : List UInt8) (it other : Iterator), Agrees it other →
      Option.Rel (fun result otherResult => result.1 = otherResult.1 ∧ Agrees result.2 otherResult.2)
        (extractLoop width remaining i value it) (extractLoop width remaining i value other) := by
  induction remaining with
  | zero =>
    intro i value it other agrees
    exact Option.Rel.some ⟨rfl, agrees⟩
  | succ remaining ih =>
    intro i value it other agrees
    rw [extractLoop, extractLoop, deref_agrees it other agrees, agrees.1]
    cases other.deref with
    | none => exact Option.Rel.none
    | some octet => exact ih _ _ _ _ (increment_agrees it other agrees)

end Iterator

namespace PacketView

/-- `PacketView::begin`. -/
def begin (packet : PacketView) : Iterator := Iterator.make packet.littleEndian packet.fragments_ 0

theorem begin_agrees (packet other : PacketView) (agrees : Agrees packet other) :
    Iterator.Agrees packet.begin other.begin := by
  refine ⟨agrees.1, rfl, ?_, agrees.2⟩
  simp only [begin, Iterator.make]
  rw [← length_fragmentBytes, ← length_fragmentBytes]
  exact congrArg List.length agrees.2

/-- Views that read alike are alike to every reader: `size`, `at`, and the
dereference and `extract` of an iterator anywhere in them. -/
theorem observations_agree (packet other : PacketView) (agrees : Agrees packet other) :
    packet.size = other.size ∧ (∀ index, packet.at? index = other.at? index) ∧
      ∀ (offset : Int) (width : Nat),
        (packet.begin.add offset).deref = (other.begin.add offset).deref ∧
          ((packet.begin.add offset).extract width).map Prod.fst =
            ((other.begin.add offset).extract width).map Prod.fst := by
  have iterators := begin_agrees packet other agrees
  refine ⟨?_, ?_, ?_⟩
  · rw [← length_bytes, ← length_bytes, agrees.2]
  · intro index
    rw [at?_eq, at?_eq, agrees.2]
  · intro offset width
    have moved := Iterator.add_agrees _ _ iterators offset
    refine ⟨Iterator.deref_agrees _ _ moved, ?_⟩
    rw [Iterator.extract, Iterator.extract]
    have related := Iterator.extractLoop_agrees width width 0 (List.replicate width 0) _ _ moved
    generalize Iterator.extractLoop width width 0 (List.replicate width 0) _ = extracted at related ⊢
    generalize Iterator.extractLoop width width 0 (List.replicate width 0) _ = otherExtracted at related ⊢
    cases related with
    | none => rfl
    | some same => exact congrArg some same.1

/-- A subview has the size of its window and reads the packet's bytes there. -/
theorem subview_reads (packet : PacketView) (step : SubviewStep) (ordered : step.begin ≤ step.end_)
    (within : step.end_ ≤ packet.size) :
    ∃ view, packet.subview step = some view ∧ view.size = step.end_ - step.begin ∧
      ∀ index, index < step.end_ - step.begin → view.at? index = packet.bytes[step.begin + index]? := by
  have cut : packet.subview step = some (ofFragments step.littleEndian
      (subviewLoop packet.fragments_ step.begin (step.end_ - step.begin))) := by
    rw [subview_eq, if_pos ⟨ordered, within⟩]
  obtain ⟨-, windowBytes⟩ := bytes_subview packet _ step cut
  refine ⟨_, cut, ?_, ?_⟩
  · rw [← length_bytes, windowBytes, List.length_take, List.length_drop, length_bytes]
    omega
  · intro index inside
    rw [at?_eq, windowBytes, List.getElem?_take, if_pos inside, List.getElem?_drop]

end PacketView

/-- A chain of subviews of a packet in fragments reads as the same chain on the
packet in one fragment, and each subview has its window's size and bytes. -/
theorem subviewChain_singleFragment (packet : PacketView) (chain : List SubviewStep) :
    (∀ step : SubviewStep, step.begin ≤ step.end_ → step.end_ ≤ packet.size →
      ∃ view, packet.subview step = some view ∧ view.size = step.end_ - step.begin ∧
        ∀ index, index < step.end_ - step.begin → view.at? index = packet.bytes[step.begin + index]?) ∧
    Option.Rel
      (fun view single => view.size = single.size ∧ (∀ index, view.at? index = single.at? index) ∧
        ∀ (offset : Int) (width : Nat), (view.begin.add offset).deref = (single.begin.add offset).deref ∧
          ((view.begin.add offset).extract width).map Prod.fst =
            ((single.begin.add offset).extract width).map Prod.fst)
      (subviewChain chain packet)
      (subviewChain chain (PacketView.ofVector packet.littleEndian packet.bytes)) := by
  refine ⟨fun step ordered within => PacketView.subview_reads packet step ordered within, ?_⟩
  have single : PacketView.Agrees packet (PacketView.ofVector packet.littleEndian packet.bytes) :=
    ⟨rfl, (PacketView.bytes_ofVector _ _).symm⟩
  have related := subviewChain_agrees chain _ _ single
  generalize subviewChain chain packet = cut at related ⊢
  generalize subviewChain chain _ = singleCut at related ⊢
  cases related with
  | none => exact Option.Rel.none
  | some agrees => exact Option.Rel.some (PacketView.observations_agree _ _ agrees)

/-- A packet in three fragments, each over a vector of its own, as the packets
of `SubviewTest.subSubviewTest` are. -/
def threeFragments : PacketView :=
  PacketView.ofFragments true
    [View.ofData [0, 1, 2] 0 3 (by decide), View.ofData [3, 4] 0 2 (by decide),
      View.ofData [5, 6, 7] 0 3 (by decide)]

/-- A subview of four bytes across the fragments of a three-fragment packet
reads the packet's bytes from the start of the range. -/
theorem subviewChain_singleFragment_threeFragments :
    (2 ≤ 6 ∧ 6 ≤ threeFragments.size) ∧
      ∃ view, threeFragments.subview ⟨true, 2, 6⟩ = some view ∧ view.size = 6 - 2 ∧
        ∀ index, index < 6 - 2 → view.at? index = threeFragments.bytes[2 + index]? :=
  ⟨⟨by decide, by decide⟩,
    (subviewChain_singleFragment threeFragments []).1 ⟨true, 2, 6⟩ (by decide) (by decide)⟩

end Fluoride.GdPacketView
