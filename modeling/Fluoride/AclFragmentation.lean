import Fluoride.PacketFragmenter
import Fluoride.Segments

/-!
# What `fragment_and_dispatch` sends

An outgoing ACL packet whose header carries a handle word and the length of a
payload `P` leaves the fragmenter as the fragments `fragmentImages` describes:
`P` is cut into `segments D P` for the controller's data size `D`, the first
fragment carries the packet's handle word and every later one the same handle
with the continuation boundary flag, every fragment's length word is the
length of its piece, and only the last one completes the send.

The proof follows the loop. `Layout` says what the shared buffer holds at the
top of every iteration: a header and the payload still to send. One iteration
(`fragmentLoop_cut`) sends the current header with the first `D` payload bytes
and leaves a `Layout` for the rest, the new header written over the four bytes
before it; the loop theorem (`fragmentLoop_sends`) is the induction on fuel.
-/

namespace Fluoride.AclFragmentation

open ByteBuffer Segments PacketFragmenter

/-- What a `fragmented` call hands to the HCI layer: the packet's bytes and
whether the send is complete. The other callbacks send nothing. -/
def sent : Callback UInt8 → Option (List UInt8 × Bool)
  | .fragmented packet sendComplete => some (packet.payload, sendComplete)
  | _ => none

/-- One ACL fragment on the wire: the handle word, the length word and the piece. -/
def frameBytes (handle : Nat) (piece : List UInt8) : List UInt8 :=
  le16 handle ++ le16 piece.length ++ piece

/-- The wire image of a payload cut into `pieces`: the first piece behind
`handle`, the others behind `continuationHandle`, and only the last completing
the send. -/
def fragmentImages (handle continuationHandle : Nat) : List (List UInt8) → List (List UInt8 × Bool)
  | [] => []
  | [piece] => [(frameBytes handle piece, true)]
  | piece :: next :: rest =>
    (frameBytes handle piece, false) ::
      fragmentImages continuationHandle continuationHandle (next :: rest)

/-- There is one fragment for each piece. -/
theorem length_fragmentImages (handle continuationHandle : Nat) (pieces : List (List UInt8)) :
    (fragmentImages handle continuationHandle pieces).length = pieces.length := by
  induction pieces generalizing handle with
  | nil => rfl
  | cons piece rest inductionHypothesis =>
    cases rest with
    | nil => rfl
    | cons next more =>
      simp only [fragmentImages, List.length_cons, inductionHypothesis]

/-- The fragment at position `index` frames the piece at that position, behind
the first handle only at position zero, and completes the send only at the end. -/
theorem getElem_fragmentImages (handle continuationHandle : Nat) (pieces : List (List UInt8))
    (index : Nat) (inside : index < (fragmentImages handle continuationHandle pieces).length) :
    (fragmentImages handle continuationHandle pieces)[index] =
      (frameBytes (if index = 0 then handle else continuationHandle)
        (pieces.get ⟨index, by rw [length_fragmentImages] at inside; exact inside⟩),
        decide (index + 1 = pieces.length)) := by
  induction pieces generalizing handle index with
  | nil => simp [fragmentImages] at inside
  | cons piece rest inductionHypothesis =>
    cases rest with
    | nil =>
      have first : index = 0 := by simpa [fragmentImages] using inside
      subst first
      simp [fragmentImages]
    | cons next more =>
      cases index with
      | zero => simp [fragmentImages]
      | succ index =>
        simp only [fragmentImages, List.getElem_cons_succ]
        rw [inductionHypothesis]
        simp

@[simp] theorem length_frameBytes (handle : Nat) (piece : List UInt8) :
    (frameBytes handle piece).length = piece.length + hciAclPreambleSize := by
  simp only [frameBytes, List.length_append, length_le16, hciAclPreambleSize]
  omega

/-- Behind the four header bytes a frame holds its piece. -/
@[simp] theorem drop_frameBytes (handle : Nat) (piece : List UInt8) :
    (frameBytes handle piece).drop hciAclPreambleSize = piece := by
  simp [frameBytes, le16, hciAclPreambleSize]

/-- The handle word of a frame reads back modulo `2 ^ 16`. -/
theorem readLe16_frameBytes_handle (handle : Nat) (piece : List UInt8) :
    readLe16 (frameBytes handle piece) 0 = handle % 65536 := by
  rw [frameBytes, List.append_assoc, readLe16_le16_append]

/-- The length word of a frame reads back as the piece's length modulo `2 ^ 16`. -/
theorem readLe16_frameBytes_length (handle : Nat) (piece : List UInt8) :
    readLe16 (frameBytes handle piece) 2 = piece.length % 65536 := by
  have dropped : (frameBytes handle piece).drop 2 = le16 piece.length ++ piece := by
    simp [frameBytes, le16]
  rw [readLe16_drop, dropped, readLe16_le16_append]

/-- Stripping the headers off the fragments gives back the pieces. -/
theorem map_drop_fragmentImages (handle continuationHandle : Nat) (pieces : List (List UInt8)) :
    (fragmentImages handle continuationHandle pieces).map
        (fun fragment => fragment.1.drop hciAclPreambleSize) = pieces := by
  induction pieces generalizing handle with
  | nil => rfl
  | cons piece rest inductionHypothesis =>
    cases rest with
    | nil => simp [fragmentImages]
    | cons next more =>
      simp only [fragmentImages, List.map_cons, drop_frameBytes, inductionHypothesis]

/-- Every fragment frames one of the pieces behind one of the two handles. -/
theorem mem_fragmentImages (handle continuationHandle : Nat) (pieces : List (List UInt8))
    (fragment : List UInt8 × Bool) (member : fragment ∈ fragmentImages handle continuationHandle pieces) :
    ∃ word piece, piece ∈ pieces ∧ (word = handle ∨ word = continuationHandle) ∧
      fragment.1 = frameBytes word piece := by
  obtain ⟨index, inside, rfl⟩ := List.mem_iff_getElem.mp member
  have pieceInside : index < pieces.length := by
    rwa [length_fragmentImages] at inside
  refine ⟨if index = 0 then handle else continuationHandle, pieces[index],
    List.getElem_mem pieceInside, ?_, ?_⟩
  · by_cases first : index = 0
    · exact Or.inl (if_pos first)
    · exact Or.inr (if_neg first)
  · rw [getElem_fragmentImages, List.get_eq_getElem]

/-- The buffer of an outgoing ACL packet at the top of an iteration: a 16-bit
handle word and the length word of `payload` at the offset, then `payload`,
all inside the buffer and below the 16-bit offset limit, with no segment budget
in `layer_specific`. -/
structure Layout (packet : BtHdr UInt8) (handle : Nat) (payload : List UInt8) : Prop where
  handleWord : handle < 65536
  length : packet.len = payload.length + hciAclPreambleSize
  noBudget : packet.layerSpecific = 0
  offsetFits : packet.offset + packet.len < 65536
  inBuffer : packet.offset + packet.len ≤ packet.data.length
  header : window packet.data packet.offset hciAclPreambleSize = le16 handle ++ le16 payload.length
  body : window packet.data (packet.offset + hciAclPreambleSize) payload.length = payload

/-- A laid-out packet is its header followed by its payload. -/
theorem payload_of_layout (packet : BtHdr UInt8) (handle : Nat) (payload : List UInt8)
    (layout : Layout packet handle payload) :
    packet.payload = le16 handle ++ le16 payload.length ++ payload := by
  rw [BtHdr.payload, layout.length, Nat.add_comm, window_add, layout.header, layout.body]

/-- The continuation handle is again a 16-bit word. -/
theorem applyContinuationFlag_lt (handle : Nat) : applyContinuationFlag handle < 65536 := by
  have masked : handle &&& 0xCFFF < 2 ^ 16 :=
    Nat.lt_of_le_of_lt Nat.and_le_right (by decide)
  exact Nat.or_lt_two_pow masked (by decide)

/-- The continuation handle carries the boundary flag `01`. -/
theorem getBoundaryFlag_applyContinuationFlag (handle : Nat) :
    getBoundaryFlag (applyContinuationFlag handle) = 1 := by
  apply Nat.eq_of_testBit_eq
  intro index
  simp only [getBoundaryFlag, applyContinuationFlag, Nat.testBit_and, Nat.testBit_or,
    Nat.testBit_shiftRight]
  rcases index with _ | _ | index
  · have continuationBit : Nat.testBit 0x1000 12 = true := by decide
    simp [continuationBit]
  · have clearedBit : Nat.testBit 0xCFFF 13 = false := by decide
    have unsetBit : Nat.testBit 0x1000 13 = false := by decide
    have oneBit : Nat.testBit 1 1 = false := by decide
    simp [clearedBit, unsetBit, oneBit]
  · have outside (value : Nat) (small : value < 4) : Nat.testBit value (index + 2) = false := by
      apply Nat.testBit_lt_two_pow
      calc value < 2 ^ 2 := small
        _ ≤ 2 ^ (index + 2) := Nat.pow_le_pow_right (by decide) (by omega)
    simp [outside 3 (by decide), outside 1 (by decide)]

/-- Outside the boundary flag field the continuation handle is the handle. -/
theorem applyContinuationFlag_and_flagless (handle : Nat) :
    applyContinuationFlag handle &&& 0xCFFF = handle &&& 0xCFFF := by
  have clearedFlag : (0x1000 &&& 0xCFFF : Nat) = 0 := by decide
  rw [applyContinuationFlag, Nat.and_or_distrib_right, Nat.and_assoc, Nat.and_self, clearedFlag,
    Nat.or_zero]

/-- The continuation handle names the same connection. -/
theorem applyContinuationFlag_and_handleMask (handle : Nat) :
    applyContinuationFlag handle &&& handleMask = handle &&& handleMask := by
  have inside : (0xCFFF &&& handleMask : Nat) = handleMask := by decide
  rw [← inside, ← Nat.and_assoc, applyContinuationFlag_and_flagless, Nat.and_assoc]

/-- A packet that fits the controller leaves the loop as the final fragment. -/
theorem fragmentLoop_last (dataSize maxPacketSize continuationHandle fuel : Nat)
    (packet : BtHdr UInt8) (remaining : Nat) (fits : remaining ≤ maxPacketSize) :
    fragmentLoop dataSize maxPacketSize continuationHandle (fuel + 1) packet remaining =
      some [.fragmented packet true] := by
  have notLonger : ¬ (remaining > maxPacketSize) := by omega
  simp only [fragmentLoop, if_neg notLonger]

/-- One iteration sends the header with the first `dataSize` payload bytes and
leaves the rest of the payload behind a continuation header. -/
theorem fragmentLoop_cut (dataSize continuationHandle fuel : Nat) (packet : BtHdr UInt8)
    (handle : Nat) (payload : List UInt8) (layout : Layout packet handle payload)
    (continuationWord : continuationHandle < 65536) (longer : dataSize < payload.length) :
    ∃ sized next,
      fragmentLoop dataSize (dataSize + hciAclPreambleSize) continuationHandle (fuel + 1) packet
          (payload.length + hciAclPreambleSize) =
        (fragmentLoop dataSize (dataSize + hciAclPreambleSize) continuationHandle fuel next
          ((payload.drop dataSize).length + hciAclPreambleSize)).map
          (.fragmented sized false :: ·) ∧
      sent (.fragmented sized false) =
        some (le16 handle ++ le16 dataSize ++ payload.take dataSize, false) ∧
      Layout next continuationHandle (payload.drop dataSize) := by
  obtain ⟨handleWord, length, noBudget, offsetFits, inBuffer, header, body⟩ := layout
  simp only [hciAclPreambleSize] at length offsetFits header body ⊢
  have restLength : (payload.drop dataSize).length = payload.length - dataSize := by
    simp only [List.length_drop]
  have remainingEq : u16 (((payload.length + 4 : Nat) : Int) - (dataSize : Int)) =
      payload.length - dataSize + 4 := by
    rw [u16_of_lt _ (by omega) (by omega)]
    omega
  have offsetEq : u16 ((packet.offset : Int) + (dataSize : Int)) = packet.offset + dataSize := by
    rw [u16_of_lt _ (by omega) (by omega)]
    omega
  have lengthWordEq : u16 (((payload.length - dataSize + 4 : Nat) : Int) -
      (hciAclPreambleSize : Nat)) = payload.length - dataSize := by
    rw [u16_of_lt _ (by simp only [hciAclPreambleSize]; omega)
      (by simp only [hciAclPreambleSize]; omega)]
    simp only [hciAclPreambleSize]
    omega
  let sizedData := writeAt packet.data (packet.offset + 2) (le16 dataSize)
  let nextData := writeAt sizedData (packet.offset + dataSize)
    (le16 continuationHandle ++ le16 (payload.length - dataSize))
  have sizedLength : sizedData.length = packet.data.length :=
    length_writeAt _ _ _ (by simp only [length_le16]; omega)
  have nextLength : nextData.length = packet.data.length := by
    rw [length_writeAt _ _ _ (by simp only [List.length_append, length_le16]; omega), sizedLength]
  refine ⟨{ packet with
      data := sizedData
      len := dataSize + 4 },
    { packet with
      data := nextData
      offset := packet.offset + dataSize
      len := payload.length - dataSize + 4 }, ?_, ?_, ?_⟩
  · have longerPacket : payload.length + 4 > dataSize + 4 := by omega
    simp only [fragmentLoop, if_pos longerPacket, noBudget, ne_eq, not_true_eq_false, if_false,
      remainingEq, offsetEq, lengthWordEq, restLength]
    rfl
  · have headerWindow : window sizedData packet.offset 4 = le16 handle ++ le16 dataSize := by
      rw [show (4 : Nat) = 2 + 2 from rfl, window_add,
        window_writeAt_of_before _ _ _ _ _ (Nat.le_refl _) (by omega),
        ← take_window packet.data packet.offset 4 2 (by omega), header,
        show packet.offset + 2 = packet.offset + 2 from rfl]
      have written : window sizedData (packet.offset + 2) 2 = le16 dataSize :=
        window_writeAt_self packet.data (packet.offset + 2) (le16 dataSize) (by omega)
      rw [written]
      rfl
    have bodyWindow : window sizedData (packet.offset + 4) dataSize = payload.take dataSize := by
      rw [window_writeAt_of_after _ _ _ _ _ (by simp only [length_le16]; omega) (by omega),
        ← take_window packet.data (packet.offset + 4) payload.length dataSize (by omega), body]
    simp only [sent, BtHdr.payload, Option.some.injEq, Prod.mk.injEq, and_true]
    rw [Nat.add_comm dataSize 4, window_add, headerWindow, bodyWindow]
  · refine ⟨continuationWord, ?_, noBudget, ?_, ?_, ?_, ?_⟩
    · simp only [hciAclPreambleSize, restLength]
    · simp only
      omega
    · simp only [nextLength]
      omega
    · simp only [hciAclPreambleSize, restLength]
      have written := window_writeAt_self sizedData (packet.offset + dataSize)
        (le16 continuationHandle ++ le16 (payload.length - dataSize)) (by omega)
      simpa only [List.length_append, length_le16] using written
    · simp only [hciAclPreambleSize, restLength]
      rw [window_writeAt_of_after _ _ _ _ _ (by simp only [List.length_append, length_le16]; omega)
          (by omega),
        window_writeAt_of_after _ _ _ _ _ (by simp only [length_le16]; omega) (by omega),
        show packet.offset + dataSize + 4 = packet.offset + 4 + dataSize by omega,
        ← drop_window, body]

/-- The loop sends the fragments of the remaining payload: enough fuel always
finishes, and the fragments are `fragmentImages` of `segments dataSize`. -/
theorem fragmentLoop_sends (dataSize continuationHandle : Nat) (positive : 0 < dataSize)
    (continuationWord : continuationHandle < 65536) (fuel : Nat) (packet : BtHdr UInt8)
    (handle : Nat) (payload : List UInt8) (layout : Layout packet handle payload)
    (enough : payload.length < fuel) :
    ∃ emitted,
      fragmentLoop dataSize (dataSize + hciAclPreambleSize) continuationHandle fuel packet
          (payload.length + hciAclPreambleSize) = some emitted ∧
      emitted.map sent =
        (fragmentImages handle continuationHandle (segments dataSize payload)).map some := by
  induction fuel generalizing packet handle payload with
  | zero => omega
  | succ fuel inductionHypothesis =>
    by_cases longer : dataSize < payload.length
    · obtain ⟨sized, next, stepped, sentFirst, nextLayout⟩ :=
        fragmentLoop_cut dataSize continuationHandle fuel packet handle payload layout
          continuationWord longer
      have restEnough : (payload.drop dataSize).length < fuel := by
        simp only [List.length_drop]
        omega
      obtain ⟨later, ran, laterSent⟩ :=
        inductionHypothesis next continuationHandle (payload.drop dataSize) nextLayout restEnough
      refine ⟨.fragmented sized false :: later, by rw [stepped, ran]; rfl, ?_⟩
      obtain ⟨piece, pieces, restSegments⟩ :
          ∃ piece pieces, segments dataSize (payload.drop dataSize) = piece :: pieces :=
        List.exists_cons_of_ne_nil (segments_ne_nil dataSize _)
      have firstLength : (payload.take dataSize).length = dataSize := by
        simp only [List.length_take]
        omega
      rw [List.map_cons, sentFirst, laterSent, segments_of_lt dataSize payload positive longer,
        restSegments]
      simp only [fragmentImages, frameBytes, firstLength, List.map_cons]
    · have fits : payload.length ≤ dataSize := by omega
      refine ⟨[.fragmented packet true],
        fragmentLoop_last dataSize _ continuationHandle fuel packet _ (by omega), ?_⟩
      simp only [List.map_cons, List.map_nil, sent, payload_of_layout packet handle payload layout,
        segments_of_le dataSize payload fits, fragmentImages, frameBytes]

/-- An outgoing ACL packet is sent as the fragments of its payload cut to the
data size of its controller, whenever that size is positive and leaves room for
the header in a 16-bit length. -/
theorem fragmentAndDispatch_sends (controller : Controller) (packet : BtHdr UInt8)
    (handle : Nat) (payload : List UInt8) (outgoing : packet.event &&& msgEvtMask = msgStackToHcHciAcl)
    (positive : 0 < maxDataSize controller packet)
    (headerFits : maxDataSize controller packet + hciAclPreambleSize < 65536)
    (layout : Layout packet handle payload) :
    ∃ emitted, fragmentAndDispatch controller packet = some emitted ∧
      emitted.map sent = (fragmentImages handle (applyContinuationFlag handle)
        (segments (maxDataSize controller packet) payload)).map some := by
  have packetSize : u16 ((maxDataSize controller packet : Int) + (hciAclPreambleSize : Nat)) =
      maxDataSize controller packet + hciAclPreambleSize := by
    rw [u16_of_lt _ (by omega) (by omega)]
    omega
  have handleRead : readLe16 packet.data packet.offset = handle := by
    rw [← readLe16_window packet.data packet.offset hciAclPreambleSize (by decide), layout.header,
      readLe16_le16_append, Nat.mod_eq_of_lt layout.handleWord]
  obtain ⟨emitted, ran, sentAll⟩ := fragmentLoop_sends (maxDataSize controller packet)
    (applyContinuationFlag handle) positive (applyContinuationFlag_lt handle) (packet.len + 1)
    packet handle payload layout (by rw [layout.length]; omega)
  refine ⟨emitted, ?_, sentAll⟩
  simp only [fragmentAndDispatch, outgoing, ne_eq, not_true_eq_false, if_false, packetSize,
    handleRead]
  rw [← ran, layout.length]

/-- What a correct fragmentation of `payload` for the data size `dataSize` sends,
as the list of (bytes, send complete) pairs handed to the HCI layer: the right
number of fragments, only the last completing the send, none longer than the
data size and a header, each with its own length in its length word, the first
behind `handle` and the later ones behind `handle` with the boundary flag set to
continuation, all but the last full, and the payloads concatenating to `payload`. -/
structure WellFragmented (dataSize handle : Nat) (payload : List UInt8)
    (fragments : List (List UInt8 × Bool)) : Prop where
  count : fragments.length = max 1 ((payload.length + dataSize - 1) / dataSize)
  completes : ∀ index (inside : index < fragments.length),
    fragments[index].2 = decide (index + 1 = fragments.length)
  bounded : ∀ fragment ∈ fragments, fragment.1.length ≤ dataSize + hciAclPreambleSize
  lengthWord : ∀ fragment ∈ fragments,
    readLe16 fragment.1 2 + hciAclPreambleSize = fragment.1.length
  firstHandle : ∀ (nonEmpty : 0 < fragments.length), readLe16 fragments[0].1 0 = handle
  laterHandles : ∀ index (inside : index < fragments.length), 0 < index →
    getBoundaryFlag (readLe16 fragments[index].1 0) = 1 ∧
      readLe16 fragments[index].1 0 &&& 0xCFFF = handle &&& 0xCFFF
  fullPieces : ∀ index (beforeLast : index + 1 < fragments.length),
    (fragments[index].1.drop hciAclPreambleSize).length = dataSize
  payloads : (fragments.map fun fragment => fragment.1.drop hciAclPreambleSize).flatten = payload

/-- The fragments the fragmenter sends for a 16-bit handle word are a correct
fragmentation of the payload, for every positive data size that leaves room for
the header in 16 bits. -/
theorem fragmentImages_wellFragmented (dataSize handle : Nat) (payload : List UInt8)
    (positive : 0 < dataSize) (handleWord : handle < 65536)
    (headerFits : dataSize + hciAclPreambleSize < 65536) :
    WellFragmented dataSize handle payload
      (fragmentImages handle (applyContinuationFlag handle) (segments dataSize payload)) := by
  have pieceLength (piece : List UInt8) (member : piece ∈ segments dataSize payload) :
      piece.length ≤ dataSize := length_le_of_mem dataSize payload piece positive member
  refine
    { count := ?count, completes := ?completes, bounded := ?bounded, lengthWord := ?lengthWord,
      firstHandle := ?firstHandle, laterHandles := ?laterHandles, fullPieces := ?fullPieces,
      payloads := ?payloads }
  case count => rw [length_fragmentImages, length_segments dataSize payload positive]
  case completes =>
    intro index inside
    rw [getElem_fragmentImages]
    simp only [length_fragmentImages]
  case bounded =>
    intro fragment member
    obtain ⟨word, piece, pieceMember, -, framed⟩ := mem_fragmentImages _ _ _ fragment member
    rw [framed, length_frameBytes]
    have := pieceLength piece pieceMember
    omega
  case lengthWord =>
    intro fragment member
    obtain ⟨word, piece, pieceMember, -, framed⟩ := mem_fragmentImages _ _ _ fragment member
    have short : piece.length < 65536 := by
      have := pieceLength piece pieceMember
      simp only [hciAclPreambleSize] at headerFits
      omega
    rw [framed, readLe16_frameBytes_length, Nat.mod_eq_of_lt short, length_frameBytes]
  case firstHandle =>
    intro nonEmpty
    rw [getElem_fragmentImages, if_pos rfl, readLe16_frameBytes_handle,
      Nat.mod_eq_of_lt handleWord]
  case laterHandles =>
    intro index inside later
    have notFirst : index ≠ 0 := by omega
    rw [getElem_fragmentImages, if_neg notFirst, readLe16_frameBytes_handle,
      Nat.mod_eq_of_lt (applyContinuationFlag_lt handle)]
    exact ⟨getBoundaryFlag_applyContinuationFlag handle, applyContinuationFlag_and_flagless handle⟩
  case fullPieces =>
    intro index beforeLast
    have pieceBeforeLast : index + 1 < (segments dataSize payload).length := by
      rwa [length_fragmentImages] at beforeLast
    rw [getElem_fragmentImages, drop_frameBytes, List.get_eq_getElem]
    exact length_getElem_of_lt dataSize payload index pieceBeforeLast
  case payloads => rw [map_drop_fragmentImages, flatten_segments]

end Fluoride.AclFragmentation
