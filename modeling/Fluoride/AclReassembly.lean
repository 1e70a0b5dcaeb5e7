import Fluoride.AclFragmentation

/-!
# What `reassemble_and_dispatch` delivers

The fragments of one L2CAP packet arrive as a start fragment, whose payload
begins with the L2CAP length, and continuation fragments for the same
connection handle. The reassembler keeps one partial packet per handle: after
the first `k` bytes of a packet of `n` bytes have arrived it holds those bytes
and `n - k` unwritten cells (`assembling`). Each branch of
`reassemble_and_dispatch` is stated once for fragments in the wire format of
`frameBytes`: a start fragment is delivered whole or opens a partial packet,
and a continuation fragment that fits appends its bytes and completes the
packet exactly when nothing is missing. The run theorem strings the
continuation steps together, and the round trip follows: the fragments that
`fragment_and_dispatch` sends come back as the packet they were cut from.

A continuation fragment that does not fit is truncated, and there the source
copies four bytes too few: the packet is delivered with its last four cells
never written, and a partial packet missing fewer than four bytes makes the
copy's count negative.
-/

namespace Fluoride.AclReassembly

open ByteBuffer Segments PacketFragmenter AclFragmentation

/-- A packet as the controller hands it to the stack: the bytes of one ACL
frame from the start of a fresh buffer. -/
def incoming (bytes : List UInt8) : BtHdr UInt8 :=
  { event := msgHcToStackHciAcl, len := bytes.length, offset := 0, layerSpecific := 0,
    data := bytes }

/-- An outgoing ACL packet as L2CAP hands it to the fragmenter: the handle
word, the length word and the payload from the start of a fresh buffer. -/
def outgoingPacket (handle : Nat) (payload : List UInt8) : BtHdr UInt8 :=
  { event := msgStackToHcHciAcl, len := payload.length + hciAclPreambleSize, offset := 0,
    layerSpecific := 0, data := frameBytes handle payload }

/-- The partial packet of `fullLength` bytes whose first bytes `assembled` have
arrived: the offset is the next cell to write, and the cells after it are still
unwritten. -/
def assembling (event fullLength : Nat) (assembled : List UInt8) : BtHdr (Option UInt8) :=
  { event := event, len := fullLength, offset := assembled.length, layerSpecific := 0,
    data := assembled.map some ++ List.replicate (fullLength - assembled.length) none }

@[simp] theorem assembling_len (event fullLength : Nat) (assembled : List UInt8) :
    (assembling event fullLength assembled).len = fullLength := rfl

@[simp] theorem assembling_offset (event fullLength : Nat) (assembled : List UInt8) :
    (assembling event fullLength assembled).offset = assembled.length := rfl

@[simp] theorem assembling_event (event fullLength : Nat) (assembled : List UInt8) :
    (assembling event fullLength assembled).event = event := rfl

@[simp] theorem assembling_layerSpecific (event fullLength : Nat) (assembled : List UInt8) :
    (assembling event fullLength assembled).layerSpecific = 0 := rfl

/-- A completed partial packet is the complete packet as it would have arrived
in one fragment. -/
theorem assembling_complete (bytes : List UInt8) :
    { assembling msgHcToStackHciAcl bytes.length bytes with offset := 0 } =
      (incoming bytes).cells := by
  simp [assembling, incoming, BtHdr.cells]

/-- The L2CAP length of a start fragment is the first field of its piece. -/
theorem readLe16_frameBytes_l2capLength (word : Nat) (piece : List UInt8) :
    readLe16 (frameBytes word piece) 4 = readLe16 piece 0 := by
  rw [readLe16_drop, show (4 : Nat) = hciAclPreambleSize from rfl, drop_frameBytes]

/-- An incoming frame passes the length check and is dispatched on the boundary
flag of its handle word, under the handle without its flags. -/
theorem reassembleAndDispatch_frameBytes (partialPackets : PartialPackets) (word : Nat)
    (piece : List UInt8) (handleWord : word < 65536) (shortPiece : piece.length < 65536) :
    reassembleAndDispatch partialPackets (incoming (frameBytes word piece)) =
      if getBoundaryFlag word = startPacketBoundary then
        reassembleStart partialPackets (incoming (frameBytes word piece)) (word &&& handleMask)
          piece.length
      else reassembleContinuation partialPackets (incoming (frameBytes word piece))
        (word &&& handleMask) := by
  have incomingEvent : msgHcToStackHciAcl &&& msgEvtMask = msgHcToStackHciAcl := by decide
  have lengthChecked : ¬ ((piece.length : Int) ≠
      ((piece.length + hciAclPreambleSize : Nat) : Int) - (hciAclPreambleSize : Nat)) := by
    push_cast
    omega
  simp only [reassembleAndDispatch, incoming, incomingEvent, if_true,
    readLe16_frameBytes_handle, readLe16_frameBytes_length, Nat.mod_eq_of_lt handleWord,
    Nat.mod_eq_of_lt shortPiece, length_frameBytes, lengthChecked, if_false]

/-- The checks of a start fragment whose announced packet fits a buffer: the
16-bit sum does not overflow and the buffer is large enough. -/
theorem startChecks_pass (l2capLength : Nat)
    (fitsBuffer : l2capLength + l2capHeaderSize + hciAclPreambleSize + BtHdr.headerSize ≤
      btDefaultBufferSize) :
    u16 ((l2capLength : Int) + (l2capHeaderSize : Nat) + (hciAclPreambleSize : Nat)) =
        l2capLength + l2capHeaderSize + hciAclPreambleSize ∧
      (checkUint16Overflow l2capLength (l2capHeaderSize + hciAclPreambleSize) ||
        decide (l2capLength + l2capHeaderSize + hciAclPreambleSize + BtHdr.headerSize >
          btDefaultBufferSize)) = false := by
  simp only [l2capHeaderSize, l2capHeaderPduLenSize, l2capHeaderCidSize, hciAclPreambleSize,
    BtHdr.headerSize, btDefaultBufferSize] at fitsBuffer ⊢
  refine ⟨?_, ?_⟩
  · rw [u16_of_lt _ (by omega) (by omega)]
    omega
  · simp only [checkUint16Overflow, Bool.or_eq_false_iff]
    exact ⟨decide_eq_false (by omega), decide_eq_false (by omega)⟩

/-- A start fragment that holds its whole L2CAP packet is delivered as it came. -/
theorem reassembleStart_whole (partialPackets : PartialPackets) (word handle : Nat)
    (piece : List UInt8) (lengthField : 2 ≤ piece.length)
    (fitsBuffer : readLe16 piece 0 + l2capHeaderSize + hciAclPreambleSize + BtHdr.headerSize ≤
      btDefaultBufferSize)
    (whole : readLe16 piece 0 + l2capHeaderSize ≤ piece.length) :
    reassembleStart partialPackets (incoming (frameBytes word piece)) handle piece.length =
      .ok (Function.update partialPackets handle none,
        [.reassembled (incoming (frameBytes word piece)).cells]) := by
  obtain ⟨fullLength, passed⟩ := startChecks_pass (readLe16 piece 0) fitsBuffer
  have notShort : ¬ piece.length < 2 := by omega
  have notShortPdu : ¬ piece.length < l2capHeaderPduLenSize := by
    simp only [l2capHeaderPduLenSize]
    omega
  have fitsFragment : readLe16 piece 0 + l2capHeaderSize + hciAclPreambleSize ≤
      (incoming (frameBytes word piece)).len := by
    simp only [incoming, length_frameBytes]
    omega
  simp only [reassembleStart, notShort, notShortPdu, if_false, incoming,
    readLe16_frameBytes_l2capLength, fullLength, passed, Bool.false_eq_true]
  simp only [incoming] at fitsFragment
  simp only [fitsFragment, if_true]

/-- Rewriting the length word of a frame at the front of a buffer leaves the
handle word, the piece and the cells after them alone. -/
theorem writeAt_lengthWord (word lengthWord spare : Nat) (piece : List UInt8) :
    writeAt ((frameBytes word piece).map some ++ List.replicate spare none) 2
        ((le16 lengthWord).map some) =
      (le16 word ++ le16 lengthWord ++ piece).map some ++ List.replicate spare none := by
  have split := writeAt_append_of_length_eq ((le16 word).map some)
    ((le16 piece.length).map some) (piece.map some ++ List.replicate spare none)
    ((le16 lengthWord).map some) (by simp)
  simp only [List.length_map, length_le16, List.append_assoc] at split
  simp only [frameBytes, List.map_append, List.append_assoc, split]

/-- The partial packet opened by a start fragment holds the fragment with the
ACL length word rewritten to the full length, and unwritten cells after it. -/
theorem startPartial_frameBytes (word fullLength : Nat) (piece : List UInt8)
    (longer : piece.length + hciAclPreambleSize ≤ fullLength) (fullWord : fullLength < 65536) :
    startPartial (incoming (frameBytes word piece)) fullLength
        ((frameBytes word piece).map some ++
          List.replicate (fullLength - (frameBytes word piece).length) none) =
      assembling msgHcToStackHciAcl fullLength
        (le16 word ++ le16 (fullLength - hciAclPreambleSize) ++ piece) := by
  have lengthWord : u16 ((fullLength : Int) - (hciAclPreambleSize : Nat)) =
      fullLength - hciAclPreambleSize := by
    simp only [hciAclPreambleSize] at longer ⊢
    rw [u16_of_lt _ (by omega) (by omega)]
    omega
  have sameLength : (le16 word ++ le16 (fullLength - hciAclPreambleSize) ++ piece).length =
      (frameBytes word piece).length := by
    simp only [List.length_append, length_le16, length_frameBytes, hciAclPreambleSize]
    omega
  simp only [startPartial, assembling, incoming, lengthWord, writeAt_lengthWord, sameLength]

/-- A start fragment of a longer L2CAP packet opens a partial packet for its
handle, dropping any older one, and delivers nothing. -/
theorem reassembleStart_split (partialPackets : PartialPackets) (word handle : Nat)
    (piece : List UInt8) (lengthField : 2 ≤ piece.length)
    (fitsBuffer : readLe16 piece 0 + l2capHeaderSize + hciAclPreambleSize + BtHdr.headerSize ≤
      btDefaultBufferSize)
    (split : piece.length < readLe16 piece 0 + l2capHeaderSize) :
    reassembleStart partialPackets (incoming (frameBytes word piece)) handle piece.length =
      .ok (Function.update partialPackets handle
        (some (assembling msgHcToStackHciAcl
          (readLe16 piece 0 + l2capHeaderSize + hciAclPreambleSize)
          (le16 word ++ le16 (readLe16 piece 0 + l2capHeaderSize) ++ piece))), []) := by
  obtain ⟨fullLength, passed⟩ := startChecks_pass (readLe16 piece 0) fitsBuffer
  have notShort : ¬ piece.length < 2 := by omega
  have notShortPdu : ¬ piece.length < l2capHeaderPduLenSize := by
    simp only [l2capHeaderPduLenSize]
    omega
  have notWhole : ¬ (readLe16 piece 0 + l2capHeaderSize + hciAclPreambleSize ≤
      (frameBytes word piece).length) := by
    simp only [length_frameBytes]
    omega
  have fullWord : readLe16 piece 0 + l2capHeaderSize + hciAclPreambleSize < 65536 := by
    simp only [BtHdr.headerSize, btDefaultBufferSize] at fitsBuffer
    omega
  have copied := copy?_replicate ((frameBytes word piece).map some) none
    (readLe16 piece 0 + l2capHeaderSize + hciAclPreambleSize)
    (by simp only [List.length_map, length_frameBytes]; omega)
  simp only [List.length_map] at copied
  have opened := startPartial_frameBytes word
    (readLe16 piece 0 + l2capHeaderSize + hciAclPreambleSize) piece
    (by omega) fullWord
  rw [Nat.add_sub_cancel] at opened
  simp only [reassembleStart, notShort, notShortPdu, if_false, incoming,
    readLe16_frameBytes_l2capLength, fullLength, passed, Bool.false_eq_true, notWhole]
  simp only [incoming] at copied opened
  simp only [copied, opened, Function.update_idem]

/-- The payload of an incoming frame, read from behind its header, is its piece. -/
theorem window_frameBytes (word : Nat) (piece : List UInt8) :
    window ((frameBytes word piece).map some) hciAclPreambleSize piece.length = piece.map some := by
  rw [window, ← List.map_drop, drop_frameBytes, ← List.map_take, List.take_length]

/-- Writing the next piece behind the assembled bytes of a partial packet
extends what it has assembled. -/
theorem assembling_append (event fullLength : Nat) (assembled piece : List UInt8) :
    assembling event fullLength (assembled ++ piece) =
      { event := event, len := fullLength, offset := assembled.length + piece.length,
        layerSpecific := 0,
        data := writeAt (assembling event fullLength assembled).data assembled.length
          (piece.map some) } := by
  have appended := writeAt_append_replicate (assembled.map some) (piece.map some) none
    (fullLength - assembled.length)
  simp only [List.length_map] at appended
  simp only [assembling, appended, List.map_append, List.length_append, Nat.sub_sub]

/-- A continuation fragment that fits in its partial packet is appended to it,
and the packet is delivered, its offset reset, once no byte is missing. -/
theorem reassembleContinuation_appends (partialPackets : PartialPackets) (word handle : Nat)
    (piece : List UInt8) (event fullLength : Nat) (assembled : List UInt8)
    (stored : partialPackets handle = some (assembling event fullLength assembled))
    (fits : assembled.length + piece.length ≤ fullLength) (fullWord : fullLength < 65536) :
    reassembleContinuation partialPackets (incoming (frameBytes word piece)) handle =
      if assembled.length + piece.length = fullLength then
        .ok (Function.update partialPackets handle none,
          [.reassembled { assembling event fullLength (assembled ++ piece) with offset := 0 }])
      else
        .ok (Function.update partialPackets handle
          (some (assembling event fullLength (assembled ++ piece))), []) := by
  have projected : u16 ((assembled.length : Int) + (piece.length : Int)) =
      assembled.length + piece.length := by
    rw [u16_of_lt _ (by omega) (by omega)]
    omega
  have notTruncated : ¬ (assembled.length + piece.length > fullLength) := by omega
  have count : ((piece.length + hciAclPreambleSize : Nat) : Int) - (hciAclPreambleSize : Nat) =
      (piece.length : Nat) := by
    omega
  have copied : copy? (assembling event fullLength assembled).data assembled.length
      ((frameBytes word piece).map some) hciAclPreambleSize piece.length =
      some (writeAt (assembling event fullLength assembled).data assembled.length
        (piece.map some)) := by
    rw [copy?_eq_some _ _ _ _ _ (by simp only [assembling, List.length_append,
        List.length_map, List.length_replicate]; omega)
      (by simp only [List.length_map, length_frameBytes]; omega), window_frameBytes]
  simp only [reassembleContinuation, stored, incoming, length_frameBytes, assembling_offset,
    assembling_len, projected, notTruncated, decide_false, Bool.false_eq_true, if_false, count,
    copied, assembling_event, assembling_layerSpecific]
  rw [assembling_append]

/-- A continuation fragment that passes the expected length is truncated, and
the source then copies four bytes fewer than are missing: the packet is
delivered as complete with its last four cells never written. -/
theorem reassembleContinuation_truncates (partialPackets : PartialPackets) (word handle : Nat)
    (piece : List UInt8) (event fullLength : Nat) (assembled : List UInt8)
    (stored : partialPackets handle = some (assembling event fullLength assembled))
    (overshoot : fullLength < assembled.length + piece.length)
    (noWrap : assembled.length + piece.length < 65536)
    (room : assembled.length + hciAclPreambleSize ≤ fullLength) :
    reassembleContinuation partialPackets (incoming (frameBytes word piece)) handle =
      .ok (Function.update partialPackets handle none,
        [.reassembled { assembling event fullLength
          (assembled ++ piece.take (fullLength - assembled.length - hciAclPreambleSize)) with
            offset := 0 }]) := by
  have truncated : fullLength < u16 ((assembled.length : Int) + (piece.length : Int)) := by
    rw [u16_of_lt _ (by omega) (by omega)]
    omega
  have remaining : u16 ((fullLength : Int) - (assembled.length : Int)) =
      fullLength - assembled.length := by
    rw [u16_of_lt _ (by omega) (by omega)]
    omega
  have count : ((fullLength - assembled.length : Nat) : Int) - (hciAclPreambleSize : Nat) =
      ((fullLength - assembled.length - hciAclPreambleSize : Nat) : Int) := by
    omega
  have pieceCount : ((piece.length + hciAclPreambleSize : Nat) : Int) -
      (hciAclPreambleSize : Nat) = (piece.length : Int) := by
    omega
  have copiedWindow : window ((frameBytes word piece).map some) hciAclPreambleSize
      (fullLength - assembled.length - hciAclPreambleSize) =
      (piece.take (fullLength - assembled.length - hciAclPreambleSize)).map some := by
    rw [window, ← List.map_drop, drop_frameBytes, ← List.map_take]
  have copied : copy? (assembling event fullLength assembled).data assembled.length
      ((frameBytes word piece).map some) hciAclPreambleSize
      (fullLength - assembled.length - hciAclPreambleSize : Nat) =
      some (writeAt (assembling event fullLength assembled).data assembled.length
        ((piece.take (fullLength - assembled.length - hciAclPreambleSize)).map some)) := by
    rw [copy?_eq_some _ _ _ _ _ (by simp only [assembling, List.length_append,
        List.length_map, List.length_replicate]; omega)
      (by simp only [List.length_map, length_frameBytes]; omega), copiedWindow]
  have shortPiece : (piece.take (fullLength - assembled.length - hciAclPreambleSize)).length =
      fullLength - assembled.length - hciAclPreambleSize := by
    simp only [List.length_take]
    omega
  simp only [reassembleContinuation, stored, incoming, length_frameBytes, assembling_offset,
    assembling_len, pieceCount, truncated, decide_true, if_true, remaining, count, copied]
  simp only [assembling_append, shortPiece, assembling_event, assembling_layerSpecific]

/-- When fewer than four bytes are missing, the truncated copy's count is
negative. -/
theorem reassembleContinuation_negativeCopy (partialPackets : PartialPackets) (word handle : Nat)
    (piece : List UInt8) (event fullLength : Nat) (assembled : List UInt8)
    (stored : partialPackets handle = some (assembling event fullLength assembled))
    (overshoot : fullLength < assembled.length + piece.length)
    (noWrap : assembled.length + piece.length < 65536)
    (behind : assembled.length ≤ fullLength)
    (almostComplete : fullLength < assembled.length + hciAclPreambleSize) :
    reassembleContinuation partialPackets (incoming (frameBytes word piece)) handle =
      .error .copyOutOfBounds := by
  have truncated : fullLength < u16 ((assembled.length : Int) + (piece.length : Int)) := by
    rw [u16_of_lt _ (by omega) (by omega)]
    omega
  have remaining : u16 ((fullLength : Int) - (assembled.length : Int)) =
      fullLength - assembled.length := by
    rw [u16_of_lt _ (by omega) (by omega)]
    omega
  have pieceCount : ((piece.length + hciAclPreambleSize : Nat) : Int) -
      (hciAclPreambleSize : Nat) = (piece.length : Int) := by
    omega
  have refused := copy?_negative (assembling event fullLength assembled).data assembled.length
    ((frameBytes word piece).map some) hciAclPreambleSize
    (((fullLength - assembled.length : Nat) : Int) - (hciAclPreambleSize : Nat)) (by omega)
  simp only [reassembleContinuation, stored, incoming, length_frameBytes, assembling_offset,
    assembling_len, pieceCount, truncated, decide_true, if_true, remaining, refused]

/-- A start fragment announcing four L2CAP bytes and a continuation carrying
ten: the continuation's copy is cut to the four bytes left, and the packet is
handed up with the length the start fragment announced. -/
theorem reassembleAll_truncatedContinuation :
    (reassembleAll noPartialPackets
        [incoming (frameBytes 0x2001 [8, 0, 0x40, 0]),
          incoming (frameBytes 0x1001 [1, 2, 3, 4, 5, 6, 7, 8, 9, 10])]).map Prod.snd =
      .ok [.reassembled
        { event := msgHcToStackHciAcl, len := 16, offset := 0, layerSpecific := 0,
          data := ([0x01, 0x20, 12, 0, 8, 0, 0x40, 0, 1, 2, 3, 4] : List UInt8).map some ++
            [none, none, none, none] }] ∧
    (reassembleAll noPartialPackets
        [incoming (frameBytes 0x2001 [1, 0, 0x40, 0]),
          incoming (frameBytes 0x1001 [1, 2])]).map Prod.snd = .error .copyOutOfBounds := by
  decide

/-- Continuation fragments that fill their partial packet exactly are appended
one by one, and the last one delivers the whole packet and clears the handle. -/
theorem reassembleAll_continuations (partialPackets : PartialPackets)
    (word handle event fullLength : Nat) (assembled : List UInt8) (pieces : List (List UInt8))
    (stored : partialPackets handle = some (assembling event fullLength assembled))
    (continuation : getBoundaryFlag word ≠ startPacketBoundary)
    (sameHandle : word &&& handleMask = handle) (handleWord : word < 65536)
    (nonEmpty : pieces ≠ [])
    (pieceSizes : ∀ piece ∈ pieces, 0 < piece.length ∧ piece.length < 65536)
    (exact : assembled.length + pieces.flatten.length = fullLength)
    (fullWord : fullLength < 65536) :
    reassembleAll partialPackets (pieces.map fun piece => incoming (frameBytes word piece)) =
      .ok (Function.update partialPackets handle none,
        [.reassembled { assembling event fullLength (assembled ++ pieces.flatten) with
          offset := 0 }]) := by
  induction pieces generalizing partialPackets assembled with
  | nil => exact absurd rfl nonEmpty
  | cons piece rest inductionHypothesis =>
    have pieceSize := pieceSizes piece List.mem_cons_self
    have fits : assembled.length + piece.length ≤ fullLength := by
      simp only [List.flatten_cons, List.length_append] at exact
      omega
    have stepped := reassembleContinuation_appends partialPackets word handle piece event
      fullLength assembled stored fits fullWord
    have dispatched : reassembleAndDispatch partialPackets (incoming (frameBytes word piece)) =
        reassembleContinuation partialPackets (incoming (frameBytes word piece)) handle := by
      rw [reassembleAndDispatch_frameBytes partialPackets word piece handleWord pieceSize.2,
        if_neg continuation, sameHandle]
    rw [← dispatched] at stepped
    cases rest with
    | nil =>
      have complete : assembled.length + piece.length = fullLength := by
        simpa using exact
      rw [if_pos complete] at stepped
      simp only [reassembleAll, List.map_cons, List.map_nil,
        Runs.run_cons_ok _ _ _ _ _ _ stepped, Runs.run_nil, List.flatten_cons, List.flatten_nil,
        List.append_nil, Except.map]
    | cons next more =>
      have nextSize := pieceSizes next (List.mem_cons_of_mem _ List.mem_cons_self)
      have incomplete : assembled.length + piece.length ≠ fullLength := by
        simp only [List.flatten_cons, List.length_append] at exact
        omega
      rw [if_neg incomplete] at stepped
      have later := inductionHypothesis
        (Function.update partialPackets handle (some (assembling event fullLength (assembled ++ piece))))
        (assembled ++ piece) (Function.update_self _ _ _) (List.cons_ne_nil _ _)
        (fun other member => pieceSizes other (List.mem_cons_of_mem _ member))
        (by simp only [List.flatten_cons, List.length_append] at exact ⊢; omega)
      rw [reassembleAll, List.map_cons, Runs.run_cons_ok _ _ _ _ _ _ stepped]
      rw [reassembleAll] at later
      rw [later]
      simp only [Except.map, Function.update_idem, List.nil_append, List.flatten_cons,
        List.append_assoc]

/-- The fragments of a payload, received in order: the first behind its own
handle word and the rest behind the continuation handle. -/
theorem map_incoming_fragmentImages (handle continuationHandle : Nat) (piece : List UInt8)
    (rest : List (List UInt8)) :
    (fragmentImages handle continuationHandle (piece :: rest)).map
        (fun fragment => incoming fragment.1) =
      incoming (frameBytes handle piece) ::
        rest.map fun later => incoming (frameBytes continuationHandle later) := by
  induction rest generalizing handle piece with
  | nil => rfl
  | cons next more inductionHypothesis =>
    simp only [fragmentImages, List.map_cons, inductionHypothesis]

/-- The first bytes of a payload, cut at two or more, start with its first field. -/
theorem readLe16_take (payload : List UInt8) (count : Nat) (atLeastTwo : 2 ≤ count) :
    readLe16 (payload.take count) 0 = readLe16 payload 0 := by
  have firstWindow : window payload 0 count = payload.take count := by
    rw [window, List.drop_zero]
  rw [← firstWindow, readLe16_window payload 0 count atLeastTwo]

/-- Feeding back the fragments of an L2CAP packet whose length field is right
and which fits a buffer delivers the packet, for every data size of at least two
bytes, and leaves no partial packet for its handle. -/
theorem reassembleAll_fragmentImages (partialPackets : PartialPackets) (dataSize handle : Nat)
    (payload : List UInt8) (twoBytes : 2 ≤ dataSize)
    (headerFits : dataSize + hciAclPreambleSize < 65536) (handleWord : handle < 65536)
    (start : getBoundaryFlag handle = startPacketBoundary)
    (lengthField : readLe16 payload 0 + l2capHeaderSize = payload.length)
    (fitsBuffer : payload.length + hciAclPreambleSize + BtHdr.headerSize ≤ btDefaultBufferSize) :
    reassembleAll partialPackets
        ((fragmentImages handle (applyContinuationFlag handle) (segments dataSize payload)).map
          fun fragment => incoming fragment.1) =
      .ok (Function.update partialPackets (handle &&& handleMask) none,
        [.reassembled (incoming (frameBytes handle payload)).cells]) := by
  have sizes : l2capHeaderSize = 4 ∧ hciAclPreambleSize = 4 ∧ BtHdr.headerSize = 8 ∧
      btDefaultBufferSize = 4112 := ⟨rfl, rfl, rfl, rfl⟩
  have startDispatch (piece : List UInt8) (shortPiece : piece.length < 65536) :
      reassembleAndDispatch partialPackets (incoming (frameBytes handle piece)) =
        reassembleStart partialPackets (incoming (frameBytes handle piece))
          (handle &&& handleMask) piece.length := by
    rw [reassembleAndDispatch_frameBytes partialPackets handle piece handleWord shortPiece,
      if_pos start]
  by_cases fits : payload.length ≤ dataSize
  · have whole := reassembleStart_whole partialPackets handle (handle &&& handleMask) payload
      (by omega) (by omega) (by omega)
    rw [← startDispatch payload (by omega)] at whole
    rw [segments_of_le dataSize payload fits, map_incoming_fragmentImages, List.map_nil,
      reassembleAll, Runs.run_cons_ok _ _ _ _ _ _ whole, Runs.run_nil]
    rfl
  · have longer : dataSize < payload.length := by omega
    have firstLength : (payload.take dataSize).length = dataSize := by
      rw [List.length_take]
      omega
    have firstField := readLe16_take payload dataSize twoBytes
    have opened := reassembleStart_split partialPackets handle (handle &&& handleMask)
      (payload.take dataSize) (by omega) (by rw [firstField]; omega)
      (by rw [firstField]; omega)
    rw [← startDispatch _ (by omega), firstField] at opened
    have restNonEmpty : payload.drop dataSize ≠ [] := by
      intro empty
      have emptyLength := congrArg List.length empty
      simp only [List.length_drop, List.length_nil] at emptyLength
      omega
    have pieceSizes (piece : List UInt8) (member : piece ∈ segments dataSize (payload.drop dataSize)) :
        0 < piece.length ∧ piece.length < 65536 :=
      ⟨length_pos_of_mem dataSize _ piece (by omega) restNonEmpty member,
        Nat.lt_of_le_of_lt (length_le_of_mem dataSize _ piece (by omega) member) (by omega)⟩
    have continued := reassembleAll_continuations
      (Function.update partialPackets (handle &&& handleMask)
        (some (assembling msgHcToStackHciAcl
          (readLe16 payload 0 + l2capHeaderSize + hciAclPreambleSize)
          (le16 handle ++ le16 (readLe16 payload 0 + l2capHeaderSize) ++ payload.take dataSize))))
      (applyContinuationFlag handle) (handle &&& handleMask) msgHcToStackHciAcl
      (readLe16 payload 0 + l2capHeaderSize + hciAclPreambleSize)
      (le16 handle ++ le16 (readLe16 payload 0 + l2capHeaderSize) ++ payload.take dataSize)
      (segments dataSize (payload.drop dataSize)) (Function.update_self _ _ _)
      (by rw [getBoundaryFlag_applyContinuationFlag]; decide)
      (applyContinuationFlag_and_handleMask handle) (applyContinuationFlag_lt handle)
      (segments_ne_nil _ _) pieceSizes
      (by simp only [flatten_segments, List.length_append, length_le16, List.length_drop,
        firstLength]; omega)
      (by omega)
    have assembledAll : le16 handle ++ le16 (readLe16 payload 0 + l2capHeaderSize) ++
        payload.take dataSize ++ (segments dataSize (payload.drop dataSize)).flatten =
        frameBytes handle payload := by
      rw [lengthField, flatten_segments, List.append_assoc, List.take_append_drop, frameBytes]
    have fullIsLength : readLe16 payload 0 + l2capHeaderSize + hciAclPreambleSize =
        (frameBytes handle payload).length := by
      rw [lengthField, length_frameBytes]
    rw [segments_of_lt dataSize payload (by omega) longer, map_incoming_fragmentImages,
      reassembleAll, Runs.run_cons_ok _ _ _ _ _ _ opened]
    rw [reassembleAll] at continued
    rw [continued, assembledAll]
    simp only [Except.map, Function.update_idem, List.nil_append]
    rw [fullIsLength, assembling_complete]

/-- **Fragmenting and reassembling gives the packet back.** An outgoing ACL
packet laid out as `Layout` says, cut by `fragment_and_dispatch` into pieces of
a positive size whose header fits 16 bits, is reassembled by
`reassemble_and_dispatch` from an empty map into the packet sent. -/
theorem fragmentAndDispatch_roundTrip (controller : Controller) (packet : BtHdr UInt8)
    (handle : Nat) (payload : List UInt8)
    (outgoing : packet.event &&& msgEvtMask = msgStackToHcHciAcl)
    (positive : 0 < maxDataSize controller packet)
    (headerFits : maxDataSize controller packet + hciAclPreambleSize < 65536)
    (layout : Layout packet handle payload) :
    ∃ emitted fragments,
      fragmentAndDispatch controller packet = some emitted ∧
      emitted.map sent = fragments.map some ∧
      WellFragmented (maxDataSize controller packet) handle payload fragments ∧
      (2 ≤ maxDataSize controller packet → getBoundaryFlag handle = startPacketBoundary →
        readLe16 payload 0 + l2capHeaderSize = payload.length →
        payload.length + hciAclPreambleSize + BtHdr.headerSize ≤ btDefaultBufferSize →
        reassembleAll noPartialPackets (fragments.map fun fragment => incoming fragment.1) =
          .ok (noPartialPackets, [.reassembled (incoming packet.payload).cells])) := by
  obtain ⟨emitted, dispatched, sentAll⟩ :=
    fragmentAndDispatch_sends controller packet handle payload outgoing positive headerFits layout
  refine ⟨emitted, _, dispatched, sentAll,
    fragmentImages_wellFragmented _ handle payload positive layout.handleWord headerFits, ?_⟩
  intro twoBytes start lengthField fitsBuffer
  have cleared : Function.update noPartialPackets (handle &&& handleMask) none =
      noPartialPackets := Function.update_eq_self_iff.mpr rfl
  rw [reassembleAll_fragmentImages noPartialPackets _ handle payload twoBytes headerFits
      layout.handleWord start lengthField fitsBuffer, cleared,
    payload_of_layout packet handle payload layout, frameBytes]

/-- A packet with a two-byte L2CAP payload, cut into two-byte fragments, comes
back whole. -/
theorem fragmentAndDispatch_roundTrip_twoByteFragments :
    (msgStackToHcHciAcl &&& msgEvtMask = msgStackToHcHciAcl ∧
      0 < maxDataSize ⟨2, 2⟩ (outgoingPacket 0x2001 [2, 0, 0x40, 0, 7, 9]) ∧
      maxDataSize ⟨2, 2⟩ (outgoingPacket 0x2001 [2, 0, 0x40, 0, 7, 9]) + hciAclPreambleSize <
        65536 ∧
      Layout (outgoingPacket 0x2001 [2, 0, 0x40, 0, 7, 9]) 0x2001 [2, 0, 0x40, 0, 7, 9]) ∧
    ∃ emitted fragments,
      fragmentAndDispatch ⟨2, 2⟩ (outgoingPacket 0x2001 [2, 0, 0x40, 0, 7, 9]) = some emitted ∧
      emitted.map sent = fragments.map some ∧
      WellFragmented (maxDataSize ⟨2, 2⟩ (outgoingPacket 0x2001 [2, 0, 0x40, 0, 7, 9])) 0x2001
        [2, 0, 0x40, 0, 7, 9] fragments ∧
      (2 ≤ maxDataSize ⟨2, 2⟩ (outgoingPacket 0x2001 [2, 0, 0x40, 0, 7, 9]) →
        getBoundaryFlag 0x2001 = startPacketBoundary →
        readLe16 [2, 0, 0x40, 0, 7, 9] 0 + l2capHeaderSize = [2, 0, 0x40, 0, 7, 9].length →
        [2, 0, 0x40, 0, 7, 9].length + hciAclPreambleSize + BtHdr.headerSize ≤
          btDefaultBufferSize →
        reassembleAll noPartialPackets (fragments.map fun fragment => incoming fragment.1) =
          .ok (noPartialPackets,
            [.reassembled (incoming (outgoingPacket 0x2001 [2, 0, 0x40, 0, 7, 9]).payload).cells])) :=
  have layout : Layout (outgoingPacket 0x2001 [2, 0, 0x40, 0, 7, 9]) 0x2001 [2, 0, 0x40, 0, 7, 9] :=
    ⟨by decide, by decide, by decide, by decide, by decide, by decide, by decide⟩
  ⟨⟨by decide, by decide, by decide, layout⟩,
    fragmentAndDispatch_roundTrip ⟨2, 2⟩ _ 0x2001 _ (by decide) (by decide) (by decide) layout⟩

/-- With one-byte fragments a start fragment is one byte long, below the two
bytes `reassemble_and_dispatch` needs to read the L2CAP length, and is dropped:
nothing is handed up. -/
theorem fragmentAndDispatch_singleByteFragments :
    msgStackToHcHciAcl &&& msgEvtMask = msgStackToHcHciAcl ∧
    maxDataSize ⟨1, 1⟩ (outgoingPacket 0x2001 [0, 0, 0, 0]) = 1 ∧
    Layout (outgoingPacket 0x2001 [0, 0, 0, 0]) 0x2001 [0, 0, 0, 0] ∧
    getBoundaryFlag 0x2001 = startPacketBoundary ∧
    readLe16 [0, 0, 0, 0] 0 + l2capHeaderSize = [0, 0, 0, 0].length ∧
    [0, 0, 0, 0].length + hciAclPreambleSize + BtHdr.headerSize ≤ btDefaultBufferSize ∧
    (fragmentAndDispatch ⟨1, 1⟩ (outgoingPacket 0x2001 [0, 0, 0, 0])).map
        (fun emitted => (reassembleAll noPartialPackets (emitted.filterMap fun callback =>
          (sent callback).map fun fragment => incoming fragment.1)).map Prod.snd) =
      some (.ok []) :=
  ⟨by decide, by decide,
    ⟨by decide, by decide, by decide, by decide, by decide, by decide, by decide⟩,
    by decide, by decide, by decide, by decide⟩

end Fluoride.AclReassembly
