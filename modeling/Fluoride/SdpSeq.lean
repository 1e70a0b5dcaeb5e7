import Fluoride.ByteBuffer

/-!
# SDP attribute and UUID sequences

An SDP client names the attributes and the services it asks for as data
element sequences: `sdpu_build_attrib_seq` writes a sequence of 16-bit
attribute ids (or the wildcard range `0x0000 .. 0xFFFF`), and
`sdpu_build_uuid_seq` a sequence of UUIDs, each in its shortest form. The
server reads them back with `sdpu_extract_attr_seq` and `sdpu_extract_uid_seq`.

The readers are modelled on a byte list with the read position `p`; a read
past the end of the list is the fault `overread`, and `none` stands for the
`NULL` the readers return. Their loops run while `p` is before the end of the
sequence and are well founded on the bytes left.

The main results are the round trips: the readers take back from the bytes
the builders wrote, wherever those stand in a longer buffer, exactly the
entries the builders were given, in order, and return the position just after
the sequence (`sdpuExtractAttrSeq_sdpuBuildAttribSeq`,
`sdpuExtractAttrSeq_wildcard`, `sdpuExtractUidSeq_sdpuBuildUuidSeq`).
-/

namespace Fluoride.SdpSeq

open ByteBuffer (window window_append_length)

/-! ### Data element descriptors -/

/-- `UINT_DESC_TYPE`. -/
def uintDescType : Nat := 1

/-- `UUID_DESC_TYPE`. -/
def uuidDescType : Nat := 3

/-- `DATA_ELE_SEQ_DESC_TYPE`. -/
def dataEleSeqDescType : Nat := 6

/-- `SIZE_TWO_BYTES`. -/
def sizeTwoBytes : Nat := 1

/-- `SIZE_FOUR_BYTES`. -/
def sizeFourBytes : Nat := 2

/-- `SIZE_SIXTEEN_BYTES`. -/
def sizeSixteenBytes : Nat := 4

/-- `SIZE_IN_NEXT_BYTE`. -/
def sizeInNextByte : Nat := 5

/-- `SIZE_IN_NEXT_WORD`. -/
def sizeInNextWord : Nat := 6

/-- `SIZE_IN_NEXT_LONG`. -/
def sizeInNextLong : Nat := 7

/-- `MAX_UUIDS_PER_SEQ`. -/
def maxUuidsPerSeq : Nat := 16

/-- `MAX_ATTR_PER_SEQ`. -/
def maxAttrPerSeq : Nat := 16

/-- `(type << 3) | size`, the first byte of a data element. -/
def descriptor (type size : Nat) : UInt8 := UInt8.ofNat ((type <<< 3) ||| size)

/-- `UINT16_TO_BE_STREAM`. -/
def uint16ToBeStream (value : Nat) : List UInt8 :=
  [UInt8.ofNat (value >>> 8), UInt8.ofNat value]

/-- `UINT32_TO_BE_STREAM`. -/
def uint32ToBeStream (value : Nat) : List UInt8 :=
  [UInt8.ofNat (value >>> 24), UInt8.ofNat (value >>> 16), UInt8.ofNat (value >>> 8),
    UInt8.ofNat value]

/-! ### `bluetooth::Uuid` -/

/-- `Uuid::kNumBytes16`. -/
def kNumBytes16 : Nat := 2

/-- `Uuid::kNumBytes32`. -/
def kNumBytes32 : Nat := 4

/-- `Uuid::kNumBytes128`. -/
def kNumBytes128 : Nat := 16

/-- The 128-bit UUID, big-endian in `uu` as the class stores it. -/
structure Uuid where
  uu : Vector UInt8 16
deriving DecidableEq, Repr

/-- `kBase`, the Bluetooth base UUID `00000000-0000-1000-8000-00805F9B34FB`. -/
def kBase : Uuid :=
  ⟨#v[0x00, 0x00, 0x00, 0x00, 0x00, 0x00, 0x10, 0x00, 0x80, 0x00, 0x00, 0x80, 0x5f, 0x9b, 0x34,
    0xfb]⟩

/-- `Uuid::GetShortestRepresentationSize`: 16 bytes unless the last twelve are
the base UUID's, then 2 when the first two bytes are zero and 4 otherwise. -/
def Uuid.getShortestRepresentationSize (uuid : Uuid) : Nat :=
  if uuid.uu.toList.drop kNumBytes32 ≠ kBase.uu.toList.drop kNumBytes32 then kNumBytes128
  else if uuid.uu[0] = 0 ∧ uuid.uu[1] = 0 then kNumBytes16
  else kNumBytes32

/-- `Uuid::As16Bit`: bytes 2 and 3. -/
def Uuid.as16Bit (uuid : Uuid) : Nat := (uuid.uu[2].toNat <<< 8) + uuid.uu[3].toNat

/-- `Uuid::As32Bit`: bytes 0 to 3. -/
def Uuid.as32Bit (uuid : Uuid) : Nat :=
  (uuid.uu[0].toNat <<< 24) + (uuid.uu[1].toNat <<< 16) + (uuid.uu[2].toNat <<< 8) +
    uuid.uu[3].toNat

/-- `Uuid::To128BitBE`. -/
def Uuid.to128BitBE (uuid : Uuid) : List UInt8 := uuid.uu.toList

/-- The big-endian form of the UUID in its shortest size: the 16-bit, the
32-bit or the whole 128-bit value. -/
def Uuid.shortestForm (uuid : Uuid) : List UInt8 :=
  if uuid.getShortestRepresentationSize = kNumBytes16 then uint16ToBeStream uuid.as16Bit
  else if uuid.getShortestRepresentationSize = kNumBytes32 then uint32ToBeStream uuid.as32Bit
  else uuid.to128BitBE

/-! ### The builders -/

/-- One attribute id of `sdpu_build_attrib_seq`: a two-byte unsigned integer. -/
def attribElement (attr : UInt16) : List UInt8 :=
  descriptor uintDescType sizeTwoBytes :: uint16ToBeStream attr.toNat

/-- `sdpu_build_attrib_seq(p_out, p_attr, num_attrs)`: the bytes it writes. A
null `p_attr` asks for every attribute, as the range `0x0000 .. 0xFFFF`; the
sequence length is a `uint16_t` written in one byte up to 255 and in two above. -/
def sdpuBuildAttribSeq (pAttr : Option (List UInt16)) (numAttrs : Nat) : List UInt8 :=
  let xx := match pAttr with
    | none => 5
    | some _ => numAttrs * 3 % 65536
  let header :=
    if xx > 255 then descriptor dataEleSeqDescType sizeInNextWord :: uint16ToBeStream xx
    else [descriptor dataEleSeqDescType sizeInNextByte, UInt8.ofNat xx]
  header ++ match pAttr with
    | none => descriptor uintDescType sizeFourBytes :: uint16ToBeStream 0 ++ uint16ToBeStream 0xFFFF
    | some attrs => (attrs.take numAttrs).flatMap attribElement

/-- One UUID of `sdpu_build_uuid_seq`, in the form its shortest size picks; a
size that is none of the three writes nothing (the `DCHECK` is compiled out). -/
def uuidElement (uuid : Uuid) : List UInt8 :=
  let len := uuid.getShortestRepresentationSize
  if len = kNumBytes16 then descriptor uuidDescType sizeTwoBytes :: uint16ToBeStream uuid.as16Bit
  else if len = kNumBytes32 then
    descriptor uuidDescType sizeFourBytes :: uint32ToBeStream uuid.as32Bit
  else if len = kNumBytes128 then descriptor uuidDescType sizeSixteenBytes :: uuid.to128BitBE
  else []

/-- `sdpu_build_uuid_seq(p_out, num_uuids, p_uuid_list)`: the bytes it writes,
the sequence length stored in the one byte left for it. -/
def sdpuBuildUuidSeq (numUuids : Nat) (pUuidList : List Uuid) : List UInt8 :=
  let body := (pUuidList.take numUuids).flatMap uuidElement
  descriptor dataEleSeqDescType sizeInNextByte :: UInt8.ofNat body.length :: body

/-! ### The readers -/

/-- A read past the end of the buffer. -/
inductive Fault
  | overread
deriving DecidableEq, Repr

/-- The byte at `p`. -/
def byteAt (bytes : List UInt8) (p : Nat) : Except Fault Nat :=
  match bytes[p]? with
  | some byte => pure byte.toNat
  | none => throw .overread

/-- `BE_STREAM_TO_UINT16`. -/
def beStreamToUint16 (bytes : List UInt8) (p : Nat) : Except Fault Nat := do
  let high ← byteAt bytes p
  let low ← byteAt bytes (p + 1)
  pure ((high <<< 8) + low)

/-- `BE_STREAM_TO_UINT32`. -/
def beStreamToUint32 (bytes : List UInt8) (p : Nat) : Except Fault Nat := do
  let first ← byteAt bytes p
  let second ← byteAt bytes (p + 1)
  let third ← byteAt bytes (p + 2)
  let fourth ← byteAt bytes (p + 3)
  pure ((first <<< 24) + (second <<< 16) + (third <<< 8) + fourth)

/-- `BE_STREAM_TO_ARRAY`: `len` bytes from `p`, in order. -/
def beStreamToArray (bytes : List UInt8) (p len : Nat) : Except Fault (List UInt8) :=
  if p + len ≤ bytes.length then pure (window bytes p len) else throw .overread

/-- The switch on the size index of a descriptor read at `p - 1`: the length
it gives and the number of length bytes after the descriptor, or `none` where
the switch returns `NULL`, for a size it does not list or a length field that
would end past `limit`. `fixed` gives the sizes the switch fixes itself. -/
def dataElementSize (fixed : Nat → Option Nat) (bytes : List UInt8) (p limit size : Nat) :
    Except Fault (Option (Nat × Nat)) :=
  match fixed size with
  | some length => pure (some (length, 0))
  | none =>
    if size = sizeInNextByte then
      if limit < p + 1 then pure none
      else do
        let length ← byteAt bytes p
        pure (some (length, 1))
    else if size = sizeInNextWord then
      if limit < p + 2 then pure none
      else do
        let length ← beStreamToUint16 bytes p
        pure (some (length, 2))
    else if size = sizeInNextLong then
      if limit < p + 4 then pure none
      else do
        let length ← beStreamToUint32 bytes p
        pure (some (length, 4))
    else pure none

/-- The sizes `sdpu_extract_attr_seq` fixes for an attribute: two and four
bytes. -/
def attrSizes (size : Nat) : Option Nat :=
  if size = sizeTwoBytes then some 2 else if size = sizeFourBytes then some 4 else none

/-- The sizes `sdpu_extract_uid_seq` fixes, for the sequence as for a UUID:
two, four and sixteen bytes. -/
def uidSizes (size : Nat) : Option Nat :=
  if size = sizeTwoBytes then some 2
  else if size = sizeFourBytes then some 4
  else if size = sizeSixteenBytes then some 16
  else none

/-- The sequence header both readers read at `p` with `param_len` bytes: the
sequence's length and the position after the header, or `none` when the
descriptor is not a sequence's, its size is refused or the length passes
`param_len`. The sequence sizes the reader fixes are `fixed`. -/
def sequenceHeader (fixed : Nat → Option Nat) (bytes : List UInt8) (p paramLen : Nat) :
    Except Fault (Option (Nat × Nat)) :=
  if paramLen < 1 then pure none
  else do
    let descr ← byteAt bytes p
    if descr >>> 3 ≠ dataEleSeqDescType then pure none
    else
      match ← dataElementSize fixed bytes (p + 1) (p + paramLen) (descr &&& 7) with
      | none => pure none
      | some (seqLen, fieldBytes) =>
        if seqLen > p + paramLen - (p + 1 + fieldBytes) then pure none
        else pure (some (seqLen, p + 1 + fieldBytes))

/-- The loop of `sdpu_extract_attr_seq` from `p` to the end of the list
`pEnd`, with the entries `(start, end)` read so far. -/
def attrLoop (bytes : List UInt8) (pEnd : Nat) (p : Nat) (entries : List (Nat × Nat)) :
    Except Fault (Option (Nat × List (Nat × Nat))) :=
  if p < pEnd then do
    let descr ← byteAt bytes p
    if descr >>> 3 ≠ uintDescType then pure none
    else
      match ← dataElementSize attrSizes bytes (p + 1) pEnd (descr &&& 7) with
      | none => pure none
      | some (attrLen, fieldBytes) =>
        if pEnd < p + 1 + fieldBytes + attrLen then pure none
        else if attrLen = 2 then do
          let start ← beStreamToUint16 bytes (p + 1 + fieldBytes)
          if maxAttrPerSeq ≤ entries.length + 1 then pure none
          else attrLoop bytes pEnd (p + 1 + fieldBytes + 2) (entries ++ [(start, start)])
        else if attrLen = 4 then do
          let start ← beStreamToUint16 bytes (p + 1 + fieldBytes)
          let stop ← beStreamToUint16 bytes (p + 1 + fieldBytes + 2)
          if maxAttrPerSeq ≤ entries.length + 1 then pure none
          else attrLoop bytes pEnd (p + 1 + fieldBytes + 4) (entries ++ [(start, stop)])
        else pure none
  else pure (some (p, entries))
termination_by pEnd - p

/-- `sdpu_extract_attr_seq(p, param_len, p_seq)`: the position after the
sequence and the entries, or `none` for `NULL`. -/
def sdpuExtractAttrSeq (bytes : List UInt8) (p paramLen : Nat) :
    Except Fault (Option (Nat × List (Nat × Nat))) := do
  match ← sequenceHeader (fun _ => none) bytes p paramLen with
  | none => pure none
  | some (listLen, start) => attrLoop bytes (start + listLen) start []

/-- The loop of `sdpu_extract_uid_seq` from `p` to the end of the sequence
`pEnd`, with the entries `(len, value)` read so far; the sequence must end
exactly at `pEnd`. -/
def uidLoop (bytes : List UInt8) (pEnd : Nat) (p : Nat) (entries : List (Nat × List UInt8)) :
    Except Fault (Option (Nat × List (Nat × List UInt8))) :=
  if p < pEnd then do
    let descr ← byteAt bytes p
    if descr >>> 3 ≠ uuidDescType then pure none
    else
      match ← dataElementSize uidSizes bytes (p + 1) pEnd (descr &&& 7) with
      | none => pure none
      | some (uuidLen, fieldBytes) =>
        if (uuidLen = 2 ∨ uuidLen = 4 ∨ uuidLen = 16) ∧
            p + 1 + fieldBytes + uuidLen ≤ pEnd then do
          let value ← beStreamToArray bytes (p + 1 + fieldBytes) uuidLen
          if maxUuidsPerSeq ≤ entries.length + 1 then pure none
          else uidLoop bytes pEnd (p + 1 + fieldBytes + uuidLen) (entries ++ [(uuidLen, value)])
        else pure none
  else if p ≠ pEnd then pure none
  else pure (some (p, entries))
termination_by pEnd - p

/-- `sdpu_extract_uid_seq(p, param_len, p_seq)`: the position after the
sequence and the entries, or `none` for `NULL`. -/
def sdpuExtractUidSeq (bytes : List UInt8) (p paramLen : Nat) :
    Except Fault (Option (Nat × List (Nat × List UInt8))) := do
  match ← sequenceHeader uidSizes bytes p paramLen with
  | none => pure none
  | some (seqLen, start) => uidLoop bytes (start + seqLen) start []

/-! ### Reads through a longer buffer -/

/-- A read past a prefix reads the rest. -/
theorem byteAt_append_length (front rest : List UInt8) (i : Nat) :
    byteAt (front ++ rest) (front.length + i) = byteAt rest i := by
  simp only [byteAt, List.getElem?_append_right (Nat.le_add_right _ _), Nat.add_sub_cancel_left]

/-- The byte at the end of a prefix. -/
theorem byteAt_at_length (front rest : List UInt8) (byte : UInt8) :
    byteAt (front ++ byte :: rest) front.length = pure byte.toNat := by
  have shifted := byteAt_append_length front (byte :: rest) 0
  rw [Nat.add_zero] at shifted
  rw [shifted]
  rfl

/-- The same for a two-byte field. -/
theorem beStreamToUint16_append_length (front rest : List UInt8) (i : Nat) :
    beStreamToUint16 (front ++ rest) (front.length + i) = beStreamToUint16 rest i := by
  simp only [beStreamToUint16, Nat.add_assoc, byteAt_append_length]

/-- The same for an array. -/
theorem beStreamToArray_append_length (front rest : List UInt8) (i len : Nat) :
    beStreamToArray (front ++ rest) (front.length + i) len = beStreamToArray rest i len := by
  simp only [beStreamToArray, window, List.length_append, Nat.add_assoc, Nat.add_le_add_iff_left,
    List.drop_append, List.drop_eq_nil_of_le (Nat.le_add_right _ _), List.nil_append,
    Nat.add_sub_cancel_left]

/-- A 16-bit value written big-endian reads back. -/
theorem beStreamToUint16_uint16ToBeStream (value : Nat) (rest : List UInt8)
    (fits : value < 65536) :
    beStreamToUint16 (uint16ToBeStream value ++ rest) 0 = pure value := by
  simp only [beStreamToUint16, uint16ToBeStream, List.cons_append, byteAt, List.getElem?_cons_zero,
    List.getElem?_cons_succ, UInt8.toNat_ofNat', Nat.shiftRight_eq_div_pow, Nat.shiftLeft_eq,
    pure_bind, Nat.reducePow]
  congr 1
  omega

/-! ### Headers -/

/-- A descriptor's type and size index read back. -/
theorem descriptor_fields : ∀ type < 32, ∀ size < 8,
    (descriptor type size).toNat >>> 3 = type ∧ (descriptor type size).toNat &&& 7 = size := by
  decide

/-- A size the switch fixes needs no length field. -/
theorem dataElementSize_fixed (fixed : Nat → Option Nat) (bytes : List UInt8) (p limit size : Nat)
    (length : Nat) (fixes : fixed size = some length) :
    dataElementSize fixed bytes p limit size = pure (some (length, 0)) := by
  simp only [dataElementSize, fixes]

/-- A length in the next byte, inside the limit, is read. -/
theorem dataElementSize_nextByte (fixed : Nat → Option Nat) (bytes : List UInt8) (p limit : Nat)
    (length : Nat) (notFixed : fixed sizeInNextByte = none) (inside : p + 1 ≤ limit)
    (read : byteAt bytes p = pure length) :
    dataElementSize fixed bytes p limit sizeInNextByte = pure (some (length, 1)) := by
  have within : ¬ limit < p + 1 := by omega
  simp only [dataElementSize, notFixed, ↓reduceIte, within, read, pure_bind]

/-- A sequence header with its length in the next byte, followed by at least
that many bytes of `param_len`, gives the length and the position after it. -/
theorem sequenceHeader_nextByte (fixed : Nat → Option Nat) (front rest : List UInt8)
    (seqLen paramLen : Nat) (notFixed : fixed sizeInNextByte = none) (short : seqLen < 256)
    (fits : seqLen + 2 ≤ paramLen) :
    sequenceHeader fixed
        (front ++ descriptor dataEleSeqDescType sizeInNextByte :: UInt8.ofNat seqLen :: rest)
        front.length paramLen =
      pure (some (seqLen, front.length + 2)) := by
  obtain ⟨typeRead, sizeRead⟩ := descriptor_fields dataEleSeqDescType (by decide) sizeInNextByte
    (by decide)
  have lengthRead : byteAt (front ++ descriptor dataEleSeqDescType sizeInNextByte ::
      UInt8.ofNat seqLen :: rest) (front.length + 1) = pure seqLen := by
    rw [byteAt_append_length]
    simp only [byteAt, List.getElem?_cons_succ, List.getElem?_cons_zero, UInt8.toNat_ofNat',
      Nat.mod_eq_of_lt short]
  unfold sequenceHeader
  rw [if_neg (by omega), byteAt_at_length, pure_bind, typeRead, if_neg (by simp), sizeRead,
    dataElementSize_nextByte fixed _ _ _ seqLen notFixed (by omega) lengthRead, pure_bind]
  dsimp only
  rw [if_neg (by omega)]

/-! ### Attribute sequences -/

/-- One pass of the attribute loop over a two-byte id stored at `p`. -/
theorem attrLoop_attribElement (bytes front rest : List UInt8) (attr : UInt16) (pEnd : Nat)
    (entries : List (Nat × Nat)) (layout : bytes = front ++ attribElement attr ++ rest)
    (ends : front.length + 3 ≤ pEnd) (room : entries.length + 1 < maxAttrPerSeq) :
    attrLoop bytes pEnd front.length entries =
      attrLoop bytes pEnd (front.length + 3) (entries ++ [(attr.toNat, attr.toNat)]) := by
  obtain ⟨typeRead, sizeRead⟩ := descriptor_fields uintDescType (by decide) sizeTwoBytes
    (by decide)
  have split : bytes = (front ++ [descriptor uintDescType sizeTwoBytes]) ++
      uint16ToBeStream attr.toNat ++ rest := by
    rw [layout, attribElement]
    simp only [List.append_assoc, List.cons_append, List.nil_append]
  have descrRead : byteAt bytes front.length = pure (descriptor uintDescType sizeTwoBytes).toNat := by
    rw [layout, attribElement, List.append_assoc, List.cons_append]
    exact byteAt_at_length _ _ _
  have valueRead : beStreamToUint16 bytes (front.length + 1 + 0) = pure attr.toNat := by
    have shifted := beStreamToUint16_append_length
      (front ++ [descriptor uintDescType sizeTwoBytes]) (uint16ToBeStream attr.toNat ++ rest) 0
    rw [List.length_append, List.length_singleton, Nat.add_zero, ← List.append_assoc, ← split]
      at shifted
    rw [Nat.add_zero, shifted]
    exact beStreamToUint16_uint16ToBeStream attr.toNat rest attr.toNat_lt
  rw [attrLoop, if_pos (by omega), descrRead, pure_bind, typeRead, if_neg (by simp), sizeRead,
    dataElementSize_fixed attrSizes _ _ _ _ 2 rfl, pure_bind]
  dsimp only
  rw [if_neg (by omega), if_pos rfl, valueRead, pure_bind, if_neg (by omega)]

/-- The loop passes a run of two-byte ids, adding each as the range of one
attribute, and stops at the end of the list. The induction is on the ids, the
prefix growing by one id each time. -/
theorem attrLoop_attribElements (front back : List UInt8) (attrs : List UInt16)
    (entries : List (Nat × Nat)) (room : entries.length + attrs.length < maxAttrPerSeq) :
    attrLoop (front ++ attrs.flatMap attribElement ++ back)
        (front.length + (attrs.flatMap attribElement).length) front.length entries =
      pure (some (front.length + (attrs.flatMap attribElement).length,
        entries ++ attrs.map fun attr => (attr.toNat, attr.toNat))) := by
  induction attrs generalizing front entries with
  | nil =>
    rw [attrLoop, if_neg (by simp)]
    simp
  | cons attr rest inductionHypothesis =>
    have elementLength : (attribElement attr).length = 3 := rfl
    have layout : front ++ (attr :: rest).flatMap attribElement ++ back =
        front ++ attribElement attr ++ (rest.flatMap attribElement ++ back) := by
      simp only [List.flatMap_cons, List.append_assoc]
    have shifted : front.length + ((attr :: rest).flatMap attribElement).length =
        (front ++ attribElement attr).length + (rest.flatMap attribElement).length := by
      simp only [List.flatMap_cons, List.length_append, elementLength]
      omega
    have regrouped : front ++ (attr :: rest).flatMap attribElement ++ back =
        (front ++ attribElement attr) ++ rest.flatMap attribElement ++ back := by
      simp only [List.flatMap_cons, List.append_assoc]
    simp only [List.length_cons] at room
    rw [attrLoop_attribElement _ front _ attr _ entries layout
      (by rw [shifted, List.length_append, elementLength]; omega) (by omega), shifted, regrouped]
    have nextPosition : front.length + 3 = (front ++ attribElement attr).length := by
      simp only [List.length_append, elementLength]
    rw [nextPosition, inductionHypothesis (front ++ attribElement attr)
      (entries ++ [(attr.toNat, attr.toNat)])
      (by simp only [List.length_append, List.length_singleton]; omega)]
    simp

/-- One pass of the attribute loop over a four-byte range stored at `p`. -/
theorem attrLoop_range (bytes front rest : List UInt8) (start stop pEnd : Nat)
    (entries : List (Nat × Nat)) (startFits : start < 65536) (stopFits : stop < 65536)
    (layout : bytes = front ++ (descriptor uintDescType sizeFourBytes :: uint16ToBeStream start ++
      uint16ToBeStream stop) ++ rest)
    (ends : front.length + 5 ≤ pEnd) (room : entries.length + 1 < maxAttrPerSeq) :
    attrLoop bytes pEnd front.length entries =
      attrLoop bytes pEnd (front.length + 5) (entries ++ [(start, stop)]) := by
  obtain ⟨typeRead, sizeRead⟩ := descriptor_fields uintDescType (by decide) sizeFourBytes
    (by decide)
  have descrRead : byteAt bytes front.length =
      pure (descriptor uintDescType sizeFourBytes).toNat := by
    rw [layout, List.append_assoc, List.cons_append]
    exact byteAt_at_length _ _ _
  have startRead : beStreamToUint16 bytes (front.length + 1 + 0) = pure start := by
    have shifted := beStreamToUint16_append_length
      (front ++ [descriptor uintDescType sizeFourBytes])
      (uint16ToBeStream start ++ (uint16ToBeStream stop ++ rest)) 0
    rw [List.length_append, List.length_singleton, Nat.add_zero] at shifted
    have regrouped : bytes = front ++ [descriptor uintDescType sizeFourBytes] ++
        (uint16ToBeStream start ++ (uint16ToBeStream stop ++ rest)) := by
      rw [layout]
      simp only [List.append_assoc, List.cons_append, List.nil_append]
    rw [Nat.add_zero, regrouped, shifted]
    exact beStreamToUint16_uint16ToBeStream start _ startFits
  have stopRead : beStreamToUint16 bytes (front.length + 1 + 0 + 2) = pure stop := by
    have shifted := beStreamToUint16_append_length
      (front ++ descriptor uintDescType sizeFourBytes :: uint16ToBeStream start)
      (uint16ToBeStream stop ++ rest) 0
    rw [List.length_append, List.length_cons, Nat.add_zero] at shifted
    have regrouped : bytes = front ++ descriptor uintDescType sizeFourBytes ::
        uint16ToBeStream start ++ (uint16ToBeStream stop ++ rest) := by
      rw [layout]
      simp only [List.append_assoc, List.cons_append]
    have position : front.length + 1 + 0 + 2 =
        front.length + ((uint16ToBeStream start).length + 1) := by
      simp only [uint16ToBeStream, List.length_cons, List.length_nil]
    rw [regrouped, position, shifted]
    exact beStreamToUint16_uint16ToBeStream stop rest stopFits
  rw [attrLoop, if_pos (by omega), descrRead, pure_bind, typeRead, if_neg (by simp), sizeRead,
    dataElementSize_fixed attrSizes _ _ _ _ 4 rfl, pure_bind]
  dsimp only
  rw [if_neg (by omega), if_neg (by decide), if_pos rfl, startRead, pure_bind, stopRead, pure_bind,
    if_neg (by omega)]

/-- The bytes of the attribute ids: three for each. -/
theorem length_flatMap_attribElement (attrs : List UInt16) :
    (attrs.flatMap attribElement).length = 3 * attrs.length := by
  induction attrs with
  | nil => rfl
  | cons attr rest inductionHypothesis =>
    rw [List.flatMap_cons, List.length_append, inductionHypothesis, List.length_cons]
    have elementLength : (attribElement attr).length = 3 := rfl
    omega

/-- With fewer than 86 ids the builder writes a one-byte sequence length and
the ids. -/
theorem sdpuBuildAttribSeq_some (attrs : List UInt16) (few : attrs.length * 3 ≤ 255) :
    sdpuBuildAttribSeq (some attrs) attrs.length =
      descriptor dataEleSeqDescType sizeInNextByte ::
        UInt8.ofNat (attrs.flatMap attribElement).length :: attrs.flatMap attribElement := by
  rw [sdpuBuildAttribSeq, length_flatMap_attribElement, List.take_length]
  rw [Nat.mod_eq_of_lt (by omega), if_neg (by omega), Nat.mul_comm]
  rfl

/-- `sdpu_extract_attr_seq` reads back the ids `sdpu_build_attrib_seq` wrote,
each as the range of one attribute, and returns the position after them. -/
theorem sdpuExtractAttrSeq_sdpuBuildAttribSeq (front back : List UInt8) (attrs : List UInt16)
    (paramLen : Nat) (few : attrs.length < maxAttrPerSeq)
    (fits : (sdpuBuildAttribSeq (some attrs) attrs.length).length ≤ paramLen) :
    sdpuExtractAttrSeq (front ++ sdpuBuildAttribSeq (some attrs) attrs.length ++ back)
        front.length paramLen =
      pure (some (front.length + (sdpuBuildAttribSeq (some attrs) attrs.length).length,
        attrs.map fun attr => (attr.toNat, attr.toNat))) := by
  have bodyLength := length_flatMap_attribElement attrs
  simp only [maxAttrPerSeq] at few
  rw [sdpuBuildAttribSeq_some attrs (by omega)] at fits ⊢
  simp only [List.length_cons] at fits
  have regrouped : front ++ (descriptor dataEleSeqDescType sizeInNextByte ::
      UInt8.ofNat (attrs.flatMap attribElement).length :: attrs.flatMap attribElement) ++ back =
      (front ++ [descriptor dataEleSeqDescType sizeInNextByte,
        UInt8.ofNat (attrs.flatMap attribElement).length]) ++ attrs.flatMap attribElement ++
        back := by
    simp only [List.append_assoc, List.cons_append, List.nil_append]
  have headerLength : (front ++ [descriptor dataEleSeqDescType sizeInNextByte,
      UInt8.ofNat (attrs.flatMap attribElement).length]).length = front.length + 2 := by
    simp
  unfold sdpuExtractAttrSeq
  rw [List.append_assoc, List.cons_append, List.cons_append,
    sequenceHeader_nextByte _ front _ _ paramLen rfl (by omega) (by omega), pure_bind]
  dsimp only
  rw [← List.cons_append, ← List.cons_append, ← List.append_assoc, regrouped, ← headerLength,
    attrLoop_attribElements _ back attrs [] (by simp only [List.length_nil, maxAttrPerSeq]; omega)]
  simp only [List.nil_append, List.length_cons, headerLength]
  congr 3
  omega

/-- The loop stops at the end of the list with what it has read. -/
theorem attrLoop_done (bytes : List UInt8) (pEnd p : Nat) (entries : List (Nat × Nat))
    (reached : pEnd ≤ p) : attrLoop bytes pEnd p entries = pure (some (p, entries)) := by
  rw [attrLoop, if_neg (by omega)]

/-- Without an attribute list, `sdpu_extract_attr_seq` reads back the one range
`0x0000 .. 0xFFFF` the builder wrote. -/
theorem sdpuExtractAttrSeq_wildcard (front back : List UInt8) (numAttrs paramLen : Nat)
    (fits : 7 ≤ paramLen) :
    sdpuExtractAttrSeq (front ++ sdpuBuildAttribSeq none numAttrs ++ back) front.length paramLen =
      pure (some (front.length + 7, [(0, 0xFFFF)])) := by
  have built : sdpuBuildAttribSeq none numAttrs =
      descriptor dataEleSeqDescType sizeInNextByte :: UInt8.ofNat 5 ::
        (descriptor uintDescType sizeFourBytes :: uint16ToBeStream 0 ++ uint16ToBeStream 0xFFFF) :=
    rfl
  have header : front ++ [descriptor dataEleSeqDescType sizeInNextByte, UInt8.ofNat 5] ++
      (descriptor uintDescType sizeFourBytes :: uint16ToBeStream 0 ++ uint16ToBeStream 0xFFFF) ++
        back =
      front ++ descriptor dataEleSeqDescType sizeInNextByte :: UInt8.ofNat 5 ::
        ((descriptor uintDescType sizeFourBytes :: uint16ToBeStream 0 ++ uint16ToBeStream 0xFFFF) ++
          back) := by
    simp only [List.append_assoc, List.cons_append, List.nil_append]
  have headerLength : (front ++ [descriptor dataEleSeqDescType sizeInNextByte,
      UInt8.ofNat 5]).length = front.length + 2 := by
    simp
  unfold sdpuExtractAttrSeq
  rw [built, List.append_assoc, List.cons_append, List.cons_append,
    sequenceHeader_nextByte _ front _ 5 paramLen rfl (by decide) (by omega), pure_bind]
  dsimp only
  rw [← header, ← headerLength, attrLoop_range _ _ back 0 0xFFFF _ [] (by decide) (by decide) rfl
    (by omega) (by decide), attrLoop_done _ _ _ _ (by omega)]
  simp only [headerLength, List.nil_append]

/-! ### UUID sequences -/

/-- A shortest size is one of the three. -/
theorem getShortestRepresentationSize_cases (uuid : Uuid) :
    uuid.getShortestRepresentationSize = kNumBytes16 ∨
      uuid.getShortestRepresentationSize = kNumBytes32 ∨
        uuid.getShortestRepresentationSize = kNumBytes128 := by
  unfold Uuid.getShortestRepresentationSize
  split_ifs <;> simp

/-- The shortest form has as many bytes as the shortest size says. -/
theorem length_shortestForm (uuid : Uuid) :
    uuid.shortestForm.length = uuid.getShortestRepresentationSize := by
  unfold Uuid.shortestForm
  rcases getShortestRepresentationSize_cases uuid with size | size | size <;>
    simp [size, kNumBytes16, kNumBytes32, kNumBytes128, uint16ToBeStream, uint32ToBeStream,
      Uuid.to128BitBE]

/-- The size index the builder writes for a UUID: the switch of the reader
fixes it to the UUID's shortest size. -/
def sizeIndexOf (uuid : Uuid) : Nat :=
  if uuid.getShortestRepresentationSize = kNumBytes16 then sizeTwoBytes
  else if uuid.getShortestRepresentationSize = kNumBytes32 then sizeFourBytes
  else sizeSixteenBytes

/-- Every UUID is written as its descriptor and its shortest form. -/
theorem uuidElement_eq (uuid : Uuid) :
    uuidElement uuid = descriptor uuidDescType (sizeIndexOf uuid) :: uuid.shortestForm := by
  unfold uuidElement sizeIndexOf Uuid.shortestForm
  rcases getShortestRepresentationSize_cases uuid with size | size | size <;>
    simp [size, kNumBytes16, kNumBytes32, kNumBytes128]

/-- The reader's switch fixes the size index of a UUID to its shortest size. -/
theorem uidSizes_sizeIndexOf (uuid : Uuid) :
    uidSizes (sizeIndexOf uuid) = some uuid.shortestForm.length ∧ sizeIndexOf uuid < 8 := by
  rw [length_shortestForm]
  unfold sizeIndexOf
  rcases getShortestRepresentationSize_cases uuid with size | size | size <;> rw [size] <;> decide

/-- The sizes the reader fixes are the ones it accepts for a UUID. -/
theorem uidSizes_valid (size length : Nat) (fixes : uidSizes size = some length) :
    length = 2 ∨ length = 4 ∨ length = 16 := by
  unfold uidSizes at fixes
  split_ifs at fixes <;> simp_all

/-- An array at the end of a prefix reads back. -/
theorem beStreamToArray_layout (front value rest : List UInt8) :
    beStreamToArray (front ++ value ++ rest) front.length value.length = pure value := by
  have shifted := beStreamToArray_append_length front (value ++ rest) 0 value.length
  rw [Nat.add_zero] at shifted
  rw [List.append_assoc, shifted, beStreamToArray, if_pos (by simp)]
  simp [window]

/-- One pass of the UUID loop over a UUID of a size the switch fixes. -/
theorem uidLoop_element (bytes front rest value : List UInt8) (size pEnd : Nat)
    (entries : List (Nat × List UInt8)) (fixes : uidSizes size = some value.length)
    (sizeBound : size < 8)
    (layout : bytes = front ++ (descriptor uuidDescType size :: value) ++ rest)
    (ends : front.length + 1 + value.length ≤ pEnd) (room : entries.length + 1 < maxUuidsPerSeq) :
    uidLoop bytes pEnd front.length entries =
      uidLoop bytes pEnd (front.length + 1 + value.length) (entries ++ [(value.length, value)]) := by
  obtain ⟨typeRead, sizeRead⟩ := descriptor_fields uuidDescType (by decide) size sizeBound
  have valid := uidSizes_valid size value.length fixes
  have descrRead : byteAt bytes front.length = pure (descriptor uuidDescType size).toNat := by
    rw [layout, List.append_assoc, List.cons_append]
    exact byteAt_at_length _ _ _
  have valueRead : beStreamToArray bytes (front.length + 1 + 0) value.length = pure value := by
    have regrouped : bytes = front ++ [descriptor uuidDescType size] ++ value ++ rest := by
      rw [layout]
      simp only [List.append_assoc, List.cons_append, List.nil_append]
    have position : front.length + 1 + 0 = (front ++ [descriptor uuidDescType size]).length := by
      simp
    rw [regrouped, position]
    exact beStreamToArray_layout _ value rest
  rw [uidLoop, if_pos (by omega), descrRead, pure_bind, typeRead, if_neg (by simp), sizeRead,
    dataElementSize_fixed uidSizes _ _ _ _ _ fixes, pure_bind]
  dsimp only
  rw [if_pos ⟨valid, by omega⟩, valueRead, pure_bind, if_neg (by omega), Nat.add_zero]

/-- The loop stops exactly at the end of the sequence with what it has read. -/
theorem uidLoop_done (bytes : List UInt8) (pEnd : Nat) (entries : List (Nat × List UInt8)) :
    uidLoop bytes pEnd pEnd entries = pure (some (pEnd, entries)) := by
  rw [uidLoop, if_neg (Nat.lt_irrefl pEnd), if_neg (by simp)]

/-- The loop passes a run of UUIDs, adding each as its shortest size and form,
and stops at the end of the sequence. The induction is on the UUIDs, the
prefix growing by one UUID each time. -/
theorem uidLoop_uuidElements (front back : List UInt8) (uuids : List Uuid)
    (entries : List (Nat × List UInt8)) (room : entries.length + uuids.length < maxUuidsPerSeq) :
    uidLoop (front ++ uuids.flatMap uuidElement ++ back)
        (front.length + (uuids.flatMap uuidElement).length) front.length entries =
      pure (some (front.length + (uuids.flatMap uuidElement).length,
        entries ++ uuids.map fun uuid =>
          (uuid.getShortestRepresentationSize, uuid.shortestForm))) := by
  induction uuids generalizing front entries with
  | nil =>
    simp only [List.flatMap_nil, List.length_nil, Nat.add_zero, List.map_nil, List.append_nil]
    exact uidLoop_done _ _ _
  | cons uuid rest inductionHypothesis =>
    obtain ⟨fixes, sizeBound⟩ := uidSizes_sizeIndexOf uuid
    have elementLength : (uuidElement uuid).length = 1 + uuid.shortestForm.length := by
      rw [uuidElement_eq, List.length_cons, Nat.add_comm]
    have layout : front ++ (uuid :: rest).flatMap uuidElement ++ back =
        front ++ (descriptor uuidDescType (sizeIndexOf uuid) :: uuid.shortestForm) ++
          (rest.flatMap uuidElement ++ back) := by
      simp only [List.flatMap_cons, List.append_assoc, uuidElement_eq]
    have shifted : front.length + ((uuid :: rest).flatMap uuidElement).length =
        (front ++ uuidElement uuid).length + (rest.flatMap uuidElement).length := by
      simp only [List.flatMap_cons, List.length_append]
      omega
    have regrouped : front ++ (uuid :: rest).flatMap uuidElement ++ back =
        (front ++ uuidElement uuid) ++ rest.flatMap uuidElement ++ back := by
      simp only [List.flatMap_cons, List.append_assoc]
    have nextPosition : front.length + 1 + uuid.shortestForm.length =
        (front ++ uuidElement uuid).length := by
      rw [List.length_append, elementLength, Nat.add_assoc]
    simp only [List.length_cons] at room
    rw [uidLoop_element _ front _ _ _ _ entries fixes sizeBound layout
      (by rw [shifted, List.length_append, elementLength]; omega) (by omega), shifted, regrouped,
      nextPosition, inductionHypothesis (front ++ uuidElement uuid)
        (entries ++ [(uuid.shortestForm.length, uuid.shortestForm)])
        (by simp only [List.length_append, List.length_singleton]; omega), length_shortestForm]
    simp

/-- A UUID takes at most seventeen bytes. -/
theorem length_uuidElement_le (uuid : Uuid) : (uuidElement uuid).length ≤ 17 := by
  rw [uuidElement_eq, List.length_cons, length_shortestForm]
  rcases getShortestRepresentationSize_cases uuid with size | size | size <;>
    simp [size, kNumBytes16, kNumBytes32, kNumBytes128]

/-- Fifteen UUIDs or fewer take at most 255 bytes. -/
theorem length_flatMap_uuidElement_le (uuids : List Uuid) :
    (uuids.flatMap uuidElement).length ≤ 17 * uuids.length := by
  induction uuids with
  | nil => simp
  | cons uuid rest inductionHypothesis =>
    rw [List.flatMap_cons, List.length_append, List.length_cons]
    have element := length_uuidElement_le uuid
    omega

/-- `sdpu_extract_uid_seq` reads back the UUIDs `sdpu_build_uuid_seq` wrote,
each with its shortest size and its big-endian form in that size, and returns
the position after them. -/
theorem sdpuExtractUidSeq_sdpuBuildUuidSeq (front back : List UInt8) (uuids : List Uuid)
    (paramLen : Nat) (few : uuids.length < maxUuidsPerSeq)
    (fits : (sdpuBuildUuidSeq uuids.length uuids).length ≤ paramLen) :
    sdpuExtractUidSeq (front ++ sdpuBuildUuidSeq uuids.length uuids ++ back) front.length
        paramLen =
      pure (some (front.length + (sdpuBuildUuidSeq uuids.length uuids).length,
        uuids.map fun uuid => (uuid.getShortestRepresentationSize, uuid.shortestForm))) := by
  have bodyLength := length_flatMap_uuidElement_le uuids
  simp only [maxUuidsPerSeq] at few
  have built : sdpuBuildUuidSeq uuids.length uuids =
      descriptor dataEleSeqDescType sizeInNextByte ::
        UInt8.ofNat (uuids.flatMap uuidElement).length :: uuids.flatMap uuidElement := by
    rw [sdpuBuildUuidSeq, List.take_length]
  rw [built] at fits ⊢
  simp only [List.length_cons] at fits
  have regrouped : front ++ (descriptor dataEleSeqDescType sizeInNextByte ::
      UInt8.ofNat (uuids.flatMap uuidElement).length :: uuids.flatMap uuidElement) ++ back =
      (front ++ [descriptor dataEleSeqDescType sizeInNextByte,
        UInt8.ofNat (uuids.flatMap uuidElement).length]) ++ uuids.flatMap uuidElement ++
        back := by
    simp only [List.append_assoc, List.cons_append, List.nil_append]
  have headerLength : (front ++ [descriptor dataEleSeqDescType sizeInNextByte,
      UInt8.ofNat (uuids.flatMap uuidElement).length]).length = front.length + 2 := by
    simp
  unfold sdpuExtractUidSeq
  rw [List.append_assoc, List.cons_append, List.cons_append,
    sequenceHeader_nextByte _ front _ _ paramLen rfl (by omega) (by omega), pure_bind]
  dsimp only
  rw [← List.cons_append, ← List.cons_append, ← List.append_assoc, regrouped, ← headerLength,
    uidLoop_uuidElements _ back uuids [] (by simp only [List.length_nil, maxUuidsPerSeq]; omega)]
  simp only [List.nil_append, List.length_cons, headerLength]
  congr 3
  omega

/-! ### The encoders and the server's decoders agree -/

/-- The SDP request encoders and the server's decoders agree: a list of fewer
than `MAX_ATTR_PER_SEQ` attribute ids reads back as their ranges in order, the
wildcard as the one range `0x0000 .. 0xFFFF`, and a list of fewer than
`MAX_UUIDS_PER_SEQ` UUIDs as their shortest sizes and forms, each reader
returning the position just after the bytes written. -/
theorem sdpuExtract_sdpuBuild_agree :
    (∀ (front back : List UInt8) (attrs : List UInt16) (paramLen : Nat),
      attrs.length < maxAttrPerSeq →
      (sdpuBuildAttribSeq (some attrs) attrs.length).length ≤ paramLen →
      sdpuExtractAttrSeq (front ++ sdpuBuildAttribSeq (some attrs) attrs.length ++ back)
          front.length paramLen =
        pure (some (front.length + (sdpuBuildAttribSeq (some attrs) attrs.length).length,
          attrs.map fun attr => (attr.toNat, attr.toNat)))) ∧
    (∀ (front back : List UInt8) (numAttrs paramLen : Nat),
      (sdpuBuildAttribSeq none numAttrs).length ≤ paramLen →
      sdpuExtractAttrSeq (front ++ sdpuBuildAttribSeq none numAttrs ++ back) front.length
          paramLen =
        pure (some (front.length + (sdpuBuildAttribSeq none numAttrs).length, [(0, 0xFFFF)]))) ∧
    (∀ (front back : List UInt8) (uuids : List Uuid) (paramLen : Nat),
      uuids.length < maxUuidsPerSeq →
      (sdpuBuildUuidSeq uuids.length uuids).length ≤ paramLen →
      sdpuExtractUidSeq (front ++ sdpuBuildUuidSeq uuids.length uuids ++ back) front.length
          paramLen =
        pure (some (front.length + (sdpuBuildUuidSeq uuids.length uuids).length,
          uuids.map fun uuid => (uuid.getShortestRepresentationSize, uuid.shortestForm)))) := by
  refine ⟨sdpuExtractAttrSeq_sdpuBuildAttribSeq, ?_, sdpuExtractUidSeq_sdpuBuildUuidSeq⟩
  intro front back numAttrs paramLen fits
  have wildcardLength : (sdpuBuildAttribSeq none numAttrs).length = 7 := rfl
  rw [wildcardLength] at fits ⊢
  exact sdpuExtractAttrSeq_wildcard front back numAttrs paramLen fits

/-- Two attribute ids, the wildcard, and a 16-bit and a 128-bit UUID after a
one-byte prefix. -/
theorem sdpuExtract_sdpuBuild_agree_sample :
    let front : List UInt8 := [0x02]
    let attrs : List UInt16 := [0x0000, 0x0100]
    let uuids : List Uuid := [kBase, ⟨Vector.replicate 16 0x42⟩]
    (attrs.length < maxAttrPerSeq ∧ (sdpuBuildAttribSeq (some attrs) attrs.length).length ≤ 8 ∧
      (sdpuBuildAttribSeq none 0).length ≤ 7 ∧ uuids.length < maxUuidsPerSeq ∧
      (sdpuBuildUuidSeq uuids.length uuids).length ≤ 22) ∧
    sdpuExtractAttrSeq (front ++ sdpuBuildAttribSeq (some attrs) attrs.length ++ []) front.length 8 =
      pure (some (front.length + (sdpuBuildAttribSeq (some attrs) attrs.length).length,
        attrs.map fun attr => (attr.toNat, attr.toNat))) ∧
    sdpuExtractAttrSeq (front ++ sdpuBuildAttribSeq none 0 ++ []) front.length 7 =
      pure (some (front.length + (sdpuBuildAttribSeq none 0).length, [(0, 0xFFFF)])) ∧
    sdpuExtractUidSeq (front ++ sdpuBuildUuidSeq uuids.length uuids ++ []) front.length 22 =
      pure (some (front.length + (sdpuBuildUuidSeq uuids.length uuids).length,
        uuids.map fun uuid => (uuid.getShortestRepresentationSize, uuid.shortestForm))) := by
  intro front attrs uuids
  obtain ⟨attrPart, wildcardPart, uuidPart⟩ := sdpuExtract_sdpuBuild_agree
  have bounds : attrs.length < maxAttrPerSeq ∧
      (sdpuBuildAttribSeq (some attrs) attrs.length).length ≤ 8 ∧
      (sdpuBuildAttribSeq none 0).length ≤ 7 ∧ uuids.length < maxUuidsPerSeq ∧
      (sdpuBuildUuidSeq uuids.length uuids).length ≤ 22 := by
    decide
  obtain ⟨few, attrFits, wildcardFits, fewUuids, uuidFits⟩ := bounds
  exact ⟨⟨few, attrFits, wildcardFits, fewUuids, uuidFits⟩,
    attrPart front [] attrs 8 few attrFits, wildcardPart front [] 0 7 wildcardFits,
    uuidPart front [] uuids 22 fewUuids uuidFits⟩

end Fluoride.SdpSeq