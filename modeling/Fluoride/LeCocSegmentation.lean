import Fluoride.L2capBuffers
import Fluoride.Segments
import Mathlib.Data.List.Forall2

/-!
# Segmenting SDUs on an LE credit-based channel

`l2c_lcc_get_next_xmit_sdu_seg` cuts the SDU at the head of a channel's transmit
queue into K-frames of at most the peer's MPS: the first carries the SDU length
in its first two bytes and so two bytes less of the SDU. The queued buffer's
`event` field, zero when the SDU is queued, tells a first call from a later one;
later calls shift the buffer's window over what was sent.

One call with its size fitting is described by `l2cLccGetNextXmitSduSeg_first`
and `l2cLccGetNextXmitSduSeg_next`, each frame as an `IsL2capFrame`. Successive
calls until the last piece (`sendSdu`) send the SDU length and then the
`Segments.segments` of the SDU's bytes (`sendSdu_frames`).
-/

namespace Fluoride.LeCocSegmentation

open ByteBuffer L2capBuffers Segments

/-- The fields of `tL2C_CCB` that `l2c_lcc_get_next_xmit_sdu_seg` reads and writes. -/
structure LccSender where
  peerMps : Nat
  localCid : Nat
  remoteCid : Nat
  xmitHoldQ : List (BtHdr UInt8)

/-- `l2c_lcc_get_next_xmit_sdu_seg`: the next K-frame of the SDU at the head of
the queue, whether it is the SDU's last, and the channel after the call. -/
def l2cLccGetNextXmitSduSeg (ccb : LccSender) : Option (BtHdr UInt8 × Bool × LccSender) := do
  let maxPdu := u16 ((ccb.peerMps : Int) - 4)
  let buffer ← ccb.xmitHoldQ.head?
  let firstPdu := buffer.event == 0
  let noOfBytesToSend :=
    min buffer.len (u16 (if firstPdu then (maxPdu : Int) - l2capLccSduLength else maxPdu))
  let lastPdu := noOfBytesToSend == buffer.len
  let xmit ← l2cFcrCloneBuf buffer (if firstPdu then l2capLccOffset else l2capMinOffset)
    noOfBytesToSend
  let xmit := { xmit with event := ccb.localCid }
  let xmit ← if firstPdu then do
      let offset := u16 ((xmit.offset : Int) - l2capLccSduLength)
      let data ← store? xmit.data offset (le16 buffer.len)
      pure { xmit with offset := offset, len := u16 (xmit.len + l2capLccSduLength), data := data }
    else pure xmit
  let buffer := { buffer with
    event := ccb.localCid
    len := buffer.len - noOfBytesToSend
    offset := u16 (buffer.offset + noOfBytesToSend) }
  let xmit := { xmit with layerSpecific := buffer.layerSpecific }
  let queue := if lastPdu then ccb.xmitHoldQ.tail else buffer :: ccb.xmitHoldQ.tail
  -- step back over the basic L2CAP header and write its length and channel ID
  let offset := u16 ((xmit.offset : Int) - l2capPktOverhead)
  let len := u16 (xmit.len + l2capPktOverhead)
  let data ← store? xmit.data offset (le16 (len - l2capPktOverhead) ++ le16 ccb.remoteCid)
  return ({ xmit with offset := offset, len := len, data := data }, lastPdu,
    { ccb with xmitHoldQ := queue })

/-- Successive calls of `l2c_lcc_get_next_xmit_sdu_seg`, as `l2cu_get_buffer_to_send`
makes them while credits last, until one reports the last piece of the SDU. -/
def sendSdu : Nat → LccSender → Option (List (BtHdr UInt8 × Bool) × LccSender)
  | 0, _ => none
  | fuel + 1, ccb => do
    let (xmit, lastPiece, ccb) ← l2cLccGetNextXmitSduSeg ccb
    if lastPiece then return ([(xmit, true)], ccb)
    let (later, ccb) ← sendSdu fuel ccb
    return ((xmit, false) :: later, ccb)

/-- A cut of `min len budget` bytes takes the whole rest exactly when it fits the budget. -/
theorem min_beq_self (len budget : Nat) : (min len budget == len) = decide (len ≤ budget) := by
  by_cases fits : len ≤ budget
  · rw [Nat.min_eq_left fits]
    simpa using fits
  · have smaller : min len budget < len := by omega
    simp [fits, Nat.ne_of_lt smaller]

/-- The last steps of a call: stepping back over the basic L2CAP header in the
headroom before the information and writing it there makes a frame of the
information. -/
theorem basicHeader_frame (cid headroom : Nat) (information : List UInt8) (event layerSpecific : Nat)
    (room : l2capPktOverhead ≤ headroom) (lengthFits : headroom + information.length < 65536) :
    ∃ data, store? (List.replicate headroom 0 ++ (information ++ List.replicate l2capFcsLen 0))
        (u16 ((headroom : Int) - l2capPktOverhead))
        (le16 (u16 (information.length + l2capPktOverhead) - l2capPktOverhead) ++ le16 cid) =
        some data ∧
      IsL2capFrame cid information
        { event := event
          len := u16 (information.length + l2capPktOverhead)
          offset := u16 ((headroom : Int) - l2capPktOverhead)
          layerSpecific := layerSpecific
          data := data } := by
  have offsetIs : u16 ((headroom : Int) - l2capPktOverhead) = headroom - l2capPktOverhead := by
    simp only [u16, l2capPktOverhead] at room ⊢
    omega
  have lenIs : u16 ((information.length : Int) + l2capPktOverhead) =
      information.length + l2capPktOverhead := by
    simp only [u16, l2capPktOverhead] at room lengthFits ⊢
    omega
  rw [offsetIs, lenIs, Nat.add_sub_cancel]
  simp only [l2capPktOverhead] at room ⊢
  have headerLength : (le16 information.length ++ le16 cid).length = 4 := by simp
  have stored := writeAt_replicate_append headroom (0 : UInt8) (le16 information.length ++ le16 cid)
    (information ++ List.replicate l2capFcsLen 0) (by rw [headerLength]; exact room)
  rw [headerLength] at stored
  refine ⟨_, store?_eq_some _ _ _ (by simp; omega), ?inside, ?fits, ?length, ?contents⟩
  case inside =>
    rw [stored]
    simp
    omega
  case fits =>
    simp only
    omega
  case length =>
    simp only [l2capPktOverhead]
    omega
  case contents =>
    show window _ (headroom - 4) (information.length + 4) = _
    have count : information.length + 4 =
        (le16 information.length ++ (le16 cid ++ information)).length := by
      simp only [List.length_append, length_le16]
      omega
    rw [stored, count]
    simpa only [List.append_assoc] using window_replicate_append (headroom - 4) (0 : UInt8)
      (le16 information.length ++ (le16 cid ++ information)) (List.replicate l2capFcsLen 0)

/-- The first call for an SDU, when its clone fits: a K-frame with the SDU length
and the first `MPS - 6` bytes at most, the last one exactly when the SDU fits. -/
theorem l2cLccGetNextXmitSduSeg_first (ccb : LccSender) (sdu : BtHdr UInt8)
    (rest : List (BtHdr UInt8)) (queued : ccb.xmitHoldQ = sdu :: rest) (fresh : sdu.event = 0)
    (validMps : l2capLeMinMps ≤ ccb.peerMps ∧ ccb.peerMps ≤ l2capLeMaxMps)
    (inside : sdu.offset + sdu.len ≤ sdu.data.length) (offsetFits : sdu.offset + sdu.len < 65536)
    (cloneFits : min sdu.len (ccb.peerMps - l2capPktOverhead - l2capLccSduLength) +
      BtHdr.headerSize + l2capLccOffset + l2capFcsLen < 65536) :
    ∃ xmit, l2cLccGetNextXmitSduSeg ccb =
        some (xmit, decide (sdu.len ≤ ccb.peerMps - l2capPktOverhead - l2capLccSduLength),
          { ccb with
            xmitHoldQ :=
              if sdu.len ≤ ccb.peerMps - l2capPktOverhead - l2capLccSduLength then rest
              else { sdu with
                event := ccb.localCid
                len := sdu.len - (ccb.peerMps - l2capPktOverhead - l2capLccSduLength)
                offset := sdu.offset + (ccb.peerMps - l2capPktOverhead - l2capLccSduLength) } ::
                rest }) ∧
      IsL2capFrame ccb.remoteCid (le16 sdu.len ++
        window sdu.data sdu.offset (min sdu.len (ccb.peerMps - l2capPktOverhead - l2capLccSduLength)))
        xmit := by
  obtain ⟨atLeast, atMost⟩ := validMps
  simp only [l2capLeMinMps, l2capLeMaxMps] at atLeast atMost
  have maxPdu : u16 ((ccb.peerMps : Int) - 4) = ccb.peerMps - l2capPktOverhead := by
    simp only [u16, l2capPktOverhead]
    omega
  have budget : u16 (((ccb.peerMps - l2capPktOverhead : Nat) : Int) - l2capLccSduLength) =
      ccb.peerMps - l2capPktOverhead - l2capLccSduLength := by
    simp only [u16, l2capPktOverhead, l2capLccSduLength]
    omega
  have lastIs := min_beq_self sdu.len (ccb.peerMps - l2capPktOverhead - l2capLccSduLength)
  have cloned := l2cFcrCloneBuf_eq sdu l2capLccOffset _ cloneFits (by omega)
  generalize pieceIs : min sdu.len (ccb.peerMps - l2capPktOverhead - l2capLccSduLength) = piece
    at cloneFits cloned lastIs ⊢
  have offsetIs : u16 ((l2capLccOffset : Int) - l2capLccSduLength) =
      l2capLccOffset - l2capLccSduLength := by
    decide
  have informationLength : (le16 sdu.len ++ window sdu.data sdu.offset piece).length =
      piece + l2capLccSduLength := by
    rw [List.length_append, length_le16, length_window _ _ _ (by omega)]
    simp only [l2capLccSduLength]
    omega
  have lenIs : u16 ((piece : Int) + l2capLccSduLength) =
      (le16 sdu.len ++ window sdu.data sdu.offset piece).length := by
    rw [informationLength]
    simp only [u16, l2capLccSduLength, BtHdr.headerSize, l2capLccOffset, l2capMinOffset,
      l2capFcsLen] at cloneFits ⊢
    omega
  have lengthStored : store? (List.replicate l2capLccOffset 0 ++ window sdu.data sdu.offset piece ++
      List.replicate l2capFcsLen 0) (l2capLccOffset - l2capLccSduLength) (le16 sdu.len) =
      some (List.replicate (l2capLccOffset - l2capLccSduLength) 0 ++
        ((le16 sdu.len ++ window sdu.data sdu.offset piece) ++ List.replicate l2capFcsLen 0)) := by
    have stored := writeAt_replicate_append l2capLccOffset (0 : UInt8) (le16 sdu.len)
      (window sdu.data sdu.offset piece ++ List.replicate l2capFcsLen 0)
      (by simp [l2capLccOffset, l2capMinOffset, l2capLccSduLength])
    rw [length_le16] at stored
    rw [store?_eq_some _ _ _ (by simp [l2capLccOffset, l2capLccSduLength, l2capMinOffset]),
      List.append_assoc]
    simp only [l2capLccSduLength, stored, List.append_assoc]
  obtain ⟨data, headerStored, isFrame⟩ := basicHeader_frame ccb.remoteCid
    (l2capLccOffset - l2capLccSduLength) (le16 sdu.len ++ window sdu.data sdu.offset piece)
    ccb.localCid sdu.layerSpecific (by decide) (by
      rw [informationLength]
      simp only [l2capLccSduLength, BtHdr.headerSize, l2capLccOffset, l2capMinOffset,
        l2capFcsLen] at cloneFits ⊢
      omega)
  simp only [l2cLccGetNextXmitSduSeg, queued, List.head?_cons, fresh, maxPdu, budget, pieceIs,
    Option.bind_eq_bind, Option.bind_some, beq_self_eq_true, ↓reduceIte, cloned, offsetIs,
    lengthStored, lenIs, headerStored, Option.pure_def]
  refine ⟨_, ?_, isFrame⟩
  rw [lastIs]
  by_cases fits : sdu.len ≤ ccb.peerMps - l2capPktOverhead - l2capLccSduLength
  · simp [fits]
  · have wholeBudget : piece = ccb.peerMps - l2capPktOverhead - l2capLccSduLength := by
      omega
    have shifted : u16 ((sdu.offset : Int) +
        ((ccb.peerMps - l2capPktOverhead - l2capLccSduLength : Nat) : Int)) =
        sdu.offset + (ccb.peerMps - l2capPktOverhead - l2capLccSduLength) := by
      simp only [u16]
      omega
    simp [fits, wholeBudget, shifted]

/-- A later call for an SDU, when its clone fits: a K-frame with the next
`MPS - 4` bytes at most, the last one exactly when the rest fits. -/
theorem l2cLccGetNextXmitSduSeg_next (ccb : LccSender) (sdu : BtHdr UInt8)
    (rest : List (BtHdr UInt8)) (queued : ccb.xmitHoldQ = sdu :: rest) (inFlight : sdu.event ≠ 0)
    (validMps : l2capLeMinMps ≤ ccb.peerMps ∧ ccb.peerMps ≤ l2capLeMaxMps)
    (inside : sdu.offset + sdu.len ≤ sdu.data.length) (offsetFits : sdu.offset + sdu.len < 65536)
    (cloneFits : min sdu.len (ccb.peerMps - l2capPktOverhead) +
      BtHdr.headerSize + l2capMinOffset + l2capFcsLen < 65536) :
    ∃ xmit, l2cLccGetNextXmitSduSeg ccb =
        some (xmit, decide (sdu.len ≤ ccb.peerMps - l2capPktOverhead),
          { ccb with
            xmitHoldQ :=
              if sdu.len ≤ ccb.peerMps - l2capPktOverhead then rest
              else { sdu with
                event := ccb.localCid
                len := sdu.len - (ccb.peerMps - l2capPktOverhead)
                offset := sdu.offset + (ccb.peerMps - l2capPktOverhead) } :: rest }) ∧
      IsL2capFrame ccb.remoteCid
        (window sdu.data sdu.offset (min sdu.len (ccb.peerMps - l2capPktOverhead))) xmit := by
  obtain ⟨atLeast, atMost⟩ := validMps
  simp only [l2capLeMinMps, l2capLeMaxMps] at atLeast atMost
  have maxPdu : u16 ((ccb.peerMps : Int) - 4) = ccb.peerMps - l2capPktOverhead := by
    simp only [u16, l2capPktOverhead]
    omega
  have budget : u16 ((ccb.peerMps - l2capPktOverhead : Nat) : Int) =
      ccb.peerMps - l2capPktOverhead := by
    simp only [u16, l2capPktOverhead]
    omega
  have later : (sdu.event == 0) = false := by
    simpa using inFlight
  have lastIs := min_beq_self sdu.len (ccb.peerMps - l2capPktOverhead)
  have cloned := l2cFcrCloneBuf_eq sdu l2capMinOffset _ cloneFits (by omega)
  generalize pieceIs : min sdu.len (ccb.peerMps - l2capPktOverhead) = piece
    at cloneFits cloned lastIs ⊢
  have pieceLength : (window sdu.data sdu.offset piece).length = piece :=
    length_window _ _ _ (by omega)
  obtain ⟨data, headerStored, isFrame⟩ := basicHeader_frame ccb.remoteCid l2capMinOffset
    (window sdu.data sdu.offset piece) ccb.localCid sdu.layerSpecific (by decide) (by
      rw [pieceLength]
      simp only [BtHdr.headerSize, l2capMinOffset, l2capFcsLen] at cloneFits ⊢
      omega)
  rw [pieceLength] at headerStored isFrame
  simp only [l2cLccGetNextXmitSduSeg, queued, List.head?_cons, later, maxPdu, budget, pieceIs,
    Option.bind_eq_bind, Option.bind_some, Bool.false_eq_true, ↓reduceIte, cloned, List.append_assoc,
    headerStored, Option.pure_def]
  refine ⟨_, ?_, isFrame⟩
  rw [lastIs]
  by_cases fits : sdu.len ≤ ccb.peerMps - l2capPktOverhead
  · simp [fits]
  · have wholeBudget : piece = ccb.peerMps - l2capPktOverhead := by
      omega
    have shifted : u16 ((sdu.offset : Int) + ((ccb.peerMps - l2capPktOverhead : Nat) : Int)) =
        sdu.offset + (ccb.peerMps - l2capPktOverhead) := by
      simp only [u16]
      omega
    simp [fits, wholeBudget, shifted]

/-- Putting an unflagged frame before a run whose last frame alone is flagged
keeps the last frame alone flagged. -/
theorem map_snd_cons_false {β : Type} (piece : β) (later : List (β × Bool))
    (laterFlags : later.map Prod.snd = List.replicate (later.length - 1) false ++ [true]) :
    ((piece, false) :: later).map Prod.snd =
      List.replicate (((piece, false) :: later).length - 1) false ++ [true] := by
  cases later with
  | nil => simp at laterFlags
  | cons first others =>
    simp only [List.map_cons, List.length_cons] at laterFlags ⊢
    rw [laterFlags]
    simp [List.replicate_succ]

/-- Later calls send the rest of an SDU in flight as its `segments` of `MPS - 4`
bytes, flag the last frame only, and take the SDU off the queue. -/
theorem sendSdu_next (ccb : LccSender) (fuel : Nat) (sdu : BtHdr UInt8)
    (rest : List (BtHdr UInt8)) (queued : ccb.xmitHoldQ = sdu :: rest) (inFlight : sdu.event ≠ 0)
    (dynamicCid : l2capBaseApplCid ≤ ccb.localCid)
    (validMps : l2capLeMinMps ≤ ccb.peerMps ∧ ccb.peerMps ≤ l2capLeMaxMps)
    (inside : sdu.offset + sdu.len ≤ sdu.data.length) (offsetFits : sdu.offset + sdu.len < 65536)
    (cloneFits : min sdu.len (ccb.peerMps - l2capPktOverhead) +
      BtHdr.headerSize + l2capMinOffset + l2capFcsLen < 65536)
    (enoughFuel : sdu.len < fuel) :
    ∃ frames, sendSdu fuel ccb = some (frames, { ccb with xmitHoldQ := rest }) ∧
      List.Forall₂ (fun frame piece => IsL2capFrame ccb.remoteCid piece frame.1) frames
        (segments (ccb.peerMps - l2capPktOverhead) (window sdu.data sdu.offset sdu.len)) ∧
      frames.map Prod.snd = List.replicate (frames.length - 1) false ++ [true] := by
  -- the induction is on the fuel, over every SDU still in flight
  induction fuel generalizing ccb sdu with
  | zero => omega
  | succ fuel inductionHypothesis =>
    have positive : 0 < ccb.peerMps - l2capPktOverhead := by
      have atLeast := validMps.1
      simp only [l2capLeMinMps, l2capPktOverhead] at atLeast ⊢
      omega
    obtain ⟨xmit, stepped, isFrame⟩ := l2cLccGetNextXmitSduSeg_next ccb sdu rest queued inFlight
      validMps inside offsetFits cloneFits
    have windowLength : (window sdu.data sdu.offset sdu.len).length = sdu.len :=
      length_window _ _ _ inside
    by_cases fits : sdu.len ≤ ccb.peerMps - l2capPktOverhead
    · refine ⟨[(xmit, true)], ?_, ?_, rfl⟩
      · simp [sendSdu, stepped, fits]
      · rw [segments_of_le _ _ (by omega)]
        refine List.Forall₂.cons ?_ List.Forall₂.nil
        simpa [Nat.min_eq_left fits] using isFrame
    · have cut : ccb.peerMps - l2capPktOverhead < sdu.len := Nat.lt_of_not_le fits
      let shiftedSdu : BtHdr UInt8 :=
        { sdu with
          event := ccb.localCid
          len := sdu.len - (ccb.peerMps - l2capPktOverhead)
          offset := sdu.offset + (ccb.peerMps - l2capPktOverhead) }
      have notFresh : shiftedSdu.event ≠ 0 := by
        simp only [shiftedSdu, l2capBaseApplCid] at dynamicCid ⊢
        omega
      obtain ⟨later, sentLater, laterFrames, laterFlags⟩ :=
        inductionHypothesis { ccb with xmitHoldQ := shiftedSdu :: rest } shiftedSdu rfl notFresh
          dynamicCid validMps (by simp only [shiftedSdu]; omega) (by simp only [shiftedSdu]; omega)
          (by simp only [shiftedSdu]; omega) (by simp only [shiftedSdu]; omega)
      refine ⟨(xmit, false) :: later, ?_, ?_, map_snd_cons_false _ _ laterFlags⟩
      · simp only [shiftedSdu] at sentLater
        simp [sendSdu, stepped, fits, sentLater]
      · rw [segments_of_lt _ _ positive (by omega)]
        refine List.Forall₂.cons ?_ ?_
        · rw [take_window _ _ _ _ (Nat.le_of_lt cut)]
          simpa [Nat.min_eq_right (Nat.le_of_lt cut)] using isFrame
        · rw [drop_window]
          exact laterFrames

/-- The information payloads of the K-frames that carry `sdu` over a channel of
peer MPS `mps`: the SDU length and the first `mps - 6` bytes, then the rest in
pieces of `mps - 4` bytes. -/
def kFramePayloads (mps : Nat) (sdu : List UInt8) : List (List UInt8) :=
  (le16 sdu.length ++ sdu.take (mps - l2capPktOverhead - l2capLccSduLength)) ::
    if sdu.length ≤ mps - l2capPktOverhead - l2capLccSduLength then []
    else segments (mps - l2capPktOverhead) (sdu.drop (mps - l2capPktOverhead - l2capLccSduLength))

/-- No K-frame of an SDU carries more than `MPS - 4` bytes of information. -/
theorem length_le_of_mem_kFramePayloads (mps : Nat) (sdu information : List UInt8)
    (validMps : l2capLeMinMps ≤ mps) (member : information ∈ kFramePayloads mps sdu) :
    information.length ≤ mps - l2capPktOverhead := by
  simp only [l2capLeMinMps] at validMps
  simp only [kFramePayloads, List.mem_cons] at member
  rcases member with first | later
  · rw [first, List.length_append, length_le16, List.length_take]
    simp only [l2capPktOverhead, l2capLccSduLength]
    omega
  · split_ifs at later with fits
    · simp at later
    · exact length_le_of_mem _ _ _ (by simp only [l2capPktOverhead]; omega) later

/-- Successive calls for a fresh SDU at the head of the queue, when its first
clone fits, send it as its `kFramePayloads`, flag the last frame only, and take
the SDU off the queue. -/
theorem sendSdu_fresh (ccb : LccSender) (fuel : Nat) (sdu : BtHdr UInt8)
    (rest : List (BtHdr UInt8)) (queued : ccb.xmitHoldQ = sdu :: rest) (fresh : sdu.event = 0)
    (dynamicCid : l2capBaseApplCid ≤ ccb.localCid)
    (validMps : l2capLeMinMps ≤ ccb.peerMps ∧ ccb.peerMps ≤ l2capLeMaxMps)
    (inside : sdu.offset + sdu.len ≤ sdu.data.length) (offsetFits : sdu.offset + sdu.len < 65536)
    (cloneFits : min sdu.len (ccb.peerMps - l2capPktOverhead - l2capLccSduLength) +
      BtHdr.headerSize + l2capLccOffset + l2capFcsLen < 65536)
    (enoughFuel : sdu.len < fuel) :
    ∃ frames, sendSdu fuel ccb = some (frames, { ccb with xmitHoldQ := rest }) ∧
      List.Forall₂ (fun frame information => IsL2capFrame ccb.remoteCid information frame.1) frames
        (kFramePayloads ccb.peerMps (window sdu.data sdu.offset sdu.len)) ∧
      frames.map Prod.snd = List.replicate (frames.length - 1) false ++ [true] := by
  obtain ⟨fuel, rfl⟩ : ∃ spare, fuel = spare + 1 := ⟨fuel - 1, by omega⟩
  obtain ⟨xmit, stepped, isFrame⟩ := l2cLccGetNextXmitSduSeg_first ccb sdu rest queued fresh
    validMps inside offsetFits cloneFits
  have windowLength : (window sdu.data sdu.offset sdu.len).length = sdu.len :=
    length_window _ _ _ inside
  have atLeast := validMps.1
  simp only [l2capLeMinMps] at atLeast
  by_cases fits : sdu.len ≤ ccb.peerMps - l2capPktOverhead - l2capLccSduLength
  · refine ⟨[(xmit, true)], ?_, ?_, rfl⟩
    · simp [sendSdu, stepped, fits]
    · simp only [kFramePayloads, windowLength, fits, ↓reduceIte]
      refine List.Forall₂.cons ?_ List.Forall₂.nil
      rw [List.take_of_length_le (by omega)]
      simpa [Nat.min_eq_left fits] using isFrame
  · have cut : ccb.peerMps - l2capPktOverhead - l2capLccSduLength < sdu.len := Nat.lt_of_not_le fits
    let shiftedSdu : BtHdr UInt8 :=
      { sdu with
        event := ccb.localCid
        len := sdu.len - (ccb.peerMps - l2capPktOverhead - l2capLccSduLength)
        offset := sdu.offset + (ccb.peerMps - l2capPktOverhead - l2capLccSduLength) }
    have notFresh : shiftedSdu.event ≠ 0 := by
      simp only [shiftedSdu, l2capBaseApplCid] at dynamicCid ⊢
      omega
    have laterCloneFits : min shiftedSdu.len (ccb.peerMps - l2capPktOverhead) +
        BtHdr.headerSize + l2capMinOffset + l2capFcsLen < 65536 := by
      simp only [shiftedSdu, BtHdr.headerSize, l2capLccOffset,
        l2capMinOffset, l2capFcsLen, l2capPktOverhead, l2capLccSduLength] at cloneFits ⊢
      omega
    obtain ⟨later, sentLater, laterFrames, laterFlags⟩ :=
      sendSdu_next { ccb with xmitHoldQ := shiftedSdu :: rest } fuel shiftedSdu rest rfl notFresh
        dynamicCid validMps (by simp only [shiftedSdu]; omega) (by simp only [shiftedSdu]; omega)
        laterCloneFits (by simp only [shiftedSdu, l2capPktOverhead, l2capLccSduLength]; omega)
    refine ⟨(xmit, false) :: later, ?_, ?_, map_snd_cons_false _ _ laterFlags⟩
    · simp only [shiftedSdu] at sentLater
      simp [sendSdu, stepped, fits, sentLater]
    · simp only [kFramePayloads, windowLength, fits, ↓reduceIte]
      refine List.Forall₂.cons ?_ ?_
      · rw [take_window _ _ _ _ (Nat.le_of_lt cut)]
        simpa [Nat.min_eq_right (Nat.le_of_lt cut)] using isFrame
      · rw [drop_window]
        exact laterFrames

/-- The first call for a fresh SDU whose first piece and headroom pass `65535`
bytes: `l2c_fcr_clone_buf` allocates the truncated size and its copy overruns it. -/
theorem l2cLccGetNextXmitSduSeg_cloneOverflow (ccb : LccSender) (sdu : BtHdr UInt8)
    (rest : List (BtHdr UInt8)) (queued : ccb.xmitHoldQ = sdu :: rest) (fresh : sdu.event = 0)
    (validMps : l2capLeMinMps ≤ ccb.peerMps ∧ ccb.peerMps ≤ l2capLeMaxMps)
    (wraps : 65536 ≤ min sdu.len (ccb.peerMps - l2capPktOverhead - l2capLccSduLength) +
      BtHdr.headerSize + l2capLccOffset + l2capFcsLen) :
    l2cLccGetNextXmitSduSeg ccb = none := by
  obtain ⟨atLeast, atMost⟩ := validMps
  simp only [l2capLeMinMps, l2capLeMaxMps] at atLeast atMost
  have maxPdu : u16 ((ccb.peerMps : Int) - 4) = ccb.peerMps - l2capPktOverhead := by
    simp only [u16, l2capPktOverhead]
    omega
  have firstBudget : u16 (((ccb.peerMps - l2capPktOverhead : Nat) : Int) - l2capLccSduLength) =
      ccb.peerMps - l2capPktOverhead - l2capLccSduLength := by
    simp only [u16, l2capPktOverhead, l2capLccSduLength]
    omega
  have pieceAtMost : min sdu.len (ccb.peerMps - l2capPktOverhead - l2capLccSduLength) ≤ 65527 := by
    simp only [l2capPktOverhead, l2capLccSduLength]
    omega
  generalize pieceIs : min sdu.len (ccb.peerMps - l2capPktOverhead - l2capLccSduLength) = piece
    at wraps pieceAtMost
  have overflows := l2cFcrCloneBuf_overflow sdu l2capLccOffset piece wraps
    (by simp only [BtHdr.headerSize, l2capLccOffset, l2capMinOffset, l2capLccSduLength,
      l2capFcsLen]; omega)
    (by simp only [BtHdr.headerSize, l2capLccOffset, l2capMinOffset, l2capLccSduLength,
      l2capFcsLen] at wraps; omega)
  rw [← pieceIs] at overflows
  simp only [l2cLccGetNextXmitSduSeg, queued, List.head?_cons, fresh, maxPdu, firstBudget,
    beq_self_eq_true, ↓reduceIte, Option.bind_eq_bind, Option.bind_some, overflows,
    Option.bind_none]

/-- No number of calls sends a fresh SDU whose first clone overflows. -/
theorem sendSdu_cloneOverflow (ccb : LccSender) (sdu : BtHdr UInt8)
    (rest : List (BtHdr UInt8)) (queued : ccb.xmitHoldQ = sdu :: rest) (fresh : sdu.event = 0)
    (validMps : l2capLeMinMps ≤ ccb.peerMps ∧ ccb.peerMps ≤ l2capLeMaxMps)
    (wraps : 65536 ≤ min sdu.len (ccb.peerMps - l2capPktOverhead - l2capLccSduLength) +
      BtHdr.headerSize + l2capLccOffset + l2capFcsLen) (fuel : Nat) :
    sendSdu fuel ccb = none := by
  cases fuel with
  | zero => rfl
  | succ fuel =>
    simp [sendSdu, l2cLccGetNextXmitSduSeg_cloneOverflow ccb sdu rest queued fresh validMps wraps]

/-- A 65535-byte SDU on a channel whose peer announced the largest MPS and MTU:
no number of calls sends it. -/
theorem sendSdu_largestSdu (fuel : Nat) :
    sendSdu fuel
      { peerMps := 65533
        localCid := 0x0040
        remoteCid := 0x0040
        xmitHoldQ := [⟨0, 65535, 0, 0, List.replicate 65535 0⟩] } = none :=
  sendSdu_cloneOverflow _ _ [] rfl rfl ⟨by decide, by decide⟩ (by decide) fuel

end Fluoride.LeCocSegmentation
