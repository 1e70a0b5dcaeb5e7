import Fluoride.ByteBuffer
import Fluoride.Runs

/-!
# The hands-free client's AT buffer

`bta_hf_client_at_parse` (`bta/hf_client/bta_hf_client_at.cc`) collects what the
audio gateway sends over RFCOMM, in reads of at most `BTA_HF_CLIENT_RFC_READ_MAX`
octets, in a buffer of `BTA_HF_CLIENT_AT_PARSER_MAX_LEN + 1` characters. When the
buffer ends with `\r\n` the events in it are parsed (`bta_hf_client_at_parse_start`)
and the buffer is cleared. When a read does not fit, the buffer is filled up,
cut after its last complete event, the complete part parsed, and the cut tail
moved to the front; the rest of the read is then appended.

Without the overrun, every call keeps the offset within the buffer
(`btaHfClientAtParse_fits`). The append after an overrun is not checked: the
cut tail can be nearly the whole buffer, and the rest of the read then runs
past it. Eight reads of 512 octets, an `OK\r\n` and then a line that does not
end, fill the buffer; a ninth read of 512 octets then copies 507 octets past its
end (`atParse_overrunTailOverflow`).

The event parsers are a parameter: `parseStart` stands for
`bta_hf_client_at_parse_start` on the NUL-terminated buffer, and the results
hold for every such parser. A `memcpy` outside the buffer is the failure of the
step.
-/

namespace Fluoride.HfClientAt

open ByteBuffer

/-- `BTA_HF_CLIENT_AT_PARSER_MAX_LEN`. -/
def btaHfClientAtParserMaxLen : Nat := 4096

/-- `BTA_HF_CLIENT_RFC_READ_MAX`, the longest read from RFCOMM. -/
def btaHfClientRfcReadMax : Nat := 512

/-- `BTA_HF_CLIENT_AT_EVENT_MIN_LEN`. -/
def btaHfClientAtEventMinLen : Nat := 3

/-- The part of `tBTA_HF_CLIENT_AT_CB` the parser writes: the buffer of
`BTA_HF_CLIENT_AT_PARSER_MAX_LEN + 1` characters and the offset. -/
structure AtCb where
  buf : List Char
  offset : Nat
  deriving DecidableEq, Repr

/-- The cleared buffer (`bta_hf_client_at_clear_buf`). -/
def AtCb.cleared : AtCb :=
  ⟨List.replicate (btaHfClientAtParserMaxLen + 1) '\x00', 0⟩

/-- The C string in the buffer: the characters up to the first NUL. -/
def cString (buf : List Char) : List Char :=
  buf.takeWhile (· ≠ '\x00')

/-- `bta_hf_client_check_at_complete` at an offset: the buffer ends with `\r\n`
there. -/
def atComplete (buf : List Char) (offset : Nat) : Bool :=
  btaHfClientAtEventMinLen ≤ offset && buf.getD (offset - 2) '\x00' == '\r' &&
    buf.getD (offset - 1) '\x00' == '\n'

/-- The loop of the overrun path that walks the offset back to the end of the
last complete event; none when it reaches the start of the buffer. -/
def findCompleteEnd (buf : List Char) : Nat → Option Nat
  | 0 => none
  | offset + 1 =>
    if atComplete buf (offset + 1) then some (offset + 1) else findCompleteEnd buf offset

/-- What a call reports: the events of a parse, or the disconnection after an
overrun with no complete event. -/
inductive AtOutput (ε : Type)
  | events (parsed : List ε)
  | close
  deriving DecidableEq, Repr

variable {ε : Type}

/-- The overrun path of `bta_hf_client_at_parse`: fill the buffer, cut it after
its last complete event, parse that, and move the cut tail to the front. The
rest of the read, or the disconnection. -/
def overrun (parseStart : List Char → List ε) (atCb : AtCb) (chunk : List Char) :
    Except Unit (Option (AtCb × List Char) × List (AtOutput ε)) := do
  let spaceLeft := btaHfClientAtParserMaxLen - atCb.offset
  let some buf := copy? atCb.buf atCb.offset chunk 0 spaceLeft | .error ()
  let rest := chunk.drop spaceLeft
  match findCompleteEnd buf (atCb.offset + spaceLeft) with
  | none => pure (none, [.close])
  | some cut =>
    -- the cut tail goes through `tmp_buff` to the front of the cleared buffer
    let tmp := atCb.offset + spaceLeft - cut
    let tail := window buf cut tmp
    let parsed := parseStart (cString (buf.set cut '\x00'))
    let some buf := copy? AtCb.cleared.buf 0 tail 0 tmp | .error ()
    pure (some (⟨buf, tmp⟩, rest), [.events parsed])

/-- `bta_hf_client_at_parse` on one read: the buffer after it and what it
reports, or a failure where a `memcpy` runs past the buffer. -/
def btaHfClientAtParse (parseStart : List Char → List ε) (atCb : AtCb) (chunk : List Char) :
    Except Unit (AtCb × List (AtOutput ε)) := do
  let (resumed, early) ←
    if chunk.length + atCb.offset > btaHfClientAtParserMaxLen then overrun parseStart atCb chunk
    else pure (some (atCb, chunk), [])
  match resumed with
  | none => pure (AtCb.cleared, early)
  | some (atCb, chunk) =>
    let some buf := copy? atCb.buf atCb.offset chunk 0 chunk.length | .error ()
    let atCb : AtCb := ⟨buf, atCb.offset + chunk.length⟩
    if atComplete atCb.buf atCb.offset then
      pure (AtCb.cleared, early ++ [.events (parseStart (cString atCb.buf))])
    else pure (atCb, early)

/-! ## The buffer laid out -/

/-- NULs after the content, to the end of the buffer. -/
def spare (content : List Char) : List Char :=
  List.replicate (btaHfClientAtParserMaxLen + 1 - content.length) '\x00'

/-- The buffer holds `content` from its start and NULs after it, and the offset
is the end of the content. -/
structure Holds (atCb : AtCb) (content : List Char) : Prop where
  laid : atCb.buf = content ++ spare content
  atEnd : atCb.offset = content.length
  fits : content.length ≤ btaHfClientAtParserMaxLen

theorem holds_cleared : Holds AtCb.cleared [] :=
  ⟨by simp [AtCb.cleared, spare], rfl, by decide⟩

/-- The completeness test reads only the content. -/
theorem atComplete_append (content rest : List Char) :
    atComplete (content ++ rest) content.length = atComplete content content.length := by
  by_cases long : btaHfClientAtEventMinLen ≤ content.length
  · have lastTwo : ∀ back, back ≤ 2 → 0 < back →
        (content ++ rest).getD (content.length - back) '\x00' = content.getD (content.length - back) '\x00' := by
      intro back atMost positive
      rw [List.getD_eq_getElem?_getD, List.getD_eq_getElem?_getD,
        List.getElem?_append_left (by unfold btaHfClientAtEventMinLen at long; omega)]
    simp only [atComplete, lastTwo 2 (by omega) (by omega), lastTwo 1 (by omega) (by omega)]
  · simp [atComplete, long]

/-- Content that ends with a character other than a line feed is no complete event. -/
theorem atComplete_of_last (front : List Char) (last : Char) (open_ : last ≠ '\n') :
    atComplete (front ++ [last]) (front ++ [last]).length = false := by
  have lastRead : (front ++ [last]).getD ((front ++ [last]).length - 1) '\x00' = last := by
    simp
  rw [atComplete, lastRead]
  simp [open_]

/-- The first `count` characters of a read that fit the buffer are copied after
the content. -/
theorem copy?_holds (atCb : AtCb) (content chunk : List Char) (count : Nat)
    (holds : Holds atCb content) (available : count ≤ chunk.length)
    (fits : count + content.length ≤ btaHfClientAtParserMaxLen) :
    copy? atCb.buf atCb.offset chunk 0 count =
      some (content ++ chunk.take count ++ spare (content ++ chunk.take count)) := by
  have taken : (chunk.take count).length = count := List.length_take_of_le available
  have appended := writeAt_append_replicate content (chunk.take count) '\x00'
    (btaHfClientAtParserMaxLen + 1 - content.length)
  rw [copy?_eq_some _ _ _ _ _ (by simp [holds.laid, holds.atEnd, spare]; omega) (by omega), window,
    List.drop_zero, holds.laid, holds.atEnd, spare, appended, spare, List.length_append, taken,
    Nat.sub_sub]

/-- **A read that fits.** From a laid-out buffer, a read that fits with the
content is appended to it; a buffer that then ends with `\r\n` is parsed and
cleared. -/
theorem btaHfClientAtParse_fits (parseStart : List Char → List ε) (atCb : AtCb)
    (content chunk : List Char) (holds : Holds atCb content)
    (fits : chunk.length + content.length ≤ btaHfClientAtParserMaxLen) :
    btaHfClientAtParse parseStart atCb chunk =
      if atComplete (content ++ chunk) (content ++ chunk).length then
        .ok (AtCb.cleared, [.events (parseStart (cString (content ++ chunk ++ spare (content ++ chunk))))])
      else .ok (⟨content ++ chunk ++ spare (content ++ chunk), (content ++ chunk).length⟩, []) := by
  have noOverrun : ¬chunk.length + atCb.offset > btaHfClientAtParserMaxLen := by
    rw [holds.atEnd]
    omega
  have ended : atCb.offset + chunk.length = (content ++ chunk).length := by
    rw [holds.atEnd, List.length_append]
  simp only [btaHfClientAtParse, if_neg noOverrun, pure, Except.pure, bind, Except.bind,
    copy?_holds atCb content chunk chunk.length holds (Nat.le_refl _) fits, List.take_length,
    ended, atComplete_append, List.nil_append]

/-- Reads that each end with a character other than a line feed and together
fit the buffer are collected with no parse. The induction is on the reads, with
the content generalized. -/
theorem run_openReads (parseStart : List Char → List ε) (chunks : List (List Char)) :
    ∀ (atCb : AtCb) (content : List Char), Holds atCb content →
      (∀ chunk ∈ chunks, ∃ front last, chunk = front ++ [last] ∧ last ≠ '\n') →
      content.length + (chunks.map List.length).sum ≤ btaHfClientAtParserMaxLen →
      ∃ final, Runs.run (btaHfClientAtParse parseStart) atCb chunks = .ok (final, []) ∧
        Holds final (content ++ chunks.flatten) := by
  induction chunks with
  | nil =>
    intro atCb content holds _ _
    exact ⟨atCb, rfl, by simpa using holds⟩
  | cons chunk rest inductionHypothesis =>
    intro atCb content holds opens fits
    obtain ⟨front, last, rfl, open_⟩ := opens _ List.mem_cons_self
    simp only [List.map_cons, List.sum_cons] at fits
    have opened : atComplete (content ++ (front ++ [last])) (content ++ (front ++ [last])).length =
        false := by
      rw [← List.append_assoc]
      exact atComplete_of_last (content ++ front) last open_
    have stepped := btaHfClientAtParse_fits parseStart atCb content (front ++ [last]) holds (by omega)
    rw [opened, if_neg Bool.false_ne_true] at stepped
    have next : Holds ⟨content ++ (front ++ [last]) ++ spare (content ++ (front ++ [last])),
        (content ++ (front ++ [last])).length⟩ (content ++ (front ++ [last])) :=
      ⟨rfl, rfl, by simp only [List.length_append] at fits ⊢; omega⟩
    obtain ⟨final, ran, finalHolds⟩ := inductionHypothesis _ _ next
      (fun chunk member => opens chunk (List.mem_cons_of_mem _ member))
      (by simp only [List.length_append] at fits ⊢; omega)
    refine ⟨final, ?_, ?_⟩
    · rw [Runs.run_cons_ok _ _ _ _ _ [] stepped, ran]
      rfl
    · simpa [List.append_assoc] using finalHolds

/-! ## The overrun path -/

/-- The walk back stops at an offset where an event ends. -/
theorem findCompleteEnd_le (buf : List Char) (offset cut : Nat)
    (found : findCompleteEnd buf offset = some cut) : cut ≤ offset := by
  induction offset with
  | zero => simp [findCompleteEnd] at found
  | succ offset inductionHypothesis =>
    rw [findCompleteEnd] at found
    split_ifs at found
    · exact Nat.le_of_eq (Option.some.inj found).symm
    · exact Nat.le_succ_of_le (inductionHypothesis found)

/-- Walking back over offsets at which no event ends reaches the end of the
last one. -/
theorem findCompleteEnd_skip (buf : List Char) (last extra : Nat)
    (noneEnds : ∀ offset, last < offset → offset ≤ last + extra → atComplete buf offset = false) :
    findCompleteEnd buf (last + extra) = findCompleteEnd buf last := by
  induction extra with
  | zero => rfl
  | succ extra inductionHypothesis =>
    have here : atComplete buf (last + extra + 1) = false := noneEnds _ (by omega) (by omega)
    rw [← Nat.add_assoc, findCompleteEnd, here, if_neg Bool.false_ne_true,
      inductionHypothesis (fun offset above below => noneEnds offset above (by omega))]

/-- **The overrun path copies unchecked.** From a laid-out buffer, a read that
does not fit fills the buffer. When the last complete event ends at `cut`, the
tail after it moves to the front, and the rest of the read is copied after the
tail with no check: the copy runs past the buffer when the tail and the rest
are longer than it. -/
theorem btaHfClientAtParse_overrunPastEnd (parseStart : List Char → List ε) (atCb : AtCb)
    (content chunk : List Char) (holds : Holds atCb content)
    (overruns : btaHfClientAtParserMaxLen < chunk.length + content.length) (cut : Nat)
    (lastEvent : findCompleteEnd
      (content ++ chunk.take (btaHfClientAtParserMaxLen - content.length) ++
        spare (content ++ chunk.take (btaHfClientAtParserMaxLen - content.length)))
      btaHfClientAtParserMaxLen = some cut)
    (pastEnd : btaHfClientAtParserMaxLen + 1 <
      btaHfClientAtParserMaxLen - cut + (chunk.length + content.length - btaHfClientAtParserMaxLen)) :
    btaHfClientAtParse parseStart atCb chunk = .error () := by
  have fitsMax := holds.fits
  have filled := copy?_holds atCb content chunk (btaHfClientAtParserMaxLen - content.length) holds
    (by omega) (by omega)
  rw [holds.atEnd] at filled
  have filledLength : (content ++ chunk.take (btaHfClientAtParserMaxLen - content.length) ++
      spare (content ++ chunk.take (btaHfClientAtParserMaxLen - content.length))).length =
      btaHfClientAtParserMaxLen + 1 := by
    simp only [spare, List.length_append, List.length_replicate, List.length_take]
    omega
  have cutBound := findCompleteEnd_le _ _ cut lastEvent
  have fullOffset : content.length + (btaHfClientAtParserMaxLen - content.length) =
      btaHfClientAtParserMaxLen := by
    omega
  -- the cut tail, moved to the front of the cleared buffer
  have tailLength : (window (content ++ chunk.take (btaHfClientAtParserMaxLen - content.length) ++
      spare (content ++ chunk.take (btaHfClientAtParserMaxLen - content.length))) cut
      (btaHfClientAtParserMaxLen - cut)).length = btaHfClientAtParserMaxLen - cut := by
    rw [window, List.length_take, List.length_drop, filledLength]
    omega
  have moved := copy?_replicate (window (content ++ chunk.take (btaHfClientAtParserMaxLen - content.length) ++
      spare (content ++ chunk.take (btaHfClientAtParserMaxLen - content.length))) cut
      (btaHfClientAtParserMaxLen - cut)) '\x00' (btaHfClientAtParserMaxLen + 1) (by omega)
  rw [tailLength] at moved
  -- the rest of the read, after the tail
  have overflow := copy?_overflow (window (content ++ chunk.take (btaHfClientAtParserMaxLen - content.length) ++
      spare (content ++ chunk.take (btaHfClientAtParserMaxLen - content.length))) cut
      (btaHfClientAtParserMaxLen - cut) ++ List.replicate (btaHfClientAtParserMaxLen + 1 -
      (btaHfClientAtParserMaxLen - cut)) '\x00') (btaHfClientAtParserMaxLen - cut)
    (chunk.drop (btaHfClientAtParserMaxLen - content.length)) 0
    (chunk.drop (btaHfClientAtParserMaxLen - content.length)).length
    (by simp only [List.length_append, tailLength, List.length_replicate, List.length_drop]; omega)
  simp only [btaHfClientAtParse, overrun, if_pos overruns, holds.atEnd, filled, fullOffset, lastEvent,
    AtCb.cleared, moved, overflow, bind, Except.bind, pure, Except.pure]

/-! ## A line that does not end -/

/-- Past the `OK\r\n` the buffer of the overrun holds `A`s up to its last cell. -/
theorem getD_openLine (rest : List Char) (index : Nat) (after : 4 ≤ index) (before : index < 4096) :
    (['O', 'K', '\r', '\n'] ++ List.replicate 4092 'A' ++ rest).getD index '\x00' = 'A' := by
  have prefixLength : (['O', 'K', '\r', '\n'] ++ List.replicate 4092 'A').length = 4096 := by
    rw [List.length_append, List.length_replicate]
    rfl
  rw [List.getD_eq_getElem?_getD, List.getElem?_append_left (by omega),
    List.getElem?_append_right (Nat.le_trans (Nat.le_of_eq rfl) after), List.getElem?_replicate]
  rw [if_pos (by simp only [List.length_cons, List.length_nil]; omega)]
  rfl

/-- In a buffer of `OK\r\n` and `A`s, the walk back from the full buffer stops
after the `OK\r\n`. -/
theorem findCompleteEnd_openLine (rest : List Char) :
    findCompleteEnd (['O', 'K', '\r', '\n'] ++ List.replicate 4092 'A' ++ rest) 4096 = some 4 := by
  have skipped := findCompleteEnd_skip (['O', 'K', '\r', '\n'] ++ List.replicate 4092 'A' ++ rest) 4 4092
    (fun offset above below => by
      have noNewline : ('A' == '\n') = false := by decide
      rw [atComplete, getD_openLine rest (offset - 1) (by omega) (by omega), noNewline, Bool.and_false])
  rw [show 4 + 4092 = 4096 from rfl] at skipped
  rw [skipped]
  rfl

/-- Eight reads of 512 characters, the first `OK\r\n` and then `A`s, fill the
buffer with a line that does not end; a ninth read of 512 `A`s then leaves a
tail of 4092 characters at the front, and the rest of the read is copied after
it, 507 characters past the end of the buffer. -/
theorem atParse_overrunTailOverflow (parseStart : List Char → List ε) :
    Runs.run (btaHfClientAtParse parseStart) AtCb.cleared
        ((['O', 'K', '\r', '\n'] ++ List.replicate 508 'A') ::
          List.replicate 8 (List.replicate 512 'A')) =
      .error () := by
  have split : (['O', 'K', '\r', '\n'] ++ List.replicate 508 'A') ::
      List.replicate 8 (List.replicate 512 'A') =
      ((['O', 'K', '\r', '\n'] ++ List.replicate 508 'A') :: List.replicate 7 (List.replicate 512 'A')) ++
        [List.replicate 512 'A'] := by
    rw [@List.cons_append _ _ (List.replicate 7 (List.replicate 512 'A')), ← List.replicate_succ']
  have opens : ∀ chunk ∈ (['O', 'K', '\r', '\n'] ++ List.replicate 508 'A') ::
      List.replicate 7 (List.replicate 512 'A'), ∃ front last, chunk = front ++ [last] ∧ last ≠ '\n' := by
    intro chunk member
    rcases List.mem_cons.mp member with first | later
    · refine ⟨['O', 'K', '\r', '\n'] ++ List.replicate 507 'A', 'A', ?_, by decide⟩
      rw [first, List.append_assoc, ← List.replicate_succ']
    · rw [List.eq_of_mem_replicate later]
      exact ⟨List.replicate 511 'A', 'A', List.replicate_succ', by decide⟩
  have total : ([] : List Char).length + (((['O', 'K', '\r', '\n'] ++ List.replicate 508 'A') ::
      List.replicate 7 (List.replicate 512 'A')).map List.length).sum ≤ btaHfClientAtParserMaxLen := by
    rw [List.map_cons, List.map_replicate, List.sum_cons, List.sum_replicate_nat, List.length_append,
      List.length_replicate, List.length_replicate]
    decide
  obtain ⟨filled, ran, holds⟩ := run_openReads parseStart _ AtCb.cleared [] holds_cleared opens total
  have content : [] ++ ((['O', 'K', '\r', '\n'] ++ List.replicate 508 'A') ::
      List.replicate 7 (List.replicate 512 'A')).flatten =
      ['O', 'K', '\r', '\n'] ++ List.replicate 4092 'A' := by
    rw [List.nil_append, List.flatten_cons, List.flatten_replicate_replicate, List.append_assoc,
      List.replicate_append_replicate]
  rw [content] at holds
  have full : (['O', 'K', '\r', '\n'] ++ List.replicate 4092 'A').length = btaHfClientAtParserMaxLen := by
    rw [List.length_append, List.length_replicate]
    rfl
  have lastEvent := findCompleteEnd_openLine
    ((List.replicate 512 'A').take (btaHfClientAtParserMaxLen -
        (['O', 'K', '\r', '\n'] ++ List.replicate 4092 'A').length) ++
      spare (['O', 'K', '\r', '\n'] ++ List.replicate 4092 'A' ++ (List.replicate 512 'A').take
        (btaHfClientAtParserMaxLen - (['O', 'K', '\r', '\n'] ++ List.replicate 4092 'A').length)))
  rw [← List.append_assoc] at lastEvent
  have failed := btaHfClientAtParse_overrunPastEnd parseStart filled _ (List.replicate 512 'A') holds
    (by rw [full, List.length_replicate]; decide) 4 lastEvent
    (by rw [full, List.length_replicate]; decide)
  rw [split, Runs.run_append, ran]
  simp only [bind, Except.bind, Runs.run_cons_error _ filled _ [] () failed]

end Fluoride.HfClientAt
