import Fluoride.AvdtpParse

/-!
# Building and parsing AVDTP capabilities

`avdt_msg_bld_cfg` (`stack/avdt/avdt_msg.cc`) writes the service capabilities
of a SETCONFIG, RECONFIG or GETCAP message as category, length and value
elements: media transport and reporting with no value, the codec and the
content protection with the length and value kept in the first bytes of
`codec_info` and `protect_info`, and delay reporting with no value.
`avdt_msg_prs_cfg` (`AvdtpParse.avdtMsgPrsCfg`) reads them back.

Each element the builder writes is read back by one pass of the parser's loop
(`prsCfgLoop_bare`, `prsCfgLoop_codec`, `prsCfgLoop_protect`), whatever fuel
is left beyond the bytes (`prsCfgLoop_fuel`), and the parser then stops at the
end of the bytes with no error. An element the builder does not write leaves
the parser's fields as they were.
-/

namespace Fluoride.AvdtpCfg

open ByteBuffer AvdtpMsg AvdtpParse

/-! ### Constants of `avdt_defs.h` and `avdt_api.h` -/

/-- `AVDT_CAT_TRANS`. -/
def avdtCatTrans : Nat := 1

/-- `AVDT_CAT_REPORT`. -/
def avdtCatReport : Nat := 2

/-- `AVDT_PSC_TRANS`. -/
def avdtPscTrans : UInt16 := 0x2

/-- `AVDT_PSC_REPORT`. -/
def avdtPscReport : UInt16 := 0x4

/-- `AVDT_PSC_DELAY_RPT`. -/
def avdtPscDelayRpt : UInt16 := 0x100

/-! ### The builder -/

/-- An element with no value: its category and a zero length. -/
def bareElement (cat : Nat) : List UInt8 := [UInt8.ofNat cat, 0]

/-- `len = info[0] + 1` stored in a `uint8_t`, then cut to the array's size. -/
def infoLength (first : UInt8) (size : Nat) : Nat :=
  if size < (first.toNat + 1) % 256 then size else (first.toNat + 1) % 256

/-- `avdt_msg_bld_cfg`: the bytes it writes at `*p` for `p_cfg`. -/
def avdtMsgBldCfg (cfg : AvdtpSepConfig) : List UInt8 :=
  (if cfg.pscMask &&& avdtPscTrans ≠ 0 then bareElement avdtCatTrans else []) ++
    (if cfg.pscMask &&& avdtPscReport ≠ 0 then bareElement avdtCatReport else []) ++
    (if cfg.numCodec ≠ 0 then
      UInt8.ofNat avdtCatCodec :: cfg.codecInfo.toList.take (infoLength cfg.codecInfo[0] avdtCodecSize)
    else []) ++
    (if cfg.numProtect ≠ 0 then
      UInt8.ofNat avdtCatProtect ::
        cfg.protectInfo.toList.take (infoLength cfg.protectInfo[0] avdtProtectSize)
    else []) ++
    (if cfg.pscMask &&& avdtPscDelayRpt ≠ 0 then bareElement avdtCatDelayRpt else [])

/-! ### The parser's loop, element by element -/

/-- Fuel beyond the bytes left does not change what the loop returns. -/
theorem prsCfgLoop_fuel (params : List UInt8) (pEnd sigId : Nat) (fits : pEnd ≤ params.length) :
    ∀ fuel fuel' p elem protectOffset cfg, pEnd - p < fuel → pEnd - p < fuel' →
      prsCfgLoop params pEnd sigId fuel p elem protectOffset cfg =
        prsCfgLoop params pEnd sigId fuel' p elem protectOffset cfg := by
  intro fuel
  induction fuel with
  | zero => intro fuel' p elem protectOffset cfg enough; omega
  | succ fuel inductionHypothesis =>
    intro fuel' p elem protectOffset cfg enough enough'
    obtain ⟨fuel', rfl⟩ : ∃ rest, fuel' = rest + 1 := ⟨fuel' - 1, by omega⟩
    simp only [prsCfgLoop]
    by_cases done : pEnd ≤ p
    · rw [if_pos done, if_pos done]
    rw [if_neg done, if_neg done]
    by_cases short : pEnd - p < avdtLenCfgMin
    · rw [if_pos short, if_pos short]
    rw [if_neg short, if_neg short]
    have sizes : avdtLenCfgMin = 2 := rfl
    refine bind_congr fun code => bind_congr fun length => ?_
    by_cases unknown : code.toNat = 0 ∨ avdtCatMaxCur < code.toNat
    · rw [if_pos unknown, if_pos unknown]
      by_cases configuration : sigId = avdtSigSetconfig ∨ sigId = avdtSigReconfig
      · rw [if_pos configuration, if_pos configuration]
      · rw [if_neg configuration, if_neg configuration]
        exact inductionHypothesis _ _ _ _ _ (by omega) (by omega)
    rw [if_neg unknown, if_neg unknown]
    refine bind_congr fun lenMax => bind_congr fun lenMin => ?_
    by_cases outOfRange : lenMax < length.toNat ∨ length.toNat < lenMin
    · rw [if_pos outOfRange, if_pos outOfRange]
    rw [if_neg outOfRange, if_neg outOfRange]
    obtain ⟨⟨cfg', p', protectOffset', err⟩, stepped, forward⟩ :=
      prsCfgElement_advances params pEnd code.toNat length.toNat (p + 2) protectOffset
        { cfg with pscMask := cfg.pscMask ||| UInt16.ofNat (1 <<< code.toNat) } fits
    dsimp only at forward
    simp only [stepped, pure_bind]
    split_ifs
    · exact inductionHypothesis _ _ _ _ _ (by omega) (by omega)
    · rfl

/-- At the end of the bytes the loop stops with no error. -/
theorem prsCfgLoop_done (params : List UInt8) (pEnd sigId fuel p elem protectOffset : Nat)
    (cfg : AvdtpSepConfig) (reached : pEnd ≤ p) :
    prsCfgLoop params pEnd sigId (fuel + 1) p elem protectOffset cfg = pure (cfg, elem, 0) := by
  rw [prsCfgLoop, if_pos reached]

/-- `avdt_msg_prs_cfg` into a configuration clears its mask and counts and
runs the loop from `start` with one pass of fuel per byte and one more. -/
theorem avdtMsgPrsCfg_some (target : AvdtpSepConfig) (pElem : Nat) (params : List UInt8)
    (start len sigId : Nat) :
    avdtMsgPrsCfg (some target) pElem params start len sigId =
      (prsCfgLoop params (start + len) sigId (start + len - start + 1) start 0 0
        { target with pscMask := 0, numCodec := 0, numProtect := 0 }).map
        fun (cfg, elem, err) => (some cfg, elem, err) := by
  rw [Nat.add_sub_cancel_left]
  unfold avdtMsgPrsCfg
  dsimp only
  cases prsCfgLoop params (start + len) sigId (len + 1) start 0 0
      { target with pscMask := 0, numCodec := 0, numProtect := 0 } <;> rfl

/-- One pass of the loop over an element of a known category whose length the
tables admit, when its case of the switch returns at the element's end with
no error. -/
theorem prsCfgLoop_element (params front value back : List UInt8)
    (cat p pEnd sigId elem protectOffset protectOffset' : Nat) (cfg next : AvdtpSepConfig)
    (layout : params = front ++ (UInt8.ofNat cat :: UInt8.ofNat value.length :: value) ++ back)
    (here : front.length = p) (known : 1 ≤ cat ∧ cat ≤ avdtCatMaxCur)
    (lengthByte : value.length < 256)
    (inRange : value.length ≤ avdtMsgIeLenMax.getD cat 0 ∧ avdtMsgIeLenMin.getD cat 0 ≤ value.length)
    (ends : p + 2 + value.length ≤ pEnd) (fits : pEnd ≤ params.length)
    (stepped : prsCfgElement params pEnd cat value.length (p + 2) protectOffset
      { cfg with pscMask := cfg.pscMask ||| UInt16.ofNat (1 <<< cat) } =
        pure (next, p + 2 + value.length, protectOffset', 0)) :
    prsCfgLoop params pEnd sigId (pEnd - p + 1) p elem protectOffset cfg =
      prsCfgLoop params pEnd sigId (pEnd - (p + 2 + value.length) + 1) (p + 2 + value.length) cat
        protectOffset' next := by
  have catByte : cat < 256 := by
    simp only [avdtCatMaxCur] at known
    omega
  have codeInside : p < params.length := by omega
  have lengthInside : p + 1 < params.length := by omega
  have codeAt : params[p] = UInt8.ofNat cat := by
    subst layout here
    simp
  have lengthAt : params[p + 1] = UInt8.ofNat value.length := by
    subst layout here
    simp [List.getElem_append_right]
  have codeRead : (UInt8.ofNat cat).toNat = cat := UInt8.toNat_ofNat_of_lt' catByte
  have lengthRead : (UInt8.ofNat value.length).toNat = value.length :=
    UInt8.toNat_ofNat_of_lt' lengthByte
  have inTables : cat < 9 := by
    simp only [avdtCatMaxCur] at known
    omega
  conv_lhs => rw [prsCfgLoop]
  rw [if_neg (by omega), if_neg (by simp only [avdtLenCfgMin]; omega),
    readByte_of_lt params p (by omega), pure_bind, readByte_of_lt params (p + 1) (by omega),
    pure_bind]
  simp only [codeAt, lengthAt, codeRead, lengthRead]
  have inMax : cat < avdtMsgIeLenMax.length := inTables
  have inMin : cat < avdtMsgIeLenMin.length := inTables
  rw [if_neg (by simp only [avdtCatMaxCur] at known ⊢; omega), tableAt_of_lt _ _ inMax, pure_bind,
    tableAt_of_lt _ _ inMin, pure_bind]
  rw [List.getD_eq_getElem?_getD, List.getElem?_eq_getElem inMax, Option.getD_some,
    List.getD_eq_getElem?_getD, List.getElem?_eq_getElem inMin, Option.getD_some] at inRange
  rw [if_neg (by omega), stepped, pure_bind]
  dsimp only
  rw [if_pos rfl]
  exact prsCfgLoop_fuel params pEnd sigId fits _ _ _ _ _ _ (by omega) (by omega)

/-- The value of an element laid out at `p`. -/
theorem readBytes_layout (params front value back : List UInt8) (p : Nat)
    (layout : params = front ++ value ++ back) (here : front.length = p) :
    readBytes params p value.length = pure value := by
  subst layout here
  rw [readBytes_of_le _ _ _ (by simp), window_append_length]

/-- The codec case stores the element's length and value at the start of
`codec_info` when they fit it. -/
theorem prsCodec_value (params front value back : List UInt8) (p pEnd protectOffset : Nat)
    (cfg : AvdtpSepConfig) (layout : params = front ++ value ++ back) (here : front.length = p)
    (short : 0 + (UInt8.ofNat value.length :: value).length ≤ avdtCodecSize)
    (ends : p + value.length ≤ pEnd) :
    prsCodec params pEnd value.length p protectOffset cfg =
      pure ({ cfg with
        pscMask := cfg.pscMask &&& ~~~avdtPscCodec
        numCodec := cfg.numCodec + 1
        codecInfo := writeVector cfg.codecInfo 0 (UInt8.ofNat value.length :: value) short },
        p + value.length, protectOffset, 0) := by
  simp only [List.length_cons] at short
  unfold prsCodec
  dsimp only
  rw [if_neg (show ¬ avdtCodecSize ≤ value.length by omega), if_neg (by omega),
    storeArray_of_le _ _ _ (by simp only [List.length_singleton]; omega), pure_bind,
    readBytes_layout params front value back p layout here, pure_bind,
    storeArray_of_le _ _ _ (by omega), pure_bind]
  have stores := writeVector_cons cfg.codecInfo 0 (UInt8.ofNat value.length) value
    (by simp only [List.length_singleton]; omega) (by omega) (by simp only [List.length_cons]; omega)
  simp only [Nat.zero_add] at stores
  rw [stores]

/-- The content protection case appends the element's length and value to
`protect_info` when they fit it. -/
theorem prsProtect_value (params front value back : List UInt8) (p pEnd protectOffset : Nat)
    (cfg : AvdtpSepConfig) (layout : params = front ++ value ++ back) (here : front.length = p)
    (short : protectOffset + (UInt8.ofNat value.length :: value).length ≤ avdtProtectSize)
    (ends : p + value.length ≤ pEnd) :
    prsProtect params pEnd value.length p protectOffset cfg =
      pure ({ cfg with
        pscMask := cfg.pscMask &&& ~~~avdtPscProtect
        numProtect := cfg.numProtect + 1
        protectInfo :=
          writeVector cfg.protectInfo protectOffset (UInt8.ofNat value.length :: value) short },
        p + value.length, protectOffset + 1 + value.length, 0) := by
  simp only [List.length_cons] at short
  unfold prsProtect
  dsimp only
  rw [if_neg (by omega), if_pos (by omega),
    storeArray_of_le _ _ _ (by simp only [List.length_singleton]; omega), pure_bind,
    readBytes_layout params front value back p layout here, pure_bind,
    storeArray_of_le _ _ _ (by omega), pure_bind,
    writeVector_cons cfg.protectInfo protectOffset (UInt8.ofNat value.length) value
      (by simp only [List.length_singleton]; omega) (by omega) (by simp only [List.length_cons]; omega)]

/-! ### The elements the builder writes, read back -/

/-- A media transport, reporting or delay reporting element, when it is
there, sets its category's bit in `psc_mask` and is passed. -/
theorem prsCfgLoop_bare (params front back : List UInt8) (present : Prop) [Decidable present]
    (cat p pEnd sigId elem protectOffset : Nat) (cfg : AvdtpSepConfig)
    (bare : cat = avdtCatTrans ∨ cat = avdtCatReport ∨ cat = avdtCatDelayRpt)
    (layout : params = front ++ (if present then bareElement cat else []) ++ back)
    (here : front.length = p) (ends : p + (if present then 2 else 0) ≤ pEnd)
    (fits : pEnd ≤ params.length) :
    prsCfgLoop params pEnd sigId (pEnd - p + 1) p elem protectOffset cfg =
      prsCfgLoop params pEnd sigId (pEnd - (p + (if present then 2 else 0)) + 1)
        (p + (if present then 2 else 0)) (if present then cat else elem) protectOffset
        (if present then { cfg with pscMask := cfg.pscMask ||| UInt16.ofNat (1 <<< cat) } else cfg) := by
  by_cases there : present
  · simp only [if_pos there] at layout ends ⊢
    have known : 1 ≤ cat ∧ cat ≤ avdtCatMaxCur := by
      rcases bare with rfl | rfl | rfl <;> decide
    refine prsCfgLoop_element params front [] back cat p pEnd sigId elem protectOffset protectOffset
      cfg _ (by rw [layout]; rfl) here known (by decide) ?_ ends fits ?_
    · rcases bare with rfl | rfl | rfl <;> decide
    · rcases bare with rfl | rfl | rfl <;> rfl
  · simp only [if_neg there, Nat.add_zero]

/-- A codec element, when it is there, is counted and stored at the start of
`codec_info`, with its category's bit cleared again. -/
theorem prsCfgLoop_codec (params front value back : List UInt8) (present : Prop) [Decidable present]
    (p pEnd sigId elem protectOffset : Nat) (cfg : AvdtpSepConfig)
    (layout : params = front ++
      (if present then UInt8.ofNat avdtCatCodec :: UInt8.ofNat value.length :: value else []) ++ back)
    (here : front.length = p) (long : 2 ≤ value.length)
    (short : 0 + (UInt8.ofNat value.length :: value).length ≤ avdtCodecSize)
    (ends : p + (if present then value.length + 2 else 0) ≤ pEnd) (fits : pEnd ≤ params.length) :
    prsCfgLoop params pEnd sigId (pEnd - p + 1) p elem protectOffset cfg =
      prsCfgLoop params pEnd sigId (pEnd - (p + (if present then value.length + 2 else 0)) + 1)
        (p + (if present then value.length + 2 else 0)) (if present then avdtCatCodec else elem)
        protectOffset
        (if present then
          { cfg with
            pscMask := (cfg.pscMask ||| UInt16.ofNat (1 <<< avdtCatCodec)) &&& ~~~avdtPscCodec
            numCodec := cfg.numCodec + 1
            codecInfo := writeVector cfg.codecInfo 0 (UInt8.ofNat value.length :: value) short }
        else cfg) := by
  by_cases there : present
  · simp only [if_pos there] at layout ends ⊢
    have lengthByte : value.length < 256 := by
      simp only [List.length_cons, avdtCodecSize] at short
      omega
    rw [show p + (value.length + 2) = p + 2 + value.length by omega]
    refine prsCfgLoop_element params front value back avdtCatCodec p pEnd sigId elem protectOffset
      protectOffset cfg _ layout here (by decide) lengthByte ?_ (by omega) fits ?_
    · have maxAt : avdtMsgIeLenMax.getD avdtCatCodec 0 = 255 := rfl
      have minAt : avdtMsgIeLenMin.getD avdtCatCodec 0 = 2 := rfl
      rw [maxAt, minAt]
      omega
    · rw [prsCfgElement, if_neg (by decide), if_neg (by decide), if_neg (by decide), if_pos rfl]
      exact prsCodec_value params (front ++ [UInt8.ofNat avdtCatCodec, UInt8.ofNat value.length])
        value back (p + 2) pEnd protectOffset _ (by rw [layout]; simp) (by simp [here]) short
        (by omega)
  · simp only [if_neg there, Nat.add_zero]

/-- A content protection element, when it is there, is counted and appended to
`protect_info` at the offset reached so far, with its category's bit cleared. -/
theorem prsCfgLoop_protect (params front value back : List UInt8) (present : Prop)
    [Decidable present] (p pEnd sigId elem protectOffset : Nat) (cfg : AvdtpSepConfig)
    (layout : params = front ++
      (if present then UInt8.ofNat avdtCatProtect :: UInt8.ofNat value.length :: value else []) ++
        back)
    (here : front.length = p) (long : 2 ≤ value.length)
    (short : protectOffset + (UInt8.ofNat value.length :: value).length ≤ avdtProtectSize)
    (ends : p + (if present then value.length + 2 else 0) ≤ pEnd) (fits : pEnd ≤ params.length) :
    prsCfgLoop params pEnd sigId (pEnd - p + 1) p elem protectOffset cfg =
      prsCfgLoop params pEnd sigId (pEnd - (p + (if present then value.length + 2 else 0)) + 1)
        (p + (if present then value.length + 2 else 0)) (if present then avdtCatProtect else elem)
        (if present then protectOffset + 1 + value.length else protectOffset)
        (if present then
          { cfg with
            pscMask := (cfg.pscMask ||| UInt16.ofNat (1 <<< avdtCatProtect)) &&& ~~~avdtPscProtect
            numProtect := cfg.numProtect + 1
            protectInfo :=
              writeVector cfg.protectInfo protectOffset (UInt8.ofNat value.length :: value) short }
        else cfg) := by
  by_cases there : present
  · simp only [if_pos there] at layout ends ⊢
    have lengthByte : value.length < 256 := by
      simp only [List.length_cons, avdtProtectSize] at short
      omega
    rw [show p + (value.length + 2) = p + 2 + value.length by omega]
    refine prsCfgLoop_element params front value back avdtCatProtect p pEnd sigId elem protectOffset
      _ cfg _ layout here (by decide) lengthByte ?_ (by omega) fits ?_
    · have maxAt : avdtMsgIeLenMax.getD avdtCatProtect 0 = 255 := rfl
      have minAt : avdtMsgIeLenMin.getD avdtCatProtect 0 = 2 := rfl
      rw [maxAt, minAt]
      omega
    · rw [prsCfgElement, if_neg (by decide), if_pos rfl]
      exact prsProtect_value params (front ++ [UInt8.ofNat avdtCatProtect, UInt8.ofNat value.length])
        value back (p + 2) pEnd protectOffset _ (by rw [layout]; simp) (by simp [here]) short
        (by omega)
  · simp only [if_neg there, Nat.add_zero]

/-! ### The builder's bytes, element by element -/

/-- `info[0] + 1` is not cut when it fits the array. -/
theorem infoLength_of_fits (first : UInt8) (size : Nat) (fits : first.toNat + 1 ≤ size)
    (small : size < 256) : infoLength first size = first.toNat + 1 := by
  unfold infoLength
  rw [Nat.mod_eq_of_lt (by omega), if_neg (by omega)]

/-- The `info[0]` bytes after the length byte are all in the array. -/
theorem length_infoValue {n : Nat} (info : Vector UInt8 n) (nonempty : 0 < n)
    (inside : (info[0]).toNat + 1 ≤ n) :
    ((info.toList.drop 1).take (info[0]).toNat).length = (info[0]).toNat := by
  simp only [List.length_take, List.length_drop, Vector.length_toList]
  omega

/-- The first `info[0] + 1` cells of an array are the length byte `info[0]`
and the `info[0]` bytes after it. -/
theorem take_info_succ {n : Nat} (info : Vector UInt8 n) (nonempty : 0 < n)
    (inside : (info[0]).toNat + 1 ≤ n) :
    info.toList.take ((info[0]).toNat + 1) =
      UInt8.ofNat ((info.toList.drop 1).take (info[0]).toNat).length ::
        (info.toList.drop 1).take (info[0]).toNat := by
  have valueLength := length_infoValue info nonempty inside
  have headed : info.toList = info[0] :: info.toList.drop 1 := by
    rw [← Vector.getElem_toList (by simpa using nonempty), List.getElem_cons_drop, List.drop_zero]
  rw [valueLength, UInt8.ofNat_toNat]
  conv_lhs => rw [headed]
  rw [List.take_succ_cons]

/-- When `info[0] + 1` fits the array, the builder copies the length byte
`info[0]` and the `info[0]` bytes after it. -/
theorem take_infoLength {n : Nat} (info : Vector UInt8 n) (size : Nat) (nonempty : 0 < n)
    (fits : (info[0]).toNat + 1 ≤ size) (inside : size ≤ n) (small : size < 256) :
    info.toList.take (infoLength (info[0]) size) =
      UInt8.ofNat ((info.toList.drop 1).take (info[0]).toNat).length ::
        (info.toList.drop 1).take (info[0]).toNat := by
  rw [infoLength_of_fits _ size fits small]
  exact take_info_succ info nonempty (by omega)

/-- When each length byte leaves room in its buffer for the bytes it counts
(`info[0] + 1` at most `AVDT_CODEC_SIZE` or `AVDT_PROTECT_SIZE`), the builder writes five
optional elements, the codec and protection ones carrying `info[1 ..= info[0]]`. -/
theorem avdtMsgBldCfg_pieces (cfg : AvdtpSepConfig)
    (codecFits : cfg.codecInfo[0].toNat + 1 ≤ avdtCodecSize)
    (protectFits : cfg.protectInfo[0].toNat + 1 ≤ avdtProtectSize) :
    let codecValue : List UInt8 := (cfg.codecInfo.toList.drop 1).take cfg.codecInfo[0].toNat
    let protectValue : List UInt8 := (cfg.protectInfo.toList.drop 1).take cfg.protectInfo[0].toNat
    avdtMsgBldCfg cfg =
      (if cfg.pscMask &&& avdtPscTrans ≠ 0 then bareElement avdtCatTrans else []) ++
        (if cfg.pscMask &&& avdtPscReport ≠ 0 then bareElement avdtCatReport else []) ++
        (if cfg.numCodec ≠ 0 then
          UInt8.ofNat avdtCatCodec :: UInt8.ofNat codecValue.length :: codecValue
        else []) ++
        (if cfg.numProtect ≠ 0 then
          UInt8.ofNat avdtCatProtect :: UInt8.ofNat protectValue.length :: protectValue
        else []) ++
        (if cfg.pscMask &&& avdtPscDelayRpt ≠ 0 then bareElement avdtCatDelayRpt else []) := by
  intro codecValue protectValue
  rw [avdtMsgBldCfg, take_infoLength cfg.codecInfo avdtCodecSize (by decide) codecFits (Nat.le_refl _)
      (by decide),
    take_infoLength cfg.protectInfo avdtProtectSize (by decide) protectFits (Nat.le_refl _) (by decide)]

/-- A count the parser starts at zero and adds one to when an element is
there is the builder's count, when that is at most one. -/
theorem count_of_le_one (count : UInt8) (atMost : count ≤ 1) :
    (if count ≠ 0 then 0 + 1 else 0) = count := by
  split <;> grind

/-- The length byte and value written at the start of an array are the first
cells of the array they were copied from. -/
theorem take_writeVector_info {n : Nat} (target info : Vector UInt8 n) (value : List UInt8)
    (short : 0 + (UInt8.ofNat value.length :: value).length ≤ n) {count : Nat}
    (copied : info.toList.take count = UInt8.ofNat value.length :: value)
    (counted : count = value.length + 1) :
    (writeVector target 0 (UInt8.ofNat value.length :: value) short).toList.take count =
      info.toList.take count := by
  have readBack := window_writeVector_self target 0 (UInt8.ofNat value.length :: value) short
  rw [window, List.drop_zero] at readBack
  rw [copied, counted]
  exact readBack

/-! ### The round trip -/

/-- `avdt_msg_prs_cfg` reads back what `avdt_msg_bld_cfg` wrote, wherever the
bytes stand in a message and whatever configuration they are parsed into: it
passes every byte with no error, counts the codec and protection elements as
`cfg` does, copies their length byte and value when `cfg` has one, and sets the
bits of the elements with no value as `cfg` has them. -/
theorem avdtMsgPrsCfg_bldCfg (front back : List UInt8) (cfg target : AvdtpSepConfig)
    (pElem sigId : Nat) (codecCount : cfg.numCodec ≤ 1) (protectCount : cfg.numProtect ≤ 1)
    (codecLong : 2 ≤ cfg.codecInfo[0].toNat)
    (codecFits : cfg.codecInfo[0].toNat + 1 ≤ avdtCodecSize)
    (protectLong : 2 ≤ cfg.protectInfo[0].toNat)
    (protectFits : cfg.protectInfo[0].toNat + 1 ≤ avdtProtectSize) :
    ∃ parsed elem,
      avdtMsgPrsCfg (some target) pElem (front ++ avdtMsgBldCfg cfg ++ back) front.length
          (avdtMsgBldCfg cfg).length sigId = pure (some parsed, elem, 0) ∧
        parsed.numCodec = cfg.numCodec ∧ parsed.numProtect = cfg.numProtect ∧
        (cfg.numCodec = 1 → parsed.codecInfo.toList.take (cfg.codecInfo[0].toNat + 1) =
          cfg.codecInfo.toList.take (cfg.codecInfo[0].toNat + 1)) ∧
        (cfg.numProtect = 1 → parsed.protectInfo.toList.take (cfg.protectInfo[0].toNat + 1) =
          cfg.protectInfo.toList.take (cfg.protectInfo[0].toNat + 1)) ∧
        (parsed.pscMask &&& avdtPscTrans ≠ 0 ↔ cfg.pscMask &&& avdtPscTrans ≠ 0) ∧
        (parsed.pscMask &&& avdtPscReport ≠ 0 ↔ cfg.pscMask &&& avdtPscReport ≠ 0) ∧
        (parsed.pscMask &&& avdtPscDelayRpt ≠ 0 ↔ cfg.pscMask &&& avdtPscDelayRpt ≠ 0) := by
  have pieces := avdtMsgBldCfg_pieces cfg codecFits protectFits
  have codecTake := take_info_succ cfg.codecInfo (by decide) codecFits
  have protectTake := take_info_succ cfg.protectInfo (by decide) protectFits
  dsimp only at pieces
  generalize codecIs : (cfg.codecInfo.toList.drop 1).take cfg.codecInfo[0].toNat = codecValue
    at pieces codecTake
  generalize protectIs : (cfg.protectInfo.toList.drop 1).take cfg.protectInfo[0].toNat =
    protectValue at pieces protectTake
  have codecLength : codecValue.length = cfg.codecInfo[0].toNat := by
    rw [← codecIs]
    exact length_infoValue cfg.codecInfo (by decide) codecFits
  have protectLength : protectValue.length = cfg.protectInfo[0].toNat := by
    rw [← protectIs]
    exact length_infoValue cfg.protectInfo (by decide) protectFits
  have fits : front.length + (avdtMsgBldCfg cfg).length ≤
      (front ++ avdtMsgBldCfg cfg ++ back).length := by
    simp only [List.length_append]
    omega
  generalize paramsIs : front ++ avdtMsgBldCfg cfg ++ back = params at fits ⊢
  rw [avdtMsgPrsCfg_some]
  generalize endIs : front.length + (avdtMsgBldCfg cfg).length = pEnd at fits ⊢
  rw [pieces] at paramsIs endIs
  set T : Prop := cfg.pscMask &&& avdtPscTrans ≠ 0 with transIs
  set R : Prop := cfg.pscMask &&& avdtPscReport ≠ 0 with reportIs
  set C : Prop := cfg.numCodec ≠ 0 with codecIs'
  set P : Prop := cfg.numProtect ≠ 0 with protectIs'
  set D : Prop := cfg.pscMask &&& avdtPscDelayRpt ≠ 0 with delayIs
  generalize e1Is : (if T then bareElement avdtCatTrans else []) = e1 at paramsIs endIs
  generalize e2Is : (if R then bareElement avdtCatReport else []) = e2 at paramsIs endIs
  generalize e3Is : (if C then UInt8.ofNat avdtCatCodec :: UInt8.ofNat codecValue.length :: codecValue
    else []) = e3 at paramsIs endIs
  generalize e4Is : (if P then
    UInt8.ofNat avdtCatProtect :: UInt8.ofNat protectValue.length :: protectValue else []) = e4
    at paramsIs endIs
  generalize e5Is : (if D then bareElement avdtCatDelayRpt else []) = e5 at paramsIs endIs
  have l1 : e1.length = if T then 2 else 0 := by rw [← e1Is]; split <;> rfl
  have l2 : e2.length = if R then 2 else 0 := by rw [← e2Is]; split <;> rfl
  have l3 : e3.length = if C then codecValue.length + 2 else 0 := by rw [← e3Is]; split <;> rfl
  have l4 : e4.length = if P then protectValue.length + 2 else 0 := by rw [← e4Is]; split <;> rfl
  have l5 : e5.length = if D then 2 else 0 := by rw [← e5Is]; split <;> rfl
  simp only [List.length_append] at endIs
  have codecShort : 0 + (UInt8.ofNat codecValue.length :: codecValue).length ≤ avdtCodecSize := by
    simp only [List.length_cons]
    omega
  have protectShort :
      0 + (UInt8.ofNat protectValue.length :: protectValue).length ≤ avdtProtectSize := by
    simp only [List.length_cons]
    omega
  -- the loop passes the five optional elements in the order they were written
  rw [prsCfgLoop_bare params front (e2 ++ e3 ++ e4 ++ e5 ++ back) T avdtCatTrans front.length pEnd
      sigId 0 0 _ (.inl rfl) (by rw [e1Is, ← paramsIs]; simp only [List.append_assoc]) rfl
      (by omega) fits,
    prsCfgLoop_bare params (front ++ e1) (e3 ++ e4 ++ e5 ++ back) R avdtCatReport
      (front.length + if T then 2 else 0) pEnd sigId _ 0 _ (.inr (.inl rfl))
      (by rw [e2Is, ← paramsIs]; simp only [List.append_assoc]) (by rw [List.length_append, l1])
      (by omega) fits,
    prsCfgLoop_codec params (front ++ e1 ++ e2) codecValue (e4 ++ e5 ++ back) C
      (front.length + (if T then 2 else 0) + if R then 2 else 0) pEnd sigId _ 0 _
      (by rw [e3Is, ← paramsIs]; simp only [List.append_assoc])
      (by rw [List.length_append, List.length_append, l1, l2]) (by omega) codecShort (by omega) fits,
    prsCfgLoop_protect params (front ++ e1 ++ e2 ++ e3) protectValue (e5 ++ back) P
      (front.length + (if T then 2 else 0) + (if R then 2 else 0) +
        if C then codecValue.length + 2 else 0) pEnd sigId _ 0 _
      (by rw [e4Is, ← paramsIs]; simp only [List.append_assoc])
      (by rw [List.length_append, List.length_append, List.length_append, l1, l2, l3]) (by omega)
      protectShort (by omega) fits,
    prsCfgLoop_bare params (front ++ e1 ++ e2 ++ e3 ++ e4) back D avdtCatDelayRpt
      (front.length + (if T then 2 else 0) + (if R then 2 else 0) +
        (if C then codecValue.length + 2 else 0) + if P then protectValue.length + 2 else 0)
      pEnd sigId _ _ _ (.inr (.inr rfl)) (by rw [e5Is, ← paramsIs]; simp only [List.append_assoc])
      (by rw [List.length_append, List.length_append, List.length_append, List.length_append, l1,
        l2, l3, l4]) (by omega) fits,
    prsCfgLoop_done]
  · refine ⟨_, _, rfl, ?_, ?_, ?_, ?_, ?_⟩
    · simp only [apply_ite AvdtpSepConfig.numCodec, ite_self]
      exact count_of_le_one cfg.numCodec codecCount
    · simp only [apply_ite AvdtpSepConfig.numProtect, ite_self]
      exact count_of_le_one cfg.numProtect protectCount
    · intro one
      simp only [apply_ite AvdtpSepConfig.codecInfo, ite_self]
      rw [if_pos (show cfg.numCodec ≠ 0 by rw [one]; decide)]
      exact take_writeVector_info target.codecInfo cfg.codecInfo codecValue codecShort codecTake
        (by rw [codecLength])
    · intro one
      simp only [apply_ite AvdtpSepConfig.protectInfo, ite_self]
      rw [if_pos (show cfg.numProtect ≠ 0 by rw [one]; decide)]
      exact take_writeVector_info target.protectInfo cfg.protectInfo protectValue protectShort
        protectTake (by rw [protectLength])
    · simp only [apply_ite AvdtpSepConfig.pscMask]
      -- the mask depends only on which of the five elements were written
      by_cases t : T <;> by_cases r : R <;> by_cases c : C <;> by_cases p : P <;> by_cases d : D <;>
        simp only [t, r, c, p, d, ↓reduceIte, iff_true, iff_false] <;> decide
  · omega

/-- A configuration with a codec, a protection element and all three bits is
read back with both counts; each length byte, 2, leaves room in its buffer for
the bytes it counts. -/
theorem avdtMsgPrsCfg_bldCfg_fullConfig :
    let cfg : AvdtpSepConfig :=
      { AvdtpSepConfig.zero with
        codecInfo := (Vector.replicate avdtCodecSize 0).set 0 2
        protectInfo := (Vector.replicate avdtProtectSize 0).set 0 2
        numCodec := 1
        numProtect := 1
        pscMask := avdtPscTrans ||| avdtPscReport ||| avdtPscDelayRpt }
    (cfg.numCodec ≤ 1 ∧ cfg.numProtect ≤ 1 ∧ 2 ≤ cfg.codecInfo[0].toNat ∧
      cfg.codecInfo[0].toNat + 1 ≤ avdtCodecSize ∧ 2 ≤ cfg.protectInfo[0].toNat ∧
      cfg.protectInfo[0].toNat + 1 ≤ avdtProtectSize) ∧
      ∃ parsed elem,
        avdtMsgPrsCfg (some AvdtpSepConfig.zero) 0 ([0x04, 0x08] ++ avdtMsgBldCfg cfg ++ [])
            [0x04, 0x08].length (avdtMsgBldCfg cfg).length avdtSigSetconfig =
          pure (some parsed, elem, 0) ∧
        parsed.numCodec = 1 ∧ parsed.numProtect = 1 := by
  intro cfg
  have bounds : cfg.numCodec ≤ 1 ∧ cfg.numProtect ≤ 1 ∧ 2 ≤ cfg.codecInfo[0].toNat ∧
      cfg.codecInfo[0].toNat + 1 ≤ avdtCodecSize ∧ 2 ≤ cfg.protectInfo[0].toNat ∧
      cfg.protectInfo[0].toNat + 1 ≤ avdtProtectSize := by
    decide
  obtain ⟨codecCount, protectCount, codecLong, codecFits, protectLong, protectFits⟩ := bounds
  obtain ⟨parsed, elem, parsedIs, codecCounted, protectCounted, -⟩ :=
    avdtMsgPrsCfg_bldCfg [0x04, 0x08] [] cfg AvdtpSepConfig.zero 0 avdtSigSetconfig codecCount
      protectCount codecLong codecFits protectLong protectFits
  exact ⟨⟨codecCount, protectCount, codecLong, codecFits, protectLong, protectFits⟩, parsed, elem,
    parsedIs, codecCounted, protectCounted⟩

/-- Without a codec element the parser leaves `codec_info` as it was, so the
value it had before the parse, not the builder's, is what is read back. -/
theorem avdtMsgPrsCfg_bldCfg_noCodec :
    let cfg : AvdtpSepConfig :=
      { AvdtpSepConfig.zero with
        codecInfo := (Vector.replicate avdtCodecSize 0).set 0 2
        protectInfo := (Vector.replicate avdtProtectSize 0).set 0 2 }
    avdtMsgPrsCfg (some AvdtpSepConfig.zero) 0 (avdtMsgBldCfg cfg) 0 (avdtMsgBldCfg cfg).length
        avdtSigSetconfig = pure (some AvdtpSepConfig.zero, 0, 0) ∧
      AvdtpSepConfig.zero.codecInfo.toList.take (cfg.codecInfo[0].toNat + 1) ≠
        cfg.codecInfo.toList.take (cfg.codecInfo[0].toNat + 1) := by
  decide

end Fluoride.AvdtpCfg