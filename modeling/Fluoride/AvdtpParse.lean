import Fluoride.AvdtpMsg

/-!
# Parsing AVDTP signalling messages

`avdt_msg_ind` (`stack/avdt/avdt_msg.cc`) hands the parameters of a received
command or response to the parse function that its signal id selects in
`avdt_msg_prs_cmd` or `avdt_msg_prs_rsp`, and those of a reject to
`avdt_msg_prs_rej`. A parser gets `p`, the first byte after the two-byte
header, and `len`, the number of bytes left in the message; every byte is the
peer's. The parsers check `len` against the exact or the smallest length of
their signal; the capability parser `avdt_msg_prs_cfg` walks category, length
and value elements and checks each length against `avdt_msg_ie_len_min` and
`avdt_msg_ie_len_max` before it reads the value; the reject parser checks
nothing.

The model reads the message through `readByte` and `readBytes`, which fail
with `readOutsideMessage` where the C read would leave the message. Stores into
the configuration's `codec_info` and `protect_info`, a multi-SEID message's
`seid_list` and the application's SEP information array fail with
`writeOutsideArray` where the C store would leave the array, and a table index
outside its table fails with `outsideTable`. A parse that returns a result is
one whose reads, stores and table lookups all stayed inside. Every parser but
the reject parser does so on every message; the reject parser reads two bytes
for SETCONFIG, RECONFIG, START and SUSPEND whatever the message holds.
-/

namespace Fluoride.AvdtpParse

open ByteBuffer AvdtpMsg

/-! ### Constants of `avdt_defs.h`, `avdt_api.h` and `avdt_msg.cc` -/

/-- `AVDT_SIG_DISCOVER`. -/
def avdtSigDiscover : Nat := 1

/-- `AVDT_SIG_GETCAP`. -/
def avdtSigGetcap : Nat := 2

/-- `AVDT_SIG_SETCONFIG`. -/
def avdtSigSetconfig : Nat := 3

/-- `AVDT_SIG_GETCONFIG`. -/
def avdtSigGetconfig : Nat := 4

/-- `AVDT_SIG_RECONFIG`. -/
def avdtSigReconfig : Nat := 5

/-- `AVDT_SIG_START`. -/
def avdtSigStart : Nat := 7

/-- `AVDT_SIG_SUSPEND`. -/
def avdtSigSuspend : Nat := 9

/-- `AVDT_SIG_ABORT`. -/
def avdtSigAbort : Nat := 10

/-- `AVDT_SIG_GET_ALLCAP`. -/
def avdtSigGetAllcap : Nat := 12

/-- `AVDT_SIG_MAX`, that is `AVDT_SIG_DELAY_RPT`: the signals are `1` to `13`. -/
def avdtSigMax : Nat := 13

/-- `AVDT_CAT_RECOV`: recovery. -/
def avdtCatRecov : Nat := 3

/-- `AVDT_CAT_PROTECT`: content protection. -/
def avdtCatProtect : Nat := 4

/-- `AVDT_CAT_HDRCMP`: header compression. -/
def avdtCatHdrcmp : Nat := 5

/-- `AVDT_CAT_CODEC`: media codec. -/
def avdtCatCodec : Nat := 7

/-- `AVDT_CAT_DELAY_RPT`: delay reporting. -/
def avdtCatDelayRpt : Nat := 8

/-- `AVDT_CAT_MAX_CUR`, that is `AVDT_CAT_DELAY_RPT`. -/
def avdtCatMaxCur : Nat := 8

/-- `AVDT_LEN_CFG_MIN`: a category byte and a length byte. -/
def avdtLenCfgMin : Nat := 2

/-- `AVDT_LEN_SINGLE`. -/
def avdtLenSingle : Nat := 1

/-- `AVDT_LEN_SETCONFIG_MIN`. -/
def avdtLenSetconfigMin : Nat := 2

/-- `AVDT_LEN_RECONFIG_MIN`. -/
def avdtLenReconfigMin : Nat := 1

/-- `AVDT_LEN_MULTI_MIN`. -/
def avdtLenMultiMin : Nat := 1

/-- `AVDT_LEN_SECURITY_MIN`. -/
def avdtLenSecurityMin : Nat := 1

/-- `AVDT_LEN_DELAY_RPT`. -/
def avdtLenDelayRpt : Nat := 3

/-- `AVDT_ERR_LENGTH`. -/
def avdtErrLength : Nat := 0x11

/-- `AVDT_ERR_SEID`. -/
def avdtErrSeid : Nat := 0x12

/-- `AVDT_ERR_CATEGORY`. -/
def avdtErrCategory : Nat := 0x17

/-- `AVDT_ERR_PAYLOAD`. -/
def avdtErrPayload : Nat := 0x18

/-- `AVDT_ERR_INVALID_CAP`. -/
def avdtErrInvalidCap : Nat := 0x1A

/-- `AVDT_ERR_RECOV_TYPE`. -/
def avdtErrRecovType : Nat := 0x22

/-- `AVDT_ERR_MEDIA_TRANS`. -/
def avdtErrMediaTrans : Nat := 0x23

/-- `AVDT_ERR_RECOV_FMT`. -/
def avdtErrRecovFmt : Nat := 0x25

/-- `AVDT_ERR_ROHC_FMT`. -/
def avdtErrRohcFmt : Nat := 0x26

/-- `AVDT_ERR_CP_FMT`. -/
def avdtErrCpFmt : Nat := 0x27

/-- `AVDT_ERR_MUX_FMT`. -/
def avdtErrMuxFmt : Nat := 0x28

/-- `AVDT_ERR_BAD_STATE`. -/
def avdtErrBadState : Nat := 0x31

/-- `AVDT_ERR_SERVICE`. -/
def avdtErrService : Nat := 0x80

/-- `avdt_msg_ie_len_min`, by category: `AVDT_LEN_TRANS_MIN`, `AVDT_LEN_REPORT_MIN`,
`AVDT_LEN_RECOV_MIN`, `AVDT_LEN_PROTECT_MIN`, `AVDT_LEN_HDRCMP_MIN`,
`AVDT_LEN_MUX_MIN`, `AVDT_LEN_CODEC_MIN` and `AVDT_LEN_DELAY_RPT_MIN`, after an
unused zero. -/
def avdtMsgIeLenMin : List Nat := [0, 0, 0, 3, 2, 1, 3, 2, 0]

/-- `avdt_msg_ie_len_max`, by category, from the `AVDT_LEN_*_MAX` constants. -/
def avdtMsgIeLenMax : List Nat := [0, 0, 0, 3, 255, 1, 7, 255, 0]

/-- `avdt_msg_ie_err`: the error for a category whose length is out of range. -/
def avdtMsgIeErr : List Nat :=
  [0, avdtErrMediaTrans, avdtErrLength, avdtErrRecovFmt, avdtErrCpFmt, avdtErrRohcFmt,
    avdtErrMuxFmt, avdtErrService, avdtErrService]

/-- `AVDT_RECOV_RFC2733`. -/
def avdtRecovRfc2733 : Nat := 1

/-- `AVDT_RECOV_MRWS_MIN` and `AVDT_RECOV_MNMP_MIN`. -/
def avdtRecovMin : Nat := 0x01

/-- `AVDT_RECOV_MRWS_MAX` and `AVDT_RECOV_MNMP_MAX`. -/
def avdtRecovMax : Nat := 0x18

/-- `AVDT_SEID_MIN`. -/
def avdtSeidMin : Nat := 0x01

/-- `AVDT_SEID_MAX`. -/
def avdtSeidMax : Nat := 0x3E

/-- `AVDT_CODEC_SIZE`. -/
def avdtCodecSize : Nat := 20

/-- `AVDT_PROTECT_SIZE` (`internal_include/bt_target.h`). -/
def avdtProtectSize : Nat := 90

/-- `AVDT_PSC_TRANS | AVDT_PSC_REPORT | AVDT_PSC_DELAY_RPT`: `AVDT_PSC`. -/
def avdtPsc : UInt16 := 0x2 ||| 0x4 ||| 0x100

/-- `AVDT_PSC_TRANS | AVDT_PSC_REPORT`: `AVDT_LEG_PSC`. -/
def avdtLegPsc : UInt16 := 0x2 ||| 0x4

/-- `AVDT_MSG_PSC_MASK`: transport, reporting, delay reporting, recovery,
header compression and multiplexing. -/
def avdtMsgPscMask : UInt16 := 0x2 ||| 0x4 ||| 0x100 ||| 0x8 ||| 0x20 ||| 0x40

/-- `AVDT_PSC_PROTECT`. -/
def avdtPscProtect : UInt16 := 0x10

/-- `AVDT_PSC_CODEC`. -/
def avdtPscCodec : UInt16 := 0x80

/-! ### Messages and what may go wrong -/

/-- Where the model stops: what the C code would do outside the message, an
array or a table, and the model's own failures. -/
inductive Violation
  /-- A read of a message byte at or after `offset + len`. -/
  | readOutsideMessage
  /-- A store past the end of a fixed-size array or of the application's array. -/
  | writeOutsideArray
  /-- A table index below zero or past the table's end. -/
  | outsideTable
  /-- A dereference of a null `p_cfg`. -/
  | nullPointer
  /-- The capability loop ran out of fuel. -/
  | unfinished
  /-- A copy outside a buffer during reassembly. -/
  | reassembly (failure : AvdtpMsg.Failure)
deriving DecidableEq, Repr

/-- `AvdtpSepConfig`: the fields the capability parser writes, with the arrays
at their declared sizes. -/
structure AvdtpSepConfig where
  codecInfo : Vector UInt8 avdtCodecSize
  protectInfo : Vector UInt8 avdtProtectSize
  numCodec : UInt8
  numProtect : UInt8
  pscMask : UInt16
  recovType : UInt8
  recovMrws : UInt8
  recovMnmp : UInt8
  hdrcmpMask : UInt8
deriving DecidableEq, Repr

/-- `AvdtpSepConfig cfg{}`: every field zero. -/
def AvdtpSepConfig.zero : AvdtpSepConfig :=
  ⟨Vector.replicate _ 0, Vector.replicate _ 0, 0, 0, 0, 0, 0, 0, 0⟩

/-- `tAVDT_SEP_INFO`. -/
structure SepInfo where
  inUse : Bool
  seid : Nat
  mediaType : Nat
  tsep : Nat
deriving DecidableEq, Repr

/-- `tAVDT_MSG`, the union of the message views, as one record: the event
header, the configuration `p_cfg` points to (the same field in `config_cmd`,
`reconfig_cmd` and `svccap`), a multi-SEID message's list, the application's
SEP information array with the number of entries to fill, the security data
as its place after `p` and its length, and the delay report. -/
structure AvdtMsg where
  errCode : Nat
  errParam : Nat
  label : Nat
  seid : Nat
  sigId : Nat
  ccbIdx : Nat
  pCfg : Option AvdtpSepConfig
  intSeid : Nat
  seidList : Vector Nat avdtNumSeps
  multiNumSeps : Nat
  pSepInfo : List SepInfo
  discoverNumSeps : Nat
  pData : Nat
  securityLen : Nat
  delay : Nat
deriving DecidableEq, Repr

/-- `tAVDT_MSG msg{}`: zeros and null pointers. -/
def AvdtMsg.zero : AvdtMsg :=
  ⟨0, 0, 0, 0, 0, 0, none, 0, Vector.replicate _ 0, 0, [], 0, 0, 0, 0⟩

/-! ### Reads, stores and table lookups -/

variable {α : Type}

/-- `*(p + position)`, where `params` are the message's bytes from `p` on. -/
def readByte (params : List UInt8) (position : Nat) : Except Violation UInt8 :=
  match params[position]? with
  | some byte => pure byte
  | none => throw .readOutsideMessage

/-- A `memcpy` of `count` message bytes from `p + position`. -/
def readBytes (params : List UInt8) (position count : Nat) : Except Violation (List UInt8) :=
  if position + count ≤ params.length then pure (window params position count)
  else throw .readOutsideMessage

/-- Stores from `position` on into a C array of fixed size. -/
def storeArray {size : Nat} (array : Vector α size) (position : Nat) (source : List α) :
    Except Violation (Vector α size) :=
  match storeVector? array position source with
  | some stored => pure stored
  | none => throw .writeOutsideArray

/-- Stores from `position` on into an array the application supplied. -/
def storeEntries (entries : List α) (position : Nat) (source : List α) :
    Except Violation (List α) :=
  match store? entries position source with
  | some stored => pure stored
  | none => throw .writeOutsideArray

/-- `table[index]` for a C `int` index. -/
def tableAt (table : List α) (index : Int) : Except Violation α :=
  if 0 ≤ index then
    match table[index.toNat]? with
    | some entry => pure entry
    | none => throw .outsideTable
  else throw .outsideTable

/-- `AVDT_MSG_PRS_SEID`: the SEID in the upper six bits of a byte. -/
def avdtMsgPrsSeid (byte : UInt8) : Nat := (byte.toNat >>> 2) &&& 0x3F

/-- `AVDT_MSG_PRS_SIG`: the signal id in the lower six bits of a byte. -/
def avdtMsgPrsSig (byte : UInt8) : Nat := byte.toNat &&& 0x3F

/-- A computation of the model that returns a value: none of its reads, stores
and table lookups left the message, its array or its table. -/
def Returns {β : Type} (result : Except Violation β) : Prop := ∃ value, result = pure value

theorem returns_pure {β : Type} (value : β) : Returns (pure value : Except Violation β) :=
  ⟨value, rfl⟩

/-- A sequence returns when its first part does and the rest does after it. -/
theorem returns_bind {β γ : Type} (first : Except Violation β) (rest : β → Except Violation γ)
    (firstReturns : Returns first) (restReturns : ∀ value, first = pure value → Returns (rest value)) :
    Returns (first >>= rest) := by
  obtain ⟨value, rfl⟩ := firstReturns
  simpa using restReturns value rfl

/-- A read inside the message returns its byte. -/
theorem readByte_of_lt (params : List UInt8) (position : Nat) (inside : position < params.length) :
    readByte params position = pure params[position] := by
  simp [readByte, inside]

/-- A read past the end of the message is refused. -/
theorem readByte_of_le (params : List UInt8) (position : Nat) (outside : params.length ≤ position) :
    readByte params position = throw .readOutsideMessage := by
  simp [readByte, outside]

/-- A copy from inside the message returns the window it covers. -/
theorem readBytes_of_le (params : List UInt8) (position count : Nat)
    (inside : position + count ≤ params.length) :
    readBytes params position count = pure (window params position count) := by
  simp [readBytes, inside]

/-- Stores inside a fixed-size array return the overwritten array. -/
theorem storeArray_of_le {size : Nat} (array : Vector α size) (position : Nat) (source : List α)
    (inside : position + source.length ≤ size) :
    storeArray array position source = pure (writeVector array position source inside) := by
  simp [storeArray, storeVector?_eq_some _ _ _ inside]

/-- Stores inside the application's array return the overwritten array. -/
theorem storeEntries_of_le (entries : List α) (position : Nat) (source : List α)
    (inside : position + source.length ≤ entries.length) :
    storeEntries entries position source = pure (writeAt entries position source) := by
  simp [storeEntries, store?_eq_some _ _ _ inside]

/-- A lookup at a natural index inside the table returns its entry. -/
theorem tableAt_of_lt (table : List α) (index : Nat) (inside : index < table.length) :
    tableAt table index = pure table[index] := by
  simp [tableAt, inside]

/-- `table[sig - 1]` for a signal id between one and the table's length. -/
theorem tableAt_signal (table : List α) (sig : Nat) (signal : 1 ≤ sig ∧ sig ≤ table.length) :
    tableAt table ((sig : Int) - 1) = pure table[sig - 1] := by
  have index : (sig : Int) - 1 = ((sig - 1 : Nat) : Int) := by omega
  rw [index, tableAt_of_lt table (sig - 1) (by omega)]

/-- A choice returns when the branch taken does. -/
theorem returns_ite {β : Type} (condition : Prop) [Decidable condition]
    (whenTrue whenFalse : Except Violation β) (trueReturns : condition → Returns whenTrue)
    (falseReturns : ¬ condition → Returns whenFalse) :
    Returns (if condition then whenTrue else whenFalse) := by
  by_cases holds : condition
  · rw [if_pos holds]
    exact trueReturns holds
  · rw [if_neg holds]
    exact falseReturns holds

/-- A computation that stops at a violation does not return. -/
theorem not_returns_throw_bind {β γ : Type} (violation : Violation) (rest : β → Except Violation γ) :
    ¬ Returns ((throw violation : Except Violation β) >>= rest) := by
  rintro ⟨value, isValue⟩
  cases isValue

/-- A read followed by the rest returns exactly when the read is inside the
message and the rest returns on the byte read. -/
theorem returns_readByte_bind {β : Type} (params : List UInt8) (position : Nat)
    (rest : UInt8 → Except Violation β) :
    Returns (readByte params position >>= rest) ↔
      ∃ inside : position < params.length, Returns (rest params[position]) := by
  by_cases inside : position < params.length
  · rw [readByte_of_lt params position inside, pure_bind]
    exact ⟨fun returned => ⟨inside, returned⟩, fun ⟨_, returned⟩ => returned⟩
  · rw [readByte_of_le params position (by omega)]
    exact ⟨fun returned => absurd returned (not_returns_throw_bind _ _),
      fun ⟨reached, _⟩ => absurd reached inside⟩

/-! ### The capability parser -/

/-- `case AVDT_CAT_RECOV` of `avdt_msg_prs_cfg`, from `p` just after the length
byte: the recovery type, window size and packet count. Every case gives the
configuration, where `p` goes next, the content protection offset and the error. -/
def prsRecov (params : List UInt8) (pEnd p protectOffset : Nat) (cfg : AvdtpSepConfig) :
    Except Violation (AvdtpSepConfig × Nat × Nat × Nat) :=
  if pEnd - p < 3 then pure (cfg, p, protectOffset, avdtErrPayload)
  else do
    let recovType ← readByte params p
    let recovMrws ← readByte params (p + 1)
    let recovMnmp ← readByte params (p + 2)
    let err :=
      if recovType.toNat ≠ avdtRecovRfc2733 then avdtErrRecovType
      else if recovMrws.toNat < avdtRecovMin ∨ avdtRecovMax < recovMrws.toNat ∨
          recovMnmp.toNat < avdtRecovMin ∨ avdtRecovMax < recovMnmp.toNat then avdtErrRecovFmt
      else 0
    pure ({ cfg with recovType := recovType, recovMrws := recovMrws, recovMnmp := recovMnmp },
      p + 3, protectOffset, err)

/-- `case AVDT_CAT_PROTECT`: the element's length and value appended to
`protect_info` while they fit, and skipped otherwise. -/
def prsProtect (params : List UInt8) (pEnd elemLen p protectOffset : Nat)
    (cfg : AvdtpSepConfig) : Except Violation (AvdtpSepConfig × Nat × Nat × Nat) :=
  let cfg := { cfg with pscMask := cfg.pscMask &&& ~~~avdtPscProtect }
  if pEnd < p + elemLen then pure (cfg, p, protectOffset, avdtErrLength)
  else if elemLen + protectOffset < avdtProtectSize then do
    let protectInfo ← storeArray cfg.protectInfo protectOffset [UInt8.ofNat elemLen]
    let value ← readBytes params p elemLen
    let protectInfo ← storeArray protectInfo (protectOffset + 1) value
    pure ({ cfg with numProtect := cfg.numProtect + 1, protectInfo := protectInfo },
      p + elemLen, protectOffset + 1 + elemLen, 0)
  else pure (cfg, p + elemLen, protectOffset, 0)

/-- `case AVDT_CAT_HDRCMP`: one byte of header compression capabilities. -/
def prsHdrcmp (params : List UInt8) (pEnd p protectOffset : Nat) (cfg : AvdtpSepConfig) :
    Except Violation (AvdtpSepConfig × Nat × Nat × Nat) :=
  if pEnd - p < 1 then pure (cfg, p, protectOffset, avdtErrPayload)
  else do
    let hdrcmpMask ← readByte params p
    pure ({ cfg with hdrcmpMask := hdrcmpMask }, p + 1, protectOffset, 0)

/-- `case AVDT_CAT_CODEC`: the element's length, then as much of its value as
fits `codec_info` after it. -/
def prsCodec (params : List UInt8) (pEnd elemLen p protectOffset : Nat)
    (cfg : AvdtpSepConfig) : Except Violation (AvdtpSepConfig × Nat × Nat × Nat) :=
  let cfg := { cfg with pscMask := cfg.pscMask &&& ~~~avdtPscCodec }
  let tmp := if avdtCodecSize ≤ elemLen then avdtCodecSize - 1 else elemLen
  if pEnd < p + tmp then pure (cfg, p, protectOffset, avdtErrLength)
  else do
    let codecInfo ← storeArray cfg.codecInfo 0 [UInt8.ofNat elemLen]
    let value ← readBytes params p tmp
    let codecInfo ← storeArray codecInfo 1 value
    pure ({ cfg with numCodec := cfg.numCodec + 1, codecInfo := codecInfo },
      p + elemLen, protectOffset, 0)

/-- The `switch` of `avdt_msg_prs_cfg` for an element whose category and
length passed the tables. Delay reporting has no value; the other categories'
values are skipped. -/
def prsCfgElement (params : List UInt8) (pEnd elem elemLen p protectOffset : Nat)
    (cfg : AvdtpSepConfig) : Except Violation (AvdtpSepConfig × Nat × Nat × Nat) :=
  if elem = avdtCatRecov then prsRecov params pEnd p protectOffset cfg
  else if elem = avdtCatProtect then prsProtect params pEnd elemLen p protectOffset cfg
  else if elem = avdtCatHdrcmp then prsHdrcmp params pEnd p protectOffset cfg
  else if elem = avdtCatCodec then prsCodec params pEnd elemLen p protectOffset cfg
  else if elem = avdtCatDelayRpt then pure (cfg, p, protectOffset, 0)
  else pure (cfg, p + elemLen, protectOffset, 0)

/-- The `while` loop of `avdt_msg_prs_cfg` from `p` to `pEnd`, with the category
read last and the content protection offset; it ends with the configuration,
the category `*p_elem` gets and the error. Every pass reads two bytes, so one
pass of fuel per byte left and one more are enough. -/
def prsCfgLoop (params : List UInt8) (pEnd sigId : Nat) :
    (fuel p elem protectOffset : Nat) → AvdtpSepConfig →
      Except Violation (AvdtpSepConfig × Nat × Nat)
  | 0, _, _, _, _ => throw .unfinished
  | fuel + 1, p, elem, protectOffset, cfg =>
    if pEnd ≤ p then pure (cfg, elem, 0)
    else if pEnd - p < avdtLenCfgMin then pure (cfg, elem, avdtErrPayload)
    else do
      let elem := (← readByte params p).toNat
      let elemLen := (← readByte params (p + 1)).toNat
      if elem = 0 ∨ avdtCatMaxCur < elem then
        -- an unknown category is an error in a configuration and skipped in
        -- a capability list
        if sigId = avdtSigSetconfig ∨ sigId = avdtSigReconfig then
          pure (cfg, elem, avdtErrCategory)
        else prsCfgLoop params pEnd sigId fuel (p + 2 + elemLen) elem protectOffset cfg
      else do
        let lenMax ← tableAt avdtMsgIeLenMax elem
        let lenMin ← tableAt avdtMsgIeLenMin elem
        if lenMax < elemLen ∨ elemLen < lenMin then
          pure (cfg, elem, ← tableAt avdtMsgIeErr elem)
        else do
          let cfg := { cfg with pscMask := cfg.pscMask ||| UInt16.ofNat (1 <<< elem) }
          let (cfg, p, protectOffset, err) ←
            prsCfgElement params pEnd elem elemLen (p + 2) protectOffset cfg
          if err = 0 then prsCfgLoop params pEnd sigId fuel p elem protectOffset cfg
          else pure (cfg, elem, err)

/-- `avdt_msg_prs_cfg(p_cfg, p + start, len, p_elem, sig_id)`: the configuration
`p_cfg` points to, the new `*p_elem` and the error. A null `p_cfg` is refused
before anything is read or written. -/
def avdtMsgPrsCfg (pCfg : Option AvdtpSepConfig) (pElem : Nat) (params : List UInt8)
    (start len sigId : Nat) : Except Violation (Option AvdtpSepConfig × Nat × Nat) :=
  match pCfg with
  | none => pure (none, pElem, avdtErrBadState)
  | some cfg => do
    let cfg := { cfg with pscMask := 0, numCodec := 0, numProtect := 0 }
    let (cfg, elem, err) ← prsCfgLoop params (start + len) sigId (len + 1) start 0 0 cfg
    pure (some cfg, elem, err)

/-- A dereference of `p_msg->config_cmd.p_cfg`. -/
def derefCfg : Option AvdtpSepConfig → Except Violation AvdtpSepConfig
  | some cfg => pure cfg
  | none => throw .nullPointer

/-- A case of the capability switch that returns without moving `p` back. -/
def Advances (p : Nat) (result : Except Violation (AvdtpSepConfig × Nat × Nat × Nat)) : Prop :=
  ∃ next, result = pure next ∧ p ≤ next.2.1

/-- The recovery case reads its three bytes only after checking they are there. -/
theorem prsRecov_advances (params : List UInt8) (pEnd p protectOffset : Nat)
    (cfg : AvdtpSepConfig) (fits : pEnd ≤ params.length) :
    Advances p (prsRecov params pEnd p protectOffset cfg) := by
  unfold prsRecov
  by_cases short : pEnd - p < 3
  · exact ⟨_, if_pos short, Nat.le_refl p⟩
  · rw [if_neg short, readByte_of_lt params p (by omega),
      pure_bind, readByte_of_lt params (p + 1) (by omega), pure_bind,
      readByte_of_lt params (p + 2) (by omega), pure_bind]
    exact ⟨_, rfl, Nat.le_add_right p 3⟩

/-- The content protection case copies a value that lies before `pEnd` into
`protect_info` only while the element's length and value fit after the offset. -/
theorem prsProtect_advances (params : List UInt8) (pEnd elemLen p protectOffset : Nat)
    (cfg : AvdtpSepConfig) (fits : pEnd ≤ params.length) :
    Advances p (prsProtect params pEnd elemLen p protectOffset cfg) := by
  unfold prsProtect
  dsimp only
  by_cases long : pEnd < p + elemLen
  · exact ⟨_, if_pos long, Nat.le_refl p⟩
  rw [if_neg long]
  by_cases room : elemLen + protectOffset < avdtProtectSize
  · have valueLength : (window params p elemLen).length = elemLen :=
      length_window params p elemLen (by omega)
    rw [if_pos room, storeArray_of_le _ _ _ (by simp; omega), pure_bind,
      readBytes_of_le params p elemLen (by omega), pure_bind,
      storeArray_of_le _ _ _ (by rw [valueLength]; omega), pure_bind]
    exact ⟨_, rfl, Nat.le_add_right p elemLen⟩
  · exact ⟨_, if_neg room, Nat.le_add_right p elemLen⟩

/-- The header compression case reads its byte only when it is there. -/
theorem prsHdrcmp_advances (params : List UInt8) (pEnd p protectOffset : Nat)
    (cfg : AvdtpSepConfig) (fits : pEnd ≤ params.length) :
    Advances p (prsHdrcmp params pEnd p protectOffset cfg) := by
  unfold prsHdrcmp
  by_cases empty : pEnd - p < 1
  · exact ⟨_, if_pos empty, Nat.le_refl p⟩
  · rw [if_neg empty, readByte_of_lt params p (by omega), pure_bind]
    exact ⟨_, rfl, Nat.le_add_right p 1⟩

/-- The codec case stores the length at `codec_info[0]` and at most
`AVDT_CODEC_SIZE - 1` value bytes after it, all of them before `pEnd`. -/
theorem prsCodec_advances (params : List UInt8) (pEnd elemLen p protectOffset : Nat)
    (cfg : AvdtpSepConfig) (fits : pEnd ≤ params.length) :
    Advances p (prsCodec params pEnd elemLen p protectOffset cfg) := by
  unfold prsCodec
  dsimp only
  generalize cut : (if avdtCodecSize ≤ elemLen then avdtCodecSize - 1 else elemLen) = tmp
  have tmpFits : tmp ≤ avdtCodecSize - 1 := by
    rw [← cut]
    split_ifs <;> omega
  by_cases long : pEnd < p + tmp
  · exact ⟨_, if_pos long, Nat.le_refl p⟩
  · have valueLength : (window params p tmp).length = tmp := length_window params p tmp (by omega)
    rw [if_neg long, storeArray_of_le _ _ _ (by simp [avdtCodecSize]), pure_bind,
      readBytes_of_le params p tmp (by omega), pure_bind,
      storeArray_of_le _ _ _ (by rw [valueLength]; simp only [avdtCodecSize] at tmpFits ⊢; omega),
      pure_bind]
    exact ⟨_, rfl, Nat.le_add_right p elemLen⟩

/-- Every case of the switch returns without moving `p` back. -/
theorem prsCfgElement_advances (params : List UInt8) (pEnd elem elemLen p protectOffset : Nat)
    (cfg : AvdtpSepConfig) (fits : pEnd ≤ params.length) :
    Advances p (prsCfgElement params pEnd elem elemLen p protectOffset cfg) := by
  unfold prsCfgElement
  split_ifs
  · exact prsRecov_advances params pEnd p protectOffset cfg fits
  · exact prsProtect_advances params pEnd elemLen p protectOffset cfg fits
  · exact prsHdrcmp_advances params pEnd p protectOffset cfg fits
  · exact prsCodec_advances params pEnd elemLen p protectOffset cfg fits
  · exact ⟨_, rfl, Nat.le_refl p⟩
  · exact ⟨_, rfl, Nat.le_add_right p elemLen⟩


/-- The capability loop returns when its fuel outlasts the bytes left: a pass
that goes on moves `p` at least two bytes on, and every read, store and table
lookup on the way is checked first. -/
theorem prsCfgLoop_returns (params : List UInt8) (pEnd sigId : Nat) (fits : pEnd ≤ params.length) :
    ∀ fuel p elem protectOffset cfg, pEnd - p < fuel →
      Returns (prsCfgLoop params pEnd sigId fuel p elem protectOffset cfg) := by
  intro fuel
  induction fuel with
  | zero => intro p elem protectOffset cfg enough; omega
  | succ fuel inductionHypothesis =>
    intro p elem protectOffset cfg enough
    unfold prsCfgLoop
    by_cases done : pEnd ≤ p
    · rw [if_pos done]
      exact returns_pure _
    rw [if_neg done]
    by_cases short : pEnd - p < avdtLenCfgMin
    · rw [if_pos short]
      exact returns_pure _
    have sizes : avdtLenCfgMin = 2 := rfl
    rw [if_neg short, readByte_of_lt params p (by omega), pure_bind,
      readByte_of_lt params (p + 1) (by omega), pure_bind]
    dsimp only
    by_cases unknown : params[p].toNat = 0 ∨ avdtCatMaxCur < params[p].toNat
    · rw [if_pos unknown]
      split_ifs
      · exact returns_pure _
      · exact inductionHypothesis _ _ _ _ (by omega)
    · have known : params[p].toNat < 9 := by simp only [avdtCatMaxCur] at unknown; omega
      rw [if_neg unknown, tableAt_of_lt avdtMsgIeLenMax _ known, pure_bind,
        tableAt_of_lt avdtMsgIeLenMin _ known, pure_bind]
      split_ifs with outOfRange
      · rw [tableAt_of_lt avdtMsgIeErr _ known, pure_bind]
        exact returns_pure _
      · obtain ⟨⟨cfg', p', protectOffset', err⟩, stepped, forward⟩ :=
          prsCfgElement_advances params pEnd params[p].toNat params[p + 1].toNat (p + 2)
            protectOffset { cfg with pscMask := cfg.pscMask ||| UInt16.ofNat (1 <<< params[p].toNat) } fits
        rw [stepped, pure_bind]
        dsimp only at forward ⊢
        split_ifs
        · exact inductionHypothesis _ _ _ _ (by omega)
        · exact returns_pure _


/-- The capability parser returns whenever its elements lie in the message, and
it gives a configuration back whenever it reports no error. -/
theorem avdtMsgPrsCfg_returns (pCfg : Option AvdtpSepConfig) (pElem : Nat) (params : List UInt8)
    (start len sigId : Nat) (fits : start + len ≤ params.length) :
    ∃ parsed, avdtMsgPrsCfg pCfg pElem params start len sigId = pure parsed ∧
      (parsed.2.2 = 0 → ∃ cfg, parsed.1 = some cfg) := by
  cases pCfg with
  | none =>
    refine ⟨(none, pElem, avdtErrBadState), rfl, fun isZero => ?_⟩
    simp [avdtErrBadState] at isZero
  | some cfg =>
    obtain ⟨⟨cfg', elem, err⟩, looped⟩ :=
      prsCfgLoop_returns params (start + len) sigId fits (len + 1) start 0 0
        { cfg with pscMask := 0, numCodec := 0, numProtect := 0 } (by omega)
    refine ⟨(some cfg', elem, err), ?_, fun _ => ⟨cfg', rfl⟩⟩
    simp only [avdtMsgPrsCfg, looped, pure_bind]


/-! ### The parse functions -/

section Parsers

-- Whether `avdt_scb_by_hdl` finds an allocated stream control block for a
-- handle: the state of the stream endpoints, which the parsers only read.
variable (scbAllocated : Nat → Bool)

/-- `avdt_msg_prs_none`. -/
def avdtMsgPrsNone (msg : AvdtMsg) (_params : List UInt8) (_len : Nat) :
    Except Violation (AvdtMsg × Nat) :=
  pure (msg, 0)

/-- `avdt_msg_prs_single`. -/
def avdtMsgPrsSingle (msg : AvdtMsg) (params : List UInt8) (len : Nat) :
    Except Violation (AvdtMsg × Nat) :=
  if len ≠ avdtLenSingle then pure (msg, avdtErrLength)
  else do
    let seid := avdtMsgPrsSeid (← readByte params 0)
    pure ({ msg with seid := seid }, if scbAllocated seid then 0 else avdtErrSeid)

/-- `avdt_msg_prs_setconfig_cmd`: the SEIDs, then the configuration after them. -/
def avdtMsgPrsSetconfigCmd (msg : AvdtMsg) (params : List UInt8) (len : Nat) :
    Except Violation (AvdtMsg × Nat) := do
  let msg := { msg with errParam := 0 }
  let (msg, err) ← if len < avdtLenSetconfigMin then pure (msg, avdtErrLength) else do
    let seid := avdtMsgPrsSeid (← readByte params 0)
    let intSeid := avdtMsgPrsSeid (← readByte params 1)
    -- the second SEID is read even when the first names no stream endpoint
    let err :=
      if intSeid < avdtSeidMin ∨ avdtSeidMax < intSeid then avdtErrSeid
      else if scbAllocated seid then 0 else avdtErrSeid
    pure ({ msg with seid := seid, intSeid := intSeid }, err)
  if err ≠ 0 then pure (msg, err)
  else do
    let (pCfg, errParam, err) ←
      avdtMsgPrsCfg msg.pCfg msg.errParam params 2 (len - 2) avdtSigSetconfig
    let msg := { msg with pCfg := pCfg, errParam := errParam }
    if err ≠ 0 then pure (msg, err)
    else do
      let cfg ← derefCfg pCfg
      pure (msg, if cfg.pscMask &&& ~~~avdtPsc ≠ 0 ∨ cfg.numCodec = 0 then avdtErrInvalidCap
        else 0)

/-- `avdt_msg_prs_reconfig_cmd`: the SEID, then the configuration after it. -/
def avdtMsgPrsReconfigCmd (msg : AvdtMsg) (params : List UInt8) (len : Nat) :
    Except Violation (AvdtMsg × Nat) := do
  let msg := { msg with errParam := 0 }
  if len < avdtLenReconfigMin then pure (msg, avdtErrLength)
  else do
    let seid := avdtMsgPrsSeid (← readByte params 0)
    let msg := { msg with seid := seid }
    if !scbAllocated seid then pure (msg, avdtErrSeid)
    else do
      let (pCfg, errParam, err) ←
        avdtMsgPrsCfg msg.pCfg msg.errParam params 1 (len - 1) avdtSigReconfig
      let msg := { msg with pCfg := pCfg, errParam := errParam }
      if err ≠ 0 then pure (msg, err)
      else do
        let cfg ← derefCfg pCfg
        pure (msg, if cfg.pscMask ≠ 0 ∨ (cfg.numCodec = 0 ∧ cfg.numProtect = 0) then
          avdtErrInvalidCap else 0)

/-- The `for` loop of `avdt_msg_prs_multi` from entry `i` on, `count` entries
left: each SEID is stored into `seid_list[i]` and then looked up. -/
def prsMultiLoop (params : List UInt8) : (count i : Nat) → AvdtMsg →
    Except Violation (AvdtMsg × Nat)
  | 0, i, msg => pure ({ msg with multiNumSeps := i }, 0)
  | count + 1, i, msg => do
    let seid := avdtMsgPrsSeid (← readByte params i)
    let seidList ← storeArray msg.seidList i [seid]
    let msg := { msg with seidList := seidList }
    if scbAllocated seid then prsMultiLoop params count (i + 1) msg
    else pure ({ msg with errParam := seid, multiNumSeps := i }, avdtErrSeid)

/-- `avdt_msg_prs_multi`: one SEID per byte, at most `AVDT_NUM_SEPS`. -/
def avdtMsgPrsMulti (msg : AvdtMsg) (params : List UInt8) (len : Nat) :
    Except Violation (AvdtMsg × Nat) :=
  let msg := { msg with errParam := 0 }
  if len < avdtLenMultiMin ∨ avdtNumSeps < len then pure (msg, avdtErrLength)
  else prsMultiLoop scbAllocated params len 0 msg

/-- `avdt_msg_prs_security_cmd`: the SEID, then the security data up to the end. -/
def avdtMsgPrsSecurityCmd (msg : AvdtMsg) (params : List UInt8) (len : Nat) :
    Except Violation (AvdtMsg × Nat) :=
  if len < avdtLenSecurityMin then pure (msg, avdtErrLength)
  else do
    let seid := avdtMsgPrsSeid (← readByte params 0)
    let msg := { msg with seid := seid }
    if scbAllocated seid then pure ({ msg with pData := 1, securityLen := len - 1 }, 0)
    else pure (msg, avdtErrSeid)

/-- `AVDT_MSG_PRS_DISC`: one SEP's information from two bytes. -/
def avdtMsgPrsDisc (first second : UInt8) : SepInfo :=
  { seid := first.toNat >>> 2, inUse := (first.toNat >>> 1) &&& 0x01 ≠ 0,
    mediaType := (second.toNat >>> 4) &&& 0x0F, tsep := (second.toNat >>> 3) &&& 0x01 }

/-- The `for` loop of `avdt_msg_prs_discover_rsp` from entry `i` on, `count`
entries left. -/
def prsDiscoverLoop (params : List UInt8) : (count i : Nat) → AvdtMsg →
    Except Violation (AvdtMsg × Nat)
  | 0, _, msg => pure (msg, 0)
  | count + 1, i, msg => do
    let first ← readByte params (2 * i)
    let second ← readByte params (2 * i + 1)
    let info := avdtMsgPrsDisc first second
    let pSepInfo ← storeEntries msg.pSepInfo i [info]
    let msg := { msg with pSepInfo := pSepInfo }
    if info.seid < avdtSeidMin ∨ avdtSeidMax < info.seid then pure (msg, avdtErrSeid)
    else prsDiscoverLoop params count (i + 1) msg

/-- `avdt_msg_prs_discover_rsp`: two bytes per SEP, into as many entries of the
application's array as it asked for and the message holds. -/
def avdtMsgPrsDiscoverRsp (msg : AvdtMsg) (params : List UInt8) (len : Nat) :
    Except Violation (AvdtMsg × Nat) :=
  let msg := if len / 2 < msg.discoverNumSeps then { msg with discoverNumSeps := len / 2 } else msg
  prsDiscoverLoop params msg.discoverNumSeps 0 msg

/-- `avdt_msg_prs_svccap` and `avdt_msg_prs_all_svccap`: a capability list for
the signal `sigId`, whose mask then keeps the categories of `mask`. -/
def prsCapabilities (sigId : Nat) (mask : UInt16) (msg : AvdtMsg) (params : List UInt8)
    (len : Nat) : Except Violation (AvdtMsg × Nat) := do
  let (pCfg, errParam, err) ← avdtMsgPrsCfg msg.pCfg msg.errParam params 0 len sigId
  let pCfg := pCfg.map fun cfg => { cfg with pscMask := cfg.pscMask &&& mask }
  pure ({ msg with pCfg := pCfg, errParam := errParam }, err)

/-- `avdt_msg_prs_svccap`. -/
def avdtMsgPrsSvccap : AvdtMsg → List UInt8 → Nat → Except Violation (AvdtMsg × Nat) :=
  prsCapabilities avdtSigGetcap avdtLegPsc

/-- `avdt_msg_prs_all_svccap`. -/
def avdtMsgPrsAllSvccap : AvdtMsg → List UInt8 → Nat → Except Violation (AvdtMsg × Nat) :=
  prsCapabilities avdtSigGetAllcap avdtMsgPscMask

/-- `avdt_msg_prs_security_rsp`: the whole rest is security data. -/
def avdtMsgPrsSecurityRsp (msg : AvdtMsg) (_params : List UInt8) (len : Nat) :
    Except Violation (AvdtMsg × Nat) :=
  pure ({ msg with pData := 0, securityLen := len }, 0)

/-- `avdt_msg_prs_rej`: the error parameter and code of a reject. It is not
given `len` and reads what its signal's reject carries. -/
def avdtMsgPrsRej (msg : AvdtMsg) (params : List UInt8) (sig : Nat) :
    Except Violation (AvdtMsg × Nat) :=
  if sig = avdtSigSetconfig ∨ sig = avdtSigReconfig then do
    let errParam ← readByte params 0
    let errCode ← readByte params 1
    pure ({ msg with errParam := errParam.toNat, errCode := errCode.toNat }, 0)
  else if sig = avdtSigStart ∨ sig = avdtSigSuspend then do
    let errParam := avdtMsgPrsSeid (← readByte params 0)
    let errCode ← readByte params 1
    pure ({ msg with errParam := errParam, errCode := errCode.toNat }, 0)
  else do
    let errCode ← readByte params 0
    pure ({ msg with errCode := errCode.toNat }, 0)

/-- `avdt_msg_prs_delay_rpt`: the SEID and a big-endian delay. -/
def avdtMsgPrsDelayRpt (msg : AvdtMsg) (params : List UInt8) (len : Nat) :
    Except Violation (AvdtMsg × Nat) :=
  if len ≠ avdtLenDelayRpt then pure (msg, avdtErrLength)
  else do
    let seid := avdtMsgPrsSeid (← readByte params 0)
    let msg := { msg with seid := seid }
    if scbAllocated seid then do
      let high ← readByte params 1
      let low ← readByte params 2
      pure ({ msg with delay := high.toNat * 256 + low.toNat }, 0)
    else pure (msg, avdtErrSeid)

end Parsers

/-! ### The parser tables -/

/-- The parse functions that `avdt_msg_prs_cmd` and `avdt_msg_prs_rsp` point to. -/
inductive MsgPrs
  | none
  | single
  | setconfigCmd
  | reconfigCmd
  | multi
  | securityCmd
  | discoverRsp
  | svccap
  | allSvccap
  | securityRsp
  | delayRpt
deriving DecidableEq, Repr

/-- `avdt_msg_prs_cmd`, by signal from DISCOVER to DELAY_RPT. -/
def avdtMsgPrsCmd : List MsgPrs :=
  [.none, .single, .setconfigCmd, .single, .reconfigCmd, .single, .multi, .single, .multi,
    .single, .securityCmd, .single, .delayRpt]

/-- `avdt_msg_prs_rsp`, by signal from DISCOVER to DELAY_RPT. -/
def avdtMsgPrsRsp : List MsgPrs :=
  [.discoverRsp, .svccap, .none, .allSvccap, .none, .none, .none, .none, .none, .none,
    .securityRsp, .allSvccap, .none]

/-- The call through a table entry. -/
def MsgPrs.parse (scbAllocated : Nat → Bool) :
    MsgPrs → AvdtMsg → List UInt8 → Nat → Except Violation (AvdtMsg × Nat)
  | .none => avdtMsgPrsNone
  | .single => avdtMsgPrsSingle scbAllocated
  | .setconfigCmd => avdtMsgPrsSetconfigCmd scbAllocated
  | .reconfigCmd => avdtMsgPrsReconfigCmd scbAllocated
  | .multi => avdtMsgPrsMulti scbAllocated
  | .securityCmd => avdtMsgPrsSecurityCmd scbAllocated
  | .discoverRsp => avdtMsgPrsDiscoverRsp
  | .svccap => avdtMsgPrsSvccap
  | .allSvccap => avdtMsgPrsAllSvccap
  | .securityRsp => avdtMsgPrsSecurityRsp
  | .delayRpt => avdtMsgPrsDelayRpt scbAllocated

/-! ### Every parser but the reject parser stays inside -/

section ParserBounds

variable (scbAllocated : Nat → Bool)

theorem avdtMsgPrsSingle_returns (msg : AvdtMsg) (params : List UInt8) (len : Nat)
    (inside : len ≤ params.length) : Returns (avdtMsgPrsSingle scbAllocated msg params len) := by
  unfold avdtMsgPrsSingle
  by_cases other : len ≠ avdtLenSingle
  · rw [if_pos other]
    exact returns_pure _
  · have one : len = 1 := by simpa [avdtLenSingle] using other
    rw [if_neg other, readByte_of_lt params 0 (by omega), pure_bind]
    exact returns_pure _

theorem avdtMsgPrsSetconfigCmd_returns (msg : AvdtMsg) (params : List UInt8) (len : Nat)
    (inside : len ≤ params.length) : Returns (avdtMsgPrsSetconfigCmd scbAllocated msg params len) := by
  unfold avdtMsgPrsSetconfigCmd
  dsimp only
  by_cases short : len < avdtLenSetconfigMin
  · rw [if_pos short, pure_bind]
    exact returns_pure _
  have sizes : avdtLenSetconfigMin = 2 := rfl
  rw [if_neg short, readByte_of_lt params 0 (by omega), pure_bind,
    readByte_of_lt params 1 (by omega), pure_bind, pure_bind]
  apply returns_ite
  · intro _
    exact returns_pure _
  · intro _
    obtain ⟨⟨pCfg, elem, err⟩, parsed, configured⟩ :=
      avdtMsgPrsCfg_returns msg.pCfg 0 params 2 (len - 2) avdtSigSetconfig (by omega)
    rw [parsed, pure_bind]
    apply returns_ite
    · intro _
      exact returns_pure _
    · intro erred
      obtain ⟨cfg, rfl⟩ := configured (by simpa using erred)
      rw [derefCfg, pure_bind]
      exact returns_pure _

theorem avdtMsgPrsReconfigCmd_returns (msg : AvdtMsg) (params : List UInt8) (len : Nat)
    (inside : len ≤ params.length) : Returns (avdtMsgPrsReconfigCmd scbAllocated msg params len) := by
  unfold avdtMsgPrsReconfigCmd
  dsimp only
  by_cases short : len < avdtLenReconfigMin
  · rw [if_pos short]
    exact returns_pure _
  have sizes : avdtLenReconfigMin = 1 := rfl
  rw [if_neg short, readByte_of_lt params 0 (by omega), pure_bind]
  apply returns_ite
  · intro _
    exact returns_pure _
  · intro _
    obtain ⟨⟨pCfg, elem, err⟩, parsed, configured⟩ :=
      avdtMsgPrsCfg_returns msg.pCfg 0 params 1 (len - 1) avdtSigReconfig (by omega)
    rw [parsed, pure_bind]
    apply returns_ite
    · intro _
      exact returns_pure _
    · intro erred
      obtain ⟨cfg, rfl⟩ := configured (by simpa using erred)
      rw [derefCfg, pure_bind]
      exact returns_pure _

/-- The SEID loop reads entry `i` and stores `seid_list[i]` while `i` stays
below both the message's length and `AVDT_NUM_SEPS`. -/
theorem prsMultiLoop_returns (params : List UInt8) :
    ∀ count i (msg : AvdtMsg), i + count ≤ params.length → i + count ≤ avdtNumSeps →
      Returns (prsMultiLoop scbAllocated params count i msg) := by
  intro count
  induction count with
  | zero => intro i msg _ _; exact returns_pure _
  | succ count inductionHypothesis =>
    intro i msg inMessage inArray
    rw [prsMultiLoop, readByte_of_lt params i (by omega), pure_bind]
    dsimp only
    rw [storeArray_of_le _ _ _ (by simp; omega), pure_bind]
    apply returns_ite
    · intro _
      exact inductionHypothesis (i + 1) _ (by omega) (by omega)
    · intro _
      exact returns_pure _

theorem avdtMsgPrsMulti_returns (msg : AvdtMsg) (params : List UInt8) (len : Nat)
    (inside : len ≤ params.length) : Returns (avdtMsgPrsMulti scbAllocated msg params len) := by
  unfold avdtMsgPrsMulti
  apply returns_ite
  · intro _
    exact returns_pure _
  · intro fits
    exact prsMultiLoop_returns scbAllocated params len 0 _ (by omega) (by omega)

theorem avdtMsgPrsSecurityCmd_returns (msg : AvdtMsg) (params : List UInt8) (len : Nat)
    (inside : len ≤ params.length) : Returns (avdtMsgPrsSecurityCmd scbAllocated msg params len) := by
  unfold avdtMsgPrsSecurityCmd
  by_cases short : len < avdtLenSecurityMin
  · rw [if_pos short]
    exact returns_pure _
  have sizes : avdtLenSecurityMin = 1 := rfl
  rw [if_neg short, readByte_of_lt params 0 (by omega), pure_bind]
  apply returns_ite <;> intro _ <;> exact returns_pure _

/-- The SEP loop reads bytes `2 i` and `2 i + 1` and stores entry `i` while the
entries left fit both the message and the application's array. -/
theorem prsDiscoverLoop_returns (params : List UInt8) :
    ∀ count i (msg : AvdtMsg), 2 * (i + count) ≤ params.length →
      i + count ≤ msg.pSepInfo.length → Returns (prsDiscoverLoop params count i msg) := by
  intro count
  induction count with
  | zero => intro i msg _ _; exact returns_pure _
  | succ count inductionHypothesis =>
    intro i msg inMessage inArray
    rw [prsDiscoverLoop, readByte_of_lt params (2 * i) (by omega), pure_bind,
      readByte_of_lt params (2 * i + 1) (by omega), pure_bind]
    dsimp only
    rw [storeEntries_of_le _ _ _ (by simp only [List.length_singleton]; omega), pure_bind]
    apply returns_ite
    · intro _
      exact returns_pure _
    · intro _
      refine inductionHypothesis (i + 1) _ (by omega) ?_
      rw [length_writeAt _ _ _ (by simp only [List.length_singleton]; omega)]
      omega

theorem avdtMsgPrsDiscoverRsp_returns (msg : AvdtMsg) (params : List UInt8) (len : Nat)
    (inside : len ≤ params.length) (arrayHolds : msg.discoverNumSeps ≤ msg.pSepInfo.length) :
    Returns (avdtMsgPrsDiscoverRsp msg params len) := by
  unfold avdtMsgPrsDiscoverRsp
  split_ifs with more
  · exact prsDiscoverLoop_returns params (len / 2) 0 _ (by omega) (by simp; omega)
  · exact prsDiscoverLoop_returns params msg.discoverNumSeps 0 _ (by omega) (by simpa using arrayHolds)

theorem prsCapabilities_returns (sigId : Nat) (mask : UInt16) (msg : AvdtMsg) (params : List UInt8)
    (len : Nat) (inside : len ≤ params.length) :
    Returns (prsCapabilities sigId mask msg params len) := by
  obtain ⟨parsed, isParsed, -⟩ :=
    avdtMsgPrsCfg_returns msg.pCfg msg.errParam params 0 len sigId (by omega)
  rw [prsCapabilities, isParsed, pure_bind]
  exact returns_pure _

theorem avdtMsgPrsDelayRpt_returns (msg : AvdtMsg) (params : List UInt8) (len : Nat)
    (inside : len ≤ params.length) : Returns (avdtMsgPrsDelayRpt scbAllocated msg params len) := by
  unfold avdtMsgPrsDelayRpt
  by_cases other : len ≠ avdtLenDelayRpt
  · rw [if_pos other]
    exact returns_pure _
  have three : len = 3 := by simpa [avdtLenDelayRpt] using other
  rw [if_neg other, readByte_of_lt params 0 (by omega), pure_bind]
  apply returns_ite
  · intro _
    rw [readByte_of_lt params 1 (by omega), pure_bind, readByte_of_lt params 2 (by omega), pure_bind]
    exact returns_pure _
  · intro _
    exact returns_pure _

/-- Every parse function the tables point to returns on every message whose
bytes it is given, as long as the application's SEP array holds the entries it
asked for. -/
theorem parse_returns (prs : MsgPrs) (msg : AvdtMsg) (params : List UInt8) (len : Nat)
    (inside : len ≤ params.length) (arrayHolds : msg.discoverNumSeps ≤ msg.pSepInfo.length) :
    Returns (prs.parse scbAllocated msg params len) := by
  cases prs with
  | none => exact returns_pure _
  | single => exact avdtMsgPrsSingle_returns scbAllocated msg params len inside
  | setconfigCmd => exact avdtMsgPrsSetconfigCmd_returns scbAllocated msg params len inside
  | reconfigCmd => exact avdtMsgPrsReconfigCmd_returns scbAllocated msg params len inside
  | multi => exact avdtMsgPrsMulti_returns scbAllocated msg params len inside
  | securityCmd => exact avdtMsgPrsSecurityCmd_returns scbAllocated msg params len inside
  | discoverRsp => exact avdtMsgPrsDiscoverRsp_returns msg params len inside arrayHolds
  | svccap => exact prsCapabilities_returns _ _ msg params len inside
  | allSvccap => exact prsCapabilities_returns _ _ msg params len inside
  | securityRsp => exact returns_pure _
  | delayRpt => exact avdtMsgPrsDelayRpt_returns scbAllocated msg params len inside

/-- How many bytes `avdt_msg_prs_rej` reads for a signal. -/
def rejLength (sig : Nat) : Nat :=
  if sig = avdtSigSetconfig ∨ sig = avdtSigReconfig ∨ sig = avdtSigStart ∨ sig = avdtSigSuspend then 2
  else 1

/-- The reject parser returns exactly when the message holds the bytes its
signal's reject carries; it never looks at the message's length. -/
theorem avdtMsgPrsRej_returns_iff (msg : AvdtMsg) (params : List UInt8) (sig : Nat) :
    Returns (avdtMsgPrsRej msg params sig) ↔ rejLength sig ≤ params.length := by
  unfold avdtMsgPrsRej rejLength
  by_cases configuring : sig = avdtSigSetconfig ∨ sig = avdtSigReconfig
  · have two : sig = avdtSigSetconfig ∨ sig = avdtSigReconfig ∨ sig = avdtSigStart ∨
        sig = avdtSigSuspend := by tauto
    rw [if_pos configuring, if_pos two]
    simp only [returns_readByte_bind, returns_pure, exists_prop, and_true]
    omega
  by_cases starting : sig = avdtSigStart ∨ sig = avdtSigSuspend
  · have two : sig = avdtSigSetconfig ∨ sig = avdtSigReconfig ∨ sig = avdtSigStart ∨
        sig = avdtSigSuspend := by tauto
    rw [if_neg configuring, if_pos starting, if_pos two]
    simp only [returns_readByte_bind, returns_pure, exists_prop, and_true]
    omega
  · have one : ¬(sig = avdtSigSetconfig ∨ sig = avdtSigReconfig ∨ sig = avdtSigStart ∨
        sig = avdtSigSuspend) := by tauto
    rw [if_neg configuring, if_neg starting, if_neg one]
    simp only [returns_readByte_bind, returns_pure, exists_prop, and_true]
    omega

/-- A reject shorter than its signal's reject parameters makes the parser read
past the message. -/
theorem avdtMsgPrsRej_short (msg : AvdtMsg) (params : List UInt8) (sig : Nat)
    (short : params.length < rejLength sig) :
    avdtMsgPrsRej msg params sig = throw .readOutsideMessage := by
  unfold avdtMsgPrsRej
  unfold rejLength at short
  by_cases configuring : sig = avdtSigSetconfig ∨ sig = avdtSigReconfig
  · rw [if_pos configuring]
    rw [if_pos (by tauto)] at short
    by_cases empty : params.length = 0
    · rw [readByte_of_le params 0 (by omega)]
      rfl
    · rw [readByte_of_lt params 0 (by omega), pure_bind, readByte_of_le params 1 (by omega)]
      rfl
  by_cases starting : sig = avdtSigStart ∨ sig = avdtSigSuspend
  · rw [if_neg configuring, if_pos starting]
    rw [if_pos (by tauto)] at short
    by_cases empty : params.length = 0
    · rw [readByte_of_le params 0 (by omega)]
      rfl
    · rw [readByte_of_lt params 0 (by omega), pure_bind, readByte_of_le params 1 (by omega)]
      rfl
  · rw [if_neg configuring, if_neg starting, readByte_of_le params 0 (by
      rw [if_neg (by tauto)] at short
      omega)]
    rfl

end ParserBounds

end Fluoride.AvdtpParse
