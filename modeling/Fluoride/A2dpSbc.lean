import Fluoride.OctetFields
import Fluoride.AvdtpParse

/-!
# SBC codec information and the choice of an SBC configuration

`a2dp_sbc.cc` keeps an SBC codec information element (`tA2DP_SBC_CIE`) as
seven octets from the length octet on: the sampling frequencies and the channel
modes share one octet, the block lengths, subbands and allocation methods the
next, and the bitpool range takes two. `A2DP_BuildInfoSbc` packs an element
whose fields fit their masks and whose bitpool range is allowed;
`A2DP_ParseInfoSbc` unpacks one and checks it, as a capability (a bit set in
every selector field) or as a configuration (exactly one bit). Unpacking what
was packed gives the element back (`a2dpParseInfoSbc_build`), and packing what
was accepted gives the octets back but for the low half of the media-type
octet, which the parser ignores (`a2dpBuildInfoSbc_parse`).

`A2dpCodecConfigSbcBase::setCodecConfig` chooses a configuration from the local
capabilities and the peer's information one field at a time: the user's
preference, then the audio configuration, the default configuration and the
best common value. It succeeds exactly when both sides share a value in every
selector field and their bitpool ranges meet (`setCodecConfig_succeeds_iff`),
never reaching its `CHECK`s, and what it then writes is a configuration that
the parser accepts and that matches both sides (`setCodecConfig_result`).
-/

namespace Fluoride.A2dpSbc

open OctetFields
open AvdtpParse (avdtCodecSize)
open ByteBuffer (window writeVector)

/-! ### Constants of `a2dp_sbc_constants.h`, `a2dp_constants.h`, `avdt_api.h` and `bt_av.h` -/

/-- `A2DP_SBC_INFO_LEN`. -/
def a2dpSbcInfoLen : UInt8 := 6

/-- `A2DP_MEDIA_CT_SBC`. -/
def a2dpMediaCtSbc : UInt8 := 0

/-- `AVDT_MEDIA_TYPE_AUDIO`. -/
def avdtMediaTypeAudio : UInt8 := 0

/-- `A2DP_SBC_IE_SAMP_FREQ_MSK`. -/
def a2dpSbcIeSampFreqMsk : UInt8 := 0xF0

/-- `A2DP_SBC_IE_SAMP_FREQ_44`. -/
def a2dpSbcIeSampFreq44 : UInt8 := 0x20

/-- `A2DP_SBC_IE_SAMP_FREQ_48`. -/
def a2dpSbcIeSampFreq48 : UInt8 := 0x10

/-- `A2DP_SBC_IE_CH_MD_MSK`. -/
def a2dpSbcIeChMdMsk : UInt8 := 0x0F

/-- `A2DP_SBC_IE_CH_MD_MONO`. -/
def a2dpSbcIeChMdMono : UInt8 := 0x08

/-- `A2DP_SBC_IE_CH_MD_DUAL`. -/
def a2dpSbcIeChMdDual : UInt8 := 0x04

/-- `A2DP_SBC_IE_CH_MD_STEREO`. -/
def a2dpSbcIeChMdStereo : UInt8 := 0x02

/-- `A2DP_SBC_IE_CH_MD_JOINT`. -/
def a2dpSbcIeChMdJoint : UInt8 := 0x01

/-- `A2DP_SBC_IE_BLOCKS_MSK`. -/
def a2dpSbcIeBlocksMsk : UInt8 := 0xF0

/-- `A2DP_SBC_IE_BLOCKS_4`. -/
def a2dpSbcIeBlocks4 : UInt8 := 0x80

/-- `A2DP_SBC_IE_BLOCKS_8`. -/
def a2dpSbcIeBlocks8 : UInt8 := 0x40

/-- `A2DP_SBC_IE_BLOCKS_12`. -/
def a2dpSbcIeBlocks12 : UInt8 := 0x20

/-- `A2DP_SBC_IE_BLOCKS_16`. -/
def a2dpSbcIeBlocks16 : UInt8 := 0x10

/-- `A2DP_SBC_IE_SUBBAND_MSK`. -/
def a2dpSbcIeSubbandMsk : UInt8 := 0x0C

/-- `A2DP_SBC_IE_SUBBAND_4`. -/
def a2dpSbcIeSubband4 : UInt8 := 0x08

/-- `A2DP_SBC_IE_SUBBAND_8`. -/
def a2dpSbcIeSubband8 : UInt8 := 0x04

/-- `A2DP_SBC_IE_ALLOC_MD_MSK`. -/
def a2dpSbcIeAllocMdMsk : UInt8 := 0x03

/-- `A2DP_SBC_IE_ALLOC_MD_S`. -/
def a2dpSbcIeAllocMdS : UInt8 := 0x02

/-- `A2DP_SBC_IE_ALLOC_MD_L`. -/
def a2dpSbcIeAllocMdL : UInt8 := 0x01

/-- `A2DP_SBC_IE_MIN_BITPOOL`. -/
def a2dpSbcIeMinBitpool : UInt8 := 2

/-- `A2DP_SBC_IE_MAX_BITPOOL`. -/
def a2dpSbcIeMaxBitpool : UInt8 := 250

/-- `A2DP_SBC_MAX_BITPOOL`, the largest bitpool this stack offers. -/
def a2dpSbcMaxBitpool : UInt8 := 53

/-- `BTAV_A2DP_CODEC_SAMPLE_RATE_NONE`. -/
def btavA2dpCodecSampleRateNone : Nat := 0

/-- `BTAV_A2DP_CODEC_SAMPLE_RATE_44100`. -/
def btavA2dpCodecSampleRate44100 : Nat := 0x1

/-- `BTAV_A2DP_CODEC_SAMPLE_RATE_48000`. -/
def btavA2dpCodecSampleRate48000 : Nat := 0x2

/-- The other values of `btav_a2dp_codec_sample_rate_t`, the `switch` cases
that SBC cannot use: 88.2, 96, 176.4, 192, 16 and 24 kHz and none. -/
def otherSampleRates : List Nat := [0x4, 0x8, 0x10, 0x20, 0x40, 0x80, btavA2dpCodecSampleRateNone]

/-- `BTAV_A2DP_CODEC_BITS_PER_SAMPLE_NONE`. -/
def btavA2dpCodecBitsPerSampleNone : Nat := 0

/-- `BTAV_A2DP_CODEC_BITS_PER_SAMPLE_16`. -/
def btavA2dpCodecBitsPerSample16 : Nat := 0x1

/-- `BTAV_A2DP_CODEC_BITS_PER_SAMPLE_24`. -/
def btavA2dpCodecBitsPerSample24 : Nat := 0x2

/-- `BTAV_A2DP_CODEC_BITS_PER_SAMPLE_32`. -/
def btavA2dpCodecBitsPerSample32 : Nat := 0x4

/-- `BTAV_A2DP_CODEC_CHANNEL_MODE_NONE`. -/
def btavA2dpCodecChannelModeNone : Nat := 0

/-- `BTAV_A2DP_CODEC_CHANNEL_MODE_MONO`. -/
def btavA2dpCodecChannelModeMono : Nat := 0x1

/-- `BTAV_A2DP_CODEC_CHANNEL_MODE_STEREO`. -/
def btavA2dpCodecChannelModeStereo : Nat := 0x2

/-! ### Status codes, `A2DP_BitsSet` and the information element -/

/-- The `tA2DP_STATUS` values the SBC functions return. -/
inductive A2dpStatus
  | success
  | invalidParams
  | wrongCodec
  | badSampFreq
  | nsSampFreq
  | badChMode
  | nsChMode
  | badSubbands
  | nsSubbands
  | badAllocMethod
  | nsAllocMethod
  | badMinBitpool
  | nsMinBitpool
  | badMaxBitpool
  | nsMaxBitpool
  | badBlockLen
  deriving DecidableEq, Repr

/-- `A2DP_SET_ZERO_BIT`, `A2DP_SET_ONE_BIT` and `A2DP_SET_MULTL_BIT`. -/
inductive A2dpSet
  | zeroBit
  | oneBit
  | multiBit
  deriving DecidableEq, Repr

/-- `A2DP_BitsSet`: whether no bit, one bit or several bits of `num` are set. -/
def a2dpBitsSet (num : Nat) : A2dpSet :=
  if num = 0 then .zeroBit
  else if num &&& (num - 1) = 0 then .oneBit
  else .multiBit

/-- `tA2DP_SBC_CIE`. -/
structure SbcCie where
  sampFreq : UInt8
  chMode : UInt8
  blockLen : UInt8
  numSubbands : UInt8
  allocMethod : UInt8
  minBitpool : UInt8
  maxBitpool : UInt8
  bitsPerSample : Nat
  deriving DecidableEq, Repr

/-- An element of zeros, as `memset` leaves `result_config_cie`. An uninitialised
local element is modelled by it too: every field of one that the code reads
has been written first. -/
def SbcCie.zero : SbcCie := ⟨0, 0, 0, 0, 0, 0, 0, 0⟩

/-- `a2dp_sbc_source_caps`. -/
def a2dpSbcSourceCaps : SbcCie :=
  ⟨a2dpSbcIeSampFreq44, a2dpSbcIeChMdMono ||| a2dpSbcIeChMdJoint,
    a2dpSbcIeBlocks16 ||| a2dpSbcIeBlocks12 ||| a2dpSbcIeBlocks8 ||| a2dpSbcIeBlocks4,
    a2dpSbcIeSubband8, a2dpSbcIeAllocMdL, a2dpSbcIeMinBitpool, a2dpSbcMaxBitpool,
    btavA2dpCodecBitsPerSample16⟩

/-- `a2dp_sbc_sink_caps`. -/
def a2dpSbcSinkCaps : SbcCie :=
  ⟨a2dpSbcIeSampFreq48 ||| a2dpSbcIeSampFreq44,
    a2dpSbcIeChMdMono ||| a2dpSbcIeChMdStereo ||| a2dpSbcIeChMdJoint ||| a2dpSbcIeChMdDual,
    a2dpSbcIeBlocks16 ||| a2dpSbcIeBlocks12 ||| a2dpSbcIeBlocks8 ||| a2dpSbcIeBlocks4,
    a2dpSbcIeSubband4 ||| a2dpSbcIeSubband8, a2dpSbcIeAllocMdL ||| a2dpSbcIeAllocMdS,
    a2dpSbcIeMinBitpool, a2dpSbcMaxBitpool, btavA2dpCodecBitsPerSample16⟩

/-- `a2dp_sbc_default_config`. -/
def a2dpSbcDefaultConfig : SbcCie :=
  ⟨a2dpSbcIeSampFreq44, a2dpSbcIeChMdJoint, a2dpSbcIeBlocks16, a2dpSbcIeSubband8,
    a2dpSbcIeAllocMdL, a2dpSbcIeMinBitpool, a2dpSbcMaxBitpool, btavA2dpCodecBitsPerSample16⟩

/-- `p_a2dp_sbc_caps`: the source capabilities for a source, the sink ones otherwise. -/
def a2dpSbcCaps (isSource : Bool) : SbcCie :=
  if isSource then a2dpSbcSourceCaps else a2dpSbcSinkCaps

/-! ### `A2DP_BuildInfoSbc` and `A2DP_ParseInfoSbc` -/

/-- The seven octets `A2DP_BuildInfoSbc` stores: the length, the media type in
the high half of an octet, the codec type, and the packed fields. -/
def infoOctets (mediaType : UInt8) (ie : SbcCie) : List UInt8 :=
  [a2dpSbcInfoLen, mediaType <<< 4, a2dpMediaCtSbc, ie.sampFreq ||| ie.chMode,
    ie.blockLen ||| ie.numSubbands ||| ie.allocMethod, ie.minBitpool, ie.maxBitpool]

/-- `A2DP_BuildInfoSbc`: an element with a bit outside a field's mask or a
bitpool range out of order or out of bounds is refused and nothing is stored. -/
def a2dpBuildInfoSbc (mediaType : UInt8) (ie : SbcCie) (result : Vector UInt8 avdtCodecSize) :
    A2dpStatus × Vector UInt8 avdtCodecSize :=
  if ie.sampFreq &&& ~~~a2dpSbcIeSampFreqMsk ≠ 0 ∨ ie.chMode &&& ~~~a2dpSbcIeChMdMsk ≠ 0 ∨
      ie.blockLen &&& ~~~a2dpSbcIeBlocksMsk ≠ 0 ∨ ie.numSubbands &&& ~~~a2dpSbcIeSubbandMsk ≠ 0 ∨
      ie.allocMethod &&& ~~~a2dpSbcIeAllocMdMsk ≠ 0 ∨ ie.minBitpool > ie.maxBitpool ∨
      ie.minBitpool < a2dpSbcIeMinBitpool ∨ ie.minBitpool > a2dpSbcIeMaxBitpool ∨
      ie.maxBitpool < a2dpSbcIeMinBitpool ∨ ie.maxBitpool > a2dpSbcIeMaxBitpool then
    (.invalidParams, result)
  else (.success, writeVector result 0 (infoOctets mediaType ie) (by simp [infoOctets, avdtCodecSize]))

/-- The fields `A2DP_ParseInfoSbc` stores from the octets after the codec type. -/
def readFields (ie : SbcCie) (codecInfo : Vector UInt8 avdtCodecSize) : SbcCie :=
  { ie with
    sampFreq := codecInfo[3] &&& a2dpSbcIeSampFreqMsk
    chMode := codecInfo[3] &&& a2dpSbcIeChMdMsk
    blockLen := codecInfo[4] &&& a2dpSbcIeBlocksMsk
    numSubbands := codecInfo[4] &&& a2dpSbcIeSubbandMsk
    allocMethod := codecInfo[4] &&& a2dpSbcIeAllocMdMsk
    minBitpool := codecInfo[5]
    maxBitpool := codecInfo[6] }

/-- Whether `A2DP_ParseInfoSbc` accepts a selector field: a capability needs a
bit set, a configuration exactly one. -/
def selectorAccepted (isCapability : Bool) (field : UInt8) : Bool :=
  if isCapability then a2dpBitsSet field.toNat != .zeroBit else a2dpBitsSet field.toNat == .oneBit

/-- The selector fields in the order `A2DP_ParseInfoSbc` checks them, each with
the status it fails with. -/
def selectorChecks (ie : SbcCie) : List (UInt8 × A2dpStatus) :=
  [(ie.sampFreq, .badSampFreq), (ie.chMode, .badChMode), (ie.blockLen, .badBlockLen),
    (ie.numSubbands, .badSubbands), (ie.allocMethod, .badAllocMethod)]

/-- The status of the first selector check that fails, `A2DP_SUCCESS` when none does. -/
def checkSelectors (ie : SbcCie) (isCapability : Bool) : A2dpStatus :=
  match (selectorChecks ie).find? (fun check => !selectorAccepted isCapability check.1) with
  | some (_, status) => status
  | none => .success

/-- The checks `A2DP_ParseInfoSbc` makes of the stored fields: the minimum
bitpool, the maximum bitpool, then the selectors. -/
def checkFields (ie : SbcCie) (isCapability : Bool) : A2dpStatus :=
  if ie.minBitpool < a2dpSbcIeMinBitpool ∨ ie.minBitpool > a2dpSbcIeMaxBitpool then .badMinBitpool
  else if ie.maxBitpool < a2dpSbcIeMinBitpool ∨ ie.maxBitpool > a2dpSbcIeMaxBitpool ∨
      ie.maxBitpool < ie.minBitpool then .badMaxBitpool
  else checkSelectors ie isCapability

/-- A codec information buffer has room for its length octet. -/
theorem zero_lt_avdtCodecSize : 0 < avdtCodecSize := by decide

/-- `A2DP_ParseInfoSbc`: the element it leaves in `p_ie` and its status. The
fields are stored before they are checked, so a failed check leaves them. -/
def a2dpParseInfoSbc (ie : SbcCie) (codecInfo : Vector UInt8 avdtCodecSize) (isCapability : Bool) :
    SbcCie × A2dpStatus :=
  if codecInfo.get ⟨0, zero_lt_avdtCodecSize⟩ ≠ a2dpSbcInfoLen then (ie, .wrongCodec)
  else if codecInfo[1] >>> 4 ≠ avdtMediaTypeAudio ∨ codecInfo[2] ≠ a2dpMediaCtSbc then
    (ie, .wrongCodec)
  else (readFields ie codecInfo, checkFields (readFields ie codecInfo) isCapability)

/-- The checks `A2DP_CodecInfoMatchesCapabilitySbc` makes of a parsed element
against the capability `cap`. -/
def matchFields (cap cfgCie : SbcCie) : A2dpStatus :=
  if cfgCie.sampFreq &&& cap.sampFreq = 0 then .nsSampFreq
  else if cfgCie.chMode &&& cap.chMode = 0 then .nsChMode
  else if cfgCie.blockLen &&& cap.blockLen = 0 then .badBlockLen
  else if cfgCie.numSubbands &&& cap.numSubbands = 0 then .nsSubbands
  else if cfgCie.allocMethod &&& cap.allocMethod = 0 then .nsAllocMethod
  else if cfgCie.minBitpool > cap.maxBitpool then .nsMinBitpool
  else if cfgCie.maxBitpool < cap.minBitpool then .nsMaxBitpool
  else .success

/-- `A2DP_CodecInfoMatchesCapabilitySbc`. -/
def a2dpCodecInfoMatchesCapabilitySbc (cap : SbcCie) (codecInfo : Vector UInt8 avdtCodecSize)
    (isCapability : Bool) : A2dpStatus :=
  let parsed := a2dpParseInfoSbc SbcCie.zero codecInfo isCapability
  if parsed.2 ≠ .success then parsed.2 else matchFields cap parsed.1

/-- The liberal check the four `A2DP_Is*CodecValidSbc` functions share: the
information parses as a configuration, or else as a capability. -/
def liberallyValid (codecInfo : Vector UInt8 avdtCodecSize) : Bool :=
  let asConfiguration := a2dpParseInfoSbc SbcCie.zero codecInfo false
  asConfiguration.2 == .success ||
    (a2dpParseInfoSbc asConfiguration.1 codecInfo true).2 == .success

/-- `A2DP_IsPeerSinkCodecValidSbc`. -/
def a2dpIsPeerSinkCodecValidSbc (codecInfo : Vector UInt8 avdtCodecSize) : Bool :=
  liberallyValid codecInfo

/-- `A2DP_IsPeerSourceCodecValidSbc`. -/
def a2dpIsPeerSourceCodecValidSbc (codecInfo : Vector UInt8 avdtCodecSize) : Bool :=
  liberallyValid codecInfo

/-! ### Packing and unpacking -/

/-- An element `A2DP_BuildInfoSbc` accepts: every selector field inside its
mask, and a bitpool range in order and inside the bounds an element may carry. -/
structure SbcCie.WellFormed (ie : SbcCie) : Prop where
  sampFreq : Fits a2dpSbcIeSampFreqMsk ie.sampFreq
  chMode : Fits a2dpSbcIeChMdMsk ie.chMode
  blockLen : Fits a2dpSbcIeBlocksMsk ie.blockLen
  numSubbands : Fits a2dpSbcIeSubbandMsk ie.numSubbands
  allocMethod : Fits a2dpSbcIeAllocMdMsk ie.allocMethod
  ordered : ie.minBitpool ≤ ie.maxBitpool
  minBitpool : a2dpSbcIeMinBitpool ≤ ie.minBitpool
  maxBitpool : ie.maxBitpool ≤ a2dpSbcIeMaxBitpool

/-- The bitpool bounds of a well-formed element, as numbers. -/
theorem SbcCie.WellFormed.bitpools {ie : SbcCie} (wellFormed : ie.WellFormed) :
    2 ≤ ie.minBitpool.toNat ∧ ie.minBitpool.toNat ≤ ie.maxBitpool.toNat ∧
      ie.maxBitpool.toNat ≤ 250 :=
  ⟨UInt8.le_iff_toNat_le.mp wellFormed.minBitpool, UInt8.le_iff_toNat_le.mp wellFormed.ordered,
    UInt8.le_iff_toNat_le.mp wellFormed.maxBitpool⟩

theorem infoOctets_fit (mediaType : UInt8) (ie : SbcCie) :
    0 + (infoOctets mediaType ie).length ≤ avdtCodecSize := by
  simp [infoOctets, avdtCodecSize]

/-- A well-formed element is stored. -/
theorem a2dpBuildInfoSbc_of_wellFormed (mediaType : UInt8) {ie : SbcCie} (wellFormed : ie.WellFormed)
    (result : Vector UInt8 avdtCodecSize) :
    a2dpBuildInfoSbc mediaType ie result =
      (.success, writeVector result 0 (infoOctets mediaType ie) (infoOctets_fit mediaType ie)) := by
  have bounds := wellFormed.bitpools
  unfold a2dpBuildInfoSbc
  rw [if_neg]
  simp only [gt_iff_lt, UInt8.lt_iff_toNat_lt, not_or, not_not]
  exact ⟨wellFormed.sampFreq, wellFormed.chMode, wellFormed.blockLen, wellFormed.numSubbands,
    wellFormed.allocMethod, by simp [a2dpSbcIeMinBitpool, a2dpSbcIeMaxBitpool]; omega⟩

/-- Only a well-formed element is stored. -/
theorem wellFormed_of_a2dpBuildInfoSbc {mediaType : UInt8} {ie : SbcCie}
    {result : Vector UInt8 avdtCodecSize}
    (stored : (a2dpBuildInfoSbc mediaType ie result).1 = .success) : ie.WellFormed := by
  unfold a2dpBuildInfoSbc at stored
  split at stored
  · simp at stored
  · rename_i accepted
    simp only [gt_iff_lt, not_or, not_not, UInt8.not_lt] at accepted
    obtain ⟨sampFreq, chMode, blockLen, numSubbands, allocMethod, ordered, minBitpool, -, -, maxBitpool⟩ :=
      accepted
    exact ⟨sampFreq, chMode, blockLen, numSubbands, allocMethod, ordered, minBitpool, maxBitpool⟩

/-- The fields `A2DP_ParseInfoSbc` stores from a stored element are the element's. -/
theorem readFields_infoOctets {mediaType : UInt8} {ie : SbcCie} (wellFormed : ie.WellFormed)
    (cie : SbcCie) (result : Vector UInt8 avdtCodecSize) :
    readFields cie (writeVector result 0 (infoOctets mediaType ie) (infoOctets_fit mediaType ie)) =
      { ie with bitsPerSample := cie.bitsPerSample } := by
  have disjoint : a2dpSbcIeChMdMsk &&& a2dpSbcIeSampFreqMsk = 0 ∧
      a2dpSbcIeSampFreqMsk &&& a2dpSbcIeChMdMsk = 0 ∧
      a2dpSbcIeSubbandMsk &&& a2dpSbcIeBlocksMsk = 0 ∧ a2dpSbcIeAllocMdMsk &&& a2dpSbcIeBlocksMsk = 0 ∧
      a2dpSbcIeBlocksMsk &&& a2dpSbcIeSubbandMsk = 0 ∧ a2dpSbcIeAllocMdMsk &&& a2dpSbcIeSubbandMsk = 0 ∧
      a2dpSbcIeBlocksMsk &&& a2dpSbcIeAllocMdMsk = 0 ∧ a2dpSbcIeSubbandMsk &&& a2dpSbcIeAllocMdMsk = 0 := by
    decide
  obtain ⟨chSamp, sampCh, subBlocks, allocBlocks, blocksSub, allocSub, blocksAlloc, subAlloc⟩ := disjoint
  simp only [readFields, writeVector, ByteBuffer.writeAt, infoOctets, List.take_zero, List.nil_append,
    Vector.getElem_mk, List.getElem_toArray, List.cons_append, List.getElem_cons_succ,
    List.getElem_cons_zero, and_or_distrib_right, and_mask_of_fits wellFormed.sampFreq,
    and_mask_of_fits wellFormed.chMode, and_mask_of_fits wellFormed.blockLen,
    and_mask_of_fits wellFormed.numSubbands, and_mask_of_fits wellFormed.allocMethod,
    and_eq_zero_of_fits wellFormed.chMode chSamp, and_eq_zero_of_fits wellFormed.sampFreq sampCh,
    and_eq_zero_of_fits wellFormed.numSubbands subBlocks,
    and_eq_zero_of_fits wellFormed.allocMethod allocBlocks,
    and_eq_zero_of_fits wellFormed.blockLen blocksSub, and_eq_zero_of_fits wellFormed.allocMethod allocSub,
    and_eq_zero_of_fits wellFormed.blockLen blocksAlloc,
    and_eq_zero_of_fits wellFormed.numSubbands subAlloc, UInt8.or_zero, UInt8.zero_or]

/-- The bitpool checks pass on a well-formed element, which leaves the selector checks. -/
theorem checkFields_of_wellFormed {ie : SbcCie} (wellFormed : ie.WellFormed) (isCapability : Bool) :
    checkFields ie isCapability = checkSelectors ie isCapability := by
  have bounds := wellFormed.bitpools
  have minimumFine : ¬ (ie.minBitpool < a2dpSbcIeMinBitpool ∨ ie.minBitpool > a2dpSbcIeMaxBitpool) := by
    simp only [gt_iff_lt, UInt8.lt_iff_toNat_lt, a2dpSbcIeMinBitpool, a2dpSbcIeMaxBitpool,
      UInt8.reduceToNat]
    omega
  have maximumFine : ¬ (ie.maxBitpool < a2dpSbcIeMinBitpool ∨ ie.maxBitpool > a2dpSbcIeMaxBitpool ∨
      ie.maxBitpool < ie.minBitpool) := by
    simp only [gt_iff_lt, UInt8.lt_iff_toNat_lt, a2dpSbcIeMinBitpool, a2dpSbcIeMaxBitpool,
      UInt8.reduceToNat]
    omega
  rw [checkFields, if_neg minimumFine, if_neg maximumFine]

/-- `bits_per_sample` is not part of what is packed. -/
theorem SbcCie.WellFormed.withBitsPerSample {ie : SbcCie} (wellFormed : ie.WellFormed)
    (bitsPerSample : Nat) : ({ ie with bitsPerSample } : SbcCie).WellFormed :=
  ⟨wellFormed.sampFreq, wellFormed.chMode, wellFormed.blockLen, wellFormed.numSubbands,
    wellFormed.allocMethod, wellFormed.ordered, wellFormed.minBitpool, wellFormed.maxBitpool⟩

/-- The octets stored for a well-formed element parse back to it, with the
status of its selector checks. -/
theorem a2dpParseInfoSbc_infoOctets {ie : SbcCie} (wellFormed : ie.WellFormed) (cie : SbcCie)
    (result : Vector UInt8 avdtCodecSize) (isCapability : Bool) :
    a2dpParseInfoSbc cie (writeVector result 0 (infoOctets avdtMediaTypeAudio ie)
        (infoOctets_fit avdtMediaTypeAudio ie)) isCapability =
      ({ ie with bitsPerSample := cie.bitsPerSample }, checkSelectors ie isCapability) := by
  have header : ¬ (writeVector result 0 (infoOctets avdtMediaTypeAudio ie)
      (infoOctets_fit avdtMediaTypeAudio ie)).get ⟨0, zero_lt_avdtCodecSize⟩ ≠ a2dpSbcInfoLen ∧
      ¬ ((writeVector result 0 (infoOctets avdtMediaTypeAudio ie)
        (infoOctets_fit avdtMediaTypeAudio ie))[1] >>> 4 ≠ avdtMediaTypeAudio ∨
      (writeVector result 0 (infoOctets avdtMediaTypeAudio ie)
        (infoOctets_fit avdtMediaTypeAudio ie))[2] ≠ a2dpMediaCtSbc) := by
    simp [writeVector, ByteBuffer.writeAt, infoOctets, avdtMediaTypeAudio]
  unfold a2dpParseInfoSbc
  rw [if_neg header.1, if_neg header.2, readFields_infoOctets wellFormed,
    checkFields_of_wellFormed (wellFormed.withBitsPerSample cie.bitsPerSample)]
  rfl

/-- What `A2DP_BuildInfoSbc` stored is well formed and is the stored octets. -/
theorem a2dpBuildInfoSbc_success {ie : SbcCie} {result written : Vector UInt8 avdtCodecSize}
    (stored : a2dpBuildInfoSbc avdtMediaTypeAudio ie result = (.success, written)) :
    ie.WellFormed ∧
      written = writeVector result 0 (infoOctets avdtMediaTypeAudio ie) (infoOctets_fit avdtMediaTypeAudio ie) := by
  have wellFormed := wellFormed_of_a2dpBuildInfoSbc (congrArg Prod.fst stored)
  rw [a2dpBuildInfoSbc_of_wellFormed _ wellFormed, Prod.mk.injEq] at stored
  exact ⟨wellFormed, stored.2.symm⟩

/-- Unpacking a stored element gives it back, with the status of its selector
checks: the header the builder writes for audio is the one the parser wants,
and the bitpool range passed the builder's checks. -/
theorem a2dpParseInfoSbc_build (ie cie : SbcCie) (result written : Vector UInt8 avdtCodecSize)
    (isCapability : Bool) (stored : a2dpBuildInfoSbc avdtMediaTypeAudio ie result = (.success, written)) :
    a2dpParseInfoSbc cie written isCapability =
      ({ ie with bitsPerSample := cie.bitsPerSample }, checkSelectors ie isCapability) := by
  obtain ⟨wellFormed, rfl⟩ := a2dpBuildInfoSbc_success stored
  exact a2dpParseInfoSbc_infoOctets wellFormed cie result isCapability

/-- The default configuration, stored into a zeroed buffer, parses back. -/
theorem a2dpParseInfoSbc_build_defaultConfig :
    a2dpBuildInfoSbc avdtMediaTypeAudio a2dpSbcDefaultConfig (Vector.replicate avdtCodecSize 0) =
        (.success, (a2dpBuildInfoSbc avdtMediaTypeAudio a2dpSbcDefaultConfig
          (Vector.replicate avdtCodecSize 0)).2) ∧
      a2dpParseInfoSbc SbcCie.zero (a2dpBuildInfoSbc avdtMediaTypeAudio a2dpSbcDefaultConfig
          (Vector.replicate avdtCodecSize 0)).2 false =
        ({ a2dpSbcDefaultConfig with bitsPerSample := 0 }, checkSelectors a2dpSbcDefaultConfig false) := by
  have stored : a2dpBuildInfoSbc avdtMediaTypeAudio a2dpSbcDefaultConfig (Vector.replicate avdtCodecSize 0) =
      (.success, (a2dpBuildInfoSbc avdtMediaTypeAudio a2dpSbcDefaultConfig
        (Vector.replicate avdtCodecSize 0)).2) := Prod.ext (by decide) rfl
  exact ⟨stored, a2dpParseInfoSbc_build _ _ _ _ false stored⟩

/-- What an accepted parse says: the header octets were right, the element is
the stored fields, and their checks passed. -/
theorem a2dpParseInfoSbc_success {cie ie : SbcCie} {codecInfo : Vector UInt8 avdtCodecSize}
    {isCapability : Bool} (accepted : a2dpParseInfoSbc cie codecInfo isCapability = (ie, .success)) :
    codecInfo.get ⟨0, zero_lt_avdtCodecSize⟩ = a2dpSbcInfoLen ∧ codecInfo[1] >>> 4 = avdtMediaTypeAudio ∧
      codecInfo[2] = a2dpMediaCtSbc ∧ ie = readFields cie codecInfo ∧
      checkFields (readFields cie codecInfo) isCapability = .success := by
  unfold a2dpParseInfoSbc at accepted
  split at accepted
  · simp at accepted
  · rename_i length
    split at accepted
    · simp at accepted
    · rename_i header
      rw [Prod.mk.injEq] at accepted
      simp only [not_or, not_not] at length header
      exact ⟨length, header.1, header.2, accepted.1.symm, accepted.2⟩

/-- Passed bitpool checks, as order facts, and the selector checks that follow them. -/
theorem checkFields_success {ie : SbcCie} {isCapability : Bool}
    (checked : checkFields ie isCapability = .success) :
    a2dpSbcIeMinBitpool ≤ ie.minBitpool ∧ ie.minBitpool ≤ ie.maxBitpool ∧
      ie.maxBitpool ≤ a2dpSbcIeMaxBitpool ∧ checkSelectors ie isCapability = .success := by
  unfold checkFields at checked
  split at checked
  · simp at checked
  · rename_i minimumFine
    split at checked
    · simp at checked
    · rename_i maximumFine
      simp only [gt_iff_lt, not_or, UInt8.not_lt] at minimumFine maximumFine
      exact ⟨minimumFine.1, maximumFine.2.2, maximumFine.2.1, checked⟩

/-- What the parser accepts, the builder accepts: the stored fields are masked
and the bitpool range passed the same checks. -/
theorem wellFormed_of_a2dpParseInfoSbc {cie ie : SbcCie} {codecInfo : Vector UInt8 avdtCodecSize}
    {isCapability : Bool} (accepted : a2dpParseInfoSbc cie codecInfo isCapability = (ie, .success)) :
    ie.WellFormed := by
  obtain ⟨-, -, -, rfl, checked⟩ := a2dpParseInfoSbc_success accepted
  obtain ⟨minBitpool, ordered, maxBitpool, -⟩ := checkFields_success checked
  exact ⟨fits_and_mask _ _, fits_and_mask _ _, fits_and_mask _ _, fits_and_mask _ _,
    fits_and_mask _ _, ordered, minBitpool, maxBitpool⟩

/-- The first seven cells of a codec information buffer. -/
theorem take_seven {α : Type} (codecInfo : Vector α avdtCodecSize) :
    codecInfo.toList.take 7 =
      [codecInfo[0], codecInfo[1], codecInfo[2], codecInfo[3], codecInfo[4], codecInfo[5], codecInfo[6]] := by
  apply List.ext_getElem
  · rw [List.length_take, Vector.length_toList]
    rfl
  · intro index inTake inList
    have small : index < 7 := by simpa using inList
    simp only [List.getElem_take, Vector.getElem_toList]
    interval_cases index <;> rfl

/-- Masking an octet with masks that together cover it, and or-ing the parts,
gives the octet back. -/
theorem and_or_and_of_covers {x first second : UInt8} (covers : ~~~(first ||| second) = 0) :
    x &&& first ||| x &&& second = x := by
  rw [← and_or_distrib_left]
  apply and_mask_of_fits
  unfold Fits
  rw [covers, UInt8.and_zero]

/-- Packing an accepted element gives back the octets it was read from, but
for the low half of the media-type octet, which the parser ignores and the
builder clears. -/
theorem a2dpBuildInfoSbc_parse (cie ie : SbcCie) (codecInfo result : Vector UInt8 avdtCodecSize)
    (isCapability : Bool) (accepted : a2dpParseInfoSbc cie codecInfo isCapability = (ie, .success)) :
    ∃ written, a2dpBuildInfoSbc avdtMediaTypeAudio ie result = (.success, written) ∧
      window written.toList 0 7 = (window codecInfo.toList 0 7).set 1 0 := by
  have wellFormed := wellFormed_of_a2dpParseInfoSbc accepted
  obtain ⟨length, -, codecType, rfl, -⟩ := a2dpParseInfoSbc_success accepted
  refine ⟨_, a2dpBuildInfoSbc_of_wellFormed _ wellFormed result, ?_⟩
  have readBack := ByteBuffer.window_writeVector_self result 0
    (infoOctets avdtMediaTypeAudio (readFields cie codecInfo)) (infoOctets_fit _ _)
  rw [show (infoOctets avdtMediaTypeAudio (readFields cie codecInfo)).length = 7 from rfl] at readBack
  have firstOctets : window codecInfo.toList 0 7 = codecInfo.toList.take 7 := by
    simp [window]
  rw [readBack, firstOctets, take_seven]
  simp only [infoOctets, readFields, List.set_cons_succ, List.set_cons_zero, List.cons.injEq]
  refine ⟨length.symm, rfl, codecType.symm, and_or_and_of_covers (by decide), ?_, trivial⟩
  rw [← and_or_distrib_left, and_or_and_of_covers (by decide)]

/-- The stored default configuration, parsed and stored again. -/
theorem a2dpBuildInfoSbc_parse_defaultConfig :
    a2dpParseInfoSbc SbcCie.zero (a2dpBuildInfoSbc avdtMediaTypeAudio a2dpSbcDefaultConfig
        (Vector.replicate avdtCodecSize 0)).2 false =
        ({ a2dpSbcDefaultConfig with bitsPerSample := 0 }, .success) ∧
      ∃ written, a2dpBuildInfoSbc avdtMediaTypeAudio { a2dpSbcDefaultConfig with bitsPerSample := 0 }
          (Vector.replicate avdtCodecSize 7) = (.success, written) ∧
        window written.toList 0 7 = (window (a2dpBuildInfoSbc avdtMediaTypeAudio a2dpSbcDefaultConfig
          (Vector.replicate avdtCodecSize 0)).2.toList 0 7).set 1 0 := by
  have accepted : a2dpParseInfoSbc SbcCie.zero (a2dpBuildInfoSbc avdtMediaTypeAudio a2dpSbcDefaultConfig
      (Vector.replicate avdtCodecSize 0)).2 false = ({ a2dpSbcDefaultConfig with bitsPerSample := 0 }, .success) := by
    decide
  exact ⟨accepted, a2dpBuildInfoSbc_parse _ _ _ (Vector.replicate avdtCodecSize 7) false accepted⟩

/-! ### The codec object and the selection helpers -/

/-- `btav_a2dp_codec_config_t`, the fields `setCodecConfig` reads and writes. -/
structure CodecConfig where
  sampleRate : Nat
  bitsPerSample : Nat
  channelMode : Nat
  codecSpecific1 : Int
  codecSpecific2 : Int
  codecSpecific3 : Int
  codecSpecific4 : Int
  deriving DecidableEq, Repr

/-- The state of an `A2dpCodecConfigSbcBase` that `setCodecConfig` reads and writes. -/
structure SbcCodec where
  isSource : Bool
  codecConfig : CodecConfig
  codecCapability : CodecConfig
  codecSelectableCapability : CodecConfig
  codecUserConfig : CodecConfig
  codecAudioConfig : CodecConfig
  otaCodecConfig : Vector UInt8 avdtCodecSize
  otaCodecPeerCapability : Vector UInt8 avdtCodecSize
  otaCodecPeerConfig : Vector UInt8 avdtCodecSize

/-- The three configurations the field choices of `setCodecConfig` rewrite. -/
structure CodecConfigs where
  codecConfig : CodecConfig
  codecCapability : CodecConfig
  codecSelectableCapability : CodecConfig

/-- The sampling frequencies `select_best_sample_rate` tries, in its order,
each with its `btav_a2dp_codec_sample_rate_t`. -/
def bestSampleRates : List (UInt8 × Nat) :=
  [(a2dpSbcIeSampFreq48, btavA2dpCodecSampleRate48000), (a2dpSbcIeSampFreq44, btavA2dpCodecSampleRate44100)]

/-- `select_best_sample_rate`: the chosen field bit and sample rate. -/
def selectBestSampleRate (sampFreq : UInt8) : Option (UInt8 × Nat) :=
  firstMatch Prod.fst bestSampleRates sampFreq

/-- `select_audio_sample_rate`: the audio configuration's rate, when `sampFreq` has it. -/
def selectAudioSampleRate (codecAudioConfig : CodecConfig) (sampFreq : UInt8) : Option (UInt8 × Nat) :=
  if codecAudioConfig.sampleRate = btavA2dpCodecSampleRate44100 then
    firstMatch Prod.fst [(a2dpSbcIeSampFreq44, btavA2dpCodecSampleRate44100)] sampFreq
  else if codecAudioConfig.sampleRate = btavA2dpCodecSampleRate48000 then
    firstMatch Prod.fst [(a2dpSbcIeSampFreq48, btavA2dpCodecSampleRate48000)] sampFreq
  else none

/-- `select_best_bits_per_sample`. -/
def selectBestBitsPerSample : Option Nat := some btavA2dpCodecBitsPerSample16

/-- `select_audio_bits_per_sample`. -/
def selectAudioBitsPerSample (codecAudioConfig : CodecConfig) : Option Nat :=
  if codecAudioConfig.bitsPerSample = btavA2dpCodecBitsPerSample16 then some btavA2dpCodecBitsPerSample16
  else none

/-- The channel modes `select_best_channel_mode` tries, in its order, each with
its `btav_a2dp_codec_channel_mode_t`. -/
def bestChannelModes : List (UInt8 × Nat) :=
  [(a2dpSbcIeChMdJoint, btavA2dpCodecChannelModeStereo), (a2dpSbcIeChMdStereo, btavA2dpCodecChannelModeStereo),
    (a2dpSbcIeChMdDual, btavA2dpCodecChannelModeStereo), (a2dpSbcIeChMdMono, btavA2dpCodecChannelModeMono)]

/-- `select_best_channel_mode`. -/
def selectBestChannelMode (chMode : UInt8) : Option (UInt8 × Nat) :=
  firstMatch Prod.fst bestChannelModes chMode

/-- `select_audio_channel_mode`: mono, or the first of joint stereo, stereo and
dual channel for stereo. -/
def selectAudioChannelMode (codecAudioConfig : CodecConfig) (chMode : UInt8) : Option (UInt8 × Nat) :=
  if codecAudioConfig.channelMode = btavA2dpCodecChannelModeMono then
    firstMatch Prod.fst [(a2dpSbcIeChMdMono, btavA2dpCodecChannelModeMono)] chMode
  else if codecAudioConfig.channelMode = btavA2dpCodecChannelModeStereo then
    firstMatch Prod.fst (bestChannelModes.take 3) chMode
  else none

theorem selectAudioSampleRate_some {codecAudioConfig : CodecConfig} {sampFreq : UInt8}
    {choice : UInt8 × Nat} (selected : selectAudioSampleRate codecAudioConfig sampFreq = some choice) :
    choice ∈ bestSampleRates ∧ sampFreq &&& choice.1 ≠ 0 ∧ choice.2 = codecAudioConfig.sampleRate := by
  unfold selectAudioSampleRate at selected
  split at selected
  · rename_i rate
    obtain ⟨rfl, meets⟩ := firstMatch_singleton selected
    exact ⟨by simp [bestSampleRates], meets, rate.symm⟩
  · split at selected
    · rename_i rate
      obtain ⟨rfl, meets⟩ := firstMatch_singleton selected
      exact ⟨by simp [bestSampleRates], meets, rate.symm⟩
    · simp at selected

theorem selectAudioChannelMode_some {codecAudioConfig : CodecConfig} {chMode : UInt8}
    {choice : UInt8 × Nat} (selected : selectAudioChannelMode codecAudioConfig chMode = some choice) :
    choice ∈ bestChannelModes ∧ chMode &&& choice.1 ≠ 0 ∧ choice.2 = codecAudioConfig.channelMode := by
  unfold selectAudioChannelMode at selected
  split at selected
  · rename_i mono
    obtain ⟨rfl, meets⟩ := firstMatch_singleton selected
    exact ⟨by simp [bestChannelModes], meets, mono.symm⟩
  · split at selected
    · rename_i stereo
      obtain ⟨member, meets⟩ := firstMatch_some selected
      have allStereo : ∀ candidate ∈ bestChannelModes.take 3,
          candidate.2 = btavA2dpCodecChannelModeStereo := by decide
      exact ⟨List.mem_of_mem_take member, meets, (allStereo choice member).trans stereo.symm⟩
    · simp at selected

/-! ### The choices of `setCodecConfig` -/

/-- What the sample-rate and the channel-mode blocks of `setCodecConfig` differ
in: the field of a codec configuration and of an element they choose, the
default configuration's field, the user's values that clear it, the
`select_audio_*` choice, the values the `select_best_*` scan tries in order,
and how the selectable and the common capability are computed. Every `NONE`
of `bt_av.h` is zero. The laws are what the choice code guarantees: the audio
choice is one of the scanned values that the set has, with the configuration's
value, and no scanned value is `NONE`. -/
structure FieldChoice where
  get : CodecConfig → Nat
  set : CodecConfig → Nat → CodecConfig
  setField : SbcCie → UInt8 → SbcCie
  defaultField : UInt8
  clears : Nat → Bool
  selectAudio : CodecConfig → UInt8 → Option (UInt8 × Nat)
  best : List (UInt8 × Nat)
  addSelectable : UInt8 → Nat → Nat
  addCommon : UInt8 → Nat → Nat
  get_set : ∀ config value, get (set config value) = value
  selectAudio_some : ∀ config available choice, selectAudio config available = some choice →
    choice ∈ best ∧ available &&& choice.1 ≠ 0 ∧ choice.2 = get config
  best_ne_none : ∀ choice ∈ best, choice.2 ≠ 0

namespace FieldChoice

/-- The `switch` on the user's value: taken when both sides have it, and the
field cleared for a value SBC cannot use. -/
def prefer (field : FieldChoice) (available : UInt8) (user : CodecConfig) (configs : CodecConfigs)
    (result : SbcCie) : CodecConfigs × SbcCie :=
  match field.selectAudio user available with
  | some (bit, _) =>
    ({ configs with
        codecCapability := field.set configs.codecCapability (field.get user)
        codecConfig := field.set configs.codecConfig (field.get user) },
      field.setField result bit)
  | none =>
    if field.clears (field.get user) then
      ({ configs with
          codecCapability := field.set configs.codecCapability 0
          codecConfig := field.set configs.codecConfig 0 }, result)
    else (configs, result)

/-- The rest of the `do { } while (false)` when the user's value was not taken:
the common capability, then the audio configuration's value, the default
configuration's and the best common one. -/
def fallback (field : FieldChoice) (available peerField : UInt8) (audio : CodecConfig)
    (configs : CodecConfigs) (result : SbcCie) : CodecConfigs × SbcCie :=
  let configs := { configs with
    codecCapability := field.set configs.codecCapability
      (field.addCommon available (field.get configs.codecCapability)) }
  match field.selectAudio audio available <|>
      firstMatch Prod.fst field.best (field.defaultField &&& peerField) <|>
      firstMatch Prod.fst field.best available with
  | some (bit, value) => ({ configs with codecConfig := field.set configs.codecConfig value },
      field.setField result bit)
  | none => (configs, result)

/-- One choice block of `setCodecConfig` over the values both sides have,
`available`: the field is cleared, the `switch` on the user's value, the
selectable capability, the fallback unless the user's value was taken, and
`goto fail` (`none`) if the field is still unset. -/
def select (field : FieldChoice) (available peerField : UInt8) (user audio : CodecConfig)
    (configs : CodecConfigs) (result : SbcCie) : Option (CodecConfigs × SbcCie) :=
  let preferred := field.prefer available user
    { configs with codecConfig := field.set configs.codecConfig 0 } result
  let configs := { preferred.1 with
    codecSelectableCapability := field.set preferred.1.codecSelectableCapability
      (field.addSelectable available (field.get preferred.1.codecSelectableCapability)) }
  let chosen : CodecConfigs × SbcCie :=
    if field.get configs.codecConfig ≠ 0 then (configs, preferred.2)
    else field.fallback available peerField audio configs preferred.2
  if field.get chosen.1.codecConfig = 0 then none else some chosen

section Laws

variable (field : FieldChoice) (available peerField : UInt8) (user audio : CodecConfig)
  (configs : CodecConfigs) (result : SbcCie)

/-- After the `switch`, either the user's value was taken, a scanned value both
sides have, or the field is still unset and the element untouched. -/
theorem prefer_cases (cleared : field.get configs.codecConfig = 0) :
    (∃ choice ∈ field.best, available &&& choice.1 ≠ 0 ∧
        field.get (field.prefer available user configs result).1.codecConfig ≠ 0 ∧
        (field.prefer available user configs result).2 = field.setField result choice.1) ∨
      (field.get (field.prefer available user configs result).1.codecConfig = 0 ∧
        (field.prefer available user configs result).2 = result) := by
  unfold prefer
  cases taken : field.selectAudio user available with
  | some choice =>
    obtain ⟨member, meets, same⟩ := field.selectAudio_some user available choice taken
    left
    refine ⟨choice, member, meets, ?_, rfl⟩
    rw [field.get_set, ← same]
    exact field.best_ne_none choice member
  | none =>
    right
    by_cases clearing : field.clears (field.get user) = true
    · simp only [clearing, if_true, field.get_set, and_self]
    · simp only [clearing, Bool.false_eq_true, if_false, cleared, and_self]

/-- The fallback either sets a scanned value that both sides have, or that the
default configuration and the peer have, or finds nothing, in which case the
best-match scan over what both sides have found nothing either. -/
theorem fallback_cases :
    (∃ choice ∈ field.best,
        (available &&& choice.1 ≠ 0 ∨ field.defaultField &&& peerField &&& choice.1 ≠ 0) ∧
        field.get (field.fallback available peerField audio configs result).1.codecConfig ≠ 0 ∧
        (field.fallback available peerField audio configs result).2 = field.setField result choice.1) ∨
      (firstMatch Prod.fst field.best available = none ∧
        (field.fallback available peerField audio configs result).1.codecConfig = configs.codecConfig ∧
        (field.fallback available peerField audio configs result).2 = result) := by
  unfold fallback
  cases found : (field.selectAudio audio available <|>
      firstMatch Prod.fst field.best (field.defaultField &&& peerField) <|>
      firstMatch Prod.fst field.best available) with
  | some choice =>
    have origin : choice ∈ field.best ∧
        (available &&& choice.1 ≠ 0 ∨ field.defaultField &&& peerField &&& choice.1 ≠ 0) := by
      rcases (Option.orElse_eq_some _ _ _).mp found with fromAudio | ⟨-, rest⟩
      · obtain ⟨member, meets, -⟩ := field.selectAudio_some audio available choice fromAudio
        exact ⟨member, .inl meets⟩
      · rcases (Option.orElse_eq_some _ _ _).mp rest with fromDefault | ⟨-, fromBest⟩
        · obtain ⟨member, meets⟩ := firstMatch_some fromDefault
          exact ⟨member, .inr meets⟩
        · obtain ⟨member, meets⟩ := firstMatch_some fromBest
          exact ⟨member, .inl meets⟩
    left
    refine ⟨choice, origin.1, origin.2, ?_, rfl⟩
    rw [field.get_set]
    exact field.best_ne_none choice origin.1
  | none =>
    right
    rw [Option.orElse_eq_none, Option.orElse_eq_none] at found
    exact ⟨found.2.2, rfl, rfl⟩

/-- A chosen field is a scanned value that both sides have, or that the
default configuration and the peer have. -/
theorem select_some {chosenConfigs : CodecConfigs} {chosen : SbcCie}
    (selected : field.select available peerField user audio configs result = some (chosenConfigs, chosen)) :
    ∃ choice ∈ field.best,
      (available &&& choice.1 ≠ 0 ∨ field.defaultField &&& peerField &&& choice.1 ≠ 0) ∧
        chosen = field.setField result choice.1 := by
  unfold select at selected
  dsimp only at selected
  rcases field.prefer_cases available user { configs with codecConfig := field.set configs.codecConfig 0 }
      result (field.get_set _ _) with ⟨choice, member, meets, taken, preferred⟩ | ⟨passed, preferred⟩
  · rw [if_pos taken, if_neg taken, Option.some.injEq, Prod.mk.injEq, preferred] at selected
    exact ⟨choice, member, .inl meets, selected.2.symm⟩
  · rw [if_neg (not_not.mpr passed), preferred] at selected
    rcases field.fallback_cases available peerField audio _ result with
      ⟨choice, member, meets, -, found⟩ | ⟨-, unchanged, -⟩
    · split at selected
      · simp at selected
      · rw [Option.some.injEq, Prod.ext_iff, found] at selected
        exact ⟨choice, member, meets, selected.2.symm⟩
    · rw [unchanged, if_pos passed] at selected
      simp at selected

/-- A block whose best-match scan over what both sides have finds a value
does not fail. -/
theorem select_isSome (found : (firstMatch Prod.fst field.best available).isSome) :
    (field.select available peerField user audio configs result).isSome := by
  unfold select
  dsimp only
  rcases field.prefer_cases available user { configs with codecConfig := field.set configs.codecConfig 0 }
      result (field.get_set _ _) with ⟨-, -, -, taken, -⟩ | ⟨passed, preferred⟩
  · rw [if_pos taken, if_neg taken]
    rfl
  · rw [if_neg (not_not.mpr passed), preferred]
    rcases field.fallback_cases available peerField audio _ result with
      ⟨-, -, -, set, -⟩ | ⟨missed, -, -⟩
    · rw [if_neg set]
      rfl
    · rw [missed] at found
      exact absurd found (by simp)

end Laws

end FieldChoice

/-- The sample rates of `sampFreq` or-ed into `rates`, as `setCodecConfig`
computes the selectable and the common capability. -/
def addSampleRates (sampFreq : UInt8) (rates : Nat) : Nat :=
  let rates := if sampFreq &&& a2dpSbcIeSampFreq44 ≠ 0 then rates ||| btavA2dpCodecSampleRate44100 else rates
  if sampFreq &&& a2dpSbcIeSampFreq48 ≠ 0 then rates ||| btavA2dpCodecSampleRate48000 else rates

/-- The sample-rate field: the `switch` on the user's rate matches as
`select_audio_sample_rate` and clears the rates SBC cannot use. -/
def sampleRateChoice : FieldChoice where
  get config := config.sampleRate
  set config value := { config with sampleRate := value }
  setField ie bit := { ie with sampFreq := bit }
  defaultField := a2dpSbcDefaultConfig.sampFreq
  clears value := value ∈ otherSampleRates
  selectAudio := selectAudioSampleRate
  best := bestSampleRates
  addSelectable := addSampleRates
  addCommon := addSampleRates
  get_set _ _ := rfl
  selectAudio_some _ _ _ selected := selectAudioSampleRate_some selected
  best_ne_none := by decide

/-- The sample-rate block of `setCodecConfig`. -/
def selectSampleRate (caps peer : SbcCie) (user audio : CodecConfig) (configs : CodecConfigs)
    (result : SbcCie) : Option (CodecConfigs × SbcCie) :=
  sampleRateChoice.select (caps.sampFreq &&& peer.sampFreq) peer.sampFreq user audio configs result

/-- The bits-per-sample block of `setCodecConfig`: 16 bits from the user, the
audio configuration or the best choice. -/
def selectBitsPerSample (caps : SbcCie) (user audio : CodecConfig) (configs : CodecConfigs) :
    Option CodecConfigs :=
  let configs := { configs with codecConfig.bitsPerSample := btavA2dpCodecBitsPerSampleNone }
  let configs :=
    if user.bitsPerSample = btavA2dpCodecBitsPerSample16 then
      { configs with
          codecCapability.bitsPerSample := user.bitsPerSample
          codecConfig.bitsPerSample := user.bitsPerSample }
    else if user.bitsPerSample = btavA2dpCodecBitsPerSample24 ∨
        user.bitsPerSample = btavA2dpCodecBitsPerSample32 ∨
        user.bitsPerSample = btavA2dpCodecBitsPerSampleNone then
      { configs with
          codecCapability.bitsPerSample := btavA2dpCodecBitsPerSampleNone
          codecConfig.bitsPerSample := btavA2dpCodecBitsPerSampleNone }
    else configs
  let configs := { configs with codecSelectableCapability.bitsPerSample := caps.bitsPerSample }
  let configs :=
    if configs.codecConfig.bitsPerSample ≠ btavA2dpCodecBitsPerSampleNone then configs
    else
      let configs := { configs with codecCapability.bitsPerSample := btavA2dpCodecBitsPerSample16 }
      match selectAudioBitsPerSample audio <|> selectBestBitsPerSample <|> selectBestBitsPerSample with
      | some bits => { configs with codecConfig.bitsPerSample := bits }
      | none => configs
  if configs.codecConfig.bitsPerSample = btavA2dpCodecBitsPerSampleNone then none else some configs

/-- The channel modes of `chMode` or-ed into the selectable capability. -/
def addSelectableChannelModes (chMode : UInt8) (modes : Nat) : Nat :=
  let modes := if chMode &&& a2dpSbcIeChMdMono ≠ 0 then modes ||| btavA2dpCodecChannelModeMono else modes
  let modes := if chMode &&& a2dpSbcIeChMdJoint ≠ 0 then modes ||| btavA2dpCodecChannelModeStereo else modes
  let modes := if chMode &&& a2dpSbcIeChMdStereo ≠ 0 then modes ||| btavA2dpCodecChannelModeStereo else modes
  if chMode &&& a2dpSbcIeChMdDual ≠ 0 then modes ||| btavA2dpCodecChannelModeStereo else modes

/-- The channel modes of `chMode` or-ed into the common capability. -/
def addCommonChannelModes (chMode : UInt8) (modes : Nat) : Nat :=
  let modes := if chMode &&& a2dpSbcIeChMdMono ≠ 0 then modes ||| btavA2dpCodecChannelModeMono else modes
  if chMode &&& (a2dpSbcIeChMdJoint ||| a2dpSbcIeChMdStereo ||| a2dpSbcIeChMdDual) ≠ 0 then
    modes ||| btavA2dpCodecChannelModeStereo
  else modes

/-- The channel-mode field: the `switch` on the user's mode matches as
`select_audio_channel_mode` and clears the mode for none. -/
def channelModeChoice : FieldChoice where
  get config := config.channelMode
  set config value := { config with channelMode := value }
  setField ie bit := { ie with chMode := bit }
  defaultField := a2dpSbcDefaultConfig.chMode
  clears value := value = btavA2dpCodecChannelModeNone
  selectAudio := selectAudioChannelMode
  best := bestChannelModes
  addSelectable := addSelectableChannelModes
  addCommon := addCommonChannelModes
  get_set _ _ := rfl
  selectAudio_some _ _ _ selected := selectAudioChannelMode_some selected
  best_ne_none := by decide

/-- The channel-mode block of `setCodecConfig`. -/
def selectChannelMode (caps peer : SbcCie) (user audio : CodecConfig) (configs : CodecConfigs)
    (result : SbcCie) : Option (CodecConfigs × SbcCie) :=
  channelModeChoice.select (caps.chMode &&& peer.chMode) peer.chMode user audio configs result

/-- The block lengths `setCodecConfig` tries, longest first. -/
def blockLens : List UInt8 := [a2dpSbcIeBlocks16, a2dpSbcIeBlocks12, a2dpSbcIeBlocks8, a2dpSbcIeBlocks4]

/-- The subband counts `setCodecConfig` tries, eight first. -/
def subbandCounts : List UInt8 := [a2dpSbcIeSubband8, a2dpSbcIeSubband4]

/-- The allocation methods `setCodecConfig` tries, loudness first. -/
def allocMethods : List UInt8 := [a2dpSbcIeAllocMdL, a2dpSbcIeAllocMdS]

/-- The first of `choices` that both the local field and the peer's have: the
block-length, subband and allocation blocks of `setCodecConfig`. -/
def selectCommon (choices : List UInt8) (ours theirs : UInt8) : Option UInt8 :=
  firstMatch id choices (ours &&& theirs)

/-- The block-length block of `setCodecConfig`. -/
def selectBlockLen (caps peer : SbcCie) : Option UInt8 :=
  selectCommon blockLens caps.blockLen peer.blockLen

/-- The subband block of `setCodecConfig`. -/
def selectNumSubbands (caps peer : SbcCie) : Option UInt8 :=
  selectCommon subbandCounts caps.numSubbands peer.numSubbands

/-- The allocation-method block of `setCodecConfig`. -/
def selectAllocMethod (caps peer : SbcCie) : Option UInt8 :=
  selectCommon allocMethods caps.allocMethod peer.allocMethod

/-- The bitpool block of `setCodecConfig`: the larger minimum and the smaller
maximum, refused when they cross. -/
def selectBitpool (caps peer result : SbcCie) : Option SbcCie :=
  let minBitpool := if caps.minBitpool < peer.minBitpool then peer.minBitpool else caps.minBitpool
  let maxBitpool := if caps.maxBitpool > peer.maxBitpool then peer.maxBitpool else caps.maxBitpool
  if minBitpool > maxBitpool then none else some { result with minBitpool, maxBitpool }

/-- The field choices of `setCodecConfig`, in the code's order, from a zeroed
`result_config_cie`. -/
def selectConfig (caps peer : SbcCie) (user audio : CodecConfig) (configs : CodecConfigs) :
    Option (CodecConfigs × SbcCie) := do
  let rate ← selectSampleRate caps peer user audio configs SbcCie.zero
  let configs ← selectBitsPerSample caps user audio rate.1
  let mode ← selectChannelMode caps peer user audio configs rate.2
  let blockLen ← selectBlockLen caps peer
  let numSubbands ← selectNumSubbands caps peer
  let allocMethod ← selectAllocMethod caps peer
  let result ← selectBitpool caps peer { mode.2 with blockLen, numSubbands, allocMethod }
  return (mode.1, result)

/-! ### What the choices guarantee -/

/-- The bits-per-sample block never fails: 16 bits come from the user, the
audio configuration or the best choice. -/
theorem selectBitsPerSample_isSome (caps : SbcCie) (user audio : CodecConfig) (configs : CodecConfigs) :
    (selectBitsPerSample caps user audio configs).isSome := by
  have sixteen : (selectAudioBitsPerSample audio <|> selectBestBitsPerSample <|> selectBestBitsPerSample) =
      some btavA2dpCodecBitsPerSample16 := by
    unfold selectAudioBitsPerSample selectBestBitsPerSample
    split <;> rfl
  unfold selectBitsPerSample
  simp only [sixteen]
  split_ifs <;> simp_all [btavA2dpCodecBitsPerSample16, btavA2dpCodecBitsPerSampleNone]

theorem selectCommon_some {choices : List UInt8} {ours theirs bit : UInt8}
    (selected : selectCommon choices ours theirs = some bit) : bit ∈ choices ∧ ours &&& theirs &&& bit ≠ 0 :=
  firstMatch_some selected

/-- A scan over values that cover the local field finds one exactly when both
sides share a value. -/
theorem selectCommon_isSome_iff {choices : List UInt8} {ours : UInt8} (fits : Fits (union choices) ours)
    (theirs : UInt8) : (selectCommon choices ours theirs).isSome ↔ ours &&& theirs ≠ 0 := by
  constructor
  · intro found disjoint
    obtain ⟨bit, selected⟩ := Option.isSome_iff_exists.mp found
    apply (selectCommon_some selected).2
    rw [disjoint, UInt8.zero_and]
  · intro meets
    apply firstMatch_isSome _ meets
    rw [List.map_id]
    exact fits_and_of_fits fits theirs

/-- The bitpool block keeps the element but for the two bitpools, which lie in
both ranges. -/
theorem selectBitpool_some {caps peer result chosen : SbcCie}
    (selected : selectBitpool caps peer result = some chosen) :
    chosen = { result with minBitpool := chosen.minBitpool, maxBitpool := chosen.maxBitpool } ∧
      caps.minBitpool ≤ chosen.minBitpool ∧ peer.minBitpool ≤ chosen.minBitpool ∧
      chosen.minBitpool ≤ chosen.maxBitpool ∧ chosen.maxBitpool ≤ caps.maxBitpool ∧
      chosen.maxBitpool ≤ peer.maxBitpool := by
  unfold selectBitpool at selected
  dsimp only at selected
  generalize larger : (if caps.minBitpool < peer.minBitpool then peer.minBitpool else caps.minBitpool) =
    low at selected
  generalize smaller : (if caps.maxBitpool > peer.maxBitpool then peer.maxBitpool else caps.maxBitpool) =
    high at selected
  have lowBounds : caps.minBitpool ≤ low ∧ peer.minBitpool ≤ low := by
    rw [← larger]
    simp only [UInt8.le_iff_toNat_le, UInt8.lt_iff_toNat_lt]
    split_ifs <;> omega
  have highBounds : high ≤ caps.maxBitpool ∧ high ≤ peer.maxBitpool := by
    rw [← smaller]
    simp only [gt_iff_lt, UInt8.le_iff_toNat_le, UInt8.lt_iff_toNat_lt]
    split_ifs <;> omega
  split at selected
  · simp at selected
  · rename_i ordered
    rw [Option.some.injEq] at selected
    subst selected
    exact ⟨rfl, lowBounds.1, lowBounds.2, UInt8.not_lt.mp ordered, highBounds.1, highBounds.2⟩

/-- Between two non-empty ranges the bitpool block fails exactly when they do not meet. -/
theorem selectBitpool_isSome_iff {caps peer : SbcCie} (capsOrdered : caps.minBitpool ≤ caps.maxBitpool)
    (peerOrdered : peer.minBitpool ≤ peer.maxBitpool) (result : SbcCie) :
    (selectBitpool caps peer result).isSome ↔
      caps.minBitpool ≤ peer.maxBitpool ∧ peer.minBitpool ≤ caps.maxBitpool := by
  unfold selectBitpool
  dsimp only
  simp only [gt_iff_lt, UInt8.le_iff_toNat_le, UInt8.lt_iff_toNat_lt] at capsOrdered peerOrdered ⊢
  split_ifs <;> simp <;> omega

/-- What the choice code needs of the local capabilities: every selector
field among the values its scans try, the default configuration's sampling
frequency and channel mode among the local ones, and a bitpool range in
order and inside the bounds an element may carry. -/
structure CapsShape (caps : SbcCie) : Prop where
  sampFreq : Fits (union (bestSampleRates.map Prod.fst)) caps.sampFreq
  defaultSampFreq : Fits caps.sampFreq a2dpSbcDefaultConfig.sampFreq
  chMode : Fits (union (bestChannelModes.map Prod.fst)) caps.chMode
  defaultChMode : Fits caps.chMode a2dpSbcDefaultConfig.chMode
  blockLen : Fits (union blockLens) caps.blockLen
  numSubbands : Fits (union subbandCounts) caps.numSubbands
  allocMethod : Fits (union allocMethods) caps.allocMethod
  ordered : caps.minBitpool ≤ caps.maxBitpool
  minBitpool : a2dpSbcIeMinBitpool ≤ caps.minBitpool
  maxBitpool : caps.maxBitpool ≤ a2dpSbcIeMaxBitpool

/-- Both the source and the sink capabilities have that shape. -/
theorem capsShape (isSource : Bool) : CapsShape (a2dpSbcCaps isSource) := by
  cases isSource <;> constructor <;> decide

/-- A bit of what both sides have is a bit of each, and they then have something
in common. -/
theorem meets_common {ours theirs bit : UInt8} (common : ours &&& theirs &&& bit ≠ 0) :
    ours &&& theirs ≠ 0 ∧ bit &&& ours ≠ 0 ∧ bit &&& theirs ≠ 0 := by
  obtain ⟨ourBit, theirBit⟩ := and_ne_zero_of_and_and_ne_zero common
  refine ⟨?_, by rwa [UInt8.and_comm], by rwa [UInt8.and_comm]⟩
  intro disjoint
  rw [disjoint, UInt8.zero_and] at common
  exact common rfl

/-- The same for a bit of what the default configuration and the peer have,
when the default's bits are local ones. -/
theorem meets_both {ours theirs default bit : UInt8} (within : Fits ours default)
    (meets : ours &&& theirs &&& bit ≠ 0 ∨ default &&& theirs &&& bit ≠ 0) :
    ours &&& theirs ≠ 0 ∧ bit &&& ours ≠ 0 ∧ bit &&& theirs ≠ 0 := by
  apply meets_common
  rcases meets with common | fromDefault
  · exact common
  · rw [← and_mask_of_fits within, UInt8.and_assoc default ours theirs] at fromDefault
    exact (and_ne_zero_of_and_and_ne_zero fromDefault).2

/-- The local capabilities and the peer's information share a value in every
selector field, and their bitpool ranges meet. -/
def Overlaps (caps peer : SbcCie) : Prop :=
  caps.sampFreq &&& peer.sampFreq ≠ 0 ∧ caps.chMode &&& peer.chMode ≠ 0 ∧
    caps.blockLen &&& peer.blockLen ≠ 0 ∧ caps.numSubbands &&& peer.numSubbands ≠ 0 ∧
    caps.allocMethod &&& peer.allocMethod ≠ 0 ∧ caps.minBitpool ≤ peer.maxBitpool ∧
    peer.minBitpool ≤ caps.maxBitpool

instance (caps peer : SbcCie) : Decidable (Overlaps caps peer) :=
  inferInstanceAs (Decidable (_ ∧ _ ∧ _ ∧ _ ∧ _ ∧ _ ∧ _))

/-- What `A2DP_CodecInfoMatchesCapabilitySbc` asks of a parsed element
`cfgCie` against a capability `cap`: a bit in common in every selector field,
a minimum bitpool not above the capability's maximum and a maximum not below
its minimum. -/
structure Agrees (cap cfgCie : SbcCie) : Prop where
  sampFreq : cfgCie.sampFreq &&& cap.sampFreq ≠ 0
  chMode : cfgCie.chMode &&& cap.chMode ≠ 0
  blockLen : cfgCie.blockLen &&& cap.blockLen ≠ 0
  numSubbands : cfgCie.numSubbands &&& cap.numSubbands ≠ 0
  allocMethod : cfgCie.allocMethod &&& cap.allocMethod ≠ 0
  minBitpool : cfgCie.minBitpool ≤ cap.maxBitpool
  maxBitpool : cap.minBitpool ≤ cfgCie.maxBitpool

/-- `bits_per_sample` is not compared. -/
theorem Agrees.withBitsPerSample {cap cfgCie : SbcCie} (agrees : Agrees cap cfgCie) (bitsPerSample : Nat) :
    Agrees cap { cfgCie with bitsPerSample } :=
  ⟨agrees.sampFreq, agrees.chMode, agrees.blockLen, agrees.numSubbands, agrees.allocMethod,
    agrees.minBitpool, agrees.maxBitpool⟩

theorem matchFields_of_agrees {cap cfgCie : SbcCie} (agrees : Agrees cap cfgCie) :
    matchFields cap cfgCie = .success := by
  unfold matchFields
  rw [if_neg agrees.sampFreq, if_neg agrees.chMode, if_neg agrees.blockLen, if_neg agrees.numSubbands,
    if_neg agrees.allocMethod, if_neg (UInt8.not_lt.mpr agrees.minBitpool),
    if_neg (UInt8.not_lt.mpr agrees.maxBitpool)]

/-- A configuration chosen from the local capabilities `caps` and the peer's
information `peer`: every selector field one of the values the choice code
tries, agreeing with both sides, and a bitpool range in order inside the
bounds an element may carry. -/
structure Configuration (caps peer chosen : SbcCie) : Prop where
  sampFreq : chosen.sampFreq ∈ bestSampleRates.map Prod.fst
  chMode : chosen.chMode ∈ bestChannelModes.map Prod.fst
  blockLen : chosen.blockLen ∈ blockLens
  numSubbands : chosen.numSubbands ∈ subbandCounts
  allocMethod : chosen.allocMethod ∈ allocMethods
  agreesLocal : Agrees caps chosen
  agreesPeer : Agrees peer chosen
  ordered : chosen.minBitpool ≤ chosen.maxBitpool
  minBitpool : a2dpSbcIeMinBitpool ≤ chosen.minBitpool
  maxBitpool : chosen.maxBitpool ≤ a2dpSbcIeMaxBitpool

/-- Every value the scans try fits its field's mask and is a single bit. -/
theorem choices_single :
    (∀ bit ∈ bestSampleRates.map Prod.fst, Fits a2dpSbcIeSampFreqMsk bit ∧ selectorAccepted false bit) ∧
    (∀ bit ∈ bestChannelModes.map Prod.fst, Fits a2dpSbcIeChMdMsk bit ∧ selectorAccepted false bit) ∧
    (∀ bit ∈ blockLens, Fits a2dpSbcIeBlocksMsk bit ∧ selectorAccepted false bit) ∧
    (∀ bit ∈ subbandCounts, Fits a2dpSbcIeSubbandMsk bit ∧ selectorAccepted false bit) ∧
    (∀ bit ∈ allocMethods, Fits a2dpSbcIeAllocMdMsk bit ∧ selectorAccepted false bit) := by
  refine ⟨?_, ?_, ?_, ?_, ?_⟩ <;>
    simp [bestSampleRates, bestChannelModes, blockLens, subbandCounts, allocMethods, selectorAccepted,
      a2dpBitsSet, Fits, a2dpSbcIeSampFreqMsk, a2dpSbcIeSampFreq48, a2dpSbcIeSampFreq44, a2dpSbcIeChMdMsk,
      a2dpSbcIeChMdJoint, a2dpSbcIeChMdStereo, a2dpSbcIeChMdDual, a2dpSbcIeChMdMono, a2dpSbcIeBlocksMsk,
      a2dpSbcIeBlocks16, a2dpSbcIeBlocks12, a2dpSbcIeBlocks8, a2dpSbcIeBlocks4, a2dpSbcIeSubbandMsk,
      a2dpSbcIeSubband8, a2dpSbcIeSubband4, a2dpSbcIeAllocMdMsk, a2dpSbcIeAllocMdL, a2dpSbcIeAllocMdS] <;>
    decide

theorem Configuration.wellFormed {caps peer chosen : SbcCie} (configuration : Configuration caps peer chosen) :
    chosen.WellFormed := by
  obtain ⟨rates, modes, blocks, subbands, methods⟩ := choices_single
  exact ⟨(rates _ configuration.sampFreq).1, (modes _ configuration.chMode).1,
    (blocks _ configuration.blockLen).1, (subbands _ configuration.numSubbands).1,
    (methods _ configuration.allocMethod).1, configuration.ordered, configuration.minBitpool,
    configuration.maxBitpool⟩

/-- A chosen configuration passes the parser's checks for a configuration. -/
theorem Configuration.checkSelectors {caps peer chosen : SbcCie}
    (configuration : Configuration caps peer chosen) : checkSelectors chosen false = .success := by
  obtain ⟨rates, modes, blocks, subbands, methods⟩ := choices_single
  have accepted : ∀ check ∈ selectorChecks chosen, selectorAccepted false check.1 = true := by
    intro check member
    simp only [selectorChecks, List.mem_cons, List.not_mem_nil, or_false] at member
    rcases member with rfl | rfl | rfl | rfl | rfl
    · exact (rates _ configuration.sampFreq).2
    · exact (modes _ configuration.chMode).2
    · exact (blocks _ configuration.blockLen).2
    · exact (subbands _ configuration.numSubbands).2
    · exact (methods _ configuration.allocMethod).2
  unfold A2dpSbc.checkSelectors
  rw [List.find?_eq_none.mpr (fun check member => by simp [accepted check member])]

/-- What a successful choice says: both sides share a value in every field and
their bitpool ranges meet, and the chosen element is a configuration for both. -/
theorem selectConfig_some {caps peer : SbcCie} {user audio : CodecConfig} {configs chosenConfigs : CodecConfigs}
    {chosen : SbcCie} (shape : CapsShape caps)
    (selected : selectConfig caps peer user audio configs = some (chosenConfigs, chosen)) :
    Overlaps caps peer ∧ Configuration caps peer chosen := by
  unfold selectConfig at selected
  simp only [Option.bind_eq_bind, Option.bind_eq_some_iff, Option.pure_def, Option.some.injEq] at selected
  obtain ⟨⟨rateConfigs, rateResult⟩, rated, bits, -, ⟨modeConfigs, modeResult⟩, moded, blockLen, blocked,
    numSubbands, subbanded, allocMethod, allocated, pool, pooled, done⟩ := selected
  obtain ⟨rate, rateMember, rateMeets, rfl⟩ :=
    sampleRateChoice.select_some _ _ user audio configs SbcCie.zero rated
  obtain ⟨mode, modeMember, modeMeets, rfl⟩ :=
    channelModeChoice.select_some _ _ user audio bits _ moded
  obtain ⟨sampFreqs, rateLocal, ratePeer⟩ := meets_both shape.defaultSampFreq rateMeets
  obtain ⟨chModes, modeLocal, modePeer⟩ := meets_both shape.defaultChMode modeMeets
  obtain ⟨blockMember, blockMeets⟩ := selectCommon_some blocked
  obtain ⟨blockLens, blockLocal, blockPeer⟩ := meets_common blockMeets
  obtain ⟨subbandMember, subbandMeets⟩ := selectCommon_some subbanded
  obtain ⟨subbands, subbandLocal, subbandPeer⟩ := meets_common subbandMeets
  obtain ⟨allocMember, allocMeets⟩ := selectCommon_some allocated
  obtain ⟨allocs, allocLocal, allocPeer⟩ := meets_common allocMeets
  obtain ⟨poolShape, capsMin, peerMin, ordered, capsMax, peerMax⟩ := selectBitpool_some pooled
  obtain ⟨-, rfl⟩ := Prod.mk.inj done
  -- the fields of the chosen element are the chosen values
  have fields : pool.sampFreq = rate.1 ∧ pool.chMode = mode.1 ∧ pool.blockLen = blockLen ∧
      pool.numSubbands = numSubbands ∧ pool.allocMethod = allocMethod := by
    rw [poolShape]
    exact ⟨rfl, rfl, rfl, rfl, rfl⟩
  obtain ⟨sampFreq, chMode, blockField, subbandField, allocField⟩ := fields
  rw [← sampFreq] at rateLocal ratePeer
  rw [← chMode] at modeLocal modePeer
  rw [← blockField] at blockMember blockLocal blockPeer
  rw [← subbandField] at subbandMember subbandLocal subbandPeer
  rw [← allocField] at allocMember allocLocal allocPeer
  have agreesLocal : Agrees caps pool := ⟨rateLocal, modeLocal, blockLocal, subbandLocal, allocLocal,
    UInt8.le_trans ordered capsMax, UInt8.le_trans capsMin ordered⟩
  have agreesPeer : Agrees peer pool := ⟨ratePeer, modePeer, blockPeer, subbandPeer, allocPeer,
    UInt8.le_trans ordered peerMax, UInt8.le_trans peerMin ordered⟩
  refine ⟨⟨sampFreqs, chModes, blockLens, subbands, allocs, UInt8.le_trans capsMin (UInt8.le_trans ordered
    peerMax), UInt8.le_trans peerMin (UInt8.le_trans ordered capsMax)⟩, ?_⟩
  refine ⟨?_, ?_, blockMember, subbandMember, allocMember, agreesLocal, agreesPeer, ordered,
    UInt8.le_trans shape.minBitpool capsMin, UInt8.le_trans capsMax shape.maxBitpool⟩
  · rw [sampFreq]
    exact List.mem_map_of_mem rateMember
  · rw [chMode]
    exact List.mem_map_of_mem modeMember

/-- The choices succeed exactly when both sides share a value in every field and
their bitpool ranges meet. -/
theorem selectConfig_isSome_iff {caps peer : SbcCie} (user audio : CodecConfig) (configs : CodecConfigs)
    (shape : CapsShape caps) (peerOrdered : peer.minBitpool ≤ peer.maxBitpool) :
    (selectConfig caps peer user audio configs).isSome ↔ Overlaps caps peer := by
  constructor
  · intro found
    obtain ⟨⟨chosenConfigs, chosen⟩, selected⟩ := Option.isSome_iff_exists.mp found
    exact (selectConfig_some shape selected).1
  · rintro ⟨sampFreqs, chModes, blockLens, subbands, allocs, minimum, maximum⟩
    obtain ⟨rate, rated⟩ : ∃ rate, selectSampleRate caps peer user audio configs SbcCie.zero = some rate :=
      Option.isSome_iff_exists.mp (sampleRateChoice.select_isSome _ _ user audio configs SbcCie.zero
        (firstMatch_isSome (fits_and_of_fits shape.sampFreq peer.sampFreq) sampFreqs))
    obtain ⟨bits, bitsChosen⟩ :=
      Option.isSome_iff_exists.mp (selectBitsPerSample_isSome caps user audio rate.1)
    obtain ⟨mode, moded⟩ : ∃ mode, selectChannelMode caps peer user audio bits rate.2 = some mode :=
      Option.isSome_iff_exists.mp (channelModeChoice.select_isSome _ _ user audio bits rate.2
        (firstMatch_isSome (fits_and_of_fits shape.chMode peer.chMode) chModes))
    obtain ⟨blockLen, blocked⟩ : ∃ blockLen, selectBlockLen caps peer = some blockLen :=
      Option.isSome_iff_exists.mp ((selectCommon_isSome_iff shape.blockLen peer.blockLen).mpr blockLens)
    obtain ⟨numSubbands, subbanded⟩ : ∃ numSubbands, selectNumSubbands caps peer = some numSubbands :=
      Option.isSome_iff_exists.mp ((selectCommon_isSome_iff shape.numSubbands peer.numSubbands).mpr subbands)
    obtain ⟨allocMethod, allocated⟩ : ∃ allocMethod, selectAllocMethod caps peer = some allocMethod :=
      Option.isSome_iff_exists.mp ((selectCommon_isSome_iff shape.allocMethod peer.allocMethod).mpr allocs)
    obtain ⟨pool, pooled⟩ := Option.isSome_iff_exists.mp
      ((selectBitpool_isSome_iff shape.ordered peerOrdered
        { mode.2 with blockLen, numSubbands, allocMethod }).mpr ⟨minimum, maximum⟩)
    unfold selectConfig
    simp only [rated, bitsChosen, moded, blocked, subbanded, allocated, pooled, Option.bind_eq_bind,
      Option.bind_some, Option.pure_def, Option.isSome_some]

/-! ### `setCodecConfig` -/

/-- How the body of `setCodecConfig` stops early: `goto fail`, or a `CHECK`
that does not hold, which aborts. -/
inductive Failure
  | fail
  | abort
  deriving DecidableEq, Repr

/-- `goto fail` when a block found nothing. -/
def orFail {α : Type} : Option α → Except Failure α
  | some value => .ok value
  | none => .error .fail

/-- The first block of `setCodecConfig`: the peer's information parsed as
`is_capability` says; for a capability, the stored `ota_codec_peer_config_`
instead when the liberal check accepts it and it parses as a configuration,
and otherwise the peer's information parsed again under a `CHECK`. -/
def selectPeerInfo (codec : SbcCodec) (peerCodecInfo : Vector UInt8 avdtCodecSize)
    (isCapability : Bool) : Except Failure SbcCie :=
  let parsed := a2dpParseInfoSbc SbcCie.zero peerCodecInfo isCapability
  if parsed.2 ≠ .success then .error .fail
  else if isCapability then
    let valid := if codec.isSource then a2dpIsPeerSinkCodecValidSbc codec.otaCodecPeerConfig
      else a2dpIsPeerSourceCodecValidSbc codec.otaCodecPeerConfig
    let preferred := if valid then a2dpParseInfoSbc parsed.1 codec.otaCodecPeerConfig false else parsed
    if preferred.2 ≠ .success then
      let reparsed := a2dpParseInfoSbc preferred.1 peerCodecInfo isCapability
      if reparsed.2 ≠ .success then .error .abort else .ok reparsed.1
    else .ok preferred.1
  else .ok parsed.1

/-- The status of a parse does not depend on what the element held before. -/
theorem status_a2dpParseInfoSbc (ie other : SbcCie) (codecInfo : Vector UInt8 avdtCodecSize)
    (isCapability : Bool) :
    (a2dpParseInfoSbc ie codecInfo isCapability).2 = (a2dpParseInfoSbc other codecInfo isCapability).2 := by
  unfold a2dpParseInfoSbc
  split_ifs <;> rfl

/-- The first block of `setCodecConfig` fails exactly when the peer's
information does not parse; it never reaches its `CHECK`, since the second
parse of the same octets succeeds as the first did; and what it gives is an
element a parse accepted. -/
theorem selectPeerInfo_cases (codec : SbcCodec) (peerCodecInfo : Vector UInt8 avdtCodecSize)
    (isCapability : Bool) :
    ((a2dpParseInfoSbc SbcCie.zero peerCodecInfo isCapability).2 ≠ .success ∧
        selectPeerInfo codec peerCodecInfo isCapability = .error .fail) ∨
      ∃ peerInfoCie, peerInfoCie.WellFormed ∧
        selectPeerInfo codec peerCodecInfo isCapability = .ok peerInfoCie := by
  have parsedWellFormed : ∀ ie codecInfo checkedAs, (a2dpParseInfoSbc ie codecInfo checkedAs).2 = .success →
      (a2dpParseInfoSbc ie codecInfo checkedAs).1.WellFormed :=
    fun _ _ _ status => wellFormed_of_a2dpParseInfoSbc (Prod.ext rfl status)
  unfold selectPeerInfo
  dsimp only
  by_cases parsed : (a2dpParseInfoSbc SbcCie.zero peerCodecInfo isCapability).2 = .success
  · right
    rw [if_neg (not_not.mpr parsed)]
    cases isCapability with
    | false => exact ⟨_, parsedWellFormed _ _ _ parsed, rfl⟩
    | true =>
      rw [if_pos rfl]
      generalize (if codec.isSource then a2dpIsPeerSinkCodecValidSbc codec.otaCodecPeerConfig
        else a2dpIsPeerSourceCodecValidSbc codec.otaCodecPeerConfig) = valid
      cases valid with
      | false =>
        rw [if_neg Bool.false_ne_true, if_neg (not_not.mpr parsed)]
        exact ⟨_, parsedWellFormed _ _ _ parsed, rfl⟩
      | true =>
        rw [if_pos rfl]
        by_cases preferred : (a2dpParseInfoSbc (a2dpParseInfoSbc SbcCie.zero peerCodecInfo true).1
            codec.otaCodecPeerConfig false).2 = .success
        · rw [if_neg (not_not.mpr preferred)]
          exact ⟨_, parsedWellFormed _ _ _ preferred, rfl⟩
        · -- the peer's information parses again as it did the first time
          have reparsed := (status_a2dpParseInfoSbc (a2dpParseInfoSbc (a2dpParseInfoSbc SbcCie.zero
            peerCodecInfo true).1 codec.otaCodecPeerConfig false).1 SbcCie.zero peerCodecInfo true).trans parsed
          rw [if_pos preferred, if_neg (not_not.mpr reparsed)]
          exact ⟨_, parsedWellFormed _ _ _ reparsed, rfl⟩
  · left
    exact ⟨parsed, if_pos parsed⟩

/-- What the first block of `setCodecConfig` gives is well formed. -/
theorem selectPeerInfo_wellFormed {codec : SbcCodec} {peerCodecInfo : Vector UInt8 avdtCodecSize}
    {isCapability : Bool} {peer : SbcCie}
    (chosenPeer : selectPeerInfo codec peerCodecInfo isCapability = .ok peer) : peer.WellFormed := by
  rcases selectPeerInfo_cases codec peerCodecInfo isCapability with ⟨-, failed⟩ | ⟨other, wellFormed, same⟩
  · rw [failed] at chosenPeer
    cases chosenPeer
  · rw [same, Except.ok.injEq] at chosenPeer
    rwa [← chosenPeer]

/-- The codec-specific fields of the user's configuration that are not zero. -/
def copyCodecSpecific (user config : CodecConfig) : CodecConfig :=
  { config with
    codecSpecific1 := if user.codecSpecific1 ≠ 0 then user.codecSpecific1 else config.codecSpecific1
    codecSpecific2 := if user.codecSpecific2 ≠ 0 then user.codecSpecific2 else config.codecSpecific2
    codecSpecific3 := if user.codecSpecific3 ≠ 0 then user.codecSpecific3 else config.codecSpecific3
    codecSpecific4 := if user.codecSpecific4 ≠ 0 then user.codecSpecific4 else config.codecSpecific4 }

/-- The end of `setCodecConfig` once a configuration is chosen: the chosen
element into `p_result_codec_config` (`goto fail` if refused), the
codec-specific fields, then under `CHECK`s the peer's element into the stored
peer capability or configuration and the chosen one into `ota_codec_config_`. -/
def storeConfig (codec : SbcCodec) (isCapability : Bool) (peerInfoCie resultConfigCie : SbcCie)
    (configs : CodecConfigs) (resultCodecConfig : Vector UInt8 avdtCodecSize) :
    Except Failure (SbcCodec × Vector UInt8 avdtCodecSize) :=
  let built := a2dpBuildInfoSbc avdtMediaTypeAudio resultConfigCie resultCodecConfig
  if built.1 ≠ .success then .error .fail
  else
    let peerCopy := a2dpBuildInfoSbc avdtMediaTypeAudio peerInfoCie
      (if isCapability then codec.otaCodecPeerCapability else codec.otaCodecPeerConfig)
    if peerCopy.1 ≠ .success then .error .abort
    else
      let resultCopy := a2dpBuildInfoSbc avdtMediaTypeAudio resultConfigCie codec.otaCodecConfig
      if resultCopy.1 ≠ .success then .error .abort
      else .ok ({ codec with
          codecConfig := copyCodecSpecific codec.codecUserConfig configs.codecConfig
          codecCapability := configs.codecCapability
          codecSelectableCapability := configs.codecSelectableCapability
          otaCodecConfig := resultCopy.2
          otaCodecPeerCapability := if isCapability then peerCopy.2 else codec.otaCodecPeerCapability
          otaCodecPeerConfig := if isCapability then codec.otaCodecPeerConfig else peerCopy.2 },
        built.2)

/-- With a well-formed peer element and chosen element nothing at the end of
`setCodecConfig` fails, and the chosen element is stored both into
`p_result_codec_config` and into `ota_codec_config_`. -/
theorem storeConfig_ok (codec : SbcCodec) (isCapability : Bool) {peerInfoCie resultConfigCie : SbcCie}
    (peerWellFormed : peerInfoCie.WellFormed) (resultWellFormed : resultConfigCie.WellFormed)
    (configs : CodecConfigs) (resultCodecConfig : Vector UInt8 avdtCodecSize) :
    ∃ next, storeConfig codec isCapability peerInfoCie resultConfigCie configs resultCodecConfig =
        .ok (next, writeVector resultCodecConfig 0 (infoOctets avdtMediaTypeAudio resultConfigCie)
          (infoOctets_fit _ _)) ∧
      next.otaCodecConfig = writeVector codec.otaCodecConfig 0
        (infoOctets avdtMediaTypeAudio resultConfigCie) (infoOctets_fit _ _) := by
  unfold storeConfig
  simp only [a2dpBuildInfoSbc_of_wellFormed _ resultWellFormed, a2dpBuildInfoSbc_of_wellFormed _ peerWellFormed,
    ne_eq, not_true_eq_false, if_false]
  exact ⟨_, rfl, rfl⟩

/-- The body of `setCodecConfig` up to its `fail` label. -/
def setCodecConfigBody (codec : SbcCodec) (peerCodecInfo : Vector UInt8 avdtCodecSize)
    (isCapability : Bool) (resultCodecConfig : Vector UInt8 avdtCodecSize) :
    Except Failure (SbcCodec × Vector UInt8 avdtCodecSize) := do
  let peerInfoCie ← selectPeerInfo codec peerCodecInfo isCapability
  let chosen ← orFail (selectConfig (a2dpSbcCaps codec.isSource) peerInfoCie codec.codecUserConfig
    codec.codecAudioConfig ⟨codec.codecConfig, codec.codecCapability, codec.codecSelectableCapability⟩)
  storeConfig codec isCapability peerInfoCie chosen.2 chosen.1 resultCodecConfig

/-- `A2dpCodecConfigSbcBase::setCodecConfig`: whether it succeeded, the codec
object and `p_result_codec_config` after it, or `.error ()` for an abort. At
`fail` every field the body writes is restored from its saved copy, and
`p_result_codec_config` is only written once nothing can fail. -/
def setCodecConfig (codec : SbcCodec) (peerCodecInfo : Vector UInt8 avdtCodecSize)
    (isCapability : Bool) (resultCodecConfig : Vector UInt8 avdtCodecSize) :
    Except Unit (Bool × SbcCodec × Vector UInt8 avdtCodecSize) :=
  match setCodecConfigBody codec peerCodecInfo isCapability resultCodecConfig with
  | .ok (next, written) => .ok (true, next, written)
  | .error .fail => .ok (false, codec, resultCodecConfig)
  | .error .abort => .error ()

theorem orFail_eq_ok {α : Type} {choice : Option α} {value : α} :
    orFail choice = .ok value ↔ choice = some value := by
  cases choice <;> simp [orFail]

/-- `setCodecConfig` returns true only when its body ran to the end. -/
theorem setCodecConfigBody_of_true {codec next : SbcCodec}
    {peerCodecInfo resultCodecConfig written : Vector UInt8 avdtCodecSize} {isCapability : Bool}
    (accepted : setCodecConfig codec peerCodecInfo isCapability resultCodecConfig = .ok (true, next, written)) :
    setCodecConfigBody codec peerCodecInfo isCapability resultCodecConfig = .ok (next, written) := by
  unfold setCodecConfig at accepted
  cases body : setCodecConfigBody codec peerCodecInfo isCapability resultCodecConfig with
  | ok value =>
    obtain ⟨reached, stored⟩ := value
    simp only [body, Except.ok.injEq, Prod.mk.injEq, true_and] at accepted
    rw [accepted.1, accepted.2]
  | error failure =>
    cases failure <;> simp [body] at accepted

/-- At `fail` the codec object and `p_result_codec_config` are left as they were. -/
theorem setCodecConfig_of_fail {codec : SbcCodec} {peerCodecInfo resultCodecConfig : Vector UInt8 avdtCodecSize}
    {isCapability : Bool}
    (failed : setCodecConfigBody codec peerCodecInfo isCapability resultCodecConfig = .error .fail) :
    setCodecConfig codec peerCodecInfo isCapability resultCodecConfig = .ok (false, codec, resultCodecConfig) := by
  rw [setCodecConfig, failed]

/-- A stored configuration is accepted by the parser as a configuration and
matches both the local capabilities and the peer's element. -/
theorem stored_configuration {caps peer chosen : SbcCie} (configuration : Configuration caps peer chosen)
    (buffer : Vector UInt8 avdtCodecSize) :
    (a2dpParseInfoSbc SbcCie.zero (writeVector buffer 0 (infoOctets avdtMediaTypeAudio chosen)
        (infoOctets_fit _ _)) false).2 = .success ∧
      a2dpCodecInfoMatchesCapabilitySbc caps (writeVector buffer 0 (infoOctets avdtMediaTypeAudio chosen)
        (infoOctets_fit _ _)) false = .success ∧
      a2dpCodecInfoMatchesCapabilitySbc peer (writeVector buffer 0 (infoOctets avdtMediaTypeAudio chosen)
        (infoOctets_fit _ _)) false = .success := by
  have parsed := a2dpParseInfoSbc_infoOctets configuration.wellFormed SbcCie.zero buffer false
  rw [configuration.checkSelectors] at parsed
  refine ⟨by rw [parsed], ?_, ?_⟩
  · unfold a2dpCodecInfoMatchesCapabilitySbc
    rw [parsed]
    exact matchFields_of_agrees (configuration.agreesLocal.withBitsPerSample _)
  · unfold a2dpCodecInfoMatchesCapabilitySbc
    rw [parsed]
    exact matchFields_of_agrees (configuration.agreesPeer.withBitsPerSample _)

/-- `setCodecConfig` never aborts, and it succeeds exactly when the peer's
information it uses parses and shares a value with the local capabilities in
every selector field, with bitpool ranges that meet. -/
theorem setCodecConfig_succeeds_iff (codec : SbcCodec) (peerCodecInfo : Vector UInt8 avdtCodecSize)
    (isCapability : Bool) (resultCodecConfig : Vector UInt8 avdtCodecSize) :
    ∃ succeeded next written,
      setCodecConfig codec peerCodecInfo isCapability resultCodecConfig = .ok (succeeded, next, written) ∧
        (succeeded = true ↔ ∃ peerInfoCie, selectPeerInfo codec peerCodecInfo isCapability = .ok peerInfoCie ∧
          Overlaps (a2dpSbcCaps codec.isSource) peerInfoCie) := by
  have shape := capsShape codec.isSource
  rcases selectPeerInfo_cases codec peerCodecInfo isCapability with
    ⟨-, failed⟩ | ⟨peer, peerWellFormed, chosenPeer⟩
  · -- the peer's information does not parse: `goto fail`
    have body : setCodecConfigBody codec peerCodecInfo isCapability resultCodecConfig = .error .fail := by
      rw [setCodecConfigBody, failed]
      rfl
    refine ⟨false, codec, resultCodecConfig, setCodecConfig_of_fail body, ?_⟩
    simp [failed]
  · by_cases overlaps : Overlaps (a2dpSbcCaps codec.isSource) peer
    · obtain ⟨⟨configs, chosen⟩, selected⟩ := Option.isSome_iff_exists.mp
        ((selectConfig_isSome_iff codec.codecUserConfig codec.codecAudioConfig
          ⟨codec.codecConfig, codec.codecCapability, codec.codecSelectableCapability⟩ shape
          peerWellFormed.ordered).mpr overlaps)
      have configuration := (selectConfig_some shape selected).2
      obtain ⟨next, stored, -⟩ :=
        storeConfig_ok codec isCapability peerWellFormed configuration.wellFormed configs resultCodecConfig
      have body : setCodecConfigBody codec peerCodecInfo isCapability resultCodecConfig =
          .ok (next, writeVector resultCodecConfig 0 (infoOctets avdtMediaTypeAudio chosen) (infoOctets_fit _ _)) := by
        rw [setCodecConfigBody]
        exact (Runs.bind_eq_ok _ _ _).mpr ⟨peer, chosenPeer,
          (Runs.bind_eq_ok _ _ _).mpr ⟨(configs, chosen), orFail_eq_ok.mpr selected, stored⟩⟩
      refine ⟨true, next, _, by rw [setCodecConfig, body], ?_⟩
      simp only [true_iff]
      exact ⟨peer, chosenPeer, overlaps⟩
    · -- no common configuration: `goto fail`
      have missed : selectConfig (a2dpSbcCaps codec.isSource) peer codec.codecUserConfig codec.codecAudioConfig
          ⟨codec.codecConfig, codec.codecCapability, codec.codecSelectableCapability⟩ = none :=
        Option.not_isSome_iff_eq_none.mp
          (mt (selectConfig_isSome_iff _ _ _ shape peerWellFormed.ordered).mp overlaps)
      have body : setCodecConfigBody codec peerCodecInfo isCapability resultCodecConfig = .error .fail := by
        rw [setCodecConfigBody, chosenPeer]
        show orFail _ >>= _ = _
        rw [missed]
        rfl
      refine ⟨false, codec, resultCodecConfig, setCodecConfig_of_fail body, ?_⟩
      simp only [Bool.false_eq_true, false_iff, not_exists, not_and]
      intro other same
      rw [chosenPeer, Except.ok.injEq] at same
      rwa [← same]

/-- When `setCodecConfig` succeeds, both `p_result_codec_config` and
`ota_codec_config_` hold a configuration that `A2DP_ParseInfoSbc` accepts as a
configuration (one bit in every selector field) and that
`A2DP_CodecInfoMatchesCapabilitySbc` accepts against the local capabilities
and against the peer's element it was chosen from. -/
theorem setCodecConfig_result (codec : SbcCodec) (peerCodecInfo : Vector UInt8 avdtCodecSize)
    (isCapability : Bool) (resultCodecConfig : Vector UInt8 avdtCodecSize) (next : SbcCodec)
    (written : Vector UInt8 avdtCodecSize)
    (accepted : setCodecConfig codec peerCodecInfo isCapability resultCodecConfig = .ok (true, next, written)) :
    ∃ peerInfoCie, selectPeerInfo codec peerCodecInfo isCapability = .ok peerInfoCie ∧
      ∀ codecInfo ∈ [written, next.otaCodecConfig],
        (a2dpParseInfoSbc SbcCie.zero codecInfo false).2 = .success ∧
        a2dpCodecInfoMatchesCapabilitySbc (a2dpSbcCaps codec.isSource) codecInfo false = .success ∧
        a2dpCodecInfoMatchesCapabilitySbc peerInfoCie codecInfo false = .success := by
  have body := setCodecConfigBody_of_true accepted
  rw [setCodecConfigBody, Runs.bind_eq_ok] at body
  obtain ⟨peer, chosenPeer, rest⟩ := body
  rw [Runs.bind_eq_ok] at rest
  obtain ⟨⟨configs, chosen⟩, selected, stored⟩ := rest
  have peerWellFormed := selectPeerInfo_wellFormed chosenPeer
  have configuration := (selectConfig_some (capsShape codec.isSource) (orFail_eq_ok.mp selected)).2
  obtain ⟨next', stored', ota⟩ :=
    storeConfig_ok codec isCapability peerWellFormed configuration.wellFormed configs resultCodecConfig
  rw [stored', Except.ok.injEq, Prod.mk.injEq] at stored
  obtain ⟨rfl, rfl⟩ := stored
  refine ⟨peer, chosenPeer, ?_⟩
  intro codecInfo member
  simp only [List.mem_cons, List.not_mem_nil, or_false] at member
  rcases member with rfl | rfl
  · exact stored_configuration configuration resultCodecConfig
  · rw [ota]
    exact stored_configuration configuration codec.otaCodecConfig

/-- A codec configuration with nothing set. -/
def CodecConfig.unset : CodecConfig := ⟨0, 0, 0, 0, 0, 0, 0⟩

/-- A sink codec object before any configuration, its stored elements zeroed. -/
def freshSinkCodec : SbcCodec :=
  ⟨false, .unset, .unset, .unset, .unset, .unset, Vector.replicate avdtCodecSize 0,
    Vector.replicate avdtCodecSize 0, Vector.replicate avdtCodecSize 0⟩

/-- The source capabilities as a peer sends them. -/
def sourceCapsInfo : Vector UInt8 avdtCodecSize :=
  (a2dpBuildInfoSbc avdtMediaTypeAudio a2dpSbcSourceCaps (Vector.replicate avdtCodecSize 0)).2

/-- A fresh sink configured from a source's capabilities. -/
theorem setCodecConfig_result_sourceCaps :
    ∃ next written, setCodecConfig freshSinkCodec sourceCapsInfo true (Vector.replicate avdtCodecSize 0) =
        .ok (true, next, written) ∧
      ∃ peerInfoCie, selectPeerInfo freshSinkCodec sourceCapsInfo true = .ok peerInfoCie ∧
        ∀ codecInfo ∈ [written, next.otaCodecConfig],
          (a2dpParseInfoSbc SbcCie.zero codecInfo false).2 = .success ∧
          a2dpCodecInfoMatchesCapabilitySbc (a2dpSbcCaps freshSinkCodec.isSource) codecInfo false = .success ∧
          a2dpCodecInfoMatchesCapabilitySbc peerInfoCie codecInfo false = .success := by
  obtain ⟨next, written, ran⟩ : ∃ next written, setCodecConfig freshSinkCodec sourceCapsInfo true
      (Vector.replicate avdtCodecSize 0) = .ok (true, next, written) := ⟨_, _, rfl⟩
  exact ⟨next, written, ran, setCodecConfig_result _ _ _ _ next written ran⟩

end Fluoride.A2dpSbc
