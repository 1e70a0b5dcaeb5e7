import Fluoride.ByteBuffer

/-!
# L2CAP signalling commands on a BR/EDR link

`process_l2cap_cmd` (`stack/l2cap/l2c_main.cc`) walks the commands of a
signalling packet: each is a code, an identifier and a 16-bit length, followed
by that many bytes. A Configuration Request or Response carries options, each
a type (its top bit marking a hint), a length and a value; the known options
are decoded into a `tL2CAP_CFG_INFO` for the channel state machine, and a
request with unknown options that are not hints is answered by
`l2cu_send_peer_config_rej` (`stack/l2cap/l2c_utils.cc`) with those options.

The packet is the list of its `pkt_len` bytes (`l2c_rcv_acl_data` passes the
L2CAP length after checking it against the buffer), read little-endian as the
`STREAM_TO_UINT*` macros do. What a command hands on is an `Action`; the
commands other than the configuration ones are followed as far as their
length checks.
-/

namespace Fluoride.L2capSignal

open ByteBuffer (window le16 readLe16 readLe16_append_of_le readLe16_append_length)

/-! ## Constants of `l2cdefs.h`, `hcidefs.h` and `bt_target.h` -/

def l2capCmdReject : Nat := 0x01
def l2capCmdConnReq : Nat := 0x02
def l2capCmdConnRsp : Nat := 0x03
def l2capCmdConfigReq : Nat := 0x04
def l2capCmdConfigRsp : Nat := 0x05
def l2capCmdDiscReq : Nat := 0x06
def l2capCmdDiscRsp : Nat := 0x07
def l2capCmdEchoReq : Nat := 0x08
def l2capCmdEchoRsp : Nat := 0x09
def l2capCmdInfoReq : Nat := 0x0A
def l2capCmdInfoRsp : Nat := 0x0B
def l2capCmdAmpConnReq : Nat := 0x0C
def l2capCmdAmpMoveReq : Nat := 0x0E
def l2capCmdBleUpdateReq : Nat := 0x12

def l2capCmdRejNotUnderstood : Nat := 0
def l2capCmdRejMtuExceeded : Nat := 1
def l2capCmdRejInvalidCid : Nat := 2

def l2capCfgTypeMtu : Nat := 0x01
def l2capCfgTypeFlushTout : Nat := 0x02
def l2capCfgTypeQos : Nat := 0x03
def l2capCfgTypeFcr : Nat := 0x04
def l2capCfgTypeFcs : Nat := 0x05
def l2capCfgTypeExtFlow : Nat := 0x06

def l2capCfgOptionOverhead : Nat := 2
def l2capConfigReqLen : Nat := 4
def l2capConfigRspLen : Nat := 6
def l2capCmdOverhead : Nat := 4
def l2capPktOverhead : Nat := 4
def l2capSignallingCid : Nat := 1
def l2capCfgUnknownOptions : Nat := 3
def l2capDefaultMtu : Nat := 672
def btSmallBufferSize : Nat := 660
def btHdrSize : Nat := 8
def hciDataPreambleSize : Nat := 4

def l2capExtendedFeaturesInfoType : Nat := 0x0002
def l2capFixedChannelsInfoType : Nat := 0x0003
def l2capInfoRespResultSuccess : Nat := 0
def l2capExtfeaFixedChnls : Nat := 0x00000080
def l2capFixedChnlArraySize : Nat := 8

/-! ## Reading the packet -/

/-- `STREAM_TO_UINT8`. -/
def rd8 (bytes : List UInt8) (position : Nat) : Nat :=
  (bytes.getD position 0).toNat

/-- `STREAM_TO_UINT32`, little-endian; `STREAM_TO_UINT16` is `readLe16`. -/
def rd32 (bytes : List UInt8) (position : Nat) : Nat :=
  readLe16 bytes position + 65536 * readLe16 bytes (position + 2)

/-! ## The configuration -/

/-- `FLOW_SPEC`. -/
structure Qos where
  qosFlags : Nat
  serviceType : Nat
  tokenRate : Nat
  tokenBucketSize : Nat
  peakBandwidth : Nat
  latency : Nat
  delayVariation : Nat
  deriving DecidableEq, Repr

/-- `tL2CAP_FCR_OPTS`. -/
structure Fcr where
  mode : Nat
  txWinSz : Nat
  maxTransmit : Nat
  rtransTout : Nat
  monTout : Nat
  mps : Nat
  deriving DecidableEq, Repr

/-- `tHCI_EXT_FLOW_SPEC`. -/
structure ExtFlowSpec where
  id : Nat
  stype : Nat
  maxSduSize : Nat
  sduInterTime : Nat
  accessLatency : Nat
  flushTimeout : Nat
  deriving DecidableEq, Repr

/-- `tL2CAP_CFG_INFO`, the fields the signalling path writes. -/
structure CfgInfo where
  result : Nat
  flags : Nat
  mtuPresent : Bool
  mtu : Nat
  flushToPresent : Bool
  flushTo : Nat
  qosPresent : Bool
  qos : Qos
  fcrPresent : Bool
  fcr : Fcr
  fcsPresent : Bool
  fcs : Nat
  extFlowSpecPresent : Bool
  extFlowSpec : ExtFlowSpec
  deriving DecidableEq, Repr

/-- The configuration after `memset(&cfg_info, 0, sizeof(cfg_info))`. -/
def CfgInfo.zero : CfgInfo :=
  ⟨0, 0, false, 0, false, 0, false, ⟨0, 0, 0, 0, 0, 0, 0⟩, false, ⟨0, 0, 0, 0, 0, 0⟩, false, 0,
    false, ⟨0, 0, 0, 0, 0, 0⟩⟩

/-- The size of a known option's fields, as both paths read them, by type. -/
def optionSize (code : Nat) : Option Nat :=
  if code = l2capCfgTypeMtu then some 2
  else if code = l2capCfgTypeFlushTout then some 2
  else if code = l2capCfgTypeQos then some (2 + 5 * 4)
  else if code = l2capCfgTypeFcr then some (3 + 3 * 2)
  else if code = l2capCfgTypeFcs then some 1
  else if code = l2capCfgTypeExtFlow then some (2 + 2 + 3 * 4)
  else none

/-- The fields of a known option, read from the bytes after its header, stored
into the configuration with its presence flag set; an unknown type leaves the
configuration as it is. -/
def storeOption (cfg : CfgInfo) (value : List UInt8) (code : Nat) : CfgInfo :=
  if code = l2capCfgTypeMtu then { cfg with mtuPresent := true, mtu := readLe16 value 0 }
  else if code = l2capCfgTypeFlushTout then
    { cfg with flushToPresent := true, flushTo := readLe16 value 0 }
  else if code = l2capCfgTypeQos then
    { cfg with
      qosPresent := true
      qos := ⟨rd8 value 0, rd8 value 1, rd32 value 2, rd32 value 6, rd32 value 10,
        rd32 value 14, rd32 value 18⟩ }
  else if code = l2capCfgTypeFcr then
    { cfg with
      fcrPresent := true
      fcr := ⟨rd8 value 0, rd8 value 1, rd8 value 2, readLe16 value 3, readLe16 value 5,
        readLe16 value 7⟩ }
  else if code = l2capCfgTypeFcs then { cfg with fcsPresent := true, fcs := rd8 value 0 }
  else if code = l2capCfgTypeExtFlow then
    { cfg with
      extFlowSpecPresent := true
      extFlowSpec := ⟨rd8 value 0, rd8 value 1, readLe16 value 2, rd32 value 4, rd32 value 8,
        rd32 value 12⟩ }
  else cfg

/-! ## The option loops -/

/-- Where the option loop of a Configuration Request stands: the configuration
so far, and whether to reject with how many bytes of options
(`cfg_rej`, `cfg_rej_len`). -/
structure ReqScan where
  cfg : CfgInfo
  cfgRej : Bool
  cfgRejLen : Nat
  deriving DecidableEq, Repr

/-- The option loop of a Configuration Request from `p` to the end of the
command (`p_cfg_end`, which is `p_next_cmd`), or `none` where
`process_l2cap_cmd` returns. A known option must have exactly its size and fit;
an unknown one is skipped by its length when `cfg_len + 2 <= cmd_len`, and
otherwise ends the loop as a reject. -/
def configReqOptions (bytes : List UInt8) (pNextCmd cmdLen p : Nat) (scan : ReqScan) :
    Option ReqScan :=
  if p < pNextCmd then
    if p + 2 > pNextCmd then none
    else
      let cfgCode := rd8 bytes p
      let cfgLen := rd8 bytes (p + 1)
      match optionSize (cfgCode &&& 0x7F) with
      | some size =>
        if cfgLen ≠ size then none
        else if p + 2 + cfgLen > pNextCmd then none
        else configReqOptions bytes pNextCmd cmdLen (p + 2 + size)
          { scan with cfg := storeOption scan.cfg (bytes.drop (p + 2)) (cfgCode &&& 0x7F) }
      | none =>
        if cfgLen + l2capCfgOptionOverhead ≤ cmdLen then
          if p + 2 + cfgLen > pNextCmd then none
          else if cfgCode &&& 0x80 = 0 then
            configReqOptions bytes pNextCmd cmdLen (p + 2 + cfgLen)
              { scan with
                cfgRej := true
                cfgRejLen := scan.cfgRejLen + cfgLen + l2capCfgOptionOverhead }
          else configReqOptions bytes pNextCmd cmdLen (p + 2 + cfgLen) scan
        -- `p = p_cfg_end` ends the loop at its next test
        else some { scan with cfgRej := true }
  else some scan
termination_by pNextCmd - p

/-- The option loop of a Configuration Response: a known option's fields are
read when they fit before the end of the command, whatever its length says,
and an unknown option is passed by its two header bytes only. -/
def configRspOptions (bytes : List UInt8) (pNextCmd p : Nat) (cfg : CfgInfo) : Option CfgInfo :=
  if p < pNextCmd then
    if p + 2 > pNextCmd then none
    else
      let cfgCode := rd8 bytes p
      match optionSize (cfgCode &&& 0x7F) with
      | some size =>
        if p + 2 + size > pNextCmd then none
        else configRspOptions bytes pNextCmd (p + 2 + size)
          (storeOption cfg (bytes.drop (p + 2)) (cfgCode &&& 0x7F))
      | none => configRspOptions bytes pNextCmd (p + 2) cfg
  else some cfg
termination_by pNextCmd - p

/-! ## The configuration reject -/

/-- The reject loop of `l2cu_send_peer_config_rej` over the options from
`p_data` to `p_data_end`: known options are skipped by their length, unknown
options that are not hints are copied while `buf_space` lasts, and an option
longer than `data_len` ends the loop. -/
def rejectedOptions (bytes : List UInt8) (pDataEnd dataLen pData bufSpace : Nat) : List UInt8 :=
  if pData < pDataEnd then
    let cfgCode := rd8 bytes pData
    let cfgLen := rd8 bytes (pData + 1)
    if (optionSize (cfgCode &&& 0x7F)).isSome then
      rejectedOptions bytes pDataEnd dataLen (pData + (cfgLen + l2capCfgOptionOverhead)) bufSpace
    else if cfgLen + l2capCfgOptionOverhead ≤ dataLen then
      if cfgCode &&& 0x80 = 0 then
        if bufSpace ≥ cfgLen + l2capCfgOptionOverhead then
          window bytes pData (cfgLen + l2capCfgOptionOverhead) ++
            rejectedOptions bytes pDataEnd dataLen (pData + (cfgLen + l2capCfgOptionOverhead))
              (bufSpace - (cfgLen + l2capCfgOptionOverhead))
        else []
      else
        rejectedOptions bytes pDataEnd dataLen (pData + (cfgLen + l2capCfgOptionOverhead)) bufSpace
    else []
  else []
termination_by pDataEnd - pData
decreasing_by all_goals (unfold l2capCfgOptionOverhead; omega)

/-- `l2cu_send_peer_config_rej` for the request's options from `p_data`: the
packet sent from the L2CAP header on (the HCI length field counts exactly
these bytes), or `none` when `rej_len` exceeds the buffer design. -/
def l2cuSendPeerConfigRej (remoteId remoteCid : Nat) (bytes : List UInt8)
    (pData dataLen rejLen : Nat) : Option (List UInt8) :=
  let len := btHdrSize + hciDataPreambleSize + l2capPktOverhead + l2capCmdOverhead +
    l2capConfigRspLen
  if rejLen > 0xFFFF - len then none
  else
    some (le16 (l2capCmdOverhead + l2capConfigRspLen + rejLen) ++ le16 l2capSignallingCid ++
      [UInt8.ofNat l2capCmdConfigRsp, UInt8.ofNat remoteId] ++
      le16 (l2capConfigRspLen + rejLen) ++ le16 remoteCid ++ le16 0 ++
      le16 l2capCfgUnknownOptions ++ rejectedOptions bytes (pData + dataLen) dataLen pData rejLen)

/-! ## The command loop -/

/-- A channel as the configuration commands look it up: its CID, the peer's
CID and the identifier of our last request. -/
structure Ccb where
  localCid : Nat
  remoteCid : Nat
  localId : Nat
  deriving DecidableEq, Repr

/-- What the commands hand on. -/
inductive Action
  /-- `l2cu_send_peer_cmd_reject` with its reason and identifier. -/
  | cmdReject (reason id : Nat)
  /-- `L2CEVT_L2CAP_CONFIG_REQ` with the configuration. -/
  | configReq (lcid : Nat) (cfg : CfgInfo)
  /-- `l2cu_send_peer_config_rej`, the packet from its L2CAP header on. -/
  | configRej (packet : List UInt8)
  /-- `L2CEVT_L2CAP_CONFIG_RSP` or `_NEG` (by `cfg.result`) with the configuration. -/
  | configRsp (lcid : Nat) (cfg : CfgInfo)
  /-- Another command, once its length checks have passed. -/
  | handled (code id : Nat)
  deriving DecidableEq, Repr

/-- What goes wrong in C: a shift by the width of its operand or more. -/
inductive Violation
  | shiftTooWide
  deriving DecidableEq, Repr

/-- `l2c_is_cmd_rejected`: the requests, which an oversized packet answers with
a reject. -/
def l2cIsCmdRejected (cmdCode : Nat) : Bool :=
  cmdCode = l2capCmdConnReq || cmdCode = l2capCmdConfigReq || cmdCode = l2capCmdDiscReq ||
    cmdCode = l2capCmdEchoReq || cmdCode = l2capCmdInfoReq || cmdCode = l2capCmdAmpConnReq ||
    cmdCode = l2capCmdAmpMoveReq || cmdCode = l2capCmdBleUpdateReq

/-- The channel of a local CID, `l2cu_find_ccb_by_cid`. -/
def l2cuFindCcbByCid (channels : List Ccb) (lcid : Nat) : Option Ccb :=
  channels.find? fun ccb => decide (ccb.localCid = lcid)

/-- A Configuration Request with its body from `p`. -/
def processConfigReq (channels : List Ccb) (bytes : List UInt8) (cfg : CfgInfo)
    (id cmdLen p : Nat) : List Action × CfgInfo × Bool :=
  let pNextCmd := p + cmdLen
  if p + 4 > pNextCmd then ([], cfg, false)
  else
    let lcid := readLe16 bytes p
    let cfg := { cfg with
      flags := readLe16 bytes (p + 2), flushToPresent := false, mtuPresent := false,
      qosPresent := false, fcrPresent := false, fcsPresent := false }
    let pCfgStart := p + 4
    match configReqOptions bytes pNextCmd cmdLen pCfgStart ⟨cfg, false, 0⟩ with
    | none => ([], cfg, false)
    | some scan =>
      match l2cuFindCcbByCid channels lcid with
      | some ccb =>
        if scan.cfgRej then
          match l2cuSendPeerConfigRej id ccb.remoteCid bytes pCfgStart
              (cmdLen - l2capConfigReqLen) scan.cfgRejLen with
          | some packet => ([.configRej packet], scan.cfg, true)
          | none => ([], scan.cfg, true)
        else ([.configReq lcid scan.cfg], scan.cfg, true)
      | none => ([.cmdReject l2capCmdRejInvalidCid id], scan.cfg, true)

/-- A Configuration Response with its body from `p`. -/
def processConfigRsp (channels : List Ccb) (bytes : List UInt8) (cfg : CfgInfo)
    (id cmdLen p : Nat) : List Action × CfgInfo × Bool :=
  let pNextCmd := p + cmdLen
  if p + 6 > pNextCmd then ([], cfg, false)
  else
    let lcid := readLe16 bytes p
    let cfg := { cfg with
      flags := readLe16 bytes (p + 2), result := readLe16 bytes (p + 4), flushToPresent := false,
      mtuPresent := false, qosPresent := false, fcrPresent := false, fcsPresent := false }
    match configRspOptions bytes pNextCmd (p + 6) cfg with
    | none => ([], cfg, false)
    | some cfg =>
      match l2cuFindCcbByCid channels lcid with
      | some ccb =>
        if ccb.localId ≠ id then ([], cfg, true) else ([.configRsp lcid cfg], cfg, true)
      | none => ([], cfg, true)

/-- An Information Response with its body from `p`; `1 << info_type` shifts a
32-bit `int`. -/
def processInfoRsp (bytes : List UInt8) (cfg : CfgInfo) (id cmdLen p : Nat) :
    Except Violation (List Action × CfgInfo × Bool) :=
  let pNextCmd := p + cmdLen
  if p + 4 > pNextCmd then pure ([], cfg, false)
  else
    let infoType := readLe16 bytes p
    let result := readLe16 bytes (p + 2)
    if infoType ≥ 32 then throw .shiftTooWide
    else if infoType = l2capExtendedFeaturesInfoType ∧ result = l2capInfoRespResultSuccess ∧
        p + 8 > pNextCmd then pure ([], cfg, false)
    else if infoType = l2capFixedChannelsInfoType ∧ result = l2capInfoRespResultSuccess ∧
        p + 4 + l2capFixedChnlArraySize > pNextCmd then pure ([], cfg, false)
    else pure ([.handled l2capCmdInfoRsp id], cfg, true)

/-- The switch of `process_l2cap_cmd` on one command with code `cmdCode` and
body from `p`: what it hands on, the configuration carried to the next command,
and whether the packet goes on (`false` where the C returns). -/
def processCommand (channels : List Ccb) (bytes : List UInt8) (cfg : CfgInfo)
    (cmdCode id cmdLen p : Nat) : Except Violation (List Action × CfgInfo × Bool) :=
  let pNextCmd := p + cmdLen
  -- a command the model does not follow, after the bytes it reads are checked
  let checked := fun (needed : Nat) =>
    if p + needed > pNextCmd then ([], cfg, false) else ([.handled cmdCode id], cfg, true)
  if cmdCode = l2capCmdReject then
    let rejReason := readLe16 bytes p
    if p + 2 > pNextCmd then pure ([], cfg, false)
    else if rejReason = l2capCmdRejMtuExceeded then pure (checked 4)
    else if rejReason = l2capCmdRejInvalidCid then pure (checked 6)
    else pure (checked 2)
  else if cmdCode = l2capCmdConnReq then pure (checked 4)
  else if cmdCode = l2capCmdConnRsp then pure (checked 8)
  else if cmdCode = l2capCmdConfigReq then pure (processConfigReq channels bytes cfg id cmdLen p)
  else if cmdCode = l2capCmdConfigRsp then pure (processConfigRsp channels bytes cfg id cmdLen p)
  else if cmdCode = l2capCmdDiscReq ∨ cmdCode = l2capCmdDiscRsp then pure (checked 4)
  else if cmdCode = l2capCmdEchoReq ∨ cmdCode = l2capCmdEchoRsp then pure (checked 0)
  else if cmdCode = l2capCmdInfoReq then pure (checked 2)
  else if cmdCode = l2capCmdInfoRsp then processInfoRsp bytes cfg id cmdLen p
  else pure ([.cmdReject l2capCmdRejNotUnderstood id], cfg, false)

/-- The command loop of `process_l2cap_cmd` from `p_next_cmd`: a command needs
its four header bytes, a length of at most `BT_SMALL_BUFFER_SIZE` (else a
reject ends the packet) and to end within the packet. In an oversized packet
(`pkt_size_rej`) the first request is rejected and nothing else is done. -/
def commandLoop (channels : List Ccb) (bytes : List UInt8) (pktSizeRej : Bool)
    (pNextCmd : Nat) (cfg : CfgInfo) : Except Violation (List Action) :=
  if pNextCmd + 4 > bytes.length then pure []
  else
    let cmdCode := rd8 bytes pNextCmd
    let id := rd8 bytes (pNextCmd + 1)
    let cmdLen := readLe16 bytes (pNextCmd + 2)
    let p := pNextCmd + 4
    if cmdLen > btSmallBufferSize then pure [.cmdReject l2capCmdRejMtuExceeded id]
    else if p + cmdLen > bytes.length then pure []
    else if pktSizeRej then
      if l2cIsCmdRejected cmdCode then pure [.cmdReject l2capCmdRejMtuExceeded id]
      else commandLoop channels bytes pktSizeRej (p + cmdLen) cfg
    else do
      let (actions, cfg, goOn) ← processCommand channels bytes cfg cmdCode id cmdLen p
      if goOn then
        let rest ← commandLoop channels bytes pktSizeRej (p + cmdLen) cfg
        pure (actions ++ rest)
      else pure actions
termination_by bytes.length - pNextCmd

/-- `process_l2cap_cmd` on a BR/EDR link for a signalling packet of `pkt_len`
bytes. -/
def processL2capCmd (channels : List Ccb) (bytes : List UInt8) : Except Violation (List Action) :=
  commandLoop channels bytes (decide (bytes.length > l2capDefaultMtu)) 0 CfgInfo.zero

/-! ## Options as a peer encodes them -/

/-- A configuration option: its type byte, whose top bit marks a hint, and its
value. -/
structure CfgOption where
  code : UInt8
  value : List UInt8
  deriving DecidableEq, Repr

namespace CfgOption

/-- The option's bytes: type, length, value. -/
def encode (o : CfgOption) : List UInt8 := o.code :: UInt8.ofNat o.value.length :: o.value

/-- The option's type without the hint bit. -/
def type (o : CfgOption) : Nat := o.code.toNat &&& 0x7F

/-- Whether the stack decodes options of this type. -/
def known (o : CfgOption) : Bool := (optionSize o.type).isSome

/-- Whether the option is a hint, which a receiver may ignore. -/
def hint (o : CfgOption) : Bool := decide (o.code.toNat &&& 0x80 ≠ 0)

/-- Whether a request carrying the option is answered with it in a reject. -/
def rejected (o : CfgOption) : Bool := !o.known && !o.hint

/-- An option whose length fits its byte, a known one having exactly the size
of its fields. -/
structure WellFormed (o : CfgOption) : Prop where
  fits : o.value.length < 256
  sized : ∀ size, optionSize o.type = some size → o.value.length = size

/-- What the option does to the configuration; one of a type the stack does not
decode does nothing. -/
def apply (cfg : CfgInfo) (o : CfgOption) : CfgInfo := storeOption cfg o.value o.type

/-- What the option does to a request's scan: a known option is stored, a hint
is passed over and any other option is counted for the reject. -/
def scan (s : ReqScan) (o : CfgOption) : ReqScan :=
  if o.known then { s with cfg := storeOption s.cfg o.value o.type }
  else if o.hint then s
  else { s with cfgRej := true, cfgRejLen := s.cfgRejLen + o.encode.length }

end CfgOption

/-- The bytes of a list of options. -/
def encodeOptions (opts : List CfgOption) : List UInt8 := opts.flatMap CfgOption.encode

/-- The reject a request should get for the options `opts`: the L2CAP and
command headers, each with the length of what follows it, the channel, no
flags, the result "unknown options", and the options. -/
def configRejPacket (remoteId remoteCid : Nat) (opts : List CfgOption) : List UInt8 :=
  let body := le16 remoteCid ++ le16 0 ++ le16 l2capCfgUnknownOptions ++ encodeOptions opts
  le16 (l2capCmdOverhead + body.length) ++ le16 l2capSignallingCid ++
    [UInt8.ofNat l2capCmdConfigRsp, UInt8.ofNat remoteId] ++ le16 body.length ++ body

/-! ## Reads over concatenated bytes -/

/-- A byte inside the first of two lists reads the same through both. -/
theorem rd8_append_of_lt (front back : List UInt8) (position : Nat)
    (inside : position < front.length) :
    rd8 (front ++ back) position = rd8 front position := by
  simp only [rd8, List.getD_eq_getElem?_getD, List.getElem?_append_left inside]

/-- A 32-bit field inside the first of two lists reads the same through both. -/
theorem rd32_append_of_le (front back : List UInt8) (position : Nat)
    (inside : position + 4 ≤ front.length) :
    rd32 (front ++ back) position = rd32 front position := by
  unfold rd32
  rw [readLe16_append_of_le _ _ _ (by omega), readLe16_append_of_le _ _ _ (by omega)]

/-- A known option's fields are read from its value alone, whatever follows
it. -/
theorem storeOption_append (cfg : CfgInfo) (value back : List UInt8) (code : Nat)
    (fits : ∀ size, optionSize code = some size → size ≤ value.length) :
    storeOption cfg (value ++ back) code = storeOption cfg value code := by
  unfold storeOption
  split_ifs with mtu flush qos fcr fcs ext
  · subst mtu
    have room := fits _ rfl
    simp (disch := omega) only [readLe16_append_of_le]
  · subst flush
    have room := fits _ rfl
    simp (disch := omega) only [readLe16_append_of_le]
  · subst qos
    have room := fits _ rfl
    simp (disch := omega) only [rd8_append_of_lt, rd32_append_of_le]
  · subst fcr
    have room := fits _ rfl
    simp (disch := omega) only [rd8_append_of_lt, readLe16_append_of_le]
  · subst fcs
    have room := fits _ rfl
    simp (disch := omega) only [rd8_append_of_lt]
  · subst ext
    have room := fits _ rfl
    simp (disch := omega) only [rd8_append_of_lt, readLe16_append_of_le, rd32_append_of_le]
  · rfl

namespace CfgOption

/-- An option takes two header bytes and its value. -/
@[simp] theorem length_encode (o : CfgOption) : o.encode.length = o.value.length + 2 := by
  simp [encode]

/-- The type as the loops compute it from the byte they read. -/
theorem type_def (o : CfgOption) : o.code.toNat &&& 0x7F = o.type := rfl

/-- An option is not a hint exactly when the loops find the hint bit clear. -/
theorem hint_eq_false (o : CfgOption) : o.hint = false ↔ o.code.toNat &&& 0x80 = 0 := by
  simp [hint]

/-- The type byte of an option read where the option starts. -/
theorem rd8_encode_code (front back : List UInt8) (o : CfgOption) :
    rd8 (front ++ o.encode ++ back) front.length = o.code.toNat := by
  simp [rd8, encode, List.getD_eq_getElem?_getD]

/-- The length byte of an option read after its type. -/
theorem rd8_encode_length (front back : List UInt8) (o : CfgOption) (fits : o.value.length < 256) :
    rd8 (front ++ o.encode ++ back) (front.length + 1) = o.value.length := by
  simp [rd8, encode, List.getD_eq_getElem?_getD,
    UInt8.toNat_ofNat_of_lt' fits]

/-- The bytes after an option's header are its value and what follows it. -/
theorem drop_encode (front back : List UInt8) (o : CfgOption) :
    (front ++ o.encode ++ back).drop (front.length + 2) = o.value ++ back := by
  simp [encode]

end CfgOption

/-! ## The request's option loop -/

open CfgOption in
/-- A known option of exactly its size is stored and passed by its own
length. -/
theorem configReqOptions_known (front back : List UInt8) (o : CfgOption) (pNextCmd cmdLen : Nat)
    (scan : ReqScan) (wellFormed : o.WellFormed) (known : o.known)
    (ends : front.length + o.encode.length ≤ pNextCmd) :
    configReqOptions (front ++ o.encode ++ back) pNextCmd cmdLen front.length scan =
      configReqOptions (front ++ o.encode ++ back) pNextCmd cmdLen
        (front.length + o.encode.length) (o.scan scan) := by
  obtain ⟨size, sized⟩ := Option.isSome_iff_exists.mp known
  have exact := wellFormed.sized size sized
  rw [length_encode] at ends ⊢
  rw [configReqOptions, if_pos (by omega), if_neg (by omega)]
  simp only [rd8_encode_code, rd8_encode_length _ _ _ wellFormed.fits, drop_encode, type_def,
    sized, exact, ne_eq, not_true_eq_false, if_false, if_neg (show ¬ front.length + 2 + size > pNextCmd by omega)]
  rw [storeOption_append _ _ _ _ (by simp [sized, exact]), show front.length + 2 + size = front.length + (size + 2) by omega]
  simp [CfgOption.scan, known]

open CfgOption in
/-- An unknown option whose length the command can hold is passed by its own
length, counted for the reject unless it is a hint. -/
theorem configReqOptions_unknown (front back : List UInt8) (o : CfgOption) (pNextCmd cmdLen : Nat)
    (scan : ReqScan) (fits : o.value.length < 256) (unknown : o.known = false)
    (ends : front.length + o.encode.length ≤ pNextCmd) (bounded : o.encode.length ≤ cmdLen) :
    configReqOptions (front ++ o.encode ++ back) pNextCmd cmdLen front.length scan =
      configReqOptions (front ++ o.encode ++ back) pNextCmd cmdLen
        (front.length + o.encode.length) (o.scan scan) := by
  have absent : optionSize o.type = none := by simpa [CfgOption.known] using unknown
  rw [length_encode] at ends bounded ⊢
  have inside : ¬ front.length + 2 + o.value.length > pNextCmd := by omega
  rw [configReqOptions, if_pos (by omega), if_neg (by omega)]
  simp only [rd8_encode_code, rd8_encode_length _ _ _ fits, type_def, absent,
    l2capCfgOptionOverhead, if_pos bounded, if_neg inside, ← hint_eq_false]
  rw [show front.length + 2 + o.value.length = front.length + (o.value.length + 2) by omega]
  cases hinted : o.hint
  · simp [CfgOption.scan, unknown, hinted, Nat.add_assoc]
  · simp [CfgOption.scan, unknown, hinted]

/-- One pass of the request's loop consumes exactly one option, `2 + cfg_len`
bytes, and does what the option means. -/
theorem configReqOptions_option (front back : List UInt8) (o : CfgOption) (pNextCmd cmdLen : Nat)
    (scan : ReqScan) (wellFormed : o.WellFormed)
    (ends : front.length + o.encode.length ≤ pNextCmd) (bounded : o.encode.length ≤ cmdLen) :
    configReqOptions (front ++ o.encode ++ back) pNextCmd cmdLen front.length scan =
      configReqOptions (front ++ o.encode ++ back) pNextCmd cmdLen
        (front.length + o.encode.length) (o.scan scan) := by
  cases known : o.known
  · exact configReqOptions_unknown front back o pNextCmd cmdLen scan wellFormed.fits known ends
      bounded
  · exact configReqOptions_known front back o pNextCmd cmdLen scan wellFormed known ends

/-- The bytes of a list of options, the first option first. -/
theorem encodeOptions_cons (o : CfgOption) (rest : List CfgOption) :
    encodeOptions (o :: rest) = o.encode ++ encodeOptions rest := by
  simp [encodeOptions]

/-- The request's loop over well-formed options, each of which the command
can hold, ends with the scan the options mean, one after the other. -/
theorem configReqOptions_encodeOptions (cmdLen : Nat) (opts : List CfgOption)
    (wellFormed : ∀ o ∈ opts, o.WellFormed) (bounded : ∀ o ∈ opts, o.encode.length ≤ cmdLen)
    (front back : List UInt8) (scan : ReqScan) :
    configReqOptions (front ++ encodeOptions opts ++ back)
        (front.length + (encodeOptions opts).length) cmdLen front.length scan =
      some (opts.foldl CfgOption.scan scan) := by
  induction opts generalizing front scan with
  | nil =>
    rw [configReqOptions, if_neg (by simp [encodeOptions])]
    rfl
  | cons o rest ih =>
    have bytes : front ++ encodeOptions (o :: rest) ++ back =
        front ++ o.encode ++ (encodeOptions rest ++ back) := by
      simp [encodeOptions_cons]
    have ends : front.length + (encodeOptions (o :: rest)).length =
        (front ++ o.encode).length + (encodeOptions rest).length := by
      simp only [encodeOptions_cons, List.length_append]
      omega
    rw [bytes, ends, configReqOptions_option _ _ _ _ _ _ (wellFormed o (by simp)) (by simp)
      (bounded o (by simp))]
    have regrouped : front ++ o.encode ++ (encodeOptions rest ++ back) =
        front ++ o.encode ++ encodeOptions rest ++ back := by
      simp
    have start : front.length + o.encode.length = (front ++ o.encode).length := by simp
    rw [regrouped, start,
      ih (fun o' mem => wellFormed o' (by simp [mem])) (fun o' mem => bounded o' (by simp [mem]))]
    rfl

/-! ## The response's option loop -/

open CfgOption in
/-- The response's loop reads a known option of exactly its size as the
request's does. -/
theorem configRspOptions_known (front back : List UInt8) (o : CfgOption) (pNextCmd : Nat)
    (cfg : CfgInfo) (wellFormed : o.WellFormed) (known : o.known)
    (ends : front.length + o.encode.length ≤ pNextCmd) :
    configRspOptions (front ++ o.encode ++ back) pNextCmd front.length cfg =
      configRspOptions (front ++ o.encode ++ back) pNextCmd (front.length + o.encode.length)
        (o.apply cfg) := by
  obtain ⟨size, sized⟩ := Option.isSome_iff_exists.mp known
  have exact := wellFormed.sized size sized
  rw [length_encode] at ends ⊢
  rw [configRspOptions, if_pos (by omega), if_neg (by omega)]
  simp only [rd8_encode_code, drop_encode, type_def, sized,
    if_neg (show ¬ front.length + 2 + size > pNextCmd by omega)]
  rw [storeOption_append _ _ _ _ (by simp [sized, exact]),
    show front.length + 2 + size = front.length + (o.value.length + 2) by omega]
  rfl

open CfgOption in
/-- On options that are all known and of exactly their sizes, the response's
loop stores each of them in turn. -/
theorem configRspOptions_encodeOptions (opts : List CfgOption)
    (wellFormed : ∀ o ∈ opts, o.WellFormed) (known : ∀ o ∈ opts, o.known)
    (front back : List UInt8) (cfg : CfgInfo) :
    configRspOptions (front ++ encodeOptions opts ++ back)
        (front.length + (encodeOptions opts).length) front.length cfg =
      some (opts.foldl CfgOption.apply cfg) := by
  induction opts generalizing front cfg with
  | nil =>
    rw [configRspOptions, if_neg (by simp [encodeOptions])]
    rfl
  | cons o rest ih =>
    have bytes : front ++ encodeOptions (o :: rest) ++ back =
        front ++ o.encode ++ (encodeOptions rest ++ back) := by
      simp [encodeOptions_cons]
    have ends : front.length + (encodeOptions (o :: rest)).length =
        (front ++ o.encode).length + (encodeOptions rest).length := by
      simp only [encodeOptions_cons, List.length_append]
      omega
    rw [bytes, ends, configRspOptions_known _ _ _ _ _ (wellFormed o (by simp)) (known o (by simp))
      (by simp)]
    have regrouped : front ++ o.encode ++ (encodeOptions rest ++ back) =
        front ++ o.encode ++ encodeOptions rest ++ back := by
      simp
    have start : front.length + o.encode.length = (front ++ o.encode).length := by simp
    rw [regrouped, start,
      ih (fun o' mem => wellFormed o' (by simp [mem])) (fun o' mem => known o' (by simp [mem]))]
    rfl

/-- An option of a type the stack does not decode leaves the configuration
as it is. -/
theorem storeOption_of_unknown (cfg : CfgInfo) (value : List UInt8) (code : Nat)
    (absent : optionSize code = none) : storeOption cfg value code = cfg := by
  unfold optionSize at absent
  unfold storeOption
  split_ifs at absent ⊢
  rfl

/-- The configuration a request's scan arrives at is every option applied in
turn; unknown ones change nothing. -/
theorem foldl_scan_cfg (opts : List CfgOption) (scan : ReqScan) :
    (opts.foldl CfgOption.scan scan).cfg = opts.foldl CfgOption.apply scan.cfg := by
  induction opts generalizing scan with
  | nil => rfl
  | cons o rest ih =>
    simp only [List.foldl_cons]
    rw [ih]
    congr 1
    cases known : o.known
    · have absent : optionSize o.type = none := by simpa [CfgOption.known] using known
      cases hinted : o.hint <;>
        simp [CfgOption.scan, known, hinted, CfgOption.apply, storeOption_of_unknown _ _ _ absent]
    · simp [CfgOption.scan, known, CfgOption.apply]

/-! ## The configuration reject -/

open CfgOption in
/-- One pass of the reject's loop passes one option by its own length, copying
it when it is to be rejected. -/
theorem rejectedOptions_option (front back : List UInt8) (o : CfgOption) (pDataEnd dataLen : Nat)
    (bufSpace : Nat) (wellFormed : o.WellFormed)
    (ends : front.length + o.encode.length ≤ pDataEnd) (bounded : o.encode.length ≤ dataLen)
    (room : o.rejected → o.encode.length ≤ bufSpace) :
    rejectedOptions (front ++ o.encode ++ back) pDataEnd dataLen front.length bufSpace =
      (if o.rejected then o.encode else []) ++
        rejectedOptions (front ++ o.encode ++ back) pDataEnd dataLen
          (front.length + o.encode.length)
          (if o.rejected then bufSpace - o.encode.length else bufSpace) := by
  have window : window (front ++ o.encode ++ back) front.length (o.value.length + 2) = o.encode := by
    rw [← length_encode]
    exact ByteBuffer.window_append_length front o.encode back
  rw [length_encode] at ends bounded room ⊢
  rw [rejectedOptions, if_pos (by omega)]
  simp only [rd8_encode_code, rd8_encode_length _ _ _ wellFormed.fits, type_def,
    l2capCfgOptionOverhead]
  cases known : o.known
  · have absent : optionSize o.type = none := by simpa [CfgOption.known] using known
    cases hinted : o.hint
    · have copied : o.rejected := by simp [CfgOption.rejected, known, hinted]
      simp only [absent, Option.isSome_none, Bool.false_eq_true, if_false, if_pos bounded,
        (hint_eq_false o).mp hinted, if_true, if_pos (room copied), window, copied]
    · have passed : o.rejected = false := by simp [CfgOption.rejected, hinted]
      have marked : ¬ o.code.toNat &&& 0x80 = 0 := by
        simpa [CfgOption.hint] using hinted
      simp [absent, bounded, marked, passed]
  · have passed : o.rejected = false := by simp [CfgOption.rejected, known]
    have present : (optionSize o.type).isSome = true := known
    simp only [present, if_true, passed, Bool.false_eq_true, if_false, List.nil_append]

/-- The reject's loop over well-formed options, with room for those to be
rejected, copies exactly those options, in order. -/
theorem rejectedOptions_encodeOptions (dataLen : Nat) (opts : List CfgOption)
    (wellFormed : ∀ o ∈ opts, o.WellFormed) (bounded : ∀ o ∈ opts, o.encode.length ≤ dataLen)
    (front back : List UInt8) (bufSpace : Nat)
    (room : (encodeOptions (opts.filter CfgOption.rejected)).length ≤ bufSpace) :
    rejectedOptions (front ++ encodeOptions opts ++ back)
        (front.length + (encodeOptions opts).length) dataLen front.length bufSpace =
      encodeOptions (opts.filter CfgOption.rejected) := by
  induction opts generalizing front bufSpace with
  | nil =>
    rw [rejectedOptions, if_neg (by simp [encodeOptions])]
    rfl
  | cons o rest ih =>
    have bytes : front ++ encodeOptions (o :: rest) ++ back =
        front ++ o.encode ++ (encodeOptions rest ++ back) := by
      simp [encodeOptions_cons]
    have ends : front.length + (encodeOptions (o :: rest)).length =
        (front ++ o.encode).length + (encodeOptions rest).length := by
      simp only [encodeOptions_cons, List.length_append]
      omega
    have regrouped : front ++ o.encode ++ (encodeOptions rest ++ back) =
        front ++ o.encode ++ encodeOptions rest ++ back := by
      simp
    have start : front.length + o.encode.length = (front ++ o.encode).length := by simp
    have wellFormed' : ∀ o' ∈ rest, o'.WellFormed := fun o' mem => wellFormed o' (by simp [mem])
    have bounded' : ∀ o' ∈ rest, o'.encode.length ≤ dataLen :=
      fun o' mem => bounded o' (by simp [mem])
    cases copied : o.rejected
    · have room' : (encodeOptions (rest.filter CfgOption.rejected)).length ≤ bufSpace := by
        simpa [copied] using room
      rw [bytes, ends, rejectedOptions_option _ _ _ _ _ _ (wellFormed o (by simp)) (by simp)
        (bounded o (by simp)) (by simp [copied]), regrouped, start]
      simp only [copied, Bool.false_eq_true, if_false, List.nil_append]
      rw [ih wellFormed' bounded' _ _ room']
      simp [copied]
    · have room' : (encodeOptions (rest.filter CfgOption.rejected)).length ≤
          bufSpace - o.encode.length := by
        simp only [List.filter_cons, copied, if_true, encodeOptions_cons,
          List.length_append] at room
        omega
      rw [bytes, ends, rejectedOptions_option _ _ _ _ _ _ (wellFormed o (by simp)) (by simp)
        (bounded o (by simp)) (fun _ => by simp only [List.filter_cons, copied, if_true,
          encodeOptions_cons, List.length_append] at room; omega), regrouped, start]
      simp only [copied, if_true]
      rw [ih wellFormed' bounded' _ _ room']
      simp [copied, encodeOptions_cons]

/-- The reject length a request's loop counts is that of its options to be
rejected, and it rejects exactly when it has one. -/
theorem foldl_scan_rejected (opts : List CfgOption) (scan : ReqScan) :
    (opts.foldl CfgOption.scan scan).cfgRejLen =
        scan.cfgRejLen + (encodeOptions (opts.filter CfgOption.rejected)).length ∧
      (opts.foldl CfgOption.scan scan).cfgRej = (scan.cfgRej || opts.any CfgOption.rejected) := by
  induction opts generalizing scan with
  | nil => simp [encodeOptions]
  | cons o rest ih =>
    simp only [List.foldl_cons]
    obtain ⟨length, rejects⟩ := ih (o.scan scan)
    rw [length, rejects]
    cases known : o.known <;> cases hinted : o.hint <;>
      simp [CfgOption.scan, CfgOption.rejected, known, hinted, encodeOptions_cons, Nat.add_assoc]

/-- An option takes at most the bytes of the list it is in. -/
theorem length_encode_le (opts : List CfgOption) (o : CfgOption) (mem : o ∈ opts) :
    o.encode.length ≤ (encodeOptions opts).length := by
  induction opts with
  | nil => simp at mem
  | cons o' rest ih =>
    rw [encodeOptions_cons, List.length_append]
    rcases List.mem_cons.mp mem with rfl | later
    · omega
    · have := ih later
      omega

/-- The options kept by a filter take at most the bytes of all of them. -/
theorem length_encodeOptions_filter_le (opts : List CfgOption) (keep : CfgOption → Bool) :
    (encodeOptions (opts.filter keep)).length ≤ (encodeOptions opts).length := by
  induction opts with
  | nil => simp
  | cons o rest ih =>
    rw [List.filter_cons, encodeOptions_cons, List.length_append]
    split
    · rw [encodeOptions_cons, List.length_append]
      omega
    · omega

/-- For well-formed options, `l2cu_send_peer_config_rej` with the reject length
the request's loop counts builds the reject of exactly the options to be
rejected. -/
theorem l2cuSendPeerConfigRej_encodeOptions (remoteId remoteCid : Nat) (front back : List UInt8)
    (opts : List CfgOption) (wellFormed : ∀ o ∈ opts, o.WellFormed)
    (short : (encodeOptions opts).length ≤ btSmallBufferSize) :
    l2cuSendPeerConfigRej remoteId remoteCid (front ++ encodeOptions opts ++ back) front.length
        (encodeOptions opts).length (encodeOptions (opts.filter CfgOption.rejected)).length =
      some (configRejPacket remoteId remoteCid (opts.filter CfgOption.rejected)) := by
  have within := length_encodeOptions_filter_le opts CfgOption.rejected
  unfold l2cuSendPeerConfigRej
  rw [if_neg (by simp only [btHdrSize, hciDataPreambleSize, l2capPktOverhead, l2capCmdOverhead,
      l2capConfigRspLen, btSmallBufferSize] at short ⊢; omega),
    rejectedOptions_encodeOptions _ _ wellFormed (length_encode_le opts) _ _ _ (Nat.le_refl _)]
  have fields : ∀ n : Nat, 2 + (2 + (2 + n)) = l2capConfigRspLen + n := fun n => by
    unfold l2capConfigRspLen
    omega
  simp only [configRejPacket, List.length_append, ByteBuffer.length_le16, List.append_assoc,
    Nat.add_assoc, fields]

/-- In the reject, the L2CAP length field counts the bytes after the L2CAP
header and the command length field those after the command header. -/
theorem configRejPacket_framed (remoteId remoteCid : Nat) (opts : List CfgOption)
    (short : (encodeOptions opts).length + 10 < 65536) :
    readLe16 (configRejPacket remoteId remoteCid opts) 0 + 4 =
        (configRejPacket remoteId remoteCid opts).length ∧
      readLe16 (configRejPacket remoteId remoteCid opts) 6 + 8 =
        (configRejPacket remoteId remoteCid opts).length := by
  have length : (configRejPacket remoteId remoteCid opts).length =
      (encodeOptions opts).length + 14 := by
    simp [configRejPacket]
    omega
  rw [length]
  unfold configRejPacket
  constructor
  · rw [List.append_assoc, List.append_assoc, List.append_assoc, ByteBuffer.readLe16_le16_append]
    simp only [List.length_append, ByteBuffer.length_le16, l2capCmdOverhead]
    omega
  · have front : (le16 (l2capCmdOverhead + (le16 remoteCid ++ le16 0 ++ le16 l2capCfgUnknownOptions ++
        encodeOptions opts).length) ++ le16 l2capSignallingCid ++
        [UInt8.ofNat l2capCmdConfigRsp, UInt8.ofNat remoteId]).length = 6 := by
      simp
    rw [← front, ByteBuffer.readLe16_append_le16]
    simp only [List.length_append, ByteBuffer.length_le16]
    omega

/-! ## Configuration commands -/

/-- A Configuration Request with well-formed options, for a known channel, is
answered by the reject of exactly its options to be rejected when it has one,
and is otherwise handed on with its options applied in turn. -/
theorem processConfigReq_encodeOptions (channels : List Ccb) (front back : List UInt8)
    (cfg : CfgInfo) (id lcid flags : Nat) (opts : List CfgOption) (ccb : Ccb)
    (wellFormed : ∀ o ∈ opts, o.WellFormed) (lcidFits : lcid < 65536) (flagsFits : flags < 65536)
    (short : (encodeOptions opts).length ≤ btSmallBufferSize)
    (found : l2cuFindCcbByCid channels lcid = some ccb) :
    (processConfigReq channels (front ++ le16 lcid ++ le16 flags ++ encodeOptions opts ++ back) cfg
        id (4 + (encodeOptions opts).length) front.length).1 =
      if opts.any CfgOption.rejected then
        [.configRej (configRejPacket id ccb.remoteCid (opts.filter CfgOption.rejected))]
      else
        [.configReq lcid (opts.foldl CfgOption.apply
          { cfg with
            flags := flags, flushToPresent := false, mtuPresent := false, qosPresent := false,
            fcrPresent := false, fcsPresent := false })] := by
  have lcidRead : readLe16 (front ++ le16 lcid ++ le16 flags ++ encodeOptions opts ++ back)
      front.length = lcid := by
    have stored := ByteBuffer.readLe16_append_le16 front (le16 flags ++ encodeOptions opts ++ back) lcid
    simpa only [List.append_assoc, Nat.mod_eq_of_lt lcidFits] using stored
  have flagsRead : readLe16 (front ++ le16 lcid ++ le16 flags ++ encodeOptions opts ++ back)
      (front.length + 2) = flags := by
    have stored := ByteBuffer.readLe16_append_le16 (front ++ le16 lcid) (encodeOptions opts ++ back)
      flags
    simpa only [List.append_assoc, List.length_append, ByteBuffer.length_le16,
      Nat.mod_eq_of_lt flagsFits] using stored
  have header : (front ++ le16 lcid ++ le16 flags).length = front.length + 4 := by simp
  have scanned := configReqOptions_encodeOptions (4 + (encodeOptions opts).length) opts wellFormed
    (fun o mem => by have := length_encode_le opts o mem; omega) (front ++ le16 lcid ++ le16 flags)
    back ⟨{ cfg with
            flags := flags, flushToPresent := false, mtuPresent := false, qosPresent := false,
            fcrPresent := false, fcsPresent := false }, false, 0⟩
  rw [header, show front.length + 4 + (encodeOptions opts).length =
    front.length + (4 + (encodeOptions opts).length) by omega] at scanned
  obtain ⟨rejLen, rejects⟩ := foldl_scan_rejected opts ⟨{ cfg with
            flags := flags, flushToPresent := false, mtuPresent := false, qosPresent := false,
            fcrPresent := false, fcsPresent := false }, false, 0⟩
  unfold processConfigReq
  simp only [if_neg (show ¬ front.length + 4 > front.length + (4 + (encodeOptions opts).length) by
    omega), lcidRead, flagsRead, scanned, found, rejects, Bool.false_or, rejLen, Nat.zero_add,
    foldl_scan_cfg]
  rw [show 4 + (encodeOptions opts).length - l2capConfigReqLen = (encodeOptions opts).length by
    unfold l2capConfigReqLen; omega, ← header,
    l2cuSendPeerConfigRej_encodeOptions _ _ _ _ _ wellFormed short]
  split <;> rfl

/-- A Configuration Response to our request whose options are all known and
well formed is handed on with its options applied in turn. -/
theorem processConfigRsp_encodeOptions (channels : List Ccb) (front back : List UInt8)
    (cfg : CfgInfo) (id lcid flags result : Nat) (opts : List CfgOption) (ccb : Ccb)
    (wellFormed : ∀ o ∈ opts, o.WellFormed) (known : ∀ o ∈ opts, o.known)
    (lcidFits : lcid < 65536) (flagsFits : flags < 65536) (resultFits : result < 65536)
    (found : l2cuFindCcbByCid channels lcid = some ccb) (expected : ccb.localId = id) :
    (processConfigRsp channels
        (front ++ le16 lcid ++ le16 flags ++ le16 result ++ encodeOptions opts ++ back) cfg id
        (6 + (encodeOptions opts).length) front.length).1 =
      [.configRsp lcid (opts.foldl CfgOption.apply
        { cfg with
          flags := flags, result := result, flushToPresent := false, mtuPresent := false,
          qosPresent := false, fcrPresent := false, fcsPresent := false })] := by
  have lcidRead : readLe16 (front ++ le16 lcid ++ le16 flags ++ le16 result ++ encodeOptions opts ++
      back) front.length = lcid := by
    have stored := ByteBuffer.readLe16_append_le16 front
      (le16 flags ++ le16 result ++ encodeOptions opts ++ back) lcid
    simpa only [List.append_assoc, Nat.mod_eq_of_lt lcidFits] using stored
  have flagsRead : readLe16 (front ++ le16 lcid ++ le16 flags ++ le16 result ++ encodeOptions opts ++
      back) (front.length + 2) = flags := by
    have stored := ByteBuffer.readLe16_append_le16 (front ++ le16 lcid)
      (le16 result ++ encodeOptions opts ++ back) flags
    simpa only [List.append_assoc, List.length_append, ByteBuffer.length_le16,
      Nat.mod_eq_of_lt flagsFits] using stored
  have resultRead : readLe16 (front ++ le16 lcid ++ le16 flags ++ le16 result ++ encodeOptions opts ++
      back) (front.length + 4) = result := by
    have stored := ByteBuffer.readLe16_append_le16 (front ++ le16 lcid ++ le16 flags)
      (encodeOptions opts ++ back) result
    simpa only [List.append_assoc, List.length_append, ByteBuffer.length_le16,
      Nat.mod_eq_of_lt resultFits, Nat.add_assoc] using stored
  have header : (front ++ le16 lcid ++ le16 flags ++ le16 result).length = front.length + 6 := by simp
  have scanned := configRspOptions_encodeOptions opts wellFormed known
    (front ++ le16 lcid ++ le16 flags ++ le16 result) back
    { cfg with
      flags := flags, result := result, flushToPresent := false, mtuPresent := false,
      qosPresent := false, fcrPresent := false, fcsPresent := false }
  rw [header, show front.length + 6 + (encodeOptions opts).length =
    front.length + (6 + (encodeOptions opts).length) by omega] at scanned
  unfold processConfigRsp
  simp only [if_neg (show ¬ front.length + 6 > front.length + (6 + (encodeOptions opts).length) by
    omega), lcidRead, flagsRead, resultRead, scanned, found, expected, ne_eq, not_true_eq_false,
    if_false]

/-- A Configuration Response whose first option is of an unknown type: its
value bytes are read as the header of an MTU option, and the MTU handed on is
`0x0201` where the peer sent `0x0040`. -/
theorem processL2capCmd_configRspMisread :
    processL2capCmd [⟨0x40, 0x41, 7⟩]
        ([UInt8.ofNat l2capCmdConfigRsp, 0x07, 0x0E, 0x00] ++ le16 0x40 ++ le16 0 ++ le16 0 ++
          encodeOptions [⟨0x10, [0x01, 0x02]⟩, ⟨0x01, [0x40, 0x00]⟩]) =
      .ok [.configRsp 0x40 { CfgInfo.zero with mtuPresent := true, mtu := 0x0201 }] ∧
    CfgOption.apply CfgInfo.zero ⟨0x01, [0x40, 0x00]⟩ =
      { CfgInfo.zero with mtuPresent := true, mtu := 0x0040 } := by
  constructor
  · decide +kernel
  · decide

end Fluoride.L2capSignal
