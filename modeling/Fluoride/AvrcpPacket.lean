import Fluoride.Octets
import Fluoride.ByteBuffer

/-!
# AVRCP request packets

The AVRCP packet library builds a request with a builder object and reads a
received one through a view class over the packet's octets. A builder's
`Serialize` appends to the packet with `AddPayloadOctets`, which writes the low
octets of a value least significant first; multi-octet fields are passed
through `base::ByteSwap` first, so they go on the wire most significant octet
first. A view reads them back with `Iterator::extractBE` at fixed offsets from
the end of its header: `Packet::kMinSize` (3, the AV/C header),
`VendorPacket::kMinSize` (10, with the vendor-dependent header) or
`BrowsePacket::kMinSize` (3, the browsing header).

A packet is modelled as its list of octets. Dereferencing an iterator at the
end of a packet fails a `CHECK`; a read that would do so is `none`.

The enumerations of `avrcp_common.h` are scoped enumerations with a fixed
underlying type, so a value of one of them is any octet (or any 32-bit word
for `Attribute`), and a view casts whatever octet it finds; they are modelled
as structures around that octet. `std::set<Attribute>` is a list of attributes
in ascending order, the order in which the set is iterated.

The results are the round trips of the four request builders that have a view
(`getFolderItems_roundTrip`, `changePath_roundTrip`,
`getCapabilities_roundTrip`, `registerNotification_roundTrip`) and the exact
range in which the attribute list of a folder-items request survives:
`getFolderItems_attributes_iff` shows that it does for at most 254
attributes and for no more, because a count of 255 is written as the octet
`0xFF`, which the view reads as "no attributes".
-/

namespace Fluoride.AvrcpPacket

open Octets
open ByteBuffer (window window_append_length)

/-! ### The octet appender, `ByteSwap` and the iterator -/

/-- `bluetooth::PacketBuilder::AddPayloadOctets`: append the `octets` low octets
of `value`, least significant first. `ReserveSpace` only reserves capacity, so
it has no image in the model. -/
def addPayloadOctets (pkt : List UInt8) (octets : Nat) (value : UInt64) : List UInt8 :=
  pkt ++ leOctets octets value.toNat

/-- `AddPayloadOctets1`. -/
def addPayloadOctets1 (pkt : List UInt8) (value : UInt8) : List UInt8 :=
  addPayloadOctets pkt 1 value.toUInt64

/-- `AddPayloadOctets2`. -/
def addPayloadOctets2 (pkt : List UInt8) (value : UInt16) : List UInt8 :=
  addPayloadOctets pkt 2 value.toUInt64

/-- `AddPayloadOctets4`. -/
def addPayloadOctets4 (pkt : List UInt8) (value : UInt32) : List UInt8 :=
  addPayloadOctets pkt 4 value.toUInt64

/-- `AddPayloadOctets8`. -/
def addPayloadOctets8 (pkt : List UInt8) (value : UInt64) : List UInt8 :=
  addPayloadOctets pkt 8 value

/-- `base::ByteSwap` on a `uint16_t`. -/
def byteSwap16 (value : UInt16) : UInt16 :=
  UInt16.ofNat (byteSwap 2 value.toNat)

/-- `base::ByteSwap` on a `uint32_t`. -/
def byteSwap32 (value : UInt32) : UInt32 :=
  UInt32.ofNat (byteSwap 4 value.toNat)

/-- `base::ByteSwap` on a `uint64_t`. -/
def byteSwap64 (value : UInt64) : UInt64 :=
  UInt64.ofNat (byteSwap 8 value.toNat)

/-- `*(begin() + index)`: the octet at `index`; dereferencing `end()` fails the
iterator's `CHECK`. -/
def octetAt (bytes : List UInt8) (index : Nat) : Option UInt8 :=
  bytes[index]?

/-- `Iterator::extractBE` of a `width`-octet integer from `index`, most
significant octet first; it fails the `CHECK` when it reaches `end()`. -/
def extractBE (bytes : List UInt8) (index width : Nat) : Option Nat :=
  if index + width ≤ bytes.length then some (beValue (window bytes index width)) else none

/-! ### Enumerations -/

/-- `enum class CType : uint8_t`. -/
structure CType where
  value : UInt8
  deriving DecidableEq, Repr

/-- `CType::STATUS`. -/
def CType.status : CType := ⟨0x1⟩

/-- `CType::NOTIFY`. -/
def CType.notify : CType := ⟨0x3⟩

/-- `enum class Opcode : uint8_t`. -/
structure Opcode where
  value : UInt8
  deriving DecidableEq, Repr

/-- `Opcode::VENDOR`. -/
def Opcode.vendor : Opcode := ⟨0x00⟩

/-- `enum class CommandPdu : uint8_t`. -/
structure CommandPdu where
  value : UInt8
  deriving DecidableEq, Repr

/-- `CommandPdu::GET_CAPABILITIES`. -/
def CommandPdu.getCapabilities : CommandPdu := ⟨0x10⟩

/-- `CommandPdu::REGISTER_NOTIFICATION`. -/
def CommandPdu.registerNotification : CommandPdu := ⟨0x31⟩

/-- `enum class PacketType : uint8_t`. -/
structure PacketType where
  value : UInt8
  deriving DecidableEq, Repr

/-- `PacketType::SINGLE`. -/
def PacketType.single : PacketType := ⟨0x00⟩

/-- `enum class BrowsePdu : uint8_t`. -/
structure BrowsePdu where
  value : UInt8
  deriving DecidableEq, Repr

/-- `BrowsePdu::GET_FOLDER_ITEMS`. -/
def BrowsePdu.getFolderItems : BrowsePdu := ⟨0x71⟩

/-- `BrowsePdu::CHANGE_PATH`. -/
def BrowsePdu.changePath : BrowsePdu := ⟨0x72⟩

/-- `enum class Capability : uint8_t`. -/
structure Capability where
  value : UInt8
  deriving DecidableEq, Repr

/-- `enum class Event : uint8_t`. -/
structure Event where
  value : UInt8
  deriving DecidableEq, Repr

/-- `enum class Scope : uint8_t`. -/
structure Scope where
  value : UInt8
  deriving DecidableEq, Repr

/-- `enum class Direction : uint8_t`. -/
structure Direction where
  value : UInt8
  deriving DecidableEq, Repr

/-- `enum class Attribute : uint32_t`. -/
structure Attribute where
  value : UInt32
  deriving DecidableEq, Repr

/-- `std::set<Attribute>`: its elements in the order the set iterates them,
ascending by value, so each at most once. -/
structure AttributeSet where
  toList : List Attribute
  ascending : toList.Pairwise fun first second => first.value < second.value

/-- `std::set::size`. -/
def AttributeSet.size (set : AttributeSet) : Nat :=
  set.toList.length

/-- `BLUETOOTH_COMPANY_ID`. -/
def bluetoothCompanyId : UInt32 := 0x001958

/-! ### Header sizes -/

/-- `Packet::kMinSize`: the AV/C header. -/
def Packet.kMinSize : Nat := 3

/-- `VendorPacket::kMinSize`: the AV/C header and the vendor-dependent header. -/
def VendorPacket.kMinSize : Nat := Packet.kMinSize + 7

/-- `BrowsePacket::kMinSize`: the browsing header. -/
def BrowsePacket.kMinSize : Nat := 3

/-- `GetFolderItemsRequest::kMinSize`. -/
def GetFolderItemsRequest.kMinSize : Nat := BrowsePacket.kMinSize + 10

/-- `ChangePathRequest::kMinSize`. -/
def ChangePathRequest.kMinSize : Nat := BrowsePacket.kMinSize + 11

/-- `GetCapabilitiesRequest::kMinSize`. -/
def GetCapabilitiesRequest.kMinSize : Nat := VendorPacket.kMinSize + 1

/-- `RegisterNotificationRequest::kMinSize`. -/
def RegisterNotificationRequest.kMinSize : Nat := VendorPacket.kMinSize + 5

/-! ### Header builders -/

/-- `avrcp::PacketBuilder`: the fields of the AV/C header. -/
structure PacketBuilder where
  cType : CType
  subunitType : UInt8
  subunitId : UInt8
  opcode : Opcode

/-- `avrcp::PacketBuilder::PushHeader`. -/
def PacketBuilder.pushHeader (builder : PacketBuilder) (pkt : List UInt8) : List UInt8 :=
  let pkt := addPayloadOctets1 pkt builder.cType.value
  let pkt := addPayloadOctets1 pkt ((builder.subunitType <<< 3) ||| builder.subunitId)
  addPayloadOctets1 pkt builder.opcode.value

/-- The loop of `PacketBuilder::PushCompanyId`: `rounds` times, shift the swapped
identifier right by an octet and push its low octet. -/
def pushCompanyIdLoop : Nat → UInt32 → List UInt8 → List UInt8
  | 0, _, pkt => pkt
  | rounds + 1, companyId, pkt =>
    let companyId := companyId >>> 8
    pushCompanyIdLoop rounds companyId (addPayloadOctets1 pkt (companyId &&& 0xFF).toUInt8)

/-- `PacketBuilder::PushCompanyId`. -/
def PacketBuilder.pushCompanyId (pkt : List UInt8) (companyId : UInt32) : List UInt8 :=
  pushCompanyIdLoop 3 (byteSwap32 companyId) pkt

/-- `VendorPacketBuilder`: the AV/C header of a vendor-dependent command and
the fields of its vendor header. -/
structure VendorPacketBuilder extends PacketBuilder where
  pdu : CommandPdu
  packetType : PacketType

/-- The constructor `VendorPacketBuilder(ctype, pdu, packet_type)`: subunit
type `0x09` (panel), subunit id `0` and the vendor-dependent opcode. -/
def VendorPacketBuilder.make (cType : CType) (pdu : CommandPdu) (packetType : PacketType) :
    VendorPacketBuilder :=
  { cType, subunitType := 0x09, subunitId := 0x00, opcode := Opcode.vendor, pdu, packetType }

/-- `VendorPacketBuilder::PushHeader`. -/
def VendorPacketBuilder.pushHeader (builder : VendorPacketBuilder) (pkt : List UInt8)
    (parameterLength : UInt16) : List UInt8 :=
  let pkt := PacketBuilder.pushCompanyId pkt bluetoothCompanyId
  let pkt := addPayloadOctets1 pkt builder.pdu.value
  let pkt := addPayloadOctets1 pkt builder.packetType.value
  addPayloadOctets2 pkt (byteSwap16 parameterLength)

/-- `BrowsePacketBuilder`: the PDU of a browsing command. -/
structure BrowsePacketBuilder where
  pdu : BrowsePdu

/-- `BrowsePacketBuilder::PushHeader`. -/
def BrowsePacketBuilder.pushHeader (builder : BrowsePacketBuilder) (pkt : List UInt8)
    (length : UInt16) : List UInt8 :=
  let pkt := addPayloadOctets1 pkt builder.pdu.value
  addPayloadOctets2 pkt (byteSwap16 length)

/-! ### Request builders -/

/-- `GetFolderItemsRequestBuilder`. -/
structure GetFolderItemsRequestBuilder extends BrowsePacketBuilder where
  scope : Scope
  startItem : UInt32
  endItem : UInt32
  requestedAttrs : AttributeSet

/-- `GetFolderItemsRequestBuilder::MakeBuilder`. -/
def GetFolderItemsRequestBuilder.makeBuilder (scope : Scope) (startItem endItem : UInt32)
    (requestedAttrs : AttributeSet) : GetFolderItemsRequestBuilder :=
  { pdu := BrowsePdu.getFolderItems, scope, startItem, endItem, requestedAttrs }

/-- `GetFolderItemsRequestBuilder::size`. -/
def GetFolderItemsRequestBuilder.size (builder : GetFolderItemsRequestBuilder) : Nat :=
  GetFolderItemsRequest.kMinSize + builder.requestedAttrs.size * 4

/-- The loop of `GetFolderItemsRequestBuilder::Serialize` over the requested
attributes. -/
def GetFolderItemsRequestBuilder.pushRequestedAttrs (attrs : List Attribute)
    (pkt : List UInt8) : List UInt8 :=
  attrs.foldl (fun pkt attr => addPayloadOctets4 pkt (byteSwap32 attr.value)) pkt

/-- `GetFolderItemsRequestBuilder::Serialize`. -/
def GetFolderItemsRequestBuilder.serialize (builder : GetFolderItemsRequestBuilder)
    (pkt : List UInt8) : List UInt8 :=
  let pkt := builder.toBrowsePacketBuilder.pushHeader pkt
    (UInt16.ofNat (builder.size - BrowsePacket.kMinSize))
  let pkt := addPayloadOctets1 pkt builder.scope.value
  let pkt := addPayloadOctets4 pkt (byteSwap32 builder.startItem)
  let pkt := addPayloadOctets4 pkt (byteSwap32 builder.endItem)
  if builder.requestedAttrs.size = 0 then
    -- `0xFF` stands for "no attributes requested"
    addPayloadOctets1 pkt 0xFF
  else
    let pkt := addPayloadOctets1 pkt (UInt8.ofNat builder.requestedAttrs.size)
    pushRequestedAttrs builder.requestedAttrs.toList pkt

/-- `ChangePathRequestBuilder`. -/
structure ChangePathRequestBuilder extends BrowsePacketBuilder where
  uidCounter : UInt16
  direction : Direction
  folderUid : UInt64

/-- `ChangePathRequestBuilder::MakeBuilder`. -/
def ChangePathRequestBuilder.makeBuilder (uidCounter : UInt16) (direction : Direction)
    (folderUid : UInt64) : ChangePathRequestBuilder :=
  { pdu := BrowsePdu.changePath, uidCounter, direction, folderUid }

/-- `ChangePathRequestBuilder::size`. -/
def ChangePathRequestBuilder.size (_builder : ChangePathRequestBuilder) : Nat :=
  ChangePathRequest.kMinSize

/-- `ChangePathRequestBuilder::Serialize`. -/
def ChangePathRequestBuilder.serialize (builder : ChangePathRequestBuilder)
    (pkt : List UInt8) : List UInt8 :=
  let pkt := builder.toBrowsePacketBuilder.pushHeader pkt
    (UInt16.ofNat (builder.size - BrowsePacket.kMinSize))
  let pkt := addPayloadOctets2 pkt (byteSwap16 builder.uidCounter)
  let pkt := addPayloadOctets1 pkt builder.direction.value
  addPayloadOctets8 pkt (byteSwap64 builder.folderUid)

/-- `GetCapabilitiesRequestBuilder`. -/
structure GetCapabilitiesRequestBuilder extends VendorPacketBuilder where
  capability : Capability

/-- `GetCapabilitiesRequestBuilder::MakeBuilder`. -/
def GetCapabilitiesRequestBuilder.makeBuilder (capability : Capability) :
    GetCapabilitiesRequestBuilder :=
  { VendorPacketBuilder.make CType.status CommandPdu.getCapabilities PacketType.single with
    capability }

/-- `GetCapabilitiesRequestBuilder::size`. -/
def GetCapabilitiesRequestBuilder.size (_builder : GetCapabilitiesRequestBuilder) : Nat :=
  GetCapabilitiesRequest.kMinSize

/-- `GetCapabilitiesRequestBuilder::Serialize`: the parameter length is always 1. -/
def GetCapabilitiesRequestBuilder.serialize (builder : GetCapabilitiesRequestBuilder)
    (pkt : List UInt8) : List UInt8 :=
  let pkt := builder.toPacketBuilder.pushHeader pkt
  let pkt := builder.toVendorPacketBuilder.pushHeader pkt 1
  addPayloadOctets1 pkt builder.capability.value

/-- `RegisterNotificationRequestBuilder`. -/
structure RegisterNotificationRequestBuilder extends VendorPacketBuilder where
  event : Event
  interval : UInt32

/-- `RegisterNotificationRequestBuilder::MakeBuilder`. -/
def RegisterNotificationRequestBuilder.makeBuilder (event : Event) (interval : UInt32) :
    RegisterNotificationRequestBuilder :=
  { VendorPacketBuilder.make CType.notify CommandPdu.registerNotification PacketType.single with
    event, interval }

/-- `RegisterNotificationRequestBuilder::size`. -/
def RegisterNotificationRequestBuilder.size (_builder : RegisterNotificationRequestBuilder) :
    Nat :=
  RegisterNotificationRequest.kMinSize

/-- `RegisterNotificationRequestBuilder::Serialize`. -/
def RegisterNotificationRequestBuilder.serialize (builder : RegisterNotificationRequestBuilder)
    (pkt : List UInt8) : List UInt8 :=
  let pkt := builder.toPacketBuilder.pushHeader pkt
  let pkt := builder.toVendorPacketBuilder.pushHeader pkt
    (UInt16.ofNat (builder.size - VendorPacket.kMinSize))
  let pkt := addPayloadOctets1 pkt builder.event.value
  addPayloadOctets4 pkt (byteSwap32 builder.interval)

/-! ### Views -/

/-- `BrowsePacket::GetLength`. -/
def BrowsePacket.getLength (bytes : List UInt8) : Option UInt16 :=
  (extractBE bytes 1 2).map UInt16.ofNat

/-- `BrowsePacket::IsValid`. -/
def BrowsePacket.isValid (bytes : List UInt8) : Option Bool :=
  if bytes.length < BrowsePacket.kMinSize then some false
  else (getLength bytes).map fun length => bytes.length == length.toNat + BrowsePacket.kMinSize

/-- `VendorPacket::GetParameterLength`. -/
def VendorPacket.getParameterLength (bytes : List UInt8) : Option UInt16 :=
  (extractBE bytes (Packet.kMinSize + 5) 2).map UInt16.ofNat

/-- `VendorPacket::IsValid`: the parameter length against the octets after the
vendor header. -/
def VendorPacket.isValid (bytes : List UInt8) : Option Bool :=
  if bytes.length < VendorPacket.kMinSize then some false
  else (getParameterLength bytes).map fun parameterLength =>
    parameterLength.toNat == bytes.length - VendorPacket.kMinSize

/-- `GetFolderItemsRequest::GetScope`. -/
def GetFolderItemsRequest.getScope (bytes : List UInt8) : Option Scope :=
  (octetAt bytes BrowsePacket.kMinSize).map Scope.mk

/-- `GetFolderItemsRequest::GetStartItem`. -/
def GetFolderItemsRequest.getStartItem (bytes : List UInt8) : Option UInt32 :=
  (extractBE bytes (BrowsePacket.kMinSize + 1) 4).map UInt32.ofNat

/-- `GetFolderItemsRequest::GetEndItem`. -/
def GetFolderItemsRequest.getEndItem (bytes : List UInt8) : Option UInt32 :=
  (extractBE bytes (BrowsePacket.kMinSize + 5) 4).map UInt32.ofNat

/-- `GetFolderItemsRequest::GetNumAttributes`. -/
def GetFolderItemsRequest.getNumAttributes (bytes : List UInt8) : Option UInt8 :=
  octetAt bytes (BrowsePacket.kMinSize + 9)

/-- The loop of `GetFolderItemsRequest::GetAttributesRequested`: `count`
32-bit attributes from `it` on. -/
def GetFolderItemsRequest.extractAttributes (bytes : List UInt8) (it : Nat) :
    Nat → Option (List Attribute)
  | 0 => some []
  | count + 1 => do
    let attr ← extractBE bytes it 4
    let rest ← extractAttributes bytes (it + 4) count
    pure (⟨UInt32.ofNat attr⟩ :: rest)

/-- `GetFolderItemsRequest::GetAttributesRequested`. -/
def GetFolderItemsRequest.getAttributesRequested (bytes : List UInt8) :
    Option (List Attribute) := do
  let numberOfAttributes ← octetAt bytes (BrowsePacket.kMinSize + 9)
  -- no attributes requested
  if numberOfAttributes = 0xFF then pure []
  else extractAttributes bytes (BrowsePacket.kMinSize + 10) numberOfAttributes.toNat

/-- `GetFolderItemsRequest::IsValid`. -/
def GetFolderItemsRequest.isValid (bytes : List UInt8) : Option Bool := do
  let browseValid ← BrowsePacket.isValid bytes
  if !browseValid then pure false
  else if bytes.length < GetFolderItemsRequest.kMinSize then pure false
  else do
    let attrCount ← getNumAttributes bytes
    if attrCount = 0xFF then pure true
    else pure (attrCount.toNat * 4 == bytes.length - GetFolderItemsRequest.kMinSize)

/-- `ChangePathRequest::GetUidCounter`. -/
def ChangePathRequest.getUidCounter (bytes : List UInt8) : Option UInt16 :=
  (extractBE bytes BrowsePacket.kMinSize 2).map UInt16.ofNat

/-- `ChangePathRequest::GetDirection`. -/
def ChangePathRequest.getDirection (bytes : List UInt8) : Option Direction :=
  (octetAt bytes (BrowsePacket.kMinSize + 2)).map Direction.mk

/-- `ChangePathRequest::GetUid`. -/
def ChangePathRequest.getUid (bytes : List UInt8) : Option UInt64 :=
  (extractBE bytes (BrowsePacket.kMinSize + 3) 8).map UInt64.ofNat

/-- `ChangePathRequest::IsValid`: change-path requests have one size. -/
def ChangePathRequest.isValid (bytes : List UInt8) : Option Bool :=
  (BrowsePacket.isValid bytes).map fun browseValid =>
    browseValid && bytes.length == ChangePathRequest.kMinSize

/-- `GetCapabilitiesRequest::GetCapabilityRequested`. -/
def GetCapabilitiesRequest.getCapabilityRequested (bytes : List UInt8) : Option Capability :=
  (octetAt bytes VendorPacket.kMinSize).map Capability.mk

/-- `GetCapabilitiesRequest::IsValid`. -/
def GetCapabilitiesRequest.isValid (bytes : List UInt8) : Option Bool :=
  (VendorPacket.isValid bytes).map fun vendorValid =>
    vendorValid && bytes.length == VendorPacket.kMinSize + 1

/-- `RegisterNotificationRequest::GetEventRegistered`. -/
def RegisterNotificationRequest.getEventRegistered (bytes : List UInt8) : Option Event :=
  (octetAt bytes VendorPacket.kMinSize).map Event.mk

/-- `RegisterNotificationRequest::GetInterval`. -/
def RegisterNotificationRequest.getInterval (bytes : List UInt8) : Option UInt32 :=
  (extractBE bytes (VendorPacket.kMinSize + 1) 4).map UInt32.ofNat

/-- `RegisterNotificationRequest::IsValid`: only the size is checked, not the
vendor header. -/
def RegisterNotificationRequest.isValid (bytes : List UInt8) : Bool :=
  bytes.length == RegisterNotificationRequest.kMinSize

/-! ### The octets the builders write -/

@[simp] theorem addPayloadOctets1_eq (pkt : List UInt8) (value : UInt8) :
    addPayloadOctets1 pkt value = pkt ++ [value] := by
  simp [addPayloadOctets1, addPayloadOctets]

/-- A 16-bit field written through `ByteSwap` goes out most significant octet first. -/
@[simp] theorem addPayloadOctets2_byteSwap16 (pkt : List UInt8) (value : UInt16) :
    addPayloadOctets2 pkt (byteSwap16 value) = pkt ++ beOctets 2 value.toNat := by
  have fits : byteSwap 2 value.toNat < 2 ^ 16 := byteSwap_lt 2 value.toNat
  simp only [addPayloadOctets2, addPayloadOctets, byteSwap16, UInt16.toNat_toUInt64,
    UInt16.toNat_ofNat', Nat.mod_eq_of_lt fits, leOctets_byteSwap]

/-- A 32-bit field written through `ByteSwap` goes out most significant octet first. -/
@[simp] theorem addPayloadOctets4_byteSwap32 (pkt : List UInt8) (value : UInt32) :
    addPayloadOctets4 pkt (byteSwap32 value) = pkt ++ beOctets 4 value.toNat := by
  have fits : byteSwap 4 value.toNat < 2 ^ 32 := byteSwap_lt 4 value.toNat
  simp only [addPayloadOctets4, addPayloadOctets, byteSwap32, UInt32.toNat_toUInt64,
    UInt32.toNat_ofNat', Nat.mod_eq_of_lt fits, leOctets_byteSwap]

/-- A 64-bit field written through `ByteSwap` goes out most significant octet first. -/
@[simp] theorem addPayloadOctets8_byteSwap64 (pkt : List UInt8) (value : UInt64) :
    addPayloadOctets8 pkt (byteSwap64 value) = pkt ++ beOctets 8 value.toNat := by
  have fits : byteSwap 8 value.toNat < 2 ^ 64 := byteSwap_lt 8 value.toNat
  simp only [addPayloadOctets8, addPayloadOctets, byteSwap64, UInt64.toNat_ofNat',
    Nat.mod_eq_of_lt fits, leOctets_byteSwap]

@[simp] theorem PacketBuilder.pushHeader_eq (builder : PacketBuilder) (pkt : List UInt8) :
    builder.pushHeader pkt =
      pkt ++ [builder.cType.value, (builder.subunitType <<< 3) ||| builder.subunitId,
        builder.opcode.value] := by
  simp [PacketBuilder.pushHeader]

/-- The Bluetooth SIG company identifier goes out as `00 19 58`. -/
theorem PacketBuilder.pushCompanyId_bluetooth (pkt : List UInt8) :
    PacketBuilder.pushCompanyId pkt bluetoothCompanyId = pkt ++ [0x00, 0x19, 0x58] := by
  simp only [PacketBuilder.pushCompanyId, pushCompanyIdLoop, addPayloadOctets1_eq,
    List.append_assoc, List.singleton_append]
  rfl

@[simp] theorem VendorPacketBuilder.pushHeader_eq (builder : VendorPacketBuilder)
    (pkt : List UInt8) (parameterLength : UInt16) :
    builder.pushHeader pkt parameterLength =
      pkt ++ [0x00, 0x19, 0x58, builder.pdu.value, builder.packetType.value] ++
        beOctets 2 parameterLength.toNat := by
  simp [VendorPacketBuilder.pushHeader, PacketBuilder.pushCompanyId_bluetooth]

@[simp] theorem BrowsePacketBuilder.pushHeader_eq (builder : BrowsePacketBuilder)
    (pkt : List UInt8) (length : UInt16) :
    builder.pushHeader pkt length = pkt ++ builder.pdu.value :: beOctets 2 length.toNat := by
  simp [BrowsePacketBuilder.pushHeader]

/-- The requested attributes on the wire, each most significant octet first. -/
def attributeOctets (attrs : List Attribute) : List UInt8 :=
  attrs.flatMap fun attr => beOctets 4 attr.value.toNat

/-- The attribute count on the wire: `0xFF` for the empty set, otherwise the
size cut to an octet. -/
def countOctet (size : Nat) : UInt8 :=
  if size = 0 then 0xFF else UInt8.ofNat size

@[simp] theorem length_attributeOctets (attrs : List Attribute) :
    (attributeOctets attrs).length = attrs.length * 4 := by
  induction attrs with
  | nil => rfl
  | cons attr rest ih =>
    simp only [attributeOctets, List.flatMap_cons, List.length_append, length_beOctets,
      List.length_cons] at ih ⊢
    rw [ih]
    omega

theorem GetFolderItemsRequestBuilder.pushRequestedAttrs_eq (attrs : List Attribute)
    (pkt : List UInt8) : pushRequestedAttrs attrs pkt = pkt ++ attributeOctets attrs := by
  induction attrs generalizing pkt with
  | nil => simp [pushRequestedAttrs, attributeOctets]
  | cons attr rest ih =>
    have step := ih (pkt ++ beOctets 4 attr.value.toNat)
    simp only [pushRequestedAttrs, List.foldl_cons, addPayloadOctets4_byteSwap32] at step ⊢
    rw [step]
    simp [attributeOctets]

/-- The octets of a serialized folder-items request, field by field. -/
theorem GetFolderItemsRequestBuilder.serialize_eq (builder : GetFolderItemsRequestBuilder)
    (pkt : List UInt8) :
    builder.serialize pkt =
      pkt ++ builder.pdu.value ::
        beOctets 2 (UInt16.ofNat (builder.size - BrowsePacket.kMinSize)).toNat ++
        builder.scope.value :: beOctets 4 builder.startItem.toNat ++
        beOctets 4 builder.endItem.toNat ++
        countOctet builder.requestedAttrs.size :: attributeOctets builder.requestedAttrs.toList := by
  by_cases empty : builder.requestedAttrs.size = 0
  · have noAttrs : builder.requestedAttrs.toList = [] := List.eq_nil_of_length_eq_zero empty
    simp [serialize, empty, noAttrs, countOctet, attributeOctets]
  · simp [serialize, empty, countOctet, pushRequestedAttrs_eq]

theorem ChangePathRequestBuilder.serialize_eq (builder : ChangePathRequestBuilder)
    (pkt : List UInt8) :
    builder.serialize pkt =
      pkt ++ builder.pdu.value :: beOctets 2 11 ++ beOctets 2 builder.uidCounter.toNat ++
        builder.direction.value :: beOctets 8 builder.folderUid.toNat := by
  simp [serialize, size, ChangePathRequest.kMinSize, BrowsePacket.kMinSize]

theorem GetCapabilitiesRequestBuilder.serialize_eq (builder : GetCapabilitiesRequestBuilder)
    (pkt : List UInt8) :
    builder.serialize pkt =
      pkt ++ [builder.cType.value, (builder.subunitType <<< 3) ||| builder.subunitId,
        builder.opcode.value] ++ [0x00, 0x19, 0x58, builder.pdu.value, builder.packetType.value] ++
        beOctets 2 1 ++ [builder.capability.value] := by
  simp [serialize]

theorem RegisterNotificationRequestBuilder.serialize_eq
    (builder : RegisterNotificationRequestBuilder) (pkt : List UInt8) :
    builder.serialize pkt =
      pkt ++ [builder.cType.value, (builder.subunitType <<< 3) ||| builder.subunitId,
        builder.opcode.value] ++ [0x00, 0x19, 0x58, builder.pdu.value, builder.packetType.value] ++
        beOctets 2 5 ++ builder.event.value :: beOctets 4 builder.interval.toNat := by
  simp [serialize, size, RegisterNotificationRequest.kMinSize, VendorPacket.kMinSize,
    Packet.kMinSize]

/-! ### Reading fields back -/

/-- An octet reads back where the layout puts it. -/
theorem octetAt_layout (front : List UInt8) (octet : UInt8) (back : List UInt8) :
    octetAt (front ++ octet :: back) front.length = some octet := by
  simp [octetAt]

/-- A field reads back, most significant octet first, where the layout puts it. -/
theorem extractBE_layout (front middle back : List UInt8) :
    extractBE (front ++ middle ++ back) front.length middle.length = some (beValue middle) := by
  have inside : front.length + middle.length ≤ (front ++ middle ++ back).length := by
    simp only [List.length_append]
    omega
  rw [extractBE, if_pos inside, window_append_length]

/-- An octet reads back at the index where a layout of `bytes` puts it. -/
theorem octetAt_of_layout {bytes : List UInt8} (front : List UInt8) (octet : UInt8)
    (back : List UInt8) (layout : bytes = front ++ octet :: back) {index : Nat}
    (atIndex : front.length = index) : octetAt bytes index = some octet := by
  rw [layout, ← atIndex]
  exact octetAt_layout front octet back

/-- A field reads back at the index where a layout of `bytes` puts it. -/
theorem extractBE_of_layout {bytes : List UInt8} (front middle back : List UInt8)
    (layout : bytes = front ++ middle ++ back) {index width : Nat}
    (atIndex : front.length = index) (ofWidth : middle.length = width) :
    extractBE bytes index width = some (beValue middle) := by
  rw [layout, ← atIndex, ← ofWidth]
  exact extractBE_layout front middle back

/-- The reads of a folder-items view from octets laid out as its builder writes
them. -/
theorem GetFolderItemsRequest.reads (pdu scope count : UInt8) (length : UInt16)
    (startItem endItem : UInt32) (attrs : List UInt8) :
    let bytes := pdu :: beOctets 2 length.toNat ++ scope :: beOctets 4 startItem.toNat ++
      beOctets 4 endItem.toNat ++ count :: attrs
    BrowsePacket.getLength bytes = some length ∧ getScope bytes = some ⟨scope⟩ ∧
      getStartItem bytes = some startItem ∧ getEndItem bytes = some endItem ∧
      getNumAttributes bytes = some count := by
  intro bytes
  have lengthRead := extractBE_layout [pdu] (beOctets 2 length.toNat)
    (scope :: beOctets 4 startItem.toNat ++ beOctets 4 endItem.toNat ++ count :: attrs)
  have scopeRead := octetAt_layout (pdu :: beOctets 2 length.toNat) scope
    (beOctets 4 startItem.toNat ++ beOctets 4 endItem.toNat ++ count :: attrs)
  have startRead := extractBE_layout (pdu :: beOctets 2 length.toNat ++ [scope])
    (beOctets 4 startItem.toNat) (beOctets 4 endItem.toNat ++ count :: attrs)
  have endRead := extractBE_layout
    (pdu :: beOctets 2 length.toNat ++ scope :: beOctets 4 startItem.toNat)
    (beOctets 4 endItem.toNat) (count :: attrs)
  have countRead := octetAt_layout
    (pdu :: beOctets 2 length.toNat ++ scope :: beOctets 4 startItem.toNat ++
      beOctets 4 endItem.toNat) count attrs
  simp only [List.length_cons, List.length_append, length_beOctets, List.length_nil,
    List.cons_append, List.nil_append, List.append_assoc, beValue_beOctets, Nat.zero_add,
    Nat.reduceAdd] at lengthRead scopeRead startRead endRead countRead
  refine ⟨?_, ?_, ?_, ?_, ?_⟩
  · simp [BrowsePacket.getLength, bytes, lengthRead]
  · simp [getScope, BrowsePacket.kMinSize, bytes, scopeRead]
  · simp [getStartItem, BrowsePacket.kMinSize, bytes, startRead]
  · simp [getEndItem, BrowsePacket.kMinSize, bytes, endRead]
  · simp [getNumAttributes, BrowsePacket.kMinSize, bytes, countRead]

/-- The attribute loop reads back, in order, every attribute the builder wrote. -/
theorem GetFolderItemsRequest.extractAttributes_layout (attrs : List Attribute)
    (front back : List UInt8) :
    extractAttributes (front ++ attributeOctets attrs ++ back) front.length attrs.length =
      some attrs := by
  induction attrs generalizing front with
  | nil => rfl
  | cons attr rest ih =>
    have regrouped : front ++ attributeOctets (attr :: rest) ++ back =
        front ++ beOctets 4 attr.value.toNat ++ (attributeOctets rest ++ back) := by
      simp [attributeOctets]
    have field := extractBE_layout front (beOctets 4 attr.value.toNat) (attributeOctets rest ++ back)
    have next := ih (front ++ beOctets 4 attr.value.toNat)
    simp only [length_beOctets, List.length_append, List.append_assoc] at field next
    rw [regrouped, List.append_assoc, List.length_cons, extractAttributes, field]
    simp [next, beValue_beOctets]

/-- What `BrowsePacket::IsValid` decides once the length is read. -/
theorem BrowsePacket.isValid_eq (bytes : List UInt8) (length : UInt16)
    (sized : BrowsePacket.kMinSize ≤ bytes.length) (lengthRead : getLength bytes = some length) :
    isValid bytes = some (bytes.length == length.toNat + BrowsePacket.kMinSize) := by
  simp [isValid, lengthRead, Nat.not_lt.mpr sized]

/-- What `GetFolderItemsRequest::IsValid` decides once its reads succeed. -/
theorem GetFolderItemsRequest.isValid_eq (bytes : List UInt8) (length : UInt16) (count : UInt8)
    (sized : GetFolderItemsRequest.kMinSize ≤ bytes.length)
    (lengthRead : BrowsePacket.getLength bytes = some length)
    (countRead : getNumAttributes bytes = some count) :
    isValid bytes = some ((bytes.length == length.toNat + BrowsePacket.kMinSize) &&
      (count == 0xFF || count.toNat * 4 == bytes.length - GetFolderItemsRequest.kMinSize)) := by
  have browseSized : BrowsePacket.kMinSize ≤ bytes.length := by
    simp only [GetFolderItemsRequest.kMinSize] at sized
    omega
  have notShort : ¬ bytes.length < GetFolderItemsRequest.kMinSize := Nat.not_lt.mpr sized
  rw [isValid, BrowsePacket.isValid_eq bytes length browseSized lengthRead]
  cases (bytes.length == length.toNat + BrowsePacket.kMinSize)
  · rfl
  · by_cases sentinel : count = 0xFF
    · simp [notShort, countRead, sentinel]
    · simp [notShort, countRead, sentinel]

/-- `GetAttributesRequested` once the count is read. -/
theorem GetFolderItemsRequest.getAttributesRequested_eq (bytes : List UInt8) (count : UInt8)
    (countRead : getNumAttributes bytes = some count) :
    getAttributesRequested bytes =
      if count = 0xFF then some [] else extractAttributes bytes GetFolderItemsRequest.kMinSize count.toNat := by
  simp only [getNumAttributes] at countRead
  simp [getAttributesRequested, countRead, GetFolderItemsRequest.kMinSize]

/-- A non-empty count goes out modulo 256. -/
theorem toNat_countOctet (size : Nat) (nonempty : size ≠ 0) :
    (countOctet size).toNat = size % 256 := by
  simp [countOctet, nonempty]

/-- The count octet is the sentinel `0xFF` exactly for the empty set and for
sizes that are 255 modulo 256. -/
theorem countOctet_eq_sentinel (size : Nat) :
    countOctet size = 0xFF ↔ size = 0 ∨ size % 256 = 255 := by
  by_cases empty : size = 0
  · simp [countOctet, empty]
  · have octet := toNat_countOctet size empty
    constructor
    · intro sentinel
      rw [sentinel] at octet
      exact Or.inr octet.symm
    · rintro (zero | collides)
      · exact absurd zero empty
      · apply UInt8.toNat_inj.mp
        rw [octet, collides]
        rfl

section GetFolderItems

variable (scope : Scope) (startItem endItem : UInt32) (requestedAttrs : AttributeSet)

/-- Everything a folder-items view reads from a serialized request, whatever
the number of attributes. -/
theorem GetFolderItemsRequestBuilder.serialize_reads :
    let builder := GetFolderItemsRequestBuilder.makeBuilder scope startItem endItem requestedAttrs
    let bytes := builder.serialize []
    bytes.length = builder.size ∧
      BrowsePacket.getLength bytes = some (UInt16.ofNat (builder.size - BrowsePacket.kMinSize)) ∧
      GetFolderItemsRequest.getScope bytes = some scope ∧
      GetFolderItemsRequest.getStartItem bytes = some startItem ∧
      GetFolderItemsRequest.getEndItem bytes = some endItem ∧
      GetFolderItemsRequest.getNumAttributes bytes = some (countOctet requestedAttrs.size) ∧
      GetFolderItemsRequest.extractAttributes bytes GetFolderItemsRequest.kMinSize
        requestedAttrs.size = some requestedAttrs.toList := by
  intro builder bytes
  have layout := serialize_eq builder []
  obtain ⟨lengthRead, scopeRead, startRead, endRead, countRead⟩ :=
    GetFolderItemsRequest.reads BrowsePdu.getFolderItems.value scope.value
      (countOctet requestedAttrs.size) (UInt16.ofNat (builder.size - BrowsePacket.kMinSize))
      startItem endItem (attributeOctets requestedAttrs.toList)
  have attrsRead := GetFolderItemsRequest.extractAttributes_layout requestedAttrs.toList
    (BrowsePdu.getFolderItems.value ::
      beOctets 2 (UInt16.ofNat (builder.size - BrowsePacket.kMinSize)).toNat ++
      scope.value :: beOctets 4 startItem.toNat ++ beOctets 4 endItem.toNat ++
      [countOctet requestedAttrs.size]) []
  simp only [List.append_nil, List.append_assoc, List.cons_append, List.length_cons,
    List.length_append, length_beOctets, List.length_nil] at attrsRead
  refine ⟨?_, ?_, ?_, ?_, ?_, ?_, ?_⟩
  · simp [bytes, layout, builder, GetFolderItemsRequestBuilder.size, makeBuilder,
      AttributeSet.size, GetFolderItemsRequest.kMinSize, BrowsePacket.kMinSize]
    omega
  · simpa [bytes, layout, builder, makeBuilder] using lengthRead
  · simpa [bytes, layout, builder, makeBuilder] using scopeRead
  · simpa [bytes, layout, builder, makeBuilder] using startRead
  · simpa [bytes, layout, builder, makeBuilder] using endRead
  · simpa [bytes, layout, builder, makeBuilder] using countRead
  · simpa [bytes, layout, builder, makeBuilder, GetFolderItemsRequest.kMinSize,
      BrowsePacket.kMinSize, AttributeSet.size] using attrsRead

/-- The length field of a folder-items request holds its size less the browsing
header while that fits in 16 bits. -/
theorem GetFolderItemsRequestBuilder.lengthField (fits : requestedAttrs.size ≤ 16381) :
    let builder := GetFolderItemsRequestBuilder.makeBuilder scope startItem endItem requestedAttrs
    (UInt16.ofNat (builder.size - BrowsePacket.kMinSize)).toNat + BrowsePacket.kMinSize =
      builder.size := by
  intro builder
  have size_eq : builder.size = GetFolderItemsRequest.kMinSize + requestedAttrs.size * 4 := rfl
  simp only [size_eq, UInt16.toNat_ofNat', GetFolderItemsRequest.kMinSize, BrowsePacket.kMinSize]
  omega

/-- With at most 254 attributes, a serialized folder-items request is valid and
every getter returns the builder's argument; the empty set goes out as the
count `0xFF` and reads back empty. -/
theorem getFolderItems_roundTrip (fits : requestedAttrs.size ≤ 254) :
    let builder := GetFolderItemsRequestBuilder.makeBuilder scope startItem endItem requestedAttrs
    let bytes := builder.serialize []
    bytes.length = builder.size ∧ GetFolderItemsRequest.isValid bytes = some true ∧
      GetFolderItemsRequest.getScope bytes = some scope ∧
      GetFolderItemsRequest.getStartItem bytes = some startItem ∧
      GetFolderItemsRequest.getEndItem bytes = some endItem ∧
      (requestedAttrs.size = 0 → GetFolderItemsRequest.getNumAttributes bytes = some 0xFF) ∧
      GetFolderItemsRequest.getAttributesRequested bytes = some requestedAttrs.toList := by
  intro builder bytes
  obtain ⟨sized, lengthRead, scopeRead, startRead, endRead, countRead, attrsRead⟩ :=
    GetFolderItemsRequestBuilder.serialize_reads scope startItem endItem requestedAttrs
  have lengthField : (UInt16.ofNat (builder.size - BrowsePacket.kMinSize)).toNat +
      BrowsePacket.kMinSize = builder.size :=
    GetFolderItemsRequestBuilder.lengthField scope startItem endItem requestedAttrs (by omega)
  have size_eq : builder.size = GetFolderItemsRequest.kMinSize + requestedAttrs.size * 4 := rfl
  have bytesLength : bytes.length = builder.size := sized
  refine ⟨sized, ?_, scopeRead, startRead, endRead, ?_, ?_⟩
  · rw [GetFolderItemsRequest.isValid_eq bytes _ (countOctet requestedAttrs.size)
      (by rw [bytesLength, size_eq]; exact Nat.le_add_right _ _) lengthRead countRead,
      bytesLength, lengthField, size_eq]
    by_cases empty : requestedAttrs.size = 0
    · simp [countOctet, empty]
    · have count := toNat_countOctet requestedAttrs.size empty
      rw [Nat.mod_eq_of_lt (by omega)] at count
      simp [count]
  · intro empty
    rw [countRead, countOctet, if_pos empty]
  · rw [GetFolderItemsRequest.getAttributesRequested_eq bytes _ countRead]
    by_cases empty : requestedAttrs.size = 0
    · have noAttrs : requestedAttrs.toList = [] := List.eq_nil_of_length_eq_zero empty
      simp [countOctet, empty, noAttrs]
    · have notSentinel : countOctet requestedAttrs.size ≠ 0xFF := by
        rw [Ne, countOctet_eq_sentinel]
        omega
      rw [if_neg notSentinel, toNat_countOctet _ empty, Nat.mod_eq_of_lt (by omega)]
      exact attrsRead

/-- A set whose size is 255 modulo 256, small enough for the 16-bit length
field, goes out with the sentinel count: the view accepts the packet and reads
no attributes. -/
theorem getFolderItems_sentinelCount (collides : requestedAttrs.size % 256 = 255)
    (fits : requestedAttrs.size ≤ 16381) :
    let builder := GetFolderItemsRequestBuilder.makeBuilder scope startItem endItem requestedAttrs
    let bytes := builder.serialize []
    GetFolderItemsRequest.isValid bytes = some true ∧
      GetFolderItemsRequest.getAttributesRequested bytes = some [] := by
  intro builder bytes
  obtain ⟨sized, lengthRead, -, -, -, countRead, -⟩ :=
    GetFolderItemsRequestBuilder.serialize_reads scope startItem endItem requestedAttrs
  have lengthField : (UInt16.ofNat (builder.size - BrowsePacket.kMinSize)).toNat +
      BrowsePacket.kMinSize = builder.size :=
    GetFolderItemsRequestBuilder.lengthField scope startItem endItem requestedAttrs fits
  have size_eq : builder.size = GetFolderItemsRequest.kMinSize + requestedAttrs.size * 4 := rfl
  have bytesLength : bytes.length = builder.size := sized
  have sentinel : countOctet requestedAttrs.size = 0xFF :=
    (countOctet_eq_sentinel _).mpr (Or.inr collides)
  constructor
  · rw [GetFolderItemsRequest.isValid_eq bytes _ (countOctet requestedAttrs.size)
      (by rw [bytesLength, size_eq]; exact Nat.le_add_right _ _) lengthRead countRead,
      bytesLength, lengthField, sentinel]
    simp
  · rw [GetFolderItemsRequest.getAttributesRequested_eq bytes _ countRead, if_pos sentinel]

/-- The attribute list of a folder-items request survives serialization exactly
when the set has at most 254 attributes. -/
theorem getFolderItems_attributes_iff :
    let builder := GetFolderItemsRequestBuilder.makeBuilder scope startItem endItem requestedAttrs
    let bytes := builder.serialize []
    (GetFolderItemsRequest.isValid bytes = some true ∧
      GetFolderItemsRequest.getAttributesRequested bytes = some requestedAttrs.toList) ↔
      requestedAttrs.size ≤ 254 := by
  intro builder bytes
  constructor
  · rintro ⟨valid, attrsBack⟩
    obtain ⟨sized, lengthRead, -, -, -, countRead, -⟩ :=
      GetFolderItemsRequestBuilder.serialize_reads scope startItem endItem requestedAttrs
    have size_eq : builder.size = GetFolderItemsRequest.kMinSize + requestedAttrs.size * 4 := rfl
    have bytesLength : bytes.length = builder.size := sized
    by_contra big
    by_cases collides : requestedAttrs.size % 256 = 255
    · -- the count is the sentinel, so nothing is read back
      have sentinel : countOctet requestedAttrs.size = 0xFF :=
        (countOctet_eq_sentinel _).mpr (Or.inr collides)
      rw [GetFolderItemsRequest.getAttributesRequested_eq bytes _ countRead, if_pos sentinel]
        at attrsBack
      have noAttrs : requestedAttrs.toList = [] := (Option.some.inj attrsBack).symm
      have empty : requestedAttrs.size = 0 := by simp [AttributeSet.size, noAttrs]
      omega
    · -- the count wrapped below the number of attributes, which `IsValid` rejects
      have empty : requestedAttrs.size ≠ 0 := by omega
      have notSentinel : countOctet requestedAttrs.size ≠ 0xFF := by
        rw [Ne, countOctet_eq_sentinel]
        omega
      have count := toNat_countOctet requestedAttrs.size empty
      have wrapped : requestedAttrs.size % 256 * 4 ≠ requestedAttrs.size * 4 := by omega
      rw [GetFolderItemsRequest.isValid_eq bytes _ (countOctet requestedAttrs.size)
        (by rw [bytesLength, size_eq]; exact Nat.le_add_right _ _) lengthRead countRead,
        bytesLength, size_eq] at valid
      simp [notSentinel, count, wrapped] at valid
  · intro fits
    obtain ⟨-, valid, -, -, -, -, attrsBack⟩ :=
      getFolderItems_roundTrip scope startItem endItem requestedAttrs fits
    exact ⟨valid, attrsBack⟩

end GetFolderItems

/-! ### Fixed-size requests -/

/-- A browsing packet reads its length back and is valid when the length is
the number of octets after the browsing header. -/
theorem BrowsePacket.header_reads (pdu : UInt8) (length : UInt16) (payload : List UInt8) :
    getLength (pdu :: beOctets 2 length.toNat ++ payload) = some length ∧
      isValid (pdu :: beOctets 2 length.toNat ++ payload) =
        some (payload.length == length.toNat) := by
  have lengthRead := extractBE_layout [pdu] (beOctets 2 length.toNat) payload
  simp only [List.length_cons, List.length_nil, length_beOctets, beValue_beOctets,
    Nat.zero_add, List.cons_append, List.nil_append] at lengthRead
  have read : getLength (pdu :: beOctets 2 length.toNat ++ payload) = some length := by
    simp [getLength, lengthRead]
  have sized : kMinSize ≤ (pdu :: beOctets 2 length.toNat ++ payload).length := by
    simp only [List.cons_append, List.length_cons, List.length_append, length_beOctets, kMinSize]
    omega
  have total : (pdu :: beOctets 2 length.toNat ++ payload).length = payload.length + kMinSize := by
    simp only [List.cons_append, List.length_cons, List.length_append, length_beOctets, kMinSize]
    omega
  refine ⟨read, ?_⟩
  rw [isValid_eq _ length sized read, total]
  simp

/-- A vendor-dependent packet reads its parameter length back and is valid when
the length is the number of octets after the vendor header. -/
theorem VendorPacket.header_reads (header : List UInt8) (pdu packetType : UInt8)
    (parameterLength : UInt16) (payload : List UInt8) (headerLength : header.length = 3) :
    getParameterLength (header ++ [0x00, 0x19, 0x58, pdu, packetType] ++
        beOctets 2 parameterLength.toNat ++ payload) = some parameterLength ∧
      isValid (header ++ [0x00, 0x19, 0x58, pdu, packetType] ++
        beOctets 2 parameterLength.toNat ++ payload) =
        some (parameterLength.toNat == payload.length) := by
  have lengthRead := extractBE_of_layout (header ++ [0x00, 0x19, 0x58, pdu, packetType])
    (beOctets 2 parameterLength.toNat) payload rfl
    (by simp [headerLength, Packet.kMinSize] : _ = Packet.kMinSize + 5) (length_beOctets 2 _)
  have read : getParameterLength (header ++ [0x00, 0x19, 0x58, pdu, packetType] ++
      beOctets 2 parameterLength.toNat ++ payload) = some parameterLength := by
    rw [getParameterLength, lengthRead]
    simp [beValue_beOctets]
  have total : (header ++ [0x00, 0x19, 0x58, pdu, packetType] ++
      beOctets 2 parameterLength.toNat ++ payload).length = kMinSize + payload.length := by
    simp only [List.length_append, List.length_cons, List.length_nil, headerLength,
      length_beOctets, kMinSize, Packet.kMinSize]
  have notShort : ¬ kMinSize + payload.length < kMinSize := by omega
  refine ⟨read, ?_⟩
  rw [isValid, total, read, if_neg notShort, Nat.add_sub_cancel_left]
  rfl

/-- A serialized change-path request is valid and reads back the builder's
arguments. -/
theorem changePath_roundTrip (uidCounter : UInt16) (direction : Direction) (folderUid : UInt64) :
    let builder := ChangePathRequestBuilder.makeBuilder uidCounter direction folderUid
    let bytes := builder.serialize []
    bytes.length = builder.size ∧ ChangePathRequest.isValid bytes = some true ∧
      ChangePathRequest.getUidCounter bytes = some uidCounter ∧
      ChangePathRequest.getDirection bytes = some direction ∧
      ChangePathRequest.getUid bytes = some folderUid := by
  intro builder bytes
  have layout : bytes = [BrowsePdu.changePath.value, 0x00, 0x0B] ++ beOctets 2 uidCounter.toNat ++
      direction.value :: beOctets 8 folderUid.toNat := by
    simp only [bytes, builder, ChangePathRequestBuilder.serialize_eq]
    rfl
  have bytesLength : bytes.length = ChangePathRequest.kMinSize := by
    simp [layout, ChangePathRequest.kMinSize, BrowsePacket.kMinSize]
  have browseValid : BrowsePacket.isValid bytes = some true := by
    have browseLayout : bytes = BrowsePdu.changePath.value :: beOctets 2 (UInt16.toNat 11) ++
        (beOctets 2 uidCounter.toNat ++ direction.value :: beOctets 8 folderUid.toNat) := by
      rw [layout]
      rfl
    rw [browseLayout, (BrowsePacket.header_reads _ _ _).2]
    simp
  have counterRead := extractBE_of_layout _ (beOctets 2 uidCounter.toNat) _ layout
    (by rfl : _ = BrowsePacket.kMinSize) (length_beOctets 2 _)
  have directionRead := octetAt_of_layout _ direction.value _ layout
    (by simp [BrowsePacket.kMinSize] : _ = BrowsePacket.kMinSize + 2)
  have uidRead := extractBE_of_layout _ (beOctets 8 folderUid.toNat) []
    (by rw [layout]; simp : bytes = [BrowsePdu.changePath.value, 0x00, 0x0B] ++
      beOctets 2 uidCounter.toNat ++ [direction.value] ++ beOctets 8 folderUid.toNat ++ [])
    (by simp [BrowsePacket.kMinSize] : _ = BrowsePacket.kMinSize + 3) (length_beOctets 8 _)
  refine ⟨bytesLength, ?_, ?_, ?_, ?_⟩
  · rw [ChangePathRequest.isValid, browseValid, bytesLength]
    rfl
  · simp [ChangePathRequest.getUidCounter, counterRead, beValue_beOctets]
  · simp [ChangePathRequest.getDirection, directionRead]
  · simp [ChangePathRequest.getUid, uidRead, beValue_beOctets]

/-- A serialized get-capabilities request is valid and reads back the requested
capability. -/
theorem getCapabilities_roundTrip (capability : Capability) :
    let builder := GetCapabilitiesRequestBuilder.makeBuilder capability
    let bytes := builder.serialize []
    bytes.length = builder.size ∧ GetCapabilitiesRequest.isValid bytes = some true ∧
      GetCapabilitiesRequest.getCapabilityRequested bytes = some capability := by
  intro builder bytes
  have layout : bytes = [0x01, 0x48, 0x00] ++ [0x00, 0x19, 0x58, 0x10, 0x00] ++ beOctets 2 1 ++
      [capability.value] := by
    have subunit : ((0x09 : UInt8) <<< 3) ||| 0x00 = 0x48 := by decide
    simp only [bytes, builder, GetCapabilitiesRequestBuilder.serialize_eq, List.nil_append,
      GetCapabilitiesRequestBuilder.makeBuilder, VendorPacketBuilder.make, subunit]
    rfl
  have bytesLength : bytes.length = GetCapabilitiesRequest.kMinSize := by
    simp [layout, GetCapabilitiesRequest.kMinSize, VendorPacket.kMinSize, Packet.kMinSize]
  have vendorValid : VendorPacket.isValid bytes = some true := by
    have vendorLayout : bytes = [0x01, 0x48, 0x00] ++ [0x00, 0x19, 0x58, 0x10, 0x00] ++
        beOctets 2 (UInt16.toNat 1) ++ [capability.value] := layout
    rw [vendorLayout, (VendorPacket.header_reads _ _ _ _ _ rfl).2]
    rfl
  have capabilityRead := octetAt_of_layout _ capability.value [] layout
    (by rfl : _ = VendorPacket.kMinSize)
  refine ⟨bytesLength, ?_, ?_⟩
  · rw [GetCapabilitiesRequest.isValid, vendorValid, bytesLength]
    rfl
  · simp [GetCapabilitiesRequest.getCapabilityRequested, capabilityRead]

/-- A serialized register-notification request is valid and reads back the
event and the interval. -/
theorem registerNotification_roundTrip (event : Event) (interval : UInt32) :
    let builder := RegisterNotificationRequestBuilder.makeBuilder event interval
    let bytes := builder.serialize []
    bytes.length = builder.size ∧ RegisterNotificationRequest.isValid bytes = true ∧
      RegisterNotificationRequest.getEventRegistered bytes = some event ∧
      RegisterNotificationRequest.getInterval bytes = some interval := by
  intro builder bytes
  have layout : bytes = [0x03, 0x48, 0x00] ++ [0x00, 0x19, 0x58, 0x31, 0x00] ++ beOctets 2 5 ++
      event.value :: beOctets 4 interval.toNat := by
    have subunit : ((0x09 : UInt8) <<< 3) ||| 0x00 = 0x48 := by decide
    simp only [bytes, builder, RegisterNotificationRequestBuilder.serialize_eq, List.nil_append,
      RegisterNotificationRequestBuilder.makeBuilder, VendorPacketBuilder.make, subunit]
    rfl
  have bytesLength : bytes.length = RegisterNotificationRequest.kMinSize := by
    simp [layout, RegisterNotificationRequest.kMinSize, VendorPacket.kMinSize, Packet.kMinSize]
  have eventRead := octetAt_of_layout _ event.value _ layout
    (by rfl : _ = VendorPacket.kMinSize)
  have intervalRead := extractBE_of_layout _ (beOctets 4 interval.toNat) []
    (by rw [layout]; simp : bytes = [0x03, 0x48, 0x00] ++ [0x00, 0x19, 0x58, 0x31, 0x00] ++
      beOctets 2 5 ++ [event.value] ++ beOctets 4 interval.toNat ++ [])
    (by rfl : _ = VendorPacket.kMinSize + 1) (length_beOctets 4 _)
  refine ⟨bytesLength, ?_, ?_, ?_⟩
  · simp [RegisterNotificationRequest.isValid, bytesLength]
  · simp [RegisterNotificationRequest.getEventRegistered, eventRead]
  · simp [RegisterNotificationRequest.getInterval, intervalRead, beValue_beOctets]

/-! ### The request builders with a view -/

/-- For the four request builders that have a view, the octets `Serialize`
writes are `size()` long, the view's `IsValid` holds and its getters return the
builder's arguments, for every argument and every attribute set of at most 254
attributes; the empty set goes out as the count `0xFF` and reads back empty. -/
theorem avrcpRequests_roundTrip (scope : Scope) (startItem endItem : UInt32)
    (requestedAttrs : AttributeSet) (fits : requestedAttrs.size ≤ 254) (uidCounter : UInt16)
    (direction : Direction) (folderUid : UInt64) (capability : Capability) (event : Event)
    (interval : UInt32) :
    (let builder := GetFolderItemsRequestBuilder.makeBuilder scope startItem endItem requestedAttrs
      let bytes := builder.serialize []
      bytes.length = builder.size ∧ GetFolderItemsRequest.isValid bytes = some true ∧
        GetFolderItemsRequest.getScope bytes = some scope ∧
        GetFolderItemsRequest.getStartItem bytes = some startItem ∧
        GetFolderItemsRequest.getEndItem bytes = some endItem ∧
        (requestedAttrs.size = 0 → GetFolderItemsRequest.getNumAttributes bytes = some 0xFF) ∧
        GetFolderItemsRequest.getAttributesRequested bytes = some requestedAttrs.toList) ∧
    (let builder := ChangePathRequestBuilder.makeBuilder uidCounter direction folderUid
      let bytes := builder.serialize []
      bytes.length = builder.size ∧ ChangePathRequest.isValid bytes = some true ∧
        ChangePathRequest.getUidCounter bytes = some uidCounter ∧
        ChangePathRequest.getDirection bytes = some direction ∧
        ChangePathRequest.getUid bytes = some folderUid) ∧
    (let builder := GetCapabilitiesRequestBuilder.makeBuilder capability
      let bytes := builder.serialize []
      bytes.length = builder.size ∧ GetCapabilitiesRequest.isValid bytes = some true ∧
        GetCapabilitiesRequest.getCapabilityRequested bytes = some capability) ∧
    (let builder := RegisterNotificationRequestBuilder.makeBuilder event interval
      let bytes := builder.serialize []
      bytes.length = builder.size ∧ RegisterNotificationRequest.isValid bytes = true ∧
        RegisterNotificationRequest.getEventRegistered bytes = some event ∧
        RegisterNotificationRequest.getInterval bytes = some interval) :=
  ⟨getFolderItems_roundTrip scope startItem endItem requestedAttrs fits,
    changePath_roundTrip uidCounter direction folderUid, getCapabilities_roundTrip capability,
    registerNotification_roundTrip event interval⟩

/-- The attributes `TITLE` and `ARTIST_NAME`. -/
def titleAndArtist : AttributeSet :=
  ⟨[⟨0x01⟩, ⟨0x02⟩], by decide⟩

/-- A Get Folder Items request for the title and the artist is valid and
lists the two attributes it was built with. -/
theorem avrcpRequests_roundTrip_titleAndArtist :
    let builder := GetFolderItemsRequestBuilder.makeBuilder ⟨0x01⟩ 0 9 titleAndArtist
    let bytes := builder.serialize []
    titleAndArtist.size ≤ 254 ∧ GetFolderItemsRequest.isValid bytes = some true ∧
      GetFolderItemsRequest.getAttributesRequested bytes = some [⟨0x01⟩, ⟨0x02⟩] := by
  have fits : titleAndArtist.size ≤ 254 := by decide
  obtain ⟨⟨-, valid, -, -, -, -, attrsBack⟩, -⟩ :=
    avrcpRequests_roundTrip ⟨0x01⟩ 0 9 titleAndArtist fits 0 ⟨0x01⟩ 0 ⟨0x03⟩ ⟨0x05⟩ 1000
  exact ⟨fits, valid, attrsBack⟩

/-- The 255 attributes with the values `0 .. 254`. -/
def attributes255 : AttributeSet where
  toList := (List.range 255).map fun value => ⟨UInt32.ofNat value⟩
  ascending := by
    rw [List.pairwise_map]
    refine List.pairwise_lt_range.imp_of_mem ?_
    intro first second firstIn secondIn below
    simp only [List.mem_range] at firstIn secondIn
    rw [UInt32.lt_iff_toNat_lt, UInt32.toNat_ofNat', UInt32.toNat_ofNat',
      Nat.mod_eq_of_lt (by omega), Nat.mod_eq_of_lt (by omega)]
    exact below

/-- With 255 attributes the count written is `0xFF`, which the parser reads as
"all attributes": the request is valid and lists none of them. -/
theorem getFolderItems_255Attributes :
    let builder := GetFolderItemsRequestBuilder.makeBuilder ⟨0x01⟩ 0 9 attributes255
    let bytes := builder.serialize []
    attributes255.size = 255 ∧ GetFolderItemsRequest.isValid bytes = some true ∧
      GetFolderItemsRequest.getAttributesRequested bytes = some [] := by
  have size : attributes255.size = 255 := by
    simp [attributes255, AttributeSet.size]
  obtain ⟨valid, readsEmpty⟩ := getFolderItems_sentinelCount ⟨0x01⟩ 0 9 attributes255
    (by rw [size]) (by rw [size]; decide)
  exact ⟨size, valid, readsEmpty⟩

end Fluoride.AvrcpPacket
