import Fluoride.AvrcpPacket
import Fluoride.Runs

/-!
# The folder listing of the AVRCP browsing channel and its MTU

`GetFolderItemsResponseBuilder` (`packet/avrcp/get_folder_items.cc`) collects
the media players, folders and songs of a folder listing for a browsing
channel of `mtu` octets. `AddMediaPlayer`, `AddSong` and `AddFolder` admit an
item when `size()` plus the item's `size()` stays within the MTU; `Serialize`
writes the packet.

`Serialize` writes exactly `size()` octets (`serialize_length`), and its
browsing length field counts the octets after the header
(`serialize_lengthField`). Once `size()` counts the UID counter and the item
count, every admission keeps the packet within the MTU, over any sequence of
calls (`run_withinMtu`). The first admission does not: while the list is
empty, `size()` leaves out those four octets, and the first item brings them in
(`addItem_first_overMtu_iff`), though never by more than those four
(`run_size_le`). An MTU of 35 admits a media player with an empty name and
gives a packet of 39 octets (`getFolderItems_firstItemOverMtu`).

A string is its octets, and the `std::set` of a song's attribute entries is the
list of its elements in iteration order.
-/

namespace Fluoride.AvrcpResponse

open Octets AvrcpPacket

/-! ## Items -/

/-- `enum class Status : uint8_t`. -/
structure Status where
  value : UInt8
  deriving DecidableEq, Repr

/-- `Status::NO_ERROR`. -/
def Status.noError : Status := ⟨0x04⟩

/-- `Status::RANGE_OUT_OF_BOUNDS`. -/
def Status.rangeOutOfBounds : Status := ⟨0x0b⟩

/-- `Scope::MEDIA_PLAYER_LIST`. -/
def Scope.mediaPlayerList : Scope := ⟨0x00⟩

/-- `Scope::VFS`. -/
def Scope.vfs : Scope := ⟨0x01⟩

/-- `Scope::NOW_PLAYING`. -/
def Scope.nowPlaying : Scope := ⟨0x03⟩

/-- `MAX_FIELD_LEN`, the longest name an item keeps. -/
def maxFieldLen : Nat := 100

/-- `name_.resize(MAX_FIELD_LEN)` when the name is longer. -/
def truncateName (name : List UInt8) : List UInt8 :=
  if name.length > maxFieldLen then name.take maxFieldLen else name

/-- `AttributeEntry`: an attribute (`attribute_`, a keyword here) and its value. -/
structure AttributeEntry where
  attr : Attribute
  value : List UInt8
  deriving DecidableEq, Repr

/-- `AttributeEntry::kHeaderSize`: the attribute, the length and the character set. -/
def AttributeEntry.kHeaderSize : Nat := 4 + 2 + 2

/-- `AttributeEntry::size`. -/
def AttributeEntry.size (entry : AttributeEntry) : Nat :=
  AttributeEntry.kHeaderSize + entry.value.length

/-- `MediaPlayerItem`. -/
structure MediaPlayerItem where
  id : UInt16
  name : List UInt8
  browsable : Bool
  deriving DecidableEq, Repr

/-- The constructor `MediaPlayerItem(id, name, browsable)`. -/
def MediaPlayerItem.make (id : UInt16) (name : List UInt8) (browsable : Bool) : MediaPlayerItem :=
  ⟨id, truncateName name, browsable⟩

/-- `MediaPlayerItem::kHeaderSize`: type, item length, player id, player type,
subtype, play status, features, character set and name length. -/
def MediaPlayerItem.kHeaderSize : Nat := 1 + 2 + 2 + 1 + 4 + 1 + 16 + 2 + 2

/-- `MediaPlayerItem::size`. -/
def MediaPlayerItem.size (item : MediaPlayerItem) : Nat :=
  MediaPlayerItem.kHeaderSize + item.name.length

/-- `FolderItem`. -/
structure FolderItem where
  uid : UInt64
  folderType : UInt8
  isPlayable : Bool
  name : List UInt8
  deriving DecidableEq, Repr

/-- The constructor `FolderItem(uid, folder_type, is_playable, name)`. -/
def FolderItem.make (uid : UInt64) (folderType : UInt8) (isPlayable : Bool) (name : List UInt8) :
    FolderItem :=
  ⟨uid, folderType, isPlayable, truncateName name⟩

/-- `FolderItem::kHeaderSize`: type, item length, UID, folder type, playable
flag, character set and name length. -/
def FolderItem.kHeaderSize : Nat := 1 + 2 + 8 + 1 + 1 + 2 + 2

/-- `FolderItem::size`. -/
def FolderItem.size (item : FolderItem) : Nat :=
  FolderItem.kHeaderSize + item.name.length

/-- `MediaElementItem`. -/
structure MediaElementItem where
  uid : UInt64
  name : List UInt8
  attributes : List AttributeEntry
  deriving DecidableEq, Repr

/-- `MediaElementItem::size`: type, item length, UID, media type, character
set, name length, the name, the attribute count and the entries. -/
def MediaElementItem.size (item : MediaElementItem) : Nat :=
  1 + 2 + 8 + 1 + 2 + 2 + item.name.length + 1 + (item.attributes.map AttributeEntry.size).sum

/-- `MediaListItem`, the tagged union of the three kinds of item. -/
inductive MediaListItem
  | player (item : MediaPlayerItem)
  | folder (item : FolderItem)
  | song (item : MediaElementItem)
  deriving DecidableEq, Repr

/-- `MediaListItem::size`. -/
def MediaListItem.size : MediaListItem → Nat
  | .player item => item.size
  | .folder item => item.size
  | .song item => item.size

/-! ## The builder -/

/-- `GetFolderItemsResponseBuilder`. -/
structure GetFolderItemsResponseBuilder extends BrowsePacketBuilder where
  scope : Scope
  items : List MediaListItem
  status : Status
  uidCounter : UInt16
  mtu : Nat

/-- The constructor, with `BrowsePdu::GET_FOLDER_ITEMS` and no item. -/
def GetFolderItemsResponseBuilder.make (scope : Scope) (status : Status) (uidCounter : UInt16)
    (mtu : Nat) : GetFolderItemsResponseBuilder :=
  { pdu := BrowsePdu.getFolderItems, scope, items := [], status, uidCounter, mtu }

/-- `GetFolderItemsResponseBuilder::MakePlayerListBuilder`. -/
def GetFolderItemsResponseBuilder.makePlayerListBuilder (status : Status) (uidCounter : UInt16)
    (mtu : Nat) : GetFolderItemsResponseBuilder :=
  GetFolderItemsResponseBuilder.make Scope.mediaPlayerList status uidCounter mtu

/-- `GetFolderItemsResponseBuilder::MakeVFSBuilder`. -/
def GetFolderItemsResponseBuilder.makeVFSBuilder (status : Status) (uidCounter : UInt16)
    (mtu : Nat) : GetFolderItemsResponseBuilder :=
  GetFolderItemsResponseBuilder.make Scope.vfs status uidCounter mtu

/-- `GetFolderItemsResponseBuilder::MakeNowPlayingBuilder`. -/
def GetFolderItemsResponseBuilder.makeNowPlayingBuilder (status : Status) (uidCounter : UInt16)
    (mtu : Nat) : GetFolderItemsResponseBuilder :=
  GetFolderItemsResponseBuilder.make Scope.nowPlaying status uidCounter mtu

/-- `GetFolderItemsResponseBuilder::size`: the header and the status only, when
the status is an error or the list is empty. -/
def GetFolderItemsResponseBuilder.size (builder : GetFolderItemsResponseBuilder) : Nat :=
  if builder.status ≠ Status.noError ∨ builder.items = [] then BrowsePacket.kMinSize + 1
  else BrowsePacket.kMinSize + 1 + 2 + 2 + (builder.items.map MediaListItem.size).sum

/-- The admission test shared by `AddMediaPlayer`, `AddSong` and `AddFolder`. -/
def GetFolderItemsResponseBuilder.addItem (builder : GetFolderItemsResponseBuilder)
    (item : MediaListItem) : Bool × GetFolderItemsResponseBuilder :=
  if builder.size + item.size > builder.mtu then (false, builder)
  else (true, { builder with items := builder.items ++ [item] })

/-- `GetFolderItemsResponseBuilder::AddMediaPlayer`; none where the scope
`CHECK` fails. -/
def GetFolderItemsResponseBuilder.addMediaPlayer (builder : GetFolderItemsResponseBuilder)
    (item : MediaPlayerItem) : Option (Bool × GetFolderItemsResponseBuilder) :=
  if builder.scope = Scope.mediaPlayerList then some (builder.addItem (.player item)) else none

/-- `GetFolderItemsResponseBuilder::AddSong`. -/
def GetFolderItemsResponseBuilder.addSong (builder : GetFolderItemsResponseBuilder)
    (item : MediaElementItem) : Option (Bool × GetFolderItemsResponseBuilder) :=
  if builder.scope = Scope.vfs ∨ builder.scope = Scope.nowPlaying then
    some (builder.addItem (.song item))
  else none

/-- `GetFolderItemsResponseBuilder::AddFolder`. -/
def GetFolderItemsResponseBuilder.addFolder (builder : GetFolderItemsResponseBuilder)
    (item : FolderItem) : Option (Bool × GetFolderItemsResponseBuilder) :=
  if builder.scope = Scope.vfs then some (builder.addItem (.folder item)) else none

/-! ## Serialization -/

/-- The loops `for (const uint8_t& byte : ...) AddPayloadOctets1(pkt, byte)`. -/
def addPayloadBytes (pkt bytes : List UInt8) : List UInt8 :=
  bytes.foldl addPayloadOctets1 pkt

/-- `GetFolderItemsResponseBuilder::PushMediaPlayerItem`. -/
def pushMediaPlayerItem (pkt : List UInt8) (item : MediaPlayerItem) : List UInt8 :=
  let pkt := addPayloadOctets1 pkt 0x01
  let pkt := addPayloadOctets2 pkt (byteSwap16 (UInt16.ofNat (item.size - 3)))
  let pkt := addPayloadOctets2 pkt (byteSwap16 item.id)
  let pkt := addPayloadOctets1 pkt 0x01
  let pkt := addPayloadOctets4 pkt 0x00000000
  let pkt := addPayloadOctets1 pkt 0x02
  -- the sixteen feature octets, two of which say whether the player is browsable
  let pkt := addPayloadBytes pkt [0x00, 0x00, 0x00, 0x00, 0x00, 0xb7, 0x01]
  let pkt := if item.browsable then addPayloadBytes pkt [0x0C, 0x0a]
    else addPayloadBytes pkt [0x04, 0x00]
  let pkt := addPayloadBytes pkt [0x00, 0x00, 0x00, 0x00, 0x00, 0x00, 0x00]
  let pkt := addPayloadOctets2 pkt (byteSwap16 0x006a)
  let pkt := addPayloadOctets2 pkt (byteSwap16 (UInt16.ofNat item.name.length))
  addPayloadBytes pkt item.name

/-- `GetFolderItemsResponseBuilder::PushFolderItem`. -/
def pushFolderItem (pkt : List UInt8) (item : FolderItem) : List UInt8 :=
  let pkt := addPayloadOctets1 pkt 0x02
  let pkt := addPayloadOctets2 pkt (byteSwap16 (UInt16.ofNat (item.size - 3)))
  let pkt := addPayloadOctets8 pkt (byteSwap64 item.uid)
  let pkt := addPayloadOctets1 pkt item.folderType
  let pkt := addPayloadOctets1 pkt (if item.isPlayable then 0x01 else 0x00)
  let pkt := addPayloadOctets2 pkt (byteSwap16 0x006a)
  let pkt := addPayloadOctets2 pkt (byteSwap16 (UInt16.ofNat item.name.length))
  addPayloadBytes pkt item.name

/-- The body of the entry loop of `PushMediaElementItem`. -/
def pushAttributeEntry (pkt : List UInt8) (entry : AttributeEntry) : List UInt8 :=
  let pkt := addPayloadOctets4 pkt (byteSwap32 entry.attr.value)
  let pkt := addPayloadOctets2 pkt (byteSwap16 0x006a)
  let pkt := addPayloadOctets2 pkt (byteSwap16 (UInt16.ofNat entry.value.length))
  addPayloadBytes pkt entry.value

/-- The entry loop of `PushMediaElementItem`. -/
def pushAttributeEntries (pkt : List UInt8) (entries : List AttributeEntry) : List UInt8 :=
  entries.foldl pushAttributeEntry pkt

/-- `GetFolderItemsResponseBuilder::PushMediaElementItem`. -/
def pushMediaElementItem (pkt : List UInt8) (item : MediaElementItem) : List UInt8 :=
  let pkt := addPayloadOctets1 pkt 0x03
  let pkt := addPayloadOctets2 pkt (byteSwap16 (UInt16.ofNat (item.size - 3)))
  let pkt := addPayloadOctets8 pkt (byteSwap64 item.uid)
  let pkt := addPayloadOctets1 pkt 0x00
  let pkt := addPayloadOctets2 pkt (byteSwap16 0x006a)
  let pkt := addPayloadOctets2 pkt (byteSwap16 (UInt16.ofNat item.name.length))
  let pkt := addPayloadBytes pkt item.name
  let pkt := addPayloadOctets1 pkt (UInt8.ofNat item.attributes.length)
  pushAttributeEntries pkt item.attributes

/-- `GetFolderItemsResponseBuilder::PushMediaListItem`. -/
def pushMediaListItem (pkt : List UInt8) : MediaListItem → List UInt8
  | .player item => pushMediaPlayerItem pkt item
  | .folder item => pushFolderItem pkt item
  | .song item => pushMediaElementItem pkt item

/-- `GetFolderItemsResponseBuilder::Serialize`: the packet, and the builder,
whose status it rewrites to `RANGE_OUT_OF_BOUNDS` for an empty listing. -/
def GetFolderItemsResponseBuilder.serialize (builder : GetFolderItemsResponseBuilder)
    (pkt : List UInt8) : List UInt8 × GetFolderItemsResponseBuilder :=
  let pkt := builder.toBrowsePacketBuilder.pushHeader pkt
    (UInt16.ofNat (builder.size - BrowsePacket.kMinSize))
  let builder := if builder.status = Status.noError ∧ builder.items = [] then
      { builder with status := Status.rangeOutOfBounds }
    else builder
  let pkt := addPayloadOctets1 pkt builder.status.value
  if builder.status ≠ Status.noError then (pkt, builder)
  else
    let pkt := addPayloadOctets2 pkt (byteSwap16 builder.uidCounter)
    let pkt := addPayloadOctets2 pkt (byteSwap16 (UInt16.ofNat builder.items.length))
    (builder.items.foldl pushMediaListItem pkt, builder)

/-! ## What `Serialize` writes -/

@[simp] theorem addPayloadBytes_eq (pkt bytes : List UInt8) :
    addPayloadBytes pkt bytes = pkt ++ bytes := by
  induction bytes generalizing pkt with
  | nil => simp [addPayloadBytes]
  | cons byte rest inductionHypothesis =>
    simp only [addPayloadBytes, List.foldl_cons, addPayloadOctets1_eq] at inductionHypothesis ⊢
    rw [inductionHypothesis]
    simp

theorem addPayloadOctets4_eq (pkt : List UInt8) (value : UInt32) :
    addPayloadOctets4 pkt value = pkt ++ leOctets 4 value.toNat := by
  simp [addPayloadOctets4, addPayloadOctets]

theorem pushMediaPlayerItem_append (pkt : List UInt8) (item : MediaPlayerItem) :
    pushMediaPlayerItem pkt item = pkt ++ pushMediaPlayerItem [] item := by
  rcases item with ⟨id, name, _ | _⟩ <;> simp [pushMediaPlayerItem, addPayloadOctets4_eq]

theorem length_pushMediaPlayerItem (item : MediaPlayerItem) :
    (pushMediaPlayerItem [] item).length = item.size := by
  rcases item with ⟨id, name, _ | _⟩ <;>
    simp [pushMediaPlayerItem, addPayloadOctets4_eq, MediaPlayerItem.size,
      MediaPlayerItem.kHeaderSize] <;> omega

theorem pushFolderItem_append (pkt : List UInt8) (item : FolderItem) :
    pushFolderItem pkt item = pkt ++ pushFolderItem [] item := by
  simp [pushFolderItem]

theorem length_pushFolderItem (item : FolderItem) :
    (pushFolderItem [] item).length = item.size := by
  simp [pushFolderItem, FolderItem.size, FolderItem.kHeaderSize]
  omega

theorem pushAttributeEntry_append (pkt : List UInt8) (entry : AttributeEntry) :
    pushAttributeEntry pkt entry = pkt ++ pushAttributeEntry [] entry := by
  simp [pushAttributeEntry]

theorem length_pushAttributeEntry (entry : AttributeEntry) :
    (pushAttributeEntry [] entry).length = entry.size := by
  simp [pushAttributeEntry, AttributeEntry.size, AttributeEntry.kHeaderSize]
  omega

section WriterLoops

variable {α : Type} (write : List UInt8 → α → List UInt8)
  (appends : ∀ pkt element, write pkt element = pkt ++ write [] element)
include appends

/-- A loop of writers that each append to the packet appends to the packet. -/
theorem foldl_append_of_appends (elements : List α) (pkt : List UInt8) :
    elements.foldl write pkt = pkt ++ elements.foldl write [] := by
  induction elements generalizing pkt with
  | nil => simp
  | cons element rest inductionHypothesis =>
    rw [List.foldl_cons, List.foldl_cons, inductionHypothesis, inductionHypothesis (write [] element),
      appends pkt element, List.append_assoc]

/-- A loop of writers that each write their element's size in octets writes the
sum of the sizes. -/
theorem length_foldl_of_appends (size : α → Nat)
    (sized : ∀ element, (write [] element).length = size element) (elements : List α) :
    (elements.foldl write []).length = (elements.map size).sum := by
  induction elements with
  | nil => rfl
  | cons element rest inductionHypothesis =>
    rw [List.foldl_cons, foldl_append_of_appends write appends, List.length_append, sized,
      inductionHypothesis, List.map_cons, List.sum_cons]

end WriterLoops

theorem pushMediaElementItem_append (pkt : List UInt8) (item : MediaElementItem) :
    pushMediaElementItem pkt item = pkt ++ pushMediaElementItem [] item := by
  simp only [pushMediaElementItem, pushAttributeEntries]
  rw [foldl_append_of_appends pushAttributeEntry pushAttributeEntry_append,
    foldl_append_of_appends pushAttributeEntry pushAttributeEntry_append _ (addPayloadOctets1 _ _)]
  simp

theorem length_pushMediaElementItem (item : MediaElementItem) :
    (pushMediaElementItem [] item).length = item.size := by
  simp only [pushMediaElementItem, pushAttributeEntries]
  rw [foldl_append_of_appends pushAttributeEntry pushAttributeEntry_append]
  simp [length_foldl_of_appends pushAttributeEntry pushAttributeEntry_append AttributeEntry.size
    length_pushAttributeEntry, MediaElementItem.size]
  omega

theorem pushMediaListItem_append (pkt : List UInt8) (item : MediaListItem) :
    pushMediaListItem pkt item = pkt ++ pushMediaListItem [] item := by
  cases item with
  | player item => exact pushMediaPlayerItem_append pkt item
  | folder item => exact pushFolderItem_append pkt item
  | song item => exact pushMediaElementItem_append pkt item

/-- Each item goes out in exactly `size()` octets. -/
theorem length_pushMediaListItem (item : MediaListItem) :
    (pushMediaListItem [] item).length = item.size := by
  cases item with
  | player item => exact length_pushMediaPlayerItem item
  | folder item => exact length_pushFolderItem item
  | song item => exact length_pushMediaElementItem item

/-- **`Serialize` writes what `size()` counts.** After the browsing header come
exactly `size() - BrowsePacket::kMinSize()` octets, and the header's length
field holds that number, cut to sixteen bits. -/
theorem serialize_lengthField (builder : GetFolderItemsResponseBuilder) (pkt : List UInt8) :
    ∃ body, (builder.serialize pkt).1 =
        pkt ++ builder.pdu.value ::
          beOctets 2 (UInt16.ofNat (builder.size - BrowsePacket.kMinSize)).toNat ++ body ∧
      body.length = builder.size - BrowsePacket.kMinSize := by
  by_cases noError : builder.status = Status.noError
  · by_cases empty : builder.items = []
    · -- an empty listing goes out as `RANGE_OUT_OF_BOUNDS`
      refine ⟨[Status.rangeOutOfBounds.value], ?_, ?_⟩
      · simp [GetFolderItemsResponseBuilder.serialize, noError, empty, Status.rangeOutOfBounds,
          Status.noError]
      · simp [GetFolderItemsResponseBuilder.size, empty, BrowsePacket.kMinSize]
    · refine ⟨Status.noError.value :: beOctets 2 builder.uidCounter.toNat ++
        beOctets 2 (UInt16.ofNat builder.items.length).toNat ++
        builder.items.foldl pushMediaListItem [], ?_, ?_⟩
      · simp [GetFolderItemsResponseBuilder.serialize, noError, empty,
          foldl_append_of_appends pushMediaListItem pushMediaListItem_append _ (_ ++ _)]
      · simp [GetFolderItemsResponseBuilder.size, noError, empty, BrowsePacket.kMinSize,
          length_foldl_of_appends pushMediaListItem pushMediaListItem_append MediaListItem.size
            length_pushMediaListItem]
        omega
  · refine ⟨[builder.status.value], ?_, ?_⟩
    · simp [GetFolderItemsResponseBuilder.serialize, noError]
    · simp [GetFolderItemsResponseBuilder.size, noError, BrowsePacket.kMinSize]

theorem kMinSize_lt_size (builder : GetFolderItemsResponseBuilder) :
    BrowsePacket.kMinSize < builder.size := by
  unfold GetFolderItemsResponseBuilder.size
  split <;> omega

/-- `Serialize` appends exactly `size()` octets. -/
theorem serialize_length (builder : GetFolderItemsResponseBuilder) (pkt : List UInt8) :
    (builder.serialize pkt).1.length = pkt.length + builder.size := by
  obtain ⟨body, written, counted⟩ := serialize_lengthField builder pkt
  have header := kMinSize_lt_size builder
  rw [written, List.length_append, List.length_append, List.length_cons, length_beOctets, counted]
  unfold BrowsePacket.kMinSize at header ⊢
  omega

theorem serialize_snd (builder : GetFolderItemsResponseBuilder) (pkt : List UInt8) :
    (builder.serialize pkt).2 =
      if builder.status = Status.noError ∧ builder.items = [] then
        { builder with status := Status.rangeOutOfBounds }
      else builder := by
  unfold GetFolderItemsResponseBuilder.serialize
  dsimp only
  split_ifs <;> rfl

/-! ## Admission and the MTU -/

@[simp] theorem addItem_mtu (builder : GetFolderItemsResponseBuilder) (item : MediaListItem) :
    (builder.addItem item).2.mtu = builder.mtu := by
  unfold GetFolderItemsResponseBuilder.addItem
  split <;> rfl

/-- What an admitted item adds to `size()`: nothing after an error status, its
own size once the list holds an item, and the four octets of the UID counter
and the item count as well for the first item. -/
theorem size_push (builder : GetFolderItemsResponseBuilder) (item : MediaListItem) :
    ({ builder with items := builder.items ++ [item] } : GetFolderItemsResponseBuilder).size =
      if builder.status ≠ Status.noError then builder.size
      else if builder.items = [] then builder.size + 4 + item.size
      else builder.size + item.size := by
  by_cases noError : builder.status = Status.noError
  · by_cases empty : builder.items = []
    · simp [GetFolderItemsResponseBuilder.size, noError, empty]
    · simp [GetFolderItemsResponseBuilder.size, noError, empty]
      omega
  · simp [GetFolderItemsResponseBuilder.size, noError]

/-- **The first item can overrun the MTU.** The first item of a listing without
an error is admitted, and then makes the packet longer than the MTU, exactly
when the MTU lies in the four octets that the empty listing's `size()` leaves
out. -/
theorem addItem_first_overMtu_iff (builder : GetFolderItemsResponseBuilder) (item : MediaListItem)
    (noError : builder.status = Status.noError) (empty : builder.items = []) :
    ((builder.addItem item).1 = true ∧ builder.mtu < (builder.addItem item).2.size) ↔
      BrowsePacket.kMinSize + 1 + item.size ≤ builder.mtu ∧
        builder.mtu < BrowsePacket.kMinSize + 5 + item.size := by
  have emptySize : builder.size = BrowsePacket.kMinSize + 1 := by
    simp [GetFolderItemsResponseBuilder.size, empty]
  unfold GetFolderItemsResponseBuilder.addItem
  split_ifs with refused
  · simp only [false_and, false_iff, not_and, Nat.not_lt]
    omega
  · have grown := size_push builder item
    rw [if_neg (not_not_intro noError), if_pos empty] at grown
    simp only [true_and, grown]
    omega

/-- A call on the builder. -/
inductive BuilderCall
  | addMediaPlayer (item : MediaPlayerItem)
  | addSong (item : MediaElementItem)
  | addFolder (item : FolderItem)

/-- One call on the builder: whether it added the item, or the failure of the
scope `CHECK`. -/
def builderStep (builder : GetFolderItemsResponseBuilder) (call : BuilderCall) :
    Except Unit (GetFolderItemsResponseBuilder × List Bool) :=
  let result := match call with
    | .addMediaPlayer item => builder.addMediaPlayer item
    | .addSong item => builder.addSong item
    | .addFolder item => builder.addFolder item
  match result with
  | some (added, next) => .ok (next, [added])
  | none => .error ()

/-- Every call that returns is the admission test on some item. -/
theorem builderStep_addItem {builder next : GetFolderItemsResponseBuilder} {call : BuilderCall}
    {results : List Bool} (stepped : builderStep builder call = .ok (next, results)) :
    ∃ item, next = (builder.addItem item).2 ∧ results = [(builder.addItem item).1] := by
  cases call with
  | addMediaPlayer item =>
    refine ⟨.player item, ?_⟩
    simp only [builderStep, GetFolderItemsResponseBuilder.addMediaPlayer] at stepped
    split_ifs at stepped
    simp only [Except.ok.injEq, Prod.mk.injEq] at stepped
    exact ⟨stepped.1.symm, stepped.2.symm⟩
  | addSong item =>
    refine ⟨.song item, ?_⟩
    simp only [builderStep, GetFolderItemsResponseBuilder.addSong] at stepped
    split_ifs at stepped
    simp only [Except.ok.injEq, Prod.mk.injEq] at stepped
    exact ⟨stepped.1.symm, stepped.2.symm⟩
  | addFolder item =>
    refine ⟨.folder item, ?_⟩
    simp only [builderStep, GetFolderItemsResponseBuilder.addFolder] at stepped
    split_ifs at stepped
    simp only [Except.ok.injEq, Prod.mk.injEq] at stepped
    exact ⟨stepped.1.symm, stepped.2.symm⟩

/-- `size()` counts the UID counter and the item count, or nothing follows the
status. -/
def HeaderCounted (builder : GetFolderItemsResponseBuilder) : Prop :=
  builder.status ≠ Status.noError ∨ builder.items ≠ []

/-- A builder whose `size()` counts all that `Serialize` will write and stays
within the MTU. -/
structure WithinMtu (builder : GetFolderItemsResponseBuilder) : Prop where
  counted : HeaderCounted builder
  fits : builder.size ≤ builder.mtu

/-- Once `size()` counts the header, an admission keeps the packet within the MTU. -/
theorem addItem_withinMtu (builder : GetFolderItemsResponseBuilder) (item : MediaListItem)
    (holds : WithinMtu builder) : WithinMtu (builder.addItem item).2 := by
  unfold GetFolderItemsResponseBuilder.addItem
  split_ifs with refused
  · exact holds
  · have grown := size_push builder item
    constructor
    · exact .inr (by simp)
    · rcases holds.counted with failed | nonempty
      · rw [if_pos failed] at grown
        rw [grown]
        exact holds.fits
      · by_cases noError : builder.status = Status.noError
        · rw [if_neg (not_not_intro noError), if_neg nonempty] at grown
          rw [grown]
          exact Nat.le_of_not_lt refused
        · rw [if_pos noError] at grown
          rw [grown]
          exact holds.fits

/-- An admission overruns the MTU by at most the four octets of the header. -/
theorem addItem_size_le (builder : GetFolderItemsResponseBuilder) (item : MediaListItem)
    (bounded : builder.size ≤ builder.mtu + 4) :
    (builder.addItem item).2.size ≤ builder.mtu + 4 := by
  unfold GetFolderItemsResponseBuilder.addItem
  split_ifs with refused
  · exact bounded
  · rw [size_push]
    split_ifs <;> omega

theorem builderStep_preserves_withinMtu : Runs.Preserves builderStep WithinMtu := by
  intro builder call next results holds stepped
  obtain ⟨item, rfl, -⟩ := builderStep_addItem stepped
  exact addItem_withinMtu builder item holds

/-- **Within the MTU from the first item on.** From a builder whose `size()`
counts all it writes and fits the MTU, every sequence of calls keeps it so. -/
theorem run_withinMtu (builder final : GetFolderItemsResponseBuilder) (calls : List BuilderCall)
    (results : List Bool) (holds : WithinMtu builder)
    (ran : Runs.run builderStep builder calls = .ok (final, results)) : WithinMtu final :=
  Runs.run_preserves builderStep WithinMtu builderStep_preserves_withinMtu builder final calls
    results holds ran

/-- **At most four octets over the MTU.** Whatever the calls on a new builder,
its packet is never more than four octets longer than the MTU. -/
theorem run_size_le (scope : Scope) (status : Status) (uidCounter : UInt16) (mtu : Nat)
    (final : GetFolderItemsResponseBuilder) (calls : List BuilderCall) (results : List Bool)
    (ran : Runs.run builderStep (GetFolderItemsResponseBuilder.make scope status uidCounter mtu)
      calls = .ok (final, results)) :
    final.size ≤ mtu + 4 := by
  have preserves : Runs.Preserves builderStep
      (fun builder => builder.mtu = mtu ∧ builder.size ≤ mtu + 4) := by
    intro builder call next results ⟨sameMtu, bounded⟩ stepped
    obtain ⟨item, rfl, -⟩ := builderStep_addItem stepped
    subst sameMtu
    exact ⟨addItem_mtu builder item, addItem_size_le builder item bounded⟩
  have initial : (GetFolderItemsResponseBuilder.make scope status uidCounter mtu).size ≤ mtu + 4 := by
    simp [GetFolderItemsResponseBuilder.make, GetFolderItemsResponseBuilder.size,
      BrowsePacket.kMinSize]
  exact (Runs.run_preserves builderStep _ preserves _ final calls results ⟨rfl, initial⟩ ran).2

/-- Two media players with empty names offered to a player list of MTU 35: the
first brings the packet to 39 octets, four past the MTU and no further. -/
theorem run_size_le_twoPlayers :
    ∃ final results, Runs.run builderStep (GetFolderItemsResponseBuilder.make Scope.mediaPlayerList .noError 0 35)
        [.addMediaPlayer (MediaPlayerItem.make 1 [] false), .addMediaPlayer (MediaPlayerItem.make 2 [] false)] =
        .ok (final, results) ∧ final.size = 39 ∧ final.size ≤ 35 + 4 := by
  obtain ⟨final, results, ran, size⟩ : ∃ final results,
      Runs.run builderStep (GetFolderItemsResponseBuilder.make Scope.mediaPlayerList .noError 0 35)
        [.addMediaPlayer (MediaPlayerItem.make 1 [] false), .addMediaPlayer (MediaPlayerItem.make 2 [] false)] =
        .ok (final, results) ∧ final.size = 39 := ⟨_, _, rfl, rfl⟩
  exact ⟨final, results, ran, size, run_size_le Scope.mediaPlayerList .noError 0 35 final _ results ran⟩

/-- An MTU of 35 admits a media player with an empty name, 31 octets, as the
first item of a player list, and the packet is then 39 octets long. -/
theorem getFolderItems_firstItemOverMtu :
    BrowsePacket.kMinSize + 5 ≤ 35 ∧
      ((GetFolderItemsResponseBuilder.makePlayerListBuilder Status.noError 0 35).addMediaPlayer
          (MediaPlayerItem.make 1 [] false)).map
        (fun result => (result.1, result.2.size, (result.2.serialize []).1.length)) =
        some (true, 39, 39) := by
  constructor <;> decide

end Fluoride.AvrcpResponse
