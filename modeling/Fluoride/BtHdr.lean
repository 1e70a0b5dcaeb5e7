import Fluoride.ByteBuffer

/-!
# The stack's buffer header

Every packet that travels between the layers of the stack is a `BT_HDR`
(`stack/include/bt_types.h`): four 16-bit fields followed by the buffer the
packet lives in, whose bytes from `offset` on, `len` of them, are the packet.
The model keeps the buffer as a list of cells. Received and built packets have
byte cells; a reassembly buffer has `Option` cells, `none` for a cell that no
write has reached yet, so that a theorem can say that a delivered packet has
no such cell.
-/

namespace Fluoride

open ByteBuffer

/-- `BT_HDR`: event, length, offset and layer-specific word, then the buffer. -/
structure BtHdr (α : Type) where
  event : Nat
  len : Nat
  offset : Nat
  layerSpecific : Nat
  data : List α
deriving Repr, DecidableEq

namespace BtHdr

variable {α : Type}

/-- `sizeof(BT_HDR)`: four `uint16_t` fields. -/
def headerSize : Nat := 8

/-- The `len` cells from `data + offset` on: the packet the header describes. -/
def payload (packet : BtHdr α) : List α :=
  window packet.data packet.offset packet.len

/-- The window of a buffer holds `len` cells when it lies inside. -/
theorem length_payload (packet : BtHdr α) (inside : packet.offset + packet.len ≤ packet.data.length) :
    packet.payload.length = packet.len :=
  length_window _ _ _ inside

/-- A received buffer seen cell by cell: every cell holds its byte. -/
def cells (packet : BtHdr UInt8) : BtHdr (Option UInt8) :=
  { event := packet.event, len := packet.len, offset := packet.offset,
    layerSpecific := packet.layerSpecific, data := packet.data.map some }

@[simp] theorem cells_len (packet : BtHdr UInt8) : packet.cells.len = packet.len := rfl

@[simp] theorem cells_offset (packet : BtHdr UInt8) : packet.cells.offset = packet.offset := rfl

@[simp] theorem cells_data (packet : BtHdr UInt8) : packet.cells.data = packet.data.map some :=
  rfl

/-- The packet a received buffer holds, seen cell by cell, is its bytes. -/
@[simp] theorem payload_cells (packet : BtHdr UInt8) : packet.cells.payload = packet.payload.map some := by
  simp only [payload, cells_data, cells_offset, cells_len, window_map]

end BtHdr

end Fluoride
