import Fluoride.Octets
import Fluoride.ByteBuffer

/-!
# CMAC over a 128-bit block cipher

The message authentication code of RFC 4493 over a keyed block cipher
`encrypt` on 16-octet blocks, every octet string most significant octet first.
The subkeys `K1` and `K2` double `encrypt 0^128` in the field of 2^128
elements (`generateSubkey`); the message is cut into 16-octet blocks, the last
one masked with `K1` when it is complete and padded and masked with `K2`
otherwise (`lastBlock`); and the blocks are chained through the cipher
(`mac`). The cipher is a parameter: what is modelled is the mode.
-/

namespace Cmac

open Octets (beOctets beValue)
open ByteBuffer (window)

/-- `0^128`. -/
def zeroBlock : List UInt8 := List.replicate 16 0

/-- `const_Rb`, `0^120 10000111`. -/
def constRb : List UInt8 := List.replicate 15 0 ++ [0x87]

/-- `x XOR y`, octet by octet. -/
def xorBlock (x y : List UInt8) : List UInt8 := List.zipWith (· ^^^ ·) x y

/-- `x << 1`: the 128 bits moved one place to the left, the leftmost dropped
and a zero appended. -/
def shiftLeftOne (x : List UInt8) : List UInt8 := beOctets 16 (2 * beValue x)

/-- `MSB(x)`, the leftmost bit. -/
def msb (x : List UInt8) : Bool := 0x80 ≤ x.headD 0

/-- Doubling in the field: `x << 1`, XORed with `const_Rb` when `MSB(x)` is set. -/
def dbl (x : List UInt8) : List UInt8 :=
  if msb x then xorBlock (shiftLeftOne x) constRb else shiftLeftOne x

/-- `Generate_Subkey`: `K1 = dbl(L)` and `K2 = dbl(K1)` for `L = encrypt 0^128`. -/
def generateSubkey (encrypt : List UInt8 → List UInt8) : List UInt8 × List UInt8 :=
  (dbl (encrypt zeroBlock), dbl (dbl (encrypt zeroBlock)))

/-- `padding(x)`, `x || 10^i` up to 16 octets. -/
def padding (x : List UInt8) : List UInt8 := x ++ 0x80 :: List.replicate (15 - x.length) 0

/-- The number of blocks `n`, one for the empty message. -/
def blockCount (length : Nat) : Nat := max 1 ((length + 15) / 16)

/-- `M_last`: the last block masked with `K1` when it is complete, padded and
masked with `K2` otherwise. -/
def lastBlock (encrypt : List UInt8 → List UInt8) (message : List UInt8) : List UInt8 :=
  let last := window message (16 * (blockCount message.length - 1)) 16
  if message.length ≠ 0 ∧ message.length % 16 = 0 then xorBlock last (generateSubkey encrypt).1
  else xorBlock (padding last) (generateSubkey encrypt).2

/-- The CBC chain `X := encrypt (X XOR M_i)` over the blocks. -/
def chain (encrypt : List UInt8 → List UInt8) (x : List UInt8) (blocks : List (List UInt8)) :
    List UInt8 :=
  blocks.foldl (fun x block => encrypt (xorBlock x block)) x

/-- `AES-CMAC(K, M)`: the chain from `0^128` over `M_1 .. M_{n-1}` and `M_last`. -/
def mac (encrypt : List UInt8 → List UInt8) (message : List UInt8) : List UInt8 :=
  chain encrypt zeroBlock
    (((List.range (blockCount message.length - 1)).map fun index => window message (16 * index) 16) ++
      [lastBlock encrypt message])

@[simp] theorem length_xorBlock (x y : List UInt8) : (xorBlock x y).length = min x.length y.length := by
  simp [xorBlock]

theorem xorBlock_comm (x y : List UInt8) : xorBlock x y = xorBlock y x := by
  rw [xorBlock, List.zipWith_comm]
  congr
  funext a b
  exact UInt8.xor_comm b a

/-- XOR works octet by octet, so it reads the same in either octet order. -/
theorem reverse_xorBlock (x y : List UInt8) (sameLength : x.length = y.length) :
    (xorBlock x y).reverse = xorBlock x.reverse y.reverse := by
  rw [xorBlock, List.reverse_zipWith sameLength]
  rfl

@[simp] theorem length_shiftLeftOne (x : List UInt8) : (shiftLeftOne x).length = 16 := by
  simp [shiftLeftOne]

@[simp] theorem length_dbl (x : List UInt8) : (dbl x).length = 16 := by
  unfold dbl
  split <;> simp [constRb]

end Cmac
