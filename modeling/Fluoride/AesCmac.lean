import Fluoride.ByteBuffer

/-!
# AES-CMAC of the crypto toolbox

`aes_cmac` (`stack/crypto_toolbox/aes_cmac.cc`) signs a message with AES-CMAC,
with the key, the message and the signature all least significant octet first.
It copies the message to the high end of a stack block of `n * 16` octets, `n`
the number of 16-octet blocks, pads and masks the block at address 0 (the
message's last block), and then chains the cipher over the blocks from the
highest address down. The cipher `aes_128` is a parameter of the model.

The block count and the block size are `uint16_t` and the loop counter of
`cmac_aes_k_calculate` is a `uint8_t`. From 255 blocks on, that counter
wraps to 0 after its 255th pass, the loop goes on, and the next block it masks
lies past the end of the text (`aesCmac_longMessage`). Past 65520 octets the
block size itself wraps to 0 and the message is copied outside it.

A `memcpy` or a block access outside the text is the failure `none`. The text
block `alloca` leaves uninitialised is zeros here.
-/

namespace Fluoride.AesCmac

open ByteBuffer

/-- `OCTET16_LEN`. -/
def octet16Len : Nat := 16

/-- `const_Rb`, least significant octet first. -/
def constRb : List UInt8 := 0x87 :: List.replicate 15 0

/-- `xor_128`. -/
def xor128 (a b : List UInt8) : List UInt8 := List.zipWith (· ^^^ ·) a b

/-- `xor_128` on the block at `position` of the text: `none` when the block
leaves it. -/
def xorAt? (text : List UInt8) (position : Nat) (b : List UInt8) : Option (List UInt8) :=
  if position + octet16Len ≤ text.length then
    some (writeAt text position (xor128 (window text position octet16Len) b))
  else none

/-- `padding`: octet `OCTET16_LEN - length - 1` becomes `0x80`, the ones below
it zero. -/
def padding (dest : List UInt8) (length : Nat) : List UInt8 :=
  (List.range' length (octet16Len - length)).foldl
    (fun p i => p.set (octet16Len - i - 1) (if i = length then 0x80 else 0)) dest

/-- The loop of `leftshift_onebit`, carrying the bit shifted out of each octet
into the next. -/
def leftshiftOnebitLoop : UInt8 → List UInt8 → List UInt8
  | _, [] => []
  | overflow, octet :: rest =>
    ((octet <<< 1) ||| overflow) :: leftshiftOnebitLoop (if octet &&& 0x80 ≠ 0 then 1 else 0) rest

/-- `leftshift_onebit`: the 128-bit value shifted left by one, `input[0]` the
least significant octet. -/
def leftshiftOnebit (input : List UInt8) : List UInt8 := leftshiftOnebitLoop 0 input

/-- One subkey step of `cmac_generate_subkey`: `K << 1`, masked with `R_b`
when the top bit of `K` is set. -/
def subkeyStep (k : List UInt8) : List UInt8 :=
  if k.getD (octet16Len - 1) 0 &&& 0x80 ≠ 0 then xor128 (leftshiftOnebit k) constRb
  else leftshiftOnebit k

/-- `tCMAC_CB`: the text, the message length and the number of blocks. -/
structure CmacCb where
  text : List UInt8
  len : Nat
  round : Nat
  deriving DecidableEq, Repr

/-- `cmac_prepare_last_block`: a complete last block is masked with `K1`, an
incomplete one padded and masked with `K2`. -/
def cmacPrepareLastBlock (cb : CmacCb) (k1 k2 : List UInt8) : Option CmacCb :=
  if cb.len % octet16Len = 0 ∧ cb.len ≠ 0 then
    (xorAt? cb.text 0 k1).map fun text => { cb with text := text }
  else if octet16Len ≤ cb.text.length then
    let padded := writeAt cb.text 0 (padding (window cb.text 0 octet16Len) (cb.len % 16))
    (xorAt? padded 0 k2).map fun text => { cb with text := text }
  else none

/-- `cmac_generate_subkey`: `K1` and `K2` from `aes_128(key, 0)`, then the last
block. -/
def cmacGenerateSubkey (aes128 : List UInt8 → List UInt8 → List UInt8) (key : List UInt8)
    (cb : CmacCb) : Option CmacCb :=
  let k1 := subkeyStep (aes128 key (List.replicate octet16Len 0))
  cmacPrepareLastBlock cb k1 (subkeyStep k1)

/-- The loop of `cmac_aes_k_calculate`, from the block at the highest address
down, with its `uint8_t` counter `i`. Within 256 passes the loop ends or, with
`i` wrapped to 0, masks the block at `round * 16`, past the text: the fuel
is never what stops it. -/
def cmacAesKCalculateLoop (aes128 : List UInt8 → List UInt8 → List UInt8) (key : List UInt8)
    (round : Nat) : Nat → UInt8 → List UInt8 → List UInt8 → Option (List UInt8 × List UInt8)
  | 0, _, _, _ => none
  | fuel + 1, i, x, text =>
    if i.toNat ≤ round then
      let position := (round - i.toNat) * octet16Len
      match xorAt? text position x with
      | none => none
      | some text =>
        cmacAesKCalculateLoop aes128 key round fuel (i + 1) (aes128 key (window text position octet16Len)) text
    else some (x, text)

/-- `cmac_aes_k_calculate`: the last output of the chain. -/
def cmacAesKCalculate (aes128 : List UInt8 → List UInt8 → List UInt8) (key : List UInt8)
    (cb : CmacCb) : Option (List UInt8) :=
  (cmacAesKCalculateLoop aes128 key cb.round 256 1 (List.replicate octet16Len 0) cb.text).map Prod.fst

/-- `aes_cmac(key, input, length)`: the block count and size in `uint16_t`, the
message copied to the high end of the text. -/
def aesCmac (aes128 : List UInt8 → List UInt8 → List UInt8) (key input : List UInt8)
    (length : UInt16) : Option (List UInt8) := do
  let n := (length.toNat + octet16Len - 1) / octet16Len % 65536
  let n := if n = 0 then 1 else n
  let len := n * octet16Len % 65536
  let diff := (len + 65536 - length.toNat) % 65536
  let text ← if length.toNat > 0 then copy? (List.replicate len 0) diff input 0 length.toNat
    else some (List.replicate len 0)
  let cb ← cmacGenerateSubkey aes128 key
    { text := text, len := if length.toNat > 0 then length.toNat else 0, round := n }
  cmacAesKCalculate aes128 key cb

/-! ## Lengths -/

@[simp] theorem length_xor128 (a b : List UInt8) : (xor128 a b).length = min a.length b.length := by
  simp [xor128]

theorem xorAt?_inside (text : List UInt8) (position : Nat) (b : List UInt8)
    (inside : position + octet16Len ≤ text.length) :
    xorAt? text position b = some (writeAt text position (xor128 (window text position octet16Len) b)) := by
  simp [xorAt?, inside]

theorem xorAt?_outside (text : List UInt8) (position : Nat) (b : List UInt8)
    (outside : text.length < position + octet16Len) : xorAt? text position b = none := by
  simp [xorAt?, Nat.not_le.mpr outside]

/-- A block masked inside the text keeps its length. -/
theorem length_writeAt_xor128 (text : List UInt8) (position : Nat) (b : List UInt8)
    (inside : position + octet16Len ≤ text.length) :
    (writeAt text position (xor128 (window text position octet16Len) b)).length = text.length := by
  have clamped := Nat.min_le_left octet16Len b.length
  apply length_writeAt
  rw [length_xor128, length_window _ _ _ inside]
  omega

theorem length_padding (dest : List UInt8) (length : Nat) : (padding dest length).length = dest.length := by
  unfold padding
  generalize List.range' length (octet16Len - length) = indices
  induction indices generalizing dest with
  | nil => rfl
  | cons i rest ih => rw [List.foldl_cons, ih, List.length_set]

/-- The last block is prepared inside a text of at least one block, which keeps
its length. -/
theorem cmacPrepareLastBlock_length (cb : CmacCb) (k1 k2 : List UInt8)
    (oneBlock : octet16Len ≤ cb.text.length) :
    ∃ prepared, cmacPrepareLastBlock cb k1 k2 = some prepared ∧
      prepared.text.length = cb.text.length ∧ prepared.round = cb.round := by
  unfold cmacPrepareLastBlock
  by_cases complete : cb.len % octet16Len = 0 ∧ cb.len ≠ 0
  · rw [if_pos complete, xorAt?_inside _ _ _ oneBlock]
    exact ⟨_, rfl, length_writeAt_xor128 _ _ _ oneBlock, rfl⟩
  · have padded : (writeAt cb.text 0 (padding (window cb.text 0 octet16Len) (cb.len % 16))).length =
        cb.text.length := by
      apply length_writeAt
      rw [length_padding, length_window _ _ _ oneBlock]
      exact oneBlock
    rw [if_neg complete, if_pos oneBlock]
    dsimp only
    rw [xorAt?_inside _ _ _ (by rw [padded]; exact oneBlock)]
    exact ⟨_, rfl, by rw [length_writeAt_xor128 _ _ _ (by rw [padded]; exact oneBlock), padded], rfl⟩

/-- From 255 blocks on, the `uint8_t` counter reaches 255, wraps to 0, and the
pass after masks the block at `round * 16`, past the text. -/
theorem cmacAesKCalculateLoop_wraps (aes128 : List UInt8 → List UInt8 → List UInt8)
    (key : List UInt8) (round : Nat) (many : 255 ≤ round) :
    ∀ (pending : Nat) (i : UInt8) (x text : List UInt8), i.toNat + pending = 255 → 1 ≤ i.toNat →
      text.length = round * octet16Len →
        cmacAesKCalculateLoop aes128 key round (pending + 2) i x text = none := by
  intro pending
  induction pending with
  | zero =>
    intro i x text last first sized
    have inside : (round - i.toNat) * octet16Len + octet16Len ≤ text.length := by
      rw [sized]
      unfold octet16Len
      omega
    have wrapped : (i + 1).toNat = 0 := by
      rw [UInt8.toNat_add, Nat.add_zero] at *
      rw [last]
      rfl
    rw [cmacAesKCalculateLoop, if_pos (by omega)]
    dsimp only
    rw [xorAt?_inside _ _ _ inside]
    dsimp only
    rw [cmacAesKCalculateLoop.eq_def]
    dsimp only
    rw [if_pos (by omega), wrapped, Nat.sub_zero, xorAt?_outside]
    · rw [length_writeAt_xor128 _ _ _ inside, sized]
      unfold octet16Len
      omega
  | succ pending ih =>
    intro i x text last first sized
    have inside : (round - i.toNat) * octet16Len + octet16Len ≤ text.length := by
      rw [sized]
      unfold octet16Len
      omega
    have next : (i + 1).toNat = i.toNat + 1 := by
      rw [UInt8.toNat_add]
      have below : i.toNat + 1 < 2 ^ 8 := by omega
      exact Nat.mod_eq_of_lt below
    rw [cmacAesKCalculateLoop, if_pos (by omega)]
    dsimp only
    rw [xorAt?_inside _ _ _ inside]
    apply ih (i + 1) _ _ (by omega) (by omega)
    rw [length_writeAt_xor128 _ _ _ inside, sized]

/-- A message of more than 4064 octets, 255 blocks or more, is never signed:
the copy leaves a text whose block size wrapped to 0, or the chain masks a
block past the text once its counter wraps. -/
theorem aesCmac_longMessage (aes128 : List UInt8 → List UInt8 → List UInt8) (key input : List UInt8)
    (long : 4064 < input.length) (fits : input.length < 65536) :
    aesCmac aes128 key input (UInt16.ofNat input.length) = none := by
  have length16 : (UInt16.ofNat input.length).toNat = input.length := by
    rw [UInt16.toNat_ofNat']
    exact Nat.mod_eq_of_lt fits
  by_cases wrapped : 65520 < input.length
  · -- 4096 blocks: the block size `n * 16` is 0 in `uint16_t`
    have blocks : (input.length + octet16Len - 1) / octet16Len % 65536 = 4096 := by
      unfold octet16Len
      omega
    have outside : (List.replicate (4096 * octet16Len % 65536) (0 : UInt8)).length <
        (4096 * octet16Len % 65536 + 65536 - input.length) % 65536 + input.length := by
      simp only [List.length_replicate, octet16Len]
      omega
    simp only [aesCmac, length16, blocks, if_neg (show (4096 : Nat) ≠ 0 by decide),
      if_pos (show input.length > 0 by omega), copy?_overflow _ _ _ _ _ outside]
    rfl
  · -- `n` blocks, 255 ≤ n ≤ 4095: the copy and the last block fit
    obtain ⟨n, counted⟩ : ∃ n, (input.length + octet16Len - 1) / octet16Len = n := ⟨_, rfl⟩
    have bounds : 255 ≤ n ∧ n < 65536 ∧ n * octet16Len < 65536 ∧ input.length ≤ n * octet16Len ∧
        n * octet16Len < input.length + octet16Len := by
      unfold octet16Len at counted ⊢
      omega
    obtain ⟨diff, differed⟩ : ∃ diff, (n * octet16Len + 65536 - input.length) % 65536 = diff := ⟨_, rfl⟩
    have fitsText : diff + input.length = n * octet16Len := by
      rw [← differed]
      omega
    have copied := copy?_eq_some (List.replicate (n * octet16Len) (0 : UInt8)) diff input 0 input.length
      (by rw [List.length_replicate]; omega) (by omega)
    have textLength : (writeAt (List.replicate (n * octet16Len) (0 : UInt8)) diff
        (window input 0 input.length)).length = n * octet16Len := by
      rw [length_writeAt _ _ _ (by rw [length_window _ _ _ (by omega), List.length_replicate]; omega),
        List.length_replicate]
    obtain ⟨prepared, subkeyed, preparedLength, preparedRound⟩ :=
      cmacPrepareLastBlock_length
        ⟨writeAt (List.replicate (n * octet16Len) 0) diff (window input 0 input.length), input.length, n⟩
        (subkeyStep (aes128 key (List.replicate octet16Len 0)))
        (subkeyStep (subkeyStep (aes128 key (List.replicate octet16Len 0))))
        (by rw [textLength]; unfold octet16Len at bounds ⊢; omega)
    have chained : cmacAesKCalculateLoop aes128 key prepared.round 256 1 (List.replicate octet16Len 0)
        prepared.text = none := by
      rw [preparedRound]
      exact cmacAesKCalculateLoop_wraps aes128 key n bounds.1 254 1 _ prepared.text rfl (by decide)
        (by rw [preparedLength, textLength])
    simp only [aesCmac, length16, counted, Nat.mod_eq_of_lt bounds.2.1,
      if_neg (show n ≠ 0 by omega), Nat.mod_eq_of_lt bounds.2.2.1, differed,
      if_pos (show input.length > 0 by omega), copied, bind, Option.bind, cmacGenerateSubkey, subkeyed,
      cmacAesKCalculate, chained]
    rfl

/-- A message of 4065 octets: the `uint8_t` round counter of `aes_cmac` wraps,
and no MAC comes out. -/
theorem aesCmac_longMessage_4065Octets :
    4064 < (List.replicate 4065 (0 : UInt8)).length ∧ (List.replicate 4065 (0 : UInt8)).length < 65536 ∧
      aesCmac (fun _ block => block) (List.replicate 16 0) (List.replicate 4065 0)
        (UInt16.ofNat (List.replicate 4065 (0 : UInt8)).length) = none := by
  have long : 4064 < (List.replicate 4065 (0 : UInt8)).length := by
    rw [List.length_replicate]
    decide
  have fits : (List.replicate 4065 (0 : UInt8)).length < 65536 := by
    rw [List.length_replicate]
    decide
  exact ⟨long, fits, aesCmac_longMessage _ _ _ long fits⟩

end Fluoride.AesCmac
