import Fluoride.AesCmac
import Fluoride.Cmac

/-!
# `aes_cmac` computes AES-CMAC for every message of up to 4064 octets

`aes_cmac` keeps every octet string least significant octet first, and its
`aes_128` reverses the key, the block and the output around the cipher
(`stack/crypto_toolbox/aes_cmac.cc`). Read most significant octet first, what
it computes is the CMAC of RFC 4493 (`Cmac.mac`): `leftshift_onebit` is the
shift `x << 1` and `cmac_generate_subkey` the doubling of the subkeys
(`reverse_subkeyStep`), `padding` on the reversed block is `x || 10^i`
(`reverse_padding`), and the loop of `cmac_aes_k_calculate`, which walks the
text from its highest block down, is the CBC chain over the message's blocks in
order (`cmacAesKCalculate_eq`). The uninitialised octets below a short message
are never read as message octets.

The bound is that of `aesCmac_longMessage`: from 4065 octets on, the `uint8_t`
counter wraps and the signature is never produced. The cipher stays a
parameter, any function giving 16 octets.
-/

namespace Fluoride.AesCmac

open ByteBuffer Octets

/-- `aes_128(key, message)`: the cipher on the reversed key and block, its output
reversed back. -/
def aes128 (aesEncrypt : List UInt8 → List UInt8 → List UInt8) (key message : List UInt8) :
    List UInt8 :=
  (aesEncrypt key.reverse message.reverse).reverse

/-! ## Octets, in either order -/

/-- The bit `octet &&& 0x80` tests, in place. -/
theorem toNat_and_topBit (octet : UInt8) : (octet &&& 0x80).toNat = 2 * octet.toNat / 256 * 128 := by
  have small := octet.toNat_lt
  have masked : octet.toNat &&& 2 ^ 7 = (octet.toNat.testBit 7).toNat * 2 ^ 7 := Nat.and_two_pow _ _
  rw [Nat.testBit_eq_decide_div_mod_eq] at masked
  rw [UInt8.toNat_and, show (0x80 : UInt8).toNat = 2 ^ 7 from rfl, masked]
  by_cases top : octet.toNat / 2 ^ 7 % 2 = 1
  · simp only [top, decide_true, Bool.toNat_true]
    omega
  · simp only [top, decide_false, Bool.toNat_false]
    omega

theorem le_iff_topBit (octet : UInt8) : (0x80 ≤ octet) ↔ (octet &&& 0x80 ≠ 0) := by
  have small := octet.toNat_lt
  have threshold : (0x80 : UInt8).toNat = 128 := rfl
  rw [UInt8.le_iff_toNat_le, Ne, ← UInt8.toNat_inj, toNat_and_topBit, UInt8.toNat_zero, threshold]
  constructor
  · intro top
    omega
  · intro set
    omega

theorem toNat_topBit (octet : UInt8) :
    (if octet &&& 0x80 ≠ 0 then (1 : UInt8) else 0).toNat = 2 * octet.toNat / 256 := by
  have small := octet.toNat_lt
  have threshold : (0x80 : UInt8).toNat = 128 := rfl
  split
  · rename_i set
    have top := UInt8.le_iff_toNat_le.mp ((le_iff_topBit octet).mpr set)
    rw [UInt8.toNat_one]
    omega
  · rename_i clear
    have low := mt UInt8.le_iff_toNat_le.mpr (mt (le_iff_topBit octet).mp clear)
    rw [UInt8.toNat_zero]
    omega

/-- One octet shifted left with the carry in. -/
theorem toNat_shiftLeft_or {carry : UInt8} (bit : carry.toNat ≤ 1) (octet : UInt8) :
    ((octet <<< 1) ||| carry).toNat = 2 * octet.toNat % 256 + carry.toNat := by
  have wrapped : octet.toNat <<< 1 % 2 ^ 8 = (octet.toNat % 128) <<< 1 := by
    rw [Nat.shiftLeft_eq, Nat.shiftLeft_eq]
    omega
  rw [UInt8.toNat_or, UInt8.toNat_shiftLeft, UInt8.toNat_one, wrapped,
    ← Nat.shiftLeft_add_eq_or_of_lt (by omega : carry.toNat < 2 ^ 1), Nat.shiftLeft_eq]
  omega

theorem length_leftshiftOnebitLoop (octets : List UInt8) :
    ∀ carry : UInt8, (leftshiftOnebitLoop carry octets).length = octets.length := by
  induction octets with
  | nil => intro carry; rfl
  | cons octet rest inductionHypothesis =>
    intro carry
    rw [leftshiftOnebitLoop, List.length_cons, List.length_cons, inductionHypothesis]

/-- `leftshift_onebit`, least significant octet first, doubles the value with
the carry in, dropping the bit shifted out of the top. -/
theorem leValue_leftshiftOnebitLoop (octets : List UInt8) :
    ∀ carry : UInt8, carry.toNat ≤ 1 →
      leValue (leftshiftOnebitLoop carry octets) = (2 * leValue octets + carry.toNat) % 256 ^ octets.length := by
  induction octets with
  | nil =>
    intro carry bit
    simp only [leftshiftOnebitLoop, leValue_nil, List.length_nil, Nat.pow_zero, Nat.mod_one]
  | cons octet rest inductionHypothesis =>
    intro carry bit
    have small : octet.toNat < 256 := octet.toNat_lt
    have topBit := toNat_topBit octet
    have shifted := toNat_shiftLeft_or bit octet
    rw [leftshiftOnebitLoop, leValue_cons, leValue_cons, inductionHypothesis _ (by omega), topBit, shifted,
      List.length_cons, Nat.pow_succ', Nat.mod_mul]
    have low : (2 * (octet.toNat + 256 * leValue rest) + carry.toNat) % 256 =
        2 * octet.toNat % 256 + carry.toNat := by omega
    have high : (2 * (octet.toNat + 256 * leValue rest) + carry.toNat) / 256 =
        2 * leValue rest + 2 * octet.toNat / 256 := by omega
    rw [low, high]

/-- The octets of a value modulo `256 ^ width` are its octets. -/
theorem leOctets_mod (width value : Nat) : leOctets width (value % 256 ^ width) = leOctets width value := by
  have encoded := leOctets_leValue (leOctets width value)
  rwa [length_leOctets, leValue_leOctets] at encoded

/-- `leftshift_onebit` is `x << 1` read most significant octet first. -/
theorem reverse_leftshiftOnebit (octets : List UInt8) (sized : octets.length = 16) :
    (leftshiftOnebit octets).reverse = Cmac.shiftLeftOne octets.reverse := by
  have length : (leftshiftOnebit octets).length = 16 := by
    rw [leftshiftOnebit, length_leftshiftOnebitLoop, sized]
  have doubled : leValue (leftshiftOnebit octets) = 2 * leValue octets % 256 ^ 16 := by
    rw [leftshiftOnebit, leValue_leftshiftOnebitLoop octets 0 (by decide), sized, UInt8.toNat_zero,
      Nat.add_zero]
  have encoded := leOctets_leValue (leftshiftOnebit octets)
  rw [length, doubled, leOctets_mod] at encoded
  rw [Cmac.shiftLeftOne, beOctets, beValue, List.reverse_reverse, encoded]

/-- The top bit `cmac_generate_subkey` tests is `MSB` of the reversed block. -/
theorem msb_reverse (octets : List UInt8) (sized : octets.length = 16) :
    Cmac.msb octets.reverse = decide (octets.getD (octet16Len - 1) 0 &&& 0x80 ≠ 0) := by
  have last : octets.reverse.headD 0 = octets.getD (octet16Len - 1) 0 := by
    rw [List.headD_eq_head?_getD, List.head?_reverse, List.getLast?_eq_getElem?, sized,
      List.getD_eq_getElem?_getD]
    rfl
  rw [Cmac.msb, last, decide_eq_decide]
  exact le_iff_topBit _

/-- `const_Rb` of the source, reversed, is `const_Rb`. -/
theorem reverse_constRb : constRb.reverse = Cmac.constRb := by decide

theorem length_subkeyStep (octets : List UInt8) (sized : octets.length = 16) :
    (subkeyStep octets).length = 16 := by
  have shifted : (leftshiftOnebit octets).length = 16 := by
    rw [leftshiftOnebit, length_leftshiftOnebitLoop, sized]
  unfold subkeyStep
  split <;> simp [shifted, xor128, constRb]

/-- A subkey step of `cmac_generate_subkey` is the doubling of the subkeys. -/
theorem reverse_subkeyStep (octets : List UInt8) (sized : octets.length = 16) :
    (subkeyStep octets).reverse = Cmac.dbl octets.reverse := by
  have shifted : (leftshiftOnebit octets).length = 16 := by
    rw [leftshiftOnebit, length_leftshiftOnebitLoop, sized]
  unfold subkeyStep Cmac.dbl
  rw [msb_reverse octets sized]
  by_cases top : octets.getD (octet16Len - 1) 0 &&& 0x80 ≠ 0
  · rw [if_pos top, decide_eq_true top, if_pos rfl, ← reverse_leftshiftOnebit octets sized,
      ← reverse_constRb]
    exact Cmac.reverse_xorBlock _ _ (by rw [shifted]; rfl)
  · rw [if_neg top, decide_eq_false top, if_neg Bool.false_ne_true, reverse_leftshiftOnebit octets sized]

/-! ## The last block -/

/-- The rest of `padding`'s loop zeroes the octets below the one it set to `0x80`. -/
theorem foldl_padding_zeroes (length : Nat) :
    ∀ (count start : Nat) (dest : List UInt8), dest.length = 16 → start + count = 16 → length < start →
      (List.range' start count).foldl
          (fun p i => p.set (octet16Len - i - 1) (if i = length then 0x80 else 0)) dest =
        List.replicate count 0 ++ dest.drop count := by
  intro count
  induction count with
  | zero => intro start dest _ _ _; rfl
  | succ count inductionHypothesis =>
    intro start dest sized filled above
    have position : octet16Len - start - 1 = count := by
      unfold octet16Len
      omega
    have zeroed : (dest.set count 0).drop count = 0 :: dest.drop (count + 1) := by
      rw [List.set_eq_take_append_cons_drop, if_pos (by omega), List.drop_left' (by simp; omega)]
    rw [List.range'_succ, List.foldl_cons, if_neg (by omega), position,
      inductionHypothesis (start + 1) _ (by rw [List.length_set, sized]) (by omega) (by omega), zeroed,
      List.replicate_succ', List.append_assoc, List.singleton_append]

/-- `padding` on a block of 16 octets: zeroes, `0x80`, then the top `length` octets. -/
theorem padding_eq (dest : List UInt8) (sized : dest.length = 16) (length : Nat) (short : length < 16) :
    padding dest length = List.replicate (15 - length) 0 ++ 0x80 :: dest.drop (16 - length) := by
  have counted : octet16Len - length = 15 - length + 1 := by
    unfold octet16Len
    omega
  have position : octet16Len - length - 1 = 15 - length := by
    unfold octet16Len
    omega
  have marked : (dest.set (15 - length) 0x80).drop (15 - length) = 0x80 :: dest.drop (16 - length) := by
    rw [List.set_eq_take_append_cons_drop, if_pos (by omega), List.drop_left' (by simp; omega)]
    congr 2
    omega
  rw [padding, counted, List.range'_succ, List.foldl_cons, if_pos rfl, position,
    foldl_padding_zeroes length (15 - length) (length + 1) _ (by rw [List.length_set, sized]) (by omega)
      (by omega), marked]

/-- `padding` on the reversed block is `x || 10^i` on its first `length` octets. -/
theorem reverse_padding (dest : List UInt8) (sized : dest.length = 16) (length : Nat) (short : length < 16) :
    (padding dest length).reverse = Cmac.padding (dest.reverse.take length) := by
  have top : dest.reverse.take length = (dest.drop (16 - length)).reverse := by
    rw [List.take_reverse, sized]
  have topLength : (dest.reverse.take length).length = length := by
    rw [List.length_take, List.length_reverse, sized]
    omega
  rw [padding_eq dest sized length short, Cmac.padding, topLength, List.reverse_append, List.reverse_cons,
    List.reverse_replicate, top, List.append_assoc, List.singleton_append]

/-- A window read in reverse is the mirrored window of the reversed list. -/
theorem reverse_window {α : Type} (octets : List α) (position count : Nat)
    (inside : position + count ≤ octets.length) :
    (window octets position count).reverse = window octets.reverse (octets.length - position - count) count := by
  have prefixLength : (octets.take (position + count)).length = position + count := by
    rw [List.length_take]
    omega
  rw [window, window, List.drop_reverse, List.take_reverse, List.take_drop,
    show octets.length - (octets.length - position - count) = position + count by omega, prefixLength,
    Nat.add_sub_cancel]

/-- Writing a block over a block of the same length at the start leaves only the
second. -/
theorem writeAt_writeAt_zero {α : Type} (buffer first second : List α) (sameLength : first.length = second.length) :
    writeAt (writeAt buffer 0 first) 0 second = writeAt buffer 0 second := by
  unfold writeAt
  simp only [List.take_zero, List.nil_append, Nat.zero_add]
  rw [List.drop_left' sameLength, sameLength]

/-- The block `cmac_prepare_last_block` writes at address 0: the block there
masked with `K1` when the message ends on a complete block, padded and masked
with `K2` otherwise. -/
def preparedBlock (cb : CmacCb) (k1 k2 : List UInt8) : List UInt8 :=
  if cb.len % octet16Len = 0 ∧ cb.len ≠ 0 then xor128 (window cb.text 0 octet16Len) k1
  else xor128 (padding (window cb.text 0 octet16Len) (cb.len % 16)) k2

/-- `cmac_prepare_last_block` on a text of at least one block writes the
prepared block at address 0. -/
theorem cmacPrepareLastBlock_eq (cb : CmacCb) (k1 k2 : List UInt8) (oneBlock : octet16Len ≤ cb.text.length)
    (k2Sized : k2.length = octet16Len) :
    cmacPrepareLastBlock cb k1 k2 = some { cb with text := writeAt cb.text 0 (preparedBlock cb k1 k2) } := by
  unfold cmacPrepareLastBlock preparedBlock
  by_cases complete : cb.len % octet16Len = 0 ∧ cb.len ≠ 0
  · rw [if_pos complete, if_pos complete, xorAt?_inside _ _ _ (by omega)]
    rfl
  · have padLength : (padding (window cb.text 0 octet16Len) (cb.len % 16)).length = octet16Len := by
      rw [length_padding, length_window _ _ _ (by omega)]
    have padded : (writeAt cb.text 0 (padding (window cb.text 0 octet16Len) (cb.len % 16))).length =
        cb.text.length :=
      length_writeAt _ _ _ (by omega)
    have written := window_writeAt_self cb.text 0 (padding (window cb.text 0 octet16Len) (cb.len % 16))
      (by omega)
    rw [padLength] at written
    rw [if_neg complete, if_neg complete, if_pos oneBlock]
    dsimp only
    rw [xorAt?_inside _ _ _ (by omega), written,
      writeAt_writeAt_zero _ _ _ (by rw [length_xor128, padLength, k2Sized, Nat.min_self])]
    rfl

/-- The loop of `cmac_aes_k_calculate` from counter `i` on, with the blocks
left: each pass masks the block at `(round - i) * 16` with the chaining value
and enciphers it. A pass writes only its own block and the later passes read
lower ones, so the loop is the fold of the passes over the text it starts
from. -/
theorem cmacAesKCalculateLoop_eq (aesEnc : List UInt8 → List UInt8 → List UInt8) (key : List UInt8)
    (round : Nat) (few : round ≤ 254) (blockSized : ∀ block, (aesEnc key block).length = octet16Len) :
    ∀ (remaining fuel : Nat) (i : UInt8) (x text : List UInt8), remaining < fuel →
      i.toNat + remaining = round + 1 → 1 ≤ i.toNat → text.length = round * octet16Len →
      x.length = octet16Len →
      (cmacAesKCalculateLoop aesEnc key round fuel i x text).map Prod.fst =
        some ((List.range' i.toNat remaining).foldl
          (fun x j => aesEnc key (xor128 (window text ((round - j) * octet16Len) octet16Len) x)) x) := by
  intro remaining
  induction remaining with
  | zero =>
    intro fuel i x text enough last _ _ _
    obtain ⟨fuel, rfl⟩ : ∃ rest, fuel = rest + 1 := ⟨fuel - 1, by omega⟩
    rw [cmacAesKCalculateLoop, if_neg (by omega)]
    rfl
  | succ remaining inductionHypothesis =>
    intro fuel i x text enough counted first sized xSized
    obtain ⟨fuel, rfl⟩ : ∃ rest, fuel = rest + 1 := ⟨fuel - 1, by omega⟩
    have inside : (round - i.toNat) * octet16Len + octet16Len ≤ text.length := by
      rw [sized]
      unfold octet16Len
      omega
    have next : (i + 1).toNat = i.toNat + 1 := by
      rw [UInt8.toNat_add]
      exact Nat.mod_eq_of_lt (by simp; omega)
    have masked : (xor128 (window text ((round - i.toNat) * octet16Len) octet16Len) x).length = octet16Len := by
      rw [length_xor128, length_window _ _ _ inside, xSized, Nat.min_self]
    have written := window_writeAt_self text ((round - i.toNat) * octet16Len)
      (xor128 (window text ((round - i.toNat) * octet16Len) octet16Len) x) (by omega)
    rw [masked] at written
    rw [cmacAesKCalculateLoop, if_pos (by omega)]
    dsimp only
    rw [xorAt?_inside _ _ _ inside]
    dsimp only
    rw [written, inductionHypothesis fuel (i + 1) _ _ (by omega) (by omega) (by omega)
      (by rw [length_writeAt_xor128 _ _ _ inside, sized]) (blockSized _), next, List.range'_succ,
      List.foldl_cons]
    congr 1
    apply List.foldl_ext
    intro chained j member
    rw [List.mem_range'_1] at member
    rw [window_writeAt_of_before _ _ _ _ _ (by unfold octet16Len; omega) (by omega)]

/-- The passes of the loop, read most significant octet first, are the CBC
chain of the cipher over the reversed blocks. -/
theorem reverse_foldl_passes (aesEncrypt : List UInt8 → List UInt8 → List UInt8) (key : List UInt8)
    (blockSized : ∀ key block, (aesEncrypt key block).length = 16) (block : Nat → List UInt8)
    (indices : List Nat) (blockLength : ∀ j ∈ indices, (block j).length = 16) :
    ∀ x : List UInt8, x.length = 16 →
      (indices.foldl (fun x j => aes128 aesEncrypt key (xor128 (block j) x)) x).reverse =
        Cmac.chain (aesEncrypt key.reverse) x.reverse (indices.map fun j => (block j).reverse) := by
  induction indices with
  | nil => intro x _; rfl
  | cons j rest inductionHypothesis =>
    intro x sized
    have later : ∀ j ∈ rest, (block j).length = 16 := fun j member =>
      blockLength j (List.mem_cons_of_mem _ member)
    have enciphered : (aes128 aesEncrypt key (xor128 (block j) x)).length = 16 := by
      rw [aes128, List.length_reverse, blockSized]
    have step : (aes128 aesEncrypt key (xor128 (block j) x)).reverse =
        aesEncrypt key.reverse (Cmac.xorBlock x.reverse (block j).reverse) := by
      rw [aes128, List.reverse_reverse, Cmac.xorBlock_comm]
      congr 1
      exact Cmac.reverse_xorBlock _ _ (by rw [blockLength j List.mem_cons_self, sized])
    rw [List.foldl_cons, inductionHypothesis later _ enciphered, step, List.map_cons, Cmac.chain, Cmac.chain,
      List.foldl_cons]

/-- Up to 4064 octets nothing wraps in `uint16_t`: `aes_cmac` copies the message
to the top of a text of `n` blocks, zeros below it, and prepares and chains it. -/
theorem aesCmac_eq (aesEnc : List UInt8 → List UInt8 → List UInt8) (key input : List UInt8)
    (short : input.length ≤ 4064) :
    aesCmac aesEnc key input (UInt16.ofNat input.length) =
      (cmacGenerateSubkey aesEnc key
        { text := List.replicate (Cmac.blockCount input.length * octet16Len - input.length) 0 ++ input,
          len := input.length, round := Cmac.blockCount input.length }).bind
        (cmacAesKCalculate aesEnc key) := by
  have length16 : (UInt16.ofNat input.length).toNat = input.length := by
    rw [UInt16.toNat_ofNat']
    exact Nat.mod_eq_of_lt (by omega)
  have counted : (if (input.length + octet16Len - 1) / octet16Len % 65536 = 0 then 1
      else (input.length + octet16Len - 1) / octet16Len % 65536) = Cmac.blockCount input.length := by
    unfold Cmac.blockCount octet16Len
    split <;> omega
  have sized : Cmac.blockCount input.length * octet16Len % 65536 = Cmac.blockCount input.length * octet16Len := by
    unfold Cmac.blockCount octet16Len
    omega
  have differed : (Cmac.blockCount input.length * octet16Len + 65536 - input.length) % 65536 =
      Cmac.blockCount input.length * octet16Len - input.length := by
    unfold Cmac.blockCount octet16Len
    omega
  by_cases empty : input.length = 0
  · rw [List.eq_nil_of_length_eq_zero empty]
    rfl
  · have fits : input.length ≤ Cmac.blockCount input.length * octet16Len := by
      unfold Cmac.blockCount octet16Len
      omega
    have placed := writeAt_replicate_append (Cmac.blockCount input.length * octet16Len) (0 : UInt8) input []
      fits
    rw [List.append_nil, List.append_nil] at placed
    have whole : window input 0 input.length = input := by simp [window]
    have copied := copy?_eq_some (List.replicate (Cmac.blockCount input.length * octet16Len) (0 : UInt8))
      (Cmac.blockCount input.length * octet16Len - input.length) input 0 input.length
      (by rw [List.length_replicate]; omega) (by omega)
    rw [whole, placed] at copied
    simp only [aesCmac, length16, counted, sized, differed, if_pos (show input.length > 0 by omega), copied,
      bind, Option.bind]

theorem length_preparedBlock (cb : CmacCb) (k1 k2 : List UInt8) (oneBlock : octet16Len ≤ cb.text.length)
    (k1Sized : k1.length = octet16Len) (k2Sized : k2.length = octet16Len) :
    (preparedBlock cb k1 k2).length = octet16Len := by
  unfold preparedBlock
  split
  · rw [length_xor128, length_window _ _ _ (by omega), k1Sized, Nat.min_self]
  · rw [length_xor128, length_padding, length_window _ _ _ (by omega), k2Sized, Nat.min_self]

/-- A window inside the front of a list reads the front. -/
theorem window_append_left {α : Type} (front back : List α) (position count : Nat)
    (inside : position + count ≤ front.length) :
    window (front ++ back) position count = window front position count := by
  rw [window, window, List.drop_append_of_le_length (by omega),
    List.take_append_of_le_length (by rw [List.length_drop]; omega)]

/-- A window that reaches the end of a list is the rest of it. -/
theorem window_to_end {α : Type} (octets : List α) (position count : Nat)
    (reaches : octets.length ≤ position + count) : window octets position count = octets.drop position := by
  rw [window, List.take_of_length_le (by rw [List.length_drop]; omega)]

/-- The subkeys of `cmac_generate_subkey`, read most significant octet first,
are those of `Generate_Subkey`. -/
theorem reverse_subkeys (aesEncrypt : List UInt8 → List UInt8 → List UInt8)
    (blockSized : ∀ key block, (aesEncrypt key block).length = 16) (key : List UInt8) :
    (subkeyStep (aes128 aesEncrypt key (List.replicate octet16Len 0))).reverse =
        (Cmac.generateSubkey (aesEncrypt key.reverse)).1 ∧
      (subkeyStep (subkeyStep (aes128 aesEncrypt key (List.replicate octet16Len 0)))).reverse =
        (Cmac.generateSubkey (aesEncrypt key.reverse)).2 := by
  have zeroSized : (aes128 aesEncrypt key (List.replicate octet16Len 0)).length = 16 := by
    rw [aes128, List.length_reverse, blockSized]
  have enciphered : (aes128 aesEncrypt key (List.replicate octet16Len 0)).reverse =
      aesEncrypt key.reverse Cmac.zeroBlock := by
    rw [aes128, List.reverse_reverse, List.reverse_replicate]
    rfl
  have first : (subkeyStep (aes128 aesEncrypt key (List.replicate octet16Len 0))).reverse =
      (Cmac.generateSubkey (aesEncrypt key.reverse)).1 := by
    rw [reverse_subkeyStep _ zeroSized, enciphered]
    rfl
  refine ⟨first, ?_⟩
  rw [reverse_subkeyStep _ (length_subkeyStep _ zeroSized), first]
  rfl

/-- The prepared block of the text `aes_cmac` lays out, read most significant
octet first, is `M_last`. -/
theorem reverse_preparedBlock (aesEncrypt : List UInt8 → List UInt8 → List UInt8)
    (blockSized : ∀ key block, (aesEncrypt key block).length = 16) (key input : List UInt8)
    (short : input.length ≤ 4064) :
    (preparedBlock
        ⟨List.replicate (Cmac.blockCount input.length * octet16Len - input.length) 0 ++ input, input.length,
          Cmac.blockCount input.length⟩
        (subkeyStep (aes128 aesEncrypt key (List.replicate octet16Len 0)))
        (subkeyStep (subkeyStep (aes128 aesEncrypt key (List.replicate octet16Len 0))))).reverse =
      Cmac.lastBlock (aesEncrypt key.reverse) input.reverse := by
  obtain ⟨n, counted⟩ : ∃ n, Cmac.blockCount input.length = n := ⟨_, rfl⟩
  have blocks : n = max 1 ((input.length + 15) / 16) := by
    rw [← counted]
    rfl
  have sixteen : octet16Len = 16 := rfl
  obtain ⟨k1Reversed, k2Reversed⟩ := reverse_subkeys aesEncrypt blockSized key
  have zeroSized : (aes128 aesEncrypt key (List.replicate octet16Len 0)).length = 16 := by
    rw [aes128, List.length_reverse, blockSized]
  have k1Sized := length_subkeyStep _ zeroSized
  have k2Sized := length_subkeyStep _ k1Sized
  have textLength : (List.replicate (n * octet16Len - input.length) (0 : UInt8) ++ input).length =
      n * octet16Len := by
    rw [List.length_append, List.length_replicate]
    unfold octet16Len
    omega
  -- the block at address 0, read in reverse, is the top of the message read in reverse
  have topBlock : (window (List.replicate (n * octet16Len - input.length) (0 : UInt8) ++ input) 0
      octet16Len).reverse = window (input.reverse ++ List.replicate (n * octet16Len - input.length) 0)
        (16 * (n - 1)) 16 := by
    rw [reverse_window _ _ _ (by rw [textLength]; unfold octet16Len; omega), textLength, List.reverse_append,
      List.reverse_replicate]
    congr 1
    unfold octet16Len
    omega
  have topSized : (window (List.replicate (n * octet16Len - input.length) (0 : UInt8) ++ input) 0
      octet16Len).length = 16 :=
    length_window _ _ _ (by rw [textLength]; unfold octet16Len; omega)
  unfold preparedBlock Cmac.lastBlock
  simp only [List.length_reverse, counted]
  by_cases complete : input.length % octet16Len = 0 ∧ input.length ≠ 0
  · have filled : n * octet16Len - input.length = 0 := by
      rw [sixteen] at complete ⊢
      omega
    rw [if_pos complete, if_pos (by rw [sixteen] at complete; omega), ← k1Reversed, xor128,
      ← Cmac.xorBlock, Cmac.reverse_xorBlock _ _ (by rw [topSized, k1Sized]), topBlock, filled,
      List.replicate_zero, List.append_nil]
  · have remainder : 16 * (n - 1) + input.length % 16 = input.length := by
      rw [sixteen] at complete
      omega
    have lastPart : (window (input.reverse ++ List.replicate (n * octet16Len - input.length) 0)
        (16 * (n - 1)) 16).take (input.length % 16) = window input.reverse (16 * (n - 1)) 16 := by
      rw [take_window _ _ _ _ (by omega), window_append_left _ _ _ _ (by rw [List.length_reverse]; omega),
        window_to_end _ _ _ (by rw [List.length_reverse]; omega),
        window_to_end _ _ _ (by rw [List.length_reverse]; omega)]
    have padSized : (padding (window (List.replicate (n * octet16Len - input.length) (0 : UInt8) ++ input) 0
        octet16Len) (input.length % 16)).length = 16 := by
      rw [length_padding, topSized]
    rw [if_neg complete, if_neg (by rw [sixteen] at complete; omega), ← k2Reversed, xor128,
      ← Cmac.xorBlock, Cmac.reverse_xorBlock _ _ (by rw [padSized, k2Sized]),
      reverse_padding _ topSized _ (by omega), topBlock, lastPart]

/-- A window inside the first `keep` items reads the list itself. -/
theorem window_take {α : Type} (octets : List α) (keep position count : Nat) (inside : position + count ≤ keep) :
    window (octets.take keep) position count = window octets position count := by
  rw [window, window, List.drop_take, List.take_take, Nat.min_eq_left (by omega)]

/-- The loop of `cmac_aes_k_calculate` over the text `aes_cmac` lays out, with
the prepared block at address 0, read most significant octet first: the CBC
chain over the message's complete blocks in order, and then the prepared block. -/
theorem cmacAesKCalculate_eq (aesEncrypt : List UInt8 → List UInt8 → List UInt8)
    (blockSized : ∀ key block, (aesEncrypt key block).length = 16) (key input prepared : List UInt8)
    (len n : Nat) (counted : Cmac.blockCount input.length = n) (short : input.length ≤ 4064)
    (preparedSized : prepared.length = 16) :
    cmacAesKCalculate (aes128 aesEncrypt) key
        ⟨writeAt (List.replicate (n * octet16Len - input.length) 0 ++ input) 0 prepared, len, n⟩ =
      some (Cmac.chain (aesEncrypt key.reverse) Cmac.zeroBlock
        (((List.range (n - 1)).map fun index => window input.reverse (16 * index) 16) ++
          [prepared.reverse])).reverse := by
  have blocks : n = max 1 ((input.length + 15) / 16) := by
    rw [← counted]
    rfl
  have sixteen : octet16Len = 16 := rfl
  have textLength : (List.replicate (n * octet16Len - input.length) (0 : UInt8) ++ input).length =
      n * octet16Len := by
    rw [List.length_append, List.length_replicate, sixteen]
    omega
  have writtenLength : (writeAt (List.replicate (n * octet16Len - input.length) 0 ++ input) 0 prepared).length =
      n * octet16Len := by
    rw [length_writeAt _ _ _ (by rw [textLength, preparedSized, sixteen]; omega), textLength]
  -- the text read in reverse: the message's complete blocks, then the prepared block
  have reversed : (writeAt (List.replicate (n * octet16Len - input.length) 0 ++ input) 0 prepared).reverse =
      input.reverse.take (16 * (n - 1)) ++ prepared.reverse := by
    have below : ((List.replicate (n * octet16Len - input.length) (0 : UInt8) ++ input).drop 16).reverse =
        (List.replicate (n * octet16Len - input.length) (0 : UInt8) ++ input).reverse.take (16 * (n - 1)) := by
      rw [List.take_reverse, textLength]
      congr 2
      rw [sixteen]
      omega
    rw [writeAt, List.take_zero, List.nil_append, Nat.zero_add, preparedSized, List.reverse_append, below,
      List.reverse_append, List.reverse_replicate,
      List.take_append_of_le_length (by rw [List.length_reverse]; omega)]
  have frontLength : (input.reverse.take (16 * (n - 1))).length = 16 * (n - 1) := by
    rw [List.length_take, List.length_reverse]
    omega
  have looped := cmacAesKCalculateLoop_eq (aes128 aesEncrypt) key n (by omega)
    (fun block => by rw [aes128, List.length_reverse, blockSized]; rfl) n 256 1 (List.replicate octet16Len 0)
    (writeAt (List.replicate (n * octet16Len - input.length) 0 ++ input) 0 prepared) (by omega)
    (by simp; omega) (by decide) writtenLength (by simp)
  have one : (1 : UInt8).toNat = 1 := rfl
  rw [one] at looped
  have passes := reverse_foldl_passes aesEncrypt key blockSized
    (fun j => window (writeAt (List.replicate (n * octet16Len - input.length) 0 ++ input) 0 prepared)
      ((n - j) * octet16Len) octet16Len)
    (List.range' 1 n)
    (fun j member => by
      rw [List.mem_range'_1] at member
      exact length_window _ _ _ (by rw [writtenLength, sixteen]; omega))
    (List.replicate octet16Len 0) (by simp [sixteen])
  have split : List.range' 1 n = List.range' 1 (n - 1) ++ [n] := by
    obtain ⟨previous, rfl⟩ : ∃ previous, n = previous + 1 := ⟨n - 1, by omega⟩
    rw [List.range'_concat, Nat.add_sub_cancel, Nat.one_mul, Nat.add_comm]
  unfold cmacAesKCalculate
  dsimp only
  rw [looped]
  congr 1
  apply List.reverse_eq_iff.mp
  rw [passes, List.reverse_replicate, split, List.map_append, List.range'_eq_map_range, List.map_map,
    List.map_singleton]
  congr 2
  · apply List.map_congr_left
    intro index member
    rw [List.mem_range] at member
    rw [Function.comp_apply, reverse_window _ _ _ (by rw [writtenLength, sixteen]; omega), reversed,
      writtenLength, window_append_left _ _ _ _ (by rw [frontLength, sixteen]; omega),
      window_take _ _ _ _ (by rw [sixteen]; omega)]
    congr 1
    rw [sixteen]
    omega
  · have lastPlace : n * octet16Len - (n - n) * octet16Len - octet16Len = 16 * (n - 1) := by
      rw [sixteen]
      omega
    have whole := window_append_length (input.reverse.take (16 * (n - 1))) prepared.reverse []
    rw [List.append_nil, frontLength, List.length_reverse, preparedSized] at whole
    rw [reverse_window _ _ _ (by rw [writtenLength, sixteen]; omega), reversed, writtenLength, lastPlace]
    exact congrArg (fun block => [block]) whole

/-- **`aes_cmac` computes AES-CMAC.** For every message of up to 4064 octets,
with the source's `aes_128` around any cipher giving 16 octets, the signature
`aes_cmac` returns, read most significant octet first, is the CMAC of RFC 4493
of the message read most significant octet first, under the key read the same
way. -/
theorem aesCmac_computesCmac (aesEncrypt : List UInt8 → List UInt8 → List UInt8)
    (blockSized : ∀ key block, (aesEncrypt key block).length = 16) (key input : List UInt8)
    (short : input.length ≤ 4064) :
    aesCmac (aes128 aesEncrypt) key input (UInt16.ofNat input.length) =
      some (Cmac.mac (aesEncrypt key.reverse) input.reverse).reverse := by
  obtain ⟨n, counted⟩ : ∃ n, Cmac.blockCount input.length = n := ⟨_, rfl⟩
  have zeroSized : (aes128 aesEncrypt key (List.replicate octet16Len 0)).length = 16 := by
    rw [aes128, List.length_reverse, blockSized]
  have k1Sized := length_subkeyStep _ zeroSized
  have k2Sized := length_subkeyStep _ k1Sized
  have textLength : (List.replicate (n * octet16Len - input.length) (0 : UInt8) ++ input).length =
      n * octet16Len := by
    rw [List.length_append, List.length_replicate]
    unfold octet16Len
    rw [← counted]
    unfold Cmac.blockCount
    omega
  have oneBlock : octet16Len ≤ (List.replicate (n * octet16Len - input.length) (0 : UInt8) ++ input).length := by
    rw [textLength, ← counted]
    unfold Cmac.blockCount octet16Len
    omega
  have preparedSized := length_preparedBlock ⟨_, input.length, n⟩ _ _ oneBlock k1Sized k2Sized
  have prepared := reverse_preparedBlock aesEncrypt blockSized key input short
  rw [counted] at prepared
  -- lay out the text, prepare the last block, then chain
  rw [aesCmac_eq _ _ _ short, counted, cmacGenerateSubkey, cmacPrepareLastBlock_eq _ _ _ oneBlock k2Sized,
    Option.bind_some, cmacAesKCalculate_eq aesEncrypt blockSized key input _ input.length n counted short
      preparedSized,
    prepared, Cmac.mac, List.length_reverse, counted]

/-- A stand-in for the cipher in the witness: the block itself, cut or padded
to 16 octets. -/
def paddedBlock (_key block : List UInt8) : List UInt8 := (block ++ List.replicate 16 0).take 16

theorem length_paddedBlock (key block : List UInt8) : (paddedBlock key block).length = 16 := by
  simp [paddedBlock]

/-- For a message of three octets and a stand-in cipher with 16-octet output,
`aes_cmac` computes the standard's MAC over the reversed octets. -/
theorem aesCmac_computesCmac_threeOctets :
    (∀ key block, (paddedBlock key block).length = 16) ∧ ([1, 2, 3] : List UInt8).length ≤ 4064 ∧
      aesCmac (aes128 paddedBlock) (List.replicate 16 7) [1, 2, 3]
          (UInt16.ofNat ([1, 2, 3] : List UInt8).length) =
        some (Cmac.mac (paddedBlock (List.replicate 16 7).reverse) ([1, 2, 3] : List UInt8).reverse).reverse :=
  ⟨length_paddedBlock, by decide,
    aesCmac_computesCmac paddedBlock length_paddedBlock (List.replicate 16 7) [1, 2, 3] (by decide)⟩

end Fluoride.AesCmac
