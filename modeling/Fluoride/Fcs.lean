import Fluoride.Crc
import Fluoride.ErtmReceive
import Fluoride.RfcommUih

/-!
# The frame check sequences of L2CAP and RFCOMM

`l2c_fcr_updcrc` runs the FCS of ERTM and streaming frames through the 256
entries of `crctab`, and `rfc_calc_fcs` the FCS of RFCOMM frames through those
of `rfc_crctable`. Every entry of either table is eight bit steps of its index
(`crctab_tableEntry`, `rfcCrctable_tableEntry`), so both loops compute the
bitwise reflected CRCs of `Crc`: CRC-16 of polynomial `0x8005` from
`L2CAP_FCR_INIT_CRC` (`l2cFcrUpdcrc_reflected`), and CRC-8 of polynomial `0x07`
from `0xFF`, of which `rfc_calc_fcs` sends the complement (`rfcCalcFcs_reflected`).

`rfc_check_fcs` does not recompute the FCS: it runs the received one through
the table and compares the register with `0xCF`. Since `0xCF` stands in the
table only at `0xFF`, that holds exactly for the FCS `rfc_calc_fcs` sends
(`rfcCheckFcs_iff`).
-/

namespace Fluoride.Fcs

open Fluoride.ErtmChannel (crctab l2cFcrUpdcrc l2capFcrInitCrc l2cFcrTxGetFcs)
open Fluoride.ErtmReceive (l2cFcrRxGetFcs)
open Fluoride.L2capBuffers (l2capPktOverhead)
open Fluoride.RfcommFrames (rfcCrctable crcStep crcRun rfcCalcFcs rfcCheckFcs)

/-- The reflected constant of the L2CAP polynomial `0x8005`. -/
theorem reverseBits_l2cap : Crc.reverseBits 16 0x8005 = 0xA001 := by decide

/-- The reflected constant of the RFCOMM polynomial `0x07`. -/
theorem reverseBits_rfcomm : Crc.reverseBits 8 0x07 = 0xE0 := by decide

/-! ### L2CAP -/

/-- Every entry of `crctab` is eight bit steps of its index. -/
theorem crctab_tableEntry : ∀ index < 256, crctab.getD index 0 = Crc.tableEntry 0xA001 index := by
  decide +kernel

/-- One pass of the loop of `l2c_fcr_updcrc` on a 16-bit register is the octet
step of the bitwise CRC. -/
theorem updcrcStep_byteStep (crc : Nat) (octet : UInt8) (fits : crc < 2 ^ 16) :
    (crc >>> 8 &&& 0xff) ^^^ crctab.getD ((crc &&& 0xff) ^^^ octet.toNat) 0 =
      Crc.byteStep 0xA001 crc octet := by
  have mask : (0xff : Nat) = 2 ^ 8 - 1 := rfl
  have highFits : crc >>> 8 < 2 ^ 8 := by
    rw [Nat.shiftRight_eq_div_pow]
    omega
  have indexFits : crc % 2 ^ 8 ^^^ octet.toNat < 2 ^ 8 :=
    Nat.xor_lt_two_pow (Nat.mod_lt _ (by decide)) octet.toNat_lt
  rw [mask, Nat.and_two_pow_sub_one_eq_mod, Nat.and_two_pow_sub_one_eq_mod,
    Nat.mod_eq_of_lt highFits, crctab_tableEntry _ indexFits, Crc.byteStep_table]
  rfl

/-- `l2c_fcr_updcrc` from a 16-bit register is the bitwise reflected CRC-16 of
polynomial `0x8005`. -/
theorem l2cFcrUpdcrc_reflected (icrc : Nat) (fits : icrc < 2 ^ 16) (bytes : List UInt8) :
    l2cFcrUpdcrc icrc bytes = Crc.reflected (Crc.reverseBits 16 0x8005) icrc bytes := by
  rw [reverseBits_l2cap]
  apply Crc.foldl_reflected _ id (· < 2 ^ 16) 0xA001 _ _ bytes icrc fits
  · intro crc octet inside
    rw [updcrcStep_byteStep crc octet inside]
    exact Crc.bitSteps_lt _ _ _ 16 (by decide)
      (Nat.xor_lt_two_pow inside (Nat.lt_of_lt_of_le octet.toNat_lt (by decide)))
  · intro crc octet inside
    exact updcrcStep_byteStep crc octet inside

/-- The CRC of a concatenation continues from the register the first part left. -/
theorem l2cFcrUpdcrc_append (icrc : Nat) (first second : List UInt8) :
    l2cFcrUpdcrc icrc (first ++ second) = l2cFcrUpdcrc (l2cFcrUpdcrc icrc first) second := by
  rw [l2cFcrUpdcrc, List.foldl_append]
  rfl

/-! ### RFCOMM -/

/-- Every entry of `rfc_crctable` is eight bit steps of its index. -/
theorem rfcCrctable_tableEntry :
    ∀ index < 256, (rfcCrctable.getD index 0).toNat = Crc.tableEntry 0xE0 index := by
  decide +kernel

/-- `0xCF` stands in `rfc_crctable` only at `0xFF`. -/
theorem rfcCrctable_eq_residue : ∀ index < 256, rfcCrctable.getD index 0 = 0xCF ↔ index = 0xFF := by
  decide +kernel

/-- One table step of `rfc_calc_fcs` is the octet step of the bitwise CRC-8. -/
theorem crcStep_byteStep (fcs octet : UInt8) :
    (crcStep fcs octet).toNat = Crc.byteStep 0xE0 fcs.toNat octet := by
  have noHigh : fcs.toNat >>> 8 = 0 := by
    rw [Nat.shiftRight_eq_div_pow]
    exact Nat.div_eq_of_lt fcs.toNat_lt
  rw [crcStep, rfcCrctable_tableEntry _ (fcs ^^^ octet).toNat_lt, Crc.byteStep_table, noHigh,
    Nat.zero_xor, Nat.mod_eq_of_lt fcs.toNat_lt, UInt8.toNat_xor]

/-- The register of `rfc_calc_fcs` holds the bitwise reflected CRC-8 of
polynomial `0x07` from `0xFF`. -/
theorem crcRun_reflected (bytes : List UInt8) :
    (crcRun bytes).toNat = Crc.reflected (Crc.reverseBits 8 0x07) 0xFF bytes := by
  rw [reverseBits_rfcomm]
  exact Crc.foldl_reflected crcStep UInt8.toNat (fun _ => True) 0xE0 (fun _ _ _ => trivial)
    (fun fcs octet _ => crcStep_byteStep fcs octet) bytes 0xFF trivial

/-- `rfc_calc_fcs` sends the complement of the CRC-8 to `0xFF`. -/
theorem rfcCalcFcs_reflected (bytes : List UInt8) :
    (rfcCalcFcs bytes).toNat = 0xFF - Crc.reflected (Crc.reverseBits 8 0x07) 0xFF bytes := by
  have atMost : crcRun bytes ≤ 0xFF := by
    rw [UInt8.le_iff_toNat_le]
    exact Nat.le_of_lt_succ (crcRun bytes).toNat_lt
  rw [rfcCalcFcs, UInt8.toNat_sub_of_le _ _ atMost, crcRun_reflected]
  rfl

/-- The receiver's check passes exactly for the FCS the sender computes: the
register after the received FCS is `0xCF` only when the FCS completes the
register to `0xFF`. -/
theorem rfcCheckFcs_iff (bytes : List UInt8) (fcs : UInt8) :
    rfcCheckFcs bytes fcs = true ↔ fcs = rfcCalcFcs bytes := by
  have cancel (first second : UInt8) : first ^^^ (first ^^^ second) = second := by
    rw [← UInt8.xor_assoc, UInt8.xor_self, UInt8.zero_xor]
  constructor
  · intro checked
    have residue : rfcCrctable.getD (crcRun bytes ^^^ fcs).toNat 0 = 0xCF := by
      simpa [rfcCheckFcs, crcStep] using checked
    have allOnes : crcRun bytes ^^^ fcs = 0xFF := by
      apply UInt8.toNat_inj.mp
      exact (rfcCrctable_eq_residue _ (crcRun bytes ^^^ fcs).toNat_lt).mp residue
    calc fcs = crcRun bytes ^^^ (crcRun bytes ^^^ fcs) := (cancel _ _).symm
      _ = crcRun bytes ^^^ (crcRun bytes ^^^ (0xFF - crcRun bytes)) := by
        rw [allOnes, RfcommUih.xor_complement]
      _ = rfcCalcFcs bytes := cancel _ _
  · rintro rfl
    exact RfcommUih.rfcCheckFcs_rfcCalcFcs bytes

/-! ### Both checksums -/

/-- The FCS of L2CAP is the bitwise reflected CRC-16 of polynomial `0x8005`
from `L2CAP_FCR_INIT_CRC`, with no final exclusive or, and runs on across a
split of the octets; the FCS of RFCOMM is the complement to `0xFF` of the
bitwise reflected CRC-8 of polynomial `0x07` from `0xFF`, and the receiver's
check accepts exactly that FCS. -/
theorem fcs_bitwiseCrc :
    (∀ bytes, l2cFcrUpdcrc l2capFcrInitCrc bytes =
      Crc.reflected (Crc.reverseBits 16 0x8005) l2capFcrInitCrc bytes) ∧
    (∀ crc first second,
      l2cFcrUpdcrc crc (first ++ second) = l2cFcrUpdcrc (l2cFcrUpdcrc crc first) second) ∧
    (∀ bytes, (rfcCalcFcs bytes).toNat = 0xFF - Crc.reflected (Crc.reverseBits 8 0x07) 0xFF bytes) ∧
    (∀ bytes fcs, rfcCheckFcs bytes fcs = true ↔ fcs = rfcCalcFcs bytes) := by
  refine ⟨fun bytes => ?_, l2cFcrUpdcrc_append, rfcCalcFcs_reflected, rfcCheckFcs_iff⟩
  exact l2cFcrUpdcrc_reflected l2capFcrInitCrc (by decide) bytes

end Fluoride.Fcs
