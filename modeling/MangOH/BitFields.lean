import Mathlib.Data.Nat.Bitwise

/-!
The bit-field macros of `mt7697q/bits.h` on 32-bit words. As in the source,
the mask of a field of width `w` is `GENMASK(w, 0)`: it has `w + 1` bits.
-/

namespace MangOH.BitFields

abbrev Word := BitVec 32

def genmask (high low : Nat) : Word :=
  (BitVec.allOnes 32 <<< low) &&& (BitVec.allOnes 32 >>> (31 - high))

def bfGet (value : Word) (offset width : Nat) : Word :=
  (value >>> offset) &&& genmask width 0

def bfDefine (value : Word) (offset width : Nat) : Word :=
  (value &&& genmask width 0) <<< offset

def bfClear (value : Word) (offset width : Nat) : Word :=
  value &&& ~~~ genmask (offset + width) offset

def bfSet (value bits : Word) (offset width : Nat) : Word :=
  bfClear value offset width ||| bfDefine bits offset width

/-- The upper half of a word survives the seventeen-bit mask unchanged. -/
theorem bfGet_upper (value : Word) : (bfGet value 16 16).toNat = value.toNat / 65536 := by
  have mask : genmask 16 0 = BitVec.ofNat 32 (2 ^ 17 - 1) := by decide
  have small : value.toNat < 4294967296 := value.isLt
  rw [bfGet, mask, BitVec.toNat_and, BitVec.toNat_ushiftRight, BitVec.toNat_ofNat,
    Nat.shiftRight_eq_div_pow, Nat.mod_eq_of_lt (by decide), Nat.and_two_pow_sub_one_eq_mod]
  omega

/-- The bits of a mask, both ends included. -/
theorem getLsbD_mask (high low bit : Nat) : (genmask high low).getLsbD bit =
    decide (low ≤ bit ∧ bit ≤ high ∧ bit < 32) := by
  rw [genmask, BitVec.getLsbD_and, BitVec.getLsbD_shiftLeft, BitVec.getLsbD_ushiftRight,
    BitVec.getLsbD_allOnes, BitVec.getLsbD_allOnes, Bool.eq_iff_iff]
  simp only [Bool.and_eq_true, Bool.not_eq_true', decide_eq_true_eq, decide_eq_false_iff_not]
  omega

theorem getLsbD_bfGet (value : Word) (offset width bit : Nat) :
    (bfGet value offset width).getLsbD bit = (value.getLsbD (offset + bit) && decide (bit ≤ width)) := by
  rw [bfGet, BitVec.getLsbD_and, BitVec.getLsbD_ushiftRight, getLsbD_mask]
  by_cases inside : offset + bit < 32
  · congr 1
    exact decide_eq_decide.mpr (by omega)
  · rw [BitVec.getLsbD_of_ge _ _ (Nat.le_of_not_lt inside)]
    rfl

/-- A field of one bit is read together with the bit above it. -/
theorem bfGet_bit_iff {expected : Word} (small : ∀ bit, 2 ≤ bit → expected.getLsbD bit = false)
    (value : Word) (offset : Nat) :
    bfGet value offset 1 = expected ↔
      value.getLsbD offset = expected.getLsbD 0 ∧ value.getLsbD (offset + 1) = expected.getLsbD 1 := by
  have bits : ∀ bit, (bfGet value offset 1).getLsbD bit =
      (value.getLsbD (offset + bit) && decide (bit ≤ 1)) := getLsbD_bfGet value offset 1
  constructor
  · rintro rfl
    rw [bits 0, bits 1]
    simp
  · rintro ⟨lowest, next⟩
    apply BitVec.eq_of_getLsbD_eq
    intro bit _
    rw [bits]
    rcases bit with _ | _ | rest
    · simpa using lowest
    · simpa using next
    · simp [small (rest + 1 + 1) (by omega)]

theorem getLsbD_zero_beyond (bit : Nat) (_ : 2 ≤ bit) : (0 : Word).getLsbD bit = false :=
  BitVec.getLsbD_zero

theorem getLsbD_one_beyond (bit : Nat) (beyond : 2 ≤ bit) : (1 : Word).getLsbD bit = false := by
  have high : bit ≠ 0 := by omega
  simp [BitVec.getLsbD_one, high]

theorem getLsbD_bfDefine (value : Word) (offset width bit : Nat) :
    (bfDefine value offset width).getLsbD bit =
      (decide (offset ≤ bit ∧ bit ≤ offset + width ∧ bit < 32) && value.getLsbD (bit - offset)) := by
  rw [bfDefine, BitVec.getLsbD_shiftLeft, BitVec.getLsbD_and, getLsbD_mask, Bool.eq_iff_iff]
  simp only [Bool.and_eq_true, Bool.not_eq_true', decide_eq_true_eq, decide_eq_false_iff_not]
  constructor
  · rintro ⟨⟨small, above⟩, set, mask⟩
    exact ⟨by omega, set⟩
  · rintro ⟨range, set⟩
    exact ⟨⟨range.2.2, by omega⟩, set, by omega⟩

end MangOH.BitFields
