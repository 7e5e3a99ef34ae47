import Mathlib.Algebra.Group.Nat.Defs

/-!
Two decimal digits in a byte, four bits for each.
-/

namespace MangOH.Bcd

def encode (n : Nat) : Nat := n / 10 * 16 + n % 10

def decode (v : Nat) : Nat := v % 16 + v / 16 * 10

theorem decode_encode (n : Nat) : decode (encode n) = n := by
  unfold decode encode
  omega

/-- A number below so many tens stays below as many sixteens. -/
theorem encode_lt {n tens : Nat} (small : n < tens * 10) : encode n < tens * 16 := by
  unfold encode
  omega

/-- A byte has the number in its lower bits, whatever mask of them it is read with. -/
theorem decode_masked {n bits : Nat} (wide : bits ≤ 8) (small : encode n < 2 ^ bits) :
    decode (BitVec.ofNat 8 (encode n) &&& BitVec.ofNat 8 (2 ^ bits - 1)).toNat = n := by
  have byte : 2 ^ bits ≤ 2 ^ 8 := Nat.pow_le_pow_right (by decide) wide
  rw [BitVec.toNat_and, BitVec.toNat_ofNat, BitVec.toNat_ofNat, Nat.mod_eq_of_lt (by omega),
    Nat.mod_eq_of_lt (by omega), Nat.and_two_pow_sub_one_eq_mod, Nat.mod_eq_of_lt small,
    decode_encode]

end MangOH.Bcd
