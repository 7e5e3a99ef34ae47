/-!
Fields of a word under masks: clearing one, setting one, and what that leaves of
another field.
-/

namespace MangOH.Masks

variable {width : Nat} {word value mask other : BitVec width}

def clear (word mask : BitVec width) : BitVec width := word &&& ~~~mask

/-- The field is cleared, and the value put there. -/
def replace (word mask value : BitVec width) : BitVec width := clear word mask ||| value

theorem clear_and_self : clear word mask &&& mask = 0 := by
  rw [clear, BitVec.and_assoc, BitVec.not_and_self]
  exact BitVec.and_zero

theorem or_and_other (apart : value &&& other = 0) : (word ||| value) &&& other = word &&& other := by
  rw [BitVec.and_or_distrib_right, apart]
  exact BitVec.or_zero

/-- Another field lies outside of the mask altogether. -/
theorem not_and_other (apart : mask &&& other = 0) : ~~~mask &&& other = other := by
  calc ~~~mask &&& other
      _ = (0 : BitVec width) ||| ~~~mask &&& other := BitVec.zero_or.symm
      _ = mask &&& other ||| ~~~mask &&& other := by rw [apart]
      _ = other := by rw [← BitVec.and_or_distrib_right, BitVec.or_not_self, BitVec.allOnes_and]

theorem clear_and_other (apart : mask &&& other = 0) : clear word mask &&& other = word &&& other := by
  rw [clear, BitVec.and_assoc, not_and_other apart]

theorem replace_and_self (inside : value &&& mask = value) : replace word mask value &&& mask = value := by
  rw [replace, BitVec.and_or_distrib_right, clear_and_self, inside]
  exact BitVec.zero_or

theorem replace_and_other (apart : mask &&& other = 0) (beside : value &&& other = 0) :
    replace word mask value &&& other = word &&& other := by
  rw [replace, or_and_other beside, clear_and_other apart]

end MangOH.Masks
