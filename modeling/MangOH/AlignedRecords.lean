import MangOH.Cells
import Mathlib.Data.Nat.Bitwise

/-!
Records of fields that stand one behind the other, each at a multiple of its own size.
-/

namespace MangOH.AlignedRecords

open Cells (At)

universe u
variable {Key : Type u} {Item : Type}

/-- The first multiple of the unit from a place on. -/
def alignUp (place unit : Nat) : Nat :=
  if place % unit = 0 then place else place + (unit - place % unit)

-- Its equations are made here, and not by whichever proof comes to them first.
attribute [local simp] alignUp

variable {place unit : Nat}

theorem alignUp_le : place ≤ alignUp place unit := by
  rw [alignUp]
  split
  · exact Nat.le_refl _
  · exact Nat.le_add_right _ _

theorem alignUp_add (positive : 0 < unit) : alignUp (place + unit) unit = alignUp place unit + unit := by
  have rest := Nat.mod_lt place positive
  rw [alignUp, alignUp, Nat.add_mod_right]
  split <;> omega

theorem alignUp_mod (positive : 0 < unit) : alignUp place unit % unit = 0 := by
  rw [alignUp]
  split
  · assumption
  · have rest := Nat.mod_lt place positive
    have whole : place + (unit - place % unit) = unit * (place / unit) + unit := by
      have split := Nat.div_add_mod place unit
      omega
    rw [whole, Nat.add_mod_right, Nat.mul_mod_right]

theorem alignUp_idem (positive : 0 < unit) : alignUp (alignUp place unit) unit = alignUp place unit :=
  if_pos (alignUp_mod positive)

theorem alignUp_div (positive : 0 < unit) :
    alignUp place unit = (place + (unit - 1)) / unit * unit := by
  have rest := Nat.mod_lt place positive
  have split := Nat.div_add_mod place unit
  rw [alignUp]
  by_cases whole : place % unit = 0
  · have next : place + (unit - 1) = unit * (place / unit) + (unit - 1) := by omega
    have none : (unit - 1) / unit = 0 := Nat.div_eq_of_lt (by omega)
    rw [if_pos whole, next, Nat.mul_add_div positive, none, Nat.add_zero, Nat.mul_comm]
    omega
  · have next : place + (unit - 1) = unit * (place / unit + 1) + (place % unit - 1) := by
      rw [Nat.mul_add, Nat.mul_one]
      omega
    have none : (place % unit - 1) / unit = 0 := Nat.div_eq_of_lt (by omega)
    rw [if_neg whole, next, Nat.mul_add_div positive, none, Nat.add_zero, Nat.mul_comm, Nat.mul_add, Nat.mul_one]
    omega

/-- For a power of two a mask does the same. -/
theorem alignUp_mask (bits : Nat) :
    Nat.ldiff (place + (2 ^ bits - 1)) (2 ^ bits - 1) = alignUp place (2 ^ bits) := by
  rw [alignUp_div (Nat.two_pow_pos bits)]
  refine Nat.eq_of_testBit_eq fun i => ?_
  rw [Nat.testBit_ldiff, Nat.testBit_two_pow_sub_one, Nat.testBit_mul_two_pow, Nat.testBit_div_two_pow]
  by_cases low : i < bits
  · simp [low]
  · have high : bits ≤ i := Nat.le_of_not_lt low
    simp [low, high]

/-! The layout. -/

variable (size : Key → Nat)

/-- Where a record ends that is put from a place on. -/
def ending : Nat → List Key → Nat
  | start, [] => start
  | start, key :: rest => ending (alignUp start (size key) + size key) rest

/-- The fields and where they stand. -/
def spots : Nat → List Key → List (Key × Nat)
  | _, [] => []
  | start, key :: rest =>
      (key, alignUp start (size key)) :: spots (alignUp start (size key) + size key) rest

/-- Each field has its value. -/
def Holds (value : Key → List Item) (data : List (Option Item)) (start : Nat) (keys : List Key) : Prop :=
  ∀ {key place}, (key, place) ∈ spots size start keys → At data place (value key)

variable {size} {value : Key → List Item} {data : List (Option Item)} {start : Nat} {keys first second : List Key}
  {key : Key}

theorem ending_append : ending size start (first ++ second) = ending size (ending size start first) second := by
  induction first generalizing start with
  | nil => rfl
  | cons key rest ih => exact ih

theorem spots_append :
    spots size start (first ++ second) = spots size start first ++ spots size (ending size start first) second := by
  induction first generalizing start with
  | nil => rfl
  | cons key rest ih => exact congrArg _ ih

theorem ending_le : start ≤ ending size start keys := by
  induction keys generalizing start with
  | nil => exact Nat.le_refl _
  | cons key rest ih => exact Nat.le_trans (Nat.le_trans alignUp_le (Nat.le_add_right _ _)) ih

theorem spots_before (found : (key, place) ∈ spots size start keys) :
    place + size key ≤ ending size start keys := by
  induction keys generalizing start with
  | nil => cases found
  | cons head rest ih =>
      rcases List.mem_cons.mp found with same | behind
      · cases same
        exact ending_le
      · exact ih behind

theorem holds_nil : Holds size value data start [] := fun found => by cases found

theorem holds_cons : Holds size value data start (key :: keys) ↔
    At data (alignUp start (size key)) (value key) ∧
      Holds size value data (alignUp start (size key) + size key) keys := by
  constructor
  · exact fun holds => ⟨holds (List.mem_cons_self ..), fun found => holds (List.mem_cons_of_mem _ found)⟩
  · rintro ⟨here, rest⟩ other place found
    rcases List.mem_cons.mp found with same | behind
    · cases same
      exact here
    · exact rest behind

theorem holds_append : Holds size value data start (first ++ second) ↔
    Holds size value data start first ∧ Holds size value data (ending size start first) second := by
  constructor
  · intro holds
    refine ⟨fun found => holds ?_, fun found => holds ?_⟩
    · rw [spots_append]
      exact List.mem_append_left _ found
    · rw [spots_append]
      exact List.mem_append_right _ found
  · rintro ⟨front, behind⟩ other place found
    rw [spots_append] at found
    exact (List.mem_append.mp found).elim (fun found => front found) fun found => behind found

/-- The front of a buffer that ends behind the record has it as well. -/
theorem holds_take {count : Nat} (sized : ∀ key, (value key).length = size key)
    (holds : Holds size value data start keys) (inside : ending size start keys ≤ count) :
    Holds size value (data.take count) start keys := by
  intro other place found
  have before := spots_before found
  rw [← sized other] at before
  exact Cells.at_front (holds found) (Nat.le_trans before inside)

end MangOH.AlignedRecords
