import Mathlib.Order.Lattice
import Mathlib.Algebra.Order.Ring.Int
import Mathlib.Data.List.GetD

/-!
Controls with evenly spaced settings. A table lists what each setting means, and a
search of it finds the setting for a value that is asked for.
-/

namespace MangOH.SettingScale

section Search

variable {Value : Type} [LinearOrder Value]

/-- How many entries there are before the first that is above the value. -/
def reached (value : Value) : List Value → Nat
  | [] => 0
  | entry :: rest => if value < entry then 0 else reached value rest + 1

attribute [local simp] reached

variable {value : Value}

theorem reached_le : ∀ table : List Value, reached value table ≤ table.length
  | [] => Nat.le_refl 0
  | entry :: rest => by
      rw [reached]
      split
      · exact Nat.zero_le _
      · exact Nat.succ_le_succ (reached_le rest)

/-- Each entry counted is at most the value. -/
theorem le_of_reached (table : List Value) : ∀ {place : Nat} (bound : place < table.length),
    place < reached value table → table[place] ≤ value := by
  induction table with
  | nil => exact fun bound => absurd bound (Nat.not_lt_zero _)
  | cons entry rest ih =>
      intro place bound counted
      rw [reached] at counted
      split at counted
      case isTrue above => exact absurd counted (Nat.not_lt_zero _)
      case isFalse within =>
        cases place with
        | zero => exact le_of_not_gt within
        | succ place => exact ih (Nat.lt_of_succ_lt_succ bound) (Nat.lt_of_succ_lt_succ counted)

/-- The entry that ends the count is above the value. -/
theorem lt_of_not_reached (table : List Value) :
    ∀ bound : reached value table < table.length, value < table[reached value table] := by
  induction table with
  | nil => exact fun bound => absurd bound (Nat.not_lt_zero _)
  | cons entry rest ih =>
      intro bound
      by_cases above : value < entry
      · simp [above]
      · simp only [reached, above, ↓reduceIte] at bound ⊢
        exact ih (Nat.lt_of_succ_lt_succ bound)

/-- Where the search of the entries after the first one ends. -/
structure Found (table : List Value) (value : Value) (place : Nat) : Prop where
  bound : place < table.length
  lower : 0 < place → table[place] ≤ value
  upper : ∀ next : place + 1 < table.length, value < table[place + 1]

theorem found_reached {table : List Value} (some : 0 < table.length) (value : Value) :
    Found table value (reached value table.tail) := by
  have inside : reached value table.tail ≤ table.tail.length := reached_le table.tail
  rw [List.length_tail] at inside
  constructor
  case bound => omega
  case lower =>
    intro later
    have counted := le_of_reached table.tail (by rw [List.length_tail]; omega)
      (Nat.sub_one_lt (Nat.ne_of_gt later))
    simpa [Nat.sub_add_cancel later] using counted
  case upper =>
    intro next
    have within : reached value table.tail < table.tail.length := by
      rw [List.length_tail]
      omega
    simpa using lt_of_not_reached table.tail within

end Search

/-- Settings from the lowest on, a step apart and at most the highest. -/
structure Scale where
  lowest : Int
  step : Int
  highest : Int

namespace Scale

variable (scale : Scale)

/-- What a setting means. -/
def effect (setting : Nat) : Int := min (scale.lowest + scale.step * setting) scale.highest

/-- The effect is right for what was asked for. -/
structure Meets (request effect : Int) : Prop where
  atMost : scale.lowest ≤ request → effect ≤ request
  near : scale.lowest ≤ request → request ≤ scale.highest → request < effect + scale.step
  least : request < scale.lowest → effect = scale.lowest
  most : scale.highest < request → effect = scale.highest

/-- The table has every setting, in order, and the highest one is its last. -/
structure Listed (table : List Int) : Prop where
  increasing : 0 < scale.step
  some : 0 < table.length
  last : scale.lowest + scale.step * (table.length - 1 : Nat) = scale.highest
  entry : ∀ (setting : Nat) (bound : setting < table.length),
    table[setting] = scale.lowest + scale.step * setting

variable {scale} {table : List Int}

theorem Listed.effect_eq (listed : scale.Listed table) {setting : Nat}
    (bound : setting < table.length) : scale.effect setting = table[setting] := by
  have apart : scale.step * setting ≤ scale.step * (table.length - 1 : Nat) :=
    Int.mul_le_mul_of_nonneg_left (by omega) (Int.le_of_lt listed.increasing)
  have last := listed.last
  rw [effect, listed.entry setting bound]
  omega

theorem Listed.next_entry (listed : scale.Listed table) {setting : Nat}
    (bound : setting + 1 < table.length) : table[setting + 1] = scale.effect setting + scale.step := by
  have here : setting < table.length := Nat.lt_of_succ_lt bound
  rw [listed.effect_eq here, listed.entry setting here, listed.entry _ bound]
  push_cast
  rw [Int.mul_add, Int.mul_one, Int.add_assoc]

theorem effect_le (setting : Nat) : scale.effect setting ≤ scale.highest := by
  rw [effect]
  omega

/-- Past the end of the table the effect is that of its last entry. -/
theorem Listed.effect_clipped (listed : scale.Listed table) (setting : Nat) :
    scale.effect setting =
      table.getD (if table.length ≤ setting then table.length - 1 else setting) 0 := by
  have some := listed.some
  by_cases beyond : table.length ≤ setting
  · have apart : scale.step * (table.length - 1 : Nat) ≤ scale.step * setting :=
      Int.mul_le_mul_of_nonneg_left (by omega) (Int.le_of_lt listed.increasing)
    have bound : table.length - 1 < table.length := by omega
    have last := listed.last
    rw [if_pos beyond, List.getD_eq_getElem _ _ bound, listed.entry _ bound, effect]
    omega
  · have bound : setting < table.length := Nat.lt_of_not_le beyond
    rw [if_neg beyond, List.getD_eq_getElem _ _ bound]
    exact listed.effect_eq bound

/-- The search finds the right setting for every value. -/
theorem Listed.meets (listed : scale.Listed table) (request : Int) :
    scale.Meets request (scale.effect (reached request table.tail)) := by
  have found := found_reached listed.some request
  generalize reached request table.tail = setting at found
  have same := listed.effect_eq found.bound
  have here := listed.entry setting found.bound
  have last := listed.last
  have next : setting + 1 < table.length → request < scale.effect setting + scale.step := by
    intro bound
    rw [← listed.next_entry bound]
    exact found.upper bound
  have final : ¬ setting + 1 < table.length → scale.effect setting = scale.highest := by
    intro beyond
    have place : setting = table.length - 1 := by have := found.bound; omega
    rw [same, here, place, last]
  have first : setting = 0 → scale.effect setting = scale.lowest := by
    rintro rfl
    simpa [here] using same
  have step := listed.increasing
  constructor
  case atMost =>
    intro above
    rcases Nat.eq_zero_or_pos setting with zero | later
    · rwa [first zero]
    · exact same ▸ found.lower later
  case near =>
    intro _ within
    by_cases bound : setting + 1 < table.length
    · exact next bound
    · have := final bound
      omega
  case least =>
    intro below
    rcases Nat.eq_zero_or_pos setting with zero | later
    · exact first zero
    · have := found.lower later
      have spread : 0 ≤ scale.step * setting := Int.mul_nonneg (Int.le_of_lt step) (by omega)
      omega
  case most =>
    intro beyond
    by_cases bound : setting + 1 < table.length
    · have after : scale.effect setting + scale.step ≤ scale.highest := by
        rw [← listed.next_entry bound, ← listed.effect_eq bound]
        exact effect_le _
      have above := next bound
      omega
    · exact final bound

end Scale

end MangOH.SettingScale
