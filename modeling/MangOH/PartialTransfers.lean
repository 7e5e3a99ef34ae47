/-!
A loop that moves a request in as many calls as it takes, each for what is left of it and
from where the last one stopped. A call that moves nothing ends the loop short.
-/

namespace MangOH.PartialTransfers

universe u

variable {State : Type u}

/-- `call` gets the place to go on from and what is left. `none` means that `fuel` calls were
not enough; the flag says whether everything was moved. -/
def transferAll (call : State → Nat → Nat → State × Int) : Nat → State → Nat → Nat →
    Option (State × Bool)
  | 0, _, _, _ => none
  | fuel + 1, state, place, left =>
      let result := call state place left
      if result.2 ≤ 0 then some (result.1, false)
      else if left - result.2.toNat = 0 then some (result.1, true)
      else transferAll call fuel result.1 (place + result.2.toNat) (left - result.2.toNat)

-- Its equations are made here, and not by whichever proof comes to them first.
attribute [local simp] transferAll

section
variable {call : State → Nat → Nat → State × Int} {fuel place left : Nat} {state after : State}
variable {ret : Int}

theorem transferAll_stuck (called : call state place left = (after, ret)) (none : ret ≤ 0) :
    transferAll call (fuel + 1) state place left = some (after, false) := by
  simp only [transferAll, called, if_pos none]

theorem transferAll_last (called : call state place left = (after, ret)) (some : 0 < ret)
    (last : left - ret.toNat = 0) :
    transferAll call (fuel + 1) state place left = .some (after, true) := by
  simp only [transferAll, called, if_neg (Int.not_le.mpr some), if_pos last]

theorem transferAll_next (called : call state place left = (after, ret)) (some : 0 < ret)
    (more : left - ret.toNat ≠ 0) : transferAll call (fuel + 1) state place left =
      transferAll call fuel after (place + ret.toNat) (left - ret.toNat) := by
  simp only [transferAll, called, if_neg (Int.not_le.mpr some), if_neg more]

/-- A loop that has ended is not changed by more fuel. -/
theorem transferAll_more {result : State × Bool} {most : Nat}
    (ended : transferAll call fuel state place left = some result) (less : fuel ≤ most) :
    transferAll call most state place left = some result := by
  induction fuel generalizing most state place left with
  | zero => cases ended
  | succ fuel ih =>
      obtain ⟨most, rfl⟩ := Nat.exists_eq_succ_of_ne_zero (Nat.ne_of_gt (Nat.lt_of_lt_of_le fuel.succ_pos less))
      cases called : call state place left with
      | mk after ret =>
          by_cases none : ret ≤ 0
          · rw [transferAll_stuck called none] at ended ⊢
            exact ended
          · have moves := Int.not_le.mp none
            by_cases last : left - ret.toNat = 0
            · rw [transferAll_last called moves last] at ended ⊢
              exact ended
            · rw [transferAll_next called moves last] at ended ⊢
              exact ih ended (Nat.le_of_succ_le_succ less)

end

/-- What one call keeps, in a request of `total`: it moves at most what is left, and goes on
with `Moved`, or it moves nothing and leaves `Stuck`. -/
structure Keeps (call : State → Nat → Nat → State × Int) (total : Nat)
    (Moved Stuck : Nat → State → Prop) : Prop where
  most : ∀ {state after place left ret}, call state place left = (after, ret) → ret ≤ (left : Int)
  moved : ∀ {state after done ret}, done < total → Moved done state →
    call state done (total - done) = (after, ret) → 0 < ret → Moved (done + ret.toNat) after
  stuck : ∀ {state after done ret}, done < total → Moved done state →
    call state done (total - done) = (after, ret) → ret ≤ 0 → Stuck done after

/-- The loop ends, with everything moved or stuck before that. -/
theorem transferAll_keeps {call : State → Nat → Nat → State × Int} {total : Nat}
    {Moved Stuck : Nat → State → Prop} (keeps : Keeps call total Moved Stuck) {fuel done : Nat}
    {state : State} (inside : done < total) (start : Moved done state) (enough : total - done < fuel) :
    ∃ after whole, transferAll call fuel state done (total - done) = some (after, whole) ∧
      (whole = true → Moved total after) ∧ (whole = false → ∃ stop < total, Stuck stop after) := by
  induction fuel generalizing done state with
  | zero => omega
  | succ fuel ih =>
      cases called : call state done (total - done) with
      | mk after ret =>
          have most := keeps.most called
          by_cases none : ret ≤ 0
          · refine ⟨after, false, transferAll_stuck called none, Bool.noConfusion, fun _ => ?_⟩
            exact ⟨done, inside, keeps.stuck inside start called none⟩
          · have moves := Int.not_le.mp none
            have moved := keeps.moved inside start called moves
            by_cases last : total - done - ret.toNat = 0
            · have all : done + ret.toNat = total := by omega
              rw [all] at moved
              exact ⟨after, true, transferAll_last called moves last, fun _ => moved, Bool.noConfusion⟩
            · have rest : total - done - ret.toNat = total - (done + ret.toNat) := by omega
              rw [transferAll_next called moves last, rest]
              exact ih (by omega) moved (by omega)

end MangOH.PartialTransfers
