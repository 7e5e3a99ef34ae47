import Mathlib.Data.List.Basic

/-!
`std::remove_if` on a sequence of values with a move assignment. Values that are
kept move to the front, one after the other; the sequence is as long as before,
and behind the kept values it ends in what was moved from or passed over.
-/

namespace MangOH.RemoveIf

universe u
variable {α : Type u}

/-- The places that are free to be assigned, once a value behind them has moved
to the first of them. Without a free place the value stays. -/
def refill (moved : α → α) (value : α) : List α → List α
  | [] => []
  | _ :: others => others ++ [moved value]

/-- `front` is what is in its place, `holes` what the free places behind it hold. -/
def removeLoop (removed : α → Bool) (moved : α → α) : List α → List α → List α → List α
  | front, holes, [] => front ++ holes
  | front, holes, value :: rest =>
      if removed value then removeLoop removed moved front (holes ++ [value]) rest
      else removeLoop removed moved (front ++ [value]) (refill moved value holes) rest

def removeIf (removed : α → Bool) (moved : α → α) (values : List α) : List α :=
  removeLoop removed moved [] [] values

example : removeIf (· == 1) (· + 10) [1, 2, 3, 1] = [2, 3, 13, 1] := by decide

variable {removed : α → Bool} {moved : α → α}

theorem refill_length {value : α} {holes : List α} :
    (refill moved value holes).length = holes.length := by
  cases holes with
  | nil => rfl
  | cons hole others => simp [refill]

theorem removeLoop_length {front holes values : List α} :
    (removeLoop removed moved front holes values).length =
      front.length + holes.length + values.length := by
  induction values generalizing front holes with
  | nil => simp [removeLoop]
  | cons value rest ih =>
      rw [removeLoop]
      split
      · simp only [ih, List.length_append, List.length_cons, List.length_nil]
        omega
      · simp only [ih, refill_length, List.length_append, List.length_cons, List.length_nil]
        omega

@[simp] theorem removeIf_length {values : List α} :
    (removeIf removed moved values).length = values.length := by
  simp [removeIf, removeLoop_length]

theorem removeLoop_none {front values : List α} (none : ∀ value ∈ values, removed value = false) :
    removeLoop removed moved front [] values = front ++ values := by
  induction values generalizing front with
  | nil => rfl
  | cons value rest ih =>
      rw [List.forall_mem_cons] at none
      rw [removeLoop, none.1, if_neg Bool.false_ne_true, refill, ih none.2, List.append_assoc]
      rfl

/-- The call does what erasing would do just when there is nothing to remove. -/
theorem removeIf_filter_iff {values : List α} :
    removeIf removed moved values = values.filter (fun value => !removed value) ↔
      ∀ value ∈ values, removed value = false := by
  constructor
  · intro same value member
    have long : (values.filter fun value => !removed value).length = values.length := by
      rw [← same, removeIf_length]
    have kept := List.length_filter_eq_length_iff.mp long value member
    simpa using kept
  · intro none
    have all : ∀ value ∈ values, (!removed value) = true := by simpa using none
    rw [removeIf, removeLoop_none none, List.filter_eq_self.mpr all]
    rfl

end MangOH.RemoveIf
