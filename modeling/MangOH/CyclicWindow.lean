import Mathlib.Data.List.GetD
import Mathlib.Tactic.SplitIfs

/-!
Cyclic buffers over a function of cells. A buffer of `size` cells is read
through windows: `count` consecutive cells from an origin, wrapping at most
once. Nothing here knows what the cells hold or who moves the origins.
-/

namespace MangOH.CyclicWindow

universe u
variable {α : Type u}

/-- The position `count` places after `origin`, with at most one wrap. -/
def slot (size origin count : Nat) : Nat :=
  if origin + count < size then origin + count else origin + count - size

/-- The number of places from `source` forward to `target`. -/
def distance (size source target : Nat) : Nat :=
  if source ≤ target then target - source else size - source + target

def window (size : Nat) (cells : Nat → α) (origin count : Nat) : List α :=
  (List.range count).map fun place => cells (slot size origin place)

/-- Cells after a linear write of `items` from position `start`. -/
def fill (cells : Nat → α) (start : Nat) (items : List α) : Nat → α :=
  fun place => if place < start then cells place else items.getD (place - start) (cells place)

theorem slot_lt {size origin count : Nat} (inside : origin < size) (bound : count ≤ size) :
    slot size origin count < size := by
  unfold slot; split_ifs <;> omega

theorem slot_eq_mod {size origin count : Nat} (inside : origin < size) (bound : count ≤ size) :
    (origin + count) % size = slot size origin count := by
  unfold slot
  split_ifs with short
  · exact Nat.mod_eq_of_lt short
  · rw [Nat.mod_eq_sub_mod (by omega), Nat.mod_eq_of_lt (by omega)]

theorem slot_zero {size origin : Nat} (inside : origin < size) : slot size origin 0 = origin := by
  simp [slot, inside]

theorem slot_slot {size origin first second : Nat} (inside : origin < size)
    (bound : first + second ≤ size) :
    slot size (slot size origin first) second = slot size origin (first + second) := by
  unfold slot; split_ifs <;> omega

theorem slot_injective {size origin first second : Nat}
    (left : first < size) (right : second < size)
    (same : slot size origin first = slot size origin second) : first = second := by
  unfold slot at same; split_ifs at same <;> omega

theorem slot_surjective {size origin place : Nat} (inside : origin < size) (bound : place < size) :
    ∃ count, count < size ∧ slot size origin count = place := by
  refine ⟨distance size origin place, ?_, ?_⟩
  · unfold distance; split_ifs <;> omega
  · unfold slot distance; split_ifs <;> omega

theorem distance_lt {size source target : Nat} (left : source < size) (right : target < size) :
    distance size source target < size := by
  unfold distance; split_ifs <;> omega

theorem distance_self (size source : Nat) : distance size source source = 0 := by
  simp [distance]

theorem slot_distance {size source target : Nat} (left : source < size) (right : target < size) :
    slot size source (distance size source target) = target := by
  unfold slot distance; split_ifs <;> omega

theorem distance_slot {size source count : Nat} (inside : source < size) (bound : count < size) :
    distance size source (slot size source count) = count := by
  unfold slot distance; split_ifs <;> omega

/-- Moving the source forward inside the distance shortens it by as much. -/
theorem distance_from_slot {size source target count : Nat} (left : source < size)
    (right : target < size) (bound : count ≤ distance size source target) :
    distance size (slot size source count) target = distance size source target - count := by
  unfold slot; unfold distance at *; split_ifs at * <;> omega

/-- Moving the target forward inside the free room lengthens it by as much. -/
theorem distance_to_slot {size source target count : Nat} (left : source < size)
    (right : target < size) (room : distance size source target + count < size) :
    distance size source (slot size target count) = distance size source target + count := by
  unfold slot; unfold distance at *; split_ifs at * <;> omega

@[simp] theorem window_length (size : Nat) (cells : Nat → α) (origin count : Nat) :
    (window size cells origin count).length = count := by
  simp [window]

@[simp] theorem window_zero (size : Nat) (cells : Nat → α) (origin : Nat) :
    window size cells origin 0 = [] := rfl

theorem window_append (size : Nat) (cells : Nat → α) {origin first second : Nat}
    (inside : origin < size) (bound : first + second ≤ size) :
    window size cells origin (first + second) =
      window size cells origin first ++ window size cells (slot size origin first) second := by
  simp only [window, List.range_add, List.map_append, List.map_map, List.append_cancel_left_eq]
  apply List.map_congr_left
  intro place member
  have small := List.mem_range.mp member
  simp [slot_slot inside (show first + place ≤ size by omega)]

theorem window_take (size : Nat) (cells : Nat → α) {origin count total : Nat}
    (inside : origin < size) (total_le : total ≤ size) (bound : count ≤ total) :
    (window size cells origin total).take count = window size cells origin count := by
  obtain ⟨rest, rfl⟩ := Nat.exists_eq_add_of_le bound
  rw [window_append size cells inside total_le]
  exact List.take_left' (window_length ..)

theorem window_drop (size : Nat) (cells : Nat → α) {origin count total : Nat}
    (inside : origin < size) (total_le : total ≤ size) (bound : count ≤ total) :
    (window size cells origin total).drop count =
      window size cells (slot size origin count) (total - count) := by
  obtain ⟨rest, rfl⟩ := Nat.exists_eq_add_of_le bound
  rw [window_append size cells inside total_le, Nat.add_sub_cancel_left]
  exact List.drop_left' (window_length ..)

/-- A window that does not wrap is a run of consecutive cells. -/
theorem window_linear (size : Nat) (cells : Nat → α) {origin count : Nat}
    (bound : origin + count ≤ size) :
    window size cells origin count = (List.range count).map fun place => cells (origin + place) := by
  apply List.map_congr_left
  intro place member
  have small := List.mem_range.mp member
  rw [slot, if_pos (by omega)]

theorem window_congr {size : Nat} {cells changed : Nat → α} {origin count : Nat}
    (same : ∀ place, place < count →
      cells (slot size origin place) = changed (slot size origin place)) :
    window size cells origin count = window size changed origin count := by
  apply List.map_congr_left
  intro place member
  exact same place (List.mem_range.mp member)

theorem fill_outside (cells : Nat → α) (start : Nat) (items : List α) (place : Nat)
    (outside : place < start ∨ start + items.length ≤ place) :
    fill cells start items place = cells place := by
  unfold fill
  split_ifs with before
  · rfl
  · have beyond : items.length ≤ place - start := by omega
    rw [List.getD_eq_default _ _ beyond]

theorem fill_inside (cells : Nat → α) (start : Nat) (items : List α) (place : Nat)
    (bound : place < items.length) : fill cells start items (start + place) = items[place] := by
  rw [fill, if_neg (by omega)]
  simp [bound]

/-- The written run reads back as the written items. -/
theorem window_fill (size : Nat) (cells : Nat → α) {start : Nat} (items : List α)
    (bound : start + items.length ≤ size) :
    window size (fill cells start items) start items.length = items := by
  rw [window_linear size _ bound]
  apply List.ext_getElem
  · simp
  · intro place _ right
    simp [fill_inside cells start items place right]

/-- A window disjoint from the written run reads as before. -/
theorem window_fill_frame {size : Nat} (cells : Nat → α) {origin count start : Nat} (items : List α)
    (apart : ∀ place, place < count → slot size origin place < start ∨
      start + items.length ≤ slot size origin place) :
    window size (fill cells start items) origin count = window size cells origin count :=
  window_congr fun place small => fill_outside cells start items _ (apart place small)

/-- The cells from `source` up to `target` hold `content`, oldest first. One
cell always stays free, so equal offsets mean an empty buffer. -/
structure Holds (size : Nat) (cells : Nat → α) (source target : Nat) (content : List α) : Prop where
  source_lt : source < size
  target_lt : target < size
  content_eq : window size cells source (distance size source target) = content

namespace Holds

variable {size source target : Nat} {cells : Nat → α} {content : List α}

theorem empty (inside : source < size) : Holds size cells source source [] :=
  ⟨inside, inside, by simp [distance_self]⟩

theorem length_eq (holds : Holds size cells source target content) :
    content.length = distance size source target := by
  rw [← holds.content_eq, window_length]

theorem length_lt (holds : Holds size cells source target content) : content.length < size := by
  rw [holds.length_eq]
  exact distance_lt holds.source_lt holds.target_lt

theorem congr {changed : Nat → α} (holds : Holds size cells source target content)
    (same : ∀ place, place < size → cells place = changed place) :
    Holds size changed source target content := by
  refine ⟨holds.source_lt, holds.target_lt, ?_⟩
  rw [← holds.content_eq]
  refine (window_congr fun place small => same _ ?_).symm
  have bound := distance_lt holds.source_lt holds.target_lt
  exact slot_lt holds.source_lt (by omega)

/-- A linear write at the target that leaves one cell free appends its items
and disturbs nothing that is held. -/
theorem append (holds : Holds size cells source target content) (items : List α)
    (linear : target + items.length ≤ size) (room : content.length + items.length < size) :
    Holds size (fill cells target items) source (slot size target items.length)
      (content ++ items) := by
  have source_lt := holds.source_lt
  have target_lt := holds.target_lt
  rw [holds.length_eq] at room
  refine ⟨source_lt, slot_lt target_lt (by omega), ?_⟩
  rw [distance_to_slot source_lt target_lt room, window_append _ _ source_lt (by omega),
    slot_distance source_lt target_lt, window_fill _ _ _ linear, ← holds.content_eq]
  congr 1
  -- The held cells end at the target; the room keeps the written ones off the source.
  apply window_fill_frame
  intro place small
  unfold slot
  unfold distance at small room
  split_ifs at * <;> omega

theorem drop (holds : Holds size cells source target content) {count : Nat}
    (bound : count ≤ content.length) :
    Holds size cells (slot size source count) target (content.drop count) := by
  have small := distance_lt holds.source_lt holds.target_lt
  rw [holds.length_eq] at bound
  refine ⟨slot_lt holds.source_lt (by omega), holds.target_lt, ?_⟩
  rw [distance_from_slot holds.source_lt holds.target_lt bound, ← holds.content_eq,
    window_drop _ _ holds.source_lt (by omega) bound]

/-- Consecutive cells from the source are the oldest items. -/
theorem take_linear (holds : Holds size cells source target content) {count : Nat}
    (bound : count ≤ content.length) (linear : source + count ≤ size) :
    (List.range count).map (fun place => cells (source + place)) = content.take count := by
  have small := distance_lt holds.source_lt holds.target_lt
  rw [holds.length_eq] at bound
  rw [← window_linear size cells linear, ← holds.content_eq,
    window_take _ _ holds.source_lt (by omega) bound]

/-- What is held splits at any offset between source and target. -/
theorem split (holds : Holds size cells source target content) {count : Nat}
    (bound : count ≤ content.length) :
    Holds size cells source (slot size source count) (content.take count) := by
  have small := distance_lt holds.source_lt holds.target_lt
  rw [holds.length_eq] at bound
  refine ⟨holds.source_lt, slot_lt holds.source_lt (by omega), ?_⟩
  rw [distance_slot holds.source_lt (by omega), ← holds.content_eq,
    window_take _ _ holds.source_lt (by omega) bound]

end Holds

end MangOH.CyclicWindow
