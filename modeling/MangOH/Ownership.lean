import MangOH.Ledger
import Mathlib.Data.Multiset.Filter
import Mathlib.Logic.Function.Basic

/-!
Blocks of memory that are owned, each by one of the places that may hold one, and blocks
that are lost: held, and owned by nothing. What a program does with its heap is allowed as
long as it frees and reads only what is owned.
-/

namespace MangOH

/-- No block is given out twice. -/
structure Heap where
  next : Nat
  ledger : Ledger Nat

namespace Heap

def empty : Heap := ⟨0, .empty⟩

/-- The block that `malloc` gives. -/
def fresh (heap : Heap) : Nat := heap.next

def malloc (heap : Heap) : Heap := ⟨heap.next + 1, heap.ledger.acquire heap.next⟩

/-- Where there is no block there is nothing to free. -/
def free (block : Option Nat) (heap : Heap) : Heap :=
  match block with
  | none => heap
  | some block => { heap with ledger := heap.ledger.release block }

-- Its equations are made here, and not by whichever proof comes to them first.
attribute [local simp] free

/-- No block is like one that has not been given out yet. -/
def read (block : Option Nat) (heap : Heap) : Heap :=
  { heap with ledger := heap.ledger.use (block.getD heap.next) }

theorem free_next (block : Option Nat) (heap : Heap) : (heap.free block).next = heap.next := by
  cases block <;> rfl

theorem free_misuses {heap : Heap} (old : Option Nat) (spoilt : heap.ledger.misuses ≠ []) :
    (heap.free old).ledger.misuses ≠ [] := by
  cases old with
  | none => exact spoilt
  | some block =>
      intro clean
      exact spoilt (List.suffix_nil.mp (clean ▸ @Ledger.misuses_release _ _ block heap.ledger))

theorem free_held {heap : Heap} (old : Option Nat) {block : Nat} (member : block ∈ (heap.free old).ledger.held) :
    block ∈ heap.ledger.held := by
  cases old with
  | none => exact member
  | some gone =>
      rw [Heap.free, Ledger.release] at member
      split at member
      · exact Multiset.mem_of_mem_erase member
      · exact member

theorem free_nodup {heap : Heap} (old : Option Nat) (nodup : heap.ledger.held.Nodup) :
    (heap.free old).ledger.held.Nodup := by
  cases old with
  | none => exact nodup
  | some gone =>
      rw [Heap.free, Ledger.release]
      split
      · exact nodup.erase gone
      · exact nodup

/-- What is freed is gone, or there was nothing to free. -/
theorem free_gone {heap : Heap} {block : Nat} (nodup : heap.ledger.held.Nodup) :
    (heap.free (some block)).ledger.misuses ≠ [] ∨ block ∉ (heap.free (some block)).ledger.held := by
  rw [Heap.free, Ledger.release]
  split
  · exact .inr fun member => ((Multiset.Nodup.mem_erase_iff nodup).mp member).1 rfl
  · exact .inl (List.cons_ne_nil _ _)

end Heap

universe u

variable {Place : Type u}

structure Owns (owner : Place → Option Nat) (lost : Multiset Nat) (heap : Heap) : Prop where
  clean : heap.ledger.misuses = []
  nodup : heap.ledger.held.Nodup
  given : ∀ block ∈ heap.ledger.held, block < heap.next
  held : ∀ block, block ∈ heap.ledger.held ↔ block ∈ lost ∨ ∃ place, owner place = some block
  apart : ∀ {place other block}, owner place = some block → owner other = some block → place = other
  kept : ∀ {place block}, owner place = some block → block ∉ lost
  once : lost.Nodup

namespace Owns

variable {owner : Place → Option Nat} {lost : Multiset Nat} {heap : Heap} {place : Place}

theorem empty : Owns (fun _ : Place => none) 0 Heap.empty := by
  refine ⟨rfl, Multiset.nodup_zero, fun _ member => ?_, fun block => ?_, fun none => ?_, fun none => ?_,
    Multiset.nodup_zero⟩
  · exact absurd member (Multiset.notMem_zero _)
  · constructor
    · exact fun member => absurd member (Multiset.notMem_zero _)
    · rintro (member | ⟨_, none⟩)
      · exact absurd member (Multiset.notMem_zero _)
      · cases none
  · cases none
  · cases none

theorem new (owns : Owns owner lost heap) : heap.fresh ∉ heap.ledger.held :=
  fun member => Nat.lt_irrefl _ (owns.given _ member)

/-- A block that nothing takes. -/
theorem lose (owns : Owns owner lost heap) : Owns owner (heap.fresh ::ₘ lost) heap.malloc := by
  have outside : heap.fresh ∉ lost := fun member => owns.new ((owns.held _).mpr (.inl member))
  refine ⟨owns.clean, ?_, ?_, ?_, owns.apart, ?_, ?_⟩
  · exact Multiset.nodup_cons.mpr ⟨owns.new, owns.nodup⟩
  · intro block member
    rcases Multiset.mem_cons.mp member with rfl | member
    · exact Nat.lt_succ_self _
    · exact Nat.lt_succ_of_lt (owns.given block member)
  · intro block
    rw [Heap.malloc, Ledger.acquire_held, Multiset.mem_cons, owns.held, Multiset.mem_cons, or_assoc]
    rfl
  · intro other block found member
    rcases Multiset.mem_cons.mp member with rfl | member
    · exact owns.new ((owns.held _).mpr (.inr ⟨other, found⟩))
    · exact owns.kept found member
  · exact Multiset.nodup_cons.mpr ⟨outside, owns.once⟩

theorem read (owns : Owns owner lost heap) {block : Nat} (found : owner place = some block) :
    heap.read (some block) = heap := by
  have member : block ∈ heap.ledger.held := (owns.held block).mpr (.inr ⟨place, found⟩)
  rw [Heap.read, Option.getD_some, Ledger.use_held member]

variable [DecidableEq Place]

theorem malloc (owns : Owns owner lost heap) (free : owner place = none) :
    Owns (Function.update owner place (some heap.fresh)) lost heap.malloc := by
  have mine : ∀ {other block}, Function.update owner place (some heap.fresh) other = some block →
      other = place ∧ block = heap.fresh ∨ other ≠ place ∧ owner other = some block := by
    intro other block found
    by_cases same : other = place
    · subst same
      rw [Function.update_self] at found
      exact .inl ⟨rfl, (Option.some.inj found).symm⟩
    · rw [Function.update_of_ne same] at found
      exact .inr ⟨same, found⟩
  have old : ∀ {other block}, owner other = some block → block ≠ heap.fresh := by
    rintro other block found rfl
    exact owns.new ((owns.held _).mpr (.inr ⟨other, found⟩))
  refine ⟨owns.clean, ?_, ?_, ?_, ?_, ?_, owns.once⟩
  · exact Multiset.nodup_cons.mpr ⟨owns.new, owns.nodup⟩
  · intro block member
    rcases Multiset.mem_cons.mp member with rfl | member
    · exact Nat.lt_succ_self _
    · exact Nat.lt_succ_of_lt (owns.given block member)
  · intro block
    rw [Heap.malloc, Ledger.acquire_held, Multiset.mem_cons, owns.held]
    constructor
    · rintro (rfl | member | ⟨other, found⟩)
      · exact .inr ⟨place, Function.update_self ..⟩
      · exact .inl member
      · have same : other ≠ place := by
          rintro rfl
          cases free.symm.trans found
        exact .inr ⟨other, (Function.update_of_ne same ..).trans found⟩
    · rintro (member | ⟨other, found⟩)
      · exact .inr (.inl member)
      · rcases mine found with ⟨_, rfl⟩ | ⟨_, found⟩
        · exact .inl rfl
        · exact .inr (.inr ⟨other, found⟩)
  · intro first second block left right
    rcases mine left with ⟨rfl, rfl⟩ | ⟨_, left⟩
    · rcases mine right with ⟨rfl, _⟩ | ⟨_, right⟩
      · rfl
      · exact absurd rfl (old right)
    · rcases mine right with ⟨_, rfl⟩ | ⟨_, right⟩
      · exact absurd rfl (old left)
      · exact owns.apart left right
  · intro other block found member
    rcases mine found with ⟨_, rfl⟩ | ⟨_, found⟩
    · exact owns.new ((owns.held _).mpr (.inl member))
    · exact owns.kept found member

theorem free (owns : Owns owner lost heap) (place : Place) :
    Owns (Function.update owner place none) lost (heap.free (owner place)) := by
  cases mine : owner place with
  | none =>
      have same : Function.update owner place none = owner := by rw [← mine, Function.update_eq_self]
      rw [same]
      exact owns
  | some gone =>
      have member : gone ∈ heap.ledger.held := (owns.held gone).mpr (.inr ⟨place, mine⟩)
      have release : heap.ledger.release gone = { heap.ledger with held := heap.ledger.held.erase gone } :=
        if_pos member
      have rest : ∀ {other block}, Function.update owner place none other = some block →
          other ≠ place ∧ owner other = some block := by
        intro other block found
        by_cases same : other = place
        · subst same
          rw [Function.update_self] at found
          cases found
        · rw [Function.update_of_ne same] at found
          exact ⟨same, found⟩
      rw [Heap.free, release]
      refine ⟨owns.clean, owns.nodup.erase gone, ?_, ?_, ?_, ?_, owns.once⟩
      · exact fun block still => owns.given block (Multiset.mem_of_mem_erase still)
      · intro block
        rw [Multiset.Nodup.mem_erase_iff owns.nodup, owns.held]
        constructor
        · rintro ⟨other, member | ⟨holder, found⟩⟩
          · exact .inl member
          · have same : holder ≠ place := by
              rintro rfl
              exact other (Option.some.inj (found.symm.trans mine))
            exact .inr ⟨holder, (Function.update_of_ne same ..).trans found⟩
        · rintro (astray | ⟨holder, found⟩)
          · refine ⟨?_, .inl astray⟩
            rintro rfl
            exact owns.kept mine astray
          · obtain ⟨same, found⟩ := rest found
            refine ⟨?_, .inr ⟨holder, found⟩⟩
            rintro rfl
            exact same (owns.apart found mine)
      · exact fun left right => owns.apart (rest left).2 (rest right).2
      · exact fun found => owns.kept (rest found).2

end Owns

end MangOH
