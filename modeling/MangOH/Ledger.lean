import Mathlib.Data.Multiset.AddSub

/-!
What a program holds and what it has done wrong with it. A resource may be
acquired more than once and is then released as often. A lock is a resource
that is not acquired while it is held.
-/

namespace MangOH

universe u

/-- A resource released, used or locked against the rules. -/
inductive Misuse (Resource : Type u) where
  | released (resource : Resource)
  | used (resource : Resource)
  | relocked (resource : Resource)
deriving DecidableEq

structure Ledger (Resource : Type u) where
  held : Multiset Resource
  misuses : List (Misuse Resource)

namespace Ledger

variable {Resource : Type u} [DecidableEq Resource]

def empty : Ledger Resource := ⟨0, []⟩

def acquire (resource : Resource) (ledger : Ledger Resource) : Ledger Resource :=
  { ledger with held := resource ::ₘ ledger.held }

def release (resource : Resource) (ledger : Ledger Resource) : Ledger Resource :=
  if resource ∈ ledger.held then { ledger with held := ledger.held.erase resource }
  else { ledger with misuses := .released resource :: ledger.misuses }

def use (resource : Resource) (ledger : Ledger Resource) : Ledger Resource :=
  if resource ∈ ledger.held then ledger
  else { ledger with misuses := .used resource :: ledger.misuses }

def lock (resource : Resource) (ledger : Ledger Resource) : Ledger Resource :=
  if resource ∈ ledger.held then { ledger with misuses := .relocked resource :: ledger.misuses }
  else ledger.acquire resource

def releaseAll (resources : List Resource) (ledger : Ledger Resource) : Ledger Resource :=
  resources.foldl (fun ledger resource => ledger.release resource) ledger

/-- Everything is given back, and nothing was misused. -/
def Settled (ledger : Ledger Resource) : Prop := ledger.held = 0 ∧ ledger.misuses = []

variable {resource other : Resource} {ledger : Ledger Resource} {rest : Multiset Resource}

omit [DecidableEq Resource] in
@[simp] theorem acquire_held : (ledger.acquire resource).held = resource ::ₘ ledger.held := rfl

omit [DecidableEq Resource] in
@[simp] theorem acquire_misuses : (ledger.acquire resource).misuses = ledger.misuses := rfl

theorem release_of_held (held : ledger.held = resource ::ₘ rest) :
    ledger.release resource = ⟨rest, ledger.misuses⟩ := by
  have member : resource ∈ ledger.held := by
    rw [held]
    exact Multiset.mem_cons_self _ _
  rw [release, if_pos member, held, Multiset.erase_cons_head]

@[simp] theorem release_cons {misuses : List (Misuse Resource)} :
    (⟨resource ::ₘ rest, misuses⟩ : Ledger Resource).release resource = ⟨rest, misuses⟩ :=
  release_of_held rfl

@[simp] theorem release_singleton {misuses : List (Misuse Resource)} :
    (⟨{resource}, misuses⟩ : Ledger Resource).release resource = ⟨0, misuses⟩ :=
  release_of_held rfl

theorem release_absent (absent : resource ∉ ledger.held) :
    (ledger.release resource).misuses = .released resource :: ledger.misuses := by
  rw [release, if_neg absent]

theorem use_held (member : resource ∈ ledger.held) : ledger.use resource = ledger := if_pos member

theorem use_absent (absent : resource ∉ ledger.held) :
    (ledger.use resource).misuses = .used resource :: ledger.misuses := by
  rw [use, if_neg absent]

@[simp] theorem use_keeps : (ledger.use resource).held = ledger.held := by
  unfold use
  split <;> rfl

theorem lock_absent (absent : resource ∉ ledger.held) :
    ledger.lock resource = ledger.acquire resource := if_neg absent

theorem lock_held (member : resource ∈ ledger.held) :
    (ledger.lock resource).misuses = .relocked resource :: ledger.misuses := by
  rw [lock, if_pos member]

/-- A lock taken and given back leaves the ledger. -/
theorem lock_release (absent : resource ∉ ledger.held) :
    (ledger.lock resource).release resource = ledger := by
  rw [lock_absent absent, release_of_held rfl]
  rfl

theorem misuses_release : ledger.misuses <:+ (ledger.release resource).misuses := by
  unfold release
  split
  · exact List.suffix_refl _
  · exact List.suffix_cons _ _

theorem release_settles (misuses : ledger.misuses = []) :
    ((ledger.release resource).misuses = [] ∧ (ledger.release resource).held = rest) ↔
      ledger.held = resource ::ₘ rest := by
  by_cases member : resource ∈ ledger.held
  · obtain ⟨others, held⟩ := Multiset.exists_cons_of_mem member
    rw [release_of_held held, held, Multiset.cons_inj_right]
    exact and_iff_right misuses
  · constructor
    · rintro ⟨none, -⟩
      rw [release_absent member] at none
      exact absurd none (List.cons_ne_nil _ _)
    · intro held
      rw [held] at member
      exact absurd (Multiset.mem_cons_self _ _) member

/-- A series of releases of what is held leaves the rest. -/
theorem releaseAll_held {resources : List Resource} (held : ledger.held = ↑resources + rest) :
    ledger.releaseAll resources = ⟨rest, ledger.misuses⟩ := by
  induction resources generalizing ledger with
  | nil => rw [← (show ledger.held = rest by simpa using held)]; rfl
  | cons resource others ih =>
      have first : ledger.release resource = ⟨↑others + rest, ledger.misuses⟩ :=
        release_of_held (by rw [held, ← Multiset.cons_coe, Multiset.cons_add])
      change Ledger.releaseAll others (ledger.release resource) = _
      rw [first, ih rfl]

/-- A series of releases settles a ledger that holds just what they release. -/
theorem releaseAll_settled {resources : List Resource} :
    (ledger.releaseAll resources).Settled ↔
      ledger.misuses = [] ∧ ledger.held = (resources : Multiset Resource) := by
  induction resources generalizing ledger with
  | nil => exact and_comm
  | cons resource others ih =>
      change (Ledger.releaseAll others (ledger.release resource)).Settled ↔ _
      rw [ih]
      constructor
      · intro released
        have clean : ledger.misuses = [] :=
          List.suffix_nil.mp (released.1 ▸ @misuses_release _ _ resource ledger)
        exact ⟨clean, (release_settles clean).mp released⟩
      · rintro ⟨clean, held⟩
        exact (release_settles clean).mpr held

/-! A use forgets no misuse, and another resource is never touched. -/

theorem misuses_use : ledger.misuses <:+ (ledger.use resource).misuses := by
  unfold use
  split
  · exact List.suffix_refl _
  · exact List.suffix_cons _ _

theorem count_acquire (different : other ≠ resource) :
    (ledger.acquire resource).held.count other = ledger.held.count other :=
  Multiset.count_cons_of_ne different _

theorem count_release (different : other ≠ resource) :
    (ledger.release resource).held.count other = ledger.held.count other := by
  unfold release
  split
  · exact Multiset.count_erase_of_ne different _
  · rfl

theorem count_release_self :
    (ledger.release resource).held.count resource = ledger.held.count resource - 1 := by
  unfold release
  split
  · exact Multiset.count_erase_self _ _
  · rename_i absent
    simp [Multiset.count_eq_zero_of_notMem absent]

end Ledger

end MangOH
