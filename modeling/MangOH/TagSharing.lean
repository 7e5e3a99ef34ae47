import MangOH.Ownership
import MangOH.Trace

/-!
Tags and their messages. A tag deletes its message, and one that is copied or assigned from
another has the same message as that one: a program is free of misuse just where no tag
with a message is ever copied.
-/

namespace MangOH.Nfc.Tags

variable {Tag : Type}

/-- Each tag there is, with the block of its message. -/
structure State (Tag : Type) where
  tags : Tag → Option (Option Nat)
  heap : Heap

inductive Op (Tag : Type) where
  | construct (t : Tag) (ndefMessage : Bool)
  | copy (t rhs : Tag)
  | assign (t rhs : Tag)
  | getNdefMessage (t : Tag)
  | destroy (t : Tag)

def start : State Tag := ⟨fun _ => none, .empty⟩

def owner (tags : Tag → Option (Option Nat)) (t : Tag) : Option Nat := (tags t).bind id

variable {st : State Tag} {t : Tag}

theorem owner_some {old : Option Nat} (found : st.tags t = some old) : owner st.tags t = old := by
  rw [owner, found]
  rfl

theorem owner_none (free : st.tags t = none) : owner st.tags t = none := by
  rw [owner, free]
  rfl

/-! A tag whose message is another's, or gone. -/

structure Sound (st : State Tag) : Prop where
  nodup : st.heap.ledger.held.Nodup
  given : ∀ block ∈ st.heap.ledger.held, block < st.heap.next
  owned : ∀ {t block}, owner st.tags t = some block → block < st.heap.next

def Doomed (st : State Tag) : Prop :=
  st.heap.ledger.misuses ≠ [] ∨
    (∃ t block, owner st.tags t = some block ∧ block ∉ st.heap.ledger.held) ∨
      ∃ t other block, t ≠ other ∧ owner st.tags t = some block ∧ owner st.tags other = some block

variable [DecidableEq Tag]

/-- The constructor that is given a message makes one of its own; the one that copies is the
compiler's. -/
def step (st : State Tag) : Op Tag → State Tag
  | .construct t ndefMessage =>
      match st.tags t with
      | some _ => st
      | none =>
          if ndefMessage = true then
            ⟨Function.update st.tags t (some st.heap.fresh), st.heap.malloc⟩
          else { st with tags := Function.update st.tags t (some none) }
  | .copy t rhs =>
      match st.tags t, st.tags rhs with
      | none, some message => { st with tags := Function.update st.tags t (some message) }
      | _, _ => st
  | .assign t rhs =>
      if t = rhs then st
      else match st.tags t, st.tags rhs with
        | some old, some message => ⟨Function.update st.tags t (some message), st.heap.free old⟩
        | _, _ => st
  | .getNdefMessage t =>
      match st.tags t with
      | some (some message) => { st with heap := st.heap.read (some message) }
      | _ => st
  | .destroy t =>
      match st.tags t with
      | some old => ⟨Function.update st.tags t none, st.heap.free old⟩
      | none => st

/-- No message gets a second tag. -/
def Alone (st : State Tag) : Op Tag → Prop
  | .copy t rhs => st.tags t = none → owner st.tags rhs = none
  | .assign t rhs => t ≠ rhs → st.tags t ≠ none → owner st.tags rhs = none
  | _ => True

theorem owner_update (tags : Tag → Option (Option Nat)) (t : Tag) (message : Option (Option Nat)) :
    owner (Function.update tags t message) = Function.update (owner tags) t (message.bind id) := by
  funext other
  by_cases same : other = t
  · subst same
    rw [owner, Function.update_self, Function.update_self]
  · rw [owner, Function.update_of_ne same, Function.update_of_ne same]
    rfl

theorem step_alone {op : Op Tag} (owns : Owns (owner st.tags) 0 st.heap) (alone : Alone st op) :
    Owns (owner (step st op).tags) 0 (step st op).heap := by
  cases op with
  | construct t ndefMessage =>
      rw [step]
      cases free : st.tags t with
      | some old => exact owns
      | none =>
          dsimp only
          split
          · rw [owner_update]
            exact owns.malloc (owner_none free)
          · have same : Function.update (owner st.tags) t none = owner st.tags := by
              rw [← owner_none free, Function.update_eq_self]
            dsimp only
            rw [owner_update, Option.bind_some, id, same]
            exact owns
  | copy t rhs =>
      rw [step]
      split
      · rename_i message free found
        have none : message = Option.none := (owner_some found).symm.trans (alone free)
        have same : Function.update (owner st.tags) t Option.none = owner st.tags := by
          rw [← owner_none free, Function.update_eq_self]
        rw [owner_update, none, Option.bind_some, id, same]
        exact owns
      · exact owns
  | assign t rhs =>
      rw [step]
      split
      · exact owns
      · rename_i other
        split
        · rename_i old message mine found
          have none : message = Option.none :=
            (owner_some found).symm.trans (alone other fun gone => by cases mine.symm.trans gone)
          have freed := owns.free t
          rw [owner_some mine] at freed
          rw [owner_update, none]
          exact freed
        · exact owns
  | getNdefMessage t =>
      rw [step]
      split
      · rename_i message found
        rw [owns.read (owner_some found)]
        exact owns
      · exact owns
  | destroy t =>
      rw [step]
      cases mine : st.tags t with
      | none => exact owns
      | some old =>
          have freed := owns.free t
          rw [owner_some mine] at freed
          dsimp only
          rw [owner_update]
          exact freed

/-- A tag that loses its message, for another or for good. -/
theorem replace_doomed {old : Option Nat} (sound : Sound st) (doomed : Doomed st) (mine : st.tags t = some old)
    (now : Option (Option Nat)) : Doomed ⟨Function.update st.tags t now, st.heap.free old⟩ := by
  have others : ∀ {other}, other ≠ t → owner (Function.update st.tags t now) other = owner st.tags other := by
    intro other apart
    rw [owner_update, Function.update_of_ne apart]
  have lone : ∀ {other block}, other ≠ t → owner st.tags other = some block → owner st.tags t = some block →
      Doomed ⟨Function.update st.tags t now, st.heap.free old⟩ := by
    intro other block apart found same
    have freed : old = some block := (owner_some mine).symm.trans same
    rw [freed]
    obtain spoilt | gone := @Heap.free_gone st.heap block sound.nodup
    · exact .inl spoilt
    · exact .inr (.inl ⟨other, block, (others apart).trans found, gone⟩)
  obtain spoilt | ⟨holder, block, found, gone⟩ | ⟨first, second, block, apart, left, right⟩ := doomed
  · exact .inl (Heap.free_misuses old spoilt)
  · by_cases same : holder = t
    · subst same
      have freed : old = some block := (owner_some mine).symm.trans found
      refine .inl ?_
      rw [freed, Heap.free, Ledger.release_absent gone]
      exact List.cons_ne_nil _ _
    · exact .inr (.inl ⟨holder, block, (others same).trans found, fun member => gone (Heap.free_held old member)⟩)
  · by_cases one : first = t
    · subst one
      exact lone apart.symm right left
    · by_cases two : second = t
      · subst two
        exact lone apart left right
      · exact .inr (.inr ⟨first, second, block, apart, (others one).trans left, (others two).trans right⟩)

/-- A tag that comes. -/
theorem add_doomed (doomed : Doomed st) (free : st.tags t = none) (now : Option (Option Nat)) {heap : Heap}
    (misuses : heap.ledger.misuses = st.heap.ledger.misuses)
    (held : ∀ {other block}, owner st.tags other = some block → block ∉ st.heap.ledger.held →
      block ∉ heap.ledger.held) : Doomed ⟨Function.update st.tags t now, heap⟩ := by
  have others : ∀ {other block}, owner st.tags other = some block →
      owner (Function.update st.tags t now) other = some block := by
    intro other block found
    have apart : other ≠ t := by
      rintro rfl
      cases (owner_none free).symm.trans found
    rw [owner_update, Function.update_of_ne apart]
    exact found
  obtain spoilt | ⟨holder, block, found, gone⟩ | ⟨first, second, block, apart, left, right⟩ := doomed
  · exact .inl (misuses ▸ spoilt)
  · exact .inr (.inl ⟨holder, block, others found, held found gone⟩)
  · exact .inr (.inr ⟨first, second, block, apart, others left, others right⟩)

theorem step_doomed (op : Op Tag) (sound : Sound st) (doomed : Doomed st) : Doomed (step st op) := by
  cases op with
  | construct t ndefMessage =>
      rw [step]
      cases free : st.tags t with
      | some old => exact doomed
      | none =>
          dsimp only
          split
          · refine add_doomed doomed free _ rfl fun found gone member => ?_
            rcases Multiset.mem_cons.mp member with rfl | member
            · exact Nat.lt_irrefl _ (sound.owned found)
            · exact gone member
          · exact add_doomed doomed free _ rfl fun _ gone => gone
  | copy t rhs =>
      rw [step]
      split
      · rename_i message free found
        exact add_doomed doomed free _ rfl fun _ gone => gone
      · exact doomed
  | assign t rhs =>
      rw [step]
      split
      · exact doomed
      · split
        · rename_i old message mine found
          exact replace_doomed sound doomed mine _
        · exact doomed
  | getNdefMessage t =>
      rw [step]
      split
      · rename_i message found
        obtain spoilt | ⟨holder, block, found, gone⟩ | shared := doomed
        · refine .inl fun clean => spoilt ?_
          exact List.suffix_nil.mp (clean ▸ @Ledger.misuses_use _ _ _ st.heap.ledger)
        · refine .inr (.inl ⟨holder, block, found, ?_⟩)
          rw [Heap.read, Ledger.use_keeps]
          exact gone
        · exact .inr (.inr shared)
      · exact doomed
  | destroy t =>
      rw [step]
      cases mine : st.tags t with
      | none => exact doomed
      | some old => exact replace_doomed sound doomed mine none

theorem step_sound (op : Op Tag) (sound : Sound st) : Sound (step st op) := by
  have freed : ∀ {t : Tag} {old : Option Nat} {now : Option (Option Nat)},
      (∀ block, now.bind id = some block → block < st.heap.next) →
        Sound ⟨Function.update st.tags t now, st.heap.free old⟩ := by
    intro t old now fits
    refine ⟨Heap.free_nodup old sound.nodup, fun block member => ?_, fun {other block} found => ?_⟩
    · rw [Heap.free_next]
      exact sound.given block (Heap.free_held old member)
    · rw [Heap.free_next]
      rw [owner_update] at found
      by_cases same : other = t
      · subst same
        rw [Function.update_self] at found
        exact fits block found
      · rw [Function.update_of_ne same] at found
        exact sound.owned found
  have kept : ∀ {t : Tag} {now : Option (Option Nat)},
      (∀ block, now.bind id = some block → block < st.heap.next) →
        Sound ⟨Function.update st.tags t now, st.heap⟩ := @fun t now fits => @freed t none now fits
  cases op with
  | construct t ndefMessage =>
      rw [step]
      cases free : st.tags t with
      | some old => exact sound
      | none =>
          dsimp only
          split
          · have new : st.heap.fresh ∉ st.heap.ledger.held :=
              fun member => Nat.lt_irrefl _ (sound.given _ member)
            refine ⟨Multiset.nodup_cons.mpr ⟨new, sound.nodup⟩, fun block member => ?_, fun {other block} found => ?_⟩
            · rcases Multiset.mem_cons.mp member with rfl | member
              · exact Nat.lt_succ_self _
              · exact Nat.lt_succ_of_lt (sound.given block member)
            · rw [owner_update] at found
              by_cases same : other = t
              · subst same
                rw [Function.update_self] at found
                cases found
                exact Nat.lt_succ_self _
              · rw [Function.update_of_ne same] at found
                exact Nat.lt_succ_of_lt (sound.owned found)
          · exact kept fun block none => by cases none
  | copy t rhs =>
      rw [step]
      split
      · rename_i message free found
        exact kept fun block same => sound.owned ((owner_some found).trans same)
      · exact sound
  | assign t rhs =>
      rw [step]
      split
      · exact sound
      · split
        · rename_i old message mine found
          exact freed fun block same => sound.owned ((owner_some found).trans same)
        · exact sound
  | getNdefMessage t =>
      rw [step]
      split
      · refine ⟨?_, ?_, sound.owned⟩
        · rw [Heap.read, Ledger.use_keeps]
          exact sound.nodup
        · rw [Heap.read, Ledger.use_keeps]
          exact sound.given
      · exact sound
  | destroy t =>
      rw [step]
      cases mine : st.tags t with
      | none => exact sound
      | some old => exact freed fun block none => by cases none

/-- A message with two tags. -/
theorem shared_doomed {op : Op Tag} (shares : ¬ Alone st op) : Doomed (step st op) := by
  cases op with
  | copy t rhs =>
      obtain ⟨free, carries⟩ := Classical.not_imp.mp shares
      obtain ⟨block, found⟩ := Option.ne_none_iff_exists'.mp carries
      cases source : st.tags rhs with
      | none => cases (owner_none source).symm.trans found
      | some message =>
          have apart : rhs ≠ t := by
            rintro rfl
            cases free.symm.trans source
          have same : message = some block := (owner_some source).symm.trans found
          rw [step, free, source]
          refine .inr (.inr ⟨rhs, t, block, apart, ?_, ?_⟩)
          · rw [owner_update, Function.update_of_ne apart]
            exact found
          · rw [owner_update, Function.update_self, same]
            rfl
  | assign t rhs =>
      obtain ⟨other, rest⟩ := Classical.not_imp.mp shares
      obtain ⟨live, carries⟩ := Classical.not_imp.mp rest
      obtain ⟨old, mine⟩ := Option.ne_none_iff_exists'.mp live
      obtain ⟨block, found⟩ := Option.ne_none_iff_exists'.mp carries
      cases source : st.tags rhs with
      | none => cases (owner_none source).symm.trans found
      | some message =>
          have same : message = some block := (owner_some source).symm.trans found
          rw [step, if_neg other, mine, source]
          refine .inr (.inr ⟨rhs, t, block, Ne.symm other, ?_, ?_⟩)
          · rw [owner_update, Function.update_of_ne (Ne.symm other)]
            exact found
          · rw [owner_update, Function.update_self, same]
            rfl
  | _ => exact absurd trivial shares

theorem run_doomed (ops : List (Op Tag)) : ∀ {st : State Tag}, Sound st → Doomed st →
    Doomed (Trace.run step st ops) := by
  induction ops with
  | nil => exact fun _ doomed => doomed
  | cons op rest ih => exact fun sound doomed => ih (step_sound op sound) (step_doomed op sound doomed)

theorem run_shared (ops : List (Op Tag)) : ∀ {st : State Tag}, Sound st → ¬ Trace.Along step Alone st ops →
    Doomed (Trace.run step st ops) := by
  induction ops with
  | nil => exact fun _ shares => absurd trivial shares
  | cons op rest ih =>
      intro st sound shares
      by_cases alone : Alone st op
      · exact ih (step_sound op sound) fun along => shares ⟨alone, along⟩
      · exact run_doomed rest (step_sound op sound) (shared_doomed alone)

/-- A program that has destroyed its tags has misused none of their messages just where it has
never given a message a second tag. -/
theorem tags_settled_iff (ops : List (Op Tag)) (gone : ∀ t, (Trace.run step start ops).tags t = none) :
    (Trace.run step start ops).heap.ledger.misuses = [] ↔ Trace.Along step Alone start ops := by
  have base : Sound (start : State Tag) := by
    refine ⟨Multiset.nodup_zero, fun block member => absurd member (Multiset.notMem_zero block), fun found => ?_⟩
    cases found
  constructor
  · intro clean
    refine Classical.byContradiction fun shares => ?_
    obtain spoilt | ⟨t, block, found, _⟩ | ⟨t, other, block, _, found, _⟩ := run_shared ops base shares
    · exact spoilt clean
    · cases (owner_none (gone t)).symm.trans found
    · cases (owner_none (gone t)).symm.trans found
  · intro along
    have owns : Owns (owner (start : State Tag).tags) 0 (start : State Tag).heap := Owns.empty
    exact (@Trace.along_invariant _ _ step Alone (fun st => Owns (owner st.tags) 0 st.heap) step_alone _ _ owns
      along).clean

/-- A copy of a tag with a message, and both destroyed. -/
theorem tags_settled_pair :
    (Trace.run step (start : State Bool)
        [.construct false true, .copy true false, .destroy false, .destroy true]).heap.ledger.misuses = [] ↔
      Trace.Along step Alone (start : State Bool)
        [.construct false true, .copy true false, .destroy false, .destroy true] :=
  tags_settled_iff _ fun t => by
    cases t <;> rfl

end MangOH.Nfc.Tags
