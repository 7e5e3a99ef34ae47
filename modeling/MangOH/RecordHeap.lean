import MangOH.Ownership
import MangOH.Trace

/-!
The memory of NDEF records. A record owns a block for each of its fields that is not empty;
it copies and frees by the lengths, not by the pointers, and a pointer may outlive its
block. In every run nothing is freed twice or read when it is gone, and the blocks that are
lost are those of fields that were set to no bytes.
-/

namespace MangOH.Ndef.Records

inductive Part where
  | type
  | payload
  | id
deriving DecidableEq

/-- A field, which has a block wherever it has bytes. -/
structure Slot where
  length : Nat
  block : Option Nat
  backed : length ≠ 0 → block ≠ none

abbrev Fields := Part → Slot

def parts : List Part := [.type, .payload, .id]

def Slot.none : Slot := ⟨0, Option.none, fun some => absurd rfl some⟩

/-- The constructor without arguments. -/
def construct : Fields := fun _ => .none

def freeSlot (slot : Slot) (heap : Heap) : Heap := if slot.length ≠ 0 then heap.free slot.block else heap

/-- A field that takes no bytes keeps the pointer it had. -/
def copySlot (old rhs : Slot) (heap : Heap) : Slot × Heap :=
  if rhs.length ≠ 0 then
    (⟨rhs.length, heap.fresh, fun _ => Option.some_ne_none _⟩, heap.malloc.read rhs.block)
  else (⟨0, old.block, fun none => absurd rfl none⟩, heap)

/-- The fields one after the other. -/
def freeParts (fields : Fields) (which : List Part) (heap : Heap) : Heap :=
  which.foldl (fun heap part => freeSlot (fields part) heap) heap

def copyParts (rhs : Fields) : List Part → Fields × Heap → Fields × Heap
  | [], done => done
  | part :: rest, (fields, heap) =>
      let copied := copySlot (fields part) (rhs part) heap
      copyParts rhs rest (Function.update fields part copied.1, copied.2)

/-- The copy constructor. -/
def copy (rhs : Fields) (heap : Heap) : Fields × Heap := copyParts rhs parts (construct, heap)

def destroy (fields : Fields) (heap : Heap) : Heap := freeParts fields parts heap

/-- `operator=`, of another record. -/
def assign (fields rhs : Fields) (heap : Heap) : Fields × Heap :=
  copyParts rhs parts (fields, freeParts fields parts heap)

/-- `setType`, `setPayload` and `setId`. -/
def set (fields : Fields) (part : Part) (numBytes : Nat) (heap : Heap) : Fields × Heap :=
  let heap := freeSlot (fields part) heap
  (Function.update fields part ⟨numBytes, heap.fresh, fun _ => Option.some_ne_none _⟩, heap.malloc)

/-! Records that come and go. -/

variable {Obj : Type}

structure State (Obj : Type) where
  objs : Obj → Option Fields
  heap : Heap

inductive Op (Obj : Type) where
  | construct (o : Obj)
  | copy (o from' : Obj)
  | assign (o from' : Obj)
  | set (o : Obj) (part : Part) (numBytes : Nat)
  | destroy (o : Obj)

def start : State Obj := ⟨fun _ => none, .empty⟩

/-! Who owns what. -/

def Slot.owned (slot : Slot) : Option Nat := if slot.length ≠ 0 then slot.block else Option.none

def owner (objs : Obj → Option Fields) (place : Obj × Part) : Option Nat :=
  (objs place.1).bind fun fields => (fields place.2).owned

variable {st : State Obj} {o : Obj} {fields : Fields}

theorem owner_none (free : st.objs o = none) (part : Part) : owner st.objs (o, part) = none := by
  rw [owner, free]
  rfl

theorem owner_some (found : st.objs o = some fields) (part : Part) :
    owner st.objs (o, part) = (fields part).owned := by
  rw [owner, found]
  rfl

def alive (st : State Obj) (o : Obj) : Bool := (st.objs o).isSome

/-- The steps that lose a block: the one for a field that is set to no bytes. -/
def losses (st : State Obj) : Op Obj → Nat
  | .set o _ numBytes => if (st.objs o).isSome = true ∧ numBytes = 0 then 1 else 0
  | _ => 0

theorem losses_set (st : State Obj) (o : Obj) (part : Part) (numBytes : Nat) (live : alive st o = true) :
    losses st (.set o part numBytes) = if numBytes = 0 then 1 else 0 := by
  rw [losses, show (st.objs o).isSome = true from live]
  simp

variable {lost : Multiset Nat}

/-- What is left when there are no records is lost. -/
theorem left_lost (owns : Owns (owner st.objs) lost st.heap) (gone : ∀ o, st.objs o = none) :
    st.heap.ledger.held = lost := by
  refine (Multiset.Nodup.ext owns.nodup owns.once).mpr fun block => ?_
  rw [owns.held]
  refine or_iff_left ?_
  rintro ⟨⟨o, part⟩, found⟩
  cases (owner_none (gone o) part).symm.trans found

theorem start_owns : Owns (owner (start : State Obj).objs) 0 (start : State Obj).heap := Owns.empty

/-! What the program does. -/

variable [DecidableEq Obj]

/-- Where a record is constructed there is none, and elsewhere there is one; other steps of
a program are not steps of its records. -/
def step (st : State Obj) : Op Obj → State Obj
  | .construct o =>
      match st.objs o with
      | some _ => st
      | none => { st with objs := Function.update st.objs o (some construct) }
  | .copy o from' =>
      match st.objs o, st.objs from' with
      | none, some rhs =>
          let copied := copy rhs st.heap
          ⟨Function.update st.objs o (some copied.1), copied.2⟩
      | _, _ => st
  | .assign o from' =>
      if o = from' then st
      else match st.objs o, st.objs from' with
        | some fields, some rhs =>
            let copied := assign fields rhs st.heap
            ⟨Function.update st.objs o (some copied.1), copied.2⟩
        | _, _ => st
  | .set o part numBytes =>
      match st.objs o with
      | some fields =>
          let changed := set fields part numBytes st.heap
          ⟨Function.update st.objs o (some changed.1), changed.2⟩
      | none => st
  | .destroy o =>
      match st.objs o with
      | some fields => ⟨Function.update st.objs o none, destroy fields st.heap⟩
      | none => st

/-! The loops over the fields. -/

variable {heap : Heap} {owners : Obj × Part → Option Nat} {from' : Obj} {rhs : Fields}

theorem freeSlot_owned (slot : Slot) (heap : Heap) : freeSlot slot heap = heap.free slot.owned := by
  unfold freeSlot Slot.owned
  split <;> rfl

theorem freeParts_owns {which : List Part} (distinct : which.Nodup) : ∀ {owners : Obj × Part → Option Nat}
    {heap : Heap}, Owns owners lost heap → (∀ part ∈ which, owners (o, part) = (fields part).owned) →
      Owns (fun place => if place.1 = o ∧ place.2 ∈ which then none else owners place) lost
        (freeParts fields which heap) := by
  induction which with
  | nil =>
      intro owners heap owns _
      simpa [freeParts] using owns
  | cons part rest ih =>
      intro owners heap owns same
      obtain ⟨new, distinct⟩ := List.nodup_cons.mp distinct
      have next := owns.free (o, part)
      rw [same part List.mem_cons_self, ← freeSlot_owned] at next
      have others : ∀ other ∈ rest, Function.update owners (o, part) none (o, other) = (fields other).owned := by
        intro other member
        have apart : (o, other) ≠ (o, part) := by
          rintro here
          cases here
          exact new member
        rw [Function.update_of_ne apart]
        exact same other (List.mem_cons_of_mem _ member)
      have result := ih distinct next others
      have whole : (fun place : Obj × Part => if place.1 = o ∧ place.2 ∈ rest then none
          else Function.update owners (o, part) none place) =
          fun place => if place.1 = o ∧ place.2 ∈ part :: rest then none else owners place := by
        funext place
        obtain ⟨other, field⟩ := place
        by_cases here : (other, field) = (o, part)
        · cases here
          simp
        · rw [Function.update_of_ne here]
          have elsewhere : other = o → field ≠ part := by
            rintro rfl rfl
            exact here rfl
          by_cases object : other = o
          · simp [object, elsewhere object]
          · simp [object]
      rw [whole] at result
      exact result

theorem copySlot_owns {old rhs : Slot} {place source : Obj × Part} (owns : Owns owners lost heap)
    (free : owners place = none) (found : owners source = rhs.owned) :
    Owns (Function.update owners place (copySlot old rhs heap).1.owned) lost (copySlot old rhs heap).2 := by
  unfold copySlot
  by_cases some : rhs.length ≠ 0
  · rw [if_pos some]
    obtain ⟨block, has⟩ := Option.ne_none_iff_exists'.mp (rhs.backed some)
    have owned : Slot.owned ⟨rhs.length, heap.fresh, fun _ => Option.some_ne_none _⟩ = heap.fresh := if_pos some
    rw [Slot.owned, if_pos some, has] at found
    have apart : source ≠ place := by
      rintro rfl
      cases free.symm.trans found
    have both := owns.malloc free
    have still : Function.update owners place (Option.some heap.fresh) source = Option.some block :=
      (Function.update_of_ne apart ..).trans found
    rw [has]
    dsimp only
    rw [both.read still, owned]
    exact both
  · rw [if_neg some]
    have none : Slot.owned ⟨0, old.block, fun none => absurd rfl none⟩ = owners place := by
      rw [free]
      exact if_neg (not_not_intro rfl)
    dsimp only
    rw [none, Function.update_eq_self]
    exact owns

theorem copyParts_owns {which : List Part} (distinct : which.Nodup) (other : from' ≠ o) :
    ∀ {owners : Obj × Part → Option Nat} {fields : Fields} {heap : Heap}, Owns owners lost heap →
      (∀ part ∈ which, owners (o, part) = none) → (∀ part, owners (from', part) = (rhs part).owned) →
        Owns (fun place => if place.1 = o ∧ place.2 ∈ which then
            ((copyParts rhs which (fields, heap)).1 place.2).owned else owners place)
          lost (copyParts rhs which (fields, heap)).2 ∧
        ∀ part ∉ which, (copyParts rhs which (fields, heap)).1 part = fields part := by
  induction which with
  | nil =>
      intro owners fields heap owns _ _
      simpa [copyParts] using owns
  | cons part rest ih =>
      intro owners fields heap owns free source
      obtain ⟨new, distinct⟩ := List.nodup_cons.mp distinct
      have next := @copySlot_owns _ lost _ heap owners (fields part) (rhs part) (o, part) (from', part) owns
        (free part List.mem_cons_self) (source part)
      have freed : ∀ field ∈ rest, Function.update owners (o, part)
          (copySlot (fields part) (rhs part) heap).1.owned (o, field) = none := by
        intro field member
        have apart : (o, field) ≠ (o, part) := by
          rintro here
          cases here
          exact new member
        rw [Function.update_of_ne apart]
        exact free field (List.mem_cons_of_mem _ member)
      have sources : ∀ field, Function.update owners (o, part)
          (copySlot (fields part) (rhs part) heap).1.owned (from', field) = (rhs field).owned := by
        intro field
        have apart : (from', field) ≠ (o, part) := fun here => other (congrArg Prod.fst here)
        rw [Function.update_of_ne apart]
        exact source field
      obtain ⟨result, same⟩ := @ih distinct _ (Function.update fields part (copySlot (fields part) (rhs part) heap).1)
        _ next freed sources
      have unfolded : copyParts rhs (part :: rest) (fields, heap) = copyParts rhs rest
          (Function.update fields part (copySlot (fields part) (rhs part) heap).1,
            (copySlot (fields part) (rhs part) heap).2) := rfl
      rw [← unfolded] at result same
      have here : (copyParts rhs (part :: rest) (fields, heap)).1 part = (copySlot (fields part) (rhs part) heap).1 :=
        (same part new).trans (Function.update_self ..)
      refine ⟨?_, fun field absent => ?_⟩
      · have whole : (fun place : Obj × Part => if place.1 = o ∧ place.2 ∈ rest then
              ((copyParts rhs (part :: rest) (fields, heap)).1 place.2).owned
            else Function.update owners (o, part) (copySlot (fields part) (rhs part) heap).1.owned place) =
            fun place => if place.1 = o ∧ place.2 ∈ part :: rest then
              ((copyParts rhs (part :: rest) (fields, heap)).1 place.2).owned else owners place := by
          funext place
          obtain ⟨object, field⟩ := place
          by_cases mine : (object, field) = (o, part)
          · cases mine
            rw [if_neg fun both => new both.2, if_pos ⟨rfl, List.mem_cons_self⟩, Function.update_self, here]
          · rw [Function.update_of_ne mine]
            have elsewhere : object = o → field ≠ part := by
              rintro rfl rfl
              exact mine rfl
            by_cases same : object = o
            · simp [same, elsewhere same]
            · simp [same]
        rw [whole] at result
        exact result
      · rw [same field fun member => absent (List.mem_cons_of_mem _ member)]
        exact Function.update_of_ne (fun here => absent (List.mem_cons.mpr (.inl here))) ..

theorem mem_parts (part : Part) : part ∈ parts := by cases part <;> decide

theorem parts_nodup : parts.Nodup := by decide

theorem owner_update (objs : Obj → Option Fields) (o : Obj) (after : Option Fields) :
    owner (Function.update objs o after) = fun place =>
      if place.1 = o ∧ place.2 ∈ parts then after.bind fun fields => (fields place.2).owned else owner objs place := by
  funext place
  obtain ⟨other, part⟩ := place
  by_cases same : other = o
  · subst same
    rw [if_pos ⟨rfl, mem_parts part⟩, owner, Function.update_self]
  · rw [if_neg fun both => same both.1, owner, Function.update_of_ne same]
    rfl

/-! Runs. -/

theorem copy_owns (owns : Owns (owner st.objs) lost st.heap) (free : st.objs o = none)
    (found : st.objs from' = some rhs) :
    Owns (owner (Function.update st.objs o (some (copy rhs st.heap).1))) lost (copy rhs st.heap).2 := by
  have other : from' ≠ o := by
    rintro rfl
    cases free.symm.trans found
  rw [owner_update]
  exact (copyParts_owns parts_nodup other owns (fun part _ => owner_none free part) (owner_some found)).1

theorem assign_owns (owns : Owns (owner st.objs) lost st.heap) (mine : st.objs o = some fields)
    (found : st.objs from' = some rhs) (other : from' ≠ o) :
    Owns (owner (Function.update st.objs o (some (assign fields rhs st.heap).1))) lost
      (assign fields rhs st.heap).2 := by
  have freed := freeParts_owns parts_nodup owns fun part _ => owner_some mine part
  have none : ∀ part ∈ parts, (fun place : Obj × Part =>
      if place.1 = o ∧ place.2 ∈ parts then Option.none else owner st.objs place) (o, part) = Option.none :=
    fun part member => if_pos ⟨rfl, member⟩
  have source : ∀ part, (fun place : Obj × Part =>
      if place.1 = o ∧ place.2 ∈ parts then Option.none else owner st.objs place) (from', part) =
        (rhs part).owned :=
    fun part => (if_neg fun both => other both.1).trans (owner_some found part)
  have result := (@copyParts_owns _ o _ _ _ _ _ parts_nodup other _ fields _ freed none source).1
  have whole : (fun place : Obj × Part => if place.1 = o ∧ place.2 ∈ parts then
        ((copyParts rhs parts (fields, freeParts fields parts st.heap)).1 place.2).owned
      else if place.1 = o ∧ place.2 ∈ parts then Option.none else owner st.objs place) =
      fun place => if place.1 = o ∧ place.2 ∈ parts then
        ((copyParts rhs parts (fields, freeParts fields parts st.heap)).1 place.2).owned
      else owner st.objs place := by
    funext place
    split <;> rfl
  rw [whole] at result
  rw [owner_update]
  exact result

theorem set_owns (owns : Owns (owner st.objs) lost st.heap) (mine : st.objs o = some fields) (part : Part)
    (numBytes : Nat) : ∃ more, Owns (owner (Function.update st.objs o (some (set fields part numBytes st.heap).1)))
      (more + lost) (set fields part numBytes st.heap).2 ∧ more.card = if numBytes = 0 then 1 else 0 := by
  have freed := owns.free (o, part)
  rw [owner_some mine, ← freeSlot_owned] at freed
  have changed : owner (Function.update st.objs o (some (set fields part numBytes st.heap).1)) =
      Function.update (owner st.objs) (o, part)
        (if numBytes = 0 then none else some (freeSlot (fields part) st.heap).fresh) := by
    funext place
    obtain ⟨other, field⟩ := place
    by_cases same : other = o
    · subst same
      rw [owner, Function.update_self, Option.bind_some]
      by_cases here : field = part
      · subst here
        have slot : (set fields field numBytes st.heap).1 field = ⟨numBytes,
            (freeSlot (fields field) st.heap).fresh, fun _ => Option.some_ne_none _⟩ := Function.update_self ..
        rw [Function.update_self, slot, Slot.owned]
        by_cases none : numBytes = 0
        · rw [if_neg (not_not_intro none), if_pos none]
        · rw [if_pos none, if_neg none]
      · have apart : (other, field) ≠ (other, part) := fun both => here (congrArg Prod.snd both)
        have slot : (set fields part numBytes st.heap).1 field = fields field := Function.update_of_ne here ..
        rw [Function.update_of_ne apart, owner_some mine, slot]
    · have apart : (other, field) ≠ (o, part) := fun both => same (congrArg Prod.fst both)
      rw [Function.update_of_ne apart, owner, Function.update_of_ne same]
      rfl
  rw [changed]
  by_cases none : numBytes = 0
  · rw [if_pos none, if_pos none]
    exact ⟨{_}, freed.lose, rfl⟩
  · rw [if_neg none, if_neg none]
    have both := @Owns.malloc _ _ _ _ (o, part) _ freed (Function.update_self ..)
    rw [Function.update_idem] at both
    exact ⟨0, (Multiset.zero_add lost).symm ▸ both, rfl⟩

theorem destroy_owns (owns : Owns (owner st.objs) lost st.heap) (mine : st.objs o = some fields) :
    Owns (owner (Function.update st.objs o none)) lost (destroy fields st.heap) := by
  rw [owner_update]
  exact freeParts_owns parts_nodup owns fun part _ => owner_some mine part

theorem step_owns (op : Op Obj) (owns : Owns (owner st.objs) lost st.heap) :
    ∃ more, Owns (owner (step st op).objs) (more + lost) (step st op).heap ∧ more.card = losses st op := by
  have same : ∀ {st' : State Obj}, Owns (owner st'.objs) lost st'.heap →
      ∃ more, Owns (owner st'.objs) (more + lost) st'.heap ∧ more.card = 0 :=
    fun kept => ⟨0, (Multiset.zero_add lost).symm ▸ kept, rfl⟩
  cases op with
  | construct o =>
      refine same ?_
      rw [step]
      cases found : st.objs o with
      | some fields => exact owns
      | none =>
          have empty : owner (Function.update st.objs o (some construct)) = owner st.objs := by
            funext place
            rw [owner_update]
            dsimp only
            split
            · rename_i here
              obtain ⟨other, part⟩ := place
              obtain ⟨rfl, _⟩ := here
              rw [owner_none found part]
              rfl
            · rfl
          show Owns (owner (Function.update st.objs o (some construct))) lost st.heap
          rw [empty]
          exact owns
  | copy o from' =>
      refine same ?_
      rw [step]
      split
      · rename_i rhs free found
        exact copy_owns owns free found
      · exact owns
  | assign o from' =>
      refine same ?_
      rw [step]
      split
      · exact owns
      · rename_i other
        split
        · rename_i fields rhs mine found
          exact assign_owns owns mine found fun here => other here.symm
        · exact owns
  | set o part numBytes =>
      rw [step, losses]
      cases mine : st.objs o with
      | none => exact same owns
      | some fields =>
          obtain ⟨more, kept, counted⟩ := set_owns owns mine part numBytes
          refine ⟨more, kept, counted.trans ?_⟩
          by_cases none : numBytes = 0 <;> simp [none]
  | destroy o =>
      refine same ?_
      rw [step]
      cases mine : st.objs o with
      | none => exact owns
      | some fields => exact destroy_owns owns mine

/-- The blocks that a run loses. -/
def lossesOf : State Obj → List (Op Obj) → Nat
  | _, [] => 0
  | st, op :: rest => losses st op + lossesOf (step st op) rest

theorem run_owns (ops : List (Op Obj)) : ∀ {st : State Obj} {lost : Multiset Nat},
    Owns (owner st.objs) lost st.heap →
      ∃ more, Owns (owner (Trace.run step st ops).objs) (more + lost) (Trace.run step st ops).heap ∧
        more.card = lossesOf st ops := by
  induction ops with
  | nil => exact fun {st lost} owns => ⟨0, (Multiset.zero_add lost).symm ▸ owns, rfl⟩
  | cons op rest ih =>
      intro st lost owns
      obtain ⟨first, owns, one⟩ := step_owns op owns
      obtain ⟨more, owns, others⟩ := ih owns
      rw [← Multiset.add_assoc] at owns
      refine ⟨more + first, owns, ?_⟩
      rw [Multiset.card_add, one, others, lossesOf, Nat.add_comm]

/-- Nothing is freed twice or read when it is gone, and what is held is what the records own
and a block for each time that a field was set to no bytes. -/
theorem records_settled (ops : List (Op Obj)) :
    let st := Trace.run step start ops
    st.heap.ledger.misuses = [] ∧ ∃ lost : Multiset Nat, lost.Nodup ∧ lost.card = lossesOf start ops ∧
      ∀ block, block ∈ st.heap.ledger.held ↔
        (block ∈ lost ∧ ∀ place, owner st.objs place ≠ some block) ∨ ∃ place, owner st.objs place = some block := by
  intro st
  obtain ⟨lost, owns, counted⟩ := run_owns ops (start_owns : Owns _ 0 (start : State Obj).heap)
  rw [Multiset.add_zero] at owns
  refine ⟨owns.clean, lost, owns.once, counted, fun block => ?_⟩
  rw [owns.held]
  refine or_congr_left ?_
  exact (and_iff_left_of_imp fun member place found => owns.kept found member).symm

/-! A message that is read from bytes, and dropped. -/

/-- The lengths of a record as it is read; `idLength` where the record has an id. -/
structure Lengths where
  type : Nat
  idLength : Option Nat
  payload : Nat

def maxNdefRecords : Nat := 10

/-- A round of the constructor that reads bytes, with `i` records before it. The record of
the round is `none`, and those of the message have their index. -/
def round (i : Nat) (lengths : Lengths) : List (Op (Option Nat)) :=
  .construct none :: .set none .type lengths.type ::
    ((lengths.idLength.map (Op.set none .id)).toList ++ .set none .payload lengths.payload ::
      ((if i < maxNdefRecords then [.assign (some i) none] else []) ++ [.destroy none]))

def readOps : Nat → List Lengths → List (Op (Option Nat))
  | _, [] => []
  | i, lengths :: rest => round i lengths ++ readOps (i + 1) rest

def readAndDrop (records : List Lengths) : List (Op (Option Nat)) :=
  (List.range maxNdefRecords).map (fun i => .construct (some i)) ++ readOps 0 records ++
    (List.range maxNdefRecords).map fun i => .destroy (some i)

def Lengths.empties (lengths : Lengths) : Nat :=
  (if lengths.type = 0 then 1 else 0) + (if lengths.idLength = some 0 then 1 else 0) +
    if lengths.payload = 0 then 1 else 0

def emptiesOf : List Lengths → Nat
  | [] => 0
  | lengths :: rest => lengths.empties + emptiesOf rest

theorem alive_construct (st : State Obj) (o other : Obj) :
    alive (step st (.construct o)) other = (alive st other || decide (other = o)) := by
  rw [step]
  cases found : st.objs o with
  | some fields =>
      by_cases same : other = o
      · subst same
        simp [alive, found]
      · simp [same]
  | none =>
      by_cases same : other = o
      · subst same
        simp [alive]
      · simp [alive, same]

theorem alive_set (st : State Obj) (o : Obj) (part : Part) (numBytes : Nat) :
    alive (step st (.set o part numBytes)) = alive st := by
  rw [step]
  cases found : st.objs o with
  | none => rfl
  | some fields =>
      funext other
      by_cases same : other = o
      · subst same
        simp [alive, found]
      · simp [alive, Function.update_of_ne same]

theorem alive_assign (st : State Obj) (o from' : Obj) : alive (step st (.assign o from')) = alive st := by
  rw [step]
  split
  · rfl
  · split
    · rename_i fields rhs mine found
      funext other
      by_cases same : other = o
      · subst same
        simp [alive, mine]
      · simp [alive, Function.update_of_ne same]
    · rfl

theorem alive_destroy (st : State Obj) (o other : Obj) :
    alive (step st (.destroy o)) other = (alive st other && decide (other ≠ o)) := by
  rw [step]
  cases found : st.objs o with
  | none =>
      by_cases same : other = o
      · subst same
        simp [alive, found]
      · simp [same]
  | some fields =>
      by_cases same : other = o
      · subst same
        simp [alive]
      · simp [alive, same]

theorem lossesOf_append (first second : List (Op Obj)) : ∀ {st : State Obj},
    lossesOf st (first ++ second) = lossesOf st first + lossesOf (Trace.run step st first) second := by
  induction first with
  | nil => exact fun {st} => (Nat.zero_add _).symm
  | cons op rest ih =>
      intro st
      rw [List.cons_append, lossesOf, ih, lossesOf, Nat.add_assoc]
      rfl

/-- The record of a round is gone after it, and its empty fields have lost their blocks. -/
theorem round_leaks (st : State (Option Nat)) (i : Nat) (lengths : Lengths) (gone : alive st none = false) :
    alive (Trace.run step st (round i lengths)) = alive st ∧ lossesOf st (round i lengths) = lengths.empties := by
  have made : ∀ {st : State (Option Nat)} {o : Option Nat}, losses st (.construct o) = 0 := rfl
  have assigned : ∀ {st : State (Option Nat)} {o from' : Option Nat}, losses st (.assign o from') = 0 := rfl
  have dropped : ∀ {st : State (Option Nat)} {o : Option Nat}, losses st (.destroy o) = 0 := rfl
  obtain ⟨type, idLength, payload⟩ := lengths
  constructor
  · funext o
    cases idLength <;> unfold round <;> split <;>
      simp [Trace.run, alive_destroy, alive_assign, alive_set, alive_construct] <;>
        cases o <;> simp [gone]
  · cases idLength <;> unfold round <;> split <;>
      simp [lossesOf, made, assigned, dropped, losses_set, alive_set, alive_construct, Lengths.empties,
        Nat.add_assoc]

theorem readOps_leaks (records : List Lengths) : ∀ {i : Nat} {st : State (Option Nat)}, alive st none = false →
    alive (Trace.run step st (readOps i records)) = alive st ∧
      lossesOf st (readOps i records) = emptiesOf records := by
  induction records with
  | nil => exact fun _ => ⟨rfl, rfl⟩
  | cons lengths rest ih =>
      intro i st gone
      obtain ⟨one, lost⟩ := round_leaks st i lengths gone
      obtain ⟨others, more⟩ := @ih (i + 1) (Trace.run step st (round i lengths)) (one ▸ gone)
      have whole : Trace.run step st (readOps i (lengths :: rest)) =
          Trace.run step (Trace.run step st (round i lengths)) (readOps (i + 1) rest) := List.foldl_append
      rw [whole, others, one, readOps, lossesOf_append, lost, more]
      exact ⟨rfl, rfl⟩

theorem construct_all (slots : List (Option Nat)) : ∀ {st : State (Option Nat)},
    lossesOf st (slots.map .construct) = 0 ∧
      ∀ o, alive (Trace.run step st (slots.map .construct)) o = (alive st o || decide (o ∈ slots)) := by
  induction slots with
  | nil => exact fun {st} => ⟨rfl, fun o => by simp [Trace.run]⟩
  | cons slot rest ih =>
      intro st
      obtain ⟨none, others⟩ := @ih (step st (.construct slot))
      refine ⟨(Nat.zero_add _).trans none, fun o => ?_⟩
      rw [show Trace.run step st (List.map Op.construct (slot :: rest)) = Trace.run step (step st (.construct slot))
        (rest.map .construct) from rfl, others, alive_construct]
      simp [Bool.or_assoc]

theorem destroy_all (slots : List (Option Nat)) : ∀ {st : State (Option Nat)},
    lossesOf st (slots.map .destroy) = 0 ∧
      ∀ o, alive (Trace.run step st (slots.map .destroy)) o = (alive st o && decide (o ∉ slots)) := by
  induction slots with
  | nil => exact fun {st} => ⟨rfl, fun o => by simp [Trace.run]⟩
  | cons slot rest ih =>
      intro st
      obtain ⟨none, others⟩ := @ih (step st (.destroy slot))
      refine ⟨(Nat.zero_add _).trans none, fun o => ?_⟩
      rw [show Trace.run step st (List.map Op.destroy (slot :: rest)) = Trace.run step (step st (.destroy slot))
        (rest.map .destroy) from rfl, others, alive_destroy]
      simp [Bool.and_assoc]

/-- A message that is read and dropped leaves a block for each field that is read empty. -/
theorem read_leaks (records : List Lengths) :
    let st := Trace.run step start (readAndDrop records)
    st.heap.ledger.misuses = [] ∧ st.heap.ledger.held.card = emptiesOf records := by
  let slots : List (Option Nat) := (List.range maxNdefRecords).map some
  have shape : readAndDrop records = slots.map .construct ++ readOps 0 records ++ slots.map .destroy := by
    rw [readAndDrop, List.map_map, List.map_map]
    rfl
  have outside : (none : Option Nat) ∉ slots := by simp [slots]
  obtain ⟨first, made⟩ := @construct_all slots start
  have gone : alive (Trace.run step start (slots.map .construct)) none = false := by
    rw [made, decide_eq_false outside]
    rfl
  obtain ⟨same, lost⟩ := @readOps_leaks records 0 _ gone
  obtain ⟨last, dropped⟩ := @destroy_all slots
    (Trace.run step (Trace.run step start (slots.map .construct)) (readOps 0 records))
  have whole : Trace.run step start (readAndDrop records) = Trace.run step
      (Trace.run step (Trace.run step start (slots.map .construct)) (readOps 0 records)) (slots.map .destroy) := by
    rw [shape, Trace.run, List.foldl_append, List.foldl_append]
    rfl
  have none_left : ∀ o, (Trace.run step start (readAndDrop records)).objs o = none := by
    intro o
    have dead : alive (Trace.run step start (readAndDrop records)) o = false := by
      rw [whole, dropped, same, made]
      by_cases member : o ∈ slots <;> simp [alive, start, member]
    exact Option.not_isSome_iff_eq_none.mp (Bool.eq_false_iff.mp dead)
  obtain ⟨leaked, owns, counted⟩ := run_owns (readAndDrop records) start_owns
  rw [Multiset.add_zero] at owns
  refine ⟨owns.clean, ?_⟩
  rw [left_lost owns none_left, counted, shape, lossesOf_append, lossesOf_append, first, lost, Nat.zero_add]
  have rest : Trace.run step start (slots.map .construct ++ readOps 0 records) =
      Trace.run step (Trace.run step start (slots.map .construct)) (readOps 0 records) := List.foldl_append
  rw [rest, last, Nat.add_zero]

end MangOH.Ndef.Records
