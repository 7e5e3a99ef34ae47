import Mathlib.Data.Multiset.Filter
import Mathlib.Data.Multiset.AddSub

/-!
Items kept in buckets by a key. Where the buckets hold a collection of keyed items, one
that is put in or taken out is so in the collection, and what is gathered from some of the
buckets is what those keys have of it; the order inside a bucket does not count.
-/

namespace MangOH.Buckets

universe u v

variable {Key : Type u} {Item : Type v} [DecidableEq Key]

abbrev Table (Key : Type u) (Item : Type v) := Key → List Item

def insert (key : Key) (item : Item) (table : Table Key Item) : Table Key Item :=
  fun other => if other = key then item :: table other else table other

def remove [DecidableEq Item] (key : Key) (item : Item) (table : Table Key Item) : Table Key Item :=
  fun other => if other = key then (table other).erase item else table other

/-- What some of the buckets have that is wanted of them, one bucket behind the other. -/
def gather (wanted : Key → Item → Bool) (keys : List Key) (table : Table Key Item) : List Item :=
  keys.flatMap fun key => (table key).filter (wanted key)

/-- Each bucket holds the items of its key. -/
def Holds (table : Table Key Item) (items : Multiset (Key × Item)) : Prop :=
  ∀ key, (table key : Multiset Item) = (items.filter (·.1 = key)).map Prod.snd

variable {table : Table Key Item} {items : Multiset (Key × Item)} {key : Key} {item : Item}

theorem holds_empty : Holds (fun _ => [] : Table Key Item) 0 := fun _ => rfl

theorem mem_iff (holds : Holds table items) : item ∈ table key ↔ (key, item) ∈ items := by
  rw [← Multiset.mem_coe, holds key, Multiset.mem_map]
  constructor
  · rintro ⟨⟨other, found⟩, member, rfl⟩
    obtain ⟨member, same⟩ := Multiset.mem_filter.mp member
    exact same ▸ member
  · intro member
    exact ⟨(key, item), Multiset.mem_filter.mpr ⟨member, rfl⟩, rfl⟩

theorem holds_insert (holds : Holds table items) :
    Holds (insert key item table) ((key, item) ::ₘ items) := by
  intro other
  rw [insert]
  by_cases same : other = key
  · have here : ((key, item) : Key × Item).1 = other := same.symm
    rw [if_pos same, Multiset.filter_cons_of_pos items here, Multiset.map_cons, ← holds other,
      Multiset.cons_coe]
  · have elsewhere : ¬ ((key, item) : Key × Item).1 = other := fun here => same here.symm
    rw [if_neg same, Multiset.filter_cons_of_neg items elsewhere, holds other]

/-- An item that is not there is not missed. -/
theorem holds_remove [DecidableEq Item] (holds : Holds table items) :
    Holds (remove key item table) (items.erase (key, item)) := by
  by_cases present : (key, item) ∈ items
  · obtain ⟨rest, rfl⟩ := Multiset.exists_cons_of_mem present
    intro other
    have before := holds other
    rw [Multiset.erase_cons_head, remove]
    by_cases same : other = key
    · have here : ((key, item) : Key × Item).1 = other := same.symm
      rw [Multiset.filter_cons_of_pos rest here, Multiset.map_cons] at before
      rw [if_pos same, ← Multiset.coe_erase, before, Multiset.erase_cons_head]
    · have elsewhere : ¬ ((key, item) : Key × Item).1 = other := fun here => same here.symm
      rw [Multiset.filter_cons_of_neg rest elsewhere] at before
      rw [if_neg same, before]
  · have absent : item ∉ table key := fun member => present ((mem_iff holds).mp member)
    rw [Multiset.erase_of_notMem present]
    intro other
    rw [remove]
    split
    · rename_i same
      rw [same, List.erase_of_not_mem absent]
      exact holds key
    · exact holds other

/-- A table as another was before the items were put in, each in front of its bucket. -/
def Before (table : Table Key Item) (items : Multiset (Key × Item)) (after : Table Key Item) : Prop :=
  ∃ front : Table Key Item, Holds front items ∧ ∀ key, after key = front key ++ table key

section Before

variable {after : Table Key Item} {old : Multiset (Key × Item)}

theorem before_refl (table : Table Key Item) : Before table 0 table :=
  ⟨fun _ => [], holds_empty, fun _ => rfl⟩

theorem before_insert (before : Before table items after) :
    Before table ((key, item) ::ₘ items) (insert key item after) := by
  obtain ⟨front, holds, ahead⟩ := before
  refine ⟨insert key item front, holds_insert holds, fun other => ?_⟩
  rw [insert, insert]
  split
  · rw [ahead other, List.cons_append]
  · exact ahead other

/-- What goes is in front, wherever else it may be. -/
theorem before_remove [DecidableEq Item] (before : Before table ((key, item) ::ₘ items) after) :
    Before table items (remove key item after) := by
  obtain ⟨front, holds, ahead⟩ := before
  have present : item ∈ front key := (mem_iff holds).mpr (Multiset.mem_cons_self _ items)
  have fewer := @holds_remove _ _ _ _ _ key item _ holds
  rw [Multiset.erase_cons_head] at fewer
  refine ⟨remove key item front, fewer, fun other => ?_⟩
  rw [remove, remove]
  split
  · rename_i same
    rw [ahead other, same, List.erase_append_left _ present]
  · exact ahead other

/-- What is gone again has left nothing. -/
theorem before_zero (before : Before table 0 after) : after = table := by
  obtain ⟨front, holds, ahead⟩ := before
  funext key
  have none : front key = [] := Multiset.coe_eq_zero _ |>.mp (holds key)
  rw [ahead key, none, List.nil_append]

theorem before_holds (before : Before table items after) (holds : Holds table old) :
    Holds after (items + old) := by
  obtain ⟨front, first, ahead⟩ := before
  intro key
  rw [ahead key, ← Multiset.coe_add, first key, holds key, Multiset.filter_add, Multiset.map_add]

end Before

/-- What is gathered is what the keys have that is wanted. -/
theorem gather_exact (wanted : Key → Item → Bool) {keys : List Key} (distinct : keys.Nodup)
    (holds : Holds table items) :
    (gather wanted keys table : Multiset Item) =
      (items.filter fun entry => entry.1 ∈ keys ∧ wanted entry.1 entry.2 = true).map Prod.snd := by
  induction keys with
  | nil => simp [gather]
  | cons key keys ih =>
      obtain ⟨new, distinct⟩ := List.nodup_cons.mp distinct
      have first : ((table key).filter (wanted key) : Multiset Item) =
          (items.filter fun entry => entry.1 = key ∧ wanted entry.1 entry.2 = true).map Prod.snd := by
        have selected : ((table key).filter (wanted key) : Multiset Item) =
            (table key : Multiset Item).filter fun item => wanted key item = true := by
          simp [Multiset.filter_coe]
        rw [selected, holds key, Multiset.filter_map, Multiset.filter_filter]
        congr 1
        refine Multiset.filter_congr fun entry _ => ?_
        constructor
        · rintro ⟨chosen, rfl⟩
          exact ⟨rfl, chosen⟩
        · rintro ⟨rfl, chosen⟩
          exact ⟨chosen, rfl⟩
      have rest := ih distinct
      rw [gather] at rest
      have none : items.filter (fun entry => (entry.1 = key ∧ wanted entry.1 entry.2 = true) ∧
          entry.1 ∈ keys ∧ wanted entry.1 entry.2 = true) = 0 := by
        refine Multiset.filter_eq_nil.mpr fun entry _ both => new ?_
        exact both.1.1 ▸ both.2.1
      rw [gather, List.flatMap_cons, ← Multiset.coe_add, first, rest, ← Multiset.map_add,
        Multiset.filter_add_filter, none, Multiset.add_zero]
      congr 1
      refine Multiset.filter_congr fun entry _ => ?_
      rw [List.mem_cons, or_and_right]

end MangOH.Buckets
