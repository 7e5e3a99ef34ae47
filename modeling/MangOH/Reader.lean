/-!
Programs that consume a stream through a fallible `read`. A program sees the
return code and the items of each read and goes on from there; what it reads
from is a parameter, so one program runs on a device and on a plain list.
-/

namespace MangOH

universe u v w

inductive Reader (Item : Type u) (α : Type v) where
  | done (value : α)
  | read (num : Nat) (next : Int → List Item → Reader Item α)

namespace Reader

variable {Item : Type u} {α : Type v} {Source Other : Type w}

/-- The source left behind, all items read, and the result. -/
def run (fetch : Source → Nat → Source × Int × List Item) :
    Reader Item α → Source → Source × List Item × α
  | .done value, source => (source, [], value)
  | .read num next, source =>
      let served := fetch source num
      let rest := run fetch (next served.2.1 served.2.2) served.1
      (rest.1, served.2.2 ++ rest.2.1, rest.2.2)

/-- A list hands out what it has, like a queue that never blocks. -/
def fetchList (source : List Item) (num : Nat) : List Item × Int × List Item :=
  (source.drop num, ((source.take num).length : Int), source.take num)

/-- How many items a program takes out of a list. -/
def consumed (program : Reader Item α) (source : List Item) : Nat :=
  (program.run fetchList source).2.1.length

theorem consumed_done (value : α) (source : List Item) :
    (done value : Reader Item α).consumed source = 0 := rfl

theorem consumed_read (num : Nat) (next : Int → List Item → Reader Item α) (source : List Item) :
    (read num next).consumed source = (source.take num).length +
      (next ((source.take num).length : Int) (source.take num)).consumed (source.drop num) := by
  simp only [consumed, run, fetchList, List.length_append]

/-- The program reads exactly `total` items when every read is served whole. -/
def Takes : Reader Item α → Nat → Prop
  | .done _, total => total = 0
  | .read num next, total =>
      num ≤ total ∧ ∀ items, items.length = num → Takes (next (num : Int) items) (total - num)

/-- How many items each read of a run is served. -/
def served (fetch : Source → Nat → Source × Int × List Item) :
    Reader Item α → Source → List Nat
  | .done _, _ => []
  | .read num next, source =>
      let answer := fetch source num
      answer.2.2.length :: served fetch (next answer.2.1 answer.2.2) answer.1

/-- Whatever the reads are served, there are no more of them than capacities
and none asks for more than its own. -/
def Within : Reader Item α → List Nat → Prop
  | .done _, _ => True
  | .read _ _, [] => False
  | .read num next, capacity :: rest => num ≤ capacity ∧ ∀ ret items, Within (next ret items) rest

theorem within_done {value : α} {capacities : List Nat} :
    (done value : Reader Item α).Within capacities := trivial

theorem not_within_nil {num : Nat} {next : Int → List Item → Reader Item α} :
    ¬(read num next).Within [] := id

theorem within_read {num capacity : Nat} {next : Int → List Item → Reader Item α} {rest : List Nat} :
    (read num next).Within (capacity :: rest) ↔
      num ≤ capacity ∧ ∀ ret items, (next ret items).Within rest := Iff.rfl

-- A program that starts with a test would be evaluated to find its first read.
attribute [irreducible] Within

/-- Two sources that answer reads alike and stay related run a program alike. -/
theorem run_related {fetch : Source → Nat → Source × Int × List Item}
    {other : Other → Nat → Other × Int × List Item} (related : Source → Other → Prop)
    (agree : ∀ {left right}, related left right → ∀ num,
      related (fetch left num).1 (other right num).1 ∧ (fetch left num).2 = (other right num).2)
    (program : Reader Item α) {left : Source} {right : Other} (start : related left right) :
    related (program.run fetch left).1 (program.run other right).1 ∧
      (program.run fetch left).2 = (program.run other right).2 := by
  induction program generalizing left right with
  | done value => exact ⟨start, rfl⟩
  | read num next ih =>
      obtain ⟨kept, same⟩ := agree start num
      obtain ⟨last, equal⟩ := ih (fetch left num).2.1 (fetch left num).2.2 kept
      rw [same] at last equal
      simp only [run, same]
      exact ⟨last, by rw [equal]⟩

/-- A source that serves what it holds gives a program the items it takes. -/
theorem run_takes {fetch : Source → Nat → Source × Int × List Item}
    (holds : Source → List Item → Prop)
    (serves : ∀ {source items rest}, holds source (items ++ rest) →
      (fetch source items.length).2 = ((items.length : Int), items) ∧
        holds (fetch source items.length).1 rest)
    (program : Reader Item α) {items rest : List Item} {source : Source}
    (takes : program.Takes items.length) (held : holds source (items ++ rest)) :
    ∃ after value, program.run fetch source = (after, items, value) ∧ holds after rest := by
  induction program generalizing items source with
  | done value =>
      have none : items = [] := List.length_eq_zero_iff.mp takes
      subst none
      exact ⟨source, value, rfl, held⟩
  | read num next ih =>
      obtain ⟨fits, onward⟩ := takes
      have first : (items.take num).length = num := List.length_take_of_le fits
      have front : holds source (items.take num ++ (items.drop num ++ rest)) := by
        rw [← List.append_assoc, List.take_append_drop]
        exact held
      obtain ⟨served, kept⟩ := serves front
      rw [first] at served kept
      have later : (next (num : Int) (items.take num)).Takes (items.drop num).length := by
        rw [List.length_drop]
        exact onward _ first
      obtain ⟨after, value, ran, last⟩ := ih _ _ later kept
      apply Exists.intro after
      apply Exists.intro value
      constructor
      · simp only [run, served, ran, List.take_append_drop]
      · exact last

/-- What no read makes larger no program makes larger. -/
theorem run_le {fetch : Source → Nat → Source × Int × List Item} (measure : Source → Nat)
    (shrinks : ∀ source num, measure (fetch source num).1 ≤ measure source)
    (program : Reader Item α) {source : Source} :
    measure (program.run fetch source).1 ≤ measure source := by
  induction program generalizing source with
  | done value => exact Nat.le_refl _
  | read num next ih => exact Nat.le_trans (ih _ _) (shrinks source num)

/-- Reads that ask within their capacities are served within them, in order. -/
theorem served_within {fetch : Source → Nat → Source × Int × List Item}
    (bounded : ∀ source num, (fetch source num).2.2.length ≤ num) {program : Reader Item α}
    {capacities : List Nat} (within : program.Within capacities) {source : Source}
    {index count : Nat} (served : (program.served fetch source)[index]? = some count) :
    ∃ capacity, capacities[index]? = some capacity ∧ count ≤ capacity := by
  induction program generalizing capacities source index with
  | done value => simp [Reader.served] at served
  | read num next ih =>
      cases capacities with
      | nil => exact absurd within not_within_nil
      | cons capacity rest =>
          obtain ⟨fits, onward⟩ := within_read.mp within
          cases index with
          | zero =>
              have first : (fetch source num).2.2.length = count := Option.some.inj served
              exact ⟨capacity, rfl, by rw [← first]; exact Nat.le_trans (bounded source num) fits⟩
          | succ index => exact ih _ _ (onward _ _) served

end Reader

end MangOH
