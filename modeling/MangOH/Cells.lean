import MangOH.CString

/-!
Reading and writing at a place of a buffer: one cell, or a run of cells from there on.
Reading goes through just when the items stand there, writing just when there is room.
-/

namespace MangOH.Cells

open CString (Fault)

variable {Item : Type}

/-- The items stand in the buffer from a place on. -/
def At (data : List (Option Item)) (index : Nat) (items : List Item) : Prop :=
  items.map some <+: data.drop index

def cellAt (data : List (Option Item)) (index : Nat) : Except Fault Item :=
  match data[index]? with
  | none => .error .pastEnd
  | some none => .error .uninitialised
  | some (some item) => .ok item

def copy (data : List (Option Item)) : Nat → Nat → Except Fault (List Item)
  | _, 0 => .ok []
  | index, count + 1 => do
      let item ← cellAt data index
      let rest ← copy data (index + 1) count
      .ok (item :: rest)

def patch (data : List (Option Item)) (index : Nat) (items : List Item) :
    Except Fault (List (Option Item)) :=
  if index + items.length ≤ data.length then
    .ok (data.take index ++ items.map some ++ data.drop (index + items.length))
  else .error .pastEnd

variable {data : List (Option Item)} {index : Nat} {items first second : List Item} {item : Item}

theorem bind_ok {α β : Type} {before : Except Fault α} {next : α → Except Fault β} {result : β} :
    (before >>= next) = .ok result ↔ ∃ value, before = .ok value ∧ next value = .ok result := by
  cases before with
  | error fault =>
      constructor
      · intro same
        cases same
      · rintro ⟨_, same, _⟩
        cases same
  | ok value =>
      constructor
      · intro same
        exact ⟨value, rfl, same⟩
      · rintro ⟨_, same, rest⟩
        cases same
        exact rest

/-! Where items stand. -/

theorem at_nil : At data index [] := List.nil_prefix

theorem at_append : At data index (first ++ second) ↔
    At data index first ∧ At data (index + first.length) second := by
  constructor
  · rintro ⟨rest, whole⟩
    rw [List.map_append, List.append_assoc] at whole
    refine ⟨⟨_, whole⟩, rest, ?_⟩
    rw [← List.drop_drop, ← whole, ← List.length_map some, List.drop_left]
  · rintro ⟨⟨rest, whole⟩, ⟨behind, tail⟩⟩
    refine ⟨behind, ?_⟩
    rw [← List.drop_drop, ← whole, ← List.length_map some, List.drop_left] at tail
    rw [← whole, List.map_append, List.append_assoc, tail]

theorem at_cons : At data index (item :: items) ↔
    At data index [item] ∧ At data (index + 1) items := by
  rw [← List.singleton_append, at_append, List.length_singleton]

/-- A run of items is where it was put. -/
theorem at_put {front behind : List (Option Item)} (starts : front.length = index) :
    At (front ++ (items.map some ++ behind)) index items := by
  refine ⟨behind, ?_⟩
  rw [← starts, List.drop_left]

theorem at_length (stands : At data index items) (some_items : items ≠ []) :
    index + items.length ≤ data.length := by
  have bound := stands.length_le
  rw [List.length_map, List.length_drop] at bound
  have positive := List.length_pos_iff.mpr some_items
  omega

/-- Of two runs from the same place the shorter one is the front of the longer one. -/
theorem at_take (one : At data index first) (two : At data index second)
    (shorter : first.length ≤ second.length) : first <+: second := by
  have front := List.prefix_of_prefix_length_le one two (by simpa using shorter)
  exact (List.prefix_map_iff_of_injective (fun _ _ same => Option.some.inj same)).mp front

theorem at_same (one : At data index first) (two : At data index second)
    (lengths : first.length = second.length) : first = second :=
  (at_take one two (Nat.le_of_eq lengths)).eq_of_length lengths

/-- What ends in front of a place stands in the front of the buffer. -/
theorem at_front {count : Nat} (stands : At data index items) (inside : index + items.length ≤ count) :
    At (data.take count) index items := by
  rw [At, List.drop_take]
  refine (List.prefix_take_iff).mpr ⟨stands, ?_⟩
  rw [List.length_map]
  omega

/-! Reading and writing. -/

theorem cellAt_iff : cellAt data index = .ok item ↔ At data index [item] := by
  rw [cellAt, At, List.map_singleton, List.singleton_prefix_iff_head?_eq_some, List.head?_drop]
  cases stored : data[index]? with
  | none => simp
  | some cell =>
      cases cell with
      | none => simp
      | some stored => simp

theorem copy_iff {count : Nat} :
    copy data index count = .ok items ↔ At data index items ∧ items.length = count := by
  induction count generalizing index items with
  | zero =>
      rw [copy, List.length_eq_zero_iff, Except.ok.injEq]
      constructor
      · rintro rfl
        exact ⟨at_nil, rfl⟩
      · exact fun none => none.2.symm
  | succ count ih =>
      rw [copy, bind_ok]
      simp only [bind_ok, cellAt_iff, ih, Except.ok.injEq]
      constructor
      · rintro ⟨item, here, rest, ⟨behind, length⟩, rfl⟩
        exact ⟨at_cons.mpr ⟨here, behind⟩, congrArg (· + 1) length⟩
      · rintro ⟨stands, length⟩
        cases items with
        | nil => cases length
        | cons item items =>
            obtain ⟨here, behind⟩ := at_cons.mp stands
            exact ⟨item, here, items, ⟨behind, Nat.succ.inj length⟩, rfl⟩

theorem patch_length {after : List (Option Item)} (done : patch data index items = .ok after) :
    after.length = data.length := by
  rw [patch] at done
  split at done
  · cases done
    rename_i room
    simp only [List.length_append, List.length_take, List.length_map, List.length_drop]
    omega
  · cases done

theorem patch_nil (inside : index ≤ data.length) : patch data index [] = .ok data := by
  rw [patch, List.length_nil, Nat.add_zero, if_pos inside, List.map_nil, List.append_nil,
    List.take_append_drop]

/-- Writing one run behind the other is writing the two at once. -/
theorem patch_patch :
    (patch data index first >>= fun after => patch after (index + first.length) second) =
      patch data index (first ++ second) := by
  by_cases room : index + first.length ≤ data.length
  · have front : (data.take index ++ first.map some).length = index + first.length := by
      rw [List.length_append, List.length_take, List.length_map]
      omega
    have total : (data.take index ++ first.map some ++ data.drop (index + first.length)).length =
        data.length := by
      rw [List.length_append, front, List.length_drop]
      omega
    have places : index + first.length + second.length = index + (first ++ second).length := by
      rw [List.length_append, Nat.add_assoc]
    simp only [patch, if_pos room, bind, Except.bind, total, places]
    split
    · rw [List.take_left' front, ← places, ← List.drop_drop, List.drop_left' front, List.drop_drop,
        List.map_append]
      simp only [List.append_assoc]
    · rfl
  · have none : ¬ index + (first ++ second).length ≤ data.length := by
      rw [List.length_append]
      omega
    rw [patch, if_neg room, patch, if_neg none]
    rfl

theorem patch_iff {after : List (Option Item)} : patch data index items = .ok after ↔
    index + items.length ≤ data.length ∧
      after = data.take index ++ items.map some ++ data.drop (index + items.length) := by
  rw [patch]
  split
  · rename_i room
    rw [Except.ok.injEq]
    exact ⟨fun same => ⟨room, same.symm⟩, fun both => both.2.symm⟩
  · rename_i none
    exact ⟨fun same => (by cases same), fun both => absurd both.1 none⟩

theorem patch_stands {after : List (Option Item)} (done : patch data index items = .ok after) :
    At after index items := by
  obtain ⟨room, rfl⟩ := patch_iff.mp done
  rw [List.append_assoc]
  refine at_put ?_
  rw [List.length_take]
  omega

/-- What stands in front of a write. -/
theorem patch_before {after : List (Option Item)} (done : patch data index items = .ok after) {place : Nat}
    (stands : At data place first) (before : place + first.length ≤ index) : At after place first := by
  obtain ⟨room, rfl⟩ := patch_iff.mp done
  have front := at_front stands before
  rw [List.append_assoc, At, List.drop_append_of_le_length]
  · exact front.trans (List.prefix_append _ _)
  · rw [List.length_take]
    omega

end MangOH.Cells
