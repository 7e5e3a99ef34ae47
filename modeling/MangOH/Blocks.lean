import Mathlib.Data.List.GetD

/-!
Data kept in blocks of one size, over blocks that follow one another. A chunk that does
not fill its block leaves the rest of the block as it was.
-/

namespace MangOH.Blocks

universe u
variable {Item : Type u} {size : Nat}

structure Block (Item : Type u) (size : Nat) where
  items : List Item
  full : items.length = size
deriving DecidableEq

abbrev Memory (Item : Type u) (size : Nat) := Nat → Block Item size

def set (memory : Memory Item size) (index : Nat) (block : Block Item size) : Memory Item size :=
  fun key => if key = index then block else memory key

/-- The first items of a block are replaced. -/
def Block.overlay (block : Block Item size) (chunk : List Item) : Block Item size where
  items := chunk.take size ++ block.items.drop chunk.length
  full := by
    rw [List.length_append, List.length_take, List.length_drop, block.full]
    omega

/-- How many blocks a length takes. -/
def count (size length : Nat) : Nat := (length + size - 1) / size

/-- The items of the blocks from `start` on. -/
def contents (memory : Memory Item size) (start : Nat) : Nat → List Item
  | 0 => []
  | blocks + 1 => (memory start).items ++ contents memory (start + 1) blocks

-- Its equations are made here, and not by whichever proof comes to them first.
attribute [local simp] contents

/-- The data is in the blocks from `start` on. -/
def Holds (memory : Memory Item size) (start : Nat) (data : List Item) : Prop :=
  ∀ place < data.length, (memory (start + place / size)).items[place % size]? = data[place]?

@[simp] theorem set_self (memory : Memory Item size) (index : Nat) (block : Block Item size) :
    set memory index block index = block := by simp [set]

theorem set_other (memory : Memory Item size) {index key : Nat} (block : Block Item size)
    (other : key ≠ index) : set memory index block key = memory key := by simp [set, other]

theorem length_contents (memory : Memory Item size) (start blocks : Nat) :
    (contents memory start blocks).length = size * blocks := by
  induction blocks generalizing start with
  | zero => rfl
  | succ blocks ih =>
      rw [contents, List.length_append, ih, (memory start).full, Nat.mul_add_one, Nat.add_comm]

theorem contents_congr {memory other : Memory Item size} {start blocks : Nat}
    (same : ∀ block < blocks, memory (start + block) = other (start + block)) :
    contents memory start blocks = contents other start blocks := by
  induction blocks generalizing start with
  | zero => rfl
  | succ blocks ih =>
      have first : memory start = other start := same 0 (Nat.succ_pos blocks)
      have rest : contents memory (start + 1) blocks = contents other (start + 1) blocks := by
        apply ih
        intro block below
        rw [Nat.add_assoc, Nat.add_comm 1]
        exact same (block + 1) (Nat.succ_lt_succ below)
      rw [contents, contents, first, rest]

theorem overlay_head (block : Block Item size) {chunk : List Item} (fits : chunk.length ≤ size)
    {place : Nat} (inside : place < chunk.length) :
    (block.overlay chunk).items[place]? = chunk[place]? := by
  simp only [Block.overlay, List.take_of_length_le fits, List.getElem?_append_left inside]

theorem holds_nil (memory : Memory Item size) (start : Nat) : Holds memory start [] :=
  fun _ below => absurd below (Nat.not_lt_zero _)

/-- The first block and the others, each with its part of the data. -/
theorem holds_step {memory : Memory Item size} {start : Nat} {data : List Item} (positive : 0 < size)
    (first : ∀ place < size, place < data.length → (memory start).items[place]? = data[place]?)
    (rest : Holds memory (start + 1) (data.drop size)) : Holds memory start data := by
  intro place below
  by_cases here : place < size
  · rw [Nat.div_eq_of_lt here, Nat.mod_eq_of_lt here]
    exact first place here below
  · have further : size ≤ place := Nat.le_of_not_lt here
    have next := rest (place - size) (by rw [List.length_drop]; omega)
    rw [List.getElem?_drop, Nat.add_sub_cancel' further, Nat.mod_eq_sub_mod further] at *
    have block : start + place / size = start + 1 + (place - size) / size := by
      rw [Nat.div_eq_sub_div positive further]
      omega
    rwa [block]

theorem holds_contents (memory : Memory Item size) (start blocks : Nat) (positive : 0 < size) :
    Holds memory start (contents memory start blocks) := by
  induction blocks generalizing start with
  | zero => exact holds_nil memory start
  | succ blocks ih =>
      have whole : (memory start).items.length = size := (memory start).full
      apply holds_step positive
      · intro place here _
        rw [contents, List.getElem?_append_left (by rw [whole]; exact here)]
      · rw [contents, List.drop_left' whole]
        exact ih (start + 1)

theorem Holds.first {memory : Memory Item size} {start : Nat} {data : List Item}
    (holds : Holds memory start data) {place : Nat} (here : place < size) (below : place < data.length) :
    (memory start).items[place]? = data[place]? := by
  have found := holds place below
  rwa [Nat.div_eq_of_lt here, Nat.mod_eq_of_lt here] at found

theorem Holds.rest {memory : Memory Item size} {start : Nat} {data : List Item} (positive : 0 < size)
    (holds : Holds memory start data) : Holds memory (start + 1) (data.drop size) := by
  intro place below
  rw [List.length_drop] at below
  have found := holds (size + place) (by omega)
  rw [Nat.add_div_left place positive, Nat.add_mod_left] at found
  rw [List.getElem?_drop, ← found, Nat.add_assoc, Nat.add_comm 1]

theorem Holds.take {memory : Memory Item size} {start : Nat} {data : List Item}
    (holds : Holds memory start data) (length : Nat) : Holds memory start (data.take length) := by
  intro place below
  rw [List.length_take] at below
  rw [List.getElem?_take_of_lt (by omega)]
  exact holds place (by omega)

theorem Holds.congr {memory other : Memory Item size} {start : Nat} {data : List Item}
    (holds : Holds memory start data)
    (same : ∀ key, start ≤ key → other key = memory key) : Holds other start data := by
  intro place below
  rw [same _ (Nat.le_add_right start _)]
  exact holds place below

/-- What is read back of it, however many of the blocks are read. -/
theorem Holds.take_contents {memory : Memory Item size} {blocks : Nat} (positive : 0 < size) :
    ∀ {start : Nat} {data : List Item}, Holds memory start data → data.length ≤ size * blocks →
      (contents memory start blocks).take data.length = data := by
  induction blocks with
  | zero =>
      intro start data _ short
      have empty : data = [] := List.length_eq_zero_iff.mp (by simpa using short)
      rw [empty, List.length_nil, List.take_zero]
  | succ blocks ih =>
      intro start data holds short
      have later := ih (holds.rest positive) (by rw [List.length_drop]; rw [Nat.mul_add_one] at short; omega)
      have whole : ∀ place : Nat, ((contents memory start (blocks + 1)).take data.length)[place]? =
          data[place]? := by
        intro place
        by_cases below : place < data.length
        · rw [List.getElem?_take_of_lt below, contents]
          by_cases here : place < size
          · rw [List.getElem?_append_left (by rw [(memory start).full]; exact here)]
            exact holds.first here below
          · have further : size ≤ place := Nat.le_of_not_lt here
            have found := congrArg (·[place - size]?) later
            simp only [List.length_drop, List.getElem?_drop, Nat.add_sub_cancel' further] at found
            rw [List.getElem?_append_right (by rw [(memory start).full]; exact further),
              (memory start).full, ← found, List.getElem?_take_of_lt (by omega)]
        · have short' : data.length ≤ place := Nat.le_of_not_lt below
          rw [List.getElem?_eq_none short', List.getElem?_eq_none]
          rw [List.length_take]
          omega
      exact List.ext_getElem? whole

end MangOH.Blocks
