/-!
Texts in buffers of a fixed size that are filled up with a padding value. They are changed
at their end, one cell at a time.
-/

namespace MangOH.PaddedText

universe u
variable {Cell : Type u} [DecidableEq Cell] (pad : Cell)

/-- The cells before the first padding. -/
def contents (buffer : List Cell) : List Cell := buffer.takeWhile (· ≠ pad)

/-- How many they are. -/
def filled (buffer : List Cell) : Nat := (contents pad buffer).length

def cleared (size : Nat) : List Cell := List.replicate size pad

/-- The text, and padding up to the size, of which there is at least one cell. -/
structure Holds (size : Nat) (text buffer : List Cell) : Prop where
  clean : pad ∉ text
  fits : text.length < size
  laid : buffer = text ++ List.replicate (size - text.length) pad

variable {pad} {size : Nat} {text other buffer : List Cell} {cell : Cell}

omit [DecidableEq Cell] in
theorem holds_cleared (positive : 0 < size) : Holds pad size [] (cleared pad size) :=
  ⟨List.not_mem_nil, positive, by simp [cleared]⟩

theorem contents_holds (holds : Holds pad size text buffer) : contents pad buffer = text := by
  have visible : ∀ cell ∈ text, decide (cell ≠ pad) = true := by
    intro cell member
    have differs : cell ≠ pad := fun same => holds.clean (same ▸ member)
    exact decide_eq_true differs
  rw [contents, holds.laid, List.takeWhile_append_of_pos visible]
  simp

theorem filled_holds (holds : Holds pad size text buffer) : filled pad buffer = text.length := by
  rw [filled, contents_holds holds]

/-- A buffer holds one text. -/
theorem holds_unique (holds : Holds pad size text buffer) (also : Holds pad size other buffer) :
    text = other := by
  rw [← contents_holds holds, contents_holds also]

omit [DecidableEq Cell] in
/-- The first padding is overwritten; one more is behind it. -/
theorem holds_append (holds : Holds pad size text buffer) (visible : cell ≠ pad)
    (room : text.length + 1 < size) : Holds pad size (text ++ [cell]) (buffer.set text.length cell) := by
  refine ⟨?_, by simpa using room, ?_⟩
  · intro member
    rcases List.mem_append.mp member with old | new
    · exact holds.clean old
    · exact visible (List.mem_singleton.mp new).symm
  · have more : size - text.length = (size - (text.length + 1)) + 1 := by omega
    rw [holds.laid, more, List.replicate_succ]
    simp

omit [DecidableEq Cell] in
/-- The last cell of the text is overwritten by padding. -/
theorem holds_dropLast (holds : Holds pad size text buffer) (filled : text ≠ []) :
    Holds pad size text.dropLast (buffer.set (text.length - 1) pad) := by
  rcases List.eq_nil_or_concat text with rfl | ⟨front, last, rfl⟩
  · exact absurd rfl filled
  · rw [List.concat_eq_append] at holds ⊢
    have fits := holds.fits
    rw [List.length_append, List.length_singleton] at fits
    have more : size - front.length = (size - (front ++ [last]).length) + 1 := by
      rw [List.length_append, List.length_singleton]
      omega
    rw [List.dropLast_concat]
    refine ⟨fun member => holds.clean (List.mem_append_left _ member), by omega, ?_⟩
    rw [holds.laid, more, List.replicate_succ]
    simp

end MangOH.PaddedText
