/-!
Texts that end with a zero byte, in buffers of bounded size. A cell that was never
written is `none`; to read one, or to go past the end of a buffer, is a fault.
-/

namespace MangOH.CString

abbrev Byte := BitVec 8

abbrev Buffer := List (Option Byte)

inductive Fault where
  | uninitialised
  | pastEnd
deriving DecidableEq

/-- The characters of a text. -/
structure Text where
  chars : List Byte
  clean : 0 ∉ chars

/-- The cells of a text that is written down. -/
def Text.buffer (text : Text) : Buffer := text.chars.map some ++ [some 0]

/-- The bytes of a literal of ASCII characters. -/
def ascii (text : String) : List Byte := text.toList.map fun char => BitVec.ofNat 8 char.toNat

/-- The bytes before the zero byte. -/
def text : Buffer → Except Fault (List Byte)
  | [] => .error .pastEnd
  | none :: _ => .error .uninitialised
  | some char :: rest => if char = 0 then .ok [] else (text rest).map (char :: ·)

def strlen (buffer : Buffer) : Except Fault Nat := (text buffer).map List.length

def first : Buffer → Except Fault Byte
  | [] => .error .pastEnd
  | none :: _ => .error .uninitialised
  | some char :: _ => .ok char

/-- Whether `strncmp` finds no difference. -/
def strncmp : Nat → Buffer → Buffer → Except Fault Bool
  | 0, _, _ => .ok true
  | count + 1, left, right => do
      let char ← first left
      let other ← first right
      if char ≠ other then .ok false
      else if char = 0 then .ok true
      else strncmp count left.tail right.tail

attribute [local simp] strncmp

/-- Exactly `count` bytes are written: behind the text they are zero. -/
def strncpy : Nat → Buffer → Buffer → Except Fault Buffer
  | 0, _, dest => .ok dest
  | _ + 1, _, [] => .error .pastEnd
  | count + 1, src, _ :: dest => do
      let char ← first src
      let rest ← strncpy count (if char = 0 then src else src.tail) dest
      pure (some char :: rest)

attribute [local simp] strncpy

/-- A text and the zero byte behind it. -/
def store : List Byte → Buffer → Except Fault Buffer
  | _, [] => .error .pastEnd
  | [], _ :: dest => .ok (some 0 :: dest)
  | char :: rest, _ :: dest => (store rest dest).map (some char :: ·)

/-- At most `count` bytes of a text; the bytes behind them are not read. -/
def textUpTo : Nat → Buffer → Except Fault (List Byte)
  | 0, _ => .ok []
  | count + 1, buffer => do
      let char ← first buffer
      if char = 0 then .ok [] else (textUpTo count buffer.tail).map (char :: ·)

def strncat (count : Nat) (src dest : Buffer) : Except Fault Buffer := do
  let start ← text dest
  let more ← textUpTo count src
  store (start ++ more) dest

/-- A text without zero bytes, the zero byte behind it, and anything behind that. -/
def Holds (chars : List Byte) (buffer : Buffer) : Prop :=
  0 ∉ chars ∧ ∃ behind, buffer = chars.map some ++ some 0 :: behind

variable {chars others : List Byte} {buffer other dest : Buffer} {char : Byte}

theorem Text.holds (text : Text) : Holds text.chars text.buffer := ⟨text.clean, [], rfl⟩

/-- The cases of a text: it is empty, or one character and a text. -/
theorem holds_cases (holds : Holds chars buffer) :
    (chars = [] ∧ ∃ behind, buffer = some 0 :: behind) ∨
      ∃ char chars' buffer', chars = char :: chars' ∧ buffer = some char :: buffer' ∧
        char ≠ 0 ∧ Holds chars' buffer' := by
  obtain ⟨clean, behind, rfl⟩ := holds
  cases chars with
  | nil => exact .inl ⟨rfl, behind, rfl⟩
  | cons char chars =>
      have visible : char ≠ 0 := fun zero => clean (zero ▸ .head _)
      have rest : 0 ∉ chars := fun zero => clean (.tail _ zero)
      exact .inr ⟨char, chars, _, rfl, rfl, visible, rest, behind, rfl⟩

theorem text_holds (holds : Holds chars buffer) : text buffer = .ok chars := by
  induction chars generalizing buffer with
  | nil =>
      obtain ⟨_, behind, rfl⟩ := holds
      rfl
  | cons char chars ih =>
      obtain ⟨clean, behind, rfl⟩ := holds
      have visible : char ≠ 0 := fun zero => clean (zero ▸ .head _)
      have rest : 0 ∉ chars := fun zero => clean (.tail _ zero)
      rw [List.map_cons, List.cons_append, text, if_neg visible, ih ⟨rest, behind, rfl⟩]
      rfl

theorem strlen_holds (holds : Holds chars buffer) : strlen buffer = .ok chars.length := by
  rw [strlen, text_holds holds]
  rfl

/-- Texts are compared in full where the count goes beyond one of them. -/
theorem strncmp_holds {count : Nat} (beyond : chars.length < count) (left : Holds chars buffer)
    (right : Holds others other) : strncmp count buffer other = .ok (decide (chars = others)) := by
  induction count generalizing chars others buffer other with
  | zero => exact absurd beyond (Nat.not_lt_zero _)
  | succ count ih =>
      rcases holds_cases left with ⟨rfl, _, rfl⟩ | ⟨char, chars, _, rfl, rfl, visible, left⟩
      · rcases holds_cases right with ⟨rfl, _, rfl⟩ | ⟨other, others, _, rfl, rfl, seen, _⟩
        · rfl
        · simp only [strncmp, first, bind, Except.bind]
          rw [if_pos seen.symm, decide_eq_false (List.cons_ne_nil _ _).symm]
      · have less : chars.length < count := Nat.lt_of_succ_lt_succ beyond
        rcases holds_cases right with ⟨rfl, _, rfl⟩ | ⟨other, others, _, rfl, rfl, _, right⟩
        · simp only [strncmp, first, bind, Except.bind]
          rw [if_pos visible, decide_eq_false (List.cons_ne_nil _ _)]
        · simp only [strncmp, first, bind, Except.bind, List.tail_cons]
          by_cases same : char = other
          · rw [if_neg (not_not_intro same), if_neg visible, ih less left right]
            simp [same]
          · rw [if_pos same]
            simp [same]

/-- The source is not left behind its zero byte. -/
theorem strncpy_zero (count : Nat) (behind : Buffer) (cell : Option Byte) :
    strncpy (count + 1) (some 0 :: behind) (cell :: dest) =
      (strncpy count (some 0 :: behind) dest).map (some 0 :: ·) := by
  simp only [strncpy, first, bind, Except.bind, if_true]
  cases strncpy count (some 0 :: behind) dest <;> rfl

theorem strncpy_char (count : Nat) (cell : Option Byte) (visible : char ≠ 0) :
    strncpy (count + 1) (some char :: buffer) (cell :: dest) =
      (strncpy count buffer dest).map (some char :: ·) := by
  simp only [strncpy, first, bind, Except.bind, List.tail_cons]
  rw [if_neg visible]
  cases strncpy count buffer dest <;> rfl

/-- A count beyond the destination is a write past its end, whatever the text. -/
theorem strncpy_pastEnd {count : Nat} (small : dest.length < count) (holds : Holds chars buffer) :
    strncpy count buffer dest = .error .pastEnd := by
  induction dest generalizing count chars buffer with
  | nil =>
      cases count with
      | zero => exact absurd small (Nat.not_lt_zero _)
      | succ count => rfl
  | cons cell dest ih =>
      cases count with
      | zero => exact absurd small (Nat.not_lt_zero _)
      | succ count =>
          have less : dest.length < count := Nat.lt_of_succ_lt_succ small
          rcases holds_cases holds with ⟨rfl, _, rfl⟩ | ⟨char, chars, _, rfl, rfl, visible, rest⟩
          · rw [strncpy_zero, ih less holds]
            rfl
          · rw [strncpy_char count cell visible, ih less rest]
            rfl

/-- With room for the count, as much of the text as it says is written. -/
theorem strncpy_take {count : Nat} (room : count ≤ dest.length) (holds : Holds chars buffer) :
    strncpy count buffer dest =
      .ok ((chars.take count).map some ++ List.replicate (count - chars.length) (some 0) ++
        dest.drop count) := by
  induction count generalizing chars buffer dest with
  | zero => simp
  | succ count ih =>
      cases dest with
      | nil => exact absurd room (Nat.not_succ_le_zero _)
      | cons cell dest =>
          have less : count ≤ dest.length := Nat.le_of_succ_le_succ room
          rcases holds_cases holds with ⟨rfl, _, rfl⟩ | ⟨char, chars, _, rfl, rfl, visible, rest⟩
          · rw [strncpy_zero, ih less holds]
            cases count <;> rfl
          · rw [strncpy_char count cell visible, ih less rest, List.length_cons, Nat.succ_sub_succ]
            rfl

/-- A text that fits is written in full and filled up with zero bytes. -/
theorem strncpy_holds {count : Nat} (fits : chars.length ≤ count) (room : count ≤ dest.length)
    (holds : Holds chars buffer) :
    strncpy count buffer dest =
      .ok (chars.map some ++ List.replicate (count - chars.length) (some 0) ++ dest.drop count) := by
  rw [strncpy_take room holds, List.take_of_length_le fits]

/-- A count beyond the destination never succeeds, with whatever source. -/
theorem strncpy_small {count : Nat} (small : dest.length < count) (src result : Buffer) :
    strncpy count src dest ≠ .ok result := by
  induction dest generalizing count src result with
  | nil =>
      cases count with
      | zero => exact absurd small (Nat.not_lt_zero _)
      | succ count => exact fun ok => nomatch ok
  | cons cell dest ih =>
      cases count with
      | zero => exact absurd small (Nat.not_lt_zero _)
      | succ count =>
          have less : dest.length < count := Nat.lt_of_succ_lt_succ small
          simp only [strncpy, bind, Except.bind]
          cases first src with
          | error fault => exact fun ok => nomatch ok
          | ok char =>
              dsimp only
              cases rest : strncpy count (if char = 0 then src else src.tail) dest with
              | error fault => exact fun ok => nomatch ok
              | ok others => exact absurd rest (ih less _ _)

/-- A text with room for its zero byte is stored in front of what the buffer had. -/
theorem store_holds (clean : 0 ∉ chars) (room : chars.length < dest.length) :
    ∃ result, store chars dest = .ok result ∧ Holds chars result ∧ result.length = dest.length := by
  induction chars generalizing dest with
  | nil =>
      cases dest with
      | nil => exact absurd room (Nat.not_lt_zero _)
      | cons cell dest => exact ⟨some 0 :: dest, rfl, ⟨clean, dest, rfl⟩, rfl⟩
  | cons char chars ih =>
      cases dest with
      | nil => exact absurd room (Nat.not_lt_zero _)
      | cons cell dest =>
          obtain ⟨result, stored, ⟨_, behind, rfl⟩, same⟩ :=
            ih (fun zero => clean (.tail _ zero)) (Nat.lt_of_succ_lt_succ room)
          refine ⟨_, by rw [store, stored]; rfl, ⟨clean, behind, rfl⟩, ?_⟩
          rw [List.length_cons, ← same]
          rfl

theorem textUpTo_holds (count : Nat) (holds : Holds chars buffer) :
    textUpTo count buffer = .ok (chars.take count) := by
  induction count generalizing chars buffer with
  | zero => rfl
  | succ count ih =>
      rcases holds_cases holds with ⟨rfl, _, rfl⟩ | ⟨char, chars, _, rfl, rfl, visible, rest⟩
      · rfl
      · simp only [textUpTo, first, bind, Except.bind, List.tail_cons]
        rw [if_neg visible, ih rest]
        rfl

theorem strncat_holds {count : Nat} (src : Holds others other) (start : Holds chars dest)
    (room : chars.length + others.length < dest.length) (all : others.length ≤ count) :
    ∃ result, strncat count other dest = .ok result ∧ Holds (chars ++ others) result ∧
      result.length = dest.length := by
  have clean : 0 ∉ chars ++ others := fun zero =>
    (List.mem_append.mp zero).elim start.1 src.1
  obtain ⟨result, stored, holds, same⟩ := store_holds clean (by rw [List.length_append]; exact room)
  refine ⟨result, ?_, holds, same⟩
  simp only [strncat, bind, Except.bind, text_holds start, textUpTo_holds count src,
    List.take_of_length_le all]
  exact stored

end MangOH.CString
