/-!
JSON texts as bytes. A value is a tree; `Written` says which texts are texts of it, with
any spaces and escapes. Bytes from 128 on stand for themselves in a string, whatever
characters they make.
-/

namespace MangOH.JsonText

abbrev Byte := BitVec 8

mutual
/-- An atom is a number, `true`, `false` or `null`, as it is written. -/
inductive Value where
  | string (chars : List Byte)
  | atom (chars : List Byte)
  | array (items : Items)
  | object (members : Members)

inductive Items where
  | nil
  | cons (item : Value) (rest : Items)

inductive Members where
  | nil
  | cons (name : List Byte) (value : Value) (rest : Members)
end

/-- The first member of a name. -/
def Members.find (name : List Byte) : Members → Option Value
  | .nil => none
  | .cons other value rest => if other = name then some value else rest.find name

def quote : Byte := 34
def backslash : Byte := 92
def comma : Byte := 44
def colon : Byte := 58

def Spaces (bytes : List Byte) : Prop := ∀ byte ∈ bytes, byte ∈ [9#8, 10#8, 13#8, 32#8]

/-- A text with spaces around it. -/
def Padded (written : List Byte → Prop) (bytes : List Byte) : Prop :=
  ∃ before middle after, Spaces before ∧ written middle ∧ Spaces after ∧
    bytes = before ++ middle ++ after

/-- A byte that a string has without an escape. -/
def Plain (char : Byte) : Prop := 32 ≤ char.toNat ∧ char ≠ quote ∧ char ≠ backslash

instance (char : Byte) : Decidable (Plain char) := inferInstanceAs (Decidable (_ ∧ _ ∧ _))

/-- The escapes of two characters. -/
def escape (char : Byte) : Option Byte :=
  [(34#8, 34#8), (92#8, 92#8), (47#8, 47#8), (98#8, 8#8), (102#8, 12#8), (110#8, 10#8),
    (114#8, 13#8), (116#8, 9#8)].lookup char

def hexDigit (char : Byte) : Bool :=
  (48 ≤ char.toNat ∧ char.toNat ≤ 57) ∨ (65 ≤ char.toNat ∧ char.toNat ≤ 70) ∨
    (97 ≤ char.toNat ∧ char.toNat ≤ 102)

/-- The body of a string; an escape of four digits may stand for any bytes. -/
inductive Spells : List Byte → List Byte → Prop where
  | nil : Spells [] []
  | plain {char : Byte} {chars bytes : List Byte} : Plain char → Spells chars bytes →
      Spells (char :: chars) (char :: bytes)
  | escaped {char code : Byte} {chars bytes : List Byte} : escape code = some char →
      Spells chars bytes → Spells (char :: chars) (backslash :: code :: bytes)
  | unicode {digits some_chars chars bytes : List Byte} : digits.length = 4 →
      digits.all hexDigit = true → Spells chars bytes →
      Spells (some_chars ++ chars) (backslash :: 117 :: digits ++ bytes)

def digits (bytes : List Byte) : Bool :=
  bytes ≠ [] ∧ bytes.all fun char => 48 ≤ char.toNat ∧ char.toNat ≤ 57

/-- A number: no leading zero, a fraction and an exponent if there is one. -/
def Number (bytes : List Byte) : Prop :=
  ∃ sign whole fraction exponent, bytes = sign ++ whole ++ fraction ++ exponent ∧
    (sign = [] ∨ sign = [45]) ∧ digits whole = true ∧ (whole.head? = some 48 → whole = [48]) ∧
    (fraction = [] ∨ ∃ places, digits places = true ∧ fraction = 46 :: places) ∧
    (exponent = [] ∨ ∃ mark sign power, mark ∈ [69#8, 101#8] ∧ sign ∈ [[], [43#8], [45#8]] ∧
      digits power = true ∧ exponent = mark :: sign ++ power)

def literals : List (List Byte) :=
  [[116, 114, 117, 101], [102, 97, 108, 115, 101], [110, 117, 108, 108]]

def Quoted (chars bytes : List Byte) : Prop :=
  ∃ body, Spells chars body ∧ bytes = quote :: body ++ [quote]

mutual
def Value.Written : Value → List Byte → Prop
  | .string chars, bytes => Quoted chars bytes
  | .atom chars, bytes => (Number chars ∨ chars ∈ literals) ∧ bytes = chars
  | .array items, bytes => ∃ body, items.Written body ∧ bytes = 91 :: body ++ [93]
  | .object members, bytes => ∃ body, members.Written body ∧ bytes = 123 :: body ++ [125]

def Items.Written : Items → List Byte → Prop
  | .nil, bytes => Spaces bytes
  | .cons item .nil, bytes => Padded item.Written bytes
  | .cons item rest, bytes =>
      ∃ first others, Padded item.Written first ∧ rest.Written others ∧
        bytes = first ++ comma :: others

def Members.Written : Members → List Byte → Prop
  | .nil, bytes => Spaces bytes
  | .cons name value .nil, bytes => ∃ key text, Padded (Quoted name) key ∧
      Padded value.Written text ∧ bytes = key ++ colon :: text
  | .cons name value rest, bytes => ∃ key text others, Padded (Quoted name) key ∧
      Padded value.Written text ∧ rest.Written others ∧
        bytes = key ++ colon :: text ++ comma :: others
end

/-! Texts without spaces and escapes. -/

theorem spells_plain {chars : List Byte} (plain : ∀ char ∈ chars, Plain char) : Spells chars chars := by
  induction chars with
  | nil => exact .nil
  | cons char chars ih =>
      exact .plain (plain char (.head _)) (ih fun other member => plain other (.tail _ member))

theorem quoted_plain {chars : List Byte} (plain : ∀ char ∈ chars, Plain char) :
    Quoted chars (quote :: chars ++ [quote]) :=
  ⟨chars, spells_plain plain, rfl⟩

theorem spaces_nil : Spaces [] := fun _ member => absurd member List.not_mem_nil

theorem padded_self {written : List Byte → Prop} {bytes : List Byte} (here : written bytes) :
    Padded written bytes :=
  ⟨[], bytes, [], spaces_nil, here, spaces_nil, by simp⟩

theorem padded_before {written : List Byte → Prop} {before bytes : List Byte} (spaces : Spaces before)
    (here : written bytes) : Padded written (before ++ bytes) :=
  ⟨before, bytes, [], spaces, here, spaces_nil, by simp⟩

end MangOH.JsonText
