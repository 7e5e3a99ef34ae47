import Mathlib.Tactic.SplitIfs

/-!
The words of a shell line that is one simple command of literal words. A character that
would start another command, a redirection, a comment or an expansion ends the reading
without a result; so does a quote that is not closed. Inside double quotes `$` and the
backquote do that, and a backslash escapes these two, itself, the quote and a newline.
-/

namespace MangOH.ShellWords

abbrev Byte := BitVec 8

def quote : Byte := 34
def apostrophe : Byte := 39
def backslash : Byte := 92
def newline : Byte := 10
def dollar : Byte := 36
def backquote : Byte := 96

def blanks : List Byte := [32, 9]

/-- The characters with a meaning outside of quotes, always or in some places. -/
def special : List Byte :=
  [newline, dollar, backquote, 124, 38, 59, 60, 62, 40, 41, 42, 63, 91, 35, 126, 61, 37, 33, 123, 125]

/-- What a backslash escapes inside double quotes, but for the newline that it removes. -/
def escapable : List Byte := [quote, backslash, dollar, backquote]

/-- Where the reading is, with the word so far; outside of quotes there may be none. -/
inductive Mode where
  | bare (word : Option (List Byte))
  | bareEscape (word : Option (List Byte))
  | single (word : List Byte)
  | double (word : List Byte)
  | doubleEscape (word : List Byte)

def grow (word : Option (List Byte)) (char : Byte) : Mode := .bare (some (word.getD [] ++ [char]))

/-- The words that a character ends, and where it leads. -/
def step : Mode → Byte → Option (List (List Byte) × Mode)
  | .bare word, char =>
      if char ∈ blanks then some (word.toList, .bare none)
      else if char = quote then some ([], .double (word.getD []))
      else if char = apostrophe then some ([], .single (word.getD []))
      else if char = backslash then some ([], .bareEscape word)
      else if char ∈ special then none
      else some ([], grow word char)
  | .bareEscape word, char =>
      if char = newline then some ([], .bare word) else some ([], grow word char)
  | .single word, char =>
      if char = apostrophe then some ([], .bare (some word)) else some ([], .single (word ++ [char]))
  | .double word, char =>
      if char = quote then some ([], .bare (some word))
      else if char = backslash then some ([], .doubleEscape word)
      else if char = dollar ∨ char = backquote then none
      else some ([], .double (word ++ [char]))
  | .doubleEscape word, char =>
      if char ∈ escapable then some ([], .double (word ++ [char]))
      else if char = newline then some ([], .double word)
      else some ([], .double (word ++ [backslash, char]))

attribute [local simp] step

def words : Mode → List Byte → Option (List (List Byte))
  | .bare word, [] => some word.toList
  | _, [] => none
  | mode, char :: rest => (step mode char).bind fun next => (words next.2 rest).map (next.1 ++ ·)

attribute [local simp] words

/-- The words of a line. -/
def simpleCommand (line : List Byte) : Option (List (List Byte)) := words (.bare none) line

/-! Reading on. -/

theorem words_step {mode next : Mode} {char : Byte} (stepped : step mode char = some ([], next))
    (rest : List Byte) : words mode (char :: rest) = words next rest := by
  rw [words, stepped]
  simp

theorem words_stuck {mode : Mode} {char : Byte} (stuck : step mode char = none) (rest : List Byte) :
    words mode (char :: rest) = none := by
  rw [words, stuck]
  rfl

/-- What a result with one word comes from: the character ends no word, or it ends this
one and no other follows. -/
theorem words_single {mode : Mode} {char : Byte} {rest : List Byte} {word : List Byte}
    (read : words mode (char :: rest) = some [word]) :
    (∃ next, step mode char = some ([], next) ∧ words next rest = some [word]) ∨
      ∃ next, step mode char = some ([word], next) ∧ words next rest = some [] := by
  rw [words] at read
  obtain ⟨⟨finished, next⟩, stepped, others⟩ := Option.bind_eq_some_iff.mp read
  obtain ⟨more, later, joined⟩ := Option.map_eq_some_iff.mp others
  rcases List.append_eq_singleton_iff.mp joined with ⟨rfl, rfl⟩ | ⟨rfl, rfl⟩
  · exact .inl ⟨next, stepped, later⟩
  · exact .inr ⟨next, stepped, later⟩

theorem words_nothing {mode : Mode} {char : Byte} {rest : List Byte}
    (read : words mode (char :: rest) = some []) :
    ∃ next, step mode char = some ([], next) ∧ words next rest = some [] := by
  rw [words] at read
  obtain ⟨⟨finished, next⟩, stepped, others⟩ := Option.bind_eq_some_iff.mp read
  obtain ⟨more, later, joined⟩ := Option.map_eq_some_iff.mp others
  obtain ⟨rfl, rfl⟩ := List.append_eq_nil_iff.mp joined
  exact ⟨next, stepped, later⟩

def Ordinary (char : Byte) : Prop :=
  char ∉ blanks ∧ char ∉ special ∧ char ∉ [quote, apostrophe, backslash]

instance (char : Byte) : Decidable (Ordinary char) := inferInstanceAs (Decidable (_ ∧ _ ∧ _))

/-- A small letter or a slash has no meaning of its own. -/
theorem ordinary_letter {char : Byte} (letter : char.toNat = 47 ∨ 97 ≤ char.toNat ∧ char.toNat ≤ 122) :
    Ordinary char := by
  have codes : (blanks ++ special ++ [quote, apostrophe, backslash]).map BitVec.toNat =
      [32, 9, 10, 36, 96, 124, 38, 59, 60, 62, 40, 41, 42, 63, 91, 35, 126, 61, 37, 33, 123, 125, 34, 39, 92] := rfl
  have apart : char ∉ blanks ++ special ++ [quote, apostrophe, backslash] := by
    intro member
    have coded : char.toNat ∈ (blanks ++ special ++ [quote, apostrophe, backslash]).map BitVec.toNat :=
      List.mem_map_of_mem member
    rw [codes] at coded
    simp only [List.mem_cons, List.not_mem_nil, or_false] at coded
    omega
  rw [List.mem_append, List.mem_append, not_or, not_or] at apart
  exact ⟨apart.1.1, apart.1.2, apart.2⟩

theorem step_ordinary {char : Byte} (ordinary : Ordinary char) (word : Option (List Byte)) :
    step (.bare word) char = some ([], grow word char) := by
  obtain ⟨blank, meant, quoting⟩ := ordinary
  simp only [List.mem_cons, List.not_mem_nil, or_false, not_or] at quoting
  simp only [step, blank, meant, quoting, if_false]

theorem words_ordinary {chars : List Byte} (ordinary : ∀ char ∈ chars, Ordinary char) (word : List Byte)
    (rest : List Byte) :
    words (.bare (some word)) (chars ++ rest) = words (.bare (some (word ++ chars))) rest := by
  induction chars generalizing word with
  | nil => simp
  | cons char chars ih =>
      rw [List.cons_append, words_step (step_ordinary (ordinary char (.head _)) _)]
      change words (.bare (some (word ++ [char]))) _ = _
      rw [ih (fun other member => ordinary other (.tail _ member))]
      simp

/-- A word of ordinary characters and the blank behind it. -/
theorem words_word {char : Byte} {chars : List Byte} (ordinary : ∀ other ∈ char :: chars, Ordinary other)
    (rest : List Byte) :
    words (.bare none) (char :: chars ++ 32 :: rest) =
      (words (.bare none) rest).map ((char :: chars) :: ·) := by
  rw [List.cons_append, words_step (step_ordinary (ordinary char (.head _)) _)]
  change words (.bare (some [char])) _ = _
  rw [words_ordinary (fun other member => ordinary other (.tail _ member)), words]
  rfl

/-! How long a word can be. -/

def held : Mode → Nat
  | .bare word | .bareEscape word => (word.getD []).length
  | .single word | .double word | .doubleEscape word => word.length

/-- The characters still to come that no word keeps: the end of the quotes, which an
escape in them may make up for. -/
def debt : Mode → Nat
  | .bare _ | .bareEscape _ | .doubleEscape _ => 0
  | .single _ | .double _ => 1

theorem step_held {mode next : Mode} {char : Byte} (stepped : step mode char = some ([], next)) :
    held next + debt mode ≤ held mode + debt next + 1 := by
  cases mode <;> simp only [step] at stepped <;> split_ifs at stepped
  all_goals obtain ⟨ended, rfl⟩ := Prod.mk.inj (Option.some.inj stepped)
  · -- A blank that ends no word was behind none.
    rw [Option.toList_eq_nil_iff.mp ended]
    exact Nat.zero_le _
  all_goals
    simp only [held, debt, grow, Option.getD_some, List.length_append, List.length_cons, List.length_nil]
    omega

/-- A character that ends a word was behind it. -/
theorem step_ends {mode next : Mode} {char : Byte} {word : List Byte}
    (stepped : step mode char = some ([word], next)) : held mode = word.length ∧ debt mode = 0 := by
  cases mode <;> simp only [step] at stepped <;> split_ifs at stepped
  all_goals obtain ⟨ended, rfl⟩ := Prod.mk.inj (Option.some.inj stepped)
  · rw [Option.toList_eq_singleton_iff.mp ended]
    exact ⟨rfl, rfl⟩
  all_goals exact nomatch ended

/-- A line read as one word has no fewer characters than it. -/
theorem word_bound {mode : Mode} {line word : List Byte} (read : words mode line = some [word]) :
    word.length + debt mode ≤ held mode + line.length := by
  induction line generalizing mode with
  | nil =>
      cases mode with
      | bare current =>
          have only : current.toList = [word] := Option.some.inj read
          rw [Option.toList_eq_singleton_iff.mp only]
          exact Nat.le_refl _
      | _ => exact nomatch read
  | cons char rest ih =>
      rw [List.length_cons]
      rcases words_single read with ⟨next, stepped, later⟩ | ⟨next, stepped, _⟩
      · have bound := ih later
        have one := step_held stepped
        omega
      · obtain ⟨own, none_owed⟩ := step_ends stepped
        omega

/-- A word has begun. -/
def Mode.Begun : Mode → Prop
  | .bare word | .bareEscape word => word ≠ none
  | _ => True

theorem step_begun {mode next : Mode} {char : Byte} (begun : mode.Begun)
    (stepped : step mode char = some ([], next)) : next.Begun := by
  cases mode <;> simp only [step] at stepped <;> split_ifs at stepped
  all_goals obtain ⟨ended, rfl⟩ := Prod.mk.inj (Option.some.inj stepped)
  · exact absurd (Option.toList_eq_nil_iff.mp ended) begun
  all_goals first | trivial | exact begun | exact Option.some_ne_none _

theorem begun_word {mode : Mode} (begun : mode.Begun) (line : List Byte) :
    words mode line ≠ some [] := by
  induction line generalizing mode with
  | nil =>
      cases mode with
      | bare word =>
          intro read
          exact begun (Option.toList_eq_nil_iff.mp (Option.some.inj read))
      | _ => exact fun read => nomatch read
  | cons char rest ih =>
      intro read
      obtain ⟨next, stepped, later⟩ := words_nothing read
      exact ih (step_begun begun stepped) later

/-- A quote at the end opens a string or is the character of a word. -/
theorem quote_word (line : List Byte) :
    words (.bare none) (line ++ [quote]) ≠ some [] ∧ words (.bareEscape none) (line ++ [quote]) ≠ some [] := by
  induction line with
  | nil => exact ⟨fun read => (nomatch read), fun read => (nomatch read)⟩
  | cons char rest ih =>
      refine ⟨fun read => ?_, fun read => ?_⟩
      all_goals
        obtain ⟨next, stepped, later⟩ := words_nothing read
        simp only [step] at stepped
        split_ifs at stepped
        all_goals obtain ⟨_, rfl⟩ := Prod.mk.inj (Option.some.inj stepped)
      · exact ih.1 later
      · exact begun_word (by trivial) _ later
      · exact begun_word (by trivial) _ later
      · exact ih.2 later
      · exact begun_word (by exact Option.some_ne_none _) _ later
      · exact ih.1 later
      · exact begun_word (by exact Option.some_ne_none _) _ later

/-- A quote at the end of the line is not in a word that began outside of quotes. -/
theorem bare_quote_bound {word : Option (List Byte)} {line found : List Byte}
    (read : words (.bare word) (line ++ [quote]) = some [found]) :
    found.length ≤ (word.getD []).length + line.length := by
  induction line generalizing word with
  | nil =>
      rcases words_single read with ⟨next, stepped, later⟩ | ⟨next, stepped, _⟩
      · obtain ⟨_, rfl⟩ := Prod.mk.inj (Option.some.inj stepped)
        exact nomatch later
      · exact nomatch (Prod.mk.inj (Option.some.inj stepped)).1
  | cons char rest ih =>
      rw [List.cons_append] at read
      rcases words_single read with ⟨next, stepped, later⟩ | ⟨next, stepped, later⟩
      · have length : (rest ++ [quote]).length = rest.length + 1 := List.length_append
        have bound := word_bound later
        simp only [step] at stepped
        split_ifs at stepped
        all_goals obtain ⟨ended, rfl⟩ := Prod.mk.inj (Option.some.inj stepped)
        -- A blank before the word, the two quotes, a backslash, and a character of the word.
        · have shorter := ih later
          rw [List.length_cons]
          simp only [Option.getD_none, List.length_nil] at shorter
          omega
        · simp only [held, debt, List.length_cons] at bound ⊢
          omega
        · simp only [held, debt, List.length_cons] at bound ⊢
          omega
        · simp only [held, debt, List.length_cons] at bound ⊢
          omega
        · have shorter := ih later
          rw [Option.getD_some, List.length_append, List.length_singleton] at shorter
          rw [List.length_cons]
          omega
      · -- A blank ended the word, and there is another one.
        simp only [step] at stepped
        split_ifs at stepped
        all_goals obtain ⟨ended, rfl⟩ := Prod.mk.inj (Option.some.inj stepped)
        · exact absurd later (quote_word rest).1
        all_goals exact nomatch ended

/-! Text between double quotes. -/

/-- The text stands for itself: nothing in it ends the quotes or expands, and a backslash
escapes nothing. The flag is for a backslash before it. -/
def verbatim : Bool → List Byte → Bool
  | false, [] => true
  | true, [] => false
  | false, char :: rest =>
      if char = backslash then verbatim true rest
      else char ∉ [quote, dollar, backquote] && verbatim false rest
  | true, char :: rest => char ∉ newline :: escapable && verbatim false rest

attribute [local simp] verbatim

/-- A character inside double quotes, in front of a text that is known. -/
theorem double_cons_iff {char : Byte} {rest : List Byte}
    (kept : ∀ word, words (.double word) (rest ++ [quote]) = some [word ++ rest] ↔
      verbatim false rest = true)
    (escaped : ∀ word, words (.doubleEscape word) (rest ++ [quote]) =
      some [word ++ backslash :: rest] ↔ verbatim true rest = true) (word : List Byte) :
    words (.double word) (char :: rest ++ [quote]) = some [word ++ char :: rest] ↔
      verbatim false (char :: rest) = true := by
  have length : (rest ++ [quote]).length = rest.length + 1 := List.length_append
  rw [List.cons_append]
  by_cases close : char = quote
  · subst close
    -- The word would be too short by the quote.
    have stepped : step (.double word) quote = some ([], .bare (some word)) := rfl
    refine ⟨fun read => ?_, fun stands => absurd stands (by simp [quote, backslash])⟩
    rw [words_step stepped] at read
    have bound := bare_quote_bound read
    rw [Option.getD_some, List.length_append, List.length_cons] at bound
    omega
  by_cases escape : char = backslash
  · subst escape
    have stepped : step (.double word) backslash = some ([], .doubleEscape word) := rfl
    rw [words_step stepped, escaped word, verbatim, if_pos rfl]
  by_cases expand : char = dollar ∨ char = backquote
  · have stuck : step (.double word) char = none := by
      simp only [step, close, escape, expand, if_false, if_true]
    rw [words_stuck stuck]
    refine ⟨fun read => (nomatch read), fun stands => ?_⟩
    rcases expand with rfl | rfl <;> simp [escape] at stands
  · have stepped : step (.double word) char = some ([], .double (word ++ [char])) := by
      simp only [step, close, escape, expand, if_false]
    have joined : word ++ char :: rest = word ++ [char] ++ rest := List.append_cons word char rest
    rw [words_step stepped, joined, kept]
    have ordinary : char ∉ [quote, dollar, backquote] := by
      simp only [List.mem_cons, List.not_mem_nil, or_false, not_or]
      exact ⟨close, not_or.mp expand⟩
    simp [escape, ordinary]

/-- The character behind a backslash: where that one is read away, the word is too short. -/
theorem doubleEscape_cons_iff {char : Byte} {rest : List Byte}
    (kept : ∀ word, words (.double word) (rest ++ [quote]) = some [word ++ rest] ↔
      verbatim false rest = true) (word : List Byte) :
    words (.doubleEscape word) (char :: rest ++ [quote]) = some [word ++ backslash :: char :: rest] ↔
      verbatim true (char :: rest) = true := by
  have length : (rest ++ [quote]).length = rest.length + 1 := List.length_append
  rw [List.cons_append]
  by_cases escaped : char ∈ escapable
  · have stepped : step (.doubleEscape word) char = some ([], .double (word ++ [char])) := by
      simp only [step, escaped, if_true]
    refine ⟨fun read => ?_, fun stands => absurd stands (by simp [escaped])⟩
    rw [words_step stepped] at read
    have bound := word_bound read
    simp only [held, debt, List.length_append, List.length_cons, List.length_nil] at bound
    omega
  by_cases removed : char = newline
  · have stepped : step (.doubleEscape word) char = some ([], .double word) := by
      subst removed
      rfl
    refine ⟨fun read => ?_, fun stands => absurd stands (by simp [removed])⟩
    rw [words_step stepped] at read
    have bound := word_bound read
    simp only [held, debt, List.length_append, List.length_cons, List.length_nil] at bound
    omega
  · have stepped : step (.doubleEscape word) char =
        some ([], .double (word ++ [backslash, char])) := by
      simp only [step, escaped, removed, if_false]
    have joined : word ++ backslash :: char :: rest = word ++ [backslash, char] ++ rest := by simp
    rw [words_step stepped, joined, kept]
    simp [escaped, removed]

/-- Between quotes a text is read as itself exactly when it stands for itself; with the
flag, a backslash before it is still to be seen to. -/
theorem double_iff (text : List Byte) :
    (∀ word, words (.double word) (text ++ [quote]) = some [word ++ text] ↔
      verbatim false text = true) ∧
    ∀ word, words (.doubleEscape word) (text ++ [quote]) = some [word ++ backslash :: text] ↔
      verbatim true text = true := by
  induction text with
  | nil =>
      refine ⟨fun word => ?_, fun word => ?_⟩
      · simp
      · exact ⟨fun read => (nomatch read), fun read => (nomatch read)⟩
  | cons char rest ih => exact ⟨double_cons_iff ih.1 ih.2, doubleEscape_cons_iff ih.1⟩

end MangOH.ShellWords
