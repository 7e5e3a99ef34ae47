import MangOH.CString
import MangOH.ShellWords

/-!
The command that writes a pushed text to the tag. The text is put between double quotes
behind the path of the command, in a buffer that has room for a text without them, and
the shell reads the line.
-/

namespace MangOH.WriteNdef

open CString ShellWords

abbrev Byte := BitVec 8

def ntagSize : Nat := 1913

def command : List Byte := ascii "/legato/systems/current/bin/ntag text "

/-- The rest of an array with an initializer is zero. -/
def cmdBuf : Buffer := command.map some ++ List.replicate ntagSize (some 0)

/-- The line that goes to `system`; nothing where the text is too large. -/
def writeNDEF (textToWrite : Text) : Except Fault (Option (List Byte)) := do
  let length ← strlen textToWrite.buffer
  if ntagSize - 1 < length then .ok none
  else do
    let chars ← text textToWrite.buffer
    let rest ← store ((quote :: chars ++ [quote]).take (ntagSize - 1)) (cmdBuf.drop 38)
    let line ← text (cmdBuf.take 38 ++ rest)
    .ok (some line)

/-- A text up to the limit is the last word of the one command; a longer one runs none. -/
def RunsFixed (textToWrite : Text) : Prop :=
  if textToWrite.chars.length ≤ 1912 then
    ∃ line, writeNDEF textToWrite = .ok (some line) ∧ simpleCommand line =
      some [ascii "/legato/systems/current/bin/ntag", ascii "text", textToWrite.chars]
  else writeNDEF textToWrite = .ok none

theorem command_length : command.length = 38 := by decide

theorem cmdBuf_take : cmdBuf.take 38 = command.map some := by
  rw [cmdBuf, List.take_left']
  rw [List.length_map, command_length]

theorem cmdBuf_drop : cmdBuf.drop 38 = List.replicate ntagSize (some 0) := by
  rw [cmdBuf, List.drop_left']
  rw [List.length_map, command_length]

/-- What does not fit with its quotes is cut off at the end. -/
theorem writeNDEF_line {textToWrite : Text} (short : textToWrite.chars.length ≤ 1912) :
    writeNDEF textToWrite =
      .ok (some (command ++ (quote :: textToWrite.chars ++ [quote]).take 1912)) := by
  have holds := textToWrite.holds
  have clean : 0 ∉ (quote :: textToWrite.chars ++ [quote]).take 1912 := by
    intro zero
    have inside := List.mem_of_mem_take zero
    rcases List.mem_append.mp inside with front | last
    · rcases List.mem_cons.mp front with first | own
      · exact absurd first (by decide)
      · exact textToWrite.clean own
    · exact absurd (List.mem_singleton.mp last) (by decide)
  have cmdClean : 0 ∉ command := by decide
  have room : ((quote :: textToWrite.chars ++ [quote]).take 1912).length < (cmdBuf.drop 38).length := by
    rw [cmdBuf_drop, List.length_replicate, List.length_take]
    unfold ntagSize
    omega
  obtain ⟨rest, stored, ⟨_, behind, rfl⟩, _⟩ := store_holds clean room
  have whole : Holds (command ++ (quote :: textToWrite.chars ++ [quote]).take 1912)
      (cmdBuf.take 38 ++ (((quote :: textToWrite.chars ++ [quote]).take 1912).map some ++
        some 0 :: behind)) := by
    refine ⟨fun zero => (List.mem_append.mp zero).elim cmdClean clean, behind, ?_⟩
    rw [cmdBuf_take, List.map_append, List.append_assoc]
  have accepted : ¬ ntagSize - 1 < textToWrite.chars.length := by
    unfold ntagSize
    omega
  simp only [writeNDEF, bind, Except.bind, strlen_holds holds, if_neg accepted, text_holds holds]
  rw [show ntagSize - 1 = 1912 from rfl, stored]
  simp only [text_holds whole]

theorem path_ordinary : ∀ char ∈ 47 :: ascii "legato/systems/current/bin/ntag", Ordinary char := by
  have codes : (47 :: ascii "legato/systems/current/bin/ntag").map BitVec.toNat =
      [47, 108, 101, 103, 97, 116, 111, 47, 115, 121, 115, 116, 101, 109, 115, 47, 99, 117, 114, 114, 101, 110,
        116, 47, 98, 105, 110, 47, 110, 116, 97, 103] := rfl
  intro char member
  have coded := List.mem_map_of_mem (f := BitVec.toNat) member
  rw [codes] at coded
  apply ordinary_letter
  revert coded
  generalize char.toNat = code
  revert code
  decide

theorem verb_ordinary : ∀ char ∈ 116 :: ascii "ext", Ordinary char := by decide

/-- The shell reads the path and the word before it comes to the quote. -/
theorem command_words (rest : List Byte) :
    simpleCommand (command ++ quote :: rest) = (words (.double []) rest).map
      ([ascii "/legato/systems/current/bin/ntag", ascii "text"] ++ ·) := by
  have parts : command ++ quote :: rest = ascii "/legato/systems/current/bin/ntag" ++
      32 :: (ascii "text" ++ 32 :: quote :: rest) := by
    simp [command, ascii]
  have first : ascii "/legato/systems/current/bin/ntag" =
      47 :: ascii "legato/systems/current/bin/ntag" := by decide
  have second : ascii "text" = 116 :: ascii "ext" := by decide
  have opened : step (.bare none) quote = some ([], .double []) := rfl
  rw [parts, simpleCommand, first, words_word path_ordinary, second, words_word verb_ordinary,
    words_step opened, Option.map_map]
  rfl

theorem line_words (chars : List Byte) :
    simpleCommand (command ++ (quote :: chars ++ [quote]).take 1912) =
        some [ascii "/legato/systems/current/bin/ntag", ascii "text", chars] ↔
      words (.double []) ((chars ++ [quote]).take 1911) = some [chars] := by
  rw [List.cons_append, List.take_succ_cons, command_words]
  constructor
  · intro read
    obtain ⟨others, later, joined⟩ := Option.map_eq_some_iff.mp read
    have same : [ascii "/legato/systems/current/bin/ntag", ascii "text"] ++ others =
        [ascii "/legato/systems/current/bin/ntag", ascii "text"] ++ [chars] := joined
    rw [later, List.append_cancel_left same]
  · intro read
    rw [read]
    rfl

/-- The text is the last word of the one command exactly when there is room for both
quotes and the text stands for itself between them. -/
theorem writeNDEF_fixed_iff (textToWrite : Text) :
    RunsFixed textToWrite ↔ 1912 < textToWrite.chars.length ∨
      textToWrite.chars.length ≤ 1910 ∧ verbatim false textToWrite.chars = true := by
  unfold RunsFixed
  by_cases short : textToWrite.chars.length ≤ 1912
  · have accepted : ¬ 1912 < textToWrite.chars.length := Nat.not_lt.mpr short
    rw [if_pos short, writeNDEF_line short]
    simp only [accepted, false_or]
    constructor
    · rintro ⟨line, sent, read⟩
      obtain rfl := Option.some.inj (Except.ok.inj sent)
      have last := (line_words _).mp read
      -- What is read between the quotes has no room for the second one.
      have bound := word_bound last
      rw [List.length_take] at bound
      simp only [held, debt, List.length_nil] at bound
      have fits : textToWrite.chars.length ≤ 1910 := by omega
      rw [List.take_of_length_le (by rw [List.length_append, List.length_singleton]; omega)] at last
      exact ⟨fits, ((double_iff textToWrite.chars).1 []).mp last⟩
    · rintro ⟨fits, stands⟩
      refine ⟨_, rfl, (line_words _).mpr ?_⟩
      rw [List.take_of_length_le (by rw [List.length_append, List.length_singleton]; omega)]
      exact ((double_iff textToWrite.chars).1 []).mpr stands
  · have refused : ntagSize - 1 < textToWrite.chars.length := by
      unfold ntagSize
      omega
    rw [if_neg short]
    refine ⟨fun _ => .inl (Nat.lt_of_not_le short), fun _ => ?_⟩
    simp only [writeNDEF, bind, Except.bind, strlen_holds textToWrite.holds, if_pos refused]

/-- A text between backquotes is a command to the shell. -/
theorem text_expands : ¬ ∀ textToWrite : Text, RunsFixed textToWrite := by
  intro fixed
  obtain ⟨line, sent, read⟩ := fixed ⟨ascii "`reboot`", by decide⟩
  have short : (ascii "`reboot`").length ≤ 1912 := by decide
  rw [writeNDEF_line short] at sent
  obtain rfl := Option.some.inj (Except.ok.inj sent)
  exact nomatch (line_words _).mp read

end MangOH.WriteNdef
