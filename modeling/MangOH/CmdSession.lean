import MangOH.CmdScreens
import MangOH.Trace
import Mathlib.Tactic.ByContra

/-!
What text entry, menus and the ESC key are to do, against a list editor that is told which
bytes a key press sends, and what the input handler makes of one byte.
-/

namespace MangOH.CmdLine

open Trace PaddedText

/-- What an observer of the input knows: the text of the active entry, whether the last byte
came just now from a key that began with ESC, and how long ago an ESC came that no byte has
followed. -/
structure Watch where
  text : List Byte
  key : Bool
  since : Option Nat
deriving DecidableEq

structure Session where
  state : State
  watch : Watch

section Specification

variable (terminal : Terminal) (strtod : List Byte → Number)

/-- A further byte of a key that began with ESC; another ESC begins another key. -/
def Watch.inKey (watch : Watch) (further : Bool) (input : Byte) : Bool :=
  further && watch.key && decide (input ≠ escapeChar)

/-- The list editor. -/
def edit (text : List Byte) (input : Byte) : List Byte :=
  if input = terminal.endOfFileChar then text
  else if input = terminal.eraseChar then text.dropLast
  else if isprint input ∧ text.length < textEntryBufferSize - 1 then text ++ [input]
  else text

/-- The screen is to be left when this time goes by. -/
def Watch.Expires (watch : Watch) (ms : Nat) : Prop := ∃ past ∈ watch.since, msInterval ≤ past + ms

def Watch.next (mode : InputMode) (watch : Watch) : Event → Watch
  | .input further (.byte input) =>
      let escape := decide (input = escapeChar ∧ input ≠ terminal.endOfFileChar)
      { text :=
          if mode ≠ .textEntry then []
          else if watch.inKey further input then watch.text
          else edit terminal watch.text input
        key := watch.inKey further input || escape
        since := if escape then some 0 else none }
  | .wait ms =>
      { watch with
        key := watch.key && decide (ms = 0)
        since := (watch.since.map (· + ms)).filter (· < msInterval) }
  | _ => watch

def Session.step (session : Session) (event : Event) : Session :=
  { state := CmdLine.step terminal strtod session.state event
    watch :=
      if session.state.exited then session.watch
      else session.watch.next terminal session.state.inputProcessingMode event }

def Session.initial (instantGrat : Bool) : Session := ⟨CmdLine.initial instantGrat, ⟨[], false, none⟩⟩

/-- The entry with the number that the byte is the digit of. -/
def numbered (menu : List MenuEntry) (input : Byte) : Option MenuEntry :=
  if 49 ≤ input ∧ input ≤ 57 then menu[input.toNat - 49]? else none

/-- What a byte that is a key press of its own is to call. -/
def Session.calledBy (session : Session) (input : Byte) : List Call :=
  if input = terminal.endOfFileChar then []
  else
    match session.state.inputProcessingMode with
    | .menu => (numbered session.state.menu input).toList.map .select
    | .textEntry =>
        if input ≠ terminal.eraseChar ∧ (input = 10 ∨ input = 13) then
          session.state.currentScreen.handler.toList.map (.submit · session.watch.text)
        else []
    | .passwordEntry => []

/-- The calls are those of the key presses, and of the ESC key alone. -/
def Session.Calls (session : Session) (event : Event) (calls : List Call) : Prop :=
  match event with
  | .input further (.byte input) =>
      calls = if session.watch.inKey further input then [] else session.calledBy terminal input
  | .wait ms =>
      (session.watch.Expires ms ∧ calls = [.leave session.state.currentScreen]) ∨
        (¬ session.watch.Expires ms ∧ calls = [])
  | _ => calls = []

def Left (before after : State) : Prop :=
  after.exited = true ∨ after.currentScreen ≠ before.currentScreen

/-- What a key that sends an escape sequence leaves. -/
structure Untouched (before after : State) : Prop where
  text : after.textEntryBuffer = before.textEntryBuffer
  menu : after.menu = before.menu
  mode : after.inputProcessingMode = before.inputProcessingMode
  screen : ¬ Left before after

structure Meets (session : Session) (event : Event) (after : Session) : Prop where
  text : after.state.inputProcessingMode = .textEntry →
    Holds 0 textEntryBufferSize after.watch.text after.state.textEntryBuffer
  calls : ∃ calls, after.state.calls = session.state.calls ++ calls ∧
    session.Calls terminal event calls
  left : ∀ ms, event = .wait ms → (Left session.state after.state ↔ session.watch.Expires ms)
  key : ∀ further input, event = .input further (.byte input) →
    session.watch.inKey further input = true → Untouched session.state after.state

/-- What is asked of a run, step by step, until the process ends. -/
def Good (session : Session) (event : Event) : Prop :=
  session.state.exited = false → Meets terminal session event (session.step terminal strtod event)

/-- The input handler acts on such a byte. -/
def Session.Acts (session : Session) (input : Byte) : Prop :=
  input = terminal.endOfFileChar ∨
    match session.state.inputProcessingMode with
    | .menu =>
        input = 113 ∨ input = 81 ∨ (numbered session.state.menu input).isSome = true ∨
          ((input = ctrlR ∨ 49 ≤ input ∧ input ≤ 57) ∧
            drawn session.state.currentScreen session.state ≠ session.state.menu)
    | .textEntry =>
        input ≠ ctrlR ∧
          if input = terminal.eraseChar then session.watch.text ≠ []
          else input = 10 ∨ input = 13 ∨
            (isprint input = true ∧ session.watch.text.length < textEntryBufferSize - 1)
    | .passwordEntry => True

/-- The terminal's erase character is one that the input handler has another use for, and there
is something to erase. -/
def Session.Blocked (session : Session) (input : Byte) : Prop :=
  session.state.inputProcessingMode = .textEntry ∧ input = terminal.eraseChar ∧
    input ≠ terminal.endOfFileChar ∧ (input = escapeChar ∨ input = ctrlR) ∧ session.watch.text ≠ []

/-- No key sends a byte after its ESC that the input handler acts on, and no blocked erase is
typed. -/
def Safe (session : Session) : Event → Prop
  | .input further (.byte input) =>
      session.state.exited = false →
        if session.watch.inKey further input then ¬ session.Acts terminal input
        else ¬ session.Blocked terminal input
  | _ => True

end Specification

variable {terminal : Terminal} {strtod : List Byte → Number} {state : State} {session : Session}
  {input : Byte}

theorem within_iff {low high : Byte} :
    low ≤ input ∧ input ≤ high ↔ low.toNat ≤ input.toNat ∧ input.toNat ≤ high.toNat :=
  and_congr BitVec.le_def BitVec.le_def

/-- The highest valid option, as a number. -/
theorem highest_toNat (fits : state.menu.length ≤ maxMenuOptions) :
    (48 + BitVec.ofNat 8 state.menu.length : Byte).toNat = 48 + state.menu.length := by
  have small : state.menu.length ≤ 9 := fits
  have zero : (48 : Byte).toNat = 48 := rfl
  rw [BitVec.toNat_add, BitVec.toNat_ofNat, zero]
  omega

theorem numbered_some {menu : List MenuEntry} {entry : MenuEntry}
    (found : numbered menu input = some entry) :
    (49 ≤ input ∧ input ≤ 57) ∧ menu[input.toNat - 49]? = some entry := by
  by_cases digit : 49 ≤ input ∧ input ≤ 57
  · rw [numbered, if_pos digit] at found
    exact ⟨digit, found⟩
  · rw [numbered, if_neg digit] at found
    exact absurd found nofun

/-- The digits up to the highest valid option are those of the entries. -/
theorem numbered_isSome_iff (fits : state.menu.length ≤ maxMenuOptions) :
    (numbered state.menu input).isSome = true ↔
      49 ≤ input ∧ input ≤ 48 + BitVec.ofNat 8 state.menu.length := by
  have small : state.menu.length ≤ 9 := fits
  have one : (49 : Byte).toNat = 49 := rfl
  have nine : (57 : Byte).toNat = 57 := rfl
  have digits := @within_iff input 49 57
  rw [within_iff, highest_toNat fits, one]
  rw [one, nine] at digits
  by_cases digit : 49 ≤ input ∧ input ≤ 57
  · have range := digits.mp digit
    rw [numbered, if_pos digit, isSome_getElem?]
    omega
  · have range := mt digits.mpr digit
    rw [numbered, if_neg digit]
    simp only [Option.isSome_none, Bool.false_eq_true, false_iff]
    omega

theorem handleMenuInput_entry {entry : MenuEntry} (fits : state.menu.length ≤ maxMenuOptions)
    (found : numbered state.menu input = some entry) :
    handleMenuInput input state =
      select entry (call (.select entry) (clearErrorMsg state)) := by
  have valid := (numbered_isSome_iff fits).mp (Option.isSome_iff_exists.mpr ⟨entry, found⟩)
  have letters : ¬ (input = 113 ∨ input = 81) := by
    rintro (rfl | rfl) <;> exact absurd found nofun
  have index : (input - 49).toNat = input.toNat - 49 := by
    rw [BitVec.toNat_sub_of_le valid.1]
    rfl
  simp only [handleMenuInput]
  rw [if_neg letters, if_pos valid, index, (numbered_some found).2]

/-- A digit that no entry has is refused. -/
theorem handleMenuInput_none (fits : state.menu.length ≤ maxMenuOptions)
    (missing : numbered state.menu input = none) :
    handleMenuInput input state =
      if input = 113 ∨ input = 81 then exit state
      else if 49 ≤ input ∧ input ≤ 57 then
        refresh (setErrorMsg "Invalid selection. Please choose again." state)
      else state := by
  have invalid : ¬ (49 ≤ input ∧ input ≤ 48 + BitVec.ofNat 8 state.menu.length) := by
    rw [← numbered_isSome_iff fits, missing]
    exact nofun
  have same : 48 + BitVec.ofNat 8 state.menu.length < input ∧ input ≤ 57 ↔ 49 ≤ input ∧ input ≤ 57 := by
    have one : (49 : Byte).toNat = 49 := rfl
    rw [within_iff, highest_toNat fits, one] at invalid
    rw [within_iff, BitVec.lt_def, BitVec.le_def, highest_toNat fits, one]
    omega
  simp only [handleMenuInput]
  rw [if_neg invalid]
  simp only [same]

/-- The timer runs while an ESC waits for a byte, and what it has left is the rest of the
interval. -/
structure Timed (timer since : Option Nat) : Prop where
  left : timer = since.map (msInterval - ·)
  recent : ∀ past ∈ since, past < msInterval

theorem timed_none : Timed none none := ⟨rfl, nofun⟩

theorem timed_start : Timed (some msInterval) (some 0) := by
  refine ⟨rfl, fun past since => ?_⟩
  cases since
  decide

structure Session.Inv (session : Session) : Prop where
  ready : Ready session.state
  text : session.state.inputProcessingMode = .textEntry →
    Holds 0 textEntryBufferSize session.watch.text session.state.textEntryBuffer
  timed : Timed session.state.escapeTimer session.watch.since

/-- What the input handler makes of a byte. -/
inductive Handled (terminal : Terminal) (strtod : List Byte → Number) (session : Session)
    (input : Byte) : State → Prop where
  | quit (ends : input = terminal.endOfFileChar ∨
        session.state.inputProcessingMode = .menu ∧ (input = 113 ∨ input = 81)) :
      Handled terminal strtod session input (exit (timerStop session.state))
  | escape (more : input ≠ terminal.endOfFileChar) (is : input = escapeChar) :
      Handled terminal strtod session input (timerStart (timerStop session.state))
  | redraw (msg : String) (more : input ≠ terminal.endOfFileChar) (free : input ≠ escapeChar)
      (mode : session.state.inputProcessingMode = .menu) (missing : numbered session.state.menu input = none)
      (asks : input = ctrlR ∨ 49 ≤ input ∧ input ≤ 57) :
      Handled terminal strtod session input
        (refresh { timerStop session.state with errorMsg := msg })
  | select (entry : MenuEntry) (more : input ≠ terminal.endOfFileChar) (free : input ≠ escapeChar)
      (mode : session.state.inputProcessingMode = .menu)
      (found : numbered session.state.menu input = some entry) :
      Handled terminal strtod session input
        (select entry (call (.select entry) (clearErrorMsg (timerStop session.state))))
  | erase (more : input ≠ terminal.endOfFileChar) (free : input ≠ escapeChar ∧ input ≠ ctrlR)
      (mode : session.state.inputProcessingMode = .textEntry) (is : input = terminal.eraseChar)
      (some : session.watch.text ≠ []) :
      Handled terminal strtod session input
        { timerStop session.state with
          textEntryBuffer := session.state.textEntryBuffer.set (session.watch.text.length - 1) 0 }
  | submit (handler : TextEntryHandler) (more : input ≠ terminal.endOfFileChar) (free : input ≠ escapeChar)
      (mode : session.state.inputProcessingMode = .textEntry)
      (kind : session.state.currentScreen.handler = some handler)
      (is : input ≠ terminal.eraseChar ∧ (input = 10 ∨ input = 13)) :
      Handled terminal strtod session input
        (submit strtod handler session.watch.text
          (call (.submit handler session.watch.text) (clearErrorMsg (timerStop session.state))))
  | append (more : input ≠ terminal.endOfFileChar) (free : input ≠ escapeChar)
      (mode : session.state.inputProcessingMode = .textEntry) (differs : input ≠ terminal.eraseChar)
      (visible : isprint input = true)
      (room : session.watch.text.length < textEntryBufferSize - 1) :
      Handled terminal strtod session input
        { timerStop session.state with
          textEntryBuffer := session.state.textEntryBuffer.set session.watch.text.length input }
  | ignored (free : input ≠ escapeChar) (idle : ¬ session.Acts terminal input) :
      Handled terminal strtod session input (timerStop session.state)

theorem Ready.timerStop (ready : Ready state) : Ready (timerStop state) := ⟨ready.fits, ready.menu, ready.entry⟩

theorem Session.Inv.entry (inv : session.Inv) (mode : session.state.inputProcessingMode = .textEntry) :
    ∃ handler, session.state.currentScreen.handler = some handler ∧
      session.state.textEntryHandlerFunc = some handler := by
  rcases inv.ready.cases with ⟨menu, _⟩ | ⟨handler, _, func, kind⟩
  · exact absurd (menu.symm.trans mode) nofun
  · exact ⟨handler, kind, func⟩

theorem handled_menu (inv : session.Inv) (mode : session.state.inputProcessingMode = .menu)
    (more : input ≠ terminal.endOfFileChar) (free : input ≠ escapeChar ∧ input ≠ ctrlR) :
    Handled terminal strtod session input (handleMenuInput input (timerStop session.state)) := by
  have fits : (timerStop session.state).menu.length ≤ maxMenuOptions := inv.ready.fits
  cases found : numbered session.state.menu input with
  | some entry =>
      rw [handleMenuInput_entry fits found]
      exact .select entry more free.1 mode found
  | none =>
      rw [handleMenuInput_none fits found]
      by_cases letter : input = 113 ∨ input = 81
      · rw [if_pos letter]
        exact .quit (.inr ⟨mode, letter⟩)
      rw [if_neg letter]
      by_cases digit : 49 ≤ input ∧ input ≤ 57
      · rw [if_pos digit]
        exact .redraw _ more free.1 mode found (.inr digit)
      · rw [if_neg digit]
        refine .ignored free.1 ?_
        simp only [Session.Acts, mode, found]
        rintro (same | small | capital | some | ⟨ctrl | digits, _⟩)
        · exact more same
        · exact letter (.inl small)
        · exact letter (.inr capital)
        · exact absurd some nofun
        · exact free.2 ctrl
        · exact digit digits

theorem handled_text (inv : session.Inv) (mode : session.state.inputProcessingMode = .textEntry)
    (more : input ≠ terminal.endOfFileChar) (free : input ≠ escapeChar ∧ input ≠ ctrlR) :
    Handled terminal strtod session input (handleTextInput terminal strtod input (timerStop session.state)) := by
  obtain ⟨handler, kind, func⟩ := inv.entry mode
  have holds := inv.text mode
  have count : filled 0 (timerStop session.state).textEntryBuffer = session.watch.text.length :=
    filled_holds holds
  have content : contents 0 (timerStop session.state).textEntryBuffer = session.watch.text :=
    contents_holds holds
  have handles : (timerStop session.state).textEntryHandlerFunc = some handler := func
  have redrawn (buffer : List Byte) : refresh { timerStop session.state with textEntryBuffer := buffer } =
      { timerStop session.state with textEntryBuffer := buffer } := refresh_entry kind
  have same : refresh (timerStop session.state) = timerStop session.state := refresh_entry kind
  simp only [handleTextInput, count, content]
  by_cases erase : input = terminal.eraseChar
  · rw [if_pos erase]
    by_cases some : session.watch.text = []
    · rw [some, if_neg (by simp)]
      refine .ignored free.1 ?_
      simp only [Session.Acts, mode, if_pos erase, some]
      rintro (same | ⟨_, other⟩)
      · exact more same
      · exact other rfl
    · rw [if_pos (List.length_pos_iff.mpr some), redrawn]
      exact .erase more free mode erase some
  rw [if_neg erase]
  by_cases enter : input = 10 ∨ input = 13
  · rw [if_pos enter]
    simp only [handles]
    exact .submit handler more free.1 mode kind ⟨erase, enter⟩
  rw [if_neg enter]
  have idle (full : ¬ (isprint input = true ∧ session.watch.text.length < textEntryBufferSize - 1)) :
      ¬ session.Acts terminal input := by
    simp only [Session.Acts, mode, if_neg erase]
    rintro (same | ⟨_, newline | return_ | room⟩)
    · exact more same
    · exact enter (.inl newline)
    · exact enter (.inr return_)
    · exact full room
  by_cases visible : isprint input = true
  · rw [if_pos visible]
    by_cases room : session.watch.text.length < textEntryBufferSize - 1
    · rw [if_pos room, redrawn]
      exact .append more free.1 mode erase visible room
    · rw [if_neg room, same]
      exact .ignored free.1 (idle fun both => room both.2)
  · rw [if_neg visible]
    exact .ignored free.1 (idle fun both => visible both.1)

theorem handled (inv : session.Inv) (input : Byte) :
    Handled terminal strtod session input (inputHandler terminal strtod (.byte input) session.state) := by
  simp only [inputHandler]
  by_cases ends : input = terminal.endOfFileChar
  · rw [if_pos ends]
    exact .quit (.inl ends)
  rw [if_neg ends]
  by_cases escape : input = escapeChar
  · rw [if_pos escape]
    exact .escape ends escape
  rw [if_neg escape]
  rcases inv.ready.cases with ⟨mode, kind⟩ | ⟨handler, mode, func, kind⟩
  · by_cases ctrl : input = ctrlR
    · rw [if_pos ctrl]
      exact .redraw session.state.errorMsg ends escape mode (by rw [ctrl]; rfl) (.inl ctrl)
    · rw [if_neg ctrl]
      have menu : (timerStop session.state).inputProcessingMode = .menu := mode
      rw [handleInputByte, menu]
      exact handled_menu inv mode ends ⟨escape, ctrl⟩
  · by_cases ctrl : input = ctrlR
    · have same : refresh (timerStop session.state) = timerStop session.state := refresh_entry kind
      rw [if_pos ctrl]
      refine same.symm ▸ .ignored escape ?_
      simp only [Session.Acts, mode]
      rintro (same | ⟨other, _⟩)
      · exact ends same
      · exact other ctrl
    · rw [if_neg ctrl]
      have text : (timerStop session.state).inputProcessingMode = .textEntry := mode
      rw [handleInputByte, text]
      exact handled_text inv mode ends ⟨escape, ctrl⟩

variable {after : State}

theorem calledBy_menu (more : input ≠ terminal.endOfFileChar)
    (mode : session.state.inputProcessingMode = .menu) :
    session.calledBy terminal input = (numbered session.state.menu input).toList.map .select := by
  rw [Session.calledBy, if_neg more, mode]

theorem calledBy_text (more : input ≠ terminal.endOfFileChar)
    (mode : session.state.inputProcessingMode = .textEntry) :
    session.calledBy terminal input =
      if input ≠ terminal.eraseChar ∧ (input = 10 ∨ input = 13) then
        session.state.currentScreen.handler.toList.map (.submit · session.watch.text)
      else [] := by
  rw [Session.calledBy, if_neg more, mode]

/-- Where neither a digit nor ENTER is typed, nothing is called. -/
theorem calledBy_nil (inv : session.Inv)
    (menu : session.state.inputProcessingMode = .menu → numbered session.state.menu input = none)
    (text : session.state.inputProcessingMode = .textEntry →
      ¬ (input ≠ terminal.eraseChar ∧ (input = 10 ∨ input = 13))) :
    session.calledBy terminal input = [] := by
  by_cases ends : input = terminal.endOfFileChar
  · rw [Session.calledBy, if_pos ends]
  rcases inv.ready.cases with ⟨mode, _⟩ | ⟨_, mode, _, _⟩
  · rw [calledBy_menu ends mode, menu mode]
    rfl
  · rw [calledBy_text ends mode, if_neg (text mode)]

theorem acts_of_entry {entry : MenuEntry} (mode : session.state.inputProcessingMode = .menu)
    (found : numbered session.state.menu input = some entry) : session.Acts terminal input := by
  refine .inr ?_
  simp only [mode, found]
  exact .inr (.inr (.inl rfl))

theorem acts_of_erase (mode : session.state.inputProcessingMode = .textEntry) (other : input ≠ ctrlR)
    (erase : input = terminal.eraseChar) (some : session.watch.text ≠ []) :
    session.Acts terminal input := by
  refine .inr ?_
  simp only [mode, if_pos erase]
  exact ⟨other, some⟩

theorem acts_of_enter (mode : session.state.inputProcessingMode = .textEntry)
    (enter : input ≠ terminal.eraseChar ∧ (input = 10 ∨ input = 13)) : session.Acts terminal input := by
  have other : input ≠ ctrlR := by
    rcases enter.2 with rfl | rfl <;> decide
  refine .inr ?_
  simp only [mode, if_neg enter.1]
  exact ⟨other, enter.2.imp_right .inl⟩

theorem acts_of_shown (mode : session.state.inputProcessingMode = .textEntry)
    (differs : input ≠ terminal.eraseChar)
    (shown : isprint input = true ∧ session.watch.text.length < textEntryBufferSize - 1) :
    session.Acts terminal input := by
  have other : input ≠ ctrlR := by
    rintro rfl
    exact absurd shown.1 (by decide)
  refine .inr ?_
  simp only [mode, if_neg differs]
  exact ⟨other, .inr (.inr shown)⟩

/-- What the input handler does not act on calls nothing. -/
theorem calledBy_idle (inv : session.Inv) (idle : ¬ session.Acts terminal input) :
    session.calledBy terminal input = [] := by
  refine calledBy_nil inv (fun mode => ?_) fun mode enter => idle (acts_of_enter mode enter)
  cases found : numbered session.state.menu input with
  | none => rfl
  | some entry => exact absurd (acts_of_entry mode found) idle

theorem calledBy_quit (inv : session.Inv) (ends : input = terminal.endOfFileChar ∨
      session.state.inputProcessingMode = .menu ∧ (input = 113 ∨ input = 81)) :
    session.calledBy terminal input = [] := by
  rcases ends with ends | ⟨mode, letter⟩
  · rw [Session.calledBy, if_pos ends]
  · refine calledBy_nil inv (fun _ => ?_) fun text => absurd (mode.symm.trans text) nofun
    rcases letter with rfl | rfl <;> rfl

theorem Ready.call (ready : Ready state) (made : Call) : Ready (call made (clearErrorMsg state)) :=
  ⟨ready.fits, ready.menu, ready.entry⟩

/-- A byte calls what it is to call and, ESC apart, leaves the timer stopped. -/
theorem handled_lands (inv : session.Inv) (handled : Handled terminal strtod session input after) :
    Lands (session.state.calls ++ session.calledBy terminal input)
      (if input = escapeChar ∧ input ≠ terminal.endOfFileChar then some msInterval else none)
      after.textEntryBuffer after := by
  have ready := inv.ready.timerStop
  cases handled with
  | quit ends =>
      have timer : ¬ (input = escapeChar ∧ input ≠ terminal.endOfFileChar) := by
        rintro ⟨rfl, other⟩
        rcases ends with ends | ⟨_, letter⟩
        · exact other ends
        · exact absurd letter (by decide)
      rw [calledBy_quit inv ends, if_neg timer, List.append_nil]
      exact ⟨ready.exit, rfl, rfl, fun _ => rfl⟩
  | escape more is =>
      have calls : session.calledBy terminal input = [] := by
        refine calledBy_nil inv (fun _ => by rw [is]; rfl) fun _ enter => ?_
        rw [is] at enter
        exact absurd enter.2 (by decide)
      rw [calls, if_pos ⟨is, more⟩, List.append_nil]
      exact ⟨⟨ready.fits, ready.menu, ready.entry⟩, rfl, rfl, fun _ => rfl⟩
  | redraw msg more free mode missing _ =>
      have lands : Lands session.state.calls none []
          (refresh { timerStop session.state with errorMsg := msg }) :=
        refresh_lands_menu { timerStop session.state with errorMsg := msg } (inv.ready.no_handler mode)
      rw [calledBy_menu more mode, missing, if_neg fun timer => free timer.1, Option.toList_none,
        List.map_nil, List.append_nil]
      exact ⟨lands.ready, lands.calls, lands.timer, fun _ => rfl⟩
  | select entry more free mode found =>
      have lands := select_lands entry (ready.call (.select entry)) mode
      rw [calledBy_menu more mode, found, if_neg fun timer => free timer.1]
      exact ⟨lands.ready, lands.calls, lands.timer, fun _ => rfl⟩
  | erase more free mode is some =>
      rw [calledBy_text more mode, if_neg fun enter => enter.1 is, if_neg fun timer => free.1 timer.1,
        List.append_nil]
      exact ⟨⟨ready.fits, ready.menu, ready.entry⟩, rfl, rfl, fun _ => rfl⟩
  | submit handler more free mode kind is =>
      have lands : Lands _ none _ (submit strtod handler session.watch.text _) :=
        submit_lands handler session.watch.text (ready.call (.submit handler session.watch.text))
      rw [calledBy_text more mode, if_pos is, kind, if_neg fun timer => free timer.1]
      exact ⟨lands.ready, lands.calls, lands.timer, fun _ => rfl⟩
  | append more free mode _ visible _ =>
      have enter : ¬ (input = 10 ∨ input = 13) := by
        rintro (rfl | rfl) <;> exact absurd visible (by decide)
      rw [calledBy_text more mode, if_neg fun both => enter both.2, if_neg fun timer => free timer.1,
        List.append_nil]
      exact ⟨⟨ready.fits, ready.menu, ready.entry⟩, rfl, rfl, fun _ => rfl⟩
  | ignored free idle =>
      rw [calledBy_idle inv idle, if_neg fun timer => free timer.1, List.append_nil]
      exact ⟨ready, rfl, rfl, fun _ => rfl⟩

theorem edit_same {text : List Byte} (erased : input = terminal.eraseChar → text = [])
    (shown : input ≠ terminal.eraseChar →
      ¬ (isprint input = true ∧ text.length < textEntryBufferSize - 1)) :
    edit terminal text input = text := by
  by_cases erase : input = terminal.eraseChar
  · rw [edit, if_pos erase, erased erase, List.dropLast_nil, ite_self]
  · rw [edit, if_neg erase, if_neg (shown erase), ite_self]

/-- The list editor has no use for an ESC that is no erase. -/
theorem edit_escape (works : ¬ session.Blocked terminal input)
    (mode : session.state.inputProcessingMode = .textEntry) (more : input ≠ terminal.endOfFileChar)
    (is : input = escapeChar) : edit terminal session.watch.text input = session.watch.text := by
  refine edit_same (fun erase => ?_) ?_
  · by_contra some
    exact works ⟨mode, erase, more, .inl is, some⟩
  · rintro _ ⟨visible, _⟩
    rw [is] at visible
    exact absurd visible (by decide)

/-- The list editor has no use for what the input handler does not act on. -/
theorem edit_idle (works : ¬ session.Blocked terminal input)
    (mode : session.state.inputProcessingMode = .textEntry) (idle : ¬ session.Acts terminal input) :
    edit terminal session.watch.text input = session.watch.text := by
  refine edit_same (fun erase => ?_) fun differs shown => idle (acts_of_shown mode differs shown)
  by_contra some
  by_cases ctrl : input = ctrlR
  · exact works ⟨mode, erase, fun ends => idle (.inl ends), .inr ctrl, some⟩
  · exact idle (acts_of_erase mode ctrl erase some)

/-- A blocked erase changes nothing. -/
theorem handled_blocked (handled : Handled terminal strtod session input after)
    (blocked : session.Blocked terminal input) :
    after.inputProcessingMode = .textEntry ∧ after.textEntryBuffer = session.state.textEntryBuffer := by
  obtain ⟨mode, erase, more, other, _⟩ := blocked
  cases handled with
  | quit _ => exact ⟨mode, rfl⟩
  | escape _ _ => exact ⟨mode, rfl⟩
  | redraw _ _ _ menu _ _ => exact absurd (menu.symm.trans mode) nofun
  | select _ _ _ menu _ => exact absurd (menu.symm.trans mode) nofun
  | erase _ free _ _ _ => exact absurd other (by simp [free])
  | submit _ _ _ _ _ is => exact absurd erase is.1
  | append _ _ _ differs _ _ => exact absurd erase differs
  | ignored _ _ => exact ⟨mode, rfl⟩

/-- Any other byte changes the buffer as the list editor does. -/
theorem handled_follows (inv : session.Inv) (handled : Handled terminal strtod session input after)
    (works : ¬ session.Blocked terminal input) (mode : session.state.inputProcessingMode = .textEntry)
    (still : after.inputProcessingMode = .textEntry) :
    Holds 0 textEntryBufferSize (edit terminal session.watch.text input) after.textEntryBuffer := by
  have holds := inv.text mode
  have ready := inv.ready.timerStop
  cases handled with
  | quit ends =>
      rcases ends with ends | ⟨menu, _⟩
      · rw [edit, if_pos ends]
        exact holds
      · exact absurd (menu.symm.trans mode) nofun
  | escape more is =>
      rw [edit_escape works mode more is]
      exact holds
  | redraw _ _ _ menu _ _ => exact absurd (menu.symm.trans mode) nofun
  | select _ _ _ menu _ => exact absurd (menu.symm.trans mode) nofun
  | erase more free _ is some =>
      rw [edit, if_neg more, if_pos is]
      exact holds_dropLast holds some
  | submit handler more _ _ kind is =>
      have lands : Lands _ none _ (submit strtod handler session.watch.text _) :=
        submit_lands handler session.watch.text (ready.call (.submit handler session.watch.text))
      rw [edit_same (fun erase => absurd erase is.1), lands.buffer still]
      · exact holds
      · rintro _ ⟨visible, _⟩
        rcases is.2 with rfl | rfl <;> exact absurd visible (by decide)
  | append more _ _ differs visible room =>
      have nonzero : input ≠ 0 := by
        rintro rfl
        exact absurd visible (by decide)
      rw [edit, if_neg more, if_neg differs, if_pos ⟨visible, room⟩]
      exact holds_append holds nonzero (Nat.add_lt_of_lt_sub room)
  | ignored _ idle =>
      rw [edit_idle works mode idle]
      exact holds

/-- A text entry begins with an empty text. -/
theorem handled_enters (inv : session.Inv) (handled : Handled terminal strtod session input after)
    (mode : session.state.inputProcessingMode = .menu) (now : after.inputProcessingMode = .textEntry) :
    Holds 0 textEntryBufferSize [] after.textEntryBuffer := by
  cases handled with
  | quit _ => exact absurd (mode.symm.trans now) nofun
  | escape _ _ => exact absurd (mode.symm.trans now) nofun
  | redraw msg _ _ _ _ _ =>
      have lands : Lands session.state.calls none (cleared 0 textEntryBufferSize)
          (refresh { timerStop session.state with errorMsg := msg }) :=
        refresh_lands_menu { timerStop session.state with errorMsg := msg } (inv.ready.no_handler mode)
      rw [lands.buffer now]
      exact holds_cleared (by decide)
  | select entry _ _ _ _ =>
      rw [(select_lands entry (inv.ready.timerStop.call (.select entry)) mode).buffer now]
      exact holds_cleared (by decide)
  | erase _ _ text _ _ => exact absurd (mode.symm.trans text) nofun
  | submit _ _ _ text _ _ => exact absurd (mode.symm.trans text) nofun
  | append _ _ text _ _ _ => exact absurd (mode.symm.trans text) nofun
  | ignored _ _ => exact absurd (mode.symm.trans now) nofun

theorem redraw_eq (msg : String) (menu : state.currentScreen.handler = none) :
    refresh { timerStop state with errorMsg := msg } =
      { timerStop state with
        errorMsg := msg
        inputProcessingMode := .menu
        menu := drawn state.currentScreen state } :=
  refresh_menu menu

theorem handled_untouched (inv : session.Inv) (running : session.state.exited = false)
    (handled : Handled terminal strtod session input after) (free : input ≠ escapeChar)
    (idle : ¬ session.Acts terminal input) : Untouched session.state after := by
  have stays : ¬ Left session.state (timerStop session.state) := by
    rintro (ended | moved)
    · exact absurd (running.symm.trans ended) nofun
    · exact moved rfl
  cases handled with
  | quit ends =>
      refine absurd ?_ idle
      rcases ends with ends | ⟨mode, letter⟩
      · exact .inl ends
      · refine .inr ?_
        simp only [mode]
        exact letter.imp_right .inl
  | escape _ is => exact absurd is free
  | redraw msg more _ mode missing asks =>
      have same : drawn session.state.currentScreen session.state = session.state.menu := by
        by_contra other
        refine idle (.inr ?_)
        simp only [mode]
        exact .inr (.inr (.inr ⟨asks, other⟩))
      rw [redraw_eq msg (inv.ready.no_handler mode)]
      exact ⟨rfl, same, mode.symm, stays⟩
  | select entry _ _ mode found => exact absurd (acts_of_entry mode found) idle
  | erase _ free mode is some => exact absurd (acts_of_erase mode free.2 is some) idle
  | submit _ _ _ mode _ is => exact absurd (acts_of_enter mode is) idle
  | append _ _ mode differs visible room => exact absurd (acts_of_shown mode differs ⟨visible, room⟩) idle
  | ignored _ _ => exact ⟨rfl, rfl, rfl, stays⟩

theorem dropLast_ne {text : List Byte} (some : text ≠ []) : text.dropLast ≠ text := by
  intro same
  have shorter := congrArg List.length same
  have positive := List.length_pos_iff.mpr some
  rw [List.length_dropLast] at shorter
  omega

/-- A byte that the input handler acts on is noticed. -/
theorem handled_acts (inv : session.Inv) (handled : Handled terminal strtod session input after)
    (free : input ≠ escapeChar) (acts : session.Acts terminal input)
    (silent : session.calledBy terminal input = []) : ¬ Untouched session.state after := by
  intro untouched
  cases handled with
  | quit _ => exact untouched.screen (.inl rfl)
  | escape _ is => exact free is
  | redraw msg more _ mode missing asks =>
      have same := untouched.menu
      rw [redraw_eq msg (inv.ready.no_handler mode)] at same
      rcases acts with ends | acts
      · exact more ends
      · simp only [mode, missing] at acts
        rcases acts with rfl | rfl | found | ⟨_, other⟩
        · exact absurd asks (by decide)
        · exact absurd asks (by decide)
        · exact absurd found nofun
        · exact other same
  | select entry more _ mode found =>
      rw [calledBy_menu more mode, found] at silent
      exact absurd silent nofun
  | erase _ _ mode _ some =>
      have shorter := holds_dropLast (inv.text mode) some
      rw [show session.state.textEntryBuffer.set _ 0 = _ from untouched.text] at shorter
      exact dropLast_ne some (holds_unique shorter (inv.text mode))
  | submit handler more _ mode kind is =>
      rw [calledBy_text more mode, if_pos is, kind] at silent
      exact absurd silent nofun
  | append _ _ mode _ visible room =>
      have nonzero : input ≠ 0 := by
        rintro rfl
        exact absurd visible (by decide)
      have longer := holds_append (inv.text mode) nonzero (Nat.add_lt_of_lt_sub room)
      rw [show session.state.textEntryBuffer.set _ input = _ from untouched.text] at longer
      have same := holds_unique longer (inv.text mode)
      exact absurd (List.append_right_eq_self.mp same) (List.cons_ne_nil _ _)
  | ignored _ idle => exact idle acts

end MangOH.CmdLine
