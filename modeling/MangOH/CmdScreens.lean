import MangOH.CmdLine

/-!
What the functions of the screens leave behind: the mode of the screen that is current, and no
change to the calls and the timer of the command line.
-/

namespace MangOH.CmdLine

/-- The handler that a screen's text entry is for, if the screen has one. -/
def Screen.handler : Screen → Option TextEntryHandler
  | .buzzerPeriod => some .handleInputPeriod
  | .buzzerPercent => some .handleInputPercent
  | _ => none

/-- The menu that drawing a screen puts up. -/
def drawn (screen : Screen) (state : State) : List MenuEntry :=
  match screen with
  | .mainMenu =>
      [⟨if state.instantGrat then .disableOutOfBoxExperience else .enableOutOfBoxExperience, none⟩,
        ⟨.handleLedsSelection, none⟩, ⟨.handleBuzzerSelection, none⟩, ⟨.handleOctaveSelection, none⟩]
  | .ledScreen =>
      [⟨.toggleGenericLed, none⟩, ⟨.toggleRed, none⟩, ⟨.toggleGreen, none⟩, ⟨.toggleBlue, none⟩,
        ⟨if state.instantGrat then
            if state.ledStates .vegasModeEnable ≠ .on then .enableVegasMode else .disableVegasMode
          else .enableInstantGratification, none⟩]
  | .buzzerMain =>
      [⟨if state.enableState = .off then .activateBuzzer else .deactivateBuzzer, none⟩,
        ⟨.enterSubScreen, some .buzzerPeriod⟩, ⟨.enterSubScreen, some .buzzerPercent⟩]
  | .octaveScreen =>
      [⟨if state.instantGrat then .disableInstantGratification else .enableInstantGratification, none⟩]
  | .buzzerPeriod => state.menu
  | .buzzerPercent => state.menu

/-- The mode is the one that the current screen works in. -/
structure Ready (state : State) : Prop where
  fits : state.menu.length ≤ maxMenuOptions
  menu : state.currentScreen.handler = none → state.inputProcessingMode = .menu
  entry : ∀ handler, state.currentScreen.handler = some handler →
    state.inputProcessingMode = .textEntry ∧ state.textEntryHandlerFunc = some handler

/-- A state with these calls and this timer and, in text entry mode, this buffer. -/
structure Lands (calls : List Call) (timer : Option Nat) (buffer : List Byte) (state : State) :
    Prop where
  ready : Ready state
  calls : state.calls = calls
  timer : state.escapeTimer = timer
  buffer : state.inputProcessingMode = .textEntry → state.textEntryBuffer = buffer

variable {strtod : List Byte → Number} {state : State} {buffer : List Byte}

theorem drawn_fits {screen : Screen} (menu : screen.handler = none) :
    (drawn screen state).length ≤ maxMenuOptions := by
  cases screen with
  | mainMenu => simp [drawn, maxMenuOptions]
  | ledScreen => simp [drawn, maxMenuOptions]
  | buzzerMain => simp [drawn, maxMenuOptions]
  | octaveScreen => simp [drawn, maxMenuOptions]
  | buzzerPeriod => exact absurd menu nofun
  | buzzerPercent => exact absurd menu nofun

theorem drawFunc_menu {screen : Screen} (menu : screen.handler = none) :
    drawFunc screen state = { state with inputProcessingMode := .menu, menu := drawn screen state } := by
  cases screen with
  | mainMenu => simp [drawFunc, drawMainMenu, menuMode, addMenuEntry, maxMenuOptions, drawn]
  | ledScreen =>
      simp only [drawFunc, drawLedScreen, menuMode, addMenuEntry, maxMenuOptions, drawn]
      split
      · split <;> simp_all
      · simp_all
  | buzzerMain => simp [drawFunc, drawBuzzerMain, menuMode, addMenuEntry, maxMenuOptions, drawn]
  | octaveScreen => simp [drawFunc, drawOctaveScreen, menuMode, addMenuEntry, maxMenuOptions, drawn]
  | buzzerPeriod => exact absurd menu nofun
  | buzzerPercent => exact absurd menu nofun

theorem refresh_menu (menu : state.currentScreen.handler = none) :
    refresh state =
      { state with inputProcessingMode := .menu, menu := drawn state.currentScreen state } :=
  drawFunc_menu menu

/-- Drawing the screen of a text entry changes nothing. -/
theorem refresh_entry {handler : TextEntryHandler} (entry : state.currentScreen.handler = some handler) :
    refresh state = state := by
  rw [refresh]
  cases screen : state.currentScreen with
  | buzzerPeriod => rfl
  | buzzerPercent => rfl
  | mainMenu => exact absurd (screen ▸ entry) nofun
  | ledScreen => exact absurd (screen ▸ entry) nofun
  | buzzerMain => exact absurd (screen ▸ entry) nofun
  | octaveScreen => exact absurd (screen ▸ entry) nofun

theorem Ready.no_handler (ready : Ready state) (mode : state.inputProcessingMode = .menu) :
    state.currentScreen.handler = none := by
  cases kind : state.currentScreen.handler with
  | none => rfl
  | some handler => exact absurd (mode.symm.trans (ready.entry handler kind).1) nofun

/-- The screen is one of a menu or of a text entry, and the mode with it. -/
theorem Ready.cases (ready : Ready state) :
    (state.inputProcessingMode = .menu ∧ state.currentScreen.handler = none) ∨
      ∃ handler, state.inputProcessingMode = .textEntry ∧ state.textEntryHandlerFunc = some handler ∧
        state.currentScreen.handler = some handler := by
  cases kind : state.currentScreen.handler with
  | none => exact .inl ⟨ready.menu kind, rfl⟩
  | some handler => exact .inr ⟨handler, (ready.entry handler kind).1, (ready.entry handler kind).2, rfl⟩

theorem Ready.exit (ready : Ready state) : Ready (exit state) :=
  ⟨ready.fits, ready.menu, ready.entry⟩

theorem Ready.request (ready : Ready state) (made : Request) : Ready (request made state) :=
  ⟨ready.fits, ready.menu, ready.entry⟩

theorem Ready.setErrorMsg (ready : Ready state) (msg : String) : Ready (setErrorMsg msg state) :=
  ⟨ready.fits, ready.menu, ready.entry⟩

/-- In menu mode nothing is said of the buffer. -/
theorem Ready.lands (ready : Ready state) (mode : state.inputProcessingMode = .menu) :
    Lands state.calls state.escapeTimer buffer state :=
  ⟨ready, rfl, rfl, fun entry => absurd (mode.symm.trans entry) nofun⟩

theorem refresh_lands_menu (state : State) (menu : state.currentScreen.handler = none) :
    Lands state.calls state.escapeTimer buffer (refresh state) := by
  rw [refresh_menu menu]
  refine ⟨⟨drawn_fits menu, fun _ => rfl, ?_⟩, rfl, rfl, nofun⟩
  exact fun _ entry => absurd (menu.symm.trans entry) nofun

theorem refresh_lands (ready : Ready state) :
    Lands state.calls state.escapeTimer state.textEntryBuffer (refresh state) := by
  cases kind : state.currentScreen.handler with
  | none => exact refresh_lands_menu state kind
  | some handler =>
      rw [refresh_entry kind]
      exact ⟨ready, rfl, rfl, fun _ => rfl⟩

theorem enter_lands (screen : Screen) (state : State) (menu : screen.handler = none) :
    Lands state.calls state.escapeTimer buffer (setCurrentScreen screen state) :=
  refresh_lands_menu (clearErrorMsg { state with currentScreen := screen }) menu

theorem enter_entry_lands {screen : Screen} {handler : TextEntryHandler}
    (entry : screen.handler = some handler) (fits : state.menu.length ≤ maxMenuOptions) :
    Lands state.calls state.escapeTimer (PaddedText.cleared 0 textEntryBufferSize)
      (setCurrentScreen screen (textEntryMode handler state)) := by
  have same : setCurrentScreen screen (textEntryMode handler state) =
      clearErrorMsg { textEntryMode handler state with currentScreen := screen } := refresh_entry entry
  rw [same]
  refine ⟨⟨fits, fun menu => absurd (entry.symm.trans menu) nofun, fun other also => ⟨rfl, ?_⟩⟩,
    rfl, rfl, fun _ => rfl⟩
  exact entry.symm.trans also

theorem enterSubScreen_lands (context : Option Screen) (ready : Ready state)
    (mode : state.inputProcessingMode = .menu) :
    Lands state.calls state.escapeTimer (PaddedText.cleared 0 textEntryBufferSize)
      (enterSubScreen context state) := by
  unfold enterSubScreen
  split
  · exact enter_entry_lands rfl ready.fits
  · exact enter_entry_lands rfl ready.fits
  · rename_i screen notPeriod notPercent
    have menu : screen.handler = none := by
      cases screen with
      | buzzerPeriod => exact absurd rfl notPeriod
      | buzzerPercent => exact absurd rfl notPercent
      | _ => rfl
    exact enter_lands screen state menu
  · exact ready.exit.lands mode

/-- A menu entry that starts a text entry starts it with an empty buffer. -/
theorem select_lands (entry : MenuEntry) (ready : Ready state)
    (mode : state.inputProcessingMode = .menu) :
    Lands state.calls state.escapeTimer (PaddedText.cleared 0 textEntryBufferSize)
      (select entry state) := by
  have redrawn (value : Bool) : Lands state.calls state.escapeTimer
      (PaddedText.cleared 0 textEntryBufferSize) (setInstantGratification value state) :=
    refresh_lands_menu { state with instantGrat := value } (ready.no_handler mode)
  have requested (made : Request) : Lands state.calls state.escapeTimer
      (PaddedText.cleared 0 textEntryBufferSize) (request made state) :=
    (ready.request made).lands mode
  have toggled (led : Led) (path : String) : Lands state.calls state.escapeTimer
      (PaddedText.cleared 0 textEntryBufferSize) (toggle led path state) :=
    ((ready.request _).request _).lands mode
  obtain ⟨selectionFunc, context⟩ := entry
  cases selectionFunc with
  | disableOutOfBoxExperience => exact redrawn false
  | enableOutOfBoxExperience => exact redrawn true
  | handleLedsSelection => exact enter_lands .ledScreen state rfl
  | handleBuzzerSelection => exact enter_lands .buzzerMain state rfl
  | handleOctaveSelection => exact enter_lands .octaveScreen state rfl
  | toggleGenericLed => exact toggled .generic _
  | toggleRed => exact toggled .triColourRed _
  | toggleGreen => exact toggled .triColourGreen _
  | toggleBlue => exact toggled .triColourBlue _
  | enableVegasMode => exact requested _
  | disableVegasMode => exact requested _
  | enableInstantGratification => exact redrawn true
  | disableInstantGratification => exact redrawn false
  | activateBuzzer => exact requested _
  | deactivateBuzzer => exact requested _
  | enterSubScreen => exact enterSubScreen_lands context ready mode

theorem handleInput_lands (check : Float → Option String) (path : String) (text : List Byte)
    (ready : Ready state) :
    Lands state.calls state.escapeTimer state.textEntryBuffer
      (handleInput strtod check path text state) := by
  simp only [handleInput]
  split
  · exact refresh_lands (ready.setErrorMsg _)
  split
  · exact refresh_lands (ready.setErrorMsg _)
  split
  · exact enter_lands .buzzerMain state rfl
  split
  · exact refresh_lands (ready.setErrorMsg _)
  · exact enter_lands .buzzerMain (request _ state) rfl

/-- A text that is handed in leaves its buffer alone, whether it is accepted or not. -/
theorem submit_lands (handler : TextEntryHandler) (text : List Byte) (ready : Ready state) :
    Lands state.calls state.escapeTimer state.textEntryBuffer (submit strtod handler text state) := by
  cases handler with
  | handleInputPeriod =>
      rw [submit, handleInputPeriod]
      exact handleInput_lands _ _ text ready
  | handleInputPercent =>
      rw [submit, handleInputPercent]
      exact handleInput_lands _ _ text ready

theorem leaveFunc_lands (ready : Ready state) :
    Lands state.calls state.escapeTimer buffer (leaveFunc state.currentScreen state) := by
  cases screen : state.currentScreen with
  | mainMenu =>
      have mode : state.inputProcessingMode = .menu := ready.menu (by rw [screen]; rfl)
      exact ready.exit.lands mode
  | ledScreen => exact enter_lands .mainMenu state rfl
  | buzzerMain => exact enter_lands .mainMenu state rfl
  | buzzerPeriod => exact enter_lands .buzzerMain state rfl
  | buzzerPercent => exact enter_lands .buzzerMain state rfl
  | octaveScreen => exact enter_lands .mainMenu state rfl

theorem enter_mode (screen : Screen) (state : State) (menu : screen.handler = none) :
    (setCurrentScreen screen state).inputProcessingMode = .menu := by
  rw [setCurrentScreen, refresh_menu menu]

/-- Whoever leaves a screen is on another one, or at the end of the program. -/
theorem leaveFunc_leaves (state : State) :
    (leaveFunc state.currentScreen state).exited = true ∨
      (leaveFunc state.currentScreen state).currentScreen ≠ state.currentScreen := by
  have shown (screen : Screen) : (setCurrentScreen screen state).currentScreen = screen := by
    cases kind : screen.handler with
    | none => rw [setCurrentScreen, refresh_menu kind]; rfl
    | some handler => rw [setCurrentScreen, refresh_entry kind]; rfl
  cases screen : state.currentScreen with
  | mainMenu => exact .inl rfl
  | ledScreen => exact .inr fun same => nomatch (shown .mainMenu).symm.trans same
  | buzzerMain => exact .inr fun same => nomatch (shown .mainMenu).symm.trans same
  | buzzerPeriod => exact .inr fun same => nomatch (shown .buzzerMain).symm.trans same
  | buzzerPercent => exact .inr fun same => nomatch (shown .buzzerMain).symm.trans same
  | octaveScreen => exact .inr fun same => nomatch (shown .mainMenu).symm.trans same

end MangOH.CmdLine
