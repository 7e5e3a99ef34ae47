import MangOH.CmdSession

/-!
What holds of the command line in every run, whatever the keys send: it is in the mode of
its screen, its menu is one that was drawn, its buffer holds a text that could be printed,
and none of the checks that would end the program fails. So it ends only where it is asked.
-/

namespace MangOH.CmdLine

open PaddedText Trace

variable {terminal : Terminal} {strtod : List Byte → Number} {state : State}

/-- Every entry leads to a screen where it is to. -/
def Leads (menu : List MenuEntry) : Prop :=
  ∀ entry ∈ menu, entry.selectionFunc = .enterSubScreen → entry.contextPtr ≠ none

structure Steady (state : State) : Prop where
  ready : Ready state
  leads : Leads state.menu
  text : state.inputProcessingMode = .textEntry →
    ∃ text, Holds 0 textEntryBufferSize text state.textEntryBuffer ∧ ∀ char ∈ text, isprint char = true
  timer : ∀ left, state.escapeTimer = some left → 0 < left ∧ left ≤ msInterval

/-- The user, or the terminal, asks for the end. -/
def Asks (terminal : Terminal) (state : State) : Event → Prop
  | .input _ (.byte input) => input = terminal.endOfFileChar ∨
      state.inputProcessingMode = .menu ∧ (input = 113 ∨ input = 81)
  | .input _ .endOfFile => True
  | .input _ .interrupted => True
  | .input _ .readError => False
  | .wait ms => state.currentScreen = .mainMenu ∧ ∃ left, state.escapeTimer = some left ∧ left ≤ ms
  | _ => False

/-- Steady, and not at the end. -/
structure Runs (state : State) : Prop where
  steady : Steady state
  running : state.exited = false

/-! What drawing a screen leaves. -/

theorem drawn_leads {screen : Screen} (menu : screen.handler = none) : Leads (drawn screen state) := by
  intro entry member sub
  cases screen with
  | mainMenu =>
      simp only [drawn, List.mem_cons, List.not_mem_nil, or_false] at member
      rcases member with rfl | rfl | rfl | rfl
      · exact absurd sub (by dsimp only; split <;> decide)
      · cases sub
      · cases sub
      · cases sub
  | ledScreen =>
      simp only [drawn, List.mem_cons, List.not_mem_nil, or_false] at member
      rcases member with rfl | rfl | rfl | rfl | rfl
      · cases sub
      · cases sub
      · cases sub
      · cases sub
      · exact absurd sub (by dsimp only; split <;> (try split) <;> decide)
  | buzzerMain =>
      simp only [drawn, List.mem_cons, List.not_mem_nil, or_false] at member
      rcases member with rfl | rfl | rfl
      · exact absurd sub (by dsimp only; split <;> decide)
      · exact Option.some_ne_none _
      · exact Option.some_ne_none _
  | octaveScreen =>
      rw [drawn, List.mem_singleton] at member
      subst member
      exact absurd sub (by dsimp only; split <;> decide)
  | buzzerPeriod => cases menu
  | buzzerPercent => cases menu

/-- Every screen with a menu is drawn steady, whatever was there before. -/
theorem refresh_runs_menu (menu : state.currentScreen.handler = none)
    (timer : ∀ left, state.escapeTimer = some left → 0 < left ∧ left ≤ msInterval)
    (running : state.exited = false) : Runs (refresh state) := by
  have ready := (@refresh_lands_menu [] state menu).ready
  rw [refresh_menu menu] at ready ⊢
  refine ⟨⟨ready, drawn_leads menu, fun entry => ?_, timer⟩, running⟩
  cases entry

theorem refresh_runs (runs : Runs state) : Runs (refresh state) := by
  cases kind : state.currentScreen.handler with
  | none => exact refresh_runs_menu kind runs.steady.timer runs.running
  | some handler =>
      rw [refresh_entry kind]
      exact runs

theorem enter_runs {screen : Screen} (menu : screen.handler = none)
    (timer : ∀ left, state.escapeTimer = some left → 0 < left ∧ left ≤ msInterval)
    (running : state.exited = false) : Runs (setCurrentScreen screen state) :=
  @refresh_runs_menu (clearErrorMsg { state with currentScreen := screen }) menu timer running

/-- A text entry begins with an empty text. -/
theorem enter_entry_runs {screen : Screen} {handler : TextEntryHandler}
    (entry : screen.handler = some handler) (runs : Runs state) :
    Runs (setCurrentScreen screen (textEntryMode handler state)) := by
  have lands := @enter_entry_lands state screen handler entry runs.steady.ready.fits
  have same : setCurrentScreen screen (textEntryMode handler state) =
      clearErrorMsg { textEntryMode handler state with currentScreen := screen } := refresh_entry entry
  rw [same] at lands ⊢
  refine ⟨⟨lands.ready, runs.steady.leads, fun _ => ⟨[], holds_cleared (by decide), ?_⟩,
    runs.steady.timer⟩, runs.running⟩
  exact fun _ member => absurd member List.not_mem_nil

theorem enterSubScreen_runs {context : Option Screen} (leads : context ≠ none) (runs : Runs state) :
    Runs (enterSubScreen context state) := by
  unfold enterSubScreen
  split
  · exact enter_entry_runs rfl runs
  · exact enter_entry_runs rfl runs
  · rename_i screen notPeriod notPercent
    have menu : screen.handler = none := by
      cases screen with
      | buzzerPeriod => exact absurd rfl notPeriod
      | buzzerPercent => exact absurd rfl notPercent
      | _ => rfl
    exact enter_runs menu runs.steady.timer runs.running
  · exact absurd rfl leads

/-! Steady states under what changes none of the parts that count. -/

theorem Runs.request (runs : Runs state) (made : Request) : Runs (request made state) :=
  ⟨⟨runs.steady.ready.request made, runs.steady.leads, runs.steady.text, runs.steady.timer⟩, runs.running⟩

theorem Runs.setErrorMsg (runs : Runs state) (msg : String) : Runs (setErrorMsg msg state) :=
  ⟨⟨runs.steady.ready.setErrorMsg msg, runs.steady.leads, runs.steady.text, runs.steady.timer⟩,
    runs.running⟩

theorem Runs.call (runs : Runs state) (made : Call) : Runs (call made (clearErrorMsg state)) :=
  ⟨⟨runs.steady.ready.call made, runs.steady.leads, runs.steady.text, runs.steady.timer⟩, runs.running⟩

theorem Runs.timerStop (runs : Runs state) : Runs (timerStop state) :=
  ⟨⟨runs.steady.ready.timerStop, runs.steady.leads, runs.steady.text, fun _ none => (by cases none)⟩,
    runs.running⟩

theorem select_runs {entry : MenuEntry} (member : entry ∈ state.menu) (runs : Runs state)
    (mode : state.inputProcessingMode = .menu) : Runs (select entry state) := by
  have redrawn (value : Bool) : Runs (setInstantGratification value state) :=
    @refresh_runs_menu { state with instantGrat := value } (runs.steady.ready.no_handler mode)
      runs.steady.timer runs.running
  have entered (screen : Screen) (menu : screen.handler = none) : Runs (setCurrentScreen screen state) :=
    enter_runs menu runs.steady.timer runs.running
  have toggled (led : Led) (path : String) : Runs (toggle led path state) :=
    (runs.request (.setBooleanOverride "/app/vegasMode/continuous/enable" false)).request _
  have leads := runs.steady.leads entry member
  obtain ⟨selectionFunc, context⟩ := entry
  cases selectionFunc with
  | disableOutOfBoxExperience => exact redrawn false
  | enableOutOfBoxExperience => exact redrawn true
  | handleLedsSelection => exact entered .ledScreen rfl
  | handleBuzzerSelection => exact entered .buzzerMain rfl
  | handleOctaveSelection => exact entered .octaveScreen rfl
  | toggleGenericLed => exact toggled .generic _
  | toggleRed => exact toggled .triColourRed _
  | toggleGreen => exact toggled .triColourGreen _
  | toggleBlue => exact toggled .triColourBlue _
  | enableVegasMode => exact runs.request _
  | disableVegasMode => exact runs.request _
  | enableInstantGratification => exact redrawn true
  | disableInstantGratification => exact redrawn false
  | activateBuzzer => exact runs.request _
  | deactivateBuzzer => exact runs.request _
  | enterSubScreen => exact enterSubScreen_runs (leads rfl) runs

theorem handleInput_runs (check : Float → Option String) (path : String) (text : List Byte)
    (runs : Runs state) : Runs (handleInput strtod check path text state) := by
  simp only [handleInput]
  split
  · exact refresh_runs (runs.setErrorMsg _)
  split
  · exact refresh_runs (runs.setErrorMsg _)
  split
  · exact enter_runs rfl runs.steady.timer runs.running
  split
  · exact refresh_runs (runs.setErrorMsg _)
  · exact enter_runs rfl runs.steady.timer runs.running

theorem submit_runs (handler : TextEntryHandler) (text : List Byte) (runs : Runs state) :
    Runs (submit strtod handler text state) := by
  cases handler with
  | handleInputPeriod =>
      rw [submit, handleInputPeriod]
      exact handleInput_runs _ _ text runs
  | handleInputPercent =>
      rw [submit, handleInputPercent]
      exact handleInput_runs _ _ text runs

/-! One event. -/

/-- An observer could have watched the input so far. -/
theorem Runs.watched (runs : Runs state) : ∃ watch : Watch, (Session.mk state watch).Inv ∧
    (state.inputProcessingMode = .textEntry → ∀ char ∈ watch.text, isprint char = true) := by
  have timed : ∃ since, Timed state.escapeTimer since := by
    cases timer : state.escapeTimer with
    | none => exact ⟨none, timed_none⟩
    | some left =>
        obtain ⟨positive, short⟩ := runs.steady.timer left timer
        refine ⟨some (msInterval - left), ?_, fun past same => ?_⟩
        · rw [Option.map_some]
          congr 1
          omega
        · cases same
          omega
  obtain ⟨since, timed⟩ := timed
  by_cases entry : state.inputProcessingMode = .textEntry
  · obtain ⟨text, holds, visible⟩ := runs.steady.text entry
    exact ⟨⟨text, false, since⟩, ⟨runs.steady.ready, fun _ => holds, timed⟩, fun _ => visible⟩
  · exact ⟨⟨[], false, since⟩, ⟨runs.steady.ready, fun other => absurd other entry, timed⟩,
      fun other => absurd other entry⟩

theorem byte_asked {further : Bool} {input : Byte}
    (asks : Asks terminal state (.input further (.byte input))) :
    (inputHandler terminal strtod (.byte input) state).exited = true := by
  rw [inputHandler]
  rcases asks with ends | ⟨mode, letter⟩
  · rw [if_pos ends]
    rfl
  · by_cases ends : input = terminal.endOfFileChar
    · rw [if_pos ends]
      rfl
    · have free : input ≠ escapeChar ∧ input ≠ ctrlR := by
        rcases letter with rfl | rfl <;> decide
      have menu : (timerStop state).inputProcessingMode = .menu := mode
      rw [if_neg ends, if_neg free.1, if_neg free.2, handleInputByte, menu]
      show (handleMenuInput input (timerStop state)).exited = true
      rw [handleMenuInput, if_pos letter]
      rfl

theorem handled_runs {further : Bool} {input : Byte} {watch : Watch} {after : State} (runs : Runs state)
    (inv : (Session.mk state watch).Inv)
    (visible : state.inputProcessingMode = .textEntry → ∀ char ∈ watch.text, isprint char = true)
    (quiet : ¬ Asks terminal state (.input further (.byte input)))
    (handled : Handled terminal strtod ⟨state, watch⟩ input after) : Runs after := by
  have stopped := runs.timerStop
  have ready := runs.steady.ready
  cases handled with
  | quit ends => exact absurd ends quiet
  | escape more is =>
      refine ⟨⟨⟨ready.fits, ready.menu, ready.entry⟩, runs.steady.leads, runs.steady.text, ?_⟩, runs.running⟩
      intro left same
      cases same
      decide
  | redraw msg more free mode missing asks =>
      exact @refresh_runs_menu { timerStop state with errorMsg := msg }
        (runs.steady.ready.no_handler mode) stopped.steady.timer runs.running
  | select entry more free mode found =>
      have member : entry ∈ state.menu := List.mem_of_getElem? (numbered_some found).2
      exact @select_runs (call (.select entry) (clearErrorMsg (timerStop state))) entry member
        (stopped.call (.select entry)) mode
  | erase more free mode is some =>
      refine ⟨⟨⟨ready.fits, ready.menu, ready.entry⟩, runs.steady.leads, fun _ => ⟨watch.text.dropLast, ?_, ?_⟩,
        stopped.steady.timer⟩, runs.running⟩
      · exact holds_dropLast (inv.text mode) some
      · exact fun char member => visible mode char ((List.dropLast_sublist _).subset member)
  | submit handler more free mode kind is =>
      exact submit_runs handler watch.text (stopped.call (.submit handler watch.text))
  | append more free mode differs shown room =>
      have nonzero : input ≠ 0 := by
        rintro rfl
        exact absurd shown (by decide)
      refine ⟨⟨⟨ready.fits, ready.menu, ready.entry⟩, runs.steady.leads, fun _ => ⟨watch.text ++ [input], ?_, ?_⟩,
        stopped.steady.timer⟩, runs.running⟩
      · exact holds_append (inv.text mode) nonzero (Nat.add_lt_of_lt_sub room)
      · intro char member
        rcases List.mem_append.mp member with old | new
        · exact visible mode char old
        · rw [List.mem_singleton.mp new]
          exact shown
  | ignored free idle => exact stopped

theorem byte_runs {further : Bool} {input : Byte} (runs : Runs state)
    (quiet : ¬ Asks terminal state (.input further (.byte input))) :
    Runs (inputHandler terminal strtod (.byte input) state) := by
  obtain ⟨watch, inv, visible⟩ := runs.watched
  exact handled_runs runs inv visible quiet (handled inv input)

/-- Leaving the main menu ends the program, and leaving another screen leads to a menu. -/
theorem leaveFunc_runs (screen : Screen)
    (timer : ∀ left, state.escapeTimer = some left → 0 < left ∧ left ≤ msInterval)
    (running : state.exited = false) :
    if screen = .mainMenu then (leaveFunc screen state).exited = true else Runs (leaveFunc screen state) := by
  cases screen with
  | mainMenu => exact rfl
  | ledScreen => exact @enter_runs state .mainMenu rfl timer running
  | buzzerMain => exact @enter_runs state .mainMenu rfl timer running
  | buzzerPeriod => exact @enter_runs state .buzzerMain rfl timer running
  | buzzerPercent => exact @enter_runs state .buzzerMain rfl timer running
  | octaveScreen => exact @enter_runs state .mainMenu rfl timer running

theorem elapse_runs (ms : Nat) (runs : Runs state) :
    (Asks terminal state (.wait ms) → (elapse ms state).exited = true) ∧
      (¬ Asks terminal state (.wait ms) → Runs (elapse ms state)) := by
  cases timer : state.escapeTimer with
  | none =>
      have same : elapse ms state = state := by rw [elapse, timer]
      rw [same]
      refine ⟨fun asks => ?_, fun _ => runs⟩
      obtain ⟨left, started, _⟩ := asks.2
      exact absurd (timer.symm.trans started) (Option.some_ne_none _).symm
  | some left =>
      by_cases late : left ≤ ms
      · have same : elapse ms state = leaveFunc state.currentScreen
            (call (.leave state.currentScreen) (timerStop state)) := by
          simp only [elapse, timer, if_pos late]
          rfl
        have leaves := @leaveFunc_runs (call (.leave state.currentScreen) (timerStop state))
          state.currentScreen runs.timerStop.steady.timer runs.running
        rw [same]
        by_cases main : state.currentScreen = .mainMenu
        · rw [if_pos main] at leaves
          exact ⟨fun _ => leaves, fun quiet => absurd ⟨main, left, timer, late⟩ quiet⟩
        · rw [if_neg main] at leaves
          exact ⟨fun asks => absurd asks.1 main, fun _ => leaves⟩
      · have same : elapse ms state = { state with escapeTimer := some (left - ms) } := by
          simp only [elapse, timer, if_neg late]
        obtain ⟨_, short⟩ := runs.steady.timer left timer
        rw [same]
        constructor
        · rintro ⟨_, other, started, early⟩
          rw [timer, Option.some.injEq] at started
          omega
        · intro _
          refine ⟨⟨⟨runs.steady.ready.fits, runs.steady.ready.menu, runs.steady.ready.entry⟩,
            runs.steady.leads, runs.steady.text, fun rest same => ?_⟩, runs.running⟩
          cases same
          omega

theorem refreshOn_runs (screen : Screen) (runs : Runs state) : Runs (refreshOn screen state) := by
  unfold refreshOn
  split
  · exact refresh_runs runs
  · exact runs

theorem handle_runs (event : Event) (runs : Runs state) :
    (Asks terminal state event → (handle terminal strtod event state).exited = true) ∧
      (¬ Asks terminal state event → Runs (handle terminal strtod event state)) := by
  cases event with
  | input further poll =>
      cases poll with
      | byte input => exact ⟨byte_asked, byte_runs runs⟩
      | readError => exact ⟨False.elim, fun _ => runs⟩
      | endOfFile => exact ⟨fun _ => rfl, fun quiet => absurd trivial quiet⟩
      | interrupted => exact ⟨fun _ => rfl, fun quiet => absurd trivial quiet⟩
  | wait ms => exact elapse_runs ms runs
  | refresh => exact ⟨False.elim, fun _ => refresh_runs runs⟩
  | ledPush led value =>
      refine ⟨False.elim, fun _ => refreshOn_runs .ledScreen ⟨⟨?_, runs.steady.leads, runs.steady.text,
        runs.steady.timer⟩, runs.running⟩⟩
      exact ⟨runs.steady.ready.fits, runs.steady.ready.menu, runs.steady.ready.entry⟩
  | enablePush value =>
      refine ⟨False.elim, fun _ => refreshOn_runs .buzzerMain ⟨⟨?_, runs.steady.leads, runs.steady.text,
        runs.steady.timer⟩, runs.running⟩⟩
      exact ⟨runs.steady.ready.fits, runs.steady.ready.menu, runs.steady.ready.entry⟩
  | numberPush => exact ⟨False.elim, fun _ => refreshOn_runs .buzzerMain runs⟩
  | configure value =>
      refine ⟨False.elim, fun _ => ⟨⟨?_, runs.steady.leads, runs.steady.text, runs.steady.timer⟩,
        runs.running⟩⟩
      exact ⟨runs.steady.ready.fits, runs.steady.ready.menu, runs.steady.ready.entry⟩

/-! Runs. -/

theorem initial_runs (instantGrat : Bool) : Runs (initial instantGrat) :=
  @enter_runs (loaded instantGrat) .mainMenu rfl (fun _ none => (by cases none)) rfl

/-- The program is steady as long as it runs, and what ends it is asked for. -/
def EndsAsAsked (terminal : Terminal) (strtod : List Byte → Number) (state : State) (event : Event) : Prop :=
  state.exited = false → Steady state ∧
    ((step terminal strtod state event).exited = true ↔ Asks terminal state event)

/-- In every run, whatever the keys send and the terminal's characters are, no check fails
that would end the program. -/
theorem ends_as_asked (terminal : Terminal) (strtod : List Byte → Number) (instantGrat : Bool)
    (events : List Event) :
    Along (step terminal strtod) (EndsAsAsked terminal strtod) (initial instantGrat) events := by
  have stepped {state : State} {event : Event} (running : state.exited = false) :
      step terminal strtod state event = handle terminal strtod event state := by
    rw [step, running, if_neg Bool.false_ne_true]
  have meets : ∀ {state event}, (state.exited = false → Runs state) →
      EndsAsAsked terminal strtod state event := by
    intro state event runs running
    have handled := @handle_runs terminal strtod state event (runs running)
    refine ⟨(runs running).steady, ?_⟩
    rw [stepped running]
    refine ⟨fun ended => Classical.byContradiction fun quiet => ?_, handled.1⟩
    exact absurd ((handled.2 quiet).running.symm.trans ended) Bool.false_ne_true
  have keep : ∀ {state event}, (state.exited = false → Runs state) →
      (step terminal strtod state event).exited = false → Runs (step terminal strtod state event) := by
    intro state event runs after
    cases running : state.exited with
    | true =>
        have same : step terminal strtod state event = state := by rw [step, if_pos running]
        rw [same] at after ⊢
        exact runs after
    | false =>
        have handled := @handle_runs terminal strtod state event (runs running)
        rw [stepped running] at after ⊢
        refine handled.2 fun asks => ?_
        exact absurd (after.symm.trans (handled.1 asks)) Bool.false_ne_true
  exact along_always meets keep fun _ => initial_runs instantGrat

end MangOH.CmdLine
