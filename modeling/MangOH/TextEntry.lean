import MangOH.CmdSession

/-!
Text entry, menus and the ESC key over whole runs of the command line. The bytes that a key
sends after ESC are handled as keys of their own.
-/

namespace MangOH.CmdLine

open Trace PaddedText

variable {terminal : Terminal} {strtod : List Byte → Number} {state after : State} {session : Session}
  {input : Byte}

/-! Time, and the other events. -/

theorem step_running (event : Event) (running : session.state.exited = false) :
    session.step terminal strtod event =
      ⟨handle terminal strtod event session.state,
        session.watch.next terminal session.state.inputProcessingMode event⟩ := by
  simp [Session.step, CmdLine.step, running]

theorem inKey_free {watch : Watch} {further : Bool} (inside : watch.inKey further input = true) :
    input ≠ escapeChar := by
  simp only [Watch.inKey, Bool.and_eq_true, decide_eq_true_eq] at inside
  exact inside.2

/-- The session after a byte. -/
def Session.typed (terminal : Terminal) (session : Session) (further : Bool) (input : Byte) (state : State) :
    Session :=
  ⟨state, session.watch.next terminal session.state.inputProcessingMode (.input further (.byte input))⟩

attribute [local simp] Session.typed Watch.next

theorem typed_text_inside {further : Bool} (inside : session.watch.inKey further input = true)
    (mode : session.state.inputProcessingMode = .textEntry) :
    (session.typed terminal further input after).watch.text = session.watch.text := by
  simp [mode, inside]

theorem typed_text {further : Bool} (outside : session.watch.inKey further input = false)
    (mode : session.state.inputProcessingMode = .textEntry) :
    (session.typed terminal further input after).watch.text = edit terminal session.watch.text input := by
  simp [mode, outside]

theorem typed_text_menu {further : Bool} (mode : session.state.inputProcessingMode = .menu) :
    (session.typed terminal further input after).watch.text = [] := by
  simp [mode]

theorem meets_inside {further : Bool} (inv : session.Inv) (running : session.state.exited = false)
    (inside : session.watch.inKey further input = true)
    (handled : Handled terminal strtod session input after) :
    Meets terminal session (.input further (.byte input)) (session.typed terminal further input after) ↔
      ¬ session.Acts terminal input := by
  have lands := handled_lands inv handled
  have free := inKey_free inside
  constructor
  · intro meets acts
    obtain ⟨calls, made, silent⟩ := meets.calls
    simp only [Session.Calls, inside, if_true] at silent
    have called : session.calledBy terminal input = [] :=
      (List.append_cancel_left (lands.calls.symm.trans made)).trans silent
    exact handled_acts inv handled free acts called (meets.key further input rfl inside)
  · intro idle
    have untouched := handled_untouched inv running handled free idle
    refine ⟨fun now => ?_, ⟨[], ?_, ?_⟩, nofun, fun _ _ _ _ => untouched⟩
    · have mode := untouched.mode.symm.trans now
      have same : (session.typed terminal further input after).state.textEntryBuffer =
          session.state.textEntryBuffer := untouched.text
      rw [typed_text_inside inside mode, same]
      exact inv.text mode
    · rw [← calledBy_idle inv idle]
      exact lands.calls
    · simp only [Session.Calls, inside, if_true]

theorem meets_outside {further : Bool} (inv : session.Inv)
    (outside : session.watch.inKey further input = false)
    (handled : Handled terminal strtod session input after) :
    Meets terminal session (.input further (.byte input)) (session.typed terminal further input after) ↔
      ¬ session.Blocked terminal input := by
  have lands := handled_lands inv handled
  constructor
  · intro meets blocked
    obtain ⟨now, same⟩ := handled_blocked handled blocked
    obtain ⟨mode, erase, more, _, some⟩ := blocked
    have holds := meets.text now
    rw [typed_text outside mode, edit, if_neg more, if_pos erase] at holds
    have also : Holds 0 textEntryBufferSize session.watch.text after.textEntryBuffer :=
      same.symm ▸ inv.text mode
    exact dropLast_ne some (holds_unique holds also)
  · intro works
    refine ⟨fun now => ?_, ⟨_, lands.calls, ?_⟩, fun _ same => Event.noConfusion same, ?_⟩
    · rcases inv.ready.cases with ⟨mode, _⟩ | ⟨_, mode, _, _⟩
      · rw [typed_text_menu mode]
        exact handled_enters inv handled mode now
      · rw [typed_text outside mode]
        exact handled_follows inv handled works mode now
    · simp [Session.Calls, outside]
    · intro _ _ same key
      cases same
      exact absurd (outside.symm.trans key) Bool.false_ne_true

theorem meets_byte (further : Bool) (inv : session.Inv) (running : session.state.exited = false) :
    Meets terminal session (.input further (.byte input))
        (session.step terminal strtod (.input further (.byte input))) ↔
      if session.watch.inKey further input then ¬ session.Acts terminal input
      else ¬ session.Blocked terminal input := by
  have handled : Handled terminal strtod session input _ := handled inv input
  have stepped : session.step terminal strtod (.input further (.byte input)) =
      session.typed terminal further input _ := step_running _ running
  rw [stepped]
  cases inside : session.watch.inKey further input with
  | true =>
      rw [if_pos rfl]
      exact meets_inside inv running inside handled
  | false =>
      rw [if_neg Bool.false_ne_true]
      exact meets_outside inv inside handled

/-- Drawing keeps the mode. -/
theorem refresh_mode (ready : Ready state) :
    (refresh state).inputProcessingMode = state.inputProcessingMode := by
  rcases ready.cases with ⟨mode, kind⟩ | ⟨_, _, _, kind⟩
  · rw [refresh_menu kind, mode]
  · rw [refresh_entry kind]

/-- Nothing but the menu and the values that are shown changes. -/
structure Idle (state after : State) : Prop where
  lands : Lands state.calls state.escapeTimer state.textEntryBuffer after
  mode : after.inputProcessingMode = state.inputProcessingMode

theorem idle_refreshOn (screen : Screen) (ready : Ready state) : Idle state (refreshOn screen state) := by
  unfold refreshOn
  split
  · exact ⟨refresh_lands ready, refresh_mode ready⟩
  · exact ⟨⟨ready, rfl, rfl, fun _ => rfl⟩, rfl⟩

theorem handle_idle (event : Event) (ready : Ready state)
    (bytes : ∀ further input, event ≠ .input further (.byte input)) (time : ∀ ms, event ≠ .wait ms) : Idle state (handle terminal strtod event state) := by
  have same : Idle state state := ⟨⟨ready, rfl, rfl, fun _ => rfl⟩, rfl⟩
  have ended : Idle state (exit state) := ⟨⟨ready.exit, rfl, rfl, fun _ => rfl⟩, rfl⟩
  cases event with
  | input further poll =>
      cases poll with
      | byte input => exact absurd rfl (bytes further input)
      | readError => exact same
      | endOfFile => exact ended
      | interrupted => exact ended
  | wait ms => exact absurd rfl (time ms)
  | refresh => exact ⟨refresh_lands ready, refresh_mode ready⟩
  | ledPush led value =>
      have shown : Ready { state with
          ledStates := fun key => if key = led then .ofBool value else state.ledStates key } :=
        ⟨ready.fits, ready.menu, ready.entry⟩
      have pushed := idle_refreshOn .ledScreen shown
      exact ⟨pushed.lands, pushed.mode⟩
  | enablePush value =>
      have shown : Ready { state with enableState := .ofBool value } :=
        ⟨ready.fits, ready.menu, ready.entry⟩
      have pushed := idle_refreshOn .buzzerMain shown
      exact ⟨pushed.lands, pushed.mode⟩
  | numberPush => exact idle_refreshOn .buzzerMain ready
  | configure value => exact ⟨⟨⟨ready.fits, ready.menu, ready.entry⟩, rfl, rfl, fun _ => rfl⟩, rfl⟩

theorem leaveFunc_mode (ready : Ready state) :
    (leaveFunc state.currentScreen state).inputProcessingMode = .menu := by
  cases screen : state.currentScreen with
  | mainMenu => exact ready.menu (by rw [screen]; rfl)
  | ledScreen => exact enter_mode .mainMenu state rfl
  | buzzerMain => exact enter_mode .mainMenu state rfl
  | buzzerPeriod => exact enter_mode .buzzerMain state rfl
  | buzzerPercent => exact enter_mode .buzzerMain state rfl
  | octaveScreen => exact enter_mode .mainMenu state rfl

/-- The timer expires exactly when the screen is to be left. -/
theorem expires_iff (inv : session.Inv) (ms : Nat) :
    session.watch.Expires ms ↔ ∃ left, session.state.escapeTimer = some left ∧ left ≤ ms := by
  rw [inv.timed.left, Watch.Expires]
  constructor
  · rintro ⟨past, since, late⟩
    rw [Option.mem_def.mp since]
    exact ⟨msInterval - past, rfl, by omega⟩
  · rintro ⟨left, running, late⟩
    obtain ⟨past, since, rfl⟩ := Option.map_eq_some_iff.mp running
    exact ⟨past, since, by omega⟩

theorem elapse_expired (inv : session.Inv) {ms : Nat} (expires : session.watch.Expires ms) :
    elapse ms session.state = handleEscapeTimerExpiry (timerStop session.state) := by
  obtain ⟨left, running, late⟩ := (expires_iff inv ms).mp expires
  simp only [elapse, running, if_pos late]

theorem elapse_pending (inv : session.Inv) {ms : Nat} (pending : ¬ session.watch.Expires ms) :
    elapse ms session.state =
      { session.state with escapeTimer := session.state.escapeTimer.map (· - ms) } := by
  cases running : session.state.escapeTimer with
  | none =>
      simp only [elapse, running, Option.map_none]
      rw [← running]
  | some left =>
      have early : ¬ left ≤ ms := fun late => pending ((expires_iff inv ms).mpr ⟨left, running, late⟩)
      simp [elapse, running, early]

/-- The call into the screen that is left is made before it. -/
theorem expiry_lands (ready : Ready state) :
    Lands (state.calls ++ [.leave state.currentScreen]) none []
      (handleEscapeTimerExpiry (timerStop state)) := by
  have called : Ready (call (.leave state.currentScreen) (timerStop state)) :=
    ⟨ready.fits, ready.menu, ready.entry⟩
  exact leaveFunc_lands called

theorem meets_wait (ms : Nat) (inv : session.Inv) (running : session.state.exited = false) :
    Meets terminal session (.wait ms) (session.step terminal strtod (.wait ms)) := by
  rw [step_running _ running]
  have called : Ready (call (.leave session.state.currentScreen) (timerStop session.state)) :=
    ⟨inv.ready.fits, inv.ready.menu, inv.ready.entry⟩
  by_cases expires : session.watch.Expires ms
  · have after : handle terminal strtod (.wait ms) session.state =
        handleEscapeTimerExpiry (timerStop session.state) := elapse_expired inv expires
    rw [after]
    refine ⟨fun now => ?_, ⟨_, (expiry_lands inv.ready).calls, .inl ⟨expires, rfl⟩⟩, ?_, nofun⟩
    · exact absurd ((leaveFunc_mode called).symm.trans now) nofun
    · intro _ same
      cases same
      exact iff_of_true (leaveFunc_leaves (call _ (timerStop session.state))) expires
  · have after : handle terminal strtod (.wait ms) session.state = _ := elapse_pending inv expires
    rw [after]
    refine ⟨inv.text, ⟨[], (List.append_nil _).symm, .inr ⟨expires, rfl⟩⟩, ?_, nofun⟩
    intro _ same
    cases same
    refine iff_of_false ?_ expires
    rintro (ended | moved)
    · exact absurd (running.symm.trans ended) nofun
    · exact moved rfl

theorem next_idle {mode : InputMode} {watch : Watch} {event : Event}
    (bytes : ∀ further input, event ≠ .input further (.byte input)) (time : ∀ ms, event ≠ .wait ms) :
    watch.next terminal mode event = watch := by
  unfold Watch.next
  split
  · exact absurd rfl (bytes _ _)
  · exact absurd rfl (time _)
  · rfl

theorem meets_idle (event : Event) (inv : session.Inv) (running : session.state.exited = false)
    (bytes : ∀ further input, event ≠ .input further (.byte input)) (time : ∀ ms, event ≠ .wait ms) :
    Meets terminal session event (session.step terminal strtod event) := by
  rw [step_running _ running, next_idle bytes time]
  have idle : Idle session.state (handle terminal strtod event session.state) :=
    handle_idle event inv.ready bytes time
  refine ⟨fun now => ?_, ⟨[], ?_, ?_⟩, fun ms same => absurd same (time ms),
    fun further input same => absurd same (bytes further input)⟩
  · rw [idle.lands.buffer now]
    exact inv.text (idle.mode.symm.trans now)
  · rw [List.append_nil]
    exact idle.lands.calls
  · unfold Session.Calls
    split
    · exact absurd rfl (bytes _ _)
    · exact absurd rfl (time _)
    · rfl

/-! Runs. -/

theorem meets_iff (event : Event) (inv : session.Inv) :
    Safe terminal session event ↔ Good terminal strtod session event := by
  cases event with
  | input further poll =>
      cases poll with
      | byte input => exact forall_congr' fun running => (meets_byte further inv running).symm
      | _ => exact iff_of_true trivial fun running => meets_idle _ inv running nofun nofun
  | wait ms => exact iff_of_true trivial (meets_wait ms inv)
  | _ => exact iff_of_true trivial fun running => meets_idle _ inv running nofun nofun

theorem timed_wait (inv : session.Inv) (ms : Nat) :
    Timed (elapse ms session.state).escapeTimer
      ((session.watch.since.map (· + ms)).filter (· < msInterval)) := by
  by_cases expires : session.watch.Expires ms
  · rw [elapse_expired inv expires, (expiry_lands inv.ready).timer]
    obtain ⟨past, since, late⟩ := expires
    rw [Option.mem_def.mp since, Option.map_some,
      Option.filter_some_neg (by simpa using late)]
    exact timed_none
  · rw [elapse_pending inv expires]
    show Timed (session.state.escapeTimer.map (· - ms)) _
    rw [inv.timed.left]
    cases since : session.watch.since with
    | none => exact timed_none
    | some past =>
        have early : past + ms < msInterval := by
          by_contra late
          exact expires ⟨past, since, Nat.le_of_not_lt late⟩
        rw [Option.map_some, Option.map_some, Option.map_some,
          Option.filter_some_pos (by simpa using early)]
        refine ⟨congrArg some (Nat.sub_sub msInterval past ms), fun later same => ?_⟩
        cases same
        exact early

theorem timed_byte {further : Bool} (inv : session.Inv)
    (handled : Handled terminal strtod session input after) :
    Timed after.escapeTimer (session.typed terminal further input after).watch.since := by
  show Timed _ (if decide (input = escapeChar ∧ input ≠ terminal.endOfFileChar) = true then _ else _)
  rw [(handled_lands inv handled).timer]
  by_cases escape : input = escapeChar ∧ input ≠ terminal.endOfFileChar
  · rw [if_pos escape, if_pos (decide_eq_true escape)]
    exact timed_start
  · rw [if_neg escape, if_neg (by simpa using escape)]
    exact timed_none

theorem ready_elapse (inv : session.Inv) (ms : Nat) : Ready (elapse ms session.state) := by
  by_cases expires : session.watch.Expires ms
  · rw [elapse_expired inv expires]
    exact (expiry_lands inv.ready).ready
  · rw [elapse_pending inv expires]
    exact ⟨inv.ready.fits, inv.ready.menu, inv.ready.entry⟩

/-- The text is the part of the invariant that takes a safe step. -/
theorem inv_step (event : Event) (inv : session.Inv) (safe : Safe terminal session event) :
    (session.step terminal strtod event).Inv := by
  cases running : session.state.exited with
  | true =>
      have same : session.step terminal strtod event = session := by
        simp [Session.step, CmdLine.step, running]
      exact same.symm ▸ inv
  | false =>
      have good : Good terminal strtod session event := (meets_iff event inv).mp safe
      have text := (good running).text
      have idle (bytes : ∀ further input, event ≠ .input further (.byte input))
          (time : ∀ ms, event ≠ .wait ms) : (session.step terminal strtod event).Inv := by
        have idle : Idle session.state (handle terminal strtod event session.state) :=
          handle_idle event inv.ready bytes time
        rw [step_running event running, next_idle bytes time] at text ⊢
        refine ⟨idle.lands.ready, text, ?_⟩
        exact idle.lands.timer.symm ▸ inv.timed
      cases event with
      | input further poll =>
          cases poll with
          | byte input =>
              have handled : Handled terminal strtod session input _ := handled inv input
              rw [step_running _ running] at text ⊢
              exact ⟨(handled_lands inv handled).ready, text, timed_byte inv handled⟩
          | _ => exact idle nofun nofun
      | wait ms =>
          rw [step_running _ running] at text ⊢
          exact ⟨ready_elapse inv ms, text, timed_wait inv ms⟩
      | _ => exact idle nofun nofun

theorem initial_inv (instantGrat : Bool) : (Session.initial instantGrat).Inv := by
  have lands : Lands [] none [] (Session.initial instantGrat).state :=
    enter_lands .mainMenu (loaded instantGrat) rfl
  have mode : (Session.initial instantGrat).state.inputProcessingMode = .menu :=
    enter_mode .mainMenu (loaded instantGrat) rfl
  refine ⟨lands.ready, fun entry => absurd (mode.symm.trans entry) nofun, ?_⟩
  rw [lands.timer]
  exact timed_none

/-- Along every run, the text entry, the menus and the ESC key are as they are to be exactly if
no byte that a key sends after ESC is one that the input handler acts on, and no erase is blocked. -/
theorem text_entry_iff (terminal : Terminal) (strtod : List Byte → Number) (instantGrat : Bool)
    (events : List Event) :
    Along (Session.step terminal strtod) (Good terminal strtod) (Session.initial instantGrat) events ↔
      Along (Session.step terminal strtod) (Safe terminal) (Session.initial instantGrat) events := by
  have same : ∀ {session event}, Session.Inv session →
      (Safe terminal session event ↔ Good terminal strtod session event) :=
    fun inv => meets_iff _ inv
  have keep : ∀ {session event}, Session.Inv session → Safe terminal session event →
      (session.step terminal strtod event).Inv := fun inv safe => inv_step _ inv safe
  exact (@along_iff _ _ _ _ _ Session.Inv same keep events _ (initial_inv instantGrat)).symm

def vt : Terminal := ⟨4, 127⟩

def noNumber (_ : List Byte) : Number := ⟨false, 0, 0⟩

/-- An arrow key while the period is entered. -/
def arrowKey : List Event :=
  [.input false (.byte 51), .input false (.byte 50), .input false (.byte 27), .input true (.byte 91)]

/-- The delete key while the main menu is shown. -/
def deleteKey : List Event :=
  [.input false (.byte 27), .input true (.byte 91), .input true (.byte 51)]

theorem arrow_key_typed :
    ¬ Along (Session.step vt noNumber) (Good vt noNumber) (Session.initial true) arrowKey ∧
      ¬ Along (Session.step vt noNumber) (Good vt noNumber) (Session.initial true) deleteKey := by
  constructor
  · intro along
    have good := @along_last _ _ _ _ (arrowKey.take 3) (.input true (.byte 91)) _ along
    have typed := congrArg (·[0]?) ((good rfl).key true 91 rfl rfl).text
    exact absurd typed (by decide)
  · intro along
    have good := @along_last _ _ _ _ (deleteKey.take 2) (.input true (.byte 51)) _ along
    exact ((good rfl).key true 51 rfl rfl).screen (.inr (by decide))

end MangOH.CmdLine
