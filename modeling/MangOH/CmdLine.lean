import MangOH.PaddedText

/-!
The command line of the Yellow's welcome application. Its input arrives one byte at a time;
the screens put it into menu mode or text entry mode when they are drawn or entered. A timer
tells the ESC key from a key that sends ESC and further bytes. What is only printed is left
out.
-/

namespace MangOH.CmdLine

abbrev Byte := BitVec 8

def maxMenuOptions : Nat := 9

def escapeChar : Byte := 27

def ctrlR : Byte := 18

def textEntryBufferSize : Nat := 1024

/-- The interval of the escape timer, in milliseconds. -/
def msInterval : Nat := 100

/-- The characters that the settings of the terminal give. -/
structure Terminal where
  endOfFileChar : Byte
  eraseChar : Byte

/-- What `strtod` makes of a text: whether it sets `errno`, how far it reads, and the number. -/
structure Number where
  errno : Bool
  endPtr : Nat
  value : Float

inductive Screen where
  | mainMenu
  | ledScreen
  | buzzerMain
  | buzzerPeriod
  | buzzerPercent
  | octaveScreen
deriving DecidableEq

inductive InputMode where
  | menu
  | textEntry
  | passwordEntry
deriving DecidableEq

inductive BoolState where
  | unknown
  | off
  | on
deriving DecidableEq

def BoolState.ofBool (value : Bool) : BoolState := if value then .on else .off

/-- The state variables of the LED screen. -/
inductive Led where
  | generic
  | triColourRed
  | triColourGreen
  | triColourBlue
  | vegasModeEnable
deriving DecidableEq

inductive SelectionFunc where
  | disableOutOfBoxExperience
  | enableOutOfBoxExperience
  | handleLedsSelection
  | handleBuzzerSelection
  | handleOctaveSelection
  | toggleGenericLed
  | toggleRed
  | toggleGreen
  | toggleBlue
  | enableVegasMode
  | disableVegasMode
  | enableInstantGratification
  | disableInstantGratification
  | activateBuzzer
  | deactivateBuzzer
  | enterSubScreen
deriving DecidableEq

structure MenuEntry where
  selectionFunc : SelectionFunc
  contextPtr : Option Screen
deriving DecidableEq

inductive TextEntryHandler where
  | handleInputPeriod
  | handleInputPercent
deriving DecidableEq

/-- The calls of the command line into the screens. -/
inductive Call where
  | select (entry : MenuEntry)
  | submit (handler : TextEntryHandler) (text : List Byte)
  | leave (screen : Screen)
deriving DecidableEq

/-- What the screens ask the Data Hub for. -/
inductive Request where
  | pushBoolean (path : String) (value : Bool)
  | pushNumeric (path : String) (value : Float)
  | setBooleanOverride (path : String) (value : Bool)

structure State where
  currentScreen : Screen
  inputProcessingMode : InputMode
  errorMsg : String
  /-- The entries that count, of `MenuEntryList`. -/
  menu : List MenuEntry
  textEntryHandlerFunc : Option TextEntryHandler
  textEntryBuffer : List Byte
  /-- The time until it expires, while the timer runs. -/
  escapeTimer : Option Nat
  ledStates : Led → BoolState
  enableState : BoolState
  /-- `enableInstantGrat` in the configuration tree. -/
  instantGrat : Bool
  calls : List Call
  requests : List Request
  exited : Bool

variable (terminal : Terminal) (strtod : List Byte → Number)

/-- The process ends, by `exit` or by a fatal error. -/
def exit (state : State) : State := { state with exited := true }

def call (made : Call) (state : State) : State := { state with calls := state.calls ++ [made] }

def request (made : Request) (state : State) : State :=
  { state with requests := state.requests ++ [made] }

def setErrorMsg (msg : String) (state : State) : State :=
  { state with errorMsg := "** ERROR: " ++ msg }

def clearErrorMsg (state : State) : State := { state with errorMsg := "" }

def menuMode (state : State) : State := { state with inputProcessingMode := .menu, menu := [] }

def addMenuEntry (selectionFunc : SelectionFunc) (contextPtr : Option Screen) (state : State) : State :=
  if state.menu.length < maxMenuOptions then
    { state with menu := state.menu ++ [⟨selectionFunc, contextPtr⟩] }
  else exit state

def textEntryMode (handlerFunc : TextEntryHandler) (state : State) : State :=
  { state with
    inputProcessingMode := .textEntry
    textEntryHandlerFunc := some handlerFunc
    textEntryBuffer := PaddedText.cleared 0 textEntryBufferSize }

/-! The screens as they are drawn. -/

def drawMainMenu (state : State) : State :=
  menuMode state
    |> addMenuEntry
        (if state.instantGrat then .disableOutOfBoxExperience else .enableOutOfBoxExperience) none
    |> addMenuEntry .handleLedsSelection none
    |> addMenuEntry .handleBuzzerSelection none
    |> addMenuEntry .handleOctaveSelection none

def drawLedScreen (state : State) : State :=
  let toggles := menuMode state
    |> addMenuEntry .toggleGenericLed none
    |> addMenuEntry .toggleRed none
    |> addMenuEntry .toggleGreen none
    |> addMenuEntry .toggleBlue none
  if state.instantGrat then
    if state.ledStates .vegasModeEnable ≠ .on then addMenuEntry .enableVegasMode none toggles
    else addMenuEntry .disableVegasMode none toggles
  else addMenuEntry .enableInstantGratification none toggles

def drawBuzzerMain (state : State) : State :=
  menuMode state
    |> addMenuEntry (if state.enableState = .off then .activateBuzzer else .deactivateBuzzer) none
    |> addMenuEntry .enterSubScreen (some .buzzerPeriod)
    |> addMenuEntry .enterSubScreen (some .buzzerPercent)

def drawOctaveScreen (state : State) : State :=
  menuMode state
    |> addMenuEntry
        (if state.instantGrat then .disableInstantGratification else .enableInstantGratification) none

/-- The screens of the two text entries are printed and nothing else. -/
def drawFunc : Screen → State → State
  | .mainMenu => drawMainMenu
  | .ledScreen => drawLedScreen
  | .buzzerMain => drawBuzzerMain
  | .buzzerPeriod => id
  | .buzzerPercent => id
  | .octaveScreen => drawOctaveScreen

def refresh (state : State) : State := drawFunc state.currentScreen state

def setCurrentScreen (screen : Screen) (state : State) : State :=
  refresh (clearErrorMsg { state with currentScreen := screen })

def mainMenuEnter : State → State := setCurrentScreen .mainMenu

def ledScreenEnter : State → State := setCurrentScreen .ledScreen

def buzzerScreenEnter : State → State := setCurrentScreen .buzzerMain

def octaveScreenEnter : State → State := setCurrentScreen .octaveScreen

def leaveSubScreen : State → State := setCurrentScreen .buzzerMain

def leaveFunc : Screen → State → State
  | .mainMenu => exit
  | .ledScreen => mainMenuEnter
  | .buzzerMain => mainMenuEnter
  | .buzzerPeriod => leaveSubScreen
  | .buzzerPercent => leaveSubScreen
  | .octaveScreen => mainMenuEnter

/-! The functions of the menu entries. -/

def setVegasMode (value : Bool) : State → State :=
  request (.setBooleanOverride "/app/vegasMode/continuous/enable" value)

def enableVegasMode : State → State := setVegasMode true

def disableVegasMode : State → State := setVegasMode false

def toggle (led : Led) (path : String) (state : State) : State :=
  disableVegasMode state |> request (.pushBoolean path (state.ledStates led ≠ .on))

def toggleGenericLed : State → State := toggle .generic "/app/leds/mono/enable"

def toggleRed : State → State := toggle .triColourRed "/app/leds/tri/red/enable"

def toggleGreen : State → State := toggle .triColourGreen "/app/leds/tri/green/enable"

def toggleBlue : State → State := toggle .triColourBlue "/app/leds/tri/blue/enable"

def setInstantGratification (value : Bool) (state : State) : State :=
  refresh { state with instantGrat := value }

def enableOutOfBoxExperience : State → State := setInstantGratification true

def disableOutOfBoxExperience : State → State := setInstantGratification false

/-- The LED screen and the Octave screen have the same one. -/
def enableInstantGratification : State → State := setInstantGratification true

def disableInstantGratification : State → State := setInstantGratification false

def pushEnable (value : Bool) : State → State := request (.pushBoolean "/app/buzzer/enable" value)

def activateBuzzer : State → State := pushEnable true

def deactivateBuzzer : State → State := pushEnable false

def enterSubScreen : Option Screen → State → State
  | some .buzzerPeriod => fun state =>
      setCurrentScreen .buzzerPeriod (textEntryMode .handleInputPeriod state)
  | some .buzzerPercent => fun state =>
      setCurrentScreen .buzzerPercent (textEntryMode .handleInputPercent state)
  | some screen => setCurrentScreen screen
  | none => exit

def select (entry : MenuEntry) : State → State :=
  match entry.selectionFunc with
  | .disableOutOfBoxExperience => disableOutOfBoxExperience
  | .enableOutOfBoxExperience => enableOutOfBoxExperience
  | .handleLedsSelection => ledScreenEnter
  | .handleBuzzerSelection => buzzerScreenEnter
  | .handleOctaveSelection => octaveScreenEnter
  | .toggleGenericLed => toggleGenericLed
  | .toggleRed => toggleRed
  | .toggleGreen => toggleGreen
  | .toggleBlue => toggleBlue
  | .enableVegasMode => enableVegasMode
  | .disableVegasMode => disableVegasMode
  | .enableInstantGratification => enableInstantGratification
  | .disableInstantGratification => disableInstantGratification
  | .activateBuzzer => activateBuzzer
  | .deactivateBuzzer => deactivateBuzzer
  | .enterSubScreen => enterSubScreen entry.contextPtr

/-! The handlers of the text entries. -/

/-- A number that `check` has nothing against is pushed. -/
def handleInput (check : Float → Option String) (path : String) (inputStr : List Byte) (state : State) :
    State :=
  let number := strtod inputStr
  if number.errno then
    refresh (setErrorMsg "Number entered is out of range (too big or too small)." state)
  else if inputStr.getD number.endPtr 0 ≠ 0 then
    refresh (setErrorMsg "Invalid characters in number entered." state)
  else if number.endPtr = 0 then leaveSubScreen state
  else
    match check number.value with
    | some msg => refresh (setErrorMsg msg state)
    | none => leaveSubScreen (request (.pushNumeric path number.value) state)

def handleInputPeriod : List Byte → State → State :=
  handleInput strtod
    (fun period => if period < 0.001 then some "Period entered is less than 1 ms." else none)
    "/app/buzzer/period"

def handleInputPercent : List Byte → State → State :=
  handleInput strtod
    (fun percent =>
      if percent > 100.0 then some "Number entered is greater than 100%."
      else if percent < 0.0 then some "Number entered is less than 0%."
      else none)
    "/app/buzzer/percent"

def submit : TextEntryHandler → List Byte → State → State
  | .handleInputPeriod => handleInputPeriod strtod
  | .handleInputPercent => handleInputPercent strtod

/-! The input. -/

def isprint (input : Byte) : Bool := 32 ≤ input ∧ input ≤ 126

def handleMenuInput (input : Byte) (state : State) : State :=
  let highestValidOption : Byte := 48 + BitVec.ofNat 8 state.menu.length
  if input = 113 ∨ input = 81 then exit state
  else if 49 ≤ input ∧ input ≤ highestValidOption then
    match state.menu[(input - 49).toNat]? with
    | some entry => clearErrorMsg state |> call (.select entry) |> select entry
    | none => exit state
  else if highestValidOption < input ∧ input ≤ 57 then
    refresh (setErrorMsg "Invalid selection. Please choose again." state)
  else state

def handleTextInput (input : Byte) (state : State) : State :=
  let len := PaddedText.filled 0 state.textEntryBuffer
  if input = terminal.eraseChar then
    if 0 < len then refresh { state with textEntryBuffer := state.textEntryBuffer.set (len - 1) 0 }
    else state
  else if input = 10 ∨ input = 13 then
    let text := PaddedText.contents 0 state.textEntryBuffer
    match state.textEntryHandlerFunc with
    | some handler => clearErrorMsg state |> call (.submit handler text) |> submit strtod handler text
    | none => exit state
  else if isprint input then
    if len < textEntryBufferSize - 1 then
      refresh { state with textEntryBuffer := state.textEntryBuffer.set len input }
    else refresh state
  else state

def handleInputByte (input : Byte) (state : State) : State :=
  match state.inputProcessingMode with
  | .menu => handleMenuInput input state
  | .textEntry => handleTextInput terminal strtod input state
  | .passwordEntry => exit state

def timerStop (state : State) : State := { state with escapeTimer := none }

def timerStart (state : State) : State := { state with escapeTimer := some msInterval }

/-- What the input handler is called for. Data and an error at once are handled in turn. -/
inductive Poll where
  | byte (input : Byte)
  | readError
  | endOfFile
  | interrupted

def inputHandler : Poll → State → State
  | .byte input, state =>
      if input = terminal.endOfFileChar then exit (timerStop state)
      else if input = escapeChar then timerStart (timerStop state)
      else if input = ctrlR then refresh (timerStop state)
      else handleInputByte terminal strtod input (timerStop state)
  | .readError, state => state
  | .endOfFile, state => exit state
  | .interrupted, state => exit state

def handleEscapeTimerExpiry (state : State) : State :=
  call (.leave state.currentScreen) state |> leaveFunc state.currentScreen

/-- Time goes by, in milliseconds. -/
def elapse (ms : Nat) (state : State) : State :=
  match state.escapeTimer with
  | none => state
  | some left =>
      if left ≤ ms then handleEscapeTimerExpiry (timerStop state)
      else { state with escapeTimer := some (left - ms) }

def refreshOn (screen : Screen) (state : State) : State :=
  if state.currentScreen = screen then refresh state else state

def ledPushHandler (led : Led) (value : Bool) (state : State) : State :=
  refreshOn .ledScreen
    { state with ledStates := fun key => if key = led then .ofBool value else state.ledStates key }

def enablePushHandler (value : Bool) (state : State) : State :=
  refreshOn .buzzerMain { state with enableState := .ofBool value }

/-- The period and the percentage are only printed. -/
def numberPushHandler : State → State := refreshOn .buzzerMain

/-- A byte is marked as a further one of the key press that the byte before belongs to; the
program does not see the mark. -/
inductive Event where
  | input (further : Bool) (poll : Poll)
  | wait (ms : Nat)
  | refresh
  | ledPush (led : Led) (value : Bool)
  | enablePush (value : Bool)
  | numberPush
  | configure (value : Bool)

def handle : Event → State → State
  | .input _ poll => inputHandler terminal strtod poll
  | .wait ms => elapse ms
  | .refresh => refresh
  | .ledPush led value => ledPushHandler led value
  | .enablePush value => enablePushHandler value
  | .numberPush => numberPushHandler
  | .configure value => fun state => { state with instantGrat := value }

def step (state : State) (event : Event) : State :=
  if state.exited then state else handle terminal strtod event state

/-- The static data, before the initialisation. -/
def loaded (instantGrat : Bool) : State where
  currentScreen := .mainMenu
  inputProcessingMode := .menu
  errorMsg := ""
  menu := []
  textEntryHandlerFunc := none
  textEntryBuffer := PaddedText.cleared 0 textEntryBufferSize
  escapeTimer := none
  ledStates := fun _ => .unknown
  enableState := .unknown
  instantGrat
  calls := []
  requests := []
  exited := false

def initial (instantGrat : Bool) : State := mainMenuEnter (loaded instantGrat)

end MangOH.CmdLine
