import MangOH.Trace

/-!
The location component. It takes a good GNSS fix as it is; else it starts a WiFi
scan, submits what the scan found to the Combain service and waits for the
answer. Each handler returns what it does outside: the calls to the service,
the scans it starts and what it pushes to the Data Hub, in their order.
-/

namespace MangOH.Location

/-- In meters. -/
def haccuracyGoodGps : Int := 150
def haccuracyWifiOnly : Int := 500

/-- What a call of `le_pos_Get3DLocation` returns. `ok` says whether it returned
`LE_OK`; the numbers are there all the same. -/
structure Position where
  ok : Bool
  lat : Int
  lon : Int
  hAccuracy : Int
  alt : Int
  vAccuracy : Int
deriving DecidableEq

/-- The numbers of a Combain answer. -/
structure Fix where
  lat : Rat
  lon : Rat
  hAccuracy : Rat
deriving DecidableEq

/-- What `PackJson` writes, with the label that it gives it. -/
inductive Coordinates where
  | gps (position : Position)
  | wifi (fix : Fix)
deriving DecidableEq

inductive FixType where
  | none
  | weakGnss
  | goodGnss
  | wifi
  | waitingForWifi
deriving DecidableEq

/-- A request of the Combain service, 0 for none. -/
abbrev Handle := Nat

inductive Effect (Ref : Type) where
  | create (handle : Handle)
  | submit (handle : Handle)
  | destroy (handle : Handle)
  | fetch (handle : Handle)
  | scan (started : Bool)
  | pushJson (ref : Option Ref) (coordinates : Coordinates)
  | fixType (type : FixType)
  | haveFix (value : Bool)
  | exit
deriving DecidableEq

/-- The static variables. `attempt` counts the attempts at a location, and
`savedAttempt` is that of the saved reading; both only record the run. -/
structure Component (Ref : Type) where
  createdAccessPoint : Bool
  wifiStarted : Bool
  combainHandle : Handle
  waitingForWifiResults : Bool
  waitingForCombainResults : Bool
  savedGpsScan : Position
  gpsScan : Bool
  savedRef : Option Ref
  attempt : Nat
  savedAttempt : Nat

/-- What the calls of the WiFi client return, the result of the scan included,
which nobody looks at. `LE_BUSY` counts as a start. -/
structure WifiCalls where
  create : Bool
  setInterface : Bool
  start : Bool
  scan : Bool

inductive WifiEvent where
  /-- The handle of the request that is created, and whether it is accepted. -/
  | scanDone (handle : Handle) (accepted : Bool)
  | scanFailed
  | connected
  | disconnected

/-- The type of an answer, and what fetching it returns. -/
inductive Answer where
  | success (fetched : Option Fix)
  | error (fetched : Bool)
  | responseParseFailure (fetched : Bool)
  | communicationFailure

variable {Ref : Type}

def noFix : List (Effect Ref) := [.fixType .none, .haveFix false]

def useGpsScan (component : Component Ref) : Component Ref × List (Effect Ref) :=
  if component.gpsScan then
    ({ component with gpsScan := false },
      [.pushJson component.savedRef (.gps component.savedGpsScan),
        .fixType .weakGnss, .haveFix true] ++ noFix)
  else (component, noFix)

/-- Within the bounds for Vancouver. -/
def Fix.Inside (fix : Fix) : Prop := 49 ≤ fix.lat ∧ fix.lat < 50 ∧ fix.lon ≤ -122 ∧ -124 < fix.lon

instance {fix : Fix} : Decidable fix.Inside := inferInstanceAs (Decidable (_ ∧ _ ∧ _ ∧ _))

def locationResultHandler (handle : Handle) (answer : Answer) (component : Component Ref) :
    Component Ref × List (Effect Ref) :=
  if component.waitingForCombainResults = false then (component, [.exit])
  else
    let answered := { component with waitingForCombainResults := false }
    let fallback := useGpsScan answered
    match answer with
    | .success none => (answered, [])
    | .success (some fix) =>
        if fix.Inside then
          ({ answered with savedRef := none, attempt := component.attempt + 1 },
            [.fetch handle, .pushJson component.savedRef (.wifi fix), .fixType .wifi, .haveFix true])
        else (fallback.1, .fetch handle :: fallback.2)
    | .error true => (fallback.1, .fetch handle :: fallback.2)
    | .error false | .responseParseFailure _ | .communicationFailure => fallback

/-- `accepted` is what the submission returns if there is one. -/
def trySubmitRequest (accepted : Bool) (component : Component Ref) :
    Component Ref × List (Effect Ref) :=
  if component.waitingForWifiResults = false ∧ component.waitingForCombainResults = false ∧ accepted then
    ({ component with waitingForCombainResults := true }, [.submit component.combainHandle])
  else (component, .destroy component.combainHandle :: noFix)

/-- The access points that are appended to the request change nothing here. -/
def wifiEventHandler (event : WifiEvent) (component : Component Ref) :
    Component Ref × List (Effect Ref) :=
  match event with
  | .scanDone handle accepted =>
      if component.waitingForWifiResults then
        let submitted := trySubmitRequest accepted
          { component with waitingForWifiResults := false, combainHandle := handle }
        (submitted.1, .create handle :: submitted.2)
      else (component, [])
  | .scanFailed | .connected | .disconnected =>
      let fallback := useGpsScan { component with waitingForWifiResults := false }
      (fallback.1, .destroy component.combainHandle :: fallback.2)

/-- A WiFi client that cannot be created or set up ends the process. -/
def startScan (ref : Ref) (wifi : WifiCalls) (component : Component Ref) :
    Component Ref × List (Effect Ref) :=
  if component.createdAccessPoint = false ∧ ¬(wifi.create ∧ wifi.setInterface) then (component, [.exit])
  else
    let ready := { component with
      createdAccessPoint := true
      wifiStarted := component.wifiStarted || wifi.start }
    if ready.wifiStarted then
      ({ ready with savedRef := some ref, waitingForWifiResults := true }, [.scan wifi.scan])
    else (ready, [])

def Component.Idle (component : Component Ref) : Prop :=
  component.waitingForWifiResults = false ∧ component.waitingForCombainResults = false

instance {component : Component Ref} : Decidable component.Idle := inferInstanceAs (Decidable (_ ∧ _))

def Position.Good (position : Position) : Prop := position.ok ∧ position.hAccuracy ≤ haccuracyGoodGps

instance {position : Position} : Decidable position.Good := inferInstanceAs (Decidable (_ ∧ _))

/-- The reading is saved whether the call that it comes from succeeded or not. -/
def saveReading (position : Position) (component : Component Ref) : Component Ref :=
  if position.hAccuracy < haccuracyWifiOnly then
    { component with
      savedGpsScan := position
      gpsScan := true
      savedAttempt := component.attempt }
  else component

def sample (ref : Ref) (position : Position) (serviceAvailable : Bool) (wifi : WifiCalls)
    (component : Component Ref) : Component Ref × List (Effect Ref) :=
  if ¬position.Good then
    if serviceAvailable = false then (component, noFix)
    else if component.Idle then
      startScan ref wifi (saveReading position { component with attempt := component.attempt + 1 })
    else (saveReading position component, [.fixType .waitingForWifi, .haveFix false])
  else
    let pushed := [.pushJson (some ref) (.gps position), .fixType .goodGnss, .haveFix true]
    let found := { component with gpsScan := false, attempt := component.attempt + 1 }
    if component.Idle then (found, pushed)
    else ({ found with waitingForWifiResults := false }, pushed ++ [.destroy component.combainHandle])

/-- The static variables when the component starts. -/
def initial : Component Ref where
  createdAccessPoint := false
  wifiStarted := false
  combainHandle := 0
  waitingForWifiResults := false
  waitingForCombainResults := false
  savedGpsScan := ⟨false, 0, 0, 0, 0, 0⟩
  gpsScan := false
  savedRef := none
  attempt := 0
  savedAttempt := 0

inductive Event (Ref : Type) where
  | sample (ref : Ref) (position : Position) (serviceAvailable : Bool) (wifi : WifiCalls)
  | wifi (event : WifiEvent)
  | result (handle : Handle) (answer : Answer)

def react (component : Component Ref) : Event Ref → Component Ref × List (Effect Ref)
  | .sample ref position serviceAvailable wifi => sample ref position serviceAvailable wifi component
  | .wifi event => wifiEventHandler event component
  | .result handle answer => locationResultHandler handle answer component

end MangOH.Location
