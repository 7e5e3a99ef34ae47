import MangOH.Location
import Mathlib.Data.List.Count

/-!
The flags of the location component against what is really outstanding: scans
that have not ended, and requests that the service has accepted and not answered.
-/

namespace MangOH.Location

open Trace

variable {Ref : Type}

/-- The component and its surroundings. `ended` has a request each time that it
is destroyed or fetched. -/
structure World (Ref : Type) where
  component : Component Ref
  scanning : Bool
  created : List Handle
  outstanding : List Handle
  ended : List Handle
  exited : Bool

namespace World

/-- Destroying what was never created has no effect. -/
def apply (world : World Ref) : Effect Ref → World Ref
  | .create handle => { world with created := world.created ++ [handle] }
  | .submit handle => { world with outstanding := world.outstanding ++ [handle] }
  | .destroy handle =>
      if handle ∈ world.created then
        { world with
          outstanding := world.outstanding.erase handle
          ended := world.ended ++ [handle] }
      else world
  | .fetch handle => { world with ended := world.ended ++ [handle] }
  | .scan started => { world with scanning := world.scanning || started }
  | .pushJson _ _ | .fixType _ | .haveFix _ => world
  | .exit => { world with exited := true }

attribute [local simp] apply

/-- The service creates new handles, and answers what is submitted and neither
answered nor destroyed. -/
def Admits (world : World Ref) : Event Ref → Prop
  | .wifi (.scanDone handle _) => handle ≠ 0 ∧ handle ∉ world.created
  | .result handle _ => handle ∈ world.outstanding
  | .sample _ _ _ _ | .wifi _ => True

instance {world : World Ref} {event : Event Ref} : Decidable (world.Admits event) := by
  unfold Admits
  split <;> infer_instance

/-- What an event says of a scan or of a request. -/
def ends (world : World Ref) : Event Ref → World Ref
  | .wifi (.scanDone _ _) | .wifi .scanFailed => { world with scanning := false }
  | .result handle _ => { world with outstanding := world.outstanding.erase handle }
  | .sample _ _ _ _ | .wifi _ => world

attribute [local simp] ends

/-- A process that has ended reacts to nothing. -/
def step (world : World Ref) (event : Event Ref) : World Ref :=
  if world.exited = false ∧ world.Admits event then
    let reaction := react world.component event
    reaction.2.foldl apply { world.ends event with component := reaction.1 }
  else world

end World

open World

/-- The flags and the handle of the component, beside what they are about. -/
structure View where
  waitingForWifiResults : Bool
  waitingForCombainResults : Bool
  combainHandle : Handle
  scanning : Bool
  created : List Handle
  outstanding : List Handle
  ended : List Handle
  exited : Bool

def World.view (world : World Ref) : View :=
  ⟨world.component.waitingForWifiResults, world.component.waitingForCombainResults,
    world.component.combainHandle, world.scanning, world.created, world.outstanding, world.ended,
    world.exited⟩

attribute [local simp] World.view

/-- The flags say what is outstanding, and a request that is not has been
destroyed or fetched once. -/
structure Flow (view : View) : Prop where
  combain : view.waitingForCombainResults = true ↔ view.outstanding ≠ []
  wifi : view.waitingForWifiResults = true ↔ view.scanning = true
  once : ∀ handle ∈ view.created, view.outstanding.count handle + view.ended.count handle = 1

/-- Whether a WiFi client is there or can be made, and runs or can be started. -/
def Startable (component : Component Ref) (wifi : WifiCalls) : Prop :=
  (component.createdAccessPoint = true ∨ wifi.create = true ∧ wifi.setInterface = true) ∧
    (component.wifiStarted = true ∨ wifi.start = true)

def NothingOutstanding (world : World Ref) : Prop :=
  world.exited = false ∧ world.scanning = false ∧ world.outstanding = []

structure FlowKept (world : World Ref) (event : Event Ref) : Prop where
  after : Flow (world.step event).view
  expected : ∀ handle answer, event = .result handle answer → world.exited = false →
    world.Admits event → .exit ∉ (react world.component event).2
  starts : ∀ ref position available wifi, event = .sample ref position available wifi →
    ¬position.Good → NothingOutstanding world → Startable world.component wifi →
      (world.step event).scanning = true

/-- No good fix while anything is outstanding, and a service that is available and
a scan that starts for any other fix. A WiFi event other than the end of a scan comes
before there was a request, and out of a scan unless it ends it. An answer is fetched
so that the service destroys it. -/
def FlowSafe (world : World Ref) (event : Event Ref) : Prop :=
  world.exited = false → world.Admits event →
    match event with
    | .sample _ position available wifi =>
        (position.Good → world.component.Idle) ∧
        (¬position.Good → world.component.Idle → Startable world.component wifi →
          available = true ∧ wifi.scan = true)
    | .wifi (.scanDone _ _) => True
    | .wifi .scanFailed => world.created = []
    | .wifi .connected | .wifi .disconnected => world.created = [] ∧ world.scanning = false
    | .result _ (.success (some _)) | .result _ (.error true) => True
    | .result _ _ => False

/-- What the flags alone do not say. -/
structure FlowSound (view : View) : Prop extends Flow view where
  exclusive : view.waitingForWifiResults = true → view.outstanding = []
  single : view.outstanding = [] ∨ view.outstanding = [view.combainHandle]
  current : view.combainHandle ∉ view.created → view.created = []
  submitted : view.outstanding ≠ [] → view.combainHandle ∈ view.created
  past : ∀ handle ∈ view.ended, handle ∈ view.created

variable {world : World Ref} {component : Component Ref} {view : View} {handle : Handle}

/-! What is pushed changes nothing that is outstanding. -/

@[simp] theorem noFix_fold : (noFix : List (Effect Ref)).foldl apply world = world := rfl

@[simp] theorem fallback_fold : (useGpsScan component).2.foldl apply world = world := by
  unfold useGpsScan
  split <;> rfl

theorem fallback_component : (useGpsScan component).1 = { component with gpsScan := false } := by
  unfold useGpsScan
  split
  · rfl
  · rename_i unset
    rw [← Bool.eq_false_iff.mpr unset]

theorem step_reacts {event : Event Ref} (running : world.exited = false)
    (admits : world.Admits event) : world.step event =
      (react world.component event).2.foldl apply
        { world.ends event with component := (react world.component event).1 } :=
  if_pos ⟨running, admits⟩

/-! The answer of the service. -/

/-- Whether the request is fetched, so that the service destroys it. -/
def Answer.Fetches : Answer → Prop
  | .success (some _) | .error true => True
  | _ => False

instance {answer : Answer} : Decidable answer.Fetches := by
  unfold Answer.Fetches
  split <;> infer_instance

theorem result_view {answer : Answer} (running : world.exited = false)
    (pending : handle ∈ world.outstanding)
    (waiting : world.component.waitingForCombainResults = true) :
    (world.step (.result handle answer)).view =
      { world.view with
        waitingForCombainResults := false
        outstanding := world.outstanding.erase handle
        ended := if answer.Fetches then world.ended ++ [handle] else world.ended } := by
  have admits : world.Admits (.result handle answer) := pending
  have waits : ¬world.component.waitingForCombainResults = false := by simp [waiting]
  rw [step_reacts running admits]
  simp only [react, locationResultHandler, if_neg waits]
  cases answer with
  | success fetched =>
      cases fetched with
      | none => simp [ends, Answer.Fetches, World.view]
      | some fix =>
          by_cases inside : fix.Inside
          · simp [inside, ends, apply, Answer.Fetches, World.view]
          · simp [inside, fallback_component, ends, apply, Answer.Fetches, World.view]
  | error fetched =>
      cases fetched <;> simp [fallback_component, ends, apply, Answer.Fetches, World.view]
  | responseParseFailure | communicationFailure =>
      simp [fallback_component, ends, Answer.Fetches, World.view]

/-! The events of the WiFi client. -/

/-- `finished` says whether the event ends a scan. -/
theorem failed_view {event : WifiEvent} {finished : Bool} (running : world.exited = false)
    (kind : match event with
      | .scanDone _ _ => False
      | .scanFailed => finished = true
      | .connected | .disconnected => finished = false) :
    (world.step (.wifi event)).view =
      { world.view with
        waitingForWifiResults := false
        scanning := world.scanning && !finished
        outstanding := if world.component.combainHandle ∈ world.created then
          world.outstanding.erase world.component.combainHandle else world.outstanding
        ended := if world.component.combainHandle ∈ world.created then
          world.ended ++ [world.component.combainHandle] else world.ended } := by
  have admits : world.Admits (.wifi event) := by
    cases event with
    | scanDone => cases kind
    | scanFailed | connected | disconnected => trivial
  rw [step_reacts running admits]
  cases event with
  | scanDone => cases kind
  | scanFailed | connected | disconnected =>
      subst kind
      by_cases known : world.component.combainHandle ∈ world.created
      · simp [react, wifiEventHandler, fallback_component, ends, apply, known, World.view]
      · simp [react, wifiEventHandler, fallback_component, ends, apply, known, World.view]

theorem scanDone_view {accepted : Bool} (running : world.exited = false)
    (fresh : handle ≠ 0 ∧ handle ∉ world.created)
    (idle : world.component.waitingForCombainResults = false)
    (waiting : world.component.waitingForWifiResults = true) :
    (world.step (.wifi (.scanDone handle accepted))).view =
      { world.view with
        waitingForWifiResults := false
        waitingForCombainResults := accepted
        combainHandle := handle
        scanning := false
        created := world.created ++ [handle]
        outstanding := if accepted then world.outstanding ++ [handle] else world.outstanding.erase handle
        ended := if accepted then world.ended else world.ended ++ [handle] } := by
  have admits : world.Admits (.wifi (.scanDone handle accepted)) := fresh
  rw [step_reacts running admits]
  cases accepted <;>
    simp [react, wifiEventHandler, trySubmitRequest, waiting, idle, ends, apply, World.view]

theorem scanDone_stray {accepted : Bool} (running : world.exited = false)
    (fresh : handle ≠ 0 ∧ handle ∉ world.created)
    (waiting : world.component.waitingForWifiResults = false) :
    (world.step (.wifi (.scanDone handle accepted))).view = { world.view with scanning := false } := by
  have admits : world.Admits (.wifi (.scanDone handle accepted)) := fresh
  rw [step_reacts running admits]
  simp [react, wifiEventHandler, waiting, ends, World.view]

/-! The samples. -/

section Samples

variable {ref : Ref} {position : Position} {available : Bool} {wifi : WifiCalls}

/-- Components that differ in the saved reading and the record of the run only. -/
structure SameFlags (after before : Component Ref) : Prop where
  wifi : after.waitingForWifiResults = before.waitingForWifiResults
  combain : after.waitingForCombainResults = before.waitingForCombainResults
  handle : after.combainHandle = before.combainHandle
  client : after.createdAccessPoint = before.createdAccessPoint
  started : after.wifiStarted = before.wifiStarted

theorem saveReading_flags : SameFlags (saveReading position component) component := by
  unfold saveReading
  split <;> exact ⟨rfl, rfl, rfl, rfl, rfl⟩

theorem begun_flags {attempt : Nat} :
    SameFlags (saveReading position { component with attempt := attempt }) component := by
  unfold saveReading
  split <;> exact ⟨rfl, rfl, rfl, rfl, rfl⟩

theorem sample_admits : world.Admits (.sample ref position available wifi) := trivial

theorem startScan_starts (startable : Startable component wifi) :
    startScan ref wifi component =
      ({ component with
          createdAccessPoint := true
          wifiStarted := true
          savedRef := some ref
          waitingForWifiResults := true }, [.scan wifi.scan]) := by
  obtain ⟨client, start⟩ := startable
  have runs : (component.wifiStarted || wifi.start) = true := by
    rw [Bool.or_eq_true]
    exact start
  have ready : ¬(component.createdAccessPoint = false ∧ ¬(wifi.create = true ∧ wifi.setInterface = true)) := by
    rintro ⟨absent, fails⟩
    rcases client with present | made
    · exact absurd (present.symm.trans absent) Bool.noConfusion
    · exact fails made
  simp only [startScan, if_neg ready, runs, if_true]

theorem startScan_fails (fails : ¬Startable component wifi) :
    (startScan ref wifi component).1 = component ∧ (startScan ref wifi component).2 = [.exit] ∨
      (startScan ref wifi component).1 = { component with createdAccessPoint := true } ∧
        (startScan ref wifi component).2 = [] := by
  by_cases ready : component.createdAccessPoint = false ∧ ¬(wifi.create = true ∧ wifi.setInterface = true)
  · left
    simp only [startScan, if_pos ready, and_self]
  · right
    have stopped : component.wifiStarted = false ∧ wifi.start = false := by
      have client : component.createdAccessPoint = true ∨ wifi.create = true ∧ wifi.setInterface = true := by
        by_contra none
        rw [not_or, Bool.not_eq_true] at none
        exact ready none
      have off : ¬(component.wifiStarted = true ∨ wifi.start = true) := fun start => fails ⟨client, start⟩
      rwa [not_or, Bool.not_eq_true, Bool.not_eq_true] at off
    simp only [startScan, if_neg ready, stopped, Bool.or_self, Bool.false_eq_true, if_false, and_self]

theorem good_view (running : world.exited = false) (good : position.Good)
    (idle : world.component.Idle) :
    (world.step (.sample ref position available wifi)).view = world.view := by
  rw [step_reacts running sample_admits]
  simp [react, sample, good, idle, ends, apply, World.view]

/-- A good fix destroys the request that is known, and ends the wait for a scan. -/
theorem good_busy_view (running : world.exited = false) (good : position.Good)
    (busy : ¬world.component.Idle) :
    (world.step (.sample ref position available wifi)).view =
      { world.view with
        waitingForWifiResults := false
        outstanding := if world.component.combainHandle ∈ world.created then
          world.outstanding.erase world.component.combainHandle else world.outstanding
        ended := if world.component.combainHandle ∈ world.created then
          world.ended ++ [world.component.combainHandle] else world.ended } := by
  rw [step_reacts running sample_admits]
  by_cases known : world.component.combainHandle ∈ world.created
  · simp [react, sample, good, busy, ends, apply, known, World.view]
  · simp [react, sample, good, busy, ends, apply, known, World.view]

theorem weak_view (running : world.exited = false) (weak : ¬position.Good)
    (still : available = false ∨ ¬world.component.Idle) :
    (world.step (.sample ref position available wifi)).view = world.view := by
  have flags := @saveReading_flags _ world.component position
  generalize saved : saveReading position world.component = reading at flags
  rw [step_reacts running sample_admits]
  cases available with
  | false => simp [react, sample, weak, ends, World.view]
  | true =>
      have busy := still.resolve_left nofun
      simp [react, sample, weak, busy, saved, ends, apply, World.view, flags.wifi, flags.combain,
        flags.handle]

/-- A sample without a good fix when nothing is under way. -/
theorem idle_reacts (weak : ¬position.Good) (idle : component.Idle) :
    react component (.sample ref position true wifi) =
      startScan ref wifi (saveReading position { component with attempt := component.attempt + 1 }) := by
  simp [react, sample, weak, idle]

theorem startable_view (running : world.exited = false) (weak : ¬position.Good)
    (idle : world.component.Idle) (startable : Startable world.component wifi) :
    (world.step (.sample ref position true wifi)).view =
      { world.view with
        waitingForWifiResults := true
        scanning := world.scanning || wifi.scan } := by
  have flags := @begun_flags _ world.component position (world.component.attempt + 1)
  rw [step_reacts running sample_admits, idle_reacts weak idle]
  generalize saveReading position _ = saved at flags ⊢
  have ready : Startable saved wifi := by
    rw [Startable, flags.client, flags.started]
    exact startable
  rw [startScan_starts ready]
  simp [World.view, ends, apply, flags.combain, flags.handle]

theorem unstartable_view (running : world.exited = false) (weak : ¬position.Good)
    (idle : world.component.Idle) (fails : ¬Startable world.component wifi) :
    ∃ exited, (world.step (.sample ref position true wifi)).view =
      { world.view with exited := exited } := by
  have flags := @begun_flags _ world.component position (world.component.attempt + 1)
  rw [step_reacts running sample_admits, idle_reacts weak idle]
  generalize saveReading position _ = saved at flags ⊢
  have unready : ¬Startable saved wifi := by
    rw [Startable, flags.client, flags.started]
    exact fails
  rcases @startScan_fails _ _ ref _ unready with ⟨after, effects⟩ | ⟨after, effects⟩
  · rw [after, effects]
    exact ⟨true, by simp [World.view, ends, apply, flags.wifi, flags.combain, flags.handle]⟩
  · rw [after, effects]
    exact ⟨false, by simp [World.view, ends, running, flags.wifi, flags.combain, flags.handle]⟩

end Samples

/-! The invariant, one kind of event after the other. -/

/-- Nothing is outstanding when neither flag is set. -/
theorem idle_iff (flow : Flow world.view) :
    world.component.Idle ↔ world.scanning = false ∧ world.outstanding = [] := by
  apply and_congr
  · rw [← Bool.not_eq_true, ← Bool.not_eq_true]
    exact not_congr flow.wifi
  · rw [← Bool.not_eq_true]
    exact (not_congr flow.combain).trans not_not

/-- The request that is outstanding is the current one. -/
theorem pending_current (sound : FlowSound view) (pending : view.outstanding ≠ []) :
    view.outstanding = [view.combainHandle] ∧ view.combainHandle ∈ view.created :=
  ⟨sound.single.resolve_left pending, sound.submitted pending⟩

/-- Destroying the current request without more leaves no flow: either the request
was outstanding, and its flag stays, or it was gone before. -/
theorem destroyed_not_flow {after : View} (flow : Flow after) (sound : FlowSound view)
    (known : view.combainHandle ∈ view.created) (created : after.created = view.created)
    (combain : after.waitingForCombainResults = view.waitingForCombainResults)
    (outstanding : after.outstanding = view.outstanding.erase view.combainHandle)
    (ended : after.ended = view.ended ++ [view.combainHandle]) : False := by
  rcases sound.single with none | one
  · have before := sound.once _ known
    have now := flow.once _ (created ▸ known)
    rw [outstanding, ended, none, List.erase_nil, List.count_append, List.count_singleton_self] at now
    rw [none] at before
    omega
  · have waits : view.waitingForCombainResults = true := by
      apply sound.combain.mpr
      rw [one]
      exact List.cons_ne_nil _ _
    apply flow.combain.mp (combain.trans waits)
    rw [outstanding, one, List.erase_cons_head]

/-- An event of the WiFi is neither a sample nor unexpected. -/
theorem kept_of_flow {event : WifiEvent} (flow : Flow (world.step (.wifi event)).view) :
    FlowKept world (.wifi event) where
  after := flow
  expected _ _ same := (by cases same)
  starts _ _ _ _ same := (by cases same)

/-! The answer: the one request is no longer outstanding. -/

theorem answered_sound (sound : FlowSound world.view) (pending : handle ∈ world.outstanding) :
    handle = world.component.combainHandle ∧ world.outstanding = [handle] ∧ handle ∈ world.created ∧
      world.component.waitingForCombainResults = true ∧ handle ∉ world.ended := by
  have some : world.view.outstanding ≠ [] := List.ne_nil_of_mem pending
  obtain ⟨one, known⟩ := pending_current sound some
  have own : handle = world.component.combainHandle := by
    have listed : handle ∈ world.view.outstanding := pending
    rw [one] at listed
    exact List.mem_singleton.mp listed
  subst own
  refine ⟨rfl, one, known, sound.combain.mpr some, ?_⟩
  have list : world.outstanding = [world.component.combainHandle] := one
  have counted : world.outstanding.count world.component.combainHandle +
    world.ended.count world.component.combainHandle = 1 := sound.once _ known
  rw [list, List.count_singleton_self] at counted
  apply List.count_eq_zero.mp
  omega

theorem fallback_expected : .exit ∉ (useGpsScan component).2 := by
  unfold useGpsScan
  split <;> simp [noFix]

/-- An answer that is waited for does not end the process. -/
theorem result_expected {answer : Answer} (waits : component.waitingForCombainResults = true) :
    .exit ∉ (locationResultHandler handle answer component).2 := by
  have fallback := @fallback_expected _ { component with waitingForCombainResults := false }
  simp only [locationResultHandler, waits, Bool.true_eq_false, if_false]
  cases answer with
  | success fetched =>
      cases fetched with
      | none => exact List.not_mem_nil
      | some fix =>
          by_cases inside : fix.Inside
          · simp [inside]
          · simp [inside, fallback]
  | error fetched => cases fetched <;> simp [fallback]
  | responseParseFailure | communicationFailure => exact fallback

theorem result_sound {answer : Answer} (sound : FlowSound world.view)
    (running : world.exited = false) (pending : handle ∈ world.outstanding)
    (fetches : answer.Fetches) : FlowSound (world.step (.result handle answer)).view := by
  obtain ⟨own, one, known, waits, absent⟩ := answered_sound sound pending
  rw [result_view running pending waits, if_pos fetches, one, List.erase_cons_head]
  constructor
  · constructor
    · exact ⟨nofun, fun some => absurd rfl some⟩
    · exact sound.wifi
    · intro other created
      have before : world.outstanding.count other + world.ended.count other = 1 :=
        sound.once other created
      rw [one] at before
      rw [List.count_append, List.count_nil, Nat.zero_add, Nat.add_comm]
      exact before
  · exact fun _ => rfl
  · exact .inl rfl
  · exact sound.current
  · exact fun some => absurd rfl some
  · intro other listed
    rcases List.mem_append.mp listed with earlier | new
    · exact sound.past other earlier
    · rw [List.mem_singleton.mp new]
      exact known

theorem result_kept_iff {answer : Answer} (sound : FlowSound world.view)
    (running : world.exited = false) (pending : handle ∈ world.outstanding) :
    FlowKept world (.result handle answer) ↔ answer.Fetches := by
  obtain ⟨own, one, known, waits, absent⟩ := answered_sound sound pending
  constructor
  · intro kept
    by_contra lost
    have once := kept.after.once
    rw [result_view running pending waits, if_neg lost, one, List.erase_cons_head] at once
    have counted := once handle known
    rw [List.count_nil, Nat.zero_add] at counted
    exact absent (List.count_pos_iff.mp (by rw [counted]; exact Nat.one_pos))
  · intro fetches
    constructor
    · exact (result_sound sound running pending fetches).toFlow
    · rintro _ _ ⟨rfl, rfl⟩ _ _ exits
      exact result_expected waits exits
    · rintro _ _ _ _ ⟨⟩

/-! The WiFi events. -/

theorem scanDone_sound {accepted : Bool} (sound : FlowSound world.view)
    (running : world.exited = false) (fresh : handle ≠ 0 ∧ handle ∉ world.created) :
    FlowSound (world.step (.wifi (.scanDone handle accepted))).view := by
  cases waiting : world.component.waitingForWifiResults with
  | false =>
      rw [scanDone_stray running fresh waiting]
      refine ⟨⟨sound.combain, ?_, sound.once⟩, sound.exclusive, sound.single, sound.current, sound.submitted,
        sound.past⟩
      exact iff_of_false (fun set => absurd (waiting.symm.trans set) Bool.noConfusion) Bool.noConfusion
  | true =>
      have none : world.outstanding = [] := sound.exclusive waiting
      -- One flag excludes the other, and nothing is outstanding while a scan is.
      have idle : world.component.waitingForCombainResults = false := by
        rw [← Bool.not_eq_true]
        exact fun set => sound.combain.mp set none
      have unended : world.ended.count handle = 0 :=
        List.count_eq_zero.mpr fun listed => fresh.2 (sound.past handle listed)
      have others : ∀ other ∈ world.created, other ≠ handle ∧ world.ended.count other = 1 := by
        intro other created
        have before : world.outstanding.count other + world.ended.count other = 1 :=
          sound.once other created
        rw [none, List.count_nil, Nat.zero_add] at before
        exact ⟨fun same => fresh.2 (same ▸ created), before⟩
      -- The new request is outstanding, or it has been destroyed at once.
      rw [scanDone_view running fresh idle waiting, none]
      constructor
      · constructor
        · cases accepted with
          | false => exact ⟨nofun, fun some => absurd rfl some⟩
          | true => exact ⟨fun _ => List.cons_ne_nil _ _, fun _ => rfl⟩
        · exact iff_of_false Bool.noConfusion Bool.noConfusion
        · intro other created
          rcases List.mem_append.mp created with earlier | new
          · obtain ⟨different, once⟩ := others other earlier
            cases accepted <;> simp [once, different.symm]
          · rw [List.mem_singleton.mp new]
            cases accepted <;> simp [unended]
      · exact nofun
      · cases accepted with
        | false => exact .inl rfl
        | true => exact .inr rfl
      · exact fun absent => absurd (List.mem_append_right _ (List.mem_singleton_self _)) absent
      · exact fun _ => List.mem_append_right _ (List.mem_singleton_self _)
      · intro other listed
        cases accepted with
        | true => exact List.mem_append_left _ (sound.past other listed)
        | false =>
            rcases List.mem_append.mp listed with earlier | new
            · exact List.mem_append_left _ (sound.past other earlier)
            · exact List.mem_append_right _ new

theorem failed_sound {event : WifiEvent} {finished : Bool} (sound : FlowSound world.view)
    (running : world.exited = false)
    (kind : match event with
      | .scanDone _ _ => False
      | .scanFailed => finished = true
      | .connected | .disconnected => finished = false)
    (none : world.created = []) (scanned : finished = true ∨ world.scanning = false) :
    FlowSound (world.step (.wifi event)).view := by
  have absent : world.component.combainHandle ∉ world.created := by
    rw [none]
    exact List.not_mem_nil
  rw [failed_view running kind, if_neg absent, if_neg absent]
  have still : (world.scanning && !finished) = false := by
    rcases scanned with rfl | unscanned
    · exact Bool.and_false _
    · rw [unscanned, Bool.false_and]
  rw [still]
  constructor
  · exact ⟨sound.combain, iff_of_false Bool.noConfusion Bool.noConfusion, sound.once⟩
  · exact nofun
  · exact sound.single
  · exact sound.current
  · exact sound.submitted
  · exact sound.past

theorem failed_kept_iff {event : WifiEvent} {finished : Bool} (sound : FlowSound world.view)
    (running : world.exited = false)
    (kind : match event with
      | .scanDone _ _ => False
      | .scanFailed => finished = true
      | .connected | .disconnected => finished = false) :
    FlowKept world (.wifi event) ↔ world.created = [] ∧ (finished = true ∨ world.scanning = false) := by
  constructor
  · intro kept
    have flow := kept.after
    rw [failed_view running kind] at flow
    have absent : world.component.combainHandle ∉ world.created := by
      intro known
      rw [if_pos known, if_pos known] at flow
      exact destroyed_not_flow flow sound known rfl rfl rfl rfl
    refine ⟨sound.current absent, ?_⟩
    have scanned : (world.scanning && !finished) ≠ true := fun set =>
      absurd (flow.wifi.mpr set) Bool.noConfusion
    cases finished with
    | true => exact .inl rfl
    | false =>
        rw [Bool.not_false, Bool.and_true, ne_eq, Bool.not_eq_true] at scanned
        exact .inr scanned
  · rintro ⟨none, scanned⟩
    exact kept_of_flow (failed_sound sound running kind none scanned).toFlow

/-! The samples. -/

section Samples

variable {ref : Ref} {position : Position} {available : Bool} {wifi : WifiCalls}

/-- A good fix while anything is outstanding. -/
theorem good_busy_not_kept (sound : FlowSound world.view) (running : world.exited = false)
    (good : position.Good) (busy : ¬world.component.Idle) :
    ¬FlowKept world (.sample ref position available wifi) := by
  intro kept
  have flow := kept.after
  rw [good_busy_view running good busy] at flow
  by_cases known : world.component.combainHandle ∈ world.created
  · rw [if_pos known, if_pos known] at flow
    exact destroyed_not_flow flow sound known rfl rfl rfl rfl
  · rw [if_neg known, if_neg known] at flow
    apply busy
    rw [idle_iff sound.toFlow]
    constructor
    · rw [← Bool.not_eq_true]
      exact fun set => absurd (flow.wifi.mpr set) Bool.noConfusion
    · by_contra some
      exact known (sound.submitted some)

/-- A sample that leaves what the flags are about, and is not to start a scan. -/
theorem sample_still {exited : Bool} (sound : FlowSound world.view)
    (same : (world.step (.sample ref position available wifi)).view = { world.view with exited := exited })
    (excused : position.Good ∨ ¬world.component.Idle ∨ ¬Startable world.component wifi) :
    FlowKept world (.sample ref position available wifi) ∧
      FlowSound (world.step (.sample ref position available wifi)).view := by
  have after : FlowSound (world.step (.sample ref position available wifi)).view := by
    rw [same]
    exact ⟨⟨sound.combain, sound.wifi, sound.once⟩, sound.exclusive, sound.single, sound.current,
      sound.submitted, sound.past⟩
  refine ⟨⟨after.toFlow, nofun, ?_⟩, after⟩
  rintro _ _ _ _ ⟨rfl, rfl, rfl, rfl⟩ weak nothing startable
  have idle : world.component.Idle := (idle_iff sound.toFlow).mpr nothing.2
  rcases excused with good | busy | fails
  · exact absurd good weak
  · exact absurd idle busy
  · exact absurd startable fails

theorem startable_sound (sound : FlowSound world.view) (running : world.exited = false)
    (weak : ¬position.Good) (idle : world.component.Idle)
    (startable : Startable world.component wifi) (scan : wifi.scan = true) :
    FlowSound (world.step (.sample ref position true wifi)).view := by
  have none : world.view.outstanding = [] := ((idle_iff sound.toFlow).mp idle).2
  rw [startable_view running weak idle startable, scan, Bool.or_true]
  exact ⟨⟨sound.combain, Iff.rfl, sound.once⟩, fun _ => none, sound.single, sound.current,
    sound.submitted, sound.past⟩

theorem startable_kept_iff (sound : FlowSound world.view) (running : world.exited = false)
    (weak : ¬position.Good) (idle : world.component.Idle) (startable : Startable world.component wifi) :
    FlowKept world (.sample ref position available wifi) ↔ available = true ∧ wifi.scan = true := by
  have nothing := (idle_iff sound.toFlow).mp idle
  constructor
  · intro kept
    have scans := kept.starts ref position available wifi rfl weak ⟨running, nothing⟩ startable
    have now : (world.step (.sample ref position available wifi)).view.scanning = true := scans
    cases available with
    | false =>
        rw [weak_view running weak (.inl rfl)] at now
        exact absurd (nothing.1.symm.trans now) Bool.noConfusion
    | true =>
        rw [startable_view running weak idle startable] at now
        have started : (world.scanning || wifi.scan) = true := now
        rw [nothing.1, Bool.false_or] at started
        exact ⟨rfl, started⟩
  · rintro ⟨rfl, scan⟩
    have after := @startable_sound _ world ref position wifi sound running weak idle startable scan
    refine ⟨after.toFlow, nofun, ?_⟩
    intro other position' available' wifi' same _ _ _
    apply after.wifi.mp
    rw [startable_view running weak idle startable]

/-- A sample in every other case: a good fix with nothing outstanding, a wait that
goes on, a service that is not there or a WiFi client that cannot be started. -/
theorem sample_still_cases (sound : FlowSound world.view) (running : world.exited = false)
    (goodIdle : position.Good → world.component.Idle)
    (excused : position.Good ∨ ¬world.component.Idle ∨ ¬Startable world.component wifi) :
    FlowKept world (.sample ref position available wifi) ∧
      FlowSound (world.step (.sample ref position available wifi)).view := by
  by_cases good : position.Good
  · exact @sample_still _ world ref position available wifi world.exited sound
      (good_view running good (goodIdle good)) excused
  · cases available with
    | false =>
        exact @sample_still _ world ref position false wifi world.exited sound
          (weak_view running good (.inl rfl)) excused
    | true =>
        by_cases idle : world.component.Idle
        · have fails := (excused.resolve_left good).resolve_left (not_not.mpr idle)
          obtain ⟨exited, same⟩ := @unstartable_view _ world ref position wifi running good idle fails
          exact sample_still sound same excused
        · exact @sample_still _ world ref position true wifi world.exited sound
            (weak_view running good (.inr idle)) excused

theorem sample_kept_iff (sound : FlowSound world.view) (running : world.exited = false) :
    FlowKept world (.sample ref position available wifi) ↔
      (position.Good → world.component.Idle) ∧
      (¬position.Good → world.component.Idle → Startable world.component wifi →
        available = true ∧ wifi.scan = true) := by
  by_cases good : position.Good
  · by_cases idle : world.component.Idle
    · exact iff_of_true (sample_still_cases sound running (fun _ => idle) (.inl good)).1
        ⟨fun _ => idle, fun weak => absurd good weak⟩
    · exact iff_of_false (good_busy_not_kept sound running good idle) fun safe => idle (safe.1 good)
  · by_cases begins : world.component.Idle ∧ Startable world.component wifi
    · obtain ⟨idle, startable⟩ := begins
      rw [startable_kept_iff sound running good idle startable]
      exact ⟨fun fine => ⟨fun good' => absurd good' good, fun _ _ _ => fine⟩,
        fun safe => safe.2 good idle startable⟩
    · have excused := not_and_or.mp begins
      apply iff_of_true
      · exact (sample_still_cases sound running (fun good' => absurd good' good) (.inr excused)).1
      · exact ⟨fun good' => absurd good' good,
          fun _ idle startable => absurd ⟨idle, startable⟩ begins⟩

theorem sample_sound (sound : FlowSound world.view) (running : world.exited = false)
    (safe : FlowKept world (.sample ref position available wifi)) :
    FlowSound (world.step (.sample ref position available wifi)).view := by
  obtain ⟨goodIdle, starts⟩ := (sample_kept_iff sound running).mp safe
  by_cases begins : ¬position.Good ∧ world.component.Idle ∧ Startable world.component wifi
  · obtain ⟨weak, idle, startable⟩ := begins
    obtain ⟨rfl, scan⟩ := starts weak idle startable
    exact startable_sound sound running weak idle startable scan
  · apply (sample_still_cases sound running goodIdle _).2
    rcases not_and_or.mp begins with good | others
    · exact .inl (not_not.mp good)
    · exact .inr (not_and_or.mp others)

end Samples

/-! Every event, and every run. -/

theorem step_ignored {event : Event Ref} (ignored : ¬(world.exited = false ∧ world.Admits event)) :
    world.step event = world := if_neg ignored

theorem flow_kept_iff {event : Event Ref} (sound : FlowSound world.view) :
    FlowKept world event ↔ FlowSafe world event := by
  by_cases reacts : world.exited = false ∧ world.Admits event
  · obtain ⟨running, admits⟩ := reacts
    have safe : FlowSafe world event ↔ _ := forall_prop_of_true running |>.trans (forall_prop_of_true admits)
    rw [safe]
    cases event with
    | sample ref position available wifi => exact sample_kept_iff sound running
    | wifi event =>
        cases event with
        | scanDone handle accepted =>
            exact iff_of_true (kept_of_flow (scanDone_sound sound running admits).toFlow) trivial
        | scanFailed =>
            rw [@failed_kept_iff _ world .scanFailed true sound running rfl]
            exact and_iff_left (.inl rfl)
        | connected =>
            rw [@failed_kept_iff _ world .connected false sound running rfl]
            simp
        | disconnected =>
            rw [@failed_kept_iff _ world .disconnected false sound running rfl]
            simp
    | result handle answer =>
        rw [result_kept_iff sound running admits]
        cases answer with
        | success fetched => cases fetched <;> exact Iff.rfl
        | error fetched => cases fetched <;> exact Iff.rfl
        | responseParseFailure | communicationFailure => exact Iff.rfl
  · have still := step_ignored reacts
    apply iff_of_true
    · constructor
      · rw [still]
        exact sound.toFlow
      · exact fun _ _ _ running admits => absurd ⟨running, admits⟩ reacts
      · rintro _ _ _ _ rfl _ nothing
        exact absurd ⟨nothing.1, sample_admits⟩ reacts
    · exact fun running admits => absurd ⟨running, admits⟩ reacts

theorem flow_step_sound {event : Event Ref} (sound : FlowSound world.view)
    (kept : FlowKept world event) : FlowSound (world.step event).view := by
  by_cases reacts : world.exited = false ∧ world.Admits event
  · obtain ⟨running, admits⟩ := reacts
    cases event with
    | sample => exact sample_sound sound running kept
    | wifi event =>
        cases event with
        | scanDone => exact scanDone_sound sound running admits
        | scanFailed =>
            obtain ⟨none, finished⟩ := (@failed_kept_iff _ world .scanFailed true sound running rfl).mp kept
            exact @failed_sound _ world .scanFailed true sound running rfl none finished
        | connected =>
            obtain ⟨none, finished⟩ := (@failed_kept_iff _ world .connected false sound running rfl).mp kept
            exact @failed_sound _ world .connected false sound running rfl none finished
        | disconnected =>
            obtain ⟨none, finished⟩ := (@failed_kept_iff _ world .disconnected false sound running rfl).mp kept
            exact @failed_sound _ world .disconnected false sound running rfl none finished
    | result => exact result_sound sound running admits ((result_kept_iff sound running admits).mp kept)
  · rw [step_ignored reacts]
    exact sound

/-- The component and its surroundings when it starts. -/
def started : World Ref := ⟨initial, false, [], [], [], false⟩

theorem started_sound : FlowSound (started : World Ref).view where
  combain := ⟨Bool.noConfusion, fun some => absurd rfl some⟩
  wifi := Iff.rfl
  once _ listed := absurd listed List.not_mem_nil
  exclusive := nofun
  single := .inl rfl
  current _ := rfl
  submitted some := absurd rfl some
  past _ listed := absurd listed List.not_mem_nil

/-- A run keeps the flags and the requests in step with what is outstanding just
when each of its events meets the condition. -/
theorem flow_iff (events : List (Event Ref)) :
    Along World.step FlowKept (started : World Ref) events ↔ Along World.step FlowSafe started events :=
  @along_iff _ _ World.step FlowKept FlowSafe (fun world => FlowSound world.view)
    flow_kept_iff flow_step_sound events started started_sound

/-- Readings of no use and of good accuracy, and WiFi calls that succeed. -/
def noReading : Position := ⟨false, 0, 0, 0, 0, 0⟩
def goodReading : Position := ⟨true, 49282000, -123120000, 5, 0, 5⟩
def wifiUp : WifiCalls := ⟨true, true, true, true⟩

/-- After a good fix while the answer is awaited, the component waits for ever. -/
theorem good_fix_gets_stuck : ¬∀ events : List (Event Unit), Along World.step FlowKept started events := by
  intro always
  have kept := (always [.sample () noReading true wifiUp, .wifi (.scanDone 1 true),
    .sample () goodReading true wifiUp]).2.2.1
  exact absurd (kept.after.combain.mp (by decide)) (by decide)

end MangOH.Location
