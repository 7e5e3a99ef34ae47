import MangOH.LocationFlow

/-!
The fix status that the location component publishes, and the coordinates.
-/

namespace MangOH.Location

open Trace

variable {Ref : Type}

/-- The component, or nothing once the process has ended. -/
abbrev Process (Ref : Type) := Option (Component Ref)

def Effect.isExit : Effect Ref → Bool
  | .exit => true
  | _ => false

def handleEvent (process : Process Ref) (event : Event Ref) : Process Ref :=
  process.bind fun component =>
    let reaction := react component event
    if reaction.2.any Effect.isExit then none else some reaction.1

def Effect.fix? : Effect Ref → Option Bool
  | .haveFix value => some value
  | _ => none

def Effect.type? : Effect Ref → Option FixType
  | .fixType type => some type
  | _ => none

/-- The last value pushed in a call. -/
def lastHaveFix (effects : List (Effect Ref)) : Option Bool := (effects.filterMap Effect.fix?).getLast?

def lastFixType (effects : List (Effect Ref)) : Option FixType :=
  (effects.filterMap Effect.type?).getLast?

/-- Coordinates are pushed just when the last status says that there is a fix. -/
structure Truthful (effects : List (Effect Ref)) : Prop where
  fix : ∀ value, lastHaveFix effects = some value →
    (value = true ↔ ∃ ref coordinates, .pushJson ref coordinates ∈ effects)
  type : ∀ type, lastFixType effects = some type → ∃ value, lastHaveFix effects = some value ∧
    (type = .none ∨ type = .waitingForWifi ↔ value = false)

/-- An answer that is awaited, or a failure that ends an attempt: of the GNSS reading
with nothing to fall back on, of the scan or of the submission. -/
def EndsAttempt (component : Component Ref) : Event Ref → Prop
  | .sample _ position available wifi => ¬position.Good ∧ component.Idle ∧
      (available = false ∨ ¬Startable component wifi ∨ wifi.scan = false)
  | .wifi (.scanDone _ accepted) => component.waitingForWifiResults = true ∧ accepted = false
  | .wifi _ => component.waitingForWifiResults = true
  | .result _ _ => component.waitingForCombainResults = true

structure Published (component : Component Ref) (event : Event Ref)
    (effects : List (Effect Ref)) : Prop where
  truthful : Truthful effects
  ended : EndsAttempt component event → lastHaveFix effects ≠ none
  ref : ∀ coordinates, .pushJson none coordinates ∉ effects
  gnss : ∀ ref position, .pushJson ref (.gps position) ∈ effects → position.ok = true
  -- A reading is either that of the call itself or a saved one of the same attempt.
  saved : ∀ ref position, .pushJson ref (.gps position) ∈ effects →
    (∃ other available wifi, event = .sample other position available wifi) ∨
      position = component.savedGpsScan ∧ component.savedAttempt = component.attempt

def StatusKept (process : Process Ref) (event : Event Ref) : Prop :=
  ∀ component, process = some component → Published component event (react component event).2

/-- An answer after which no saved reading is published. -/
def AnswerSafe (component : Component Ref) : Answer → Prop
  | .success none => False
  | .success (some fix) => fix.Inside ∨ component.gpsScan = false
  | .error _ | .responseParseFailure _ | .communicationFailure => component.gpsScan = false

/-- A scan that is wanted starts, and with a saved reading no attempt ends otherwise
than by a WiFi fix that is fetched. -/
def StatusSafe (process : Process Ref) (event : Event Ref) : Prop :=
  ∀ component, process = some component →
    match event with
    | .sample _ position available wifi => ¬position.Good → component.Idle → available = true →
        Startable component wifi ∧ wifi.scan = true
    | .wifi (.scanDone _ _) => True
    | .wifi _ => component.gpsScan = false
    | .result _ answer => component.waitingForCombainResults = true → AnswerSafe component answer

/-- While something is awaited there is a sensor to push to. -/
structure StatusSound (component : Component Ref) : Prop where
  exclusive : ¬(component.waitingForWifiResults = true ∧ component.waitingForCombainResults = true)
  ref : component.waitingForWifiResults = true ∨ component.waitingForCombainResults = true →
    component.savedRef ≠ none

variable {component : Component Ref} {effects : List (Effect Ref)} {event : Event Ref}

/-! What is pushed. -/

/-- Calls to the services are no part of what is published. -/
def Effect.Silent : Effect Ref → Prop
  | .create _ | .submit _ | .destroy _ | .fetch _ | .scan _ | .exit => True
  | .pushJson _ _ | .fixType _ | .haveFix _ => False

theorem create_silent {handle : Handle} : (.create handle : Effect Ref).Silent := trivial
theorem submit_silent {handle : Handle} : (.submit handle : Effect Ref).Silent := trivial
theorem destroy_silent {handle : Handle} : (.destroy handle : Effect Ref).Silent := trivial
theorem fetch_silent {handle : Handle} : (.fetch handle : Effect Ref).Silent := trivial
theorem scan_silent {started : Bool} : (.scan started : Effect Ref).Silent := trivial

theorem exit_silent : (.exit : Effect Ref).Silent := trivial

theorem silent_last {effect : Effect Ref} (silent : effect.Silent) :
    lastHaveFix (effect :: effects) = lastHaveFix effects ∧
      lastFixType (effect :: effects) = lastFixType effects := by
  cases effect with
  | create | submit | destroy | fetch | scan | exit => exact ⟨rfl, rfl⟩
  | pushJson | fixType | haveFix => cases silent

theorem silent_push {effect : Effect Ref} {ref : Option Ref} {coordinates : Coordinates}
    (silent : effect.Silent) :
    .pushJson ref coordinates ∈ effect :: effects ↔ .pushJson ref coordinates ∈ effects := by
  rw [List.mem_cons]
  apply or_iff_right
  rintro rfl
  cases silent

/-- What is published depends on the statuses and the coordinates only. -/
theorem published_congr {others : List (Effect Ref)} (fix : lastHaveFix effects = lastHaveFix others)
    (type : lastFixType effects = lastFixType others)
    (push : ∀ ref coordinates, .pushJson ref coordinates ∈ effects ↔ .pushJson ref coordinates ∈ others)
    (published : Published component event others) : Published component event effects := by
  obtain ⟨⟨fixes, types⟩, ended, ref, gnss, saved⟩ := published
  constructor
  · constructor
    · simpa only [fix, push] using fixes
    · simpa only [fix, type] using types
  · simpa only [fix] using ended
  · simpa only [push] using ref
  · simpa only [push] using gnss
  · simpa only [push] using saved

theorem silent_published {effect : Effect Ref} (silent : effect.Silent) :
    Published component event (effect :: effects) ↔ Published component event effects := by
  obtain ⟨fix, type⟩ := @silent_last _ effects effect silent
  have push := fun ref coordinates => @silent_push _ effects effect ref coordinates silent
  constructor
  · exact published_congr fix.symm type.symm fun ref coordinates => (push ref coordinates).symm
  · exact published_congr fix type push

theorem silent_behind {effect : Effect Ref} (silent : effect.Silent)
    (published : Published component event effects) : Published component event (effects ++ [effect]) := by
  have fix : [effect].filterMap Effect.fix? = [] := by
    cases effect <;> first | rfl | cases silent
  have type : [effect].filterMap Effect.type? = [] := by
    cases effect <;> first | rfl | cases silent
  apply published_congr _ _ _ published
  · rw [lastHaveFix, List.filterMap_append, fix, List.append_nil]
    rfl
  · rw [lastFixType, List.filterMap_append, type, List.append_nil]
    rfl
  · intro ref coordinates
    rw [List.mem_append]
    apply or_iff_left
    intro pushed
    exact List.not_mem_nil ((silent_push silent).mp pushed)

/-- Nothing pushed, in a call that ends no attempt. -/
theorem nothing_published (going : ¬EndsAttempt component event) : Published component event [] where
  truthful := ⟨nofun, nofun⟩
  ended ends := absurd ends going
  ref _ := List.not_mem_nil
  gnss _ _ pushed := absurd pushed List.not_mem_nil
  saved _ _ pushed := absurd pushed List.not_mem_nil

/-- A status without coordinates. -/
theorem status_published {type : FixType} (none : type = .none ∨ type = .waitingForWifi) :
    Published component event [.fixType type, .haveFix false] := by
  have absent : ∀ ref coordinates, Effect.pushJson ref coordinates ∉
      [(.fixType type : Effect Ref), .haveFix false] := by simp
  constructor
  · constructor
    · rintro _ ⟨⟩
      exact iff_of_false Bool.noConfusion fun ⟨ref, coordinates, pushed⟩ => absent ref coordinates pushed
    · rintro _ ⟨⟩
      exact ⟨false, rfl, iff_of_true none rfl⟩
  · exact fun _ => nofun
  · exact absent _
  · exact fun ref position pushed => absurd pushed (absent ref _)
  · exact fun ref position pushed => absurd pushed (absent ref _)

/-- Coordinates with their status. -/
theorem fix_published {type : FixType} {ref : Ref} {coordinates : Coordinates}
    (present : type ≠ .none ∧ type ≠ .waitingForWifi)
    (gnss : ∀ position, coordinates = .gps position → position.ok = true ∧
      ∃ other available wifi, event = .sample other position available wifi) :
    Published component event [.pushJson (some ref) coordinates, .fixType type, .haveFix true] := by
  constructor
  · constructor
    · rintro _ ⟨⟩
      exact iff_of_true rfl ⟨_, _, List.mem_cons_self⟩
    · rintro _ ⟨⟩
      exact ⟨true, rfl, iff_of_false (not_or.mpr present) Bool.noConfusion⟩
  · exact fun _ => nofun
  · simp
  · intro other position pushed
    have same : other = some ref ∧ coordinates = .gps position := by simpa [eq_comm] using pushed
    exact (gnss position same.2).1
  · intro other position pushed
    have same : other = some ref ∧ coordinates = .gps position := by simpa [eq_comm] using pushed
    exact .inl (gnss position same.2).2

/-- The saved reading is always published as no fix. -/
theorem fallback_published_iff {other : Component Ref} :
    Published component event (useGpsScan other).2 ↔ other.gpsScan = false := by
  cases saved : other.gpsScan with
  | false =>
      simp only [useGpsScan, saved, Bool.false_eq_true, if_false, iff_true]
      exact status_published (.inl rfl)
  | true =>
      simp only [useGpsScan, saved, if_true]
      apply iff_of_false _ Bool.noConfusion
      intro published
      have none := (published.truthful.fix false rfl).mpr ⟨_, _, List.mem_cons_self⟩
      exact Bool.noConfusion none

/-! Each handler. -/

theorem result_published_iff {handle : Handle} {answer : Answer} (sound : StatusSound component)
    (waits : component.waitingForCombainResults = true) :
    Published component (.result handle answer) (react component (.result handle answer)).2 ↔
      AnswerSafe component answer := by
  simp only [react, locationResultHandler, waits, Bool.true_eq_false, if_false]
  cases answer with
  | success fetched =>
      cases fetched with
      | none => exact iff_of_false (fun published => published.ended waits rfl) id
      | some fix =>
          by_cases inside : fix.Inside
          · simp only [AnswerSafe, inside, if_true, true_or, iff_true]
            obtain ⟨ref, set⟩ := Option.ne_none_iff_exists'.mp (sound.ref (.inr waits))
            rw [set, silent_published fetch_silent]
            have present : FixType.wifi ≠ .none ∧ FixType.wifi ≠ .waitingForWifi := by decide
            exact fix_published present fun _ same => Coordinates.noConfusion same
          · simp only [AnswerSafe, inside, if_false, false_or]
            rw [silent_published fetch_silent, fallback_published_iff]
  | error fetched =>
      cases fetched with
      | false => exact fallback_published_iff
      | true =>
          rw [silent_published fetch_silent, fallback_published_iff]
          exact Iff.rfl
  | responseParseFailure | communicationFailure => exact fallback_published_iff

theorem scanDone_published {handle : Handle} {accepted : Bool} (sound : StatusSound component) :
    Published component (.wifi (.scanDone handle accepted))
      (react component (.wifi (.scanDone handle accepted))).2 := by
  cases waiting : component.waitingForWifiResults with
  | false =>
      simp only [react, wifiEventHandler, waiting, Bool.false_eq_true, if_false]
      exact nothing_published fun ends => Bool.noConfusion (waiting.symm.trans ends.1)
  | true =>
      have idle : component.waitingForCombainResults = false := by
        rw [← Bool.not_eq_true]
        exact fun set => sound.exclusive ⟨waiting, set⟩
      simp only [react, wifiEventHandler, waiting, if_true]
      rw [silent_published create_silent]
      cases accepted with
      | false =>
          simp only [trySubmitRequest, Bool.false_eq_true, and_false, if_false]
          rw [silent_published destroy_silent]
          exact status_published (.inl rfl)
      | true =>
          simp only [trySubmitRequest, idle, and_self, if_true]
          rw [silent_published submit_silent]
          exact nothing_published fun ends => Bool.noConfusion ends.2

theorem startScan_published_iff {ref : Ref} {position : Position} {wifi : WifiCalls}
    {other : Component Ref} (weak : ¬position.Good) (idle : component.Idle)
    (flags : SameFlags other component) :
    Published component (.sample ref position true wifi) (startScan ref wifi other).2 ↔
      Startable component wifi ∧ wifi.scan = true := by
  have same : Startable other wifi ↔ Startable component wifi := by
    rw [Startable, flags.client, flags.started]
    rfl
  constructor
  · intro published
    have silent : lastHaveFix (startScan ref wifi other).2 = none := by
      by_cases startable : Startable other wifi
      · rw [startScan_starts startable]
        rfl
      · rcases @startScan_fails _ _ ref _ startable with ⟨-, effects⟩ | ⟨-, effects⟩ <;> rw [effects] <;> rfl
    have going : ¬EndsAttempt component (.sample ref position true wifi) :=
      fun ends => published.ended ends silent
    constructor
    · by_contra fails
      exact going ⟨weak, idle, .inr (.inl fails)⟩
    · by_contra unscanned
      exact going ⟨weak, idle, .inr (.inr (Bool.not_eq_true _ ▸ unscanned))⟩
  · rintro ⟨startable, scan⟩
    rw [startScan_starts (same.mpr startable), silent_published scan_silent]
    apply nothing_published
    rintro ⟨-, -, fails | fails | fails⟩
    · cases fails
    · exact fails startable
    · exact Bool.noConfusion (fails.symm.trans scan)

/-- A good fix is published, and what it ends is destroyed behind that. -/
theorem good_published {ref : Ref} {position : Position} {available : Bool} {wifi : WifiCalls}
    (good : position.Good) : Published component (.sample ref position available wifi)
      (react component (.sample ref position available wifi)).2 := by
  have fix : Published component (.sample ref position available wifi)
      [.pushJson (some ref) (.gps position), .fixType .goodGnss, .haveFix true] := by
    have present : FixType.goodGnss ≠ .none ∧ FixType.goodGnss ≠ .waitingForWifi := by decide
    apply fix_published present
    intro taken same
    cases same
    exact ⟨good.1, _, _, _, rfl⟩
  by_cases idle : component.Idle
  · simpa [react, sample, good, idle] using fix
  · simp only [react, sample, good, idle, not_true_eq_false, if_false]
    exact silent_behind destroy_silent fix

theorem sample_published_iff {ref : Ref} {position : Position} {available : Bool} {wifi : WifiCalls} :
    Published component (.sample ref position available wifi)
        (react component (.sample ref position available wifi)).2 ↔
      (¬position.Good → component.Idle → available = true → Startable component wifi ∧ wifi.scan = true) := by
  by_cases good : position.Good
  · exact iff_of_true (good_published good) fun weak => absurd good weak
  · cases available with
    | false =>
        apply iff_of_true _ fun _ _ => nofun
        simp only [react, sample, good, not_false_eq_true, if_true]
        exact status_published (.inl rfl)
    | true =>
        by_cases idle : component.Idle
        · rw [idle_reacts good idle, startScan_published_iff good idle begun_flags]
          exact ⟨fun starts _ _ _ => starts, fun safe => safe good idle rfl⟩
        · apply iff_of_true _ fun _ waits => absurd waits idle
          simp only [react, sample, good, idle, not_false_eq_true, if_true, Bool.true_eq_false, if_false]
          exact status_published (.inr rfl)

/-! The invariant, and the runs. -/

theorem fallback_sound {other : Component Ref} (sound : StatusSound other) :
    StatusSound (useGpsScan other).1 := by
  rw [fallback_component]
  exact ⟨sound.exclusive, sound.ref⟩

theorem result_keeps {handle : Handle} {answer : Answer} (sound : StatusSound component) :
    StatusSound (react component (.result handle answer)).1 := by
  cases waits : component.waitingForCombainResults with
  | false =>
      simp only [react, locationResultHandler, waits, if_true]
      exact sound
  | true =>
      have unscanned : component.waitingForWifiResults ≠ true := fun set => sound.exclusive ⟨set, waits⟩
      have answered : StatusSound { component with waitingForCombainResults := false } :=
        ⟨fun both => Bool.noConfusion both.2, fun some => sound.ref (some.imp_right Bool.noConfusion)⟩
      have fallback := fallback_sound answered
      simp only [react, locationResultHandler, waits, Bool.true_eq_false, if_false]
      cases answer with
      | success fetched =>
          cases fetched with
          | none => exact answered
          | some fix =>
              by_cases inside : fix.Inside
              · simp only [inside, if_true]
                exact ⟨fun both => unscanned both.1, fun some => absurd some (not_or.mpr ⟨unscanned, Bool.false_ne_true⟩)⟩
              · simpa only [inside, if_false] using fallback
      | error fetched => cases fetched <;> exact fallback
      | responseParseFailure | communicationFailure => exact fallback

theorem wifi_keeps {event : WifiEvent} (sound : StatusSound component) :
    StatusSound (react component (.wifi event)).1 := by
  have unscanned : StatusSound { component with waitingForWifiResults := false } :=
    ⟨fun both => Bool.noConfusion both.1, fun some => sound.ref (some.imp_left Bool.noConfusion)⟩
  cases event with
  | scanDone handle accepted =>
      cases waiting : component.waitingForWifiResults with
      | false =>
          simp only [react, wifiEventHandler, waiting, Bool.false_eq_true, if_false]
          exact sound
      | true =>
          have ref := sound.ref (.inl waiting)
          simp only [react, wifiEventHandler, waiting, if_true, trySubmitRequest]
          split
          · exact ⟨fun both => Bool.noConfusion both.1, fun _ => ref⟩
          · exact ⟨fun both => Bool.noConfusion both.1, fun _ => ref⟩
  | scanFailed | connected | disconnected => exact fallback_sound unscanned

theorem saveReading_sound {position : Position} {attempt : Nat} (sound : StatusSound component) :
    StatusSound (saveReading position { component with attempt := attempt }) := by
  unfold saveReading
  split <;> exact ⟨sound.exclusive, sound.ref⟩

theorem sample_keeps {ref : Ref} {position : Position} {available : Bool} {wifi : WifiCalls}
    (sound : StatusSound component) :
    StatusSound (react component (.sample ref position available wifi)).1 := by
  by_cases good : position.Good
  · by_cases idle : component.Idle
    · simp only [react, sample, good, idle, not_true_eq_false, if_false, if_true]
      exact ⟨sound.exclusive, sound.ref⟩
    · simp only [react, sample, good, idle, not_true_eq_false, if_false]
      exact ⟨fun both => Bool.noConfusion both.1, fun some => sound.ref (some.imp_left Bool.noConfusion)⟩
  · cases available with
    | false => simpa only [react, sample, good, not_false_eq_true, if_true] using sound
    | true =>
        by_cases idle : component.Idle
        · rw [idle_reacts good idle]
          have flags := @begun_flags _ component position (component.attempt + 1)
          have saved := @saveReading_sound _ component position (component.attempt + 1) sound
          generalize saveReading position _ = reading at flags saved ⊢
          by_cases startable : Startable reading wifi
          · rw [startScan_starts startable]
            have answered : reading.waitingForCombainResults ≠ true := by
              rw [flags.combain, idle.2]
              exact Bool.false_ne_true
            exact ⟨fun both => answered both.2, fun _ => Option.some_ne_none ref⟩
          · rcases @startScan_fails _ _ ref _ startable with ⟨after, -⟩ | ⟨after, -⟩
            · rw [after]
              exact saved
            · rw [after]
              exact ⟨saved.exclusive, saved.ref⟩
        · simp only [react, sample, good, idle, not_false_eq_true, if_true, Bool.true_eq_false, if_false]
          exact @saveReading_sound _ component position component.attempt sound

theorem status_kept_iff {process : Process Ref} {event : Event Ref}
    (sound : ∀ component, process = some component → StatusSound component) :
    StatusKept process event ↔ StatusSafe process event := by
  apply forall_congr'
  intro component
  apply forall_congr'
  intro running
  cases event with
  | sample => exact sample_published_iff
  | wifi event =>
      cases event with
      | scanDone => exact iff_of_true (scanDone_published (sound component running)) trivial
      | scanFailed | connected | disconnected =>
          exact (silent_published destroy_silent).trans fallback_published_iff
  | result handle answer =>
      cases waits : component.waitingForCombainResults with
      | false =>
          simp only [react, locationResultHandler, waits, if_true]
          apply iff_of_true _ Bool.noConfusion
          rw [silent_published exit_silent]
          exact nothing_published fun ends => Bool.noConfusion (waits.symm.trans ends)
      | true =>
          apply (result_published_iff (sound component running) waits).trans
          exact ⟨fun safe _ => safe, fun safe => safe rfl⟩

theorem status_sound_step {process : Process Ref} {event : Event Ref}
    (sound : ∀ component, process = some component → StatusSound component) :
    ∀ component, handleEvent process event = some component → StatusSound component := by
  intro after reached
  cases process with
  | none => cases reached
  | some component =>
      have before := sound component rfl
      simp only [handleEvent, Option.bind_some] at reached
      split at reached
      · cases reached
      · cases reached
        cases event with
        | sample => exact sample_keeps before
        | wifi => exact wifi_keeps before
        | result => exact result_keeps before

theorem initial_status {component : Component Ref} (first : some initial = some component) :
    StatusSound component := by
  cases first
  exact ⟨fun both => Bool.noConfusion both.1, fun some => absurd some (not_or.mpr ⟨nofun, nofun⟩)⟩

/-- A run publishes only true statuses, and one for each attempt that ends, just
when each of its events meets the condition. -/
theorem status_iff (events : List (Event Ref)) :
    Along handleEvent StatusKept (some (initial : Component Ref)) events ↔
      Along handleEvent StatusSafe (some initial) events :=
  @along_iff _ _ handleEvent StatusKept StatusSafe
    (fun process => ∀ component, process = some component → StatusSound component)
    status_kept_iff (fun sound _ => status_sound_step sound) events _ fun _ => initial_status

/-- A weak fix, saved and then published, ends in the status of no fix. -/
def weakReading : Position := ⟨true, 49282000, -123120000, 200, 0, 5⟩

theorem weak_fix_denied : ¬∀ events : List (Event Unit),
    Along handleEvent StatusKept (some (initial : Component Unit)) events := by
  intro always
  have kept := (always [.sample () weakReading true wifiUp, .wifi .scanFailed]).2.1 _ rfl
  have coordinates := (kept.truthful.fix false (by decide)).mpr
    ⟨some (), .gps weakReading, by decide⟩
  exact Bool.noConfusion coordinates

end MangOH.Location
