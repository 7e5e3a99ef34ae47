import MangOH.BoardProbe

/-!
The probes and the remove functions of mangOH Red and of mangOH Yellow.
-/

namespace MangOH.BoardProbe

open Trace

/-! mangOH Red. `iotSlot` is whether the code is built with `ENABLE_IOT_SLOT`. -/

namespace Red

inductive Slot where
  | eeprom
  | i2cSwitch
  | accelerometer
  | pressure
  | batteryGauge
  | batteryCharger
  | gpioExpander
deriving DecidableEq

inductive Bus where
  | primary
  | gpioExpander
  | batteryCharger
deriving DecidableEq

inductive Device where
  | iotSlot
  | led
deriving DecidableEq

inductive Rev where
  | unknown
  | dv5
  | dv6
deriving DecidableEq

def dv5String : List Char :=
  "mangOH Red DV5.1 PCB Rev 5.0 with SWI MT7697 FW v4.3.0-0 - Manufactured by Talon Communications in Q1 2018".toList

def dv5AltString : List Char :=
  "mangOH Red DV4 PCB Rev 5 - Manufactured by Talon Communications".toList

def dv6String : List Char :=
  "mangOH Red DV6.0 PCB Rev 6.0 with SWI MT7697 FW v4.3.0-0 - Manufactured by Talon Communications in Q4 2018".toList

/-- A revision given when the module is loaded is kept. -/
def eepromSetup : Eeprom → Rev → Rev
  | .unread, rev => rev
  | .read content, rev =>
      let data := content.takeWhile (· ≠ '\x00')
      let detected :=
        if data = dv5String then Rev.dv5
        else if data = dv5AltString then .dv5
        else if data = dv6String then .dv6
        else .unknown
      if rev = .unknown then detected else rev

def mangohRedProbe (iotSlot : Bool) : List (Step Slot Bus Device) :=
  [.getAdapter .primary, .needAdapters [.primary] .done,
    .newDevice .eeprom .primary .cleanup, .eepromSetup, .boardRev .done,
    .newDevice .i2cSwitch .primary .cleanup,
    .getAdapter .gpioExpander, .getAdapter .batteryCharger,
    .needAdapters [.gpioExpander, .batteryCharger] .cleanup,
    .newDevice .gpioExpander .gpioExpander .cleanup, .clientdata .gpioExpander .oops] ++
  (if iotSlot then [.mux .cleanup, .platformDevice .iotSlot .cleanup] else []) ++
  [.platformDevice .led .cleanup,
    .newDevice .accelerometer .primary .returned, .newDevice .pressure .primary .returned,
    .newDevice .batteryCharger .batteryCharger .cleanup,
    .newDevice .batteryGauge .batteryCharger .cleanup]

def mangohRedRemove (iotSlot : Bool) : List (Entry Slot Device) :=
  [.client .batteryGauge, .client .batteryCharger, .client .pressure, .client .accelerometer,
    .device .led] ++
  (if iotSlot then [.device .iotSlot, .mux] else []) ++
  [.client .gpioExpander, .client .i2cSwitch, .client .eeprom]

def board (iotSlot : Bool) : Board Slot Bus Device Rev where
  primary := .primary
  steps := mangohRedProbe iotSlot
  adapters := [.primary, .gpioExpander, .batteryCharger]
  removal := mangohRedRemove iotSlot
  guarded := false
  setup := eepromSetup
  supported rev := decide (rev ≠ .unknown)

theorem board_wellFormed (iotSlot : Bool) : WellFormed (board iotSlot) := by
  cases iotSlot with
  | false => exact ⟨by decide, by decide, by decide, by decide, rfl⟩
  | true => exact ⟨by decide, by decide, by decide, by decide, rfl⟩

/-- A probe that succeeds, or finds no primary adapter. -/
def Safe (iotSlot : Bool) (driver : Driver Slot Bus Device Rev) : Event Slot Bus Device → Prop
  | .probe outcomes => driver.bound = false → outcomes.adapter .primary = false ∨
      failing (board iotSlot) outcomes driver.rev (mangohRedProbe iotSlot) = none
  | .remove => True

/-- The battery gauge is the last device, and its pointer is not checked for NULL:
no failure after the primary adapter leaves nothing. -/
theorem failing_leaves {iotSlot : Bool} {driver : Driver Slot Bus Device Rev}
    {outcomes : Outcomes Slot Bus Device} {exit : Exit} {step : Step Slot Bus Device}
    {rest : List (Step Slot Bus Device)}
    (found : failing (board iotSlot) outcomes driver.rev (mangohRedProbe iotSlot) =
      some (exit, step, rest)) :
    ¬(step.LeavesNothing (board iotSlot) driver ∧
      ∀ entry ∈ entries rest, (board iotSlot).undo driver entry = []) := by
  rintro ⟨own, others⟩
  have last := (failing_suffix found).getLast (List.cons_ne_nil _ _)
  have gauge : ∀ nonempty, (mangohRedProbe iotSlot).getLast nonempty =
      .newDevice .batteryGauge .batteryCharger .cleanup := by
    cases iotSlot <;> exact fun _ => rfl
  rw [gauge] at last
  cases rest with
  | nil =>
      rw [List.getLast_singleton] at last
      subst last
      exact Bool.noConfusion own
  | cons head tail =>
      rw [List.getLast_cons (List.cons_ne_nil _ _)] at last
      have listed : Entry.client Slot.batteryGauge ∈ entries (head :: tail) :=
        List.mem_filterMap.mpr ⟨_, last ▸ List.getLast_mem (List.cons_ne_nil _ _), rfl⟩
      have none := others _ listed
      exact absurd none (List.cons_ne_nil _ _)

theorem safe_iff {iotSlot : Bool} {driver : Driver Slot Bus Device Rev}
    {event : Event Slot Bus Device} :
    BoardProbe.Safe (board iotSlot) driver event ↔ Safe iotSlot driver event := by
  cases event with
  | remove => exact Iff.rfl
  | probe outcomes =>
      apply imp_congr_right
      intro _
      apply or_congr_right
      constructor
      · intro safe
        cases found : failing (board iotSlot) outcomes driver.rev (mangohRedProbe iotSlot) with
        | none => rfl
        | some failure => exact absurd (safe _ _ _ found).2 (failing_leaves found)
      · intro none _ _ _ found
        exact absurd (none.symm.trans found) nofun

end Red

/-! mangOH Yellow. -/

namespace Yellow

inductive Slot where
  | eeprom
  | i2cSwitch
  | imu
  | rtc
  | light
  | batteryGauge
  | batteryCharger
  | gpioExpander
deriving DecidableEq

inductive Bus where
  | primary
  | port1
  | port2
  | port3
deriving DecidableEq

inductive Device where
  | expander
deriving DecidableEq

inductive Rev where
  | unknown
  | dv2
  | dv3
  | v1_0
deriving DecidableEq

def dv3String : List Char := "mangOH Yellow DV3".toList
def productionFirstLine : List Char := "mangOH Yellow\n".toList

def eepromSetup : Eeprom → Rev → Rev
  | .unread, rev => rev
  | .read content, rev =>
      if rev ≠ .unknown then rev
      else if content.all (· = '\xff') then .v1_0
      else if content.take productionFirstLine.length = productionFirstLine then .v1_0
      else if content.takeWhile (· ≠ '\x00') = dv3String then .dv3
      else rev

def mangohYellowProbe : List (Step Slot Bus Device) :=
  [.getAdapter .primary, .needAdapters [.primary] .done,
    .newDevice .eeprom .primary .done, .eepromSetup, .boardRev .done,
    .newDevice .i2cSwitch .primary .done,
    .getAdapter .port1, .getAdapter .port2, .getAdapter .port3,
    .needAdapters [.port1, .port2, .port3] .cleanup,
    .newDevice .gpioExpander .port3 .cleanup, .clientdata .gpioExpander .cleanup,
    .platformDevice .expander .cleanup,
    .newDevice .imu .port1 .cleanup, .newDevice .rtc .port3 .cleanup,
    .newDevice .batteryCharger .port2 .cleanup, .newDevice .batteryGauge .port2 .cleanup,
    .gpio .cleanup, .newDevice .light .port2 .cleanup]

def mangohYellowRemove : List (Entry Slot Device) :=
  [.client .imu, .client .light, .client .batteryCharger, .client .batteryGauge, .client .rtc,
    .device .expander, .client .gpioExpander, .client .i2cSwitch, .client .eeprom]

def board : Board Slot Bus Device Rev where
  primary := .primary
  steps := mangohYellowProbe
  adapters := [.port3, .port2, .port1, .primary]
  removal := mangohYellowRemove
  guarded := true
  setup := eepromSetup
  supported rev := decide (rev = .v1_0 ∨ rev = .dv3)

theorem board_wellFormed : WellFormed board :=
  ⟨by decide, by decide, by decide, by decide, rfl⟩

/-- The first probe undoes what it did if it goes to `cleanup`, whichever call fails. -/
theorem first_safe_iff {rev : Rev} {outcomes : Outcomes Slot Bus Device} :
    ProbeSafe board outcomes (loaded rev) ↔ outcomes.adapter .primary = false ∨
      ∀ exit step rest, failing board outcomes rev mangohYellowProbe = some (exit, step, rest) →
        exit = .cleanup := by
  have none : ∀ entry, board.undo (loaded rev : Driver Slot Bus Device Rev) entry = [] := by
    intro entry
    cases entry <;> rfl
  have own : ∀ step, Step.LeavesNothing board (loaded rev : Driver Slot Bus Device Rev) step := by
    intro step
    cases step <;> first | rfl | trivial
  apply or_congr_right
  constructor
  · exact fun safe exit step rest found => (safe exit step rest found).1
  · exact fun safe exit step rest found => ⟨safe exit step rest found, own step, fun entry _ => none entry⟩

end Yellow

/-- A series of probes and removals, of either board. -/
theorem boards_kept_iff (iotSlot : Bool) (redRev : Red.Rev) (yellowRev : Yellow.Rev)
    (redEvents : List (Event Red.Slot Red.Bus Red.Device))
    (yellowEvents : List (Event Yellow.Slot Yellow.Bus Yellow.Device)) :
    (Along (Red.board iotSlot).step (Kept (Red.board iotSlot)) (loaded redRev) redEvents ↔
      Along (Red.board iotSlot).step (Red.Safe iotSlot) (loaded redRev) redEvents) ∧
    (Along Yellow.board.step (Kept Yellow.board) (loaded yellowRev) yellowEvents ↔
      Along Yellow.board.step (Safe Yellow.board) (loaded yellowRev) yellowEvents) := by
  constructor
  · have same : Red.Safe iotSlot = Safe (Red.board iotSlot) := by
      funext driver event
      exact propext Red.safe_iff.symm
    rw [same]
    exact along_kept_iff (Red.board_wellFormed iotSlot) loaded_kept redEvents
  · exact along_kept_iff Yellow.board_wellFormed loaded_kept yellowEvents

/-- What a probe meets when only the device of one slot is missing. -/
def missing {Slot Bus Device : Type} [DecidableEq Slot] (slot : Slot) : Outcomes Slot Bus Device where
  adapter _ := true
  newDevice other := decide (other ≠ slot)
  eeprom := .unread
  clientdata _ := true
  mux := 0
  platformDevice _ := 0
  gpio := 0

/-- Without the accelerometer the probe of mangOH Red returns with all it has
registered, and without the EEPROM that of mangOH Yellow with its adapter. -/
theorem boards_not_kept :
    ¬(∀ iotSlot rev events, Along (Red.board iotSlot).step (Kept (Red.board iotSlot)) (loaded rev) events) ∧
    ¬(∀ rev events, Along Yellow.board.step (Kept Yellow.board) (loaded rev) events) := by
  constructor
  · intro always
    have kept := (always true .dv5 [.probe (missing .accelerometer)]).1
    exact absurd (kept.unbound (by decide)) (by decide)
  · intro always
    have kept := (always .v1_0 [.probe (missing .eeprom)]).1
    exact absurd (kept.unbound (by decide)) (by decide)

end MangOH.BoardProbe
