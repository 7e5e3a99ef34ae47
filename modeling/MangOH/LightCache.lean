import MangOH.LightSensor
import MangOH.Trace
import Mathlib.Tactic.Ring

/-!
What the light sensor's driver caches against what the device holds, after each
operation and with any transfer failing.
-/

namespace MangOH.LightSensor

open Masks Trace

def intTimeOf (configuration : Word) : Nat :=
  if configuration &&& ctBit = 0 then intTimeShort else intTimeLong

namespace Sensor

variable (sensor : Sensor)

def LowAgrees : Prop := sensor.cache.lowThresh = .ofWord sensor.device.lowLimit
def HighAgrees : Prop := sensor.cache.highThresh = .ofWord sensor.device.highLimit
def ModeAgrees : Prop := sensor.cache.mode = sensor.device.configuration &&& mMask
def TimeAgrees : Prop := sensor.cache.intTime = intTimeOf sensor.device.configuration

def Agrees : Prop := sensor.LowAgrees ∧ sensor.HighAgrees ∧ sensor.ModeAgrees ∧ sensor.TimeAgrees

end Sensor

/-- The cache has for a register what it had before. -/
def Cache.Same (register : Register) (after before : Cache) : Prop :=
  match register with
  | .result => True
  | .configuration => after.mode = before.mode ∧ after.intTime = before.intTime
  | .lowLimit => after.lowThresh = before.lowThresh
  | .highLimit => after.highThresh = before.highThresh

/-- The conversion that a reading should return, if it completes during the call and the
handler gets to it. -/
def Operation.due (settings : Settings) : Operation → Option (Nat × Nat)
  | .getReading shot =>
      if settings.useIrq = true ∧ shot.delivered = false then none
      else shot.completed.map fun result => settings.chip.toIioRet (.ofWord result)
  | .setIntTime _ | .writeEventValue _ _ _ | .writeEventConfig _ => none

/-- The bus works at the end of an operation if a further transfer would succeed. -/
structure Holds (before : Sensor) (bus : Bus) (due : Option (Nat × Nat)) (done : Done) : Prop where
  agrees : bus done.transfers = true → done.sensor.Agrees
  failed : ∀ register, done.failed = some register → done.sensor.cache.Same register before.cache
  value : ∀ value, due = some value → (∀ index < done.transfers, bus index = true) →
    done.ret = .ok (some value)

structure Event where
  operation : Operation
  bus : Bus

def step (settings : Settings) (sensor : Sensor) (event : Event) : Sensor :=
  (event.operation.perform settings event.bus sensor).sensor

def Kept (settings : Settings) (sensor : Sensor) (event : Event) : Prop :=
  Holds sensor event.bus (event.operation.due settings)
    (event.operation.perform settings event.bus sensor)

/-! When an operation meets this. -/

/-- A threshold that a register can hold. -/
def Threshold.Fits (threshold : Threshold) : Prop :=
  threshold.mantissa.toNat < 4096 ∧ threshold.exponent.toNat < 16

/-- While the interrupt is enabled the register for the low limit holds something else. -/
def LowLeft (settings : Settings) (sensor : Sensor) : Prop :=
  if settings.useIrq then sensor.cache.lowThresh = .ofWord eocEnable else sensor.LowAgrees

/-- The mode of a device that has started the conversion is still the one that was set. -/
def ModeStays (settings : Settings) (shot : Shot) : Prop :=
  ¬(settings.shutsDown = true ∧ shot.completed.isSome)

/-- The values beside the low limit and the mode. -/
def OthersAgree (sensor : Sensor) : Prop := sensor.HighAgrees ∧ sensor.TimeAgrees

/-- A reading with the interrupt gets its result, and writes the low limit back to the
register. Without, the result of a conversion is not zero. -/
def ConversionSafe (settings : Settings) (shot : Shot) (bus : Bus) (sensor : Sensor) : Prop :=
  if settings.useIrq then
    if shot.completed.isSome ∧ shot.delivered = true then
      bus 4 = true → ModeStays settings shot ∧ OthersAgree sensor ∧
        if bus 3 then sensor.cache.lowThresh.Fits else LowLeft settings sensor
    else bus 3 = true → ModeStays settings shot ∧ OthersAgree sensor ∧ LowLeft settings sensor
  else
    if bus 2 = false ∨ shot.completed = none then
      bus 3 = true → ModeStays settings shot ∧ OthersAgree sensor ∧ LowLeft settings sensor
    else
      (bus 4 = true → ModeStays settings shot ∧ OthersAgree sensor ∧ LowLeft settings sensor) ∧
        (bus 3 = true → shot.completed ≠ some 0)

/-- A configuration that fails to be written was in single mode before. -/
def StartSafe (settings : Settings) (shot : Shot) (first : Nat) (bus : Bus) (sensor : Sensor) : Prop :=
  if bus first = false then
    bus (first + 1) = true → LowLeft settings sensor ∧ OthersAgree sensor ∧ sensor.ModeAgrees
  else if bus (first + 1) = false then
    sensor.cache.mode = single ∧
      (bus (first + 2) = true → LowLeft settings sensor ∧ OthersAgree sensor ∧ sensor.ModeAgrees)
  else ConversionSafe settings shot bus sensor

def ReadingSafe (settings : Settings) (shot : Shot) (bus : Bus) (sensor : Sensor) : Prop :=
  if settings.useIrq then
    if bus 0 = false then bus 1 = true → sensor.Agrees else StartSafe settings shot 1 bus sensor
  else StartSafe settings shot 0 bus sensor

/-- A time that fails to be written is the one that is cached. -/
def IntTimeSafe (time : Int) (bus : Bus) (sensor : Sensor) : Prop :=
  if bus 0 = true ∧ (time = intTimeShort ∨ time = intTimeLong) then
    if bus 1 then bus 2 = true → sensor.LowAgrees ∧ sensor.HighAgrees ∧ sensor.ModeAgrees
    else (sensor.cache.intTime : Int) = time ∧ (bus 2 = true → sensor.Agrees)
  else bus 1 = true → sensor.Agrees

/-- A threshold that is written fits the register, and one that fails to be written is
the one that is cached. -/
def EventValueSafe (chip : Chip) (dir : Direction) (val val2 : Int) (bus : Bus) (sensor : Sensor) :
    Prop :=
  match (if val < 0 then none else chip.threshold val val2) with
  | none => bus 0 = true → sensor.Agrees
  | some threshold =>
      match dir with
      | .rising =>
          if bus 0 then bus 1 = true → threshold.Fits ∧ sensor.LowAgrees ∧ sensor.ModeAgrees ∧
            sensor.TimeAgrees
          else sensor.cache.highThresh = threshold ∧ (bus 1 = true → sensor.Agrees)
      | .falling =>
          if bus 0 then bus 1 = true → threshold.Fits ∧ sensor.HighAgrees ∧ sensor.ModeAgrees ∧
            sensor.TimeAgrees
          else sensor.cache.lowThresh = threshold ∧ (bus 1 = true → sensor.Agrees)
      | .other => bus 0 = true → sensor.Agrees

/-- A mode that fails to be written is the one that is cached: there is none such, since
that one is not written. -/
def EventConfigSafe (state : Bool) (bus : Bus) (sensor : Sensor) : Prop :=
  if sensor.cache.mode = (if state then continuous else shutdown) then bus 0 = true → sensor.Agrees
  else if bus 0 = false then bus 1 = true → sensor.Agrees
  else bus 1 = true ∧
    (bus 2 = true → sensor.LowAgrees ∧ sensor.HighAgrees ∧ sensor.TimeAgrees)

def Safe (settings : Settings) (sensor : Sensor) (event : Event) : Prop :=
  match event.operation with
  | .getReading shot => ReadingSafe settings shot event.bus sensor
  | .setIntTime time => IntTimeSafe time event.bus sensor
  | .writeEventValue dir val val2 => EventValueSafe settings.chip dir val val2 event.bus sensor
  | .writeEventConfig state => EventConfigSafe state event.bus sensor

variable {settings : Settings} {shot : Shot} {bus : Bus} {before sensor : Sensor} {device : Device}
  {reg mode : Word} {threshold : Threshold} {done : Done} {completed : Option Word}

/-! The registers. -/

theorem toWord_exponent (small : threshold.mantissa.toNat < 4096) (exponent : threshold.exponent.toNat < 16) :
    threshold.toWord.toNat = threshold.exponent.toNat * 4096 + threshold.mantissa.toNat := by
  have shifted : (threshold.exponent.setWidth 16 <<< 12).toNat = threshold.exponent.toNat <<< 12 := by
    rw [BitVec.toNat_shiftLeft, BitVec.toNat_setWidth, Nat.shiftLeft_eq]
    omega
  rw [Threshold.toWord, BitVec.toNat_or, shifted, ← Nat.shiftLeft_add_eq_or_of_lt small,
    Nat.shiftLeft_eq]

/-- A threshold is read back from its register if it fits. -/
theorem ofWord_toWord_iff : Threshold.ofWord threshold.toWord = threshold ↔ threshold.Fits := by
  constructor
  · intro same
    have mantissa : threshold.mantissa = regMantissa threshold.toWord := by
      conv_lhs => rw [← same]
      rfl
    have exponent : threshold.exponent = regExponent threshold.toWord := by
      conv_lhs => rw [← same]
      rfl
    constructor
    · rw [mantissa, regMantissa, BitVec.toNat_and]
      exact Nat.lt_of_le_of_lt Nat.and_le_right (by decide)
    · rw [exponent, regExponent, BitVec.toNat_setWidth, BitVec.toNat_ushiftRight,
        Nat.shiftRight_eq_div_pow]
      omega
  · rintro ⟨small, exponent⟩
    have word := toWord_exponent small exponent
    have low : regMantissa threshold.toWord = threshold.mantissa := by
      apply BitVec.eq_of_toNat_eq
      have mask : (0xfff : Word).toNat = 2 ^ 12 - 1 := by decide
      rw [regMantissa, BitVec.toNat_and, mask, Nat.and_two_pow_sub_one_eq_mod, word]
      omega
    have high : regExponent threshold.toWord = threshold.exponent := by
      apply BitVec.eq_of_toNat_eq
      rw [regExponent, BitVec.toNat_setWidth, BitVec.toNat_ushiftRight, Nat.shiftRight_eq_div_pow, word]
      omega
    rw [Threshold.ofWord, low, high]

theorem write_mode (inside : mode &&& mMask = mode) :
    (device.write .configuration (replace reg mMask mode)).configuration &&& mMask = mode := by
  have apart : crfBit &&& mMask = 0 := by decide
  exact (clear_and_other apart).trans (replace_and_self inside)

theorem write_time (beside : mode &&& ctBit = 0) :
    intTimeOf (device.write .configuration (replace reg mMask mode)).configuration = intTimeOf reg := by
  have apart : crfBit &&& ctBit = 0 := by decide
  have field : mMask &&& ctBit = 0 := by decide
  have same : clear (replace reg mMask mode) crfBit &&& ctBit = reg &&& ctBit :=
    (clear_and_other apart).trans (replace_and_other field beside)
  rw [Device.write, intTimeOf, same, intTimeOf]

theorem complete_time (shutsDown : Bool) :
    intTimeOf (device.complete shutsDown completed).configuration = intTimeOf device.configuration := by
  have ready : crfBit &&& ctBit = 0 := by decide
  have field : mMask &&& ctBit = 0 := by decide
  cases completed with
  | none => rfl
  | some result =>
      have same : ((if shutsDown then clear device.configuration mMask else device.configuration) |||
          crfBit) &&& ctBit = device.configuration &&& ctBit := by
        rw [or_and_other ready]
        split
        · exact clear_and_other field
        · rfl
      simp only [Device.complete, intTimeOf, same]

/-- The mode of the device is no longer single once it has shut down. -/
theorem complete_mode_iff (inside : device.configuration &&& mMask = single) :
    single = (device.complete settings.shutsDown shot.completed).configuration &&& mMask ↔
      ModeStays settings shot := by
  have ready : crfBit &&& mMask = 0 := by decide
  rw [ModeStays]
  cases completed : shot.completed with
  | none => simp [Device.complete, inside]
  | some result =>
      simp only [Device.complete, or_and_other ready]
      cases settings.shutsDown with
      | true =>
          have gone : ¬single = clear device.configuration mMask &&& mMask := by
            rw [clear_and_self]
            decide
          simpa using gone
      | false => simp [inside]

/-! The parts of an operation. -/

/-- Without a failed write and without a value there is only the agreement. -/
theorem quiet_holds_iff {due : Option (Nat × Nat)} {ret : Except Errno (Option (Nat × Nat))}
    {transfers : Nat}
    (returned : ∀ value, due = some value → (∀ index < transfers, bus index = true) →
      ret = .ok (some value)) :
    Holds before bus due ⟨sensor, transfers, none, ret⟩ ↔ (bus transfers = true → sensor.Agrees) :=
  ⟨fun holds => holds.agrees, fun agrees => ⟨agrees, fun _ failed => (by cases failed), returned⟩⟩

/-- A transfer that failed leaves nothing due. -/
theorem not_due {index transfers : Nat} {value : Nat × Nat} {ret : Except Errno (Option (Nat × Nat))}
    (within : index < transfers) (fails : bus index = false)
    (all : ∀ index < transfers, bus index = true) : ret = .ok (some value) :=
  absurd ((all index within).symm.trans fails) Bool.noConfusion

/-- A write that failed leaves what it should have written to agree. -/
theorem failed_holds_iff {due : Option (Nat × Nat)} {register : Register} {index : Nat}
    {ret : Except Errno (Option (Nat × Nat))} (fails : bus index = false) :
    Holds before bus due ⟨sensor, index + 1, some register, ret⟩ ↔
      sensor.cache.Same register before.cache ∧ (bus (index + 1) = true → sensor.Agrees) := by
  constructor
  · exact fun holds => ⟨holds.failed register rfl, holds.agrees⟩
  · rintro ⟨same, agrees⟩
    refine ⟨agrees, fun other failed => ?_, fun _ _ => not_due (Nat.lt_succ_self index) fails⟩
    cases failed
    exact same

theorem writeLast_holds_iff {register : Register} {word : Word} {index : Nat}
    {value due : Option (Nat × Nat)} (returned : ∀ one, due = some one → value = some one) :
    Holds before bus due (writeLast register word index bus sensor value) ↔
      if bus index then
        bus (index + 1) = true → { sensor with device := sensor.device.write register word }.Agrees
      else sensor.cache.Same register before.cache ∧ (bus (index + 1) = true → sensor.Agrees) := by
  rw [writeLast]
  split
  · exact quiet_holds_iff fun one isDue _ => congrArg Except.ok (returned one isDue)
  · rename_i fails
    exact failed_holds_iff (Bool.eq_false_iff.mpr fails)

/-- Where a write fails, nothing changed if the cache did not. -/
theorem unchanged_iff {index : Nat} {same : Prop} {after : Sensor} (whole : same → after = sensor) :
    (same ∧ (bus index = true → after.Agrees)) ↔ (same ∧ (bus index = true → sensor.Agrees)) :=
  and_congr_right fun met => by rw [whole met]

theorem nothing_due (ret : Except Errno (Option (Nat × Nat))) (transfers : Nat) (value : Nat × Nat)
    (due : none = some value) (_ : ∀ index < transfers, bus index = true) : ret = .ok (some value) := by
  cases due

theorem intTime_holds_iff {word : Word} {time : Nat} (field : intTimeOf (clear word crfBit) = time)
    (beside : clear word crfBit &&& mMask = sensor.device.configuration &&& mMask) :
    Holds sensor bus none
        (writeLast .configuration word 1 bus { sensor with cache := { sensor.cache with intTime := time } }
          none) ↔
      if bus 1 then bus 2 = true → sensor.LowAgrees ∧ sensor.HighAgrees ∧ sensor.ModeAgrees
      else sensor.cache.intTime = time ∧ (bus 2 = true → sensor.Agrees) := by
  rw [writeLast_holds_iff fun _ due => due]
  split
  · apply imp_congr_right
    intro _
    have mode : sensor.cache.mode = clear word crfBit &&& mMask ↔ sensor.ModeAgrees := by
      rw [beside]
      rfl
    have written : time = intTimeOf (clear word crfBit) := field.symm
    constructor
    · exact fun agrees => ⟨agrees.1, agrees.2.1, mode.mp agrees.2.2.1⟩
    · exact fun agrees => ⟨agrees.1, agrees.2.1, mode.mpr agrees.2.2, written⟩
  · have same : (sensor.cache.mode = sensor.cache.mode ∧ time = sensor.cache.intTime) ↔
        sensor.cache.intTime = time := by
      rw [eq_self, true_and, eq_comm]
    refine (unchanged_iff fun met => ?_).trans (and_congr_left' same)
    obtain rfl : time = sensor.cache.intTime := met.2
    rfl

theorem setIntTime_holds_iff (time : Int) :
    Holds sensor bus none (setIntTime time bus sensor) ↔ IntTimeSafe time bus sensor := by
  have crf : crfBit &&& mMask = 0 := by decide
  have ready : crfBit &&& ctBit = 0 := by decide
  rw [setIntTime, IntTimeSafe]
  by_cases reads : bus 0 = false
  · rw [if_pos reads, if_neg fun works => absurd (reads.symm.trans works.1) Bool.false_ne_true]
    exact quiet_holds_iff (nothing_due _ 1)
  · rw [if_neg reads]
    have works : bus 0 = true := by simpa using reads
    simp only
    split
    · rename_i short
      subst short
      have field : intTimeOf (clear (clear sensor.device.configuration ctBit) crfBit) = intTimeShort := by
        rw [intTimeOf, clear_and_other ready, clear_and_self, if_pos rfl]
      have beside : ctBit &&& mMask = 0 := by decide
      rw [if_pos ⟨works, .inl rfl⟩, intTime_holds_iff field
        ((clear_and_other crf).trans (clear_and_other beside)), Int.natCast_inj]
    · rename_i notShort
      split
      · rename_i long
        subst long
        have set : (sensor.device.configuration ||| ctBit) &&& ctBit ≠ 0 := by
          rw [BitVec.and_or_distrib_right]
          exact fun none => absurd (BitVec.or_eq_zero_iff.mp none).2 (by decide)
        have field : intTimeOf (clear (sensor.device.configuration ||| ctBit) crfBit) = intTimeLong := by
          rw [intTimeOf, clear_and_other ready, if_neg set]
        have beside : ctBit &&& mMask = 0 := by decide
        rw [if_pos ⟨works, .inr rfl⟩, intTime_holds_iff field
          ((clear_and_other crf).trans (or_and_other beside)), Int.natCast_inj]
      · rename_i notLong
        rw [if_neg fun valid => valid.2.elim notShort notLong]
        exact quiet_holds_iff (nothing_due _ 1)

theorem writeEventConfig_holds_iff (state : Bool) :
    Holds sensor bus none (writeEventConfig state bus sensor) ↔ EventConfigSafe state bus sensor := by
  rw [writeEventConfig, EventConfigSafe]
  generalize wanted : (if state then continuous else shutdown) = mode
  have inside : mode &&& mMask = mode := by
    subst wanted
    cases state <;> decide
  have beside : mode &&& ctBit = 0 := by
    subst wanted
    cases state <;> decide
  split
  · exact quiet_holds_iff (nothing_due _ 0)
  · rename_i changes
    split
    · exact quiet_holds_iff (nothing_due _ 1)
    · rw [writeLast_holds_iff fun _ due => due]
      cases written : bus 1 with
      | true =>
          simp only [if_true, true_and]
          apply imp_congr_right
          intro _
          have stays : mode = (sensor.device.write .configuration
              (replace sensor.device.configuration mMask mode)).configuration &&& mMask :=
            (write_mode inside).symm
          have time : sensor.cache.intTime = intTimeOf (sensor.device.write .configuration
              (replace sensor.device.configuration mMask mode)).configuration ↔ sensor.TimeAgrees := by
            rw [write_time beside]
            rfl
          constructor
          · exact fun agrees => ⟨agrees.1, agrees.2.1, time.mp agrees.2.2.2⟩
          · exact fun agrees => ⟨agrees.1, agrees.2.1, stays, time.mpr agrees.2.2⟩
      | false =>
          constructor
          · exact fun holds => absurd holds.1.1.symm changes
          · exact fun works => absurd works.1 Bool.false_ne_true

theorem writeEventValue_holds_iff (chip : Chip) (dir : Direction) (val val2 : Int) :
    Holds sensor bus none (writeEventValue chip dir val val2 bus sensor) ↔
      EventValueSafe chip dir val val2 bus sensor := by
  have read : ∀ threshold : Threshold, threshold = .ofWord threshold.toWord ↔ threshold.Fits :=
    fun threshold => eq_comm.trans ofWord_toWord_iff
  rw [writeEventValue, EventValueSafe]
  split
  · exact quiet_holds_iff (nothing_due _ 0)
  · cases chip.threshold val val2 with
    | none => exact quiet_holds_iff (nothing_due _ 0)
    | some threshold =>
        cases dir with
        | rising =>
            refine (writeLast_holds_iff fun _ due => due).trans ?_
            simp only
            split
            · apply imp_congr_right
              intro _
              constructor
              · exact fun agrees => ⟨(read threshold).mp agrees.2.1, agrees.1, agrees.2.2⟩
              · exact fun agrees => ⟨agrees.2.1, (read threshold).mpr agrees.1, agrees.2.2⟩
            · refine (unchanged_iff fun met => ?_).trans (and_congr_left' eq_comm)
              obtain rfl : threshold = sensor.cache.highThresh := met
              rfl
        | falling =>
            refine (writeLast_holds_iff fun _ due => due).trans ?_
            simp only
            split
            · apply imp_congr_right
              intro _
              constructor
              · exact fun agrees => ⟨(read threshold).mp agrees.1, agrees.2⟩
              · exact fun agrees => ⟨(read threshold).mpr agrees.1, agrees.2⟩
            · refine (unchanged_iff fun met => ?_).trans (and_congr_left' eq_comm)
              obtain rfl : threshold = sensor.cache.lowThresh := met
              rfl
        | other => exact quiet_holds_iff (nothing_due _ 0)

/-! A reading. -/

theorem agrees_split (sensor : Sensor) :
    sensor.Agrees ↔ sensor.LowAgrees ∧ OthersAgree sensor ∧ sensor.ModeAgrees :=
  ⟨fun all => ⟨all.1, ⟨all.2.1, all.2.2.2⟩, all.2.2.1⟩,
    fun all => ⟨all.1, all.2.1.1, all.2.2, all.2.1.2⟩⟩

theorem complete_limits (shutsDown : Bool) :
    (device.complete shutsDown completed).lowLimit = device.lowLimit ∧
      (device.complete shutsDown completed).highLimit = device.highLimit := by
  cases completed <;> exact ⟨rfl, rfl⟩

/-- The device with the conversion started, and perhaps completed. -/
def Sensor.converting (settings : Settings) (shot : Shot) (sensor : Sensor) : Device :=
  (sensor.device.write .configuration
    (replace sensor.device.configuration mMask single)).complete settings.shutsDown shot.completed

/-- What a reading leaves behind a conversion, with the low limit as it then is. -/
theorem converting_agrees_iff (sensor : Sensor) (result low : Word) :
    Sensor.Agrees ⟨{ setMode single sensor.cache with result := result },
        { sensor.converting settings shot with lowLimit := low }⟩ ↔
      ModeStays settings shot ∧ OthersAgree sensor ∧ sensor.cache.lowThresh = .ofWord low := by
  have inside : single &&& mMask = single := by decide
  have beside : single &&& ctBit = 0 := by decide
  have mode := @complete_mode_iff settings shot _ (@write_mode sensor.device sensor.device.configuration
    _ inside)
  have time : intTimeOf (sensor.converting settings shot).configuration =
      intTimeOf sensor.device.configuration := (complete_time _).trans (write_time beside)
  have high : (sensor.converting settings shot).highLimit = sensor.device.highLimit :=
    (complete_limits _).2
  constructor
  · intro all
    exact ⟨mode.mp all.2.2.1, ⟨all.2.1.trans (congrArg _ high), all.2.2.2.trans time⟩, all.1⟩
  · rintro ⟨stays, ⟨highAgrees, timeAgrees⟩, lowAgrees⟩
    exact ⟨lowAgrees, highAgrees.trans (congrArg _ high.symm), mode.mpr stays, timeAgrees.trans time.symm⟩

/-- The same with the low limit that the reading found. -/
theorem converted_agrees_iff (sensor : Sensor) (result : Word) :
    Sensor.Agrees ⟨{ setMode single sensor.cache with result := result }, sensor.converting settings shot⟩ ↔
      ModeStays settings shot ∧ OthersAgree sensor ∧ sensor.LowAgrees := by
  have low : (sensor.converting settings shot).lowLimit = sensor.device.lowLimit := (complete_limits _).1
  rw [Sensor.LowAgrees, ← low]
  exact converting_agrees_iff sensor result _

theorem crf_iff (sensor : Sensor) :
    (sensor.converting settings shot).configuration &&& crfBit = 0 ↔ shot.completed = none := by
  rw [Sensor.converting]
  cases shot.completed with
  | none => exact iff_of_true clear_and_self rfl
  | some result =>
      refine iff_of_false ?_ (Option.some_ne_none result)
      simp only [Device.complete]
      rw [BitVec.and_or_distrib_right]
      exact fun none => absurd (BitVec.or_eq_zero_iff.mp none).2 (by decide)

/-- Polling: the result is returned unless it is zero. -/
theorem poll_holds_iff (sensor : Sensor) (reads : bus 0 = true) (writes : bus 1 = true) :
    Holds before bus (shot.completed.map fun result => settings.chip.toIioRet (.ofWord result))
        (poll settings.chip bus ⟨setMode single sensor.cache, sensor.converting settings shot⟩) ↔
      if bus 2 = false ∨ shot.completed = none then
        bus 3 = true → ModeStays settings shot ∧ OthersAgree sensor ∧ sensor.LowAgrees
      else
        (bus 4 = true → ModeStays settings shot ∧ OthersAgree sensor ∧ sensor.LowAgrees) ∧
          (bus 3 = true → shot.completed ≠ some 0) := by
  have agrees (result : Word) := @converted_agrees_iff settings shot sensor result
  rw [poll]
  -- The read of the configuration, the bit for a result, and the read of the result.
  cases checks : bus 2 with
  | false =>
      rw [if_pos rfl, if_pos (.inl rfl), ← agrees sensor.cache.result]
      exact quiet_holds_iff fun _ _ => not_due (by decide) checks
  | true =>
      rw [if_neg Bool.true_eq_false.mp]
      simp only [crf_iff]
      cases completed : shot.completed with
      | none =>
          rw [if_pos rfl, if_pos (.inr rfl), ← agrees sensor.cache.result]
          exact quiet_holds_iff (nothing_due _ 3)
      | some result =>
          have got : (sensor.converting settings shot).result = result := by
            rw [Sensor.converting, completed]
            rfl
          have neither : ¬(true = false ∨ some result = none) :=
            not_or.mpr ⟨Bool.true_eq_false.mp, Option.some_ne_none result⟩
          rw [if_neg (Option.some_ne_none result), if_neg neither]
          cases last : bus 3 with
          | false =>
              rw [if_pos rfl, ← agrees sensor.cache.result,
                and_iff_left fun works => absurd works Bool.false_ne_true]
              exact quiet_holds_iff fun _ _ => not_due (by decide) last
          | true =>
              have all : ∀ index < 4, bus index = true := by
                intro index within
                rcases index with _ | _ | _ | _ | _
                · exact reads
                · exact writes
                · exact checks
                · exact last
                · omega
              rw [if_neg Bool.true_eq_false.mp, got, ← agrees result]
              -- A result of zero is taken for none.
              by_cases zero : result = 0
              · rw [if_pos zero]
                constructor
                · intro holds
                  have value := holds.value _ rfl all
                  cases value
                · exact fun works => absurd (congrArg some zero) (works.2 rfl)
              · rw [if_neg zero, and_iff_left fun _ same => zero (Option.some.inj same)]
                refine quiet_holds_iff fun value due _ => ?_
                exact congrArg Except.ok due

/-- With the interrupt: a result that is delivered is returned if the low limit is restored. -/
theorem awaitIrq_holds_iff (sensor : Sensor) (cache : sensor.cache = before.cache) :
    Holds before bus (if shot.delivered = false then none
          else shot.completed.map fun result => settings.chip.toIioRet (.ofWord result))
        (awaitIrq settings.chip shot bus ⟨setMode single sensor.cache, sensor.converting settings shot⟩) ↔
      if shot.completed.isSome ∧ shot.delivered = true then
        bus 4 = true → ModeStays settings shot ∧ OthersAgree sensor ∧
          if bus 3 then sensor.cache.lowThresh.Fits else sensor.LowAgrees
      else bus 3 = true → ModeStays settings shot ∧ OthersAgree sensor ∧ sensor.LowAgrees := by
  have agrees (result : Word) := @converted_agrees_iff settings shot sensor result
  cases completed : shot.completed with
  | none =>
      have missing : ¬((none : Option Word).isSome = true ∧ shot.delivered = true) :=
        fun both => Bool.false_ne_true both.1
      rw [if_neg missing, Option.map_none, ite_self, ← agrees sensor.cache.result]
      simp only [awaitIrq, completed]
      exact quiet_holds_iff (nothing_due _ 3)
  | some result =>
      cases delivered : shot.delivered with
      | false =>
          rw [if_pos rfl, if_neg fun both => Bool.false_ne_true both.2, ← agrees sensor.cache.result]
          simp only [awaitIrq, completed, delivered]
          exact quiet_holds_iff (nothing_due _ 3)
      | true =>
          rw [if_neg Bool.true_eq_false.mp, if_pos ⟨rfl, rfl⟩]
          simp only [awaitIrq, completed, delivered]
          refine (writeLast_holds_iff fun _ due => due).trans ?_
          -- What is written back is the cached threshold, as a word keeps it.
          have fits : sensor.cache.lowThresh = .ofWord sensor.cache.lowThresh.toWord ↔
              sensor.cache.lowThresh.Fits := eq_comm.trans ofWord_toWord_iff
          have restored := @converting_agrees_iff settings shot sensor result
            sensor.cache.lowThresh.toWord
          cases bus 3 with
          | true =>
              simp only [if_true]
              rw [← fits, ← restored]
              rfl
          | false =>
              simp only [Bool.false_eq_true, if_false]
              rw [← agrees result]
              have low : sensor.cache.lowThresh = before.cache.lowThresh := by rw [cache]
              exact and_iff_right low

/-- The exits of a reading before there is a conversion. -/
theorem startConversion_holds_iff {first : Nat} {due : Option (Nat × Nat)} {converted : Prop}
    (cache : sensor.cache = before.cache)
    (goes : bus first = true → bus (first + 1) = true →
      (Holds before bus due
        (if settings.useIrq then
          awaitIrq settings.chip shot bus ⟨setMode single sensor.cache, sensor.converting settings shot⟩
        else poll settings.chip bus ⟨setMode single sensor.cache, sensor.converting settings shot⟩) ↔
      converted)) :
    Holds before bus due (startConversion settings shot first bus sensor) ↔
      if bus first = false then bus (first + 1) = true → sensor.Agrees
      else if bus (first + 1) = false then
        sensor.cache.mode = single ∧ (bus (first + 2) = true → sensor.Agrees)
      else converted := by
  rw [startConversion]
  cases reads : bus first with
  | false =>
      rw [if_pos rfl, if_pos rfl]
      exact quiet_holds_iff fun _ _ => not_due (Nat.lt_succ_self first) reads
  | true =>
      rw [if_neg Bool.true_eq_false.mp, if_neg Bool.true_eq_false.mp]
      cases writes : bus (first + 1) with
      | false =>
          rw [if_pos rfl, if_pos rfl]
          refine (failed_holds_iff writes).trans ?_
          have same : (single = before.cache.mode ∧ sensor.cache.intTime = before.cache.intTime) ↔
              sensor.cache.mode = single := by
            rw [cache, eq_comm, and_iff_left rfl]
          refine (unchanged_iff fun met => ?_).trans (and_congr_left' same)
          have mode : single = sensor.cache.mode := (same.mp met).symm
          rw [mode]
          rfl
      | true =>
          rw [if_neg Bool.true_eq_false.mp, if_neg Bool.true_eq_false.mp]
          exact goes reads writes

theorem getReading_holds_iff (shot : Shot) :
    Holds sensor bus ((Operation.getReading shot).due settings) (getReading settings shot bus sensor) ↔
      ReadingSafe settings shot bus sensor := by
  rw [getReading, ReadingSafe, Operation.due]
  cases useIrq : settings.useIrq with
  | false =>
      rw [if_neg Bool.false_ne_true, if_neg Bool.false_ne_true,
        if_neg fun both => Bool.false_ne_true both.1]
      refine (@startConversion_holds_iff settings shot bus sensor sensor 0 _
        (ConversionSafe settings shot bus sensor) rfl fun reads writes => ?_).trans ?_
      · rw [useIrq, if_neg Bool.false_ne_true, ConversionSafe, useIrq, if_neg Bool.false_ne_true, LowLeft,
          useIrq]
        exact poll_holds_iff sensor reads writes
      · rw [StartSafe, agrees_split, LowLeft, useIrq]
        rfl
  | true =>
      simp only [if_true, true_and]
      cases enabled : bus 0 with
      | false =>
          rw [if_pos rfl, if_pos rfl, failed_holds_iff enabled]
          exact and_iff_right rfl
      | true =>
          -- What the low limit holds from here on is not what is cached.
          have left (opened : Sensor) (is : opened =
              { sensor with device := sensor.device.write .lowLimit eocEnable }) :
              opened.LowAgrees ↔ LowLeft settings sensor := by
            rw [is, LowLeft, useIrq, if_pos rfl]
            rfl
          rw [if_neg Bool.true_eq_false.mp, if_neg Bool.true_eq_false.mp]
          refine (@startConversion_holds_iff settings shot bus sensor
            { sensor with device := sensor.device.write .lowLimit eocEnable } 1 _
            (ConversionSafe settings shot bus sensor) rfl fun _ _ => ?_).trans ?_
          · rw [useIrq, if_pos rfl, ConversionSafe, useIrq, if_pos rfl, ← left _ rfl]
            exact awaitIrq_holds_iff _ rfl
          · rw [StartSafe, agrees_split, ← left _ rfl]
            rfl

/-! Runs. -/

theorem kept_iff (sensor : Sensor) (event : Event) :
    Kept settings sensor event ↔ Safe settings sensor event := by
  obtain ⟨operation, bus⟩ := event
  cases operation with
  | getReading shot => exact getReading_holds_iff shot
  | setIntTime time => exact setIntTime_holds_iff time
  | writeEventValue dir val val2 => exact writeEventValue_holds_iff settings.chip dir val val2
  | writeEventConfig state => exact writeEventConfig_holds_iff state

/-- What the probe leaves agrees. -/
theorem configure_agrees {configured : Sensor} (done : configure bus sensor = some configured) :
    configured.Agrees := by
  rw [configure] at done
  split at done
  · cases done
  · simp only at done
    split at done
    · cases done
    · have kept (field : Word) (crf : crfBit &&& field = 0) (fc : fcMask &&& field = 0)
          (me : meBit &&& field = 0) (pol : polBit &&& field = 0) (l : lBit &&& field = 0) (reg : Word) :
          clear (clear (clear (clear (reg ||| lBit) polBit) meBit) fcMask) crfBit &&& field =
            reg &&& field := by
        rw [clear_and_other crf, clear_and_other fc, clear_and_other me, clear_and_other pol,
          or_and_other l]
      have mode := kept mMask (by decide) (by decide) (by decide) (by decide) (by decide)
        (replace (replace sensor.device.configuration rnMask rnAuto) mMask shutdown)
      have time := kept ctBit (by decide) (by decide) (by decide) (by decide) (by decide)
        (replace (replace sensor.device.configuration rnMask rnAuto) mMask shutdown)
      have inside : shutdown &&& mMask = shutdown := by decide
      have field : mMask &&& ctBit = 0 := by decide
      have beside : shutdown &&& ctBit = 0 := by decide
      rw [replace_and_self inside] at mode
      rw [replace_and_other field beside] at time
      cases done
      refine ⟨rfl, rfl, mode.symm, ?_⟩
      rw [Sensor.TimeAgrees, Device.write, intTimeOf, time]

/-! Thresholds that fit. -/

/-- A chip whose scales are the largest values with a mantissa of twelve bits. -/
structure Chip.Scaled (chip : Chip) : Prop where
  numerator : 0 < chip.scalerNumerator
  denominator : chip.scalerDenominator < 256
  short : chip.table.length ≤ 16
  bounded : ∀ place : Fin chip.table.length,
    milli chip.table[place].1 chip.table[place].2 * chip.scalerDenominator ≤
      4095 * chip.scalerNumerator * 1000 * 2 ^ place.val

theorem opt3001_scaled : opt3001.Scaled := ⟨by decide, by decide, by decide, by decide⟩

theorem opt3002_scaled : opt3002.Scaled := ⟨by decide, by decide, by decide, by decide⟩

/-- A value that is not negative, with its millionths, and small enough for an `int` in
milli precision. -/
def InRange (val val2 : Int) : Prop :=
  0 ≤ val ∧ 0 ≤ val2 ∧ val2 < 1000000 ∧ val * 1000 + val2 / 1000 < 2147483648

theorem milli_inRange {val val2 : Int} (inRange : InRange val val2) :
    milli val val2 = val * 1000 + val2 / 1000 := by
  obtain ⟨whole, micro, _, small⟩ := inRange
  rw [milli, Int.tdiv_eq_ediv_of_nonneg micro, BitVec.toInt_ofInt]
  exact Int.bmod_eq_of_le (by omega) (by omega)

theorem findScale_bound {val val2 : Int} {table : List (Int × Int)} {place : Nat}
    (found : findScale val val2 table = some place) :
    ∃ within : place < table.length, milli val val2 ≤ milli table[place].1 table[place].2 := by
  induction table generalizing place with
  | nil => cases found
  | cons scale rest ih =>
      rw [findScale] at found
      split at found
      · rename_i below
        cases found
        exact ⟨Nat.zero_lt_succ _, below⟩
      · obtain ⟨before, earlier, rfl⟩ := Option.map_eq_some_iff.mp found
        obtain ⟨within, below⟩ := ih earlier
        exact ⟨Nat.succ_lt_succ within, below⟩

/-- In millionths a value is less than one step of the milli precision further. -/
theorem scaled_le {chip : Chip} {val val2 : Int} {place : Nat} (scaled : chip.Scaled)
    (inRange : InRange val val2) (found : findScale val val2 chip.table = some place) :
    chip.scaled val val2 ≤ 4095 * 2 ^ place := by
  obtain ⟨within, below⟩ := findScale_bound found
  have bounded := scaled.bounded ⟨place, within⟩
  have denominator := scaled.denominator
  have numerator := scaled.numerator
  rw [milli_inRange inRange] at below
  obtain ⟨whole, micro, millionths, small⟩ := inRange
  have product : (val * 1000 + val2 / 1000) * chip.scalerDenominator ≤
      4095 * chip.scalerNumerator * 1000 * 2 ^ place :=
    Int.le_trans (Int.mul_le_mul_of_nonneg_right below (Int.natCast_nonneg _)) bounded
  -- Less than a thousandth is lost when the search rounds down.
  have value : (val * 1000000 + val2) * chip.scalerDenominator ≤
      (val * 1000 + val2 / 1000) * chip.scalerDenominator * 1000 + 254745 := by
    have step : val * 1000000 + val2 ≤ (val * 1000 + val2 / 1000) * 1000 + 999 := by omega
    calc (val * 1000000 + val2) * chip.scalerDenominator
        _ ≤ ((val * 1000 + val2 / 1000) * 1000 + 999) * chip.scalerDenominator :=
          Int.mul_le_mul_of_nonneg_right step (Int.natCast_nonneg _)
        _ = (val * 1000 + val2 / 1000) * chip.scalerDenominator * 1000 +
            999 * chip.scalerDenominator := by rw [Int.add_mul, Int.mul_right_comm]
        _ ≤ _ := by omega
  have positive : 0 ≤ (val * 1000000 + val2) * chip.scalerDenominator :=
    Int.mul_nonneg (by omega) (Int.natCast_nonneg _)
  have small : (val * 1000 + val2 / 1000) * chip.scalerDenominator ≤ 2147483647 * 255 :=
    Int.mul_le_mul (by omega) (by omega) (Int.natCast_nonneg _) (by decide)
  -- The product fits a word of 64 bits.
  have word : (BitVec.ofInt 64 ((val * 1000000 + val2) * chip.scalerDenominator)).toNat =
      ((val * 1000000 + val2) * chip.scalerDenominator).toNat := by
    rw [BitVec.toNat_ofInt, Int.emod_eq_of_lt positive (by omega)]
  have scale : (4095 * chip.scalerNumerator * 1000 * 2 ^ place : Int) =
      ((4095000 * (chip.scalerNumerator * 2 ^ place) : Nat) : Int) := by
    push_cast
    ring
  have room : chip.scalerNumerator * 1000000 * (4095 * 2 ^ place + 1) =
      4095000 * (chip.scalerNumerator * 2 ^ place) * 1000 + chip.scalerNumerator * 1000000 := by
    ring
  rw [scale] at product
  rw [Chip.scaled, word]
  apply Nat.le_of_lt_succ
  apply Nat.div_lt_of_lt_mul
  rw [room]
  omega

theorem threshold_fits {chip : Chip} {val val2 : Int} (scaled : chip.Scaled)
    (inRange : InRange val val2) (found : chip.threshold val val2 = some threshold) :
    threshold.Fits := by
  obtain ⟨place, earlier, rfl⟩ := Option.map_eq_some_iff.mp found
  have bound := scaled_le scaled inRange earlier
  obtain ⟨within, _⟩ := findScale_bound earlier
  have short := scaled.short
  have shifted : chip.scaled val val2 >>> place ≤ 4095 := by
    rw [Nat.shiftRight_eq_div_pow]
    exact Nat.div_le_of_le_mul (by rwa [Nat.mul_comm] at bound)
  constructor
  · simp only [BitVec.toNat_ofNat]
    exact Nat.lt_of_le_of_lt (Nat.mod_le _ _) (Nat.lt_succ_of_le shifted)
  · simp only [BitVec.toNat_ofNat]
    exact Nat.lt_of_le_of_lt (Nat.mod_le _ _) (Nat.lt_of_lt_of_le within short)

/-- A device with everything at zero, and a cache that agrees. -/
def cleared : Sensor := ⟨⟨intTimeShort, shutdown, ⟨0, 0⟩, ⟨0, 0⟩, 0⟩, ⟨0, 0, 0, 0⟩⟩

/-- A reading with the interrupt whose conversion does not complete in time. -/
def timeout : Event := ⟨.getReading ⟨none, false⟩, fun _ => true⟩

end MangOH.LightSensor
