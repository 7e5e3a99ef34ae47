import MangOH.ChargerCalls
import MangOH.Trace

/-!
What becomes of the faults that the bq25601 reports, over whole runs: the alerts to user
space, the value that the interrupt thread saves for three readers, the count of the runtime
power management, and the watchdog of the device.
-/

namespace MangOH.Bq25601

open I2c Trace

/-- Who gets a saved fault value. -/
inductive Reader where
  | chargerHealth
  | batteryHealth
  | batteryStatus
deriving DecidableEq

def Call.reader : Call → Option Reader
  | .chargerGet .health => some .chargerHealth
  | .batteryGet .health => some .batteryHealth
  | .batteryGet .status => some .batteryStatus
  | _ => none

/-- What a reader makes of the fault register and the status register. -/
def reading (f ss : Byte) : Reader → Option Value
  | .chargerHealth => some (.health (chargerHealth f))
  | .batteryHealth => some (.health (batteryHealth f))
  | .batteryStatus =>
      match batteryStatus f ss with
      | .ok status => some (.status status)
      | .error _ => none

/-- What the reader's next read takes instead of the register. -/
def Device.pending (dev : Device) : Reader → Option Byte
  | .chargerHealth => if dev.chargerHealthValid then some dev.fReg else none
  | .batteryHealth => if dev.batteryHealthValid then some dev.fReg else none
  | .batteryStatus => if dev.batteryStatusValid then some dev.fReg else none

/-- An interrupt finds a register different from the saved one. -/
def Finds (dev : Device) (event : Event) : Prop :=
  event.bus 0 = .done ∧ (event.ss ≠ dev.ssReg ∨ event.bus 3 = .done ∧ event.f ≠ dev.fReg)

/-- An interrupt has a new fault value to save. -/
def Saves (dev : Device) (event : Event) : Prop :=
  event.call = .interrupt ∧ event.bus 0 = .done ∧ event.bus 3 = .done ∧ event.f ≠ dev.fReg

instance (dev : Device) (event : Event) : Decidable (Saves dev event) :=
  inferInstanceAs (Decidable (_ ∧ _ ∧ _ ∧ _))

/-- A device, and what is to be true of it. -/
structure State where
  dev : Device
  /-- There has been an interrupt. -/
  interrupted : Bool
  /-- The saved value that a reader is to get. -/
  due : Reader → Option Byte
  /-- The device was set up or resumed, and not suspended since. -/
  active : Bool

/-- A successful read uses up what is due, and a new value replaces it. -/
def dueAfter (state : State) (event : Event) (ret : Int) : Reader → Option Byte :=
  if Saves state.dev event then fun _ => some event.f
  else
    match event.call.reader with
    | some reader => if ret = 0 then Function.update state.due reader none else state.due
    | none => state.due

def activeAfter (active : Bool) (ret : Int) : Call → Bool
  | .hwInit => decide (ret = 0)
  | .suspend => false
  | .resume => decide (ret = 0)
  | _ => active

variable (defaults : Registers)

def step (state : State) (event : Event) : State :=
  let performed := perform defaults state.dev event
  { dev := performed.2
    interrupted := state.interrupted || decide (event.call = .interrupt)
    due := dueAfter state event performed.1.ret
    active := activeAfter state.active performed.1.ret event.call }

/-- The device as the probe makes it, before anything else. -/
def Device.probed (modelName : String) (model : Byte) (usage : Int) (registers : Registers) : Device where
  firstTime := true
  chargerHealthValid := false
  batteryHealthValid := false
  batteryStatusValid := false
  fReg := 0
  ssReg := 0
  watchdog := 0
  model := model
  modelName := modelName
  usage := usage
  registers := registers

def State.start (dev : Device) : State := ⟨dev, false, fun _ => none, false⟩

/-! What is to hold, and where it does. -/

/-- After the first interrupt, one that finds something new alerts for both supplies. -/
def Alerts (state : State) (event : Event) : Prop :=
  event.call = .interrupt → state.interrupted = true → Finds state.dev event →
    (perform defaults state.dev event).1.changed = [.charger, .battery]

def AlertSafe (state : State) (event : Event) : Prop :=
  event.call = .interrupt → state.interrupted = true → ¬ Finds state.dev event

/-- A read that succeeds has what is due to it, or else what the register holds; and each
reader's next read is to take just what is due then. -/
def Delivers (state : State) (event : Event) : Prop :=
  (∀ reader, event.call.reader = some reader → (perform defaults state.dev event).1.ret = 0 →
      (perform defaults state.dev event).1.value =
        reading ((state.due reader).getD event.f) event.ss reader) ∧
    (step defaults state event).dev.pending = (step defaults state event).due

/-- The battery status is not read while a value is due to it and the status register cannot be
read, and there is no resume while a value is due to anyone. -/
def DeliverSafe (state : State) (event : Event) : Prop :=
  (event.call = .batteryGet .status → event.bus 1 ≠ .done → state.due .batteryStatus = none) ∧
    (event.call = .resume → ∀ reader, state.due reader = none)

/-- A property call and an interrupt leave the count as it was. -/
def Counts (state : State) (event : Event) : Prop :=
  event.call ≠ .hwInit → event.call ≠ .suspend → event.call ≠ .resume →
    (perform defaults state.dev event).2.usage = state.dev.usage

def CountSafe (_ : State) (event : Event) : Prop := ∀ psp, event.call ≠ .batterySet psp

def HostMode (state : State) : Prop :=
  state.active = true → cttcWatchdog.bits (state.dev.registers cttcWatchdog.reg) = 0

def Hosts (state : State) (event : Event) : Prop := HostMode (step defaults state event)

/-- A resume finds the watchdog disabled, and its reset does not get to the device. -/
def HostSafe (state : State) (event : Event) : Prop :=
  event.call = .resume →
    resetTaken event.bus = false ∧ cttcWatchdog.bits (state.dev.registers cttcWatchdog.reg) = 0

variable {defaults} {dev : Device} {event : Event} {state : State}

/-! What the calls leave in the driver's memory. -/

/-- What the driver has in memory of the device's faults. -/
def Device.memory (dev : Device) : Bool × (Reader → Option Byte) × Byte × Byte :=
  (dev.firstTime, dev.pending, dev.fReg, dev.ssReg)

theorem setModeHost_memory (bus : Nat → Transfer) : (bq25601SetModeHost bus dev).2.memory = dev.memory := by
  simp only [bq25601SetModeHost]
  split <;> rfl

theorem hwInit_memory (bus defaults polls) : (bq25601HwInit bus defaults polls dev).2.memory = dev.memory := by
  simp only [bq25601HwInit]
  split
  · rfl
  · split
    · rfl
    · split
      · rfl
      · exact (setModeHost_memory _).trans rfl

theorem chargerSet_memory (bus : Nat → Transfer) (psp : ChargerSet) :
    (bq25601ChargerSetProperty bus psp dev).2.memory = dev.memory := rfl

theorem batterySet_memory (bus : Nat → Transfer) (psp : BatterySet) :
    (bq25601BatterySetProperty bus psp dev).2.memory = dev.memory := rfl

theorem suspend_memory (bus defaults polls) :
    (bq25601PmSuspend bus defaults polls dev).memory = dev.memory := rfl

/-! The alerts. -/

@[simp] theorem getSync_firstTime : dev.pmRuntimeGetSync.firstTime = dev.firstTime := rfl

@[simp] theorem putSync_firstTime : dev.pmRuntimePutSync.firstTime = dev.firstTime := rfl

@[simp] theorem saveStatus_firstTime (bus : Nat → Transfer) (ss : Byte) :
    (saveStatus bus ss dev).firstTime = dev.firstTime := by
  unfold saveStatus
  split <;> rfl

@[simp] theorem saveFault_firstTime (f : Byte) : (saveFault f dev).firstTime = dev.firstTime := by
  unfold saveFault
  split <;> rfl

theorem alert_first {changed : Bool} (first : dev.firstTime = true) : alert changed dev = ([], dev) := by
  simp [alert, first]

/-- The flag that keeps user space from being alerted keeps itself. -/
theorem irq_first (bus : Nat → Transfer) (first : dev.firstTime = true) :
    (bq25601IrqHandlerThread bus dev).1 = [] ∧
      (bq25601IrqHandlerThread bus dev).2.firstTime = true := by
  simp only [bq25601IrqHandlerThread]
  split
  · exact ⟨rfl, first⟩
  · split
    · exact ⟨rfl, by simpa using first⟩
    · rw [alert_first (by simpa using first)]
      exact ⟨rfl, by simpa using first⟩

/-! The reads of a fault. -/

/-- The reader has got what was saved, if anything was. -/
def Device.take (dev : Device) : Reader → Device
  | .chargerHealth => { dev with chargerHealthValid := false }
  | .batteryHealth => { dev with batteryHealthValid := false }
  | .batteryStatus => { dev with batteryStatusValid := false }

def readFault (bus : Nat → Transfer) (dev : Device) : Reader → Except Int Value × Device
  | .chargerHealth => bq25601ChargerGetHealth bus dev
  | .batteryHealth => bq25601BatteryGetHealth bus dev
  | .batteryStatus => bq25601BatteryGetStatus bus dev

theorem perform_read {reader : Reader} (reads : event.call.reader = some reader) :
    perform defaults dev event =
      (.got (readFault event.bus (dev.sense event).pmRuntimeGetSync reader).1,
        (readFault event.bus (dev.sense event).pmRuntimeGetSync reader).2.pmRuntimePutSync) := by
  cases call : event.call with
  | chargerGet psp =>
      rw [call] at reads
      cases psp with
      | health =>
          cases reads
          simp only [perform, call, bq25601ChargerGetProperty, readFault]
      | _ => cases reads
  | batteryGet psp =>
      rw [call] at reads
      cases psp with
      | health =>
          cases reads
          simp only [perform, call, bq25601BatteryGetProperty, readFault]
      | status =>
          cases reads
          simp only [perform, call, bq25601BatteryGetProperty, readFault]
      | _ => cases reads
  | _ =>
      rw [call] at reads
      cases reads

theorem take_of_none {reader : Reader} (none : dev.pending reader = none) : dev.take reader = dev := by
  obtain ⟨firstTime, chargerHealthValid, batteryHealthValid, batteryStatusValid⟩ := dev
  cases reader with
  | chargerHealth => cases chargerHealthValid <;> simp_all [Device.take, Device.pending]
  | batteryHealth => cases batteryHealthValid <;> simp_all [Device.take, Device.pending]
  | batteryStatus => cases batteryStatusValid <;> simp_all [Device.take, Device.pending]

theorem pending_take (reader : Reader) :
    (dev.take reader).pending = Function.update dev.pending reader none := by
  funext other
  cases reader <;> cases other <;> rfl

theorem batteryStatus_ok (f ss : Byte) : ∃ status, batteryStatus f ss = .ok status := by
  have two : ∀ v : Byte, ssChrgStat.bits v = 0 ∨ (ssChrgStat.bits v = 1 ∨ ssChrgStat.bits v = 2) ∨
      ssChrgStat.bits v = 3 := by decide
  unfold batteryStatus
  split
  · exact ⟨_, rfl⟩
  · rcases two ss with zero | charging | three
    · exact ⟨_, if_pos zero⟩
    · simp only [charging, ↓reduceIte]
      split <;> exact ⟨_, rfl⟩
    · simp [three]

/-- What a reader returns once it has a fault value. -/
def answer (bus : Nat → Transfer) (dev : Device) (f : Byte) : Reader → Except Int Value
  | .chargerHealth => .ok (.health (chargerHealth f))
  | .batteryHealth => .ok (.health (batteryHealth f))
  | .batteryStatus =>
      match bq25601Read (bus 1) dev.registers regSs with
      | .error ret => .error ret
      | .ok ss => (batteryStatus f ss).map .status

theorem readFault_pending {reader : Reader} {f : Byte} (bus : Nat → Transfer)
    (pending : dev.pending reader = some f) :
    readFault bus dev reader = (answer bus dev f reader, dev.take reader) := by
  cases reader with
  | chargerHealth =>
      simp only [Device.pending, Option.ite_none_right_eq_some, Option.some.injEq] at pending
      simp [readFault, bq25601ChargerGetHealth, pending, answer, Device.take]
  | batteryHealth =>
      simp only [Device.pending, Option.ite_none_right_eq_some, Option.some.injEq] at pending
      simp [readFault, bq25601BatteryGetHealth, pending, answer, Device.take]
  | batteryStatus =>
      simp only [Device.pending, Option.ite_none_right_eq_some, Option.some.injEq] at pending
      simp only [readFault, bq25601BatteryGetStatus, pending, answer, Device.take, ↓reduceIte]
      cases bq25601Read (bus 1) dev.registers regSs <;> rfl

theorem readFault_fresh {reader : Reader} (bus : Nat → Transfer) (none : dev.pending reader = none) :
    readFault bus dev reader =
      (match bq25601Read (bus 0) dev.registers regF with
        | .error ret => .error ret
        | .ok f => answer bus dev f reader, dev) := by
  cases reader with
  | chargerHealth =>
      have off : dev.chargerHealthValid = false := by simpa [Device.pending] using none
      simp only [readFault, bq25601ChargerGetHealth, off, answer, Bool.false_eq_true, ↓reduceIte]
      cases bq25601Read (bus 0) dev.registers regF <;> rfl
  | batteryHealth =>
      have off : dev.batteryHealthValid = false := by simpa [Device.pending] using none
      simp only [readFault, bq25601BatteryGetHealth, off, answer, Bool.false_eq_true, ↓reduceIte]
      cases bq25601Read (bus 0) dev.registers regF <;> rfl
  | batteryStatus =>
      have off : dev.batteryStatusValid = false := by simpa [Device.pending] using none
      simp only [readFault, bq25601BatteryGetStatus, off, answer, Bool.false_eq_true, ↓reduceIte]
      cases bq25601Read (bus 0) dev.registers regF with
      | error ret => rfl
      | ok f => cases bq25601Read (bus 1) dev.registers regSs <;> rfl

/-- Whatever comes of it, a read leaves nothing for its reader. -/
theorem readFault_device (bus : Nat → Transfer) (reader : Reader) :
    (readFault bus dev reader).2 = dev.take reader := by
  cases pending : dev.pending reader with
  | none => rw [readFault_fresh bus pending, take_of_none pending]
  | some f => rw [readFault_pending bus pending]

/-- What a read of a property does to the device, which is nothing but what a reader takes. -/
def Device.taking (dev : Device) : Option Reader → Device
  | none => dev
  | some reader => dev.take reader

theorem chargerGet_device (bus : Nat → Transfer) (psp : ChargerGet) :
    (bq25601ChargerGetProperty bus psp dev).2 =
      (dev.pmRuntimeGetSync.taking (Call.chargerGet psp).reader).pmRuntimePutSync := by
  cases psp with
  | health => exact congrArg Device.pmRuntimePutSync (readFault_device bus .chargerHealth)
  | _ => rfl

theorem batteryGet_device (bus : Nat → Transfer) (psp : BatteryGet) :
    (bq25601BatteryGetProperty bus psp dev).2 =
      (dev.pmRuntimeGetSync.taking (Call.batteryGet psp).reader).pmRuntimePutSync := by
  cases psp with
  | health => exact congrArg Device.pmRuntimePutSync (readFault_device bus .batteryHealth)
  | status => exact congrArg Device.pmRuntimePutSync (readFault_device bus .batteryStatus)
  | _ => rfl

/-- A call that is no interrupt, no read of a fault and no resume leaves all of it. -/
theorem perform_memory (silent : event.call.reader = none) (interrupt : event.call ≠ .interrupt)
    (resume : event.call ≠ .resume) : (perform defaults dev event).2.memory = dev.memory := by
  cases call : event.call with
  | interrupt => exact absurd call interrupt
  | resume => exact absurd call resume
  | suspend =>
      simp only [perform, call]
      exact suspend_memory event.bus defaults event.polls
  | hwInit =>
      simp only [perform, call]
      exact hwInit_memory event.bus defaults event.polls
  | chargerSet psp =>
      simp only [perform, call]
      exact chargerSet_memory event.bus psp
  | batterySet psp =>
      simp only [perform, call]
      exact batterySet_memory event.bus psp
  | chargerGet psp =>
      rw [call] at silent
      simp only [perform, call, chargerGet_device, silent]
      rfl
  | batteryGet psp =>
      rw [call] at silent
      simp only [perform, call, batteryGet_device, silent]
      rfl

/-- A call is an interrupt, a resume, a read of a fault, or leaves what is in memory. -/
theorem perform_firstTime (first : dev.firstTime = true) :
    (perform defaults dev event).2.firstTime = true := by
  have sensed : (dev.sense event).firstTime = true := first
  by_cases interrupt : event.call = .interrupt
  · simp only [perform, interrupt]
    exact (irq_first event.bus sensed).2
  by_cases resume : event.call = .resume
  · simp only [perform, resume]
    exact sensed
  cases reads : event.call.reader with
  | none =>
      have same : (perform defaults dev event).2.memory = dev.memory :=
        perform_memory reads interrupt resume
      exact (congrArg Prod.fst same).trans first
  | some reader =>
      rw [perform_read reads, readFault_device]
      cases reader <;> exact sensed

theorem alerts_iff (first : state.dev.firstTime = true) :
    Alerts defaults state event ↔ AlertSafe state event := by
  refine forall_congr' fun interrupt => imp_congr_right fun _ => ?_
  have sensed : (state.dev.sense event).firstTime = true := first
  have none : (perform defaults state.dev event).1.changed = [] := by
    simp only [perform, interrupt]
    exact (irq_first event.bus sensed).1
  rw [none]
  exact imp_congr_right fun _ => iff_of_false (List.cons_ne_nil _ _).symm id

theorem alerts_run_iff (dev : Device) (first : dev.firstTime = true) (events : List Event) :
    Along (step defaults) (Alerts defaults) (.start dev) events ↔
      Along (step defaults) AlertSafe (.start dev) events :=
  @along_iff _ _ (step defaults) (Alerts defaults) AlertSafe (fun state => state.dev.firstTime = true)
    alerts_iff (fun first _ => perform_firstTime first) events (.start dev) first

/-! What is saved and handed out. -/

@[simp] theorem getSync_pending : dev.pmRuntimeGetSync.pending = dev.pending := rfl

@[simp] theorem putSync_pending : dev.pmRuntimePutSync.pending = dev.pending := rfl

@[simp] theorem sense_pending : (dev.sense event).pending = dev.pending := rfl

@[simp] theorem sense_fReg : (dev.sense event).pmRuntimeGetSync.fReg = dev.fReg := rfl

@[simp] theorem sense_regF : (dev.sense event).pmRuntimeGetSync.registers regF = event.f := by
  simp [Device.pmRuntimeGetSync, Device.sense]

@[simp] theorem sense_regSs : (dev.sense event).pmRuntimeGetSync.registers regSs = event.ss := by
  have apart : regSs ≠ regF := by decide
  simp [Device.pmRuntimeGetSync, Device.sense, Function.update_of_ne apart]

theorem saveStatus_pending (bus : Nat → Transfer) (ss : Byte) :
    (saveStatus bus ss dev).pending = dev.pending := by
  unfold saveStatus
  split <;> rfl

theorem saveStatus_fReg (bus : Nat → Transfer) (ss : Byte) :
    (saveStatus bus ss dev).fReg = dev.fReg := by
  unfold saveStatus
  split <;> rfl

/-- HIZ is in another register than the faults. -/
theorem saveStatus_regF (bus : Nat → Transfer) (ss : Byte) :
    (saveStatus bus ss dev).registers regF = dev.registers regF := by
  unfold saveStatus
  split
  · rfl
  · simp only
    split
    · rcases writeMask_cases (bus 1) (bus 2) iscEnHiz 0 dev.registers with put | ⟨kept, -⟩
      · rw [put]
        exact Function.update_of_ne (by decide) _ _
      · rw [kept]
    · rfl

theorem saveFault_pending (f : Byte) :
    (saveFault f dev).pending = if f = dev.fReg then dev.pending else fun _ => some f := by
  unfold saveFault
  split
  · rfl
  · funext reader
    cases reader <;> rfl

theorem alert_pending (changed : Bool) : (alert changed dev).2.pending = dev.pending := by
  unfold alert
  split <;> rfl

theorem interrupt_pending (interrupt : event.call = .interrupt) :
    (perform defaults dev event).2.pending =
      if Saves dev event then fun _ => some event.f else dev.pending := by
  simp only [perform, interrupt, bq25601IrqHandlerThread, bq25601Read, I2c.read]
  cases first : event.bus 0 with
  | failed errno taken => simp [Saves, first]
  | done =>
      cases second : event.bus 3 with
      | failed errno taken => simp [Saves, second, saveStatus_pending]
      | done =>
          simp [Saves, first, second, interrupt, alert_pending, saveFault_pending,
            saveStatus_pending, saveStatus_fReg, saveStatus_regF]

theorem resume_pending (resume : event.call = .resume) :
    (perform defaults dev event).2.pending = fun _ => none := by
  simp only [perform, resume]
  funext reader
  cases reader <;> rfl

theorem read_pending {reader : Reader} (reads : event.call.reader = some reader) :
    (perform defaults dev event).2.pending = Function.update dev.pending reader none := by
  rw [perform_read reads, putSync_pending, readFault_device, pending_take, getSync_pending,
    sense_pending]

theorem other_pending (silent : event.call.reader = none) (interrupt : event.call ≠ .interrupt)
    (resume : event.call ≠ .resume) : (perform defaults dev event).2.pending = dev.pending := by
  have same : (perform defaults dev event).2.memory = dev.memory :=
    perform_memory silent interrupt resume
  exact congrArg (fun memory => memory.2.1) same

/-- The answer fails only where the battery status needs a register that cannot be read. -/
theorem answer_ok {bus : Nat → Transfer} {reader : Reader}
    (works : reader = .batteryStatus → bus 1 = .done) (f : Byte) : ∃ value,
      answer bus dev f reader = .ok value ∧ some value = reading f (dev.registers regSs) reader := by
  cases reader with
  | chargerHealth => exact ⟨_, rfl, rfl⟩
  | batteryHealth => exact ⟨_, rfl, rfl⟩
  | batteryStatus =>
      obtain ⟨status, same⟩ := batteryStatus_ok f (dev.registers regSs)
      refine ⟨.status status, ?_, ?_⟩
      · simp only [answer, bq25601Read, I2c.read, works rfl, same]
        rfl
      · simp only [reading, same]

theorem answer_failed {bus : Nat → Transfer} (fails : bus 1 ≠ .done) (f : Byte) :
    ∃ ret, answer bus dev f .batteryStatus = .error ret ∧ ret < 0 := by
  cases second : bus 1 with
  | done => exact absurd second fails
  | failed errno taken =>
      refine ⟨(Transfer.failed errno taken).ret, ?_, ret_neg nofun⟩
      simp only [answer, bq25601Read, I2c.read, second]

/-- What a read returns: the answer for what is pending or else for the register, or an error. -/
theorem read_result {reader : Reader} (reads : event.call.reader = some reader) :
    let result := (perform defaults dev event).1
    (reader = .batteryStatus → event.bus 1 = .done) →
      (result.ret = 0 → result.value = reading ((dev.pending reader).getD event.f) event.ss reader) ∧
        (result.ret ≠ 0 → dev.pending reader = none) := by
  intro result works
  have same : (dev.sense event).pmRuntimeGetSync.pending reader = dev.pending reader := rfl
  have performed : result = .got (readFault event.bus (dev.sense event).pmRuntimeGetSync reader).1 :=
    congrArg Prod.fst (perform_read reads)
  cases pending : dev.pending reader with
  | some f =>
      obtain ⟨value, answered, read⟩ :=
        @answer_ok (dev.sense event).pmRuntimeGetSync event.bus reader works f
      rw [readFault_pending event.bus (same.trans pending), answered] at performed
      rw [performed]
      rw [sense_regSs] at read
      exact ⟨fun _ => read, fun fails => absurd rfl fails⟩
  | none =>
      rw [readFault_fresh event.bus (same.trans pending)] at performed
      refine ⟨fun succeeds => ?_, fun _ => rfl⟩
      cases first : event.bus 0 with
      | failed errno taken =>
          simp only [bq25601Read, I2c.read, first] at performed
          have fails : (Transfer.failed errno taken).ret < 0 := ret_neg nofun
          rw [performed] at succeeds
          exact absurd succeeds (Int.ne_of_lt fails)
      | done =>
          obtain ⟨value, answered, read⟩ :=
            @answer_ok (dev.sense event).pmRuntimeGetSync event.bus reader works event.f
          simp only [bq25601Read, I2c.read, first, sense_regF, answered] at performed
          rw [performed]
          rw [sense_regSs] at read
          exact read

/-- Without the status register the battery status is not returned. -/
theorem status_unread (reads : event.call.reader = some .batteryStatus) (fails : event.bus 1 ≠ .done) :
    (perform defaults dev event).1.ret ≠ 0 := by
  have performed := congrArg Prod.fst (@perform_read defaults dev event _ reads)
  have answered := @answer_failed (dev.sense event).pmRuntimeGetSync event.bus fails
  rw [performed]
  cases pending : (dev.sense event).pmRuntimeGetSync.pending .batteryStatus with
  | some f =>
      obtain ⟨ret, error, negative⟩ := answered f
      rw [readFault_pending event.bus pending, error]
      exact Int.ne_of_lt negative
  | none =>
      rw [readFault_fresh event.bus pending]
      cases first : event.bus 0 with
      | failed errno taken =>
          have negative : (Transfer.failed errno taken).ret < 0 := ret_neg nofun
          simp only [bq25601Read, I2c.read]
          exact Int.ne_of_lt negative
      | done =>
          obtain ⟨ret, error, negative⟩ := answered event.f
          simp only [bq25601Read, I2c.read, sense_regF, error]
          exact Int.ne_of_lt negative

theorem update_none_iff {due : Reader → Option Byte} {reader : Reader} :
    Function.update due reader none = due ↔ due reader = none := by
  rw [Function.update_eq_self_iff, eq_comm]

theorem reader_eq_status {call : Call} (reads : call.reader = some .batteryStatus) :
    call = .batteryGet .status := by
  cases call with
  | chargerGet psp => cases psp <;> cases reads
  | batteryGet psp => cases psp <;> first | rfl | cases reads
  | _ => cases reads

theorem not_saves (other : event.call ≠ .interrupt) : ¬ Saves dev event := fun saves => other saves.1

/-- What is due after a call that saves nothing. -/
theorem due_read {reader : Reader} (reads : event.call.reader = some reader) (ret : Int) :
    dueAfter state event ret = if ret = 0 then Function.update state.due reader none else state.due := by
  have other : event.call ≠ .interrupt := by
    intro interrupt
    rw [interrupt] at reads
    cases reads
  rw [dueAfter, if_neg (not_saves other), reads]

theorem due_silent (silent : event.call.reader = none) (ret : Int) :
    dueAfter state event ret = if Saves state.dev event then fun _ => some event.f else state.due := by
  rw [dueAfter, silent]

/-- A read that can end as it should, where the device has what is due. -/
theorem delivers_read {reader : Reader} (agrees : state.dev.pending = state.due)
    (reads : event.call.reader = some reader) (works : reader = .batteryStatus → event.bus 1 = .done) :
    Delivers defaults state event := by
  obtain ⟨returns, keeps⟩ := @read_result defaults state.dev event reader reads works
  rw [agrees] at returns keeps
  refine ⟨fun other same => ?_, ?_⟩
  · rw [reads] at same
    cases same
    exact returns
  · simp only [step]
    rw [read_pending reads, due_read reads, agrees]
    split
    · rfl
    · rename_i fails
      exact update_none_iff.mpr (keeps fails)

theorem reader_resume {reader : Reader} (reads : event.call.reader = some reader) :
    event.call ≠ .resume := by
  intro resume
  rw [resume] at reads
  cases reads

/-- A read of the battery status that cannot end as it should loses what is due to it. -/
theorem delivers_unread_iff (agrees : state.dev.pending = state.due)
    (reads : event.call.reader = some .batteryStatus) (fails : event.bus 1 ≠ .done) :
    Delivers defaults state event ↔ state.due .batteryStatus = none := by
  have unread := @status_unread defaults state.dev event reads fails
  have lost : (step defaults state event).dev.pending = (step defaults state event).due ↔
      state.due .batteryStatus = none := by
    simp only [step]
    rw [read_pending reads, due_read reads, if_neg unread, agrees]
    exact update_none_iff
  rw [← lost]
  exact and_iff_right fun _ _ succeeds => absurd succeeds unread

/-- A call that reads no fault is wrong only if it is a resume. -/
theorem delivers_silent_iff (agrees : state.dev.pending = state.due)
    (silent : event.call.reader = none) :
    Delivers defaults state event ↔ (event.call = .resume → ∀ reader, state.due reader = none) := by
  have delivers : Delivers defaults state event ↔ (perform defaults state.dev event).2.pending =
      if Saves state.dev event then fun _ => some event.f else state.due := by
    rw [Delivers, silent, ← due_silent silent (perform defaults state.dev event).1.ret]
    exact and_iff_right fun _ none => nomatch none
  rw [delivers]
  by_cases interrupt : event.call = .interrupt
  · rw [interrupt_pending interrupt, agrees]
    exact iff_of_true rfl fun call => nomatch interrupt.symm.trans call
  rw [if_neg (not_saves interrupt)]
  by_cases resume : event.call = .resume
  · rw [resume_pending resume]
    exact ⟨fun same _ reader => (congrFun same reader).symm,
      fun none => funext fun reader => (none resume reader).symm⟩
  · rw [other_pending silent interrupt resume]
    exact iff_of_true agrees fun call => absurd call resume

/-- One call, of a device that has for each reader what is due to it. -/
theorem delivers_iff (agrees : state.dev.pending = state.due) :
    Delivers defaults state event ↔ DeliverSafe state event := by
  cases reads : event.call.reader with
  | some reader =>
      have resume := reader_resume reads
      by_cases works : reader = .batteryStatus → event.bus 1 = .done
      · refine iff_of_true (delivers_read agrees reads works)
          ⟨fun status fails => ?_, fun call => absurd call resume⟩
        rw [status] at reads
        cases reads
        exact absurd (works rfl) fails
      · obtain ⟨rfl, fails⟩ := Classical.not_imp.mp works
        rw [delivers_unread_iff agrees reads fails]
        exact ⟨fun none => ⟨fun _ _ => none, fun call => absurd call resume⟩,
          fun safe => safe.1 (reader_eq_status reads) fails⟩
  | none =>
      have status : event.call ≠ .batteryGet .status := by
        intro status
        rw [status] at reads
        cases reads
      rw [delivers_silent_iff agrees reads]
      exact (and_iff_right fun call => absurd call status).symm

theorem delivers_run_iff (dev : Device) (none : dev.pending = fun _ => none) (events : List Event) :
    Along (step defaults) (Delivers defaults) (.start dev) events ↔
      Along (step defaults) DeliverSafe (.start dev) events :=
  @along_iff _ _ (step defaults) (Delivers defaults) DeliverSafe
    (fun state => state.dev.pending = state.due) delivers_iff (fun _ delivers => delivers.2) events
    (.start dev) none

/-! The count, and the registers. -/

theorem saveStatus_usage (bus : Nat → Transfer) (ss : Byte) :
    (saveStatus bus ss dev).usage = dev.usage := by
  unfold saveStatus
  split <;> rfl

theorem saveFault_usage (f : Byte) : (saveFault f dev).usage = dev.usage := by
  unfold saveFault
  split <;> rfl

theorem alert_usage (changed : Bool) : (alert changed dev).2.usage = dev.usage := by
  unfold alert
  split <;> rfl

theorem sync_usage (after : Device) (same : after.usage = dev.pmRuntimeGetSync.usage) :
    after.pmRuntimePutSync.usage = dev.usage := by
  rw [Device.pmRuntimePutSync, same]
  exact Int.add_sub_cancel _ _

theorem irq_usage (bus : Nat → Transfer) : (bq25601IrqHandlerThread bus dev).2.usage = dev.usage := by
  simp only [bq25601IrqHandlerThread]
  split
  · exact sync_usage _ rfl
  · split
    · exact sync_usage _ (saveStatus_usage _ _)
    · refine sync_usage _ ?_
      rw [alert_usage, saveFault_usage, saveStatus_usage]

theorem taking_usage (reader : Option Reader) : (dev.taking reader).usage = dev.usage := by
  cases reader with
  | none => rfl
  | some reader => cases reader <;> rfl

theorem taking_registers (reader : Option Reader) :
    (dev.pmRuntimeGetSync.taking reader).pmRuntimePutSync.registers = dev.registers := by
  cases reader with
  | none => rfl
  | some reader => cases reader <;> rfl

theorem chargerSet_usage (bus : Nat → Transfer) (psp : ChargerSet) :
    (bq25601ChargerSetProperty bus psp dev).2.usage = dev.usage := sync_usage _ rfl

/-- Two puts and no get. -/
theorem batterySet_usage (bus : Nat → Transfer) (psp : BatterySet) :
    (bq25601BatterySetProperty bus psp dev).2.usage = dev.usage - 1 - 1 := rfl

theorem counts_iff : Counts defaults state event ↔ CountSafe state event := by
  cases call : event.call with
  | batterySet psp =>
      refine iff_of_false (fun counts => ?_) (fun safe => safe psp call)
      have same := counts (by simp [call]) (by simp [call]) (by simp [call])
      simp only [perform, call, batterySet_usage] at same
      have sensed : (state.dev.sense event).usage = state.dev.usage := rfl
      omega
  | interrupt =>
      refine iff_of_true (fun _ _ _ => ?_) fun psp set => nomatch call.symm.trans set
      simp only [perform, call]
      exact irq_usage event.bus
  | chargerGet psp =>
      refine iff_of_true (fun _ _ _ => ?_) fun psp set => nomatch call.symm.trans set
      simp only [perform, call, chargerGet_device]
      exact sync_usage _ (taking_usage _)
  | batteryGet psp =>
      refine iff_of_true (fun _ _ _ => ?_) fun psp set => nomatch call.symm.trans set
      simp only [perform, call, batteryGet_device]
      exact sync_usage _ (taking_usage _)
  | chargerSet psp =>
      refine iff_of_true (fun _ _ _ => ?_) fun psp set => nomatch call.symm.trans set
      simp only [perform, call]
      exact chargerSet_usage event.bus psp
  | hwInit => exact iff_of_true (fun other => absurd call other) fun psp set => nomatch call.symm.trans set
  | suspend =>
      exact iff_of_true (fun _ other => absurd call other) fun psp set => nomatch call.symm.trans set
  | resume =>
      exact iff_of_true (fun _ _ other => absurd call other) fun psp set => nomatch call.symm.trans set

/-! The watchdog. -/

def watchdogBits (dev : Device) : Byte := cttcWatchdog.bits (dev.registers cttcWatchdog.reg)

theorem sense_watchdog : watchdogBits (dev.sense event) = watchdogBits dev := by
  have ss : cttcWatchdog.reg ≠ regSs := by decide
  have f : cttcWatchdog.reg ≠ regF := by decide
  simp [watchdogBits, Device.sense, Function.update_of_ne ss, Function.update_of_ne f]

theorem saveStatus_watchdog (bus : Nat → Transfer) (ss : Byte) :
    watchdogBits (saveStatus bus ss dev) = watchdogBits dev := by
  have hiz : iscEnHiz.reg ≠ cttcWatchdog.reg ∨ iscEnHiz.mask &&& cttcWatchdog.mask = 0 := by decide
  unfold saveStatus
  split
  · rfl
  · simp only [watchdogBits]
    split
    · exact writeMask_bits _ _ hiz _ _
    · rfl

theorem saveFault_registers (f : Byte) : (saveFault f dev).registers = dev.registers := by
  unfold saveFault
  split <;> rfl

theorem alert_registers (changed : Bool) : (alert changed dev).2.registers = dev.registers := by
  unfold alert
  split <;> rfl

theorem irq_watchdog (bus : Nat → Transfer) :
    watchdogBits (bq25601IrqHandlerThread bus dev).2 = watchdogBits dev := by
  simp only [bq25601IrqHandlerThread]
  split
  case h_1 => rfl
  case h_2 ss _ =>
    split
    case h_1 => exact saveStatus_watchdog bus ss
    case h_2 =>
      refine Eq.trans ?_ (@saveStatus_watchdog dev.pmRuntimeGetSync bus ss)
      simp only [watchdogBits, Device.pmRuntimePutSync, alert_registers, saveFault_registers]

theorem chgConfig_watchdog (first second : Transfer) (data : Byte) (registers : Registers) :
    cttcWatchdog.bits ((bq25601WriteMask first second pocChgConfig data registers).2 cttcWatchdog.reg) =
      cttcWatchdog.bits (registers cttcWatchdog.reg) :=
  writeMask_bits first second (.inl (by decide)) data registers

theorem enableCharge_watchdog (bus : Nat → Transfer) (enTerm : Byte) (registers : Registers) :
    cttcWatchdog.bits ((enableCharge bus enTerm registers).2 cttcWatchdog.reg) =
      cttcWatchdog.bits (registers cttcWatchdog.reg) := by
  have term : cttcWatchdog.bits
      ((bq25601WriteMask (bus 0) (bus 1) cttcEnTerm enTerm registers).2 cttcWatchdog.reg) =
        cttcWatchdog.bits (registers cttcWatchdog.reg) :=
    writeMask_bits (bus 0) (bus 1) (.inr (by decide)) enTerm registers
  simp only [enableCharge]
  split
  · exact term
  · exact (chgConfig_watchdog _ _ _ _).trans term

theorem setChargeType_watchdog (bus : Nat → Transfer) (type : ChargeType) (registers : Registers) :
    cttcWatchdog.bits ((bq25601ChargerSetChargeType bus type registers).2 cttcWatchdog.reg) =
      cttcWatchdog.bits (registers cttcWatchdog.reg) := by
  cases type with
  | none => exact chgConfig_watchdog (bus 2) (bus 3) 0x0 registers
  | trickle => exact enableCharge_watchdog bus 0x0 registers
  | fast => exact enableCharge_watchdog bus 0x1 registers
  | other => rfl

theorem chargerSet_watchdog (bus : Nat → Transfer) (psp : ChargerSet) :
    watchdogBits (bq25601ChargerSetProperty bus psp dev).2 = watchdogBits dev := by
  have ichg : cccIchg.reg ≠ cttcWatchdog.reg ∨ cccIchg.mask &&& cttcWatchdog.mask = 0 := by decide
  have vreg : cvcVreg.reg ≠ cttcWatchdog.reg ∨ cvcVreg.mask &&& cttcWatchdog.mask = 0 := by decide
  cases psp with
  | constantChargeCurrent intval => exact writeMask_bits _ _ ichg _ _
  | constantChargeVoltage intval => exact writeMask_bits _ _ vreg _ _
  | other => rfl
  | chargeType type => exact setChargeType_watchdog bus type _

theorem batterySet_watchdog (bus : Nat → Transfer) (psp : BatterySet) :
    watchdogBits (bq25601BatterySetProperty bus psp dev).2 = watchdogBits dev := by
  have batfet : mocBatfetDisable.reg ≠ cttcWatchdog.reg ∨
      mocBatfetDisable.mask &&& cttcWatchdog.mask = 0 := by decide
  have treg : cttcTreg.reg ≠ cttcWatchdog.reg ∨ cttcTreg.mask &&& cttcWatchdog.mask = 0 := by decide
  cases psp with
  | online intval => exact writeMask_bits _ _ batfet _ _
  | tempAlertMax intval => exact writeMask_bits _ _ treg _ _
  | other => rfl

/-- A call that does not reset the device. -/
def Call.Plain (call : Call) : Prop := call ≠ .hwInit ∧ call ≠ .suspend ∧ call ≠ .resume

theorem perform_watchdog (plain : event.call.Plain) :
    watchdogBits (perform defaults dev event).2 = watchdogBits dev := by
  refine Eq.trans ?_ (@sense_watchdog dev event)
  obtain ⟨hwInit, suspend, resume⟩ := plain
  cases call : event.call with
  | hwInit => exact absurd call hwInit
  | suspend => exact absurd call suspend
  | resume => exact absurd call resume
  | interrupt =>
      simp only [perform, call]
      exact irq_watchdog event.bus
  | chargerGet psp =>
      simp only [perform, call, chargerGet_device, watchdogBits, taking_registers]
  | batteryGet psp =>
      simp only [perform, call, batteryGet_device, watchdogBits, taking_registers]
  | chargerSet psp =>
      simp only [perform, call]
      exact chargerSet_watchdog event.bus psp
  | batterySet psp =>
      simp only [perform, call]
      exact batterySet_watchdog event.bus psp

/-- A success leaves the watchdog disabled. -/
theorem setModeHost_watchdog (bus : Nat → Transfer) (host : (bq25601SetModeHost bus dev).1 = 0) :
    watchdogBits (bq25601SetModeHost bus dev).2 = 0 := by
  have cleared : ∀ v : Byte, cttcWatchdog.bits (v &&& ~~~cttcWatchdog.mask) = 0 := by decide
  cases first : bus 2 with
  | failed errno taken =>
      have fails : (Transfer.failed errno taken).ret < 0 := ret_neg nofun
      simp only [bq25601SetModeHost, bq25601Read, I2c.read, first] at host
      exact absurd host (Int.ne_of_lt fails)
  | done =>
      simp only [bq25601SetModeHost, bq25601Read, I2c.read, bq25601Write, first] at host ⊢
      cases second : bus 3 with
      | failed errno taken =>
          have fails : (Transfer.failed errno taken).ret < 0 := ret_neg nofun
          rw [second, write_ret] at host
          exact absurd host (Int.ne_of_lt fails)
      | done =>
          simp only [watchdogBits, write, store, Function.update_self]
          exact cleared _

theorem readMask_error {transfer : Transfer} {registers : Registers} {field : Field} {ret : Int}
    (error : bq25601ReadMask transfer registers field = .error ret) : ret < 0 := by
  cases transfer with
  | done => cases error
  | failed errno taken =>
      cases error
      exact ret_neg nofun

theorem hwInit_watchdog (bus : Nat → Transfer) (polls : Nat → Transfer × Bool)
    (init : (bq25601HwInit bus defaults polls dev).1 = 0) :
    watchdogBits (bq25601HwInit bus defaults polls dev).2 = 0 := by
  simp only [bq25601HwInit] at init ⊢
  cases read : bq25601ReadMask (bus 4) dev.pmRuntimeGetSync.registers vprsPn with
  | error ret =>
      simp only [read] at init
      exact absurd init (Int.ne_of_lt (readMask_error read))
  | ok v =>
      simp only [read] at init ⊢
      by_cases other : v ≠ dev.pmRuntimeGetSync.model
      · have refused : -enodev ≠ 0 := by decide
        rw [if_pos other] at init
        exact absurd init refused
      rw [if_neg other] at init ⊢
      split at init
      case isTrue fails => exact absurd init (Int.ne_of_lt fails)
      case isFalse resets =>
        rw [if_neg resets]
        exact setModeHost_watchdog bus init

theorem registerReset_registers (bus : Nat → Transfer) (polls : Nat → Transfer × Bool)
    (registers : Registers) : (bq25601RegisterReset bus defaults polls registers).2 =
      if resetTaken bus then defaults else registers := by
  simp only [bq25601RegisterReset]
  split <;> rfl

/-- A resume leaves the watchdog as it is or as a reset has it. -/
theorem resume_watchdog (resume : event.call = .resume) :
    watchdogBits (perform defaults dev event).2 =
      if resetTaken event.bus then cttcWatchdog.bits (defaults cttcWatchdog.reg)
      else watchdogBits dev := by
  simp only [perform, resume, bq25601PmResume, resetSync, watchdogBits, registerReset_registers,
    Device.pmRuntimePutSync, Device.pmRuntimeGetSync]
  split
  · rfl
  · exact sense_watchdog

theorem hosts_resume_iff (enabled : cttcWatchdog.bits (defaults cttcWatchdog.reg) ≠ 0)
    (resume : event.call = .resume) :
    Hosts defaults state event ↔ resetTaken event.bus = false ∧ watchdogBits state.dev = 0 := by
  have succeeds : (perform defaults state.dev event).1.ret = 0 := by simp only [perform, resume]
  have active : (step defaults state event).active = true := by
    simp only [step, resume, succeeds, activeAfter, decide_true]
  have after : Hosts defaults state event ↔ watchdogBits (perform defaults state.dev event).2 = 0 :=
    forall_prop_of_true active
  rw [after, resume_watchdog resume]
  cases taken : resetTaken event.bus with
  | true => simpa using enabled
  | false => simp

/-- One call, of a device in host mode. -/
theorem hosts_iff (enabled : cttcWatchdog.bits (defaults cttcWatchdog.reg) ≠ 0) (host : HostMode state) :
    Hosts defaults state event ↔ HostSafe state event := by
  by_cases resume : event.call = .resume
  · rw [hosts_resume_iff enabled resume]
    exact (imp_iff_right resume).symm
  have safe : HostSafe state event := fun call => absurd call resume
  refine iff_of_true ?_ safe
  intro active
  by_cases suspend : event.call = .suspend
  · simp only [step, suspend, activeAfter] at active
    cases active
  by_cases hwInit : event.call = .hwInit
  · simp only [step, hwInit, activeAfter, decide_eq_true_eq] at active
    simp only [perform, hwInit] at active
    have disabled := @hwInit_watchdog defaults (state.dev.sense event) event.bus event.polls active
    simp only [step, perform, hwInit]
    exact disabled
  · have same : (step defaults state event).active = state.active := by
      simp only [step]
      cases call : event.call with
      | hwInit => exact absurd call hwInit
      | suspend => exact absurd call suspend
      | resume => exact absurd call resume
      | _ => rfl
    exact (perform_watchdog ⟨hwInit, suspend, resume⟩).trans (host (same.symm.trans active))

/-- When each of the four holds all along a run: the alerts, the faults handed out, the count,
and host mode. -/
theorem charger_faults_iff (defaults : Registers)
    (enabled : cttcWatchdog.bits (defaults cttcWatchdog.reg) ≠ 0) (modelName : String) (model : Byte)
    (usage : Int) (registers : Registers) (events : List Event) :
    let start := State.start (.probed modelName model usage registers)
    (Along (step defaults) (Alerts defaults) start events ↔
        Along (step defaults) AlertSafe start events) ∧
      (Along (step defaults) (Delivers defaults) start events ↔
        Along (step defaults) DeliverSafe start events) ∧
      (Along (step defaults) (Counts defaults) start events ↔
        Along (step defaults) CountSafe start events) ∧
      (Along (step defaults) (Hosts defaults) start events ↔
        Along (step defaults) HostSafe start events) := by
  intro start
  have none : start.dev.pending = fun _ => none := by
    funext reader
    cases reader <;> rfl
  refine ⟨alerts_run_iff _ rfl events, delivers_run_iff _ none events, ?_, ?_⟩
  · exact @along_iff _ _ (step defaults) (Counts defaults) CountSafe (fun _ => True)
      (fun _ => counts_iff) (fun _ _ => trivial) events start trivial
  · exact @along_iff _ _ (step defaults) (Hosts defaults) HostSafe HostMode (hosts_iff enabled)
      (fun _ hosts => hosts) events start nofun

/-- The watchdog is enabled after a reset. -/
def resetDefaults : Registers := Function.update (fun _ => 0) cttcWatchdog.reg 0x9F

/-- A call while all transfers work. -/
def call (f : Byte) (call : Call) : Event := ⟨0x04, f, fun _ => .done, fun _ => (.done, false), call⟩

def probedAt : State := .start (.probed "bq25601" 0x2 0 fun reg => if reg = 0x0B then 0x10 else 0)

theorem fault_delivered :
    Along (step resetDefaults) (Delivers resetDefaults) probedAt
      [call 0 .hwInit, call 0x20 .interrupt, call 0 (.chargerGet .health)] :=
  (charger_faults_iff resetDefaults (by decide) "bq25601" 0x2 0 _ _).2.1.mpr
    ⟨⟨nofun, nofun⟩, ⟨nofun, nofun⟩, ⟨nofun, nofun⟩, trivial⟩

/-- A second fault is not alerted; the battery status takes a fault and fails; a battery property
takes two from the count; and after a resume the watchdog runs. -/
theorem charger_faults_lost :
    ¬ Along (step resetDefaults) (Alerts resetDefaults) probedAt
        [call 0 .hwInit, call 0x10 .interrupt, call 0x20 .interrupt] ∧
      ¬ Along (step resetDefaults) (Delivers resetDefaults) probedAt
        [call 0 .hwInit, call 0x10 .interrupt,
          { call 0 (.batteryGet .status) with bus := fun place => if place = 1 then .failed 4 0 else .done }] ∧
      ¬ Along (step resetDefaults) (Counts resetDefaults) probedAt
        [call 0 .hwInit, call 0 (.batterySet (.online 1))] ∧
      ¬ Along (step resetDefaults) (Hosts resetDefaults) probedAt
        [call 0 .hwInit, call 0 .suspend, call 0 .resume] := by
  refine ⟨fun alerts => ?_, fun delivers => ?_, fun counts => ?_, fun hosts => ?_⟩
  · have changed := alerts.2.2.1 rfl rfl ⟨rfl, .inr ⟨rfl, by decide⟩⟩
    revert changed
    decide
  · have kept := congrFun delivers.2.2.1.2 .batteryStatus
    revert kept
    decide
  · have same := counts.2.1 nofun nofun nofun
    revert same
    decide
  · have disabled := hosts.2.2.1 rfl
    revert disabled
    decide

end MangOH.Bq25601
