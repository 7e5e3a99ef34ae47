import MangOH.ChargeLimits

/-!
The calls into the bq25601 driver: the properties of the charger and of the battery, the
interrupt thread, and the suspend and resume of the device. A call has its own transfers on
the bus, numbered by the places in the code that make them.
-/

namespace MangOH.Bq25601

open I2c

def regSs : Byte := 0x08
def regF : Byte := 0x09

def pocChgConfig : Field := ⟨0x01, 0x30, 4⟩
def cttcEnTerm : Field := ⟨0x05, 0x80, 7⟩
def cttcWatchdog : Field := ⟨0x05, 0x30, 4⟩
def cttcTreg : Field := ⟨0x05, 0x02, 1⟩
def mocBatfetDisable : Field := ⟨0x07, 0x20, 5⟩
def ssChrgStat : Field := ⟨0x08, 0x18, 3⟩
def ssPgStat : Field := ⟨0x08, 0x04, 2⟩
def fBoostFault : Field := ⟨0x09, 0x40, 6⟩
def fChrgFault : Field := ⟨0x09, 0x30, 4⟩
def fBatFault : Field := ⟨0x09, 0x08, 3⟩
def fNtcFault : Field := ⟨0x09, 0x07, 0⟩
def vprsRegReset : Field := ⟨0x0B, 0x80, 7⟩
def vprsPn : Field := ⟨0x0B, 0x78, 3⟩

def cttcTregValues : List Int := [900, 1100]

def eio : Int := 5
def enodev : Int := 19
def einval : Int := 22
def enodata : Int := 61

inductive Supply where
  | charger
  | battery
deriving DecidableEq

inductive Health where
  | unknown
  | good
  | overheat
  | overvoltage
  | unspecFailure
  | cold
  | safetyTimerExpire
deriving DecidableEq

inductive Status where
  | charging
  | discharging
  | notCharging
  | full
deriving DecidableEq

inductive ChargeType where
  | none
  | trickle
  | fast
  | other
deriving DecidableEq

/-- What a property call hands back. -/
inductive Value where
  | int (val : Int)
  | chargeType (type : ChargeType)
  | health (health : Health)
  | status (status : Status)
  | scopeSystem
  | technologyUnknown
  | text (strval : String)
deriving DecidableEq

/-- What the driver keeps of a device, the device's registers, and how often the runtime power
management was asked to keep it on. -/
structure Device where
  firstTime : Bool
  chargerHealthValid : Bool
  batteryHealthValid : Bool
  batteryStatusValid : Bool
  fReg : Byte
  ssReg : Byte
  watchdog : Byte
  model : Byte
  modelName : String
  usage : Int
  registers : Registers

/-- What a call returns, and the supplies that it says have changed. -/
structure Result where
  ret : Int
  value : Option Value
  changed : List Supply
deriving DecidableEq

def Result.got : Except Int Value → Result
  | .ok value => ⟨0, some value, []⟩
  | .error ret => ⟨ret, none, []⟩

def Device.pmRuntimeGetSync (dev : Device) : Device := { dev with usage := dev.usage + 1 }
def Device.pmRuntimePutSync (dev : Device) : Device := { dev with usage := dev.usage - 1 }

/-! What the fault register says. -/

def chargerHealth (v : Byte) : Health :=
  if v &&& fBoostFault.mask ≠ 0 then .overvoltage
  else
    let v := fChrgFault.bits v
    if v = 0x0 then .good
    else if v = 0x1 then .unspecFailure
    else if v = 0x2 then .overheat
    else if v = 0x3 then .safetyTimerExpire
    else .unknown

def batteryHealth (v : Byte) : Health :=
  if v &&& fBatFault.mask ≠ 0 then .overvoltage
  else
    let v := fNtcFault.bits v
    if v = 0x0 then .good
    else if v = 0x1 ∨ v = 0x3 ∨ v = 0x5 then .cold
    else if v = 0x2 ∨ v = 0x4 ∨ v = 0x6 then .overheat
    else .unknown

def batteryStatus (f ss : Byte) : Except Int Status :=
  if ss &&& ssPgStat.mask = 0 ∨ fChrgFault.bits f ≠ 0 then .ok .discharging
  else
    let ss := ssChrgStat.bits ss
    if ss = 0x0 then .ok .notCharging
    else if ss = 0x1 ∨ ss = 0x2 then .ok .charging
    else if ss = 0x3 then .ok .full
    else .error (-eio)

variable (bus : Nat → Transfer)

/-! The properties of the charger. -/

def bq25601ChargerGetChargeType (registers : Registers) : Except Int Value :=
  match bq25601ReadMask (bus 0) registers pocChgConfig with
  | .error ret => .error ret
  | .ok v => .ok (.chargeType (if v = 0 then .none else if v ≠ 0 then .trickle else .fast))

/-- Enabling the charger, with the termination of the charge or without. -/
def enableCharge (enTerm : Byte) (registers : Registers) : Int × Registers :=
  let term := bq25601WriteMask (bus 0) (bus 1) cttcEnTerm enTerm registers
  if term.1 < 0 then term else bq25601WriteMask (bus 2) (bus 3) pocChgConfig 0x1 term.2

def bq25601ChargerSetChargeType (type : ChargeType) (registers : Registers) : Int × Registers :=
  match type with
  | .none => bq25601WriteMask (bus 2) (bus 3) pocChgConfig 0x0 registers
  | .trickle => enableCharge bus 0x0 registers
  | .fast => enableCharge bus 0x1 registers
  | .other => (-einval, registers)

/-- What the interrupt thread has saved is used up. -/
def bq25601ChargerGetHealth (dev : Device) : Except Int Value × Device :=
  if dev.chargerHealthValid then
    (.ok (.health (chargerHealth dev.fReg)), { dev with chargerHealthValid := false })
  else
    match bq25601Read (bus 0) dev.registers regF with
    | .error ret => (.error ret, dev)
    | .ok v => (.ok (.health (chargerHealth v)), dev)

def bq25601ChargerGetOnline (registers : Registers) : Except Int Value :=
  match bq25601ReadMask (bus 0) registers ssPgStat with
  | .error ret => .error ret
  | .ok v => .ok (.int v.toNat)

inductive ChargerGet where
  | chargeType
  | health
  | online
  | constantChargeCurrent
  | constantChargeCurrentMax
  | constantChargeVoltage
  | constantChargeVoltageMax
  | scope
  | modelName
  | manufacturer
  | other
deriving DecidableEq

def bq25601ChargerGetProperty (psp : ChargerGet) (dev : Device) : Except Int Value × Device :=
  let dev := dev.pmRuntimeGetSync
  let got : Except Int Value × Device :=
    match psp with
    | .chargeType => (bq25601ChargerGetChargeType bus dev.registers, dev)
    | .health => bq25601ChargerGetHealth bus dev
    | .online => (bq25601ChargerGetOnline bus dev.registers, dev)
    | .constantChargeCurrent => ((bq25601ChargerGetCurrent (bus 0) dev.registers).map .int, dev)
    | .constantChargeCurrentMax => (.ok (.int (cccIchgValues.getD (cccIchgValues.length - 1) 0)), dev)
    | .constantChargeVoltage => ((bq25601ChargerGetVoltage (bus 0) dev.registers).map .int, dev)
    | .constantChargeVoltageMax => (.ok (.int (cvcVregValues.getD (cvcVregValues.length - 1) 0)), dev)
    | .scope => (.ok .scopeSystem, dev)
    | .modelName => (.ok (.text dev.modelName), dev)
    | .manufacturer => (.ok (.text "Texas Instruments"), dev)
    | .other => (.error (-enodata), dev)
  (got.1, got.2.pmRuntimePutSync)

inductive ChargerSet where
  | chargeType (type : ChargeType)
  | constantChargeCurrent (intval : Int)
  | constantChargeVoltage (intval : Int)
  | other
deriving DecidableEq

def bq25601ChargerSetProperty (psp : ChargerSet) (dev : Device) : Int × Device :=
  let dev := dev.pmRuntimeGetSync
  let set :=
    match psp with
    | .chargeType type => bq25601ChargerSetChargeType bus type dev.registers
    | .constantChargeCurrent intval => bq25601ChargerSetCurrent (bus 0) (bus 1) intval dev.registers
    | .constantChargeVoltage intval => bq25601ChargerSetVoltage (bus 0) (bus 1) intval dev.registers
    | .other => (-einval, dev.registers)
  (set.1, { dev with registers := set.2 }.pmRuntimePutSync)

/-! The properties of the battery. -/

/-- The saved value is used up before the status register is read. -/
def bq25601BatteryGetStatus (dev : Device) : Except Int Value × Device :=
  let fault : Except Int Byte × Device :=
    if dev.batteryStatusValid then (.ok dev.fReg, { dev with batteryStatusValid := false })
    else (bq25601Read (bus 0) dev.registers regF, dev)
  match fault.1 with
  | .error ret => (.error ret, fault.2)
  | .ok chrgFault =>
      match bq25601Read (bus 1) dev.registers regSs with
      | .error ret => (.error ret, fault.2)
      | .ok ssReg => ((batteryStatus chrgFault ssReg).map .status, fault.2)

def bq25601BatteryGetHealth (dev : Device) : Except Int Value × Device :=
  if dev.batteryHealthValid then
    (.ok (.health (batteryHealth dev.fReg)), { dev with batteryHealthValid := false })
  else
    match bq25601Read (bus 0) dev.registers regF with
    | .error ret => (.error ret, dev)
    | .ok v => (.ok (.health (batteryHealth v)), dev)

def bq25601BatteryGetOnline (registers : Registers) : Except Int Value :=
  match bq25601ReadMask (bus 0) registers mocBatfetDisable with
  | .error ret => .error ret
  | .ok batfetDisable => .ok (.int (if batfetDisable = 0 then 1 else 0))

def bq25601BatterySetOnline (intval : Int) (registers : Registers) : Int × Registers :=
  bq25601WriteMask (bus 0) (bus 1) mocBatfetDisable (if intval = 0 then 1 else 0) registers

def bq25601BatteryGetTempAlertMax (registers : Registers) : Except Int Value :=
  (bq25601GetFieldVal (bus 0) registers cttcTreg cttcTregValues).map .int

def bq25601BatterySetTempAlertMax (intval : Int) (registers : Registers) : Int × Registers :=
  bq25601SetFieldVal (bus 0) (bus 1) cttcTreg cttcTregValues intval registers

inductive BatteryGet where
  | status
  | health
  | online
  | technology
  | tempAlertMax
  | scope
  | other
deriving DecidableEq

def bq25601BatteryGetProperty (psp : BatteryGet) (dev : Device) : Except Int Value × Device :=
  let dev := dev.pmRuntimeGetSync
  let got : Except Int Value × Device :=
    match psp with
    | .status => bq25601BatteryGetStatus bus dev
    | .health => bq25601BatteryGetHealth bus dev
    | .online => (bq25601BatteryGetOnline bus dev.registers, dev)
    | .technology => (.ok .technologyUnknown, dev)
    | .tempAlertMax => (bq25601BatteryGetTempAlertMax bus dev.registers, dev)
    | .scope => (.ok .scopeSystem, dev)
    | .other => (.error (-enodata), dev)
  (got.1, got.2.pmRuntimePutSync)

inductive BatterySet where
  | online (intval : Int)
  | tempAlertMax (intval : Int)
  | other
deriving DecidableEq

/-- It begins with a put as well. -/
def bq25601BatterySetProperty (psp : BatterySet) (dev : Device) : Int × Device :=
  let dev := dev.pmRuntimePutSync
  let set :=
    match psp with
    | .online intval => bq25601BatterySetOnline bus intval dev.registers
    | .tempAlertMax intval => bq25601BatterySetTempAlertMax bus intval dev.registers
    | .other => (-einval, dev.registers)
  (set.1, { dev with registers := set.2 }.pmRuntimePutSync)

/-! The interrupt thread. -/

/-- The status register is compared and saved, which may change HIZ. What the write of HIZ
returns is only logged. -/
def saveStatus (ss : Byte) (dev : Device) : Device :=
  if ss = dev.ssReg then dev
  else
    let registers :=
      if dev.ssReg &&& ssPgStat.mask ≠ 0 ∧ ss &&& ssPgStat.mask = 0 then
        (bq25601WriteMask (bus 1) (bus 2) iscEnHiz 0 dev.registers).2
      else dev.registers
    { dev with ssReg := ss, registers := registers }

def saveFault (f : Byte) (dev : Device) : Device :=
  if f = dev.fReg then dev
  else
    { dev with
      fReg := f
      chargerHealthValid := true
      batteryHealthValid := true
      batteryStatusValid := true }

/-- Only what alerts user space clears the flag that keeps it from being alerted. -/
def alert (alertUserspace : Bool) (dev : Device) : List Supply × Device :=
  if alertUserspace && !dev.firstTime then ([.charger, .battery], { dev with firstTime := false })
  else ([], dev)

/-- The supplies that are said to have changed. -/
def bq25601IrqHandlerThread (dev : Device) : List Supply × Device :=
  let dev := dev.pmRuntimeGetSync
  match bq25601Read (bus 0) dev.registers regSs with
  | .error _ => ([], dev.pmRuntimePutSync)
  | .ok ss =>
      let saved := saveStatus bus ss dev
      match bq25601Read (bus 3) saved.registers regF with
      | .error _ => ([], saved.pmRuntimePutSync)
      | .ok f =>
          let alerted := alert (decide (ss ≠ dev.ssReg) || decide (f ≠ dev.fReg)) (saveFault f saved)
          (alerted.1, alerted.2.pmRuntimePutSync)

/-! Resetting, suspend and resume. -/

/-- The polls that are left, each with how its transfer ends and whether the bit is still set. -/
def pollReset (polls : Nat → Transfer × Bool) : Nat → Nat → Int
  | 0, _ => -eio
  | limit + 1, place =>
      match polls place with
      | (.done, true) => pollReset polls limit (place + 1)
      | (.done, false) => 0
      | (transfer, _) => transfer.ret

/-- The device gets to see the bit that resets it. -/
def resetTaken : Bool :=
  match bus 0, bus 1 with
  | .done, .done => true
  | .done, .failed _ taken => taken ≠ 0
  | .failed .., _ => false

variable (defaults : Registers) (polls : Nat → Transfer × Bool)

def bq25601RegisterReset (registers : Registers) : Int × Registers :=
  let written := bq25601WriteMask (bus 0) (bus 1) vprsRegReset 0x1 registers
  let registers := if resetTaken bus then defaults else registers
  if written.1 < 0 then (written.1, registers) else (pollReset polls 100 0, registers)

def bq25601SetModeHost (dev : Device) : Int × Device :=
  match bq25601Read (bus 2) dev.registers cttcWatchdog.reg with
  | .error ret => (ret, dev)
  | .ok v =>
      let written := bq25601Write (bus 3) cttcWatchdog.reg (v &&& ~~~cttcWatchdog.mask) dev.registers
      (written.1, { dev with watchdog := cttcWatchdog.bits v, registers := written.2 })

/-- The read of the part number comes first, at the last place. -/
def bq25601HwInit (dev : Device) : Int × Device :=
  let dev := dev.pmRuntimeGetSync
  match bq25601ReadMask (bus 4) dev.registers vprsPn with
  | .error ret => (ret, dev.pmRuntimePutSync)
  | .ok v =>
      if v ≠ dev.model then (-enodev, dev.pmRuntimePutSync)
      else
        let reset := bq25601RegisterReset bus defaults polls dev.registers
        let dev := { dev with registers := reset.2 }
        if reset.1 < 0 then (reset.1, dev.pmRuntimePutSync)
        else
          let host := bq25601SetModeHost bus dev
          (host.1, host.2.pmRuntimePutSync)

/-- What the reset returns is not looked at. -/
def resetSync (dev : Device) : Device :=
  let dev := dev.pmRuntimeGetSync
  { dev with registers := (bq25601RegisterReset bus defaults polls dev.registers).2 }.pmRuntimePutSync

def bq25601PmSuspend (dev : Device) : Device := resetSync bus defaults polls dev

/-- What the interrupt thread has saved is dropped. -/
def bq25601PmResume (dev : Device) : List Supply × Device :=
  let dev := { dev with
    chargerHealthValid := false
    batteryHealthValid := false
    batteryStatusValid := false }
  ([.charger, .battery], resetSync bus defaults polls dev)

/-! The calls together. -/

inductive Call where
  | interrupt
  | chargerGet (psp : ChargerGet)
  | chargerSet (psp : ChargerSet)
  | batteryGet (psp : BatteryGet)
  | batterySet (psp : BatterySet)
  | hwInit
  | suspend
  | resume
deriving DecidableEq

/-- A call, with what the status and the fault register hold by then. -/
structure Event where
  ss : Byte
  f : Byte
  bus : Nat → Transfer
  polls : Nat → Transfer × Bool
  call : Call

def Device.sense (dev : Device) (event : Event) : Device :=
  { dev with
    registers := Function.update (Function.update dev.registers regSs event.ss) regF event.f }

def perform (dev : Device) (event : Event) : Result × Device :=
  let dev := dev.sense event
  match event.call with
  | .interrupt =>
      let handled := bq25601IrqHandlerThread event.bus dev
      (⟨0, none, handled.1⟩, handled.2)
  | .chargerGet psp =>
      let got := bq25601ChargerGetProperty event.bus psp dev
      (.got got.1, got.2)
  | .chargerSet psp =>
      let set := bq25601ChargerSetProperty event.bus psp dev
      (⟨set.1, none, []⟩, set.2)
  | .batteryGet psp =>
      let got := bq25601BatteryGetProperty event.bus psp dev
      (.got got.1, got.2)
  | .batterySet psp =>
      let set := bq25601BatterySetProperty event.bus psp dev
      (⟨set.1, none, []⟩, set.2)
  | .hwInit =>
      let init := bq25601HwInit event.bus defaults event.polls dev
      (⟨init.1, none, []⟩, init.2)
  | .suspend => (⟨0, none, []⟩, bq25601PmSuspend event.bus defaults event.polls dev)
  | .resume =>
      let resumed := bq25601PmResume event.bus defaults event.polls dev
      (⟨0, none, resumed.1⟩, resumed.2)

end MangOH.Bq25601
