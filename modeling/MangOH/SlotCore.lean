import MangOH.SlotEeprom
import MangOH.Ledger

/-!
The IoT slot: what `iot_slot_probe` acquires, the interfaces that it adds from
the descriptors on the card, and what `iot_slot_remove` gives back. Each step
that can fail takes its outcome as an argument.
-/

namespace MangOH.SlotCore

open SlotEeprom

def einval : Int := 22
def enomem : Int := 12
def enodev : Int := 19
def eacces : Int := 13
def erange : Int := 34
def ebusy : Int := 16

inductive EepromInterface where
  | gpio
  | i2c
  | spi
  | usb
  | sdio
  | adc
  | pcm
  | clk
  | uart
  | plat
  | unsupported
  | last
deriving DecidableEq

def eepromInterface (type : BitVec 8) : EepromInterface :=
  match type.toNat with
  | 0 => .gpio
  | 1 => .i2c
  | 2 => .spi
  | 3 => .usb
  | 4 => .sdio
  | 5 => .adc
  | 6 => .pcm
  | 7 => .clk
  | 8 => .uart
  | 9 => .plat
  | 0xFF => .last
  | _ => .unsupported

inductive SlotInterface where
  | gpio
  | i2c
  | spi
  | usb
  | sdio
  | adc
  | pcm
  | clk
  | uart
  | platform
deriving DecidableEq

/-- The clients and devices are told apart by their places in the table. -/
inductive Resource where
  | reset
  | cardDetect
  | gpio (pin : Nat)
  | i2cAdapter
  | spi
  | sdio
  | adc
  | pcm
  | uart
  | i2cClient (place : Nat)
  | spiDevice (place : Nat)
  | eeprom
deriving DecidableEq

/-- What the content of a card can make the driver do. -/
inductive ContentFault where
  | bug
  | gpioIndex
  | interfaceIndex
  | unterminated
deriving DecidableEq

/-- A call of a callback that is not set, the table of a slot without its device, and
a GPIO interface that holds some of its lines only. -/
inductive CallFault where
  | null
  | pdev
  | gpioPartly
deriving DecidableEq

structure Slot where
  pdev : Bool
  cardPresent : Bool
  i2cAdapter : Bool
  interfaces : List SlotInterface
  ledger : Ledger Resource
  callFaults : List CallFault
  contentFaults : List ContentFault

/-- As `devm_kzalloc` leaves it. -/
def Slot.zero : Slot := ⟨false, false, false, [], .empty, [], []⟩

def Slot.notes (faults : List ContentFault) (slot : Slot) : Slot :=
  { slot with contentFaults := slot.contentFaults ++ faults }

def Slot.blame (fault : CallFault) (slot : Slot) : Slot :=
  { slot with callFaults := fault :: slot.callFaults }

def Slot.acquire (resource : Resource) (slot : Slot) : Slot :=
  { slot with ledger := slot.ledger.acquire resource }

def Slot.release (resource : Resource) (slot : Slot) : Slot :=
  { slot with ledger := slot.ledger.release resource }

def Slot.use (resource : Resource) (slot : Slot) : Slot :=
  { slot with ledger := slot.ledger.use resource }

/-- `slot->pdev->dev`. -/
def Slot.device (slot : Slot) : Slot := if slot.pdev = true then slot else slot.blame .pdev

/-- A GPIO that is already requested is busy. -/
def devmGpioRequestOne (resource : Resource) (ret : Int) (slot : Slot) : Slot × Int :=
  if resource ∈ slot.ledger.held then (slot, -ebusy)
  else if ret ≠ 0 then (slot, ret)
  else (slot.acquire resource, 0)

def devmGpioFree (resource : Resource) (slot : Slot) : Slot := slot.release resource

/-! The descriptors, read through the items of the list. The version is that of
the EEPROM that the item points back to. -/

structure Item where
  eeprom : Image
  contents : Nat

def Item.known (item : Item) : Bool :=
  decide (SlotEeprom.eepromVersion item.eeprom = .ok (EepromVersion 1 0))

def Item.byte (item : Item) (offset : Nat) : BitVec 8 := item.eeprom.byte (item.contents + offset)

def Item.type (item : Item) : EepromInterface :=
  if item.known = true then eepromInterface (item.byte 0) else .last

def eepromIfType (item : Item) : EepromInterface × List ContentFault :=
  (item.type, if item.known = true then [] else [.bug])

/-- A field of a descriptor of one type. `BUG` is noted, and what the code has after it
goes on. -/
def Item.field {Value : Type} (type : EepromInterface) (value fallback : Value) (item : Item) :
    Value × List ContentFault :=
  if item.known = true then (value, if item.type ≠ type then [.bug] else [])
  else (fallback, [.bug])

def Item.modalias (offset : Nat) (item : Item) : List (BitVec 8) :=
  (List.range 32).map fun index => item.byte (offset + index)

def eepromIfGpioCfg (pin : Nat) (item : Item) : BitVec 8 × List ContentFault :=
  let cfg := item.field .gpio (item.byte (1 + pin)) 0xFF
  (cfg.1, cfg.2 ++ if item.known = true ∧ 4 ≤ pin then [.bug] else [])

def eepromIfSpiModalias (item : Item) : List (BitVec 8) × List ContentFault :=
  item.field .spi (item.modalias 2) []

def eepromIfSpiIrqGpio (item : Item) : Int × List ContentFault :=
  item.field .spi (item.byte 1).toNat (-1)

def eepromIfI2cModalias (item : Item) : List (BitVec 8) × List ContentFault :=
  item.field .i2c (item.modalias 3) []

def eepromIfI2cIrqGpio (item : Item) : Int × List ContentFault :=
  item.field .i2c (item.byte 2).toNat (-1)

/-- The address is unsigned, and so is the -1 after `BUG`. -/
def eepromIfI2cAddress (item : Item) : BitVec 8 × List ContentFault :=
  item.field .i2c (item.byte 1) 0xFF

/-! What the code does with indices and strings. -/

def maxInterfaces : Nat := 10

def irqGpioUnused : Int := 0xFF

/-- `pdata->gpio[index]`. -/
def gpioIndex (index : Int) : List ContentFault :=
  if 0 ≤ index ∧ index < 4 then [] else [.gpioIndex]

def irqFaults (irq : Int) : List ContentFault := if irq ≠ irqGpioUnused then gpioIndex irq else []

/-- `slot->interfaces[slot->num_interfaces]`. -/
def Slot.entry (slot : Slot) : List ContentFault :=
  if slot.interfaces.length < maxInterfaces then [] else [.interfaceIndex]

def strncpy (size : Nat) (source : List (BitVec 8)) : List (BitVec 8) :=
  let copied := (source.take size).takeWhile fun byte => byte ≠ 0
  copied ++ List.replicate (size - copied.length) 0

def terminated (field : List (BitVec 8)) : List ContentFault :=
  if 0 ∈ field then [] else [.unterminated]

def i2cNameSize : Nat := 20

def spiNameSize : Nat := 32

def digits (number : Nat) : Nat := (Nat.toDigits 10 number).length

/-- The lengths of "IoT slot %d gpio %d", "IoT slot %d reset" and "IoT slot %d card detect". -/
def gpioLabel (index pin : Nat) : Nat := 9 + digits index + 6 + digits pin

def resetLabel (index : Nat) : Nat := 9 + digits index + 6

def cardDetectLabel (index : Nat) : Nat := 9 + digits index + 12

/-- `BUG_ON` of a label that does not fit. -/
def labelFaults (length size : Nat) : List ContentFault := if length ≥ size then [.bug] else []

/-! The optional callbacks of the platform data, and what the calls made for one
interface return. -/

structure Callbacks where
  requestSdio : Bool
  releaseSdio : Bool
  requestAdc : Bool
  releaseAdc : Bool
  requestPcm : Bool
  releasePcm : Bool
  requestUart : Bool
  releaseUart : Bool

structure Outcome where
  gpioRequest : Nat → Int
  i2cNewDevice : Bool
  requestSpi : Int
  spiNewDevice : Bool
  request : Int

def Slot.add (type : SlotInterface) (slot : Slot) : Slot :=
  { slot with interfaces := slot.interfaces ++ [type] }

/-- The direction and the pull of a line are set as far as its configuration says. -/
def configure (cfg : BitVec 8) (pin : Nat) (slot : Slot) : Slot :=
  if 1 ≤ cfg.toNat ∧ cfg.toNat ≤ 5 then slot.use (.gpio pin) else slot

def Slot.gpios (slot : Slot) : List Bool :=
  (List.range 4).map fun pin => decide (Resource.gpio pin ∈ slot.ledger.held)

/-- The promise on a GPIO interface, looked at where `iot_slot_add_gpio` returns. -/
def Slot.whole (held : Bool) (slot : Slot) : Slot :=
  if slot.gpios = List.replicate 4 held then slot else slot.blame .gpioPartly

def pinFaults (index pin : Nat) (item : Item) (slot : Slot) : List ContentFault :=
  (eepromIfGpioCfg pin item).2 ++ slot.entry ++ labelFaults (gpioLabel index pin) 20 ++ gpioIndex pin

/-- The loop over the pins that are left. The rollback returns in the first turn of its
own loop, and makes none for the first pin. -/
def addGpioPins (index : Nat) (item : Item) (outcome : Outcome) : List Nat → Slot → Slot × Int
  | [], slot => (((slot.notes slot.entry).add .gpio).whole true, 0)
  | pin :: rest, slot =>
      let requested := devmGpioRequestOne (.gpio pin) (outcome.gpioRequest pin)
        (slot.notes (pinFaults index pin item slot))
      if requested.2 ≠ 0 ∧ 0 < pin then ((devmGpioFree (.gpio 0) requested.1).whole false, -eacces)
      else
        addGpioPins index item outcome rest
          (configure (eepromIfGpioCfg pin item).1 pin requested.1)

attribute [local simp] addGpioPins

def iotSlotAddGpio (index : Nat) (item : Item) (outcome : Outcome) (slot : Slot) : Slot × Int :=
  addGpioPins index item outcome (List.range 4) slot.device

def iotSlotAddI2c (item : Item) (outcome : Outcome) (slot : Slot) : Slot × Int :=
  let type := strncpy i2cNameSize (eepromIfI2cModalias item).1
  let irqGpio := eepromIfI2cIrqGpio item
  let slot := slot.device.notes ((eepromIfI2cModalias item).2 ++ irqGpio.2 ++ irqFaults irqGpio.1 ++
    (eepromIfI2cAddress item).2 ++ slot.entry ++ terminated type)
  let slot := slot.use .i2cAdapter
  if outcome.i2cNewDevice = false then (slot, -einval)
  else ((slot.acquire (.i2cClient slot.interfaces.length)).add .i2c, 0)

def iotSlotAddSpi (item : Item) (outcome : Outcome) (slot : Slot) : Slot × Int :=
  if outcome.requestSpi ≠ 0 then (slot.device, -enodev)
  else
    let irqGpio := eepromIfSpiIrqGpio item
    let modalias := strncpy spiNameSize (eepromIfSpiModalias item).1
    let slot := (slot.device.acquire .spi).notes (irqGpio.2 ++ irqFaults irqGpio.1 ++
      (eepromIfSpiModalias item).2 ++ terminated modalias)
    if outcome.spiNewDevice = false then (slot.release .spi, -enodev)
    else (((slot.notes slot.entry).acquire (.spiDevice slot.interfaces.length)).add .spi, 0)

/-- An interface whose callback to request it may be missing. -/
def addOptional (callback : Bool) (resource : Resource) (type : SlotInterface) (outcome : Outcome)
    (slot : Slot) : Slot × Int :=
  if callback = true then
    if outcome.request ≠ 0 then (slot.device, -enodev)
    else (((slot.device.acquire resource).notes slot.entry).add type, 0)
  else ((slot.device.notes slot.entry).add type, 0)

def iotSlotAddSdio (pdata : Callbacks) : Outcome → Slot → Slot × Int :=
  addOptional pdata.requestSdio .sdio .sdio

def iotSlotAddAdc (pdata : Callbacks) : Outcome → Slot → Slot × Int :=
  addOptional pdata.requestAdc .adc .adc

def iotSlotAddPcm (pdata : Callbacks) : Outcome → Slot → Slot × Int :=
  addOptional pdata.requestPcm .pcm .pcm

def iotSlotAddUart (pdata : Callbacks) : Outcome → Slot → Slot × Int :=
  addOptional pdata.requestUart .uart .uart

/-! `iot_slot_release_resources`. -/

/-- A callback that is called without a look whether it is set. -/
def releaseUnchecked (callback : Bool) (resource : Resource) (slot : Slot) : Slot :=
  if callback = true then slot.release resource else slot.blame .null

def releaseInterface (pdata : Callbacks) (place : Nat) (type : SlotInterface) (slot : Slot) : Slot :=
  match type with
  | .gpio => (List.range 4).foldl (fun slot pin => devmGpioFree (.gpio pin) slot) slot
  | .i2c => (slot.use .i2cAdapter).release (.i2cClient place)
  | .spi => (slot.release (.spiDevice place)).release .spi
  | .sdio => releaseUnchecked pdata.releaseSdio .sdio slot
  | .adc => releaseUnchecked pdata.releaseAdc .adc slot
  | .pcm => releaseUnchecked pdata.releasePcm .pcm slot
  | .uart => if pdata.releaseUart = true then slot.release .uart else slot
  | .usb | .clk | .platform => slot

def releaseInterfaces (pdata : Callbacks) : Nat → List SlotInterface → Slot → Slot
  | _, [], slot => slot
  | place, type :: rest, slot =>
      releaseInterfaces pdata (place + 1) rest (releaseInterface pdata place type slot)

def iotSlotReleaseResources (pdata : Callbacks) (slot : Slot) : Slot :=
  let slot := releaseInterfaces pdata 0 slot.interfaces slot.device
  let slot := if slot.i2cAdapter = true then { slot.release .i2cAdapter with i2cAdapter := false }
    else slot
  let slot := devmGpioFree .reset (devmGpioFree .cardDetect slot)
  { slot with pdev := false, cardPresent := false }

/-! The enumeration. -/

/-- What the enumeration meets: the card-detect line, `gpio_direction_output`, the
EEPROM client, the magic, and what `eeprom_load_interfaces` makes of the rest. -/
structure Card where
  present : Bool
  directionOutput : Int
  eeprom : Bool
  header : Bool
  loaded : Except Fault (Int × List Item)
  outcomes : Nat → Outcome

def eepromLoad (card : Card) (slot : Slot) : Except Fault (Slot × Option (List Item)) :=
  if slot.i2cAdapter = false then .ok (slot, none)
  else if card.eeprom = false then .ok (slot.use .i2cAdapter, none)
  else
    let slot := (slot.use .i2cAdapter).acquire .eeprom
    if card.header = false then .ok ((slot.use .i2cAdapter).release .eeprom, none)
    else
      match card.loaded with
      | .error fault => .error fault
      | .ok loaded => .ok (slot, if 0 < loaded.1 then some loaded.2 else none)

/-- Unregistering a client takes the adapter that it is on. -/
def eepromUnload (slot : Slot) : Slot := (slot.use .i2cAdapter).release .eeprom

/-- The result of an `iot_slot_add` function, or the jump to `enumeration_fail`. -/
def checked (added : Slot × Int) : Slot × Except Int Int :=
  if added.2 ≠ 0 then (added.1, .error added.2) else (added.1, .ok added.2)

/-- The cases that add an entry and leave `ret`. -/
def addPlain (type : SlotInterface) (ret : Int) (slot : Slot) : Slot × Except Int Int :=
  ((slot.notes slot.entry).add type, .ok ret)

/-- A USB interface is entered as a clock. -/
def enumerateItem (pdata : Callbacks) (index : Nat) (item : Item) (outcome : Outcome) (ret : Int)
    (slot : Slot) : Slot × Except Int Int :=
  let slot := slot.notes (eepromIfType item).2
  match (eepromIfType item).1 with
  | .gpio => checked (iotSlotAddGpio index item outcome slot)
  | .i2c => checked (iotSlotAddI2c item outcome slot)
  | .spi => checked (iotSlotAddSpi item outcome slot)
  | .usb => addPlain .clk ret slot
  | .sdio => checked (iotSlotAddSdio pdata outcome slot)
  | .adc => checked (iotSlotAddAdc pdata outcome slot)
  | .pcm => checked (iotSlotAddPcm pdata outcome slot)
  | .clk => addPlain .clk ret slot
  | .uart => checked (iotSlotAddUart pdata outcome slot)
  | .plat => addPlain .platform ret slot
  | .unsupported | .last => (slot, .ok ret)

def enumerateItems (pdata : Callbacks) (index : Nat) :
    List Item → (Nat → Outcome) → Int → Slot → Slot × Except Int Int
  | [], _, ret, slot => (slot, .ok ret)
  | item :: rest, outcomes, ret, slot =>
      if maxInterfaces ≤ slot.interfaces.length then (slot, .error (-erange))
      else
        match enumerateItem pdata index item (outcomes 0) ret slot with
        | (slot, .error ret) => (slot, .error ret)
        | (slot, .ok ret) =>
            enumerateItems pdata index rest (fun call => outcomes (call + 1)) ret slot

attribute [local simp] enumerateItems

/-- From the loop to the label `unload_eeprom`. -/
def finishItems (pdata : Callbacks) : Slot × Except Int Int → Slot × Int
  | (slot, .error ret) => (iotSlotReleaseResources pdata slot, ret)
  | (slot, .ok ret) => (slot, ret)

def iotSlotEnumerate (pdata : Callbacks) (index : Nat) (card : Card) (slot : Slot) :
    Except Fault (Slot × Int) :=
  let slot := slot.device.use .cardDetect
  if card.present = false then .ok ({ slot with cardPresent := false }, 0)
  else
    let slot := { slot with cardPresent := true }.use .cardDetect
    match eepromLoad card slot with
    | .error fault => .error fault
    | .ok (slot, none) => .ok (slot.use .cardDetect, card.directionOutput)
    | .ok (slot, some items) =>
        let slot := slot.use .reset
        let finished := finishItems pdata
          (enumerateItems pdata index items card.outcomes card.directionOutput slot)
        .ok ((eepromUnload finished.1).use .cardDetect, finished.2)

attribute [local simp] iotSlotEnumerate

/-! Probe and remove. -/

/-- What the three requests return. -/
structure Essential where
  reset : Int
  cardDetect : Int
  i2c : Int

def iotSlotRequestEssentialResources (pdata : Callbacks) (index : Nat) (essential : Essential)
    (slot : Slot) : Slot × Int :=
  let slot := slot.device.notes (labelFaults (resetLabel index) 24)
  let reset := devmGpioRequestOne .reset essential.reset slot
  if reset.2 ≠ 0 then (iotSlotReleaseResources pdata reset.1, reset.2)
  else
    let slot := reset.1.notes (labelFaults (cardDetectLabel index) 24)
    let cardDetect := devmGpioRequestOne .cardDetect essential.cardDetect slot
    if cardDetect.2 ≠ 0 then (iotSlotReleaseResources pdata cardDetect.1, cardDetect.2)
    else if essential.i2c ≠ 0 then (iotSlotReleaseResources pdata cardDetect.1, essential.i2c)
    else ({ cardDetect.1.acquire .i2cAdapter with i2cAdapter := true }, 0)

/-- `taken` says that the slot has a device, `memory` what `devm_kzalloc` makes of it. -/
structure Probe where
  id : Int
  taken : Bool
  memory : Bool
  essential : Essential
  card : Card

def numSupported : Nat := 3

def iotSlotProbe (pdata : Callbacks) (probe : Probe) : Except Fault (Slot × Int) :=
  if probe.id < 0 ∨ probe.id ≥ numSupported then .ok (.zero, -einval)
  else if probe.taken = true then .ok (.zero, -einval)
  else if probe.memory = false then .ok (.zero, -enomem)
  else
    let slot := { Slot.zero with pdev := true }
    let essential := iotSlotRequestEssentialResources pdata probe.id.toNat probe.essential slot
    if essential.2 ≠ 0 then .ok essential
    else iotSlotEnumerate pdata probe.id.toNat probe.card essential.1

/-- The slot of the device that was probed, which is the one that its index names. -/
def iotSlotRemove (pdata : Callbacks) (slot : Slot) : Slot × Int :=
  if slot.pdev = false then (slot, -einval) else (iotSlotReleaseResources pdata slot, 0)

def Resource.managed : Resource → Bool
  | .reset | .cardDetect | .gpio _ => true
  | _ => false

/-- The driver core frees what the device still has of its managed resources when its
probe failed and after it is removed. -/
def devresReleaseAll (slot : Slot) : Slot :=
  { slot with ledger := ⟨slot.ledger.held.filter fun resource => resource.managed = false,
    slot.ledger.misuses⟩ }

/-- A probe, and the remove that follows it unless it failed. -/
def lifetime (pdata : Callbacks) (probe : Probe) : Except Fault Slot :=
  match iotSlotProbe pdata probe with
  | .error fault => .error fault
  | .ok (slot, ret) =>
      .ok (devresReleaseAll (if ret ≠ 0 then slot else (iotSlotRemove pdata slot).1))

section Lemmas
variable {slot : Slot} {faults : List ContentFault} {resource : Resource} {fault : CallFault}

@[simp] theorem notes_contentFaults :
    (slot.notes faults).contentFaults = slot.contentFaults ++ faults := rfl

@[simp] theorem notes_interfaces : (slot.notes faults).interfaces = slot.interfaces := rfl

@[simp] theorem notes_ledger : (slot.notes faults).ledger = slot.ledger := rfl

@[simp] theorem device_contentFaults : slot.device.contentFaults = slot.contentFaults := by
  unfold Slot.device
  split <;> rfl

@[simp] theorem device_interfaces : slot.device.interfaces = slot.interfaces := by
  unfold Slot.device
  split <;> rfl

@[simp] theorem device_ledger : slot.device.ledger = slot.ledger := by
  unfold Slot.device
  split <;> rfl

@[simp] theorem configure_contentFaults {cfg : BitVec 8} {pin : Nat} :
    (configure cfg pin slot).contentFaults = slot.contentFaults := by
  unfold configure
  split <;> rfl

@[simp] theorem configure_interfaces {cfg : BitVec 8} {pin : Nat} :
    (configure cfg pin slot).interfaces = slot.interfaces := by
  unfold configure
  split <;> rfl

@[simp] theorem configure_held {cfg : BitVec 8} {pin : Nat} :
    (configure cfg pin slot).ledger.held = slot.ledger.held := by
  unfold configure
  split
  · exact Ledger.use_keeps
  · rfl

@[simp] theorem whole_contentFaults {held : Bool} :
    (slot.whole held).contentFaults = slot.contentFaults := by
  unfold Slot.whole
  split <;> rfl

@[simp] theorem whole_interfaces {held : Bool} : (slot.whole held).interfaces = slot.interfaces := by
  unfold Slot.whole
  split <;> rfl

@[simp] theorem whole_ledger {held : Bool} : (slot.whole held).ledger = slot.ledger := by
  unfold Slot.whole
  split <;> rfl

@[simp] theorem request_contentFaults {ret : Int} :
    (devmGpioRequestOne resource ret slot).1.contentFaults = slot.contentFaults := by
  unfold devmGpioRequestOne
  split
  · rfl
  · split <;> rfl

@[simp] theorem request_interfaces {ret : Int} :
    (devmGpioRequestOne resource ret slot).1.interfaces = slot.interfaces := by
  unfold devmGpioRequestOne
  split
  · rfl
  · split <;> rfl

theorem request_keeps {ret : Int} {other : Resource} (member : other ∈ slot.ledger.held) :
    other ∈ (devmGpioRequestOne resource ret slot).1.ledger.held := by
  unfold devmGpioRequestOne
  split
  · exact member
  · split
    · exact member
    · exact Multiset.mem_cons_of_mem member

theorem request_granted (absent : resource ∉ slot.ledger.held) :
    devmGpioRequestOne resource 0 slot = (slot.acquire resource, 0) := by
  simp [devmGpioRequestOne, absent]

theorem request_held {ret : Int} (zero : (devmGpioRequestOne resource ret slot).2 = 0) :
    resource ∈ (devmGpioRequestOne resource ret slot).1.ledger.held := by
  unfold devmGpioRequestOne at zero ⊢
  by_cases member : resource ∈ slot.ledger.held
  · simp [member, ebusy] at zero
  · by_cases write : ret = 0
    · simp [member, write, Slot.acquire]
    · simp [member, write] at zero

/-! What an interface of one type may acquire, and what its addition leaves alone. -/

def Resource.of : EepromInterface → Resource → Bool
  | .gpio, .gpio _ | .i2c, .i2cClient _ | .spi, .spi | .spi, .spiDevice _ | .sdio, .sdio
  | .adc, .adc | .pcm, .pcm | .uart, .uart => true
  | _, _ => false

section Frame
variable {pdata : Callbacks} {index : Nat} {item : Item} {outcome : Outcome} {other : Resource}

theorem request_frame {ret : Int} (different : other ≠ resource) :
    (devmGpioRequestOne resource ret slot).1.ledger.held.count other =
      slot.ledger.held.count other := by
  unfold devmGpioRequestOne
  split
  · rfl
  · split
    · rfl
    · exact Ledger.count_acquire different

theorem gpio_frame (foreign : ∀ pin, other ≠ .gpio pin) (pins : List Nat) : ∀ slot : Slot,
    (addGpioPins index item outcome pins slot).1.ledger.held.count other =
      slot.ledger.held.count other := by
  induction pins with
  | nil => exact fun slot => by simp [Slot.add]
  | cons pin rest ih =>
      intro slot
      simp only [addGpioPins]
      split
      · rw [whole_ledger]
        exact (Ledger.count_release (foreign 0)).trans (request_frame (foreign pin))
      · rw [ih, configure_held, request_frame (foreign pin), notes_ledger]

theorem pins_granted {pin : Nat} {rest : List Nat} (served : outcome.gpioRequest pin = 0)
    (free : .gpio pin ∉ slot.ledger.held) :
    addGpioPins index item outcome (pin :: rest) slot =
      addGpioPins index item outcome rest (configure (eepromIfGpioCfg pin item).1 pin
        ((slot.notes (pinFaults index pin item slot)).acquire (.gpio pin))) := by
  simp only [addGpioPins, served]
  have absent : Resource.gpio pin ∉ (slot.notes (pinFaults index pin item slot)).ledger.held := free
  simp only [request_granted absent, ne_eq, not_true, false_and, if_false]

/-- A request that fails ends the addition for any pin but the first one. -/
theorem pins_refused {pin : Nat} (later : 0 < pin) (pins : List Nat) (member : pin ∈ pins) :
    ∀ slot : Slot, .gpio pin ∈ slot.ledger.held ∨ outcome.gpioRequest pin ≠ 0 →
      (addGpioPins index item outcome pins slot).2 = -eacces := by
  induction pins with
  | nil => cases member
  | cons first rest ih =>
      intro slot refused
      simp only [addGpioPins]
      split
      · rfl
      · rename_i going
        -- The refused pin is this one, or the loop comes to it with what it holds by then.
        rcases List.mem_cons.mp member with rfl | inside
        · have failed : (devmGpioRequestOne (.gpio pin) (outcome.gpioRequest pin)
              (slot.notes (pinFaults index pin item slot))).2 ≠ 0 := by
            unfold devmGpioRequestOne
            split
            · exact (by decide : -ebusy ≠ 0)
            · rename_i free
              rcases refused with held | nonzero
              · exact absurd held free
              · rw [if_pos nonzero]
                exact nonzero
          exact absurd ⟨failed, later⟩ going
        · apply ih inside
          rw [configure_held]
          exact refused.imp request_keeps id

theorem i2c_frame (foreign : ∀ place, other ≠ .i2cClient place) :
    (iotSlotAddI2c item outcome slot).1.ledger.held.count other =
      slot.ledger.held.count other := by
  unfold iotSlotAddI2c
  simp only
  split
  · simp [Slot.use]
  · refine (Ledger.count_acquire (foreign _)).trans ?_
    simp [Slot.use]

theorem spi_frame (master : other ≠ .spi) (foreign : ∀ place, other ≠ .spiDevice place) :
    (iotSlotAddSpi item outcome slot).1.ledger.held.count other =
      slot.ledger.held.count other := by
  unfold iotSlotAddSpi
  simp only
  split
  · simp
  · split
    · refine (Ledger.count_release master).trans ((Ledger.count_acquire master).trans ?_)
      simp
    · refine (Ledger.count_acquire (foreign _)).trans ((Ledger.count_acquire master).trans ?_)
      simp

theorem optional_frame {callback : Bool} {type : SlotInterface} (foreign : other ≠ resource) :
    (addOptional callback resource type outcome slot).1.ledger.held.count other =
      slot.ledger.held.count other := by
  unfold addOptional
  split
  · split
    · simp
    · refine (Ledger.count_acquire foreign).trans ?_
      simp
  · simp [Slot.add]

@[simp] theorem checked_slot (added : Slot × Int) : (checked added).1 = added.1 := by
  unfold checked
  split <;> rfl

theorem checked_ok {added : Slot × Int} {ret : Int} (ok : (checked added).2 = .ok ret) :
    added.2 = 0 := by
  unfold checked at ok
  split at ok
  · cases ok
  · exact not_not.mp ‹_›

theorem checked_zero {added : Slot × Int} (zero : added.2 = 0) : (checked added).2 = .ok 0 := by
  rw [checked, if_neg (not_not.mpr zero), zero]

theorem checked_failed {added : Slot × Int} (failed : added.2 ≠ 0) :
    (checked added).2 = .error added.2 := by
  rw [checked, if_pos failed]

theorem item_frame {ret : Int} (foreign : other.of item.type = false) :
    (enumerateItem pdata index item outcome ret slot).1.ledger.held.count other =
      slot.ledger.held.count other := by
  unfold enumerateItem
  cases type : item.type <;> rw [type] at foreign <;>
    simp only [eepromIfType, type, checked_slot]
  case gpio =>
    refine (gpio_frame (fun pin same => ?_) _ _).trans (by simp)
    simp [same, Resource.of] at foreign
  case i2c =>
    refine (i2c_frame fun place same => ?_).trans (by simp)
    simp [same, Resource.of] at foreign
  case spi =>
    refine (spi_frame (fun same => ?_) fun place same => ?_).trans (by simp) <;>
      simp [same, Resource.of] at foreign
  case usb | clk | plat => simp [addPlain, Slot.add]
  case unsupported | last => simp
  all_goals
    refine (optional_frame fun same => ?_).trans (by simp)
    simp [same, Resource.of] at foreign

/-! What the table of a slot has of an interface that was added, and the errors. -/

def EepromInterface.entries : EepromInterface → List SlotInterface
  | .gpio => [.gpio]
  | .i2c => [.i2c]
  | .spi => [.spi]
  | .usb => [.clk]
  | .sdio => [.sdio]
  | .adc => [.adc]
  | .pcm => [.pcm]
  | .clk => [.clk]
  | .uart => [.uart]
  | .plat => [.platform]
  | .unsupported | .last => []

/-- A function that adds an interface enters it or gives one of its errors. -/
def Enters (slot : Slot) (type : SlotInterface) (added : Slot × Int) : Prop :=
  (added.2 = 0 ∧ added.1.interfaces = slot.interfaces ++ [type]) ∨
    added.2 = -eacces ∨ added.2 = -einval ∨ added.2 = -enodev

theorem gpio_enters (pins : List Nat) : ∀ slot : Slot,
    Enters slot .gpio (addGpioPins index item outcome pins slot) := by
  induction pins with
  | nil => exact fun slot => .inl (by simp [Slot.add])
  | cons pin rest ih =>
      intro slot
      simp only [addGpioPins]
      split
      · exact .inr (.inl rfl)
      · simpa [Enters] using ih (configure (eepromIfGpioCfg pin item).1 pin
          (devmGpioRequestOne (.gpio pin) (outcome.gpioRequest pin)
            (slot.notes (pinFaults index pin item slot))).1)

theorem i2c_enters : Enters slot .i2c (iotSlotAddI2c item outcome slot) := by
  unfold iotSlotAddI2c
  simp only
  split
  · exact .inr (.inr (.inl rfl))
  · exact .inl (by simp [Slot.use, Slot.acquire, Slot.add])

theorem spi_enters : Enters slot .spi (iotSlotAddSpi item outcome slot) := by
  unfold iotSlotAddSpi
  simp only
  split
  · exact .inr (.inr (.inr rfl))
  · split
    · exact .inr (.inr (.inr rfl))
    · exact .inl (by simp [Slot.acquire, Slot.add])

theorem optional_enters {callback : Bool} {type : SlotInterface} :
    Enters slot type (addOptional callback resource type outcome slot) := by
  unfold addOptional
  split
  · split
    · exact .inr (.inr (.inr rfl))
    · exact .inl (by simp [Slot.acquire, Slot.add])
  · exact .inl (by simp [Slot.add])

theorem checked_enters {type : SlotInterface} {added : Slot × Int} (enters : Enters slot type added) :
    ((checked added).2 = .ok 0 ∧ added.1.interfaces = slot.interfaces ++ [type]) ∨
      ∃ ret, (checked added).2 = .error ret ∧ ret ≠ -erange ∧ ret ≠ 0 := by
  rcases enters with ⟨zero, entered⟩ | failed
  · exact .inl ⟨checked_zero zero, entered⟩
  · have nonzero : added.2 ≠ 0 ∧ added.2 ≠ -erange := by
      rcases failed with failed | failed | failed <;> rw [failed] <;> decide
    exact .inr ⟨added.2, checked_failed nonzero.1, nonzero.2, nonzero.1⟩

/-- One turn of the loop enters the interface, and keeps `ret` where no function was
called, or it fails with another error than that of a full table. -/
theorem item_enters {ret : Int} :
    (((enumerateItem pdata index item outcome ret slot).2 = .ok 0 ∨
        (enumerateItem pdata index item outcome ret slot).2 = .ok ret) ∧
      (enumerateItem pdata index item outcome ret slot).1.interfaces =
        slot.interfaces ++ item.type.entries) ∨
    ∃ error, (enumerateItem pdata index item outcome ret slot).2 = .error error ∧
      error ≠ -erange ∧ error ≠ 0 := by
  -- A function that enters its interface returns zero, or its own error.
  have added : ∀ {noted : Slot} {type : SlotInterface} {added : Slot × Int},
      noted.interfaces = slot.interfaces → Enters noted type added →
        (((checked added).2 = .ok 0 ∨ (checked added).2 = .ok ret) ∧
          added.1.interfaces = slot.interfaces ++ [type]) ∨
        ∃ error, (checked added).2 = .error error ∧ error ≠ -erange ∧ error ≠ 0 := by
    intro noted type added same enters
    rcases checked_enters enters with ⟨ok, entered⟩ | failed
    · exact .inl ⟨.inl ok, by rw [entered, same]⟩
    · exact .inr failed
  unfold enumerateItem
  cases type : item.type <;> simp only [eepromIfType, type, checked_slot]
  case gpio => exact added (by simp) (gpio_enters _ _)
  case i2c => exact added (by simp) i2c_enters
  case spi => exact added (by simp) spi_enters
  case sdio => exact added (by simp) optional_enters
  case adc => exact added (by simp) optional_enters
  case pcm => exact added (by simp) optional_enters
  case uart => exact added (by simp) optional_enters
  case usb | clk | plat => exact .inl ⟨.inr rfl, by simp [addPlain, Slot.add, EepromInterface.entries]⟩
  case unsupported | last => exact .inl (by simp [EepromInterface.entries])

theorem item_entered {ret ret' : Int}
    (ok : (enumerateItem pdata index item outcome ret slot).2 = .ok ret') :
    (enumerateItem pdata index item outcome ret slot).1.interfaces =
      slot.interfaces ++ item.type.entries := by
  rcases item_enters with ⟨_, entered⟩ | ⟨error, failed, _⟩
  · exact entered
  · rw [failed] at ok
    cases ok

theorem item_error {ret error : Int}
    (failed : (enumerateItem pdata index item outcome ret slot).2 = .error error) :
    error ≠ -erange := by
  rcases item_enters with ⟨ok | ok, _⟩ | ⟨other, same, different, _⟩
  · rw [failed] at ok
    cases ok
  · rw [failed] at ok
    cases ok
  · rw [failed] at same
    cases same
    exact different

end Frame

end Lemmas

/-! The turns of the loop. -/

section Loop
variable {pdata : Callbacks} {index : Nat}

theorem items_full {item : Item} {rest : List Item} {outcomes : Nat → Outcome} {ret : Int}
    {slot : Slot} (full : maxInterfaces ≤ slot.interfaces.length) :
    enumerateItems pdata index (item :: rest) outcomes ret slot = (slot, .error (-erange)) := by
  rw [enumerateItems, if_pos full]

theorem items_ok {item : Item} {rest : List Item} {outcomes : Nat → Outcome} {ret ret' : Int}
    {slot : Slot} (room : slot.interfaces.length < maxInterfaces)
    (ok : (enumerateItem pdata index item (outcomes 0) ret slot).2 = .ok ret') :
    enumerateItems pdata index (item :: rest) outcomes ret slot =
      enumerateItems pdata index rest (fun call => outcomes (call + 1)) ret'
        (enumerateItem pdata index item (outcomes 0) ret slot).1 := by
  rw [enumerateItems, if_neg (by omega)]
  generalize enumerateItem pdata index item (outcomes 0) ret slot = turn at ok ⊢
  rcases turn with ⟨after, result⟩
  cases ok
  rfl

theorem items_error {item : Item} {rest : List Item} {outcomes : Nat → Outcome} {ret error : Int}
    {slot : Slot} (room : slot.interfaces.length < maxInterfaces)
    (failed : (enumerateItem pdata index item (outcomes 0) ret slot).2 = .error error) :
    enumerateItems pdata index (item :: rest) outcomes ret slot =
      ((enumerateItem pdata index item (outcomes 0) ret slot).1, .error error) := by
  rw [enumerateItems, if_neg (by omega)]
  generalize enumerateItem pdata index item (outcomes 0) ret slot = turn at failed ⊢
  rcases turn with ⟨after, result⟩
  cases failed
  rfl

end Loop

/-! The enumeration as far as its loop. -/

/-- The slot with its essential resources, which is what the enumeration starts from. -/
def Slot.ready : Slot :=
  ⟨true, false, true, [], ⟨{.i2cAdapter, .cardDetect, .reset}, []⟩, [], []⟩

theorem digits_small {number : Nat} (small : number < 4) : digits number = 1 := by
  have cases : number = 0 ∨ number = 1 ∨ number = 2 ∨ number = 3 := by omega
  rcases cases with rfl | rfl | rfl | rfl <;> decide

theorem essential_ready (pdata : Callbacks) {index : Nat} (inside : index < 3) :
    iotSlotRequestEssentialResources pdata index ⟨0, 0, 0⟩ { Slot.zero with pdev := true } =
      (Slot.ready, 0) := by
  have one := digits_small (show index < 4 by omega)
  simp [iotSlotRequestEssentialResources, labelFaults, resetLabel, cardDetectLabel, one,
    devmGpioRequestOne, Slot.device, Slot.zero, Slot.notes, Slot.acquire, Ledger.empty,
    Ledger.acquire, Slot.ready]

def Slot.enumerating : Slot :=
  { Slot.ready with
    cardPresent := true
    ledger := ⟨{.eeprom, .i2cAdapter, .cardDetect, .reset}, []⟩ }

section Enumerate
variable {pdata : Callbacks} {index : Nat} {card : Card}

theorem enumerate_absent (absent : card.present = false) :
    iotSlotEnumerate pdata index card Slot.ready = .ok (Slot.ready, 0) := by
  simp [absent, Slot.device, Slot.use, Slot.ready, Ledger.use]

theorem enumerate_unread (present : card.present = true)
    (unread : card.eeprom = false ∨ card.header = false) :
    iotSlotEnumerate pdata index card Slot.ready =
      .ok ({ Slot.ready with cardPresent := true }, card.directionOutput) := by
  rcases unread with unread | unread <;> cases eeprom : card.eeprom <;>
    simp_all [iotSlotEnumerate, eepromLoad, Slot.device, Slot.use, Slot.ready, Ledger.use,
      Slot.acquire, Slot.release, Ledger.acquire, Ledger.release]

structure Card.Read (card : Card) : Prop where
  present : card.present = true
  eeprom : card.eeprom = true
  header : card.header = true

theorem enumerate_error (read : card.Read) {fault : Fault} (loaded : card.loaded = .error fault) :
    iotSlotEnumerate pdata index card Slot.ready = .error fault := by
  simp [iotSlotEnumerate, eepromLoad, read.present, read.eeprom, read.header, loaded, Slot.device,
    Slot.use, Slot.ready]

theorem load_items (read : card.Read) {count : Int} {items : List Item}
    (loaded : card.loaded = .ok (count, items)) :
    eepromLoad card { Slot.ready with cardPresent := true } =
      .ok (Slot.enumerating, if 0 < count then some items else none) := by
  simp [eepromLoad, read.eeprom, read.header, loaded, Slot.use, Slot.ready, Ledger.use,
    Slot.acquire, Ledger.acquire, Slot.enumerating]

theorem detect_ready : Slot.ready.device.use .cardDetect = Slot.ready := by
  simp [Slot.device, Slot.use, Slot.ready, Ledger.use]

theorem detect_present : ({ Slot.ready with cardPresent := true } : Slot).use .cardDetect =
    { Slot.ready with cardPresent := true } := by
  simp [Slot.use, Slot.ready, Ledger.use]

theorem enumerating_uses {resource : Resource} (member : resource ∈ Slot.enumerating.ledger.held) :
    Slot.enumerating.use resource = Slot.enumerating := by
  rw [Slot.use, Ledger.use_held member]

theorem enumerate_empty (read : card.Read) {count : Int} {items : List Item}
    (loaded : card.loaded = .ok (count, items)) (none : count ≤ 0) :
    iotSlotEnumerate pdata index card Slot.ready =
      .ok (Slot.enumerating, card.directionOutput) := by
  simp only [iotSlotEnumerate, detect_ready, read.present, detect_present, load_items read loaded,
    Int.not_lt.mpr none]
  have held : Slot.enumerating.use .cardDetect = Slot.enumerating := enumerating_uses (by decide)
  simp [held]

/-- The loop over the items, and what follows it up to `unload_eeprom`. -/
def enumerated (pdata : Callbacks) (index : Nat) (card : Card) (items : List Item) : Slot × Int :=
  finishItems pdata
    (enumerateItems pdata index items card.outcomes card.directionOutput Slot.enumerating)

theorem enumerate_loaded (read : card.Read) {count : Int} {items : List Item}
    (loaded : card.loaded = .ok (count, items)) (some : 0 < count) :
    iotSlotEnumerate pdata index card Slot.ready =
      .ok ((eepromUnload (enumerated pdata index card items).1).use .cardDetect,
        (enumerated pdata index card items).2) := by
  have reset : Slot.enumerating.use .reset = Slot.enumerating := enumerating_uses (by decide)
  simp only [iotSlotEnumerate, detect_ready, read.present, detect_present, load_items read loaded,
    some, if_true, reset, enumerated]
  rfl

end Enumerate

end MangOH.SlotCore
