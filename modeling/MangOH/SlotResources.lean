import MangOH.SlotCore
import Mathlib.Algebra.Order.Group.Multiset
import Mathlib.Tactic.Abel

/-!
The resources of a slot over a probe and the remove that follows it. The
ledger says what is held; a fault of a call or a misuse stays in the record.
-/

namespace MangOH.SlotCore

open SlotEeprom

/-- Everything is given back, with no misuse and no fault of a call. -/
def Balanced (pdata : Callbacks) (probe : Probe) : Prop :=
  ∃ slot, lifetime pdata probe = .ok slot ∧ slot.ledger.Settled ∧ slot.callFaults = []

/-! What went wrong stays in the record. -/

def Slot.Spoiled (slot : Slot) : Prop := slot.ledger.misuses ≠ [] ∨ slot.callFaults ≠ []

section Spoiled
variable {slot : Slot} {resource : Resource} {pdata : Callbacks}

theorem suffix_spoils {Value : Type} {first second : List Value} (suffix : first <:+ second)
    (some : first ≠ []) : second ≠ [] := by
  rintro rfl
  exact some (List.suffix_nil.mp suffix)

theorem spoiled_release (spoiled : slot.Spoiled) : (slot.release resource).Spoiled := by
  rcases spoiled with misused | fault
  · exact .inl (suffix_spoils Ledger.misuses_release misused)
  · exact .inr fault

theorem spoiled_use (spoiled : slot.Spoiled) : (slot.use resource).Spoiled := by
  rcases spoiled with misused | fault
  · exact .inl (suffix_spoils Ledger.misuses_use misused)
  · exact .inr fault

theorem spoiled_acquire (spoiled : slot.Spoiled) : (slot.acquire resource).Spoiled := spoiled

theorem spoiled_notes {faults : List ContentFault} (spoiled : slot.Spoiled) :
    (slot.notes faults).Spoiled := spoiled

theorem spoiled_add {type : SlotInterface} (spoiled : slot.Spoiled) : (slot.add type).Spoiled :=
  spoiled

theorem spoiled_blame {fault : CallFault} : (slot.blame fault).Spoiled := .inr (by simp [Slot.blame])

theorem spoiled_device (spoiled : slot.Spoiled) : slot.device.Spoiled := by
  unfold Slot.device
  split
  · exact spoiled
  · exact spoiled_blame

theorem spoiled_whole {held : Bool} (spoiled : slot.Spoiled) : (slot.whole held).Spoiled := by
  unfold Slot.whole
  split
  · exact spoiled
  · exact spoiled_blame

theorem spoiled_configure {cfg : BitVec 8} {pin : Nat} (spoiled : slot.Spoiled) :
    (configure cfg pin slot).Spoiled := by
  unfold configure
  split
  · exact spoiled_use spoiled
  · exact spoiled

theorem spoiled_request {ret : Int} (spoiled : slot.Spoiled) :
    (devmGpioRequestOne resource ret slot).1.Spoiled := by
  unfold devmGpioRequestOne
  split
  · exact spoiled
  · split
    · exact spoiled
    · exact spoiled

theorem spoiled_pins {index : Nat} {item : Item} {outcome : Outcome} (pins : List Nat) :
    ∀ slot : Slot, slot.Spoiled → (addGpioPins index item outcome pins slot).1.Spoiled := by
  induction pins with
  | nil => exact fun slot spoiled => spoiled_whole spoiled
  | cons pin rest ih =>
      intro slot spoiled
      simp only [addGpioPins]
      split
      · exact spoiled_whole (spoiled_release (spoiled_request spoiled))
      · exact ih _ (spoiled_configure (spoiled_request spoiled))

theorem spoiled_i2c {item : Item} {outcome : Outcome} (spoiled : slot.Spoiled) :
    (iotSlotAddI2c item outcome slot).1.Spoiled := by
  have device := spoiled_device spoiled
  unfold iotSlotAddI2c
  simp only
  split
  · exact spoiled_use (spoiled_notes device)
  · exact spoiled_add (spoiled_acquire (spoiled_use (spoiled_notes device)))

theorem spoiled_spi {item : Item} {outcome : Outcome} (spoiled : slot.Spoiled) :
    (iotSlotAddSpi item outcome slot).1.Spoiled := by
  have device := spoiled_device spoiled
  unfold iotSlotAddSpi
  simp only
  split
  · exact device
  · split
    · exact spoiled_release (spoiled_notes (spoiled_acquire device))
    · exact spoiled_add (spoiled_acquire (spoiled_notes (spoiled_notes (spoiled_acquire device))))

theorem spoiled_optional {callback : Bool} {type : SlotInterface} {outcome : Outcome}
    (spoiled : slot.Spoiled) : (addOptional callback resource type outcome slot).1.Spoiled := by
  have device := spoiled_device spoiled
  unfold addOptional
  split
  · split
    · exact device
    · exact spoiled_add (spoiled_notes (spoiled_acquire device))
  · exact spoiled_add (spoiled_notes device)

theorem spoiled_item {index : Nat} {item : Item} {outcome : Outcome} {ret : Int}
    (spoiled : slot.Spoiled) : (enumerateItem pdata index item outcome ret slot).1.Spoiled := by
  unfold enumerateItem
  cases type : item.type <;> simp only [eepromIfType, type, checked_slot]
  case gpio => exact spoiled_pins _ _ (spoiled_device spoiled)
  case i2c => exact spoiled_i2c spoiled
  case spi => exact spoiled_spi spoiled
  case usb | clk | plat => exact spoiled
  case unsupported | last => exact spoiled
  all_goals exact spoiled_optional spoiled

theorem spoiled_items {index : Nat} (items : List Item) : ∀ {outcomes : Nat → Outcome} {ret : Int}
    {slot : Slot}, slot.Spoiled →
      (enumerateItems pdata index items outcomes ret slot).1.Spoiled := by
  induction items with
  | nil => exact fun spoiled => spoiled
  | cons item rest ih =>
      intro outcomes ret slot spoiled
      have turn : (enumerateItem pdata index item (outcomes 0) ret slot).1.Spoiled :=
        spoiled_item spoiled
      rw [enumerateItems]
      split
      · exact spoiled
      · split
        · rename_i ended
          rw [ended] at turn
          exact turn
        · rename_i ended
          rw [ended] at turn
          exact ih turn

theorem spoiled_unchecked {callback : Bool} (spoiled : slot.Spoiled) :
    (releaseUnchecked callback resource slot).Spoiled := by
  unfold releaseUnchecked
  split
  · exact spoiled_release spoiled
  · exact spoiled_blame

theorem spoiled_interface {place : Nat} {type : SlotInterface} (spoiled : slot.Spoiled) :
    (releaseInterface pdata place type slot).Spoiled := by
  cases type <;> simp only [releaseInterface]
  case gpio =>
    exact spoiled_release (spoiled_release (spoiled_release (spoiled_release spoiled)))
  case i2c => exact spoiled_release (spoiled_use spoiled)
  case spi => exact spoiled_release (spoiled_release spoiled)
  case uart =>
    split
    · exact spoiled_release spoiled
    · exact spoiled
  case usb | clk | platform => exact spoiled
  all_goals exact spoiled_unchecked spoiled

theorem spoiled_interfaces (types : List SlotInterface) : ∀ {place : Nat} {slot : Slot},
    slot.Spoiled → (releaseInterfaces pdata place types slot).Spoiled := by
  induction types with
  | nil => exact fun spoiled => spoiled
  | cons type rest ih => exact fun spoiled => ih (spoiled_interface spoiled)

/-- `iot_slot_release_resources` after its loop. -/
def releaseSlot (slot : Slot) : Slot :=
  let slot := if slot.i2cAdapter = true then { slot.release .i2cAdapter with i2cAdapter := false }
    else slot
  let slot := devmGpioFree .reset (devmGpioFree .cardDetect slot)
  { slot with pdev := false, cardPresent := false }

theorem release_resources (slot : Slot) : iotSlotReleaseResources pdata slot =
    releaseSlot (releaseInterfaces pdata 0 slot.interfaces slot.device) := rfl

theorem spoiled_slot (spoiled : slot.Spoiled) : (releaseSlot slot).Spoiled := by
  unfold releaseSlot
  split
  · exact spoiled_release (spoiled_release (spoiled_release spoiled))
  · exact spoiled_release (spoiled_release spoiled)

theorem spoiled_resources (spoiled : slot.Spoiled) :
    (iotSlotReleaseResources pdata slot).Spoiled :=
  spoiled_slot (spoiled_interfaces _ (spoiled_device spoiled))

theorem spoiled_remove (spoiled : slot.Spoiled) : (iotSlotRemove pdata slot).1.Spoiled := by
  unfold iotSlotRemove
  split
  · exact spoiled
  · exact spoiled_resources spoiled

theorem spoiled_devres (spoiled : slot.Spoiled) : (devresReleaseAll slot).Spoiled := spoiled

theorem spoiled_unload (spoiled : slot.Spoiled) : (eepromUnload slot).Spoiled :=
  spoiled_release (spoiled_use spoiled)

end Spoiled

/-! What the entries of the table stand for. -/

/-- A callback that is not set acquires nothing. -/
def optional (callback : Bool) (resource : Resource) : Multiset Resource :=
  if callback = true then {resource} else 0

def lines : Multiset Resource := {.gpio 0, .gpio 1, .gpio 2, .gpio 3}

def resources (pdata : Callbacks) (place : Nat) : SlotInterface → Multiset Resource
  | .gpio => lines
  | .i2c => {.i2cClient place}
  | .spi => {.spiDevice place, .spi}
  | .sdio => optional pdata.requestSdio .sdio
  | .adc => optional pdata.requestAdc .adc
  | .pcm => optional pdata.requestPcm .pcm
  | .uart => optional pdata.requestUart .uart
  | .usb | .clk | .platform => 0

def stock (pdata : Callbacks) : Nat → List SlotInterface → Multiset Resource
  | _, [] => 0
  | place, type :: rest => resources pdata place type + stock pdata (place + 1) rest

theorem stock_append (pdata : Callbacks) (first second : List SlotInterface) : ∀ place : Nat,
    stock pdata place (first ++ second) =
      stock pdata place first + stock pdata (place + first.length) second := by
  induction first with
  | nil => exact fun place => by simp [stock]
  | cons type rest ih =>
      intro place
      have shift : place + 1 + rest.length = place + (rest.length + 1) := by omega
      rw [List.cons_append, stock, stock, ih, List.length_cons, shift, Multiset.add_assoc]

/-- What the enumeration holds besides the interfaces. -/
def base : Multiset Resource := {.eeprom, .i2cAdapter, .cardDetect, .reset}

/-- A slot that holds what its table says, with nothing gone wrong. -/
structure Stocked (pdata : Callbacks) (slot : Slot) : Prop where
  pdev : slot.pdev = true
  adapter : slot.i2cAdapter = true
  held : slot.ledger.held = stock pdata 0 slot.interfaces + base
  misuses : slot.ledger.misuses = []
  calls : slot.callFaults = []

/-! The requirements on the outcomes of one interface, and of all. -/

def EepromInterface.calls : EepromInterface → Bool
  | .usb | .clk | .plat | .unsupported | .last => false
  | _ => true

/-- `taken` says whether the lines belong to another interface. -/
def ItemServed (pdata : Callbacks) (type : EepromInterface) (outcome : Outcome) (taken : Bool) :
    Prop :=
  match type with
  | .gpio => taken = false ∧ ∀ pin < 4, outcome.gpioRequest pin = 0
  | .i2c => outcome.i2cNewDevice = true
  | .spi => outcome.requestSpi = 0 ∧ outcome.spiNewDevice = true
  | .sdio => pdata.requestSdio = true → outcome.request = 0
  | .adc => pdata.requestAdc = true → outcome.request = 0
  | .pcm => pdata.requestPcm = true → outcome.request = 0
  | .uart => pdata.requestUart = true → outcome.request = 0
  | _ => True

def Served (pdata : Callbacks) : List Item → (Nat → Outcome) → Nat → Bool → Prop
  | [], _, _, _ => True
  | item :: rest, outcomes, count, taken =>
      count < maxInterfaces ∧ ItemServed pdata item.type (outcomes 0) taken ∧
        Served pdata rest (fun call => outcomes (call + 1)) (count + item.type.entries.length)
          (taken || decide (item.type = .gpio))

section Adding
variable {pdata : Callbacks} {index : Nat} {item : Item} {outcome : Outcome} {slot : Slot}

theorem stocked_device (stocked : Stocked pdata slot) : slot.device = slot := if_pos stocked.pdev

theorem stocked_notes {faults : List ContentFault} (stocked : Stocked pdata slot) :
    Stocked pdata (slot.notes faults) :=
  ⟨stocked.pdev, stocked.adapter, stocked.held, stocked.misuses, stocked.calls⟩

/-- A slot that adds the resources of one more entry stays stocked. -/
theorem stocked_add {type : SlotInterface} (stocked : Stocked pdata slot) {ledger : Ledger Resource}
    {faults : List ContentFault}
    (held : ledger.held = resources pdata slot.interfaces.length type + slot.ledger.held)
    (misuses : ledger.misuses = []) :
    Stocked pdata { slot with
      interfaces := slot.interfaces ++ [type], ledger := ledger, contentFaults := faults } := by
  constructor
  · exact stocked.pdev
  · exact stocked.adapter
  · rw [held, stocked.held, stock_append, Nat.zero_add]
    simp only [stock, add_zero]
    abel
  · exact misuses
  · exact stocked.calls

theorem adapter_held (stocked : Stocked pdata slot) : .i2cAdapter ∈ slot.ledger.held := by
  rw [stocked.held]
  exact Multiset.mem_add.mpr (.inr (by decide))

theorem stocked_use (stocked : Stocked pdata slot) : slot.use .i2cAdapter = slot := by
  rw [Slot.use, Ledger.use_held (adapter_held stocked)]

theorem stocked_i2c (stocked : Stocked pdata slot) (served : outcome.i2cNewDevice = true) :
    (iotSlotAddI2c item outcome slot).2 = 0 ∧ Stocked pdata (iotSlotAddI2c item outcome slot).1 := by
  unfold iotSlotAddI2c
  simp only [stocked_device stocked, served, stocked_use (stocked_notes stocked)]
  exact ⟨rfl, stocked_add stocked rfl stocked.misuses⟩

theorem stocked_spi (stocked : Stocked pdata slot) (request : outcome.requestSpi = 0)
    (device : outcome.spiNewDevice = true) :
    (iotSlotAddSpi item outcome slot).2 = 0 ∧ Stocked pdata (iotSlotAddSpi item outcome slot).1 := by
  unfold iotSlotAddSpi
  simp only [stocked_device stocked, request, device]
  exact ⟨rfl, stocked_add stocked (by simp [resources, Slot.acquire]) stocked.misuses⟩

/-- An interface that holds nothing of its own. -/
theorem stocked_plain {type : SlotInterface} {ret : Int} (stocked : Stocked pdata slot)
    (own : resources pdata slot.interfaces.length type = 0) :
    Stocked pdata (addPlain type ret slot).1 := by
  apply stocked_add stocked _ stocked.misuses
  rw [own, Multiset.zero_add]

theorem stocked_optional {callback : Bool} {resource : Resource} {type : SlotInterface}
    (stocked : Stocked pdata slot) (served : callback = true → outcome.request = 0)
    (own : resources pdata slot.interfaces.length type = optional callback resource) :
    (addOptional callback resource type outcome slot).2 = 0 ∧
      Stocked pdata (addOptional callback resource type outcome slot).1 := by
  unfold addOptional
  simp only [stocked_device stocked]
  cases callback with
  | false => exact ⟨rfl, @stocked_plain _ _ type 0 stocked own⟩
  | true =>
      simp only [served rfl]
      exact ⟨rfl, stocked_add stocked (by rw [own]; rfl) stocked.misuses⟩

/-- The lines are held in turn, and none of them is misused. -/
theorem pin_granted {pin : Nat} {rest : List Nat} (served : outcome.gpioRequest pin = 0)
    (free : .gpio pin ∉ slot.ledger.held) :
    ∃ faults, addGpioPins index item outcome (pin :: rest) slot =
      addGpioPins index item outcome rest ((slot.notes faults).acquire (.gpio pin)) := by
  refine ⟨pinFaults index pin item slot, ?_⟩
  rw [pins_granted served free]
  congr 1
  unfold configure
  split
  · rw [Slot.use, Ledger.use_held (by simp [Slot.acquire])]
  · rfl

theorem pins_served (pins : List Nat) (distinct : pins.Nodup)
    (served : ∀ pin ∈ pins, outcome.gpioRequest pin = 0) : ∀ slot : Slot,
    (∀ pin ∈ pins, .gpio pin ∉ slot.ledger.held) → ∃ faults,
      addGpioPins index item outcome pins slot =
        ((({ slot with
          ledger := ⟨(pins.map Resource.gpio : Multiset Resource) + slot.ledger.held,
            slot.ledger.misuses⟩
          contentFaults := faults } : Slot).add .gpio).whole true, 0) := by
  induction pins with
  | nil => exact fun slot _ => ⟨slot.contentFaults ++ slot.entry, by simp [addGpioPins, Slot.notes]⟩
  | cons pin rest ih =>
      intro slot free
      rcases @pin_granted index item outcome slot pin rest (served pin List.mem_cons_self)
        (free pin List.mem_cons_self) with ⟨faults, turn⟩
      rw [turn]
      rcases ih (List.nodup_cons.mp distinct).2
        (fun other member => served other (List.mem_cons_of_mem _ member))
        ((slot.notes faults).acquire (.gpio pin)) (fun other member => by
          have different : other ≠ pin := fun same => (List.nodup_cons.mp distinct).1 (same ▸ member)
          simpa [Slot.acquire, different] using free other (List.mem_cons_of_mem _ member))
        with ⟨faults', whole⟩
      have order : (((pin :: rest).map Resource.gpio : List Resource) : Multiset Resource) +
          slot.ledger.held = (rest.map Resource.gpio : List Resource) +
            (Resource.gpio pin ::ₘ slot.ledger.held) := by
        rw [List.map_cons, ← Multiset.cons_coe, Multiset.cons_add, Multiset.add_cons]
      refine ⟨faults', ?_⟩
      rw [whole, order]
      rfl

theorem stocked_gpio (stocked : Stocked pdata slot) (served : ∀ pin < 4, outcome.gpioRequest pin = 0)
    (free : ∀ pin, .gpio pin ∉ slot.ledger.held) :
    (iotSlotAddGpio index item outcome slot).2 = 0 ∧
      Stocked pdata (iotSlotAddGpio index item outcome slot).1 := by
  rcases @pins_served index item outcome (List.range 4) List.nodup_range
    (fun pin member => served pin (List.mem_range.mp member)) slot (fun pin _ => free pin)
    with ⟨faults, whole⟩
  rw [iotSlotAddGpio, stocked_device stocked, whole]
  have all : ∀ slot : Slot, (∀ pin < 4, .gpio pin ∈ slot.ledger.held) → slot.whole true = slot := by
    intro slot held
    apply if_pos
    simp [Slot.gpios, List.range_succ, held 0, held 1, held 2, held 3, List.replicate]
  rw [all]
  · exact ⟨rfl, stocked_add stocked rfl stocked.misuses⟩
  · intro pin small
    apply Multiset.mem_add.mpr
    exact .inl (by simpa using small)

/-- An interface that is to be added without one of its lines is blamed for it. -/
theorem pins_missing {pin : Nat} (small : pin < 4) (pins : List Nat) (absent : pin ∉ pins) :
    ∀ slot : Slot, .gpio pin ∉ slot.ledger.held →
      (addGpioPins index item outcome pins slot).2 = 0 →
        (addGpioPins index item outcome pins slot).1.Spoiled := by
  induction pins with
  | nil =>
      intro slot free _
      have partly : ((slot.notes slot.entry).add .gpio).gpios ≠ List.replicate 4 true := by
        intro full
        have lacking : ((slot.notes slot.entry).add .gpio).gpios[pin]? = some false := by
          simp [Slot.gpios, Slot.add, small, free]
        rw [full, List.getElem?_replicate_of_lt small] at lacking
        cases lacking
      rw [addGpioPins, Slot.whole, if_neg partly]
      exact spoiled_blame
  | cons first rest ih =>
      intro slot free zero
      rw [List.mem_cons, not_or] at absent
      simp only [addGpioPins] at zero ⊢
      split at zero
      · simp [eacces] at zero
      · rename_i going
        rw [if_neg going]
        apply ih absent.2 _ _ zero
        have other : Resource.gpio pin ≠ .gpio first := fun same => absent.1 (by cases same; rfl)
        rw [configure_held, ← Multiset.count_eq_zero, request_frame other]
        exact Multiset.count_eq_zero.mpr free

theorem first_skipped (failed : outcome.gpioRequest 0 ≠ 0) (free : .gpio 0 ∉ slot.ledger.held) :
    ∃ after : Slot, after.ledger.held = slot.ledger.held ∧
      addGpioPins index item outcome (List.range 4) slot =
        addGpioPins index item outcome [1, 2, 3] after := by
  have missed : devmGpioRequestOne (.gpio 0) (outcome.gpioRequest 0)
      (slot.notes (pinFaults index 0 item slot)) =
        (slot.notes (pinFaults index 0 item slot), outcome.gpioRequest 0) := by
    rw [devmGpioRequestOne, if_neg (by exact free), if_pos failed]
  refine ⟨configure (eepromIfGpioCfg 0 item).1 0 (slot.notes (pinFaults index 0 item slot)), ?_, ?_⟩
  · exact configure_held
  · rw [show List.range 4 = [0, 1, 2, 3] from rfl, addGpioPins]
    simp only [missed, Nat.lt_irrefl, and_false, if_false]

/-- A GPIO interface that does not get all lines fails, or is blamed for the first one. -/
theorem gpio_unserved (clear : .gpio 0 ∈ slot.ledger.held → .gpio 1 ∈ slot.ledger.held)
    (refused : .gpio 1 ∈ slot.ledger.held ∨ ∃ pin < 4, outcome.gpioRequest pin ≠ 0) :
    (iotSlotAddGpio index item outcome slot).2 ≠ 0 ∨
      (iotSlotAddGpio index item outcome slot).1.Spoiled := by
  have ends : ∀ pin, 0 < pin → pin < 4 →
      .gpio pin ∈ slot.ledger.held ∨ outcome.gpioRequest pin ≠ 0 →
        (iotSlotAddGpio index item outcome slot).2 ≠ 0 := by
    intro pin later small refused
    rw [iotSlotAddGpio, pins_refused later _ (List.mem_range.mpr small) _ (by simpa using refused)]
    decide
  by_cases held : .gpio 1 ∈ slot.ledger.held
  · exact .inl (ends 1 (by decide) (by decide) (.inl held))
  rcases refused with taken | ⟨pin, small, failed⟩
  · exact absurd taken held
  by_cases first : pin = 0
  · subst first
    have free : Resource.gpio 0 ∉ slot.device.ledger.held := by
      rw [device_ledger]
      exact fun member => held (clear member)
    rcases @first_skipped index item outcome slot.device failed free with ⟨after, same, skipped⟩
    by_cases zero : (iotSlotAddGpio index item outcome slot).2 = 0
    · right
      rw [iotSlotAddGpio, skipped] at zero ⊢
      exact pins_missing (show 0 < 4 by decide) _ (by decide) _ (same ▸ free) zero
    · exact .inl zero
  · exact .inl (ends pin (Nat.pos_of_ne_zero first) small (.inr failed))

end Adding

/-! One turn of the loop, and the loop. -/

section Turns
variable {pdata : Callbacks} {index : Nat} {item : Item} {outcome : Outcome} {slot : Slot}

theorem lines_stock (types : List SlotInterface) : ∀ {place : Nat} {pin : Nat},
    .gpio pin ∈ stock pdata place types ↔ .gpio ∈ types ∧ pin < 4 := by
  induction types with
  | nil => simp [stock]
  | cons type rest ih =>
      intro place pin
      rw [stock, Multiset.mem_add, ih, List.mem_cons, or_and_right]
      apply or_congr_left
      cases type <;> simp only [resources, optional]
      case gpio =>
        simp [lines]
        omega
      case sdio | adc | pcm | uart => split <;> simp
      all_goals simp

theorem lines_held (stocked : Stocked pdata slot) {pin : Nat} :
    .gpio pin ∈ slot.ledger.held ↔ .gpio ∈ slot.interfaces ∧ pin < 4 := by
  rw [stocked.held, Multiset.mem_add, lines_stock]
  simp [base]

def taken (slot : Slot) : Bool := decide (.gpio ∈ slot.interfaces)

theorem turn_stocked {ret : Int} (stocked : Stocked pdata slot)
    (served : ItemServed pdata item.type outcome (taken slot)) :
    (enumerateItem pdata index item outcome ret slot).2 =
        .ok (if item.type.calls = true then 0 else ret) ∧
      Stocked pdata (enumerateItem pdata index item outcome ret slot).1 := by
  have noted : Stocked pdata (slot.notes (eepromIfType item).2) := stocked_notes stocked
  have added : ∀ {added : Slot × Int}, added.2 = 0 ∧ Stocked pdata added.1 →
      (checked added).2 = .ok 0 ∧ Stocked pdata (checked added).1 :=
    fun both => ⟨checked_zero both.1, checked_slot _ ▸ both.2⟩
  unfold enumerateItem
  cases type : item.type <;> rw [type] at served <;>
    simp only [show (eepromIfType item).1 = item.type from rfl, type]
  case gpio =>
    have free : ∀ pin, .gpio pin ∉ slot.ledger.held := fun pin member => by
      simpa [taken, ((lines_held stocked).mp member).1] using served.1
    exact added (stocked_gpio noted served.2 free)
  case i2c => exact added (stocked_i2c noted served)
  case spi => exact added (stocked_spi noted served.1 served.2)
  case usb | clk | plat => exact ⟨rfl, stocked_plain noted rfl⟩
  case unsupported | last => exact ⟨rfl, noted⟩
  all_goals exact added (stocked_optional noted served rfl)

theorem failed_or_spoiled {added : Slot × Int} (unserved : added.2 ≠ 0 ∨ added.1.Spoiled) :
    (∃ error, (checked added).2 = .error error ∧ error ≠ 0) ∨ (checked added).1.Spoiled := by
  rcases unserved with failed | spoiled
  · exact .inl ⟨added.2, checked_failed failed, failed⟩
  · exact .inr (by simpa using spoiled)

theorem optional_refused {callback : Bool} {resource : Resource} {type : SlotInterface}
    (unserved : ¬ (callback = true → outcome.request = 0)) :
    (addOptional callback resource type outcome slot).2 ≠ 0 := by
  rw [Classical.not_imp] at unserved
  rw [addOptional, if_pos unserved.1, if_pos unserved.2]
  exact (by decide : -enodev ≠ 0)

theorem turn_unserved {ret : Int} (stocked : Stocked pdata slot)
    (unserved : ¬ ItemServed pdata item.type outcome (taken slot)) :
    (∃ error, (enumerateItem pdata index item outcome ret slot).2 = .error error ∧ error ≠ 0) ∨
      (enumerateItem pdata index item outcome ret slot).1.Spoiled := by
  unfold enumerateItem
  cases type : item.type <;> rw [type] at unserved <;>
    simp only [show (eepromIfType item).1 = item.type from rfl, type]
  case gpio =>
    apply failed_or_spoiled
    have lined : ∀ {pin}, .gpio pin ∈ (slot.notes (eepromIfType item).2).ledger.held ↔
        .gpio ∈ slot.interfaces ∧ pin < 4 := lines_held stocked
    apply gpio_unserved
    · exact fun member => lined.mpr ⟨(lined.mp member).1, by decide⟩
    · by_cases gpio : .gpio ∈ slot.interfaces
      · exact .inl (lined.mpr ⟨gpio, by decide⟩)
      · right
        by_contra none
        apply unserved
        refine ⟨by simp [taken, gpio], fun pin small => ?_⟩
        by_contra failed
        exact none ⟨pin, small, failed⟩
  case i2c =>
    apply failed_or_spoiled
    rw [ItemServed, Bool.not_eq_true] at unserved
    exact .inl (by simp [iotSlotAddI2c, unserved, einval])
  case spi =>
    apply failed_or_spoiled
    by_cases request : outcome.requestSpi = 0
    · have device : outcome.spiNewDevice = false := by simpa [ItemServed, request] using unserved
      exact .inl (by simp [iotSlotAddSpi, request, device, enodev])
    · exact .inl (by simp [iotSlotAddSpi, request, enodev])
  case usb | clk | plat => exact absurd trivial unserved
  case unsupported | last => exact absurd trivial unserved
  all_goals exact failed_or_spoiled (.inl (optional_refused unserved))

end Turns

section Runs
variable {pdata : Callbacks} {index : Nat}

/-- Where the turn was not refused, the entries and the lines are those that the
requirements go on with. -/
theorem turn_entered {item : Item} {outcome : Outcome} {ret ret' : Int} {slot : Slot}
    (ok : (enumerateItem pdata index item outcome ret slot).2 = .ok ret') :
    (enumerateItem pdata index item outcome ret slot).1.interfaces =
        slot.interfaces ++ item.type.entries ∧
      taken (enumerateItem pdata index item outcome ret slot).1 =
        (taken slot || decide (item.type = .gpio)) := by
  have entered := item_entered ok
  refine ⟨entered, ?_⟩
  unfold taken
  rw [entered, ← Bool.decide_or, decide_eq_decide, List.mem_append]
  apply or_congr_right
  cases item.type <;> simp [EepromInterface.entries]

/-- An interface that a function was called for sets `ret`. -/
def resultOf (items : List Item) (ret : Int) : Int :=
  if (items.any fun item => item.type.calls) = true then 0 else ret

theorem items_stocked (items : List Item) : ∀ {outcomes : Nat → Outcome} {ret : Int} {slot : Slot},
    Stocked pdata slot → Served pdata items outcomes slot.interfaces.length (taken slot) →
      (enumerateItems pdata index items outcomes ret slot).2 = .ok (resultOf items ret) ∧
        Stocked pdata (enumerateItems pdata index items outcomes ret slot).1 ∧
        (enumerateItems pdata index items outcomes ret slot).1.interfaces =
          slot.interfaces ++ items.flatMap fun item => item.type.entries := by
  induction items with
  | nil => exact fun stocked _ => ⟨rfl, stocked, (List.append_nil _).symm⟩
  | cons item rest ih =>
      intro outcomes ret slot stocked served
      have turn := @turn_stocked pdata index item (outcomes 0) slot ret stocked served.2.1
      have entered := turn_entered turn.1
      have tail := served.2.2
      rw [← List.length_append, ← entered.1, ← entered.2] at tail
      rw [items_ok served.1 turn.1]
      rcases ih turn.2 tail with ⟨ok, stocked', entries⟩
      refine ⟨ok.trans ?_, stocked', ?_⟩
      · unfold resultOf
        rw [List.any_cons]
        cases item.type.calls <;> simp
      · rw [entries, entered.1, List.append_assoc]
        rfl

theorem items_unserved (items : List Item) : ∀ {outcomes : Nat → Outcome} {ret : Int} {slot : Slot},
    Stocked pdata slot → ¬ Served pdata items outcomes slot.interfaces.length (taken slot) →
      (∃ error, (enumerateItems pdata index items outcomes ret slot).2 = .error error ∧ error ≠ 0) ∨
        (enumerateItems pdata index items outcomes ret slot).1.Spoiled := by
  induction items with
  | nil => exact fun _ unserved => absurd trivial unserved
  | cons item rest ih =>
      intro outcomes ret slot stocked unserved
      by_cases room : slot.interfaces.length < maxInterfaces
      · by_cases first : ItemServed pdata item.type (outcomes 0) (taken slot)
        · have turn := @turn_stocked pdata index item (outcomes 0) slot ret stocked first
          have entered := turn_entered turn.1
          rw [items_ok room turn.1]
          apply ih turn.2
          rw [entered.1, entered.2, List.length_append]
          exact fun tail => unserved ⟨room, first, tail⟩
        · have turn := @turn_unserved pdata index item (outcomes 0) slot ret stocked first
          cases result : (enumerateItem pdata index item (outcomes 0) ret slot).2 with
          | error error =>
              rw [items_error room result]
              rcases turn with ⟨error', failed, nonzero⟩ | spoiled
              · rw [result] at failed
                cases failed
                exact .inl ⟨error, rfl, nonzero⟩
              · exact .inr spoiled
          | ok ret' =>
              rw [items_ok room result]
              rcases turn with ⟨error', failed, _⟩ | spoiled
              · rw [result] at failed
                cases failed
              · exact .inr (spoiled_items rest spoiled)
      · rw [items_full (by omega)]
        exact .inl ⟨-erange, rfl, by decide⟩

end Runs

/-! The release of the interfaces. -/

section Release
variable {pdata : Callbacks}

/-- A resource that no interface releases. -/
def Resource.kept (pdata : Callbacks) : Resource → Bool
  | .reset | .cardDetect | .i2cAdapter | .eeprom => true
  | .uart => !pdata.releaseUart
  | _ => false

theorem interface_frame {other : Resource} (kept : other.kept pdata = true) {place : Nat}
    {type : SlotInterface} {slot : Slot} :
    (releaseInterface pdata place type slot).ledger.held.count other =
      slot.ledger.held.count other := by
  have free : ∀ {resource : Resource} {slot : Slot}, other ≠ resource →
      (slot.release resource).ledger.held.count other = slot.ledger.held.count other :=
    fun different => Ledger.count_release different
  have own : ∀ {resource : Resource}, resource.kept pdata = false → other ≠ resource := by
    rintro resource lost rfl
    rw [kept] at lost
    cases lost
  have unchecked : ∀ {callback : Bool} {resource : Resource}, resource.kept pdata = false →
      (releaseUnchecked callback resource slot).ledger.held.count other =
        slot.ledger.held.count other := by
    intro callback resource lost
    unfold releaseUnchecked
    split
    · exact free (own lost)
    · rfl
  cases type <;> simp only [releaseInterface]
  case gpio =>
    calc _ = _ := free (@own (.gpio 3) rfl)
      _ = _ := free (@own (.gpio 2) rfl)
      _ = _ := free (@own (.gpio 1) rfl)
      _ = _ := free (@own (.gpio 0) rfl)
  case i2c =>
    rw [free (own rfl), Slot.use, Ledger.use_keeps]
  case spi => rw [free (own rfl), free (own rfl)]
  case uart =>
    split
    · rename_i callback
      exact free (own (by simp [Resource.kept, callback]))
    · rfl
  case sdio | adc | pcm => exact unchecked rfl

theorem interfaces_frame {other : Resource} (kept : other.kept pdata = true)
    (types : List SlotInterface) : ∀ {place : Nat} {slot : Slot},
      (releaseInterfaces pdata place types slot).ledger.held.count other =
        slot.ledger.held.count other := by
  induction types with
  | nil => exact rfl
  | cons type rest ih => exact ih.trans (interface_frame kept)

theorem slot_frame {other : Resource} (adapter : other ≠ .i2cAdapter) (detect : other ≠ .cardDetect)
    (reset : other ≠ .reset) {slot : Slot} :
    (releaseSlot slot).ledger.held.count other = slot.ledger.held.count other := by
  unfold releaseSlot
  split
  · exact (Ledger.count_release reset).trans ((Ledger.count_release detect).trans
      (Ledger.count_release adapter))
  · exact (Ledger.count_release reset).trans (Ledger.count_release detect)

theorem detect_released (slot : Slot) : (releaseSlot slot).ledger.held.count .cardDetect =
    slot.ledger.held.count .cardDetect - 1 := by
  unfold releaseSlot
  split
  · refine (Ledger.count_release (by decide)).trans (Ledger.count_release_self.trans ?_)
    exact congrArg (· - 1) (Ledger.count_release (by decide))
  · exact (Ledger.count_release (by decide)).trans Ledger.count_release_self

theorem items_detect {index : Nat} (items : List Item) : ∀ {outcomes : Nat → Outcome} {ret : Int}
    {slot : Slot}, (enumerateItems pdata index items outcomes ret slot).1.ledger.held.count
      .cardDetect = slot.ledger.held.count .cardDetect := by
  induction items with
  | nil => exact rfl
  | cons item rest ih =>
      intro outcomes ret slot
      have foreign : Resource.cardDetect.of item.type = false := by cases item.type <;> rfl
      by_cases room : slot.interfaces.length < maxInterfaces
      · cases result : (enumerateItem pdata index item (outcomes 0) ret slot).2 with
        | error error =>
            rw [items_error room result]
            exact item_frame foreign
        | ok ret' =>
            rw [items_ok room result]
            exact ih.trans (item_frame foreign)
      · rw [items_full (by omega)]

/-- The failed enumeration goes on to the card-detect line that it has freed. -/
theorem failed_spoiled {index : Nat} {card : Card} {items : List Item} {error : Int}
    (failed : (enumerateItems pdata index items card.outcomes card.directionOutput
      Slot.enumerating).2 = .error error) :
    ((eepromUnload (enumerated pdata index card items).1).use .cardDetect).Spoiled ∧
      (enumerated pdata index card items).2 = error := by
  have detect := @items_detect pdata index items card.outcomes card.directionOutput Slot.enumerating
  unfold enumerated
  generalize enumerateItems pdata index items _ _ _ = ended at failed detect ⊢
  rcases ended with ⟨slot, result⟩
  cases failed
  refine ⟨.inl ?_, rfl⟩
  have one : slot.ledger.held.count .cardDetect = 1 := detect.trans (by decide)
  have none : Resource.cardDetect ∉ (eepromUnload (iotSlotReleaseResources pdata slot)).ledger.held := by
    rw [← Multiset.count_eq_zero]
    refine (Ledger.count_release (by decide)).trans ?_
    rw [Slot.use, Ledger.use_keeps, release_resources, detect_released, interfaces_frame rfl,
      device_ledger, one]
  have misused := Ledger.use_absent none
  intro clean
  exact List.cons_ne_nil _ _ (misused.symm.trans clean)

/-! Callbacks that come in pairs. -/

/-- What the release of an interface is a counterpart of. The callback for a UART may be
missing, and both are then. -/
def Paired (pdata : Callbacks) : SlotInterface → Prop
  | .sdio => pdata.requestSdio = true ∧ pdata.releaseSdio = true
  | .adc => pdata.requestAdc = true ∧ pdata.releaseAdc = true
  | .pcm => pdata.requestPcm = true ∧ pdata.releasePcm = true
  | .uart => pdata.requestUart = pdata.releaseUart
  | _ => True

theorem unchecked_paired {request release : Bool} {resource : Resource} {rest : Multiset Resource}
    {slot : Slot} (paired : request = true ∧ release = true)
    (ledger : slot.ledger = ⟨optional request resource + rest, []⟩) :
    releaseUnchecked release resource slot = { slot with ledger := ⟨rest, []⟩ } := by
  have held : slot.ledger.held = resource ::ₘ rest := by
    rw [ledger, paired.1]
    rfl
  rw [releaseUnchecked, if_pos paired.2, Slot.release, Ledger.release_of_held held, ledger]

theorem interface_paired {place : Nat} {type : SlotInterface} {rest : Multiset Resource} {slot : Slot}
    (paired : Paired pdata type) (adapter : .i2cAdapter ∈ rest)
    (ledger : slot.ledger = ⟨resources pdata place type + rest, []⟩) :
    releaseInterface pdata place type slot = { slot with ledger := ⟨rest, []⟩ } := by
  cases type <;> simp only [releaseInterface]
  case gpio =>
    have held : slot.ledger.held =
        .gpio 0 ::ₘ .gpio 1 ::ₘ .gpio 2 ::ₘ .gpio 3 ::ₘ rest := by
      rw [ledger]
      simp [resources, lines]
    simp only [List.range_succ, List.range_zero, List.nil_append, List.cons_append, List.foldl_cons,
      List.foldl_nil, devmGpioFree, Slot.release]
    rw [Ledger.release_of_held held, Ledger.release_cons, Ledger.release_cons, Ledger.release_cons,
      ledger]
  case i2c =>
    have used : slot.use .i2cAdapter = slot := by
      rw [Slot.use, Ledger.use_held]
      rw [ledger]
      exact Multiset.mem_add.mpr (.inr adapter)
    rw [used, Slot.release, Ledger.release_of_held (by rw [ledger]; rfl), ledger]
  case spi =>
    have held : slot.ledger.held = .spiDevice place ::ₘ .spi ::ₘ rest := by
      rw [ledger]
      simp [resources]
    simp only [Slot.release]
    rw [Ledger.release_of_held held, Ledger.release_cons, ledger]
  case sdio => exact unchecked_paired paired ledger
  case adc => exact unchecked_paired paired ledger
  case pcm => exact unchecked_paired paired ledger
  case uart =>
    cases callback : pdata.releaseUart with
    | false =>
        have none : resources pdata place .uart = 0 := by
          simp [resources, optional, show pdata.requestUart = false from paired.trans callback]
        rw [none, Multiset.zero_add] at ledger
        rw [if_neg (by simp), ← ledger]
    | true =>
        have held : slot.ledger.held = .uart ::ₘ rest := by
          rw [ledger]
          simp [resources, optional, show pdata.requestUart = true from paired.trans callback]
        rw [if_pos rfl, Slot.release, Ledger.release_of_held held, ledger]
  all_goals
    rw [show resources pdata place _ = 0 from rfl, Multiset.zero_add] at ledger
    rw [← ledger]

theorem interfaces_paired {rest : Multiset Resource} (adapter : .i2cAdapter ∈ rest)
    (types : List SlotInterface) (paired : ∀ type ∈ types, Paired pdata type) : ∀ {place : Nat}
    {slot : Slot}, slot.ledger = ⟨stock pdata place types + rest, []⟩ →
      releaseInterfaces pdata place types slot = { slot with ledger := ⟨rest, []⟩ } := by
  induction types with
  | nil =>
      intro place slot ledger
      rw [stock, Multiset.zero_add] at ledger
      rw [releaseInterfaces, ← ledger]
  | cons type others ih =>
      intro place slot ledger
      rw [stock, Multiset.add_assoc] at ledger
      rw [releaseInterfaces, interface_paired (paired type List.mem_cons_self)
        (Multiset.mem_add.mpr (.inr adapter)) ledger]
      exact ih (fun other member => paired other (List.mem_cons_of_mem _ member)) rfl

/-! Callbacks that do not. -/

/-- Whether the callback that acquires a resource is there. -/
def Resource.wanted (pdata : Callbacks) : Resource → Bool
  | .sdio => pdata.requestSdio
  | .adc => pdata.requestAdc
  | .pcm => pdata.requestPcm
  | .uart => pdata.requestUart
  | _ => true

theorem optional_wanted {callback : Bool} {resource other : Resource}
    (wanted : resource.wanted pdata = callback) (member : other ∈ optional callback resource) :
    other.wanted pdata = true := by
  cases callback with
  | false => cases member
  | true =>
      rw [optional, if_pos rfl, Multiset.mem_singleton] at member
      exact member ▸ wanted

theorem stock_wanted {resource : Resource} (types : List SlotInterface) : ∀ {place : Nat},
    resource ∈ stock pdata place types → resource.wanted pdata = true := by
  induction types with
  | nil => exact fun member => by cases member
  | cons type rest ih =>
      intro place member
      rw [stock, Multiset.mem_add] at member
      rcases member with own | other
      · cases type <;> simp only [resources] at own
        case gpio =>
          simp only [lines, Multiset.insert_eq_cons, Multiset.mem_cons, Multiset.mem_singleton] at own
          rcases own with rfl | rfl | rfl | rfl <;> rfl
        case i2c =>
          rw [Multiset.mem_singleton] at own
          exact own ▸ rfl
        case spi =>
          simp only [Multiset.insert_eq_cons, Multiset.mem_cons, Multiset.mem_singleton] at own
          rcases own with rfl | rfl <;> rfl
        case usb | clk | platform => cases own
        case sdio => exact @optional_wanted pdata _ .sdio _ rfl own
        case adc => exact @optional_wanted pdata _ .adc _ rfl own
        case pcm => exact @optional_wanted pdata _ .pcm _ rfl own
        case uart => exact @optional_wanted pdata _ .uart _ rfl own
      · exact ih other

/-- What a slot has besides the interfaces when it is removed. -/
def essentials : Multiset Resource := {.i2cAdapter, .cardDetect, .reset}

theorem unwanted_absent {resource : Resource} {types : List SlotInterface} {place : Nat}
    (unwanted : resource.wanted pdata = false) :
    resource ∉ stock pdata place types + essentials := by
  intro member
  rcases Multiset.mem_add.mp member with stocked | essential
  · rw [stock_wanted types stocked] at unwanted
    cases unwanted
  · simp only [essentials, Multiset.insert_eq_cons, Multiset.mem_cons,
      Multiset.mem_singleton] at essential
    rcases essential with rfl | rfl | rfl <;> cases unwanted

theorem release_unheld {resource : Resource} {slot : Slot} (absent : resource ∉ slot.ledger.held) :
    (slot.release resource).Spoiled := by
  left
  intro clean
  exact List.cons_ne_nil _ _ ((Ledger.release_absent absent).symm.trans clean)

theorem unchecked_unpaired {request release : Bool} {resource : Resource} {slot : Slot}
    (unpaired : ¬ (request = true ∧ release = true))
    (absent : request = false → resource ∉ slot.ledger.held) :
    (releaseUnchecked release resource slot).Spoiled := by
  cases release with
  | false => exact spoiled_blame
  | true =>
      have unwanted : request = false := by simpa using unpaired
      exact release_unheld (absent unwanted)

theorem interface_unpaired {place : Nat} {type : SlotInterface} {others : List SlotInterface}
    {slot : Slot} (unpaired : ¬ Paired pdata type)
    (held : slot.ledger.held = stock pdata place (type :: others) + essentials) :
    (releaseInterface pdata place type slot).Spoiled ∨ (pdata.releaseUart = false ∧
      .uart ∈ (releaseInterface pdata place type slot).ledger.held) := by
  have absent : ∀ {resource : Resource}, resource.wanted pdata = false →
      resource ∉ slot.ledger.held := fun unwanted => held ▸ unwanted_absent unwanted
  cases type <;> simp only [releaseInterface]
  case sdio => exact .inl (unchecked_unpaired unpaired (@absent .sdio))
  case adc => exact .inl (unchecked_unpaired unpaired (@absent .adc))
  case pcm => exact .inl (unchecked_unpaired unpaired (@absent .pcm))
  case uart =>
    cases release : pdata.releaseUart with
    | false =>
        have request : pdata.requestUart = true := by simpa [Paired, release] using unpaired
        right
        rw [if_neg (by simp)]
        refine ⟨rfl, held ▸ ?_⟩
        simp [stock, resources, optional, request]
    | true =>
        have request : pdata.requestUart = false := by simpa [Paired, release] using unpaired
        left
        rw [if_pos rfl]
        exact release_unheld (absent request)
  all_goals exact absurd trivial unpaired

/-- A release that is called for nothing, or a UART that nobody releases. -/
theorem interfaces_unpaired (types : List SlotInterface) : ∀ {place : Nat} {slot : Slot},
    (∃ type ∈ types, ¬ Paired pdata type) →
    slot.ledger = ⟨stock pdata place types + essentials, []⟩ →
      (releaseInterfaces pdata place types slot).Spoiled ∨
        .uart ∈ (releaseInterfaces pdata place types slot).ledger.held := by
  induction types with
  | nil =>
      rintro place slot ⟨type, member, _⟩ _
      cases member
  | cons type others ih =>
      intro place slot unpaired ledger
      by_cases first : Paired pdata type
      · have later : ∃ other ∈ others, ¬ Paired pdata other := by
          rcases unpaired with ⟨other, member, unpaired⟩
          rcases List.mem_cons.mp member with rfl | inside
          · exact absurd first unpaired
          · exact ⟨other, inside, unpaired⟩
        rw [stock, Multiset.add_assoc] at ledger
        rw [releaseInterfaces, interface_paired first
          (Multiset.mem_add.mpr (.inr (by decide))) ledger]
        exact ih later rfl
      · rcases interface_unpaired first (congrArg Ledger.held ledger) with spoiled | ⟨release, uart⟩
        · exact .inl (spoiled_interfaces others spoiled)
        · right
          have kept : Resource.uart.kept pdata = true := by simp [Resource.kept, release]
          rw [← Multiset.count_pos, releaseInterfaces, interfaces_frame kept, Multiset.count_pos]
          exact uart

end Release

/-! From the end of the probe to the end of the run. -/

section Endings
variable {pdata : Callbacks}

/-- A probe that ended with this slot and this result leaves nothing behind. -/
def Ends (pdata : Callbacks) (ended : Slot × Int) : Prop :=
  (devresReleaseAll (if ended.2 ≠ 0 then ended.1 else (iotSlotRemove pdata ended.1).1)).ledger.Settled ∧
    (devresReleaseAll (if ended.2 ≠ 0 then ended.1 else (iotSlotRemove pdata ended.1).1)).callFaults =
      []

theorem balanced_ends {probe : Probe} {ended : Slot × Int}
    (probed : iotSlotProbe pdata probe = .ok ended) : Balanced pdata probe ↔ Ends pdata ended := by
  have life : lifetime pdata probe = .ok (devresReleaseAll
      (if ended.2 ≠ 0 then ended.1 else (iotSlotRemove pdata ended.1).1)) := by
    rw [lifetime, probed]
  constructor
  · rintro ⟨slot, run, settled, calls⟩
    rw [life] at run
    cases run
    exact ⟨settled, calls⟩
  · rintro ⟨settled, calls⟩
    exact ⟨_, life, settled, calls⟩

theorem spoiled_ends {ended : Slot × Int} (spoiled : ended.1.Spoiled) : ¬ Ends pdata ended := by
  rintro ⟨settled, calls⟩
  have final : (devresReleaseAll
      (if ended.2 ≠ 0 then ended.1 else (iotSlotRemove pdata ended.1).1)).Spoiled := by
    apply spoiled_devres
    split
    · exact spoiled
    · exact spoiled_remove spoiled
  rcases final with misused | fault
  · exact misused settled.2
  · exact fault calls

/-- A resource that the driver core does not manage outlives the run. -/
theorem leaked_ends {ended : Slot × Int} {resource : Resource} (unmanaged : resource.managed = false)
    (held : resource ∈ (if ended.2 ≠ 0 then ended.1 else (iotSlotRemove pdata ended.1).1).ledger.held) :
    ¬ Ends pdata ended := by
  rintro ⟨settled, _⟩
  have left : resource ∈ (devresReleaseAll
      (if ended.2 ≠ 0 then ended.1 else (iotSlotRemove pdata ended.1).1)).ledger.held :=
    Multiset.mem_filter.mpr ⟨held, unmanaged⟩
  rw [settled.1] at left
  cases left

/-- The slot between a probe that succeeded and its remove. -/
structure Idle (pdata : Callbacks) (slot : Slot) : Prop where
  pdev : slot.pdev = true
  adapter : slot.i2cAdapter = true
  held : slot.ledger.held = stock pdata 0 slot.interfaces + essentials
  misuses : slot.ledger.misuses = []
  calls : slot.callFaults = []

theorem idle_ready {present : Bool} : Idle pdata { Slot.ready with cardPresent := present } :=
  ⟨rfl, rfl, by simp [Slot.ready, stock, essentials], rfl, rfl⟩

theorem idle_adapter {slot : Slot} (idle : Idle pdata slot) : .i2cAdapter ∈ slot.ledger.held := by
  rw [idle.held]
  exact Multiset.mem_add.mpr (.inr (by decide))

theorem removed {slot : Slot} (idle : Idle pdata slot) :
    (iotSlotRemove pdata slot).1 = releaseSlot (releaseInterfaces pdata 0 slot.interfaces slot) := by
  rw [iotSlotRemove, if_neg (by simp [idle.pdev]), release_resources, Slot.device, if_pos idle.pdev]

theorem idle_ledger {slot : Slot} (idle : Idle pdata slot) :
    slot.ledger = ⟨stock pdata 0 slot.interfaces + essentials, []⟩ := by
  rw [← idle.held, ← idle.misuses]

theorem idle_ends {slot : Slot} (idle : Idle pdata slot) :
    Ends pdata (slot, 0) ↔ ∀ type ∈ slot.interfaces, Paired pdata type := by
  constructor
  · intro ends
    by_contra all
    have unpaired : ∃ type ∈ slot.interfaces, ¬ Paired pdata type := by simpa using all
    rcases interfaces_unpaired slot.interfaces unpaired (idle_ledger idle) with spoiled | uart
    · have final : (iotSlotRemove pdata slot).1.Spoiled := removed idle ▸ spoiled_slot spoiled
      rcases final with misused | fault
      · exact misused ends.1.2
      · exact fault ends.2
    · apply @leaked_ends pdata (slot, 0) .uart rfl _ ends
      rw [if_neg (by simp), removed idle, ← Multiset.count_pos,
        slot_frame (by decide) (by decide) (by decide), Multiset.count_pos]
      exact uart
  · intro paired
    have final : (iotSlotRemove pdata slot).1 = releaseSlot { slot with ledger := ⟨essentials, []⟩ } := by
      rw [removed idle, interfaces_paired (by decide) _ paired (idle_ledger idle)]
    unfold Ends
    rw [if_neg (by simp), final]
    simp [releaseSlot, idle.adapter, idle.calls, essentials, Slot.release, devmGpioFree,
      devresReleaseAll, Ledger.Settled]

theorem failed_ends {slot : Slot} {ret : Int} (failed : ret ≠ 0)
    (adapter : .i2cAdapter ∈ slot.ledger.held) : ¬ Ends pdata (slot, ret) := by
  apply @leaked_ends pdata (slot, ret) .i2cAdapter rfl
  rw [if_pos failed]
  exact adapter

/-! The essential resources. -/

/-- The slot as `iot_slot_probe` sets it up. -/
def Slot.probed : Slot := { Slot.zero with pdev := true }

theorem undetected_spoiled {slot : Slot} (adapter : slot.i2cAdapter = false)
    (absent : .cardDetect ∉ slot.ledger.held) : (releaseSlot slot).Spoiled := by
  rw [releaseSlot, if_neg (by simp [adapter])]
  exact spoiled_release (release_unheld absent)

/-- A request that fails has the clean-up free lines that were never requested. -/
theorem essential_lines {index : Nat} {essential : Essential}
    (failed : essential.reset ≠ 0 ∨ essential.cardDetect ≠ 0) :
    (iotSlotRequestEssentialResources pdata index essential Slot.probed).1.Spoiled ∧
      (iotSlotRequestEssentialResources pdata index essential Slot.probed).2 ≠ 0 := by
  by_cases reset : essential.reset = 0
  · have detect : essential.cardDetect ≠ 0 := failed.resolve_left (not_not.mpr reset)
    have result : iotSlotRequestEssentialResources pdata index essential Slot.probed =
        (releaseSlot { (Slot.probed.notes (labelFaults (resetLabel index) 24)).notes
          (labelFaults (cardDetectLabel index) 24) with ledger := ⟨{.reset}, []⟩ },
            essential.cardDetect) := by
      simp [iotSlotRequestEssentialResources, devmGpioRequestOne, Slot.device, Slot.probed,
        Slot.zero, Slot.notes, Slot.acquire, Ledger.empty, Ledger.acquire, reset, detect,
        release_resources, releaseInterfaces]
    rw [result]
    exact ⟨undetected_spoiled rfl (by simp), detect⟩
  · have result : iotSlotRequestEssentialResources pdata index essential Slot.probed =
        (releaseSlot (Slot.probed.notes (labelFaults (resetLabel index) 24)), essential.reset) := by
      simp [iotSlotRequestEssentialResources, devmGpioRequestOne, Slot.device, Slot.probed,
        Slot.zero, Slot.notes, Ledger.empty, reset, release_resources, releaseInterfaces]
    rw [result]
    exact ⟨undetected_spoiled rfl (by simp [Slot.probed, Slot.zero, Ledger.empty]), reset⟩

theorem essential_i2c {index : Nat} {i2c : Int} (failed : i2c ≠ 0) :
    Ends pdata (iotSlotRequestEssentialResources pdata index ⟨0, 0, i2c⟩ Slot.probed) ∧
      (iotSlotRequestEssentialResources pdata index ⟨0, 0, i2c⟩ Slot.probed).2 ≠ 0 := by
  have result : iotSlotRequestEssentialResources pdata index ⟨0, 0, i2c⟩ Slot.probed =
      (releaseSlot { (Slot.probed.notes (labelFaults (resetLabel index) 24)).notes
        (labelFaults (cardDetectLabel index) 24) with
          ledger := ⟨{.cardDetect, .reset}, []⟩ }, i2c) := by
    simp [iotSlotRequestEssentialResources, devmGpioRequestOne, Slot.device, Slot.probed, Slot.zero,
      Slot.notes, Slot.acquire, Ledger.empty, Ledger.acquire, failed, release_resources,
      releaseInterfaces]
  rw [result]
  refine ⟨?_, failed⟩
  unfold Ends
  rw [if_pos failed]
  simp [releaseSlot, Slot.probed, Slot.zero, Slot.notes, Slot.release, devmGpioFree,
    devresReleaseAll, Ledger.Settled]

/-! The enumeration, from a slot with its essential resources. -/

/-- Every interface of the card is added, with its callbacks in pairs. -/
structure Complete (pdata : Callbacks) (card : Card) (items : List Item) : Prop where
  served : Served pdata items card.outcomes 0 false
  paired : ∀ item ∈ items, ∀ type ∈ item.type.entries, Paired pdata type
  direction : card.directionOutput = 0 ∨ ∃ item ∈ items, item.type.calls = true

/-- No card, a card that is not read while the card-detect line could be set, or a card
that lists interfaces and has all of them added. -/
def CardServed (pdata : Callbacks) (card : Card) (count : Int) (items : List Item) : Prop :=
  card.present = false ∨
    ((card.eeprom = false ∨ card.header = false) ∧ card.directionOutput = 0) ∨
    (card.Read ∧ 0 < count ∧ Complete pdata card items)

theorem stocked_enumerating : Stocked pdata Slot.enumerating :=
  ⟨rfl, rfl, by simp [Slot.enumerating, Slot.ready, stock, base], rfl, rfl⟩

theorem resultOf_zero (items : List Item) (ret : Int) :
    resultOf items ret = 0 ↔ ret = 0 ∨ ∃ item ∈ items, item.type.calls = true := by
  unfold resultOf
  split
  · rename_i called
    exact ⟨fun _ => .inr (List.any_eq_true.mp called), fun _ => rfl⟩
  · rename_i uncalled
    exact ⟨.inl, fun either => either.resolve_right fun called =>
      uncalled (List.any_eq_true.mpr called)⟩

/-- Without the EEPROM client a stocked slot is idle. -/
theorem unloaded_idle {slot : Slot} (stocked : Stocked pdata slot) :
    Idle pdata ((eepromUnload slot).use .cardDetect) ∧
      ((eepromUnload slot).use .cardDetect).interfaces = slot.interfaces := by
  have unloaded : eepromUnload slot =
      { slot with ledger := ⟨stock pdata 0 slot.interfaces + essentials, []⟩ } := by
    have held : slot.ledger.held = .eeprom ::ₘ (stock pdata 0 slot.interfaces + essentials) := by
      rw [stocked.held, ← Multiset.add_cons]
      rfl
    rw [eepromUnload, stocked_use stocked, Slot.release, Ledger.release_of_held held,
      stocked.misuses]
  have detect : ((eepromUnload slot).use .cardDetect) = eepromUnload slot := by
    rw [unloaded, Slot.use, Ledger.use_held]
    exact Multiset.mem_add.mpr (.inr (by decide))
  rw [detect, unloaded]
  exact ⟨⟨stocked.pdev, stocked.adapter, rfl, rfl, stocked.calls⟩, rfl⟩

/-- A loop whose every acquisition succeeds is left as it ends. -/
theorem enumerated_served {index : Nat} {card : Card} {items : List Item}
    (served : Served pdata items card.outcomes 0 false) :
    enumerated pdata index card items = ((enumerateItems pdata index items card.outcomes
      card.directionOutput Slot.enumerating).1, resultOf items card.directionOutput) := by
  have run := @items_stocked pdata index items card.outcomes card.directionOutput Slot.enumerating
    stocked_enumerating served
  unfold enumerated
  generalize enumerateItems pdata index items _ _ _ = ended at run ⊢
  rcases ended with ⟨slot, result⟩
  cases run.1
  rfl

/-- An acquisition that fails spoils the slot, if not in the loop then in its clean-up. -/
theorem unserved_ends {index : Nat} {card : Card} {items : List Item}
    (unserved : ¬ Served pdata items card.outcomes 0 false) :
    ¬ Ends pdata ((eepromUnload (enumerated pdata index card items).1).use .cardDetect,
      (enumerated pdata index card items).2) := by
  rcases @items_unserved pdata index items card.outcomes card.directionOutput Slot.enumerating
    stocked_enumerating unserved with ⟨error, failed, _⟩ | spoiled
  · exact spoiled_ends (failed_spoiled failed).1
  · refine spoiled_ends (spoiled_use (spoiled_unload ?_))
    unfold enumerated
    generalize enumerateItems pdata index items _ _ _ = ended at spoiled ⊢
    rcases ended with ⟨slot, _ | _⟩
    · exact spoiled_resources spoiled
    · exact spoiled

theorem loaded_ends {index : Nat} {card : Card} {items : List Item} :
    Ends pdata ((eepromUnload (enumerated pdata index card items).1).use .cardDetect,
        (enumerated pdata index card items).2) ↔ Complete pdata card items := by
  by_cases served : Served pdata items card.outcomes 0 false
  · have run := @items_stocked pdata index items card.outcomes card.directionOutput Slot.enumerating
      stocked_enumerating served
    rw [enumerated_served served]
    have idle := unloaded_idle run.2.1
    by_cases zero : resultOf items card.directionOutput = 0
    · rw [zero, idle_ends idle.1, idle.2, run.2.2]
      constructor
      · intro paired
        refine ⟨served, fun item member type entry => ?_, (resultOf_zero _ _).mp zero⟩
        exact paired type (by simpa [Slot.enumerating, Slot.ready] using ⟨item, member, entry⟩)
      · intro complete type member
        have listed : ∃ item ∈ items, type ∈ item.type.entries := by
          simpa [Slot.enumerating, Slot.ready] using member
        rcases listed with ⟨item, inside, entry⟩
        exact complete.paired item inside type entry
    · constructor
      · exact fun ends => absurd ends (failed_ends zero (idle_adapter idle.1))
      · exact fun complete => absurd ((resultOf_zero _ _).mpr complete.direction) zero
  · exact iff_of_false (unserved_ends served) fun complete => served complete.served

/-- A card whose list is empty or could not be built keeps its EEPROM client. -/
theorem empty_ends {ret : Int} : ¬ Ends pdata (Slot.enumerating, ret) := by
  by_cases zero : ret = 0
  · subst zero
    apply @leaked_ends pdata (Slot.enumerating, 0) .eeprom rfl
    rw [if_neg (by simp), iotSlotRemove, if_neg (by decide), release_resources, ← Multiset.count_pos,
      slot_frame (by decide) (by decide) (by decide), interfaces_frame rfl]
    decide
  · exact failed_ends zero (by decide)

theorem card_ends {index : Nat} {card : Card} {count : Int} {items : List Item}
    (loaded : card.loaded = .ok (count, items)) :
    ∃ ended, iotSlotEnumerate pdata index card Slot.ready = .ok ended ∧
      (Ends pdata ended ↔ CardServed pdata card count items) := by
  by_cases absent : card.present = false
  · refine ⟨_, enumerate_absent absent, ?_⟩
    have ends : Ends pdata (Slot.ready, 0) :=
      (idle_ends (@idle_ready pdata false)).mpr fun type member => by cases member
    exact iff_of_true ends (.inl absent)
  have present : card.present = true := by simpa using absent
  by_cases unread : card.eeprom = false ∨ card.header = false
  · refine ⟨_, enumerate_unread present unread, ?_⟩
    have unreadable : ¬ card.Read := by
      rintro ⟨_, eeprom, header⟩
      rcases unread with unread | unread <;> simp_all
    -- An EEPROM that cannot be read leaves the adapter held where the reset line fails too.
    by_cases direction : card.directionOutput = 0
    · rw [direction]
      have ends : Ends pdata ({ Slot.ready with cardPresent := true }, 0) :=
        (idle_ends (@idle_ready pdata true)).mpr fun type member => by cases member
      exact iff_of_true ends (.inr (.inl ⟨unread, direction⟩))
    · apply iff_of_false (failed_ends direction (idle_adapter (@idle_ready pdata true)))
      rintro (none | ⟨_, zero⟩ | ⟨read, _⟩)
      · exact absent none
      · exact direction zero
      · exact unreadable read
  have readable := unread
  rw [not_or, Bool.not_eq_false, Bool.not_eq_false] at readable
  have read : card.Read := ⟨present, readable.1, readable.2⟩
  -- Without an interface the call fails, and what the slot holds is not given back.
  by_cases some : 0 < count
  · refine ⟨_, enumerate_loaded read loaded some, loaded_ends.trans ?_⟩
    constructor
    · exact fun complete => .inr (.inr ⟨read, some, complete⟩)
    · rintro (none | ⟨none, _⟩ | ⟨_, _, complete⟩)
      · exact absurd none absent
      · exact absurd none unread
      · exact complete
  · refine ⟨_, enumerate_empty read loaded (by omega), ?_⟩
    apply iff_of_false empty_ends
    rintro (none | ⟨none, _⟩ | ⟨_, more, _⟩)
    · exact absent none
    · exact unread none
    · exact some more

end Endings

/-! The whole run. -/

/-- Nothing is acquired for a slot that cannot be, or that has its device. -/
def Early (probe : Probe) : Prop :=
  probe.id < 0 ∨ probe.id ≥ numSupported ∨ probe.taken = true ∨ probe.memory = false

instance (probe : Probe) : Decidable (Early probe) := inferInstanceAs (Decidable (_ ∨ _ ∨ _ ∨ _))

/-- The steps of the probe that must not fail, of those that it gets to. The I2C adapter is
the one resource whose failure it recovers from. -/
def ProbeServed (pdata : Callbacks) (probe : Probe) (count : Int) (items : List Item) : Prop :=
  Early probe ∨ (probe.essential.reset = 0 ∧ probe.essential.cardDetect = 0 ∧
    (probe.essential.i2c ≠ 0 ∨ CardServed pdata probe.card count items))

section Run
variable {pdata : Callbacks} {probe : Probe}

theorem early_balanced (early : Early probe) : Balanced pdata probe := by
  have refused : ∃ ret, iotSlotProbe pdata probe = .ok (Slot.zero, ret) ∧ ret ≠ 0 := by
    unfold iotSlotProbe
    by_cases id : probe.id < 0 ∨ probe.id ≥ numSupported
    · exact ⟨_, if_pos id, by decide⟩
    · rw [if_neg id]
      by_cases taken : probe.taken = true
      · exact ⟨_, if_pos taken, by decide⟩
      · rw [if_neg taken]
        have memory : probe.memory = false := by
          unfold Early at early
          tauto
        exact ⟨_, if_pos memory, by decide⟩
  rcases refused with ⟨ret, probed, nonzero⟩
  rw [balanced_ends probed, Ends, if_pos nonzero]
  exact ⟨⟨rfl, rfl⟩, rfl⟩

theorem probe_admitted (late : ¬ Early probe) : iotSlotProbe pdata probe =
    (let essential := iotSlotRequestEssentialResources pdata probe.id.toNat probe.essential Slot.probed
    if essential.2 ≠ 0 then .ok essential
    else iotSlotEnumerate pdata probe.id.toNat probe.card essential.1) := by
  unfold Early at late
  push Not at late
  rw [iotSlotProbe, if_neg (by omega), if_neg (by simp [late.2.2.1]), if_neg (by simp [late.2.2.2])]
  rfl

/-- The platform data of mangOH Red: SDIO and PCM. -/
def redCallbacks : Callbacks := ⟨true, true, false, false, true, true, false, false⟩

def served : Outcome := ⟨fun _ => 0, true, 0, true, 0⟩

def gpioProbe : Probe :=
  ⟨0, false, true, ⟨0, 0, 0⟩,
    ⟨true, 0, true, true, .ok (2, [⟨gpioCard, slot 0⟩, ⟨gpioCard, slot 1⟩]), fun _ => served⟩⟩

/-- The request of the card-detect line fails. -/
def undetected : Probe :=
  ⟨0, false, true, ⟨0, -ebusy, 0⟩, ⟨false, 0, false, false, .ok (-1, []), fun _ => served⟩⟩

end Run

end MangOH.SlotCore
