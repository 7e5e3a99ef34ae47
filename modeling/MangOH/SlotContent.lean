import MangOH.SlotCore
import Mathlib.Data.List.TakeWhile

/-!
What the bytes of a card can make the enumeration do. The descriptors name a
line by its index, carry a name of 32 bytes and come in any number.
-/

namespace MangOH.SlotCore

open SlotEeprom

/-! What a descriptor has to be like. -/

def IrqFine (byte : BitVec 8) : Prop := byte = 0xFF ∨ byte.toNat < 4

instance (byte : BitVec 8) : Decidable (IrqFine byte) :=
  inferInstanceAs (Decidable (byte = 0xFF ∨ byte.toNat < 4))

/-- The line of an interrupt is unused or one of the four, and the name ends within the
field that it is copied to. -/
def Item.Fine (item : Item) : Prop :=
  match item.type with
  | .i2c => IrqFine (item.byte 2) ∧ 0 ∈ (item.modalias 3).take i2cNameSize
  | .spi => IrqFine (item.byte 1) ∧ 0 ∈ (item.modalias 2).take spiNameSize
  | _ => True

theorem irqFaults_nil (byte : BitVec 8) : irqFaults byte.toNat = [] ↔ IrqFine byte := by
  unfold irqFaults gpioIndex IrqFine irqGpioUnused
  have unused : byte = 0xFF ↔ byte.toNat = 255 := by
    rw [← BitVec.toNat_inj]
    rfl
  rw [unused]
  split
  · split <;> simp <;> omega
  · simp
    omega

theorem strncpy_terminated {size : Nat} {source : List (BitVec 8)} (long : size ≤ source.length) :
    0 ∈ strncpy size source ↔ 0 ∈ source.take size := by
  have whole : (source.take size).length = size := List.length_take_of_le long
  unfold strncpy
  constructor
  · intro member
    by_contra absent
    have all : (source.take size).takeWhile (fun byte => decide (byte ≠ 0)) = source.take size := by
      apply List.takeWhile_eq_self_iff.mpr
      intro byte inside
      simp only [decide_eq_true_eq]
      rintro rfl
      exact absent inside
    simp only [all, whole, Nat.sub_self, List.replicate_zero, List.append_nil] at member
    exact absent member
  · intro member
    have short : ((source.take size).takeWhile fun byte => decide (byte ≠ 0)).length < size := by
      by_contra full
      have starts : ((source.take size).takeWhile fun byte => decide (byte ≠ 0)) <+:
          source.take size := List.takeWhile_prefix _
      have same := starts.eq_of_length_le (by omega)
      have kept := List.mem_takeWhile_imp (same ▸ member)
      simp at kept
    apply List.mem_append_right
    exact List.mem_replicate.mpr ⟨by omega, rfl⟩

theorem terminated_nil (field : List (BitVec 8)) : terminated field = [] ↔ 0 ∈ field := by
  unfold terminated
  split <;> simp_all

theorem modalias_terminated {item : Item} {offset size : Nat} (short : size ≤ 32) :
    terminated (strncpy size (item.modalias offset)) = [] ↔ 0 ∈ (item.modalias offset).take size := by
  rw [terminated_nil]
  exact strncpy_terminated (by simpa [Item.modalias] using short)

/-! The functions that add an interface, for a descriptor of their type. -/

section Adding
variable {pdata : Callbacks} {index : Nat} {item : Item} {outcome : Outcome} {slot : Slot}

theorem known_of_type (type : item.type ≠ .last) : item.known = true := by
  by_contra unknown
  simp [Item.type, unknown] at type

theorem field_own {Value : Type} {value fallback : Value} {type : EepromInterface}
    (own : item.type = type) (known : item.known = true) :
    item.field type value fallback = (value, []) := by
  simp [Item.field, own, known]

theorem entry_room (room : slot.interfaces.length < maxInterfaces) : slot.entry = [] := if_pos room

theorem gpio_content (type : item.type = .gpio) (inside : index < 3) (pins : List Nat) :
    ∀ slot : Slot, slot.interfaces.length < maxInterfaces → (∀ pin ∈ pins, pin < 4) →
      (addGpioPins index item outcome pins slot).1.contentFaults = slot.contentFaults := by
  have known : item.known = true := known_of_type (by simp [type])
  induction pins with
  | nil =>
      intro slot room _
      simp [addGpioPins, Slot.add, entry_room room]
  | cons pin rest ih =>
      intro slot room small
      have least : pin < 4 := small pin List.mem_cons_self
      have label : labelFaults (gpioLabel index pin) 20 = [] := by
        simp [labelFaults, gpioLabel, digits_small least, digits_small (show index < 4 by omega)]
      have cfg : (eepromIfGpioCfg pin item).2 = [] := by
        simp [eepromIfGpioCfg, field_own type known, known, least]
      have line : gpioIndex pin = [] := if_pos ⟨by omega, by omega⟩
      have silent : slot.notes (pinFaults index pin item slot) = slot := by
        simp [pinFaults, Slot.notes, label, cfg, line, entry_room room]
      simp only [addGpioPins, silent]
      split
      · simp [devmGpioFree, Slot.release]
      · rw [ih _ (by simpa using room) fun other member => small other (List.mem_cons_of_mem _ member)]
        simp

theorem i2c_content (type : item.type = .i2c) (room : slot.interfaces.length < maxInterfaces) :
    (iotSlotAddI2c item outcome slot).1.contentFaults = slot.contentFaults ++
      irqFaults (item.byte 2).toNat ++ terminated (strncpy i2cNameSize (item.modalias 3)) := by
  have known : item.known = true := known_of_type (by simp [type])
  unfold iotSlotAddI2c eepromIfI2cModalias eepromIfI2cIrqGpio eepromIfI2cAddress
  simp only [field_own type known, entry_room room]
  split <;> simp [Slot.use, Slot.acquire, Slot.add]

theorem spi_content (type : item.type = .spi) (room : slot.interfaces.length < maxInterfaces) :
    (iotSlotAddSpi item outcome slot).1.contentFaults = slot.contentFaults ++
      if outcome.requestSpi ≠ 0 then [] else
        irqFaults (item.byte 1).toNat ++ terminated (strncpy spiNameSize (item.modalias 2)) := by
  have known : item.known = true := known_of_type (by simp [type])
  unfold iotSlotAddSpi eepromIfSpiModalias eepromIfSpiIrqGpio
  simp only [field_own type known]
  split
  · simp
  · split
    · simp [Slot.release, Slot.acquire]
    · simp [Slot.acquire, Slot.add, Slot.entry, room]

theorem optional_content {callback : Bool} {resource : Resource} {type : SlotInterface}
    (room : slot.interfaces.length < maxInterfaces) :
    (addOptional callback resource type outcome slot).1.contentFaults = slot.contentFaults := by
  unfold addOptional
  split
  · split
    · simp
    · simp [Slot.acquire, Slot.add, Slot.entry, room]
  · simp [Slot.add, Slot.entry, room]

/-- The faults of one descriptor, in an enumeration that gets as far as it. -/
def Item.faults (item : Item) (outcome : Outcome) : List ContentFault :=
  match item.type with
  | .i2c => irqFaults (item.byte 2).toNat ++ terminated (strncpy i2cNameSize (item.modalias 3))
  | .spi =>
      if outcome.requestSpi ≠ 0 then [] else
        irqFaults (item.byte 1).toNat ++ terminated (strncpy spiNameSize (item.modalias 2))
  | _ => []

theorem item_content {ret : Int} (known : item.known = true) (inside : index < 3)
    (room : slot.interfaces.length < maxInterfaces) :
    (enumerateItem pdata index item outcome ret slot).1.contentFaults =
      slot.contentFaults ++ item.faults outcome := by
  have quiet : slot.notes (eepromIfType item).2 = slot := by simp [eepromIfType, known, Slot.notes]
  unfold enumerateItem
  rw [quiet]
  unfold Item.faults
  cases type : item.type <;> simp only [eepromIfType, type, checked_slot]
  case gpio =>
    rw [iotSlotAddGpio, gpio_content type inside _ _ (by simpa using room) (by simp)]
    simp
  case i2c => simp [i2c_content type room]
  case spi => simp [spi_content type room]
  case sdio => exact (optional_content room).trans (List.append_nil _).symm
  case adc => exact (optional_content room).trans (List.append_nil _).symm
  case pcm => exact (optional_content room).trans (List.append_nil _).symm
  case uart => exact (optional_content room).trans (List.append_nil _).symm
  all_goals simp [addPlain, Slot.add, Slot.entry, room]

theorem faults_fine (fine : item.Fine) : item.faults outcome = [] := by
  unfold Item.Fine at fine
  unfold Item.faults
  cases type : item.type <;> simp only [type] at fine ⊢
  case i2c =>
    rw [(irqFaults_nil _).mpr fine.1, (modalias_terminated (by decide)).mpr fine.2]
    rfl
  case spi =>
    rw [(irqFaults_nil _).mpr fine.1, (modalias_terminated (by decide)).mpr fine.2]
    simp

theorem fine_of_faults (served : outcome.requestSpi = 0) (none : item.faults outcome = []) :
    item.Fine := by
  unfold Item.faults at none
  unfold Item.Fine
  cases type : item.type <;> simp only [type] at none ⊢
  case i2c =>
    rw [List.append_eq_nil_iff] at none
    exact ⟨(irqFaults_nil _).mp none.1, (modalias_terminated (by decide)).mp none.2⟩
  case spi =>
    rw [if_neg (by simp [served]), List.append_eq_nil_iff] at none
    exact ⟨(irqFaults_nil _).mp none.1, (modalias_terminated (by decide)).mp none.2⟩

end Adding

/-! How far the enumeration gets. A card has room for ten interfaces, and its second
GPIO interface finds the lines of the first one busy. -/

def EepromInterface.supported : EepromInterface → Bool
  | .unsupported | .last => false
  | _ => true

def supportedIn (items : List Item) : Nat := items.countP fun item => item.type.supported

def gpiosIn (items : List Item) : Nat := items.countP fun item => item.type = .gpio

/-- The descriptors ahead of one that is reached when every call succeeds. -/
def Reached (items : List Item) : Prop := supportedIn items < maxInterfaces ∧ gpiosIn items ≤ 1

theorem entries_length (type : EepromInterface) :
    type.entries.length = if type.supported = true then 1 else 0 := by
  cases type <;> rfl

theorem supported_append (first second : List Item) :
    supportedIn (first ++ second) = supportedIn first + supportedIn second := List.countP_append

theorem gpios_append (first second : List Item) :
    gpiosIn (first ++ second) = gpiosIn first + gpiosIn second := List.countP_append

theorem supported_last (past : List Item) (item : Item) : supportedIn (past ++ [item]) =
    supportedIn past + if item.type.supported = true then 1 else 0 := by
  rw [supported_append]
  simp [supportedIn, List.countP_cons]

theorem gpios_last (past : List Item) (item : Item) : gpiosIn (past ++ [item]) =
    gpiosIn past + if item.type = .gpio then 1 else 0 := by
  rw [gpios_append]
  simp [gpiosIn, List.countP_cons]

theorem gpios_supported (items : List Item) : gpiosIn items ≤ supportedIn items := by
  apply List.countP_mono_left
  intro item _ gpio
  simp only [decide_eq_true_eq] at gpio
  simp [gpio, EepromInterface.supported]

/-- The slot after the descriptors `past`. -/
structure Follows (past : List Item) (slot : Slot) : Prop where
  places : slot.interfaces.length = supportedIn past
  few : gpiosIn past ≤ 1
  taken : gpiosIn past = 1 → .gpio 1 ∈ slot.ledger.held

section Turns
variable {pdata : Callbacks} {index : Nat} {item : Item} {outcome : Outcome} {slot : Slot}

theorem pins_keep {pin : Nat} (pins : List Nat) : ∀ slot : Slot,
    .gpio pin ∈ slot.ledger.held → (addGpioPins index item outcome pins slot).2 = 0 →
      .gpio pin ∈ (addGpioPins index item outcome pins slot).1.ledger.held := by
  induction pins with
  | nil => exact fun slot member _ => by simpa [addGpioPins, Slot.add] using member
  | cons first rest ih =>
      intro slot member zero
      simp only [addGpioPins] at zero ⊢
      split at zero
      · simp [eacces] at zero
      · rename_i going
        rw [if_neg going]
        apply ih _ _ zero
        rw [configure_held]
        exact request_keeps member

theorem pins_hold {pin : Nat} (later : 0 < pin) (pins : List Nat) (member : pin ∈ pins) :
    ∀ slot : Slot, (addGpioPins index item outcome pins slot).2 = 0 →
      .gpio pin ∈ (addGpioPins index item outcome pins slot).1.ledger.held := by
  induction pins with
  | nil => cases member
  | cons first rest ih =>
      intro slot zero
      simp only [addGpioPins] at zero ⊢
      split at zero
      · simp [eacces] at zero
      · rename_i going
        rw [if_neg going]
        rcases List.mem_cons.mp member with rfl | inside
        · apply pins_keep _ _ _ zero
          rw [configure_held]
          apply request_held
          by_contra failed
          exact going ⟨failed, later⟩
        · exact ih inside _ zero

theorem turn_places {ret ret' : Int} {past : List Item} (follows : Follows past slot)
    (ok : (enumerateItem pdata index item outcome ret slot).2 = .ok ret') :
    (enumerateItem pdata index item outcome ret slot).1.interfaces.length =
      supportedIn (past ++ [item]) := by
  rw [item_entered ok, List.length_append, follows.places, entries_length, supported_last]

theorem turn_follows {ret ret' : Int} {past : List Item} (follows : Follows past slot)
    (ok : (enumerateItem pdata index item outcome ret slot).2 = .ok ret') :
    Follows (past ++ [item]) (enumerateItem pdata index item outcome ret slot).1 := by
  have places := turn_places follows ok
  by_cases gpio : item.type = .gpio
  · have added : enumerateItem pdata index item outcome ret slot =
        checked (iotSlotAddGpio index item outcome (slot.notes (eepromIfType item).2)) := by
      simp [enumerateItem, eepromIfType, gpio]
    rw [added] at ok places ⊢
    have zero := checked_ok ok
    have first : gpiosIn past = 0 := by
      have few := follows.few
      by_contra some
      have taken := follows.taken (by omega)
      rw [iotSlotAddGpio, pins_refused (show 0 < 1 by decide) _ (by simp) _
        (.inl (by simpa using taken))] at zero
      simp [eacces] at zero
    constructor
    · exact places
    · simp [gpios_last, first, gpio]
    · intro _
      rw [checked_slot]
      exact pins_hold (show 0 < 1 by decide) (List.range 4) (by simp) _ zero
  · have same : gpiosIn (past ++ [item]) = gpiosIn past := by simp [gpios_last, gpio]
    constructor
    · exact places
    · rw [same]
      exact follows.few
    · intro one
      rw [same] at one
      have foreign : (Resource.gpio 1).of item.type = false := by
        cases type : item.type <;> simp_all [Resource.of]
      rw [← Multiset.count_pos, item_frame foreign, Multiset.count_pos]
      exact follows.taken one

/-! An environment in which every call succeeds. -/

def willing : Outcome := ⟨fun _ => 0, true, 0, true, 0⟩

theorem pins_willing (pins : List Nat) (distinct : pins.Nodup) : ∀ slot : Slot,
    (∀ pin ∈ pins, .gpio pin ∉ slot.ledger.held) →
      (addGpioPins index item willing pins slot).2 = 0 := by
  induction pins with
  | nil => exact fun slot _ => rfl
  | cons pin rest ih =>
      intro slot free
      have own : Resource.gpio pin ∉ slot.ledger.held := free pin List.mem_cons_self
      rw [pins_granted rfl own]
      apply ih (List.nodup_cons.mp distinct).2
      intro other member
      have different : other ≠ pin := fun same => (List.nodup_cons.mp distinct).1 (same ▸ member)
      simpa [Slot.acquire, different] using free other (List.mem_cons_of_mem _ member)

theorem optional_willing {callback : Bool} {resource : Resource} {type : SlotInterface} :
    (addOptional callback resource type willing slot).2 = 0 := by
  unfold addOptional
  split <;> rfl

theorem turn_willing {ret : Int} {past : List Item} (few : gpiosIn (past ++ [item]) ≤ 1)
    (free : gpiosIn past = 0 → ∀ pin, .gpio pin ∉ slot.ledger.held) :
    ∃ ret', (enumerateItem pdata index item willing ret slot).2 = .ok ret' := by
  have added : ∀ {added : Slot × Int}, added.2 = 0 → ∃ ret', (checked added).2 = .ok ret' :=
    fun zero => ⟨0, checked_zero zero⟩
  unfold enumerateItem
  cases type : item.type <;> simp only [eepromIfType, type]
  case gpio =>
    have first : gpiosIn past = 0 := by
      rw [gpios_last, if_pos type] at few
      omega
    apply added
    exact pins_willing _ List.nodup_range _ fun pin _ => by simpa using free first pin
  case i2c => exact added rfl
  case spi => exact added rfl
  case usb | clk | plat => exact ⟨ret, rfl⟩
  case unsupported | last => exact ⟨ret, rfl⟩
  all_goals exact added optional_willing

theorem turn_free {ret : Int} {past : List Item}
    (free : gpiosIn past = 0 → ∀ pin, .gpio pin ∉ slot.ledger.held)
    (none : gpiosIn (past ++ [item]) = 0) (pin : Nat) :
    .gpio pin ∉ (enumerateItem pdata index item outcome ret slot).1.ledger.held := by
  rw [gpios_last] at none
  have other : item.type ≠ .gpio := by
    intro gpio
    rw [if_pos gpio] at none
    omega
  have foreign : (Resource.gpio pin).of item.type = false := by
    cases type : item.type <;> simp_all [Resource.of]
  rw [← Multiset.count_eq_zero, item_frame foreign, Multiset.count_eq_zero]
  exact free (by omega) pin

end Turns

/-! Whole enumerations. -/

section Runs
variable {pdata : Callbacks} {index : Nat}

/-- The descriptors of the items that are reached do no harm. -/
def AllFine (past items : List Item) : Prop :=
  ∀ before item after, items = before ++ item :: after → Reached (past ++ before) → item.Fine

theorem allFine_tail {past rest : List Item} {item : Item} (fine : AllFine past (item :: rest)) :
    AllFine (past ++ [item]) rest := by
  rintro before other after rfl reached
  apply fine (item :: before) other after rfl
  simpa [List.append_assoc] using reached

/-- Room and one GPIO interface at most are what lets the loop find the table full. -/
def Crowded (past items : List Item) : Prop :=
  ∃ before after, items = before ++ after ∧ after ≠ [] ∧
    maxInterfaces ≤ supportedIn (past ++ before) ∧ gpiosIn (past ++ before) ≤ 1

theorem items_safe (inside : index < 3) (items : List Item) : ∀ {past : List Item}
    {outcomes : Nat → Outcome} {ret : Int} {slot : Slot}, Follows past slot →
    (∀ item ∈ items, item.known = true) → AllFine past items →
      (enumerateItems pdata index items outcomes ret slot).1.contentFaults = slot.contentFaults ∧
        ((enumerateItems pdata index items outcomes ret slot).2 = .error (-erange) →
          Crowded past items) := by
  induction items with
  | nil => exact fun _ _ _ => ⟨rfl, fun failed => by cases failed⟩
  | cons item rest ih =>
      intro past outcomes ret slot follows known fine
      by_cases room : slot.interfaces.length < maxInterfaces
      · have reached : Reached (past ++ []) := by
          rw [List.append_nil]
          exact ⟨follows.places ▸ room, follows.few⟩
        have harmless : item.Fine := fine [] item rest rfl reached
        have quiet : (enumerateItem pdata index item (outcomes 0) ret slot).1.contentFaults =
            slot.contentFaults := by
          rw [item_content (known item List.mem_cons_self) inside room, faults_fine harmless,
            List.append_nil]
        -- The loop goes on behind an item, or ends with the error of this one.
        cases result : (enumerateItem pdata index item (outcomes 0) ret slot).2 with
        | error error =>
            rw [items_error room result]
            refine ⟨quiet, fun full => ?_⟩
            cases full
            exact absurd rfl (item_error result)
        | ok ret' =>
            rw [items_ok room result]
            have rest_safe := @ih _ (fun call => outcomes (call + 1)) ret' _
              (turn_follows follows result)
              (fun other member => known other (List.mem_cons_of_mem _ member)) (allFine_tail fine)
            refine ⟨rest_safe.1.trans quiet, fun full => ?_⟩
            rcases rest_safe.2 full with ⟨before, after, rfl, some, many, few⟩
            exact ⟨item :: before, after, rfl, some, by simpa [List.append_assoc] using many,
              by simpa [List.append_assoc] using few⟩
      · rw [items_full (by omega)]
        refine ⟨rfl, fun _ => ⟨[], item :: rest, rfl, by simp, ?_, ?_⟩⟩
        · rw [List.append_nil, ← follows.places]
          omega
        · rw [List.append_nil]
          exact follows.few

/-- The loop forgets no fault. -/
theorem items_grow (inside : index < 3) (items : List Item) : ∀ {outcomes : Nat → Outcome}
    {ret : Int} {slot : Slot}, (∀ item ∈ items, item.known = true) →
      slot.contentFaults <+: (enumerateItems pdata index items outcomes ret slot).1.contentFaults := by
  induction items with
  | nil => exact fun _ => List.prefix_refl _
  | cons item rest ih =>
      intro outcomes ret slot known
      by_cases room : slot.interfaces.length < maxInterfaces
      · have grows : slot.contentFaults <+:
            (enumerateItem pdata index item (outcomes 0) ret slot).1.contentFaults := by
          rw [item_content (known item List.mem_cons_self) inside room]
          exact List.prefix_append _ _
        cases result : (enumerateItem pdata index item (outcomes 0) ret slot).2 with
        | error error =>
            rw [items_error room result]
            exact grows
        | ok ret' =>
            rw [items_ok room result]
            exact grows.trans (ih fun other member => known other (List.mem_cons_of_mem _ member))
      · rw [items_full (by omega)]

/-- A loop that ends by itself leaves `ret`, or a function has set it to 0. -/
theorem items_ret (items : List Item) : ∀ {outcomes : Nat → Outcome} {ret result : Int} {slot : Slot},
    (enumerateItems pdata index items outcomes ret slot).2 = .ok result →
      result = 0 ∨ result = ret := by
  induction items with
  | nil =>
      rintro outcomes ret result slot ⟨⟩
      exact .inr rfl
  | cons item rest ih =>
      intro outcomes ret result slot ok
      by_cases room : slot.interfaces.length < maxInterfaces
      · rcases item_enters with ⟨zero | same, _⟩ | ⟨error, failed, _⟩
        · rw [items_ok room zero] at ok
          rcases ih ok with rfl | rfl
          · exact .inl rfl
          · exact .inl rfl
        · rw [items_ok room same] at ok
          exact ih ok
        · rw [items_error room failed] at ok
          cases ok
      · rw [items_full (by omega)] at ok
        cases ok

theorem willing_ok {item : Item} {rest : List Item} {ret ret' : Int} {slot : Slot}
    (room : slot.interfaces.length < maxInterfaces)
    (ok : (enumerateItem pdata index item willing ret slot).2 = .ok ret') :
    enumerateItems pdata index (item :: rest) (fun _ => willing) ret slot =
      enumerateItems pdata index rest (fun _ => willing) ret'
        (enumerateItem pdata index item willing ret slot).1 := items_ok room ok

theorem willing_error {item : Item} {rest : List Item} {ret error : Int} {slot : Slot}
    (room : slot.interfaces.length < maxInterfaces)
    (failed : (enumerateItem pdata index item willing ret slot).2 = .error error) :
    enumerateItems pdata index (item :: rest) (fun _ => willing) ret slot =
      ((enumerateItem pdata index item willing ret slot).1, .error error) :=
  items_error room failed

theorem reached_first {past before : List Item} {item : Item}
    (reached : Reached (past ++ item :: before)) :
    supportedIn past < maxInterfaces ∧ gpiosIn (past ++ [item]) ≤ 1 := by
  unfold Reached at reached
  rw [List.append_cons, supported_append, supported_last, gpios_append] at reached
  omega

theorem willing_reaches (inside : index < 3) {bad : Item} {after : List Item} (harm : ¬ bad.Fine)
    (before : List Item) : ∀ {past : List Item} {ret : Int} {slot : Slot}, Follows past slot →
    (gpiosIn past = 0 → ∀ pin, .gpio pin ∉ slot.ledger.held) →
    (∀ item ∈ before ++ bad :: after, item.known = true) → Reached (past ++ before) →
      (enumerateItems pdata index (before ++ bad :: after) (fun _ => willing) ret
        slot).1.contentFaults ≠ [] := by
  induction before with
  | nil =>
      intro past ret slot follows _ known reached
      rw [List.append_nil] at reached
      have room : slot.interfaces.length < maxInterfaces := follows.places ▸ reached.1
      have noted : (enumerateItem pdata index bad willing ret slot).1.contentFaults =
          slot.contentFaults ++ bad.faults willing :=
        item_content (known bad List.mem_cons_self) inside room
      have some : (enumerateItem pdata index bad willing ret slot).1.contentFaults ≠ [] := by
        rw [noted]
        exact fun none => harm (fine_of_faults rfl (List.append_eq_nil_iff.mp none).2)
      rw [List.nil_append]
      -- The fault is noted by now, and what comes later takes none of them back.
      cases result : (enumerateItem pdata index bad willing ret slot).2 with
      | error error =>
          rw [willing_error room result]
          exact some
      | ok ret' =>
          rw [willing_ok room result]
          intro none
          have grows : (enumerateItem pdata index bad willing ret slot).1.contentFaults <+: [] := by
            rw [← none]
            exact items_grow inside after fun item member => known item (List.mem_cons_of_mem _ member)
          exact some (List.prefix_nil.mp grows)
  | cons item before ih =>
      intro past ret slot follows free known reached
      have first := reached_first reached
      have room : slot.interfaces.length < maxInterfaces := follows.places ▸ first.1
      rcases @turn_willing pdata index item slot ret past first.2 free with ⟨ret', ok⟩
      rw [List.cons_append, willing_ok room ok]
      apply ih (turn_follows follows ok) (turn_free free)
      · exact fun other member => known other (List.mem_cons_of_mem _ member)
      · simpa [List.append_assoc] using reached

theorem willing_crowded {after : List Item} (some : after ≠ []) (before : List Item) :
    ∀ {past : List Item} {ret : Int} {slot : Slot}, Follows past slot →
    (gpiosIn past = 0 → ∀ pin, .gpio pin ∉ slot.ledger.held) →
    maxInterfaces ≤ supportedIn (past ++ before) → gpiosIn (past ++ before) ≤ 1 →
      (enumerateItems pdata index (before ++ after) (fun _ => willing) ret slot).2 =
        .error (-erange) := by
  induction before with
  | nil =>
      intro past ret slot follows _ many _
      rw [List.append_nil, ← follows.places] at many
      cases after with
      | nil => exact absurd rfl some
      | cons item rest => rw [List.nil_append, items_full many]
  | cons item before ih =>
      intro past ret slot follows free many few
      by_cases room : slot.interfaces.length < maxInterfaces
      · have first : gpiosIn (past ++ [item]) ≤ 1 := by
          rw [List.append_cons, gpios_append] at few
          omega
        rcases @turn_willing pdata index item slot ret past first free with ⟨ret', ok⟩
        rw [List.cons_append, willing_ok room ok]
        apply ih (turn_follows follows ok) (turn_free free)
        · simpa [List.append_assoc] using many
        · simpa [List.append_assoc] using few
      · rw [List.cons_append, items_full (by omega)]

end Runs

/-! The enumeration of a card with a given image. -/

def itemsOf (image : Image) (offsets : List Nat) : List Item := offsets.map fun offset => ⟨image, offset⟩

/-- What the driver reads from the card is the image. -/
structure Card.Of (image : Image) (card : Card) : Prop where
  header : card.header = (toEepromBuffer image).isSome
  loaded : ∃ memory, card.loaded =
    (eepromLoadInterfaces image memory).map fun loaded => (loaded.1, itemsOf image loaded.2)

/-- The descriptors ahead of the terminator. -/
def before (image : Image) (last : Nat) : List Item := itemsOf image (slots last)

/-- The enumeration returns, with no fault that the content of the card can cause, and
a card of ten interfaces is not too large for it. `gpio_direction_output` may return any
error. -/
structure Harmless (image : Image) : Prop where
  quiet : ∀ pdata index card, index < numSupported → card.Of image →
    ∃ slot ret, iotSlotEnumerate pdata index card Slot.ready = .ok (slot, ret) ∧
      slot.contentFaults = []
  accepted : ∀ last, Terminated image last → supportedIn (before image last) = maxInterfaces →
    ∀ pdata index card slot ret, index < numSupported → card.Of image →
      iotSlotEnumerate pdata index card Slot.ready = .ok (slot, ret) → ret = -erange →
        card.directionOutput = -erange

/-- The version that is known, a terminator, harmless descriptors as far as the
enumeration gets, and not ten interfaces. -/
structure Acceptable (image : Image) : Prop where
  version : hostUint16 image versionOffset = EepromVersion 1 0
  terminated : ∃ last, Terminated image last ∧ AllFine [] (before image last) ∧
    ¬ (supportedIn (before image last) = maxInterfaces ∧ gpiosIn (before image last) ≤ 1)

section Images
variable {pdata : Callbacks} {index : Nat} {image : Image}

theorem terminated_unique {first second : Nat} (one : Terminated image first)
    (two : Terminated image second) : first = second := by
  rcases Nat.lt_trichotomy first second with less | same | more
  · exact absurd one.2.1 (two.2.2 first less)
  · exact same
  · exact absurd two.2.1 (one.2.2 second more)

theorem items_succ (last : Nat) : itemsOf image (slots (last + 1)) =
    before image last ++ [⟨image, slot last⟩] := by
  simp [itemsOf, before, slots_succ]

theorem items_known (known : Known image) (offsets : List Nat) :
    ∀ item ∈ itemsOf image offsets, item.known = true := by
  intro item member
  rcases List.mem_map.mp member with ⟨offset, _, rfl⟩
  simp [Item.known, known_version known]

theorem terminator_type {last : Nat} (isLast : image.byte (slot last) = eepromIfLast) :
    (Item.mk image (slot last)).type = .last := by
  unfold Item.type
  split
  · rw [show (Item.mk image (slot last)).byte 0 = eepromIfLast from isLast]
    rfl
  · rfl

theorem allFine_last {items : List Item} {item : Item} (fine : AllFine [] items)
    (last : item.type = .last) : AllFine [] (items ++ [item]) := by
  intro before other after split reached
  rcases List.eq_nil_or_concat' after with rfl | ⟨init, final, rfl⟩
  · have same := (List.append_inj' split rfl).2
    cases same
    simp [Item.Fine, last]
  · rw [← List.cons_append, ← List.append_assoc] at split
    exact fine before other init (List.append_inj' split rfl).1 reached

theorem interface_contentFaults (place : Nat) (type : SlotInterface) (slot : Slot) :
    (releaseInterface pdata place type slot).contentFaults = slot.contentFaults := by
  cases type <;> simp only [releaseInterface, releaseUnchecked] <;> (try split) <;> rfl

theorem interfaces_contentFaults (types : List SlotInterface) (place : Nat) (slot : Slot) :
    (releaseInterfaces pdata place types slot).contentFaults = slot.contentFaults := by
  induction types generalizing place slot with
  | nil => rfl
  | cons type rest ih => exact (ih _ _).trans (interface_contentFaults place type slot)

theorem released_contentFaults (slot : Slot) :
    (iotSlotReleaseResources pdata slot).contentFaults = slot.contentFaults := by
  unfold iotSlotReleaseResources
  simp only [devmGpioFree, Slot.release]
  split
  · exact (interfaces_contentFaults _ _ _).trans device_contentFaults
  · exact (interfaces_contentFaults _ _ _).trans device_contentFaults

theorem finish_contentFaults (ended : Slot × Except Int Int) :
    (finishItems pdata ended).1.contentFaults = ended.1.contentFaults := by
  rcases ended with ⟨slot, _ | _⟩
  · exact released_contentFaults slot
  · rfl

theorem unloaded_contentFaults (slot : Slot) :
    ((eepromUnload slot).use .cardDetect).contentFaults = slot.contentFaults := rfl

theorem enumerated_contentFaults (card : Card) (items : List Item) :
    ((eepromUnload (enumerated pdata index card items).1).use .cardDetect).contentFaults =
      (enumerateItems pdata index items card.outcomes card.directionOutput
        Slot.enumerating).1.contentFaults := by
  rw [unloaded_contentFaults]
  exact finish_contentFaults _

theorem follows_enumerating : Follows [] Slot.enumerating :=
  ⟨rfl, by simp [gpiosIn], by simp [gpiosIn]⟩

theorem free_enumerating (pin : Nat) : .gpio pin ∉ Slot.enumerating.ledger.held := by
  simp [Slot.enumerating]

theorem acceptable_known (magic : toEepromBuffer image = some image) (acceptable : Acceptable image) :
    Known image := ⟨magic, acceptable.version⟩

/-- The enumeration returns without a fault, and with `-ERANGE` only where the GPIO write
did, or the table was found full. -/
def Passes (pdata : Callbacks) (index : Nat) (image : Image) (card : Card) : Prop :=
  ∃ done ret, iotSlotEnumerate pdata index card Slot.ready = .ok (done, ret) ∧
    done.contentFaults = [] ∧ (ret = -erange → card.directionOutput = -erange ∨
      ∃ last, Terminated image last ∧ Crowded [] (before image last ++ [⟨image, slot last⟩]))

theorem items_pass (inside : index < numSupported) (known : Known image) {last : Nat} {card : Card}
    (terminated : Terminated image last) (fine : AllFine [] (before image last)) (read : card.Read)
    (loaded : card.loaded = .ok (((last + 1 : Nat) : Int), itemsOf image (slots (last + 1)))) :
    Passes pdata index image card := by
  rw [items_succ] at loaded
  have safe := @items_safe pdata index inside (before image last ++ [⟨image, slot last⟩]) []
    card.outcomes card.directionOutput Slot.enumerating follows_enumerating
    (items_succ last ▸ items_known known _) (allFine_last fine (terminator_type terminated.2.1))
  refine ⟨_, _, enumerate_loaded read loaded (by omega), ?_, ?_⟩
  · rw [enumerated_contentFaults]
    exact safe.1
  · intro full
    unfold enumerated at full
    cases ended : enumerateItems pdata index (before image last ++ [⟨image, slot last⟩])
        card.outcomes card.directionOutput Slot.enumerating with
    | mk done result =>
        rw [ended] at full safe
        cases result with
        | error error => exact .inr ⟨last, terminated, safe.2 (congrArg Except.error full)⟩
        | ok ret =>
            rcases items_ret _ (congrArg Prod.snd ended) with rfl | rfl
            · cases full
            · exact .inl full

theorem acceptable_passes (magic : toEepromBuffer image = some image)
    (acceptable : Acceptable image) (inside : index < numSupported) {card : Card}
    (reads : card.Of image) : Passes pdata index image card := by
  have known := acceptable_known magic acceptable
  rcases acceptable.terminated with ⟨last, terminated, fine, _⟩
  by_cases absent : card.present = false
  · exact ⟨_, _, enumerate_absent absent, rfl, fun zero => by cases zero⟩
  by_cases unread : card.eeprom = false ∨ card.header = false
  · exact ⟨_, _, enumerate_unread (by simpa using absent) unread, rfl, .inl⟩
  rw [not_or, Bool.not_eq_false, Bool.not_eq_false] at unread
  have read : card.Read := ⟨by simpa using absent, unread.1, unread.2⟩
  have nothing : ∀ {count : Int}, card.loaded = .ok (count, []) → count ≤ 0 →
      Passes pdata index image card :=
    fun loaded none => ⟨_, _, enumerate_empty read loaded none, rfl, .inl⟩
  rcases reads.loaded with ⟨memory, loaded⟩
  by_cases first : last = 0
  · rw [load_empty known (first ▸ terminated.2.1)] at loaded
    exact nothing loaded (by decide)
  · rcases @load_terminated image memory known last terminated first with full | ⟨short, _⟩
    · rw [full] at loaded
      exact items_pass inside known terminated fine read loaded
    · rw [short] at loaded
      exact nothing loaded (by decide)

/-- Ten interfaces in all are ten ahead of the place where the table is found full. -/
theorem crowded_counts {items : List Item} {item : Item} (last : item.type = .last)
    (ten : supportedIn items = maxInterfaces) (crowded : Crowded [] (items ++ [item])) :
    gpiosIn items ≤ 1 := by
  rcases crowded with ⟨before, after, split, _, many, few⟩
  rw [List.nil_append] at many few
  have supported : supportedIn (items ++ [item]) = maxInterfaces := by
    rw [supported_last, ten, last]
    rfl
  have gpios : gpiosIn (items ++ [item]) = gpiosIn items := by
    rw [gpios_last, last]
    rfl
  rw [split, supported_append] at supported
  rw [split, gpios_append] at gpios
  have none := gpios_supported after
  omega

theorem harmless_of_acceptable (magic : toEepromBuffer image = some image)
    (acceptable : Acceptable image) : Harmless image := by
  constructor
  · intro pdata index card inside reads
    rcases @acceptable_passes pdata index image magic acceptable inside card reads with
      ⟨done, ret, returns, quiet, _⟩
    exact ⟨done, ret, returns, quiet⟩
  · intro last terminated ten pdata index card done ret inside reads returns full
    rcases @acceptable_passes pdata index image magic acceptable inside card reads with
      ⟨done', ret', returns', _, reason⟩
    rw [returns] at returns'
    cases returns'
    rcases reason full with write | ⟨last', terminated', crowded⟩
    · exact write
    · have same := terminated_unique terminated terminated'
      subst same
      rcases acceptable.terminated with ⟨last', terminated', _, few⟩
      have same := terminated_unique terminated terminated'
      subst same
      exact absurd ⟨ten, crowded_counts (terminator_type terminated.2.1) ten crowded⟩ few

/-! The other direction, for a card that is read while every call succeeds. -/

def readCard (image : Image) : Card :=
  ⟨true, 0, true, (toEepromBuffer image).isSome,
    (eepromLoadInterfaces image fun _ => true).map fun loaded => (loaded.1, itemsOf image loaded.2),
    fun _ => willing⟩

def noCallbacks : Callbacks := ⟨false, false, false, false, false, false, false, false⟩

theorem readCard_of : (readCard image).Of image := ⟨rfl, _, rfl⟩

theorem readCard_read (magic : toEepromBuffer image = some image) : (readCard image).Read :=
  ⟨rfl, rfl, by simp [readCard, magic]⟩

theorem readCard_error (magic : toEepromBuffer image = some image) {fault : Fault}
    (failed : eepromLoadInterfaces image (fun _ => true) = .error fault) : ¬ Harmless image := by
  intro harmless
  rcases harmless.quiet noCallbacks 0 _ (by decide) readCard_of with ⟨done, ret, returns, _⟩
  have error : (readCard image).loaded = .error fault := by
    unfold readCard
    rw [failed]
    rfl
  rw [enumerate_error (readCard_read magic) error] at returns
  cases returns

theorem unknown_version (magic : toEepromBuffer image = some image)
    (other : hostUint16 image versionOffset ≠ EepromVersion 1 0) :
    eepromLoadInterfaces image (fun _ => true) = .error .bug := by
  have version : eepromVersion image = .ok (hostUint16 image versionOffset) := by
    simp [eepromVersion, magic]
  have first : eepromIfFirst image = .error .bug := by
    simp only [eepromIfFirst, version, bind, Except.bind]
    rw [if_neg other]
  rw [eepromLoadInterfaces, first]
  rfl

theorem readCard_items (known : Known image) {last : Nat} (terminated : Terminated image last)
    (some : last ≠ 0) : (readCard image).loaded =
      .ok (((last + 1 : Nat) : Int), before image last ++ [⟨image, slot last⟩]) := by
  have loaded : eepromLoadInterfaces image (fun _ => true) =
      .ok (((last + 1 : Nat) : Int), slots (last + 1)) := by
    rcases @load_terminated image (fun _ => true) known last terminated some with full | ⟨_, call, none⟩
    · exact full
    · cases none
  unfold readCard
  rw [loaded, ← items_succ]
  rfl

theorem readCard_run (known : Known image) {last : Nat} (terminated : Terminated image last)
    (some : last ≠ 0) : iotSlotEnumerate noCallbacks 0 (readCard image) Slot.ready =
      .ok ((eepromUnload (enumerated noCallbacks 0 (readCard image)
          (before image last ++ [⟨image, slot last⟩])).1).use .cardDetect,
        (enumerated noCallbacks 0 (readCard image) (before image last ++ [⟨image, slot last⟩])).2) :=
  enumerate_loaded (readCard_read known.magic) (readCard_items known terminated some) (by omega)

theorem fine_of_harmless (known : Known image) {last : Nat} (terminated : Terminated image last)
    (some : last ≠ 0) (harmless : Harmless image) : AllFine [] (before image last) := by
  intro front bad rear split reached
  by_contra harm
  rcases harmless.quiet noCallbacks 0 _ (by decide) readCard_of with ⟨done, ret, returns, quiet⟩
  rw [readCard_run known terminated some] at returns
  cases returns
  have items : before image last ++ [⟨image, slot last⟩] =
      front ++ bad :: (rear ++ [⟨image, slot last⟩]) := by simp [split]
  have noted : ∀ item ∈ front ++ bad :: (rear ++ [⟨image, slot last⟩]), item.known = true := by
    rw [← items, ← items_succ]
    exact items_known known _
  apply @willing_reaches noCallbacks 0 (by decide) _ _ harm front [] 0 Slot.enumerating
    follows_enumerating (fun _ => free_enumerating) noted reached
  rw [enumerated_contentFaults, items] at quiet
  exact quiet

theorem finish_error {ended : Slot × Except Int Int} {error : Int} (failed : ended.2 = .error error) :
    (finishItems pdata ended).2 = error := by
  rcases ended with ⟨slot, _ | _⟩ <;> cases failed
  rfl

theorem not_full_of_harmless (known : Known image) {last : Nat} (terminated : Terminated image last)
    (some : last ≠ 0) (harmless : Harmless image) :
    ¬ (supportedIn (before image last) = maxInterfaces ∧ gpiosIn (before image last) ≤ 1) := by
  rintro ⟨ten, few⟩
  have full := @willing_crowded noCallbacks 0 [⟨image, slot last⟩] (by simp) (before image last) [] 0
    Slot.enumerating follows_enumerating (fun _ => free_enumerating) (Nat.le_of_eq ten.symm) few
  have write := harmless.accepted last terminated ten noCallbacks 0 _ _ _ (by decide) readCard_of
    (readCard_run known terminated some) (finish_error full)
  cases write

theorem acceptable_of_harmless (magic : toEepromBuffer image = some image)
    (harmless : Harmless image) : Acceptable image := by
  have version : hostUint16 image versionOffset = EepromVersion 1 0 := by
    by_contra other
    exact readCard_error magic (unknown_version magic other) harmless
  have known : Known image := ⟨magic, version⟩
  rcases terminated_or_none image with ⟨last, terminated⟩ | none
  · by_cases first : last = 0
    · subst first
      have nothing : AllFine [] (before image 0) := by
        intro before item after split
        cases before <;> cases split
      exact ⟨version, 0, terminated, nothing, fun full => by cases full.1⟩
    · exact ⟨version, last, terminated, fine_of_harmless known terminated first harmless,
        not_full_of_harmless known terminated first harmless⟩
  · exact absurd harmless (readCard_error magic (load_overruns known (fun _ => rfl) none))

/-- Of the cards with the magic, the enumeration takes no harm from the acceptable ones. -/
theorem iot_slot_enumerate_harmless (magic : toEepromBuffer image = some image) :
    Harmless image ↔ Acceptable image :=
  ⟨acceptable_of_harmless magic, harmless_of_acceptable magic⟩

theorem iot_slot_enumerate_harmless_gpio : Harmless gpioCard ↔ Acceptable gpioCard :=
  iot_slot_enumerate_harmless gpio_card_known.magic

/-- An I2C interface with the interrupt line 4, of the lines 0 to 3. -/
def irqBytes : List (BitVec 8) := [1, 0x50, 4, 97, 0] ++ List.replicate 59 0 ++ [eepromIfLast]

def irqCard : Image := card irqBytes (by decide)

theorem irq_card_known : Known irqCard := card_known irqBytes (by decide)

theorem irq_card_not_fine : ¬ (Item.mk irqCard (slot 0)).Fine := by
  have known : (Item.mk irqCard (slot 0)).known = true :=
    items_known irq_card_known (slots 1) _ List.mem_cons_self
  have kind : (Item.mk irqCard (slot 0)).byte 0 = 1 := card_byte irqBytes (by decide) (by decide)
  have irq : (Item.mk irqCard (slot 0)).byte 2 = 4 := card_byte irqBytes (by decide) (by decide)
  intro fine
  simp only [Item.Fine, Item.type, known, kind, irq] at fine
  exact absurd fine.1 (by decide)

theorem irq_card_harms : ¬ ∀ image, toEepromBuffer image = some image → Harmless image := by
  intro claimed
  have magic : toEepromBuffer irqCard = some irqCard := irq_card_known.magic
  rcases (acceptable_of_harmless magic (claimed irqCard magic)).terminated with
    ⟨last, terminated, fine, _⟩
  cases last with
  | zero =>
      have first : irqCard.byte (slot 0) = 1 := card_byte irqBytes (by decide) (by decide)
      exact absurd (first.symm.trans terminated.2.1) (by decide)
  | succ last =>
      have starts : before irqCard (last + 1) =
          [] ++ ⟨irqCard, slot 0⟩ :: itemsOf irqCard ((List.range last).map (slot ∘ Nat.succ)) := by
        rw [before, slots, List.range_succ_eq_map, List.map_cons, List.map_map]
        rfl
      have reached : Reached ([] ++ []) := ⟨by decide, by decide⟩
      exact irq_card_not_fine (fine [] _ _ starts reached)

end Images

end MangOH.SlotCore
