import Mathlib.Data.List.GetD
import Mathlib.Data.BitVec
import Mathlib.Tactic.ByContra

/-!
The EEPROM of an IoT card. Its contents are read into a buffer of 4096 bytes:
a header with the magic and the version, and from offset 192 the descriptors of
the interfaces, of 64 bytes each. The walk over the descriptors has no bound
but the type byte of the one before.
-/

namespace MangOH.SlotEeprom

def iotEepromSize : Nat := 4096

/-- The buffer of `this_eeprom`. -/
structure Image where
  buffer : List (BitVec 8)
  size : buffer.length = iotEepromSize

/-- What the walk may run into. The memory after the buffer is not the card's. -/
inductive Fault where
  | bug
  | null
  | outside (offset : Nat)
deriving DecidableEq

def Image.byte (image : Image) (offset : Nat) : BitVec 8 := image.buffer.getD offset 0

/-- A byte read through a pointer that may have left the buffer. -/
def Image.read (image : Image) (offset : Nat) : Except Fault (BitVec 8) :=
  if offset < iotEepromSize then .ok (image.byte offset) else .error (.outside offset)

/-- The bytes of the EEPROM are in network order. -/
def hostUint16 (image : Image) (offset : Nat) : BitVec 16 :=
  image.byte offset ++ image.byte (offset + 1)

def EepromVersion (major minor : BitVec 8) : BitVec 16 := major ++ minor

def toEepromBuffer (image : Image) : Option Image :=
  if 0xAA ≠ image.byte 0 ∨ 0x55 ≠ image.byte 1 then none else some image

def versionOffset : Nat := 2

def eepromVersion (image : Image) : Except Fault (BitVec 16) :=
  match toEepromBuffer image with
  | none => .error .null
  | some buffer => .ok (hostUint16 buffer versionOffset)

def eepromIfLast : BitVec 8 := 0xFF

def eeprom1v0InterfaceOffset : Nat := 192

def sizeofIf1v0 : Nat := 64

/-- The interfaces are pointed at by their offsets in the buffer. -/
def eepromIfFirst (image : Image) : Except Fault (Option Nat) := do
  let version ← eepromVersion image
  if version = EepromVersion 1 0 then
    let type ← image.read eeprom1v0InterfaceOffset
    .ok (if type = eepromIfLast then none else some eeprom1v0InterfaceOffset)
  else .error .bug

def eepromIfNext (image : Image) (prev : Nat) : Except Fault (Option Nat) := do
  let version ← eepromVersion image
  if version = EepromVersion 1 0 then
    let type ← image.read prev
    .ok (if type = eepromIfLast then none else some (prev + sizeofIf1v0))
  else .error .bug

theorem next_cases {image : Image} {prev : Nat} {next : Option Nat}
    (found : eepromIfNext image prev = .ok next) :
    prev < iotEepromSize ∧
      next = if image.byte prev = eepromIfLast then none else some (prev + sizeofIf1v0) := by
  unfold eepromIfNext at found
  cases version : eepromVersion image with
  | error fault => simp [version, bind, Except.bind] at found
  | ok version' =>
      by_cases known : version' = EepromVersion 1 0
      · by_cases inside : prev < iotEepromSize
        · simp [version, known, Image.read, inside, bind, Except.bind] at found
          exact ⟨inside, found.symm⟩
        · simp [version, known, Image.read, inside, bind, Except.bind] at found
      · simp only [version, bind, Except.bind] at found
        rw [if_neg known] at found
        cases found

/-- The loop of `eeprom_load_interfaces`, with the items it has listed. `memory`
is what each `kzalloc` makes of its call. -/
def loadInterfaces (image : Image) (memory : Nat → Bool) (ifc : Option Nat) (count : Int)
    (items : List Nat) : Except Fault (Int × List Nat) :=
  match ifc with
  | none => .ok (count, items)
  | some ifc =>
      if memory items.length = false then .ok (-1, [])
      else
        match _found : eepromIfNext image ifc with
        | .error fault => .error fault
        | .ok next => loadInterfaces image memory next (count + 1) (items ++ [ifc])
termination_by match ifc with
  | none => 0
  | some ifc => iotEepromSize + sizeofIf1v0 - ifc
decreasing_by
  -- A pointer that was read is inside the buffer, and the next one is further on.
  have inside := (next_cases _found).1
  rw [(next_cases _found).2]
  split <;> simp_all [iotEepromSize, sizeofIf1v0] <;> omega

def eepromLoadInterfaces (image : Image) (memory : Nat → Bool) : Except Fault (Int × List Nat) := do
  let ifc ← eepromIfFirst image
  loadInterfaces image memory ifc 0 []

/-! What the list is for: the descriptors ahead of the first of type
`EEPROM_IF_LAST`, and all that fit into the buffer when there is none. -/

def slot (index : Nat) : Nat := eeprom1v0InterfaceOffset + sizeofIf1v0 * index

def slots (count : Nat) : List Nat := (List.range count).map slot

def slotCount : Nat := (iotEepromSize - eeprom1v0InterfaceOffset) / sizeofIf1v0

def descriptors (image : Image) : List Nat :=
  (slots slotCount).takeWhile fun offset => image.byte offset ≠ eepromIfLast

/-- The walk ends inside the buffer, and lists the descriptors when no allocation fails. -/
structure Listed (image : Image) : Prop where
  bounded : ∀ memory, ∃ outcome, eepromLoadInterfaces image memory = .ok outcome
  exact : ∀ memory, (∀ call, memory call = true) → ∀ count items,
    eepromLoadInterfaces image memory = .ok (count, items) →
      items = descriptors image ∧ count = items.length ∧
        ∀ item ∈ items, image.byte item ≠ eepromIfLast

/-- The magic and the version that the walk is written for. -/
structure Known (image : Image) : Prop where
  magic : toEepromBuffer image = some image
  version : hostUint16 image versionOffset = EepromVersion 1 0

section Walk
variable {image : Image} {memory : Nat → Bool}

theorem known_version (known : Known image) : eepromVersion image = .ok (EepromVersion 1 0) := by
  simp [eepromVersion, known.magic, known.version]

theorem first_known (known : Known image) : eepromIfFirst image =
    .ok (if image.byte (slot 0) = eepromIfLast then none else some (slot 0)) := by
  simp [eepromIfFirst, known_version known, Image.read, bind, Except.bind, slot,
    eeprom1v0InterfaceOffset, iotEepromSize]

theorem slot_succ (index : Nat) : slot index + sizeofIf1v0 = slot (index + 1) := by
  simp [slot, Nat.mul_add, Nat.add_assoc]

theorem slot_inside {index : Nat} : slot index < iotEepromSize ↔ index < slotCount := by
  simp only [slot, iotEepromSize, slotCount, eeprom1v0InterfaceOffset, sizeofIf1v0]
  omega

theorem next_inside (known : Known image) {index : Nat} (inside : index < slotCount) :
    eepromIfNext image (slot index) =
      .ok (if image.byte (slot index) = eepromIfLast then none else some (slot (index + 1))) := by
  simp [eepromIfNext, known_version known, Image.read, slot_inside.mpr inside, bind, Except.bind,
    slot_succ]

theorem next_outside (known : Known image) :
    eepromIfNext image (slot slotCount) = .error (.outside iotEepromSize) := by
  have outside : slot slotCount = iotEepromSize := by decide
  simp [eepromIfNext, known_version known, Image.read, outside, bind, Except.bind]

theorem slots_succ (count : Nat) : slots (count + 1) = slots count ++ [slot count] := by
  simp [slots, List.range_succ]

theorem slots_length (count : Nat) : (slots count).length = count := by
  simp [slots]

/-- One turn of the loop at a descriptor inside the buffer. -/
theorem walk_turn (known : Known image) {index : Nat} (inside : index < slotCount)
    (room : memory index = true) {count : Int} :
    loadInterfaces image memory (some (slot index)) count (slots index) =
      if image.byte (slot index) = eepromIfLast then .ok (count + 1, slots (index + 1))
      else loadInterfaces image memory (some (slot (index + 1))) (count + 1) (slots (index + 1)) := by
  rw [loadInterfaces, slots_length, if_neg (by simp [room])]
  split
  · rename_i fault failed
    rw [next_inside known inside] at failed
    cases failed
  · rename_i next found
    rw [next_inside known inside] at found
    cases found
    rw [slots_succ]
    split
    · rw [loadInterfaces]
    · rfl

theorem walk_exhausted {index : Nat} (none : memory index = false) {count : Int} :
    loadInterfaces image memory (some (slot index)) count (slots index) = .ok (-1, []) := by
  rw [loadInterfaces, slots_length, if_pos none]

/-- The terminator is listed too, since the loop asks a descriptor for its type
only once it has an item. -/
theorem walk_terminated (known : Known image) {last : Nat} (inside : last < slotCount)
    (isLast : image.byte (slot last) = eepromIfLast) (remaining : Nat) : ∀ {index : Nat},
    index + remaining = last →
    (∀ between, index ≤ between → between < last → image.byte (slot between) ≠ eepromIfLast) →
      loadInterfaces image memory (some (slot index)) index (slots index) =
          .ok ((last + 1 : Nat), slots (last + 1)) ∨
        (loadInterfaces image memory (some (slot index)) index (slots index) = .ok (-1, []) ∧
          ∃ call, memory call = false) := by
  induction remaining with
  | zero =>
      rintro index rfl _
      cases room : memory index with
      | false => exact .inr ⟨walk_exhausted room, index, room⟩
      | true => exact .inl ((walk_turn known inside room).trans (if_pos isLast))
  | succ remaining ih =>
      rintro index rfl others
      cases room : memory index with
      | false => exact .inr ⟨walk_exhausted room, index, room⟩
      | true =>
          have other := others index (Nat.le_refl _) (by omega)
          rw [walk_turn known (by omega) room, if_neg other]
          exact ih (by omega) fun between above below => others between (by omega) below

/-- Without a terminator the loop reads on after the buffer. -/
theorem walk_overruns (known : Known image) (room : ∀ call, memory call = true) (remaining : Nat) :
    ∀ {index : Nat}, index + remaining = slotCount →
    (∀ between, index ≤ between → between < slotCount →
      image.byte (slot between) ≠ eepromIfLast) → ∀ {count : Int},
      loadInterfaces image memory (some (slot index)) count (slots index) =
        .error (.outside iotEepromSize) := by
  induction remaining with
  | zero =>
      rintro index rfl _ count
      rw [loadInterfaces, if_neg (by simp [room])]
      split
      · rename_i fault failed
        rw [next_outside known] at failed
        cases failed
        rfl
      · rename_i next found
        rw [next_outside known] at found
        cases found
  | succ remaining ih =>
      rintro index whole others count
      have other := others index (Nat.le_refl _) (by omega)
      rw [walk_turn known (by omega) (room _), if_neg other]
      exact ih (by omega) fun between above below => others between (by omega) below

/-- Where the first terminator stands. -/
def Terminated (image : Image) (last : Nat) : Prop :=
  last < slotCount ∧ image.byte (slot last) = eepromIfLast ∧
    ∀ between < last, image.byte (slot between) ≠ eepromIfLast

theorem load_empty (known : Known image) (first : image.byte (slot 0) = eepromIfLast) :
    eepromLoadInterfaces image memory = .ok (0, []) := by
  rw [eepromLoadInterfaces, first_known known, if_pos first]
  exact loadInterfaces.eq_1 _ _ _ _

theorem load_nonempty (known : Known image) (first : image.byte (slot 0) ≠ eepromIfLast) :
    eepromLoadInterfaces image memory = loadInterfaces image memory (some (slot 0)) 0 (slots 0) := by
  rw [eepromLoadInterfaces, first_known known, if_neg first]
  rfl

theorem load_terminated (known : Known image) {last : Nat} (terminated : Terminated image last)
    (some : last ≠ 0) : eepromLoadInterfaces image memory = .ok ((last + 1 : Nat), slots (last + 1)) ∨
      (eepromLoadInterfaces image memory = .ok (-1, []) ∧ ∃ call, memory call = false) := by
  rw [load_nonempty known (terminated.2.2 0 (Nat.pos_of_ne_zero some))]
  exact walk_terminated known terminated.1 terminated.2.1 last (Nat.zero_add _)
    fun between _ below => terminated.2.2 between below

theorem load_overruns (known : Known image) (room : ∀ call, memory call = true)
    (none : ∀ index < slotCount, image.byte (slot index) ≠ eepromIfLast) :
    eepromLoadInterfaces image memory = .error (.outside iotEepromSize) := by
  rw [load_nonempty known (none 0 (by decide))]
  exact walk_overruns known room slotCount (Nat.zero_add _) fun between _ below => none between below

/-- Either some descriptor is the first terminator, or none is one. -/
theorem terminated_or_none (image : Image) : (∃ last, Terminated image last) ∨
    ∀ index < slotCount, image.byte (slot index) ≠ eepromIfLast := by
  by_contra neither
  rw [not_or] at neither
  apply neither.2
  intro index
  induction index using Nat.strongRecOn with
  | ind index ih =>
      intro inside isLast
      exact neither.1 ⟨index, inside, isLast, fun between below => ih between below (by omega)⟩

end Walk

section Listing
variable {image : Image}

theorem descriptors_empty (first : image.byte (slot 0) = eepromIfLast) : descriptors image = [] := by
  have starts : slots slotCount = slot 0 :: (List.range 60).map (slot ∘ Nat.succ) := by
    rw [slots, show slotCount = 60 + 1 from rfl, List.range_succ_eq_map, List.map_cons, List.map_map]
  simp [descriptors, starts, first]

theorem listed_empty (known : Known image) (first : image.byte (slot 0) = eepromIfLast) :
    Listed image := by
  constructor
  · exact fun memory => ⟨_, load_empty known first⟩
  · intro memory _ count items loaded
    rw [load_empty known first] at loaded
    cases loaded
    exact ⟨(descriptors_empty first).symm, rfl, fun item member => by cases member⟩

/-- A first descriptor that is no terminator brings the terminator into the list,
or takes the walk out of the buffer. -/
theorem not_listed (known : Known image) (first : image.byte (slot 0) ≠ eepromIfLast) :
    ¬ Listed image := by
  intro listed
  have room : ∀ call : Nat, (fun _ => true : Nat → Bool) call = true := fun _ => rfl
  rcases terminated_or_none image with ⟨last, terminated⟩ | none
  · have some : last ≠ 0 := by
      rintro rfl
      exact first terminated.2.1
    rcases @load_terminated image (fun _ => true) known last terminated some with loaded | short
    · have kept := (listed.exact _ room _ _ loaded).2.2 (slot last)
      exact kept (by simp [slots_succ]) terminated.2.1
    · rcases short with ⟨_, call, full⟩
      cases full
  · rcases listed.bounded fun _ => true with ⟨outcome, loaded⟩
    rw [load_overruns known room none] at loaded
    cases loaded

/-! Cards with given descriptors, and erased after these. -/

def cardSpace : Nat := iotEepromSize - eeprom1v0InterfaceOffset

def card (interfaces : List (BitVec 8)) (fits : interfaces.length ≤ cardSpace) : Image where
  buffer := [0xAA, 0x55, 1, 0] ++ List.replicate (eeprom1v0InterfaceOffset - 4) 0 ++ interfaces ++
    List.replicate (cardSpace - interfaces.length) 0xFF
  size := by
    simp only [List.length_append, List.length_replicate, List.length_cons, List.length_nil]
    simp only [cardSpace, iotEepromSize, eeprom1v0InterfaceOffset] at fits ⊢
    omega

theorem card_known (interfaces : List (BitVec 8)) (fits : interfaces.length ≤ cardSpace) :
    Known (card interfaces fits) := by
  constructor <;> rfl

theorem card_byte (interfaces : List (BitVec 8)) (fits : interfaces.length ≤ cardSpace) {index : Nat}
    (inside : index < interfaces.length) :
    (card interfaces fits).byte (eeprom1v0InterfaceOffset + index) = interfaces[index] := by
  simp only [Image.byte, card]
  have header : ([0xAA, 0x55, 1, 0] ++ List.replicate (eeprom1v0InterfaceOffset - 4) 0 :
      List (BitVec 8)).length = eeprom1v0InterfaceOffset := by
    rw [List.length_append, List.length_replicate]
    rfl
  rw [List.getD_append _ _ _ _ (by rw [List.length_append, header]; omega),
    List.getD_append_right _ _ _ _ (by rw [header]; omega), header, Nat.add_sub_cancel_left]
  exact List.getD_eq_getElem _ _ inside

/-- The walk keeps to its list exactly on a card without any interface. -/
theorem eeprom_load_interfaces_lists (known : Known image) :
    Listed image ↔ image.byte eeprom1v0InterfaceOffset = eepromIfLast := by
  constructor
  · intro listed
    by_contra first
    exact not_listed known first listed
  · exact listed_empty known

/-- One GPIO interface and the terminator. -/
def gpioBytes : List (BitVec 8) := [0, 1, 1, 1, 1] ++ List.replicate 59 0 ++ [eepromIfLast]

def gpioCard : Image := card gpioBytes (by decide)

theorem gpio_card_known : Known gpioCard := card_known gpioBytes (by decide)

theorem eeprom_load_interfaces_lists_card :
    Listed gpioCard ↔ gpioCard.byte eeprom1v0InterfaceOffset = eepromIfLast :=
  eeprom_load_interfaces_lists gpio_card_known

theorem gpio_card_not_listed : ¬ ∀ image, Known image → Listed image := by
  intro claimed
  have first : gpioCard.byte (slot 0) = 0 := card_byte gpioBytes (by decide) (by decide)
  exact not_listed gpio_card_known (by rw [first]; decide) (claimed gpioCard gpio_card_known)

end Listing

end MangOH.SlotEeprom
