import MangOH.NtagCalls

/-!
The adapter for the EEPROM. Its write reports success once it has come to the store, so
everything after that point has to go well by itself; and a size is passed in a byte,
which is whole blocks of at most 255 bytes.
-/

namespace MangOH.Nfc

open Blocks

variable {works again : Nat → Bool}

/-! What the tag says of itself. -/

def capabilityContainer (memory : Content) : List Byte := ((memory 0).items.drop 12).take 4

def formatted (memory : Content) : Bool := (capabilityContainer memory).getD 0 0 = 0xE1

def capacity (memory : Content) : Nat := ((capabilityContainer memory).getD 2 0).toNat * 8

def blank (memory : Content) : Bool := (memory 1).items.take 4 == [0, 0, 0, 0]

theorem getCapabilityContainer_eq (ntag : Ntag) (bus : Bus) :
    getCapabilityContainer works ntag bus =
      (if works bus.made then some (capabilityContainer bus.memory) else none, bus.count) := by
  have valid : isAddressValid ntag.dt .config 0 = true := by cases ntag.dt <;> rfl
  have items : (bus.memory 0).items.take 16 = (bus.memory 0).items :=
    List.take_of_length_le (Nat.le_of_eq (bus.memory 0).full)
  simp only [getCapabilityContainer, readBlock_valid valid (by decide) (Nat.le_refl 16), items]
  split <;> rfl

theorem usermem_valid (dt : DeviceType) {blockNr : Nat} (first : 1 ≤ blockNr) (last : blockNr ≤ 16) :
    isAddressValid dt .usermem blockNr = true := by
  cases dt <;> simp only [isAddressValid, decide_eq_true_eq] <;> omega

theorem readEeprom_start (ntag : Ntag) (length : Byte) (bus : Bus) :
    readEeprom works ntag 0 length bus =
      readLoop works ntag.dt .usermem (count 16 length.toNat) (count 16 length.toNat) 1 16
        length.toNat bus := by
  have last : (16 + length.toNat - 1) / 16 = count 16 length.toNat := by
    simp only [count]
    omega
  rw [← last]
  rfl

theorem readEeprom_read (ntag : Ntag) (length : Byte) (bus : Bus) :
    ∃ read, ReadOf works bus 1 (count 16 length.toNat) length.toNat read
      (readEeprom works ntag 0 length bus) := by
  have small : length.toNat < 256 := length.isLt
  rw [readEeprom_start]
  apply readLoop_aligned
  · omega
  · rfl
  · simp only [count]
    omega
  · simp only [count]
    omega
  · intro place below
    simp only [count] at below
    exact usermem_valid ntag.dt (by omega) (by omega)

/-- A read within the first block. -/
theorem readEeprom_first (ntag : Ntag) {length : Byte} (positive : 0 < length.toNat)
    (short : length.toNat ≤ 16) (bus : Bus) : readEeprom works ntag 0 length bus =
      (works bus.made, if works bus.made then (bus.memory 1).items.take length.toNat else [], bus.count) := by
  have valid : isAddressValid ntag.dt .usermem 1 = true := usermem_valid ntag.dt (by decide) (by decide)
  have one : count 16 length.toNat = 0 + 1 := by
    simp only [count]
    omega
  rw [readEeprom_start, one, readLoop_step valid rfl]
  cases works bus.made with
  | false => rfl
  | true => simp [readLoop]

namespace NtagEepromAdapter

theorem readCapabilityContainer_eq (adapter : NtagEepromAdapter) (bus : Bus) :
    readCapabilityContainer works adapter bus =
      (!works bus.made || formatted bus.memory,
        if works bus.made && formatted bus.memory then
          { adapter with tagCapacity := capacity bus.memory } else adapter, bus.count) := by
  rw [readCapabilityContainer, getCapabilityContainer_eq]
  cases works bus.made with
  | false => rfl
  | true =>
      by_cases magic : (capabilityContainer bus.memory).getD 0 0 = 0xE1
      · simp only [formatted, capacity, magic, ne_eq, not_true_eq_false, if_true, if_false, decide_true,
          Bool.not_true, Bool.false_or, Bool.and_self]
      · simp only [formatted, magic, ne_eq, not_false_eq_true, if_true, decide_false, Bool.not_true,
          Bool.or_self, Bool.and_false, Bool.false_eq_true, if_false]

/-- Only the capacity is learned from the container. -/
theorem container_kept (works : Nat → Bool) (adapter : NtagEepromAdapter) (bus : Bus) :
    ∃ after : NtagEepromAdapter,
      readCapabilityContainer works adapter bus =
        (!works bus.made || formatted bus.memory, after, bus.count) ∧
      after.ntag = adapter.ntag ∧ after.messageLength = adapter.messageLength ∧
      after.ndefStartIndex = adapter.ndefStartIndex := by
  refine ⟨_, readCapabilityContainer_eq adapter bus, ?_⟩
  split <;> exact ⟨rfl, rfl, rfl⟩

theorem isUnformatted_eq (adapter : NtagEepromAdapter) (bus : Bus) :
    isUnformatted works adapter bus = (works bus.made && blank bus.memory, bus.count) := by
  rw [isUnformatted, readEeprom_first adapter.ntag (by decide) (by decide)]
  cases works bus.made <;> simp [blank]

/-- Where the first block begins with the type, its length is found, or the old one is kept. -/
theorem findNdefMessage_eq {adapter : NtagEepromAdapter} {bus : Bus} {length : Byte}
    (type : (bus.memory 1).items[0]? = some 3) (found : (bus.memory 1).items[1]? = some length)
    (same : adapter.messageLength = length.toNat) (start : adapter.ndefStartIndex = 2) :
    findNdefMessage works adapter bus = (adapter, bus.count) := by
  have items : (bus.memory 1).items.take 16 = (bus.memory 1).items :=
    List.take_of_length_le (Nat.le_of_eq (bus.memory 1).full)
  rw [findNdefMessage, readEeprom_first adapter.ntag (by decide) (by decide)]
  cases works bus.made with
  | false => rfl
  | true =>
      have size : ((16 : Byte)).toNat = 16 := rfl
      cases adapter
      simp_all [List.getD_eq_getElem?_getD]

/-! What is stored. -/

/-- The type, the length, the message and the terminator. -/
def tlv (message : List Byte) : List Byte := header message.length ++ message ++ [terminator]

theorem length_header (messageLength : Nat) : (header messageLength).length = startIndex messageLength := by
  rw [header, startIndex]
  split <;> rfl

theorem length_tlv (message : List Byte) :
    (tlv message).length = message.length + startIndex message.length + 1 := by
  rw [tlv, List.length_append, List.length_append, length_header, List.length_singleton,
    Nat.add_comm (startIndex _)]

theorem sizeFor_eq (messageLength start : Nat) :
    sizeFor messageLength start = 16 * count 16 (messageLength + start + 1) := by
  simp only [sizeFor, ntagBlockSize, count]
  split <;> omega

def storedSize (message : List Byte) : Nat := sizeFor message.length (startIndex message.length)

theorem storedSize_eq (message : List Byte) :
    storedSize message = 16 * count 16 (tlv message).length := by
  rw [storedSize, sizeFor_eq, length_tlv]

theorem tlv_fits (message : List Byte) : (tlv message).length ≤ storedSize message := by
  rw [storedSize_eq, count]
  omega

theorem encoded_take (message : List Byte) :
    (encoded message (storedSize message)).take (tlv message).length = tlv message := by
  rw [encoded, ← tlv, List.take_left']
  rfl

theorem length_encoded (message : List Byte) :
    (encoded message (storedSize message)).length = storedSize message := by
  have fits := tlv_fits message
  have length := length_tlv message
  rw [encoded, ← tlv, List.length_append, List.length_replicate]
  omega

/-- The write comes to the store: what was found out about the tag allows it. -/
def Reaches (works : Nat → Bool) (wait : Wait) (message : List Byte) (adapter : NtagEepromAdapter)
    (memory : Content) : Prop :=
  (waitUntilRfDone wait adapter.ntag).1 = true ∧ (works 0 = true → formatted memory = true) ∧
    (works 1 = true → blank memory = false) ∧
    storedSize message ≤ if works 0 then capacity memory else adapter.tagCapacity

/-- The store, behind two transfers. -/
def storing (works : Nat → Bool) (wait : Wait) (message : List Byte) (adapter : NtagEepromAdapter)
    (memory : Content) : Bool × Ntag × Bus :=
  writeRest works (waitUntilRfDone wait adapter.ntag).2 .usermem 1
    ((encoded message (storedSize message)).take (storedSize message % 256)) (Bus.start memory).count.count

/-- The adapter behind the wait and the reading of the container. -/
def opened (works : Nat → Bool) (wait : Wait) (adapter : NtagEepromAdapter) (memory : Content) :
    NtagEepromAdapter :=
  if works 0 && formatted memory then
    { adapter with ntag := (waitUntilRfDone wait adapter.ntag).2, tagCapacity := capacity memory }
  else { adapter with ntag := (waitUntilRfDone wait adapter.ntag).2 }

theorem opened_ntag (wait : Wait) (adapter : NtagEepromAdapter) (memory : Content) :
    (opened works wait adapter memory).ntag = (waitUntilRfDone wait adapter.ntag).2 := by
  rw [opened]
  split <;> rfl

theorem opened_uid (wait : Wait) (adapter : NtagEepromAdapter) (memory : Content) :
    (opened works wait adapter memory).uid = adapter.uid := by
  rw [opened]
  split <;> rfl

theorem opened_capacity {wait : Wait} {adapter : NtagEepromAdapter} {memory : Content}
    (magic : works 0 = true → formatted memory = true) :
    (opened works wait adapter memory).tagCapacity =
      if works 0 then capacity memory else adapter.tagCapacity := by
  cases first : works 0 with
  | false => simp [opened, first]
  | true => simp [opened, first, magic first]

theorem write_eq (wait : Wait) (message : List Byte) (adapter : NtagEepromAdapter) (memory : Content) :
    write works wait message adapter (Bus.start memory) =
      if !(waitUntilRfDone wait adapter.ntag).1 then
        (false, { adapter with ntag := (waitUntilRfDone wait adapter.ntag).2 }, Bus.start memory)
      else if !(!works 0 || formatted memory) then
        (false, opened works wait adapter memory, (Bus.start memory).count)
      else if works 1 && blank memory then
        (false, opened works wait adapter memory, (Bus.start memory).count.count)
      else
        let sized : NtagEepromAdapter := { opened works wait adapter memory with
          messageLength := message.length, bufferSize := storedSize message,
          ndefStartIndex := startIndex message.length }
        if storedSize message > (opened works wait adapter memory).tagCapacity then
          (false, sized, (Bus.start memory).count.count)
        else (true, { sized with ntag := (storing works wait message adapter memory).2.1 },
          finish works (storing works wait message adapter memory)) := by
  have start : (opened works wait adapter memory).ntag = (waitUntilRfDone wait adapter.ntag).2 :=
    opened_ntag wait adapter memory
  have read : readCapabilityContainer works
      { adapter with ntag := (waitUntilRfDone wait adapter.ntag).2 } (Bus.start memory) =
        (!works 0 || formatted memory, opened works wait adapter memory, (Bus.start memory).count) :=
    readCapabilityContainer_eq _ _
  simp only [write, read, isUnformatted_eq, calculateBufferSize, start, writeEeprom_start,
    BitVec.toNat_ofNat]
  rfl

theorem write_refused {wait : Wait} {message : List Byte} {adapter : NtagEepromAdapter}
    {memory : Content} (refused : ¬ Reaches works wait message adapter memory) :
    (write works wait message adapter (Bus.start memory)).1 = false ∧
      (write works wait message adapter (Bus.start memory)).2.2.memory = memory := by
  rw [write_eq]
  split
  · exact ⟨rfl, rfl⟩
  · rename_i done
    split
    · exact ⟨rfl, rfl⟩
    · rename_i magic
      split
      · exact ⟨rfl, rfl⟩
      · rename_i written
        have known : works 0 = true → formatted memory = true := by simpa using magic
        by_cases fits : storedSize message > (opened works wait adapter memory).tagCapacity
        · simp only [if_pos fits]
          exact ⟨trivial, rfl⟩
        · rw [opened_capacity known] at fits
          refine absurd ⟨?_, known, ?_, Nat.le_of_not_lt fits⟩ refused
          · simpa using done
          · simpa using written

theorem write_reaches {wait : Wait} {message : List Byte} {adapter : NtagEepromAdapter}
    {memory : Content} (reaches : Reaches works wait message adapter memory) :
    ∃ tagCapacity, write works wait message adapter (Bus.start memory) =
      (true, { adapter with
        ntag := (storing works wait message adapter memory).2.1, tagCapacity,
        messageLength := message.length, bufferSize := storedSize message,
        ndefStartIndex := startIndex message.length },
        finish works (storing works wait message adapter memory)) := by
  obtain ⟨done, magic, written, fits⟩ := reaches
  rw [← @opened_capacity works wait adapter memory magic] at fits
  refine ⟨(opened works wait adapter memory).tagCapacity, ?_⟩
  have first : ¬ (!(!works 0 || formatted memory)) = true := by simpa using magic
  have second : ¬ (works 1 && blank memory) = true := by simpa using written
  rw [write_eq, if_neg (by simp [done]), if_neg first, if_neg second]
  simp only [gt_iff_lt, if_neg (Nat.not_lt.mpr fits), opened_uid]

/-! What is read back. -/

/-- The first two bytes of a short message, in the tag's first block. -/
theorem tlv_first {memory : Content} {message : List Byte} (short : message.length < 0xFF)
    (holds : Holds memory 1 (tlv message)) :
    (memory 1).items[0]? = some 3 ∧
      (memory 1).items[1]? = some (BitVec.ofNat 8 message.length) := by
  have long : 2 < (tlv message).length := by
    rw [length_tlv, startIndex, if_pos short]
    omega
  constructor
  · rw [holds.first (by decide) (by omega), tlv, header, if_pos short]
    rfl
  · rw [holds.first (by decide) (by omega), tlv, header, if_pos short]
    rfl

theorem blank_of_type {memory : Content} (type : (memory 1).items[0]? = some 3) :
    blank memory = false := by
  rw [blank, beq_eq_false_iff_ne]
  intro zero
  have first := congrArg (·[0]?) zero
  simp only [List.getElem?_take_of_lt (by decide : 0 < 4), type] at first
  cases first

/-- What a read returns, by the transfer that reads the container and those of the message. -/
theorem read_stored {adapter : NtagEepromAdapter} {memory : Content} {message : List Byte}
    (short : message.length < 0xFF) (holds : Holds memory 1 (tlv message))
    (length : adapter.messageLength = message.length) (start : adapter.ndefStartIndex = 2) :
    (read again adapter (Bus.start memory)).1.cells =
      if again 1 && !formatted memory then none
      else if message = [] then some []
      else some (part (readEeprom again adapter.ntag 0 (BitVec.ofNat 8 (storedSize message))
        (Bus.start memory).count.count.count).2.1 (storedSize message) 2 message.length) := by
  obtain ⟨type, second⟩ := tlv_first short holds
  have size : sizeFor message.length 2 = storedSize message := by
    rw [storedSize, startIndex, if_pos short]
  have number : (BitVec.ofNat 8 message.length).toNat = message.length := by
    rw [BitVec.toNat_ofNat]
    exact Nat.mod_eq_of_lt (by omega)
  obtain ⟨after, container, same⟩ := container_kept again adapter (Bus.start memory).count
  change _ = (!again 1 || formatted memory, after, (Bus.start memory).count.count) at container
  have found : findNdefMessage again after (Bus.start memory).count.count =
      (after, (Bus.start memory).count.count.count) :=
    findNdefMessage_eq type second (by rw [same.2.1, length, number]) (same.2.2.trans start)
  have unformatted : isUnformatted again adapter (Bus.start memory) =
      (false, (Bus.start memory).count) := by
    rw [isUnformatted_eq]
    simp [Bus.start, blank_of_type type]
  simp only [read, unformatted, container, found, calculateBufferSize, same.1, same.2.1, same.2.2,
    length, start, size]
  by_cases magic : (!again 1 || formatted memory) = true
  · have known : ¬ (again 1 && !formatted memory) = true := by
      cases first : again 1 <;> simp_all
    simp only [magic, Bool.not_true, Bool.false_eq_true, if_false, if_neg known]
    by_cases empty : message = []
    · rw [if_pos empty, empty]
      rfl
    · have some_length : message.length ≠ 0 := fun zero => empty (List.length_eq_zero_iff.mp zero)
      rw [if_neg some_length, if_neg empty]
      rfl
  · have unknown : (again 1 && !formatted memory) = true := by simpa using magic
    rw [Bool.not_eq_true] at magic
    simp only [magic, Bool.not_false, if_true, if_pos unknown]
    rfl

theorem readBack_iff {adapter : NtagEepromAdapter} {memory : Content} {message : List Byte}
    (small : storedSize message < 256) (holds : Holds memory 1 (tlv message))
    (length : adapter.messageLength = message.length) (start : adapter.ndefStartIndex = 2) :
    ReadBack message (∀ transfer, again transfer = true) (read again adapter (Bus.start memory)).1 ↔
      ((∀ transfer, again transfer = true) → formatted memory = true) ∧
        ((again 1 = true → formatted memory = true) → message = [] ∨
          ∀ transfer < count 16 (2 + message.length), again (3 + transfer) = true) := by
  have fits := tlv_fits message
  have long := length_tlv message
  have short : message.length < 0xFF := by omega
  have blocks : storedSize message = 16 * count 16 (tlv message).length := storedSize_eq message
  have number : (BitVec.ofNat 8 (storedSize message)).toNat = storedSize message := whole_iff.mpr small
  have counted : count 16 (storedSize message) = count 16 (tlv message).length := by
    simp only [blocks, count]
    omega
  obtain ⟨blocksRead, ran⟩ := @readEeprom_read again adapter.ntag (BitVec.ofNat 8 (storedSize message))
    (Bus.start memory).count.count.count
  rw [number, counted, blocks] at ran
  have parts := @part_iff again _ _ _ _ _ [messageTypeNdef, BitVec.ofNat 8 message.length] message
    [terminator] ran (by
      have held := holds
      rwa [tlv, header, if_pos short] at held) (by
      rw [← blocks, List.length_cons, List.length_singleton]
      rw [startIndex, if_pos short] at long
      omega)
  rw [ReadBack, read_stored short holds length start, blocks]
  by_cases unknown : (again 1 && !formatted memory) = true
  · rw [if_pos unknown]
    rw [Bool.and_eq_true, Bool.not_eq_true'] at unknown
    simp [unknown.1, unknown.2]
  · have magic : again 1 = true → formatted memory = true := by
      cases first : again 1 <;> simp_all
    have formed : (∀ transfer, again transfer = true) → formatted memory = true :=
      fun undisturbed => magic (undisturbed 1)
    rw [if_neg unknown]
    by_cases empty : message = []
    · rw [if_pos empty]
      constructor
      · intro _
        exact ⟨formed, fun _ => Or.inl empty⟩
      · intro _
        refine ⟨fun cells found => ?_, fun _ none => by cases none⟩
        rw [← Option.some.inj found, empty]
        rfl
    · rw [if_neg empty]
      constructor
      · intro back
        exact ⟨formed, fun _ => parts.mp (back.1 _ rfl)⟩
      · intro sound
        refine ⟨fun cells found => ?_, fun _ none => by cases none⟩
        rw [← Option.some.inj found]
        exact parts.mpr (sound.2 magic)

/-! The store of a message that a byte has the size of. -/

theorem small_iff (message : List Byte) : storedSize message < 256 ↔ message.length ≤ 237 := by
  rw [storedSize_eq, length_tlv, startIndex, count]
  split <;> omega

theorem storing_small {wait : Wait} {message : List Byte} {adapter : NtagEepromAdapter}
    {memory : Content} (small : storedSize message < 256)
    (through : ∀ transfer < count 16 (tlv message).length, works (2 + transfer) = true) :
    let stored := storing works wait message adapter memory
    stored.2.2.made = 2 + count 16 (tlv message).length ∧
      Holds stored.2.2.memory 1 (tlv message) ∧ stored.2.2.memory 0 = memory 0 ∧
      Acknowledged stored.2.2.sent 1 (tlv message) ∧
      lastNdef stored.2.1 = count 16 (tlv message).length := by
  have size : storedSize message = 16 * count 16 (tlv message).length := storedSize_eq message
  have length : (encoded message (storedSize message)).length = storedSize message := length_encoded message
  have whole : (encoded message (storedSize message)).take (storedSize message % 256) =
      encoded message (storedSize message) := by
    rw [Nat.mod_eq_of_lt small]
    exact List.take_of_length_le (Nat.le_of_eq length)
  have counted : count 16 (storedSize message) = count 16 (tlv message).length := by
    simp only [size, count]
    omega
  -- The data fills its blocks, so that each takes one transfer.
  have all : transfers (storedSize message) = count 16 (tlv message).length := by
    simp only [size, transfers]
    split <;> omega
  have few : count 16 (tlv message).length < 16 := by omega
  obtain ⟨after, ran, stored⟩ := @writeLoop_all works (waitUntilRfDone wait adapter.ntag).2.dt .usermem
    (encoded message (storedSize message)).length 1 (encoded message (storedSize message))
    (Bus.start memory).count.count (by omega)
    (fun place inside => usermem_valid _ (by omega) (by omega))
    (fun transfer below => through transfer (by rwa [length, all] at below))
  have result : storing works wait message adapter memory = (true,
      { (waitUntilRfDone wait adapter.ntag).2 with
        lastMemBlockWritten := (1 + count 16 (tlv message).length + 255) % 256 }, after) := by
    rw [length, counted] at ran
    simp only [storing, writeRest, whole, length, ran, if_true]
  have made := stored.made
  have others := stored.others 0 (Or.inl (by decide))
  have holds := stored.holds.take (tlv message).length
  have acknowledged := stored.acknowledged.take (tlv message).length
  rw [encoded_take] at holds acknowledged
  rw [length, all] at made
  simp only [result]
  refine ⟨made, holds, others, acknowledged, ?_⟩
  have written : (1 + count 16 (tlv message).length + 255) % 256 = count 16 (tlv message).length := by
    omega
  -- The last block is none of the volatile memory.
  have low : isAddressValid (waitUntilRfDone wait adapter.ntag).2.dt .sram
      (count 16 (tlv message).length) = false := by
    simp only [isAddressValid, decide_eq_false_iff_not]
    omega
  simp only [lastNdef, written, low, Bool.false_eq_true, if_false]

theorem storing_needed {wait : Wait} {message : List Byte} {adapter : NtagEepromAdapter}
    {memory : Content} {last : Byte} (small : storedSize message < 256)
    (needed : Needed (finish works (storing works wait message adapter memory)).sent 1 (tlv message) last) :
    ∀ transfer ≤ count 16 (tlv message).length, works (2 + transfer) = true := by
  have size : storedSize message = 16 * count 16 (tlv message).length := storedSize_eq message
  have length : ((encoded message (storedSize message)).take (storedSize message % 256)).length =
      storedSize message := by
    rw [List.length_take, length_encoded, Nat.mod_eq_of_lt small, Nat.min_self]
  have short : 1 + count 16 ((encoded message (storedSize message)).take
      (storedSize message % 256)).length < 0xFE := by
    simp only [length, count]
    omega
  obtain ⟨_, blocks, last⟩ := @needed_through works (waitUntilRfDone wait adapter.ntag).2 .usermem 1 _
    (tlv message) (Bus.start memory).count.count last (by decide) rfl short needed
  have through : ∀ transfer < count 16 (tlv message).length, works (2 + transfer) = true := by
    intro transfer below
    have inside : 16 * transfer < (tlv message).length := by
      simp only [count] at below
      omega
    have full : 16 * transfer + 16 ≤ storedSize message := by omega
    have own := blocks transfer inside (by omega) transfer
    rw [length, transferOf, if_pos full] at own
    exact own (Nat.le_refl _)
  intro transfer bound
  rcases Nat.lt_or_eq_of_le bound with below | behind
  · exact through transfer below
  · have made := (@storing_small works wait message adapter memory small through).1
    rw [behind, ← made]
    exact last

/-- What is expected of a write and the read after it. -/
def Kept (works again : Nat → Bool) (wait : Wait) (message : List Byte) (adapter : NtagEepromAdapter)
    (memory : Content) : Prop :=
  let written := write works wait message adapter (Bus.start memory)
  let tag := (read again written.2.1 (Bus.start written.2.2.memory)).1
  (written.1 = true →
    Needed written.2.2.sent 1 (tlv message) (BitVec.ofNat 8 (count 16 (tlv message).length)) ∧
      ReadBack message (∀ transfer, again transfer = true) tag ∧ Whole written.2.1.bufferSize) ∧
    (capacity memory < (tlv message).length → written.1 = false ∧ written.2.2.memory = memory)

/-- A write that comes to the store has room for the message, which a byte has the size of,
and none of its transfers fails from there on; the read after it finds the container's
first byte, and misses no block of the message. -/
def Sound (works again : Nat → Bool) (wait : Wait) (message : List Byte) (adapter : NtagEepromAdapter)
    (memory : Content) : Prop :=
  Reaches works wait message adapter memory →
    (tlv message).length ≤ capacity memory ∧ message.length ≤ 237 ∧
      (∀ transfer ≤ count 16 (tlv message).length, works (2 + transfer) = true) ∧
      ((∀ transfer, again transfer = true) → formatted memory = true) ∧
      ((again 1 = true → formatted memory = true) → message = [] ∨
        ∀ transfer < count 16 (2 + message.length), again (3 + transfer) = true)

theorem kept_iff (works again : Nat → Bool) (wait : Wait) (message : List Byte)
    (adapter : NtagEepromAdapter) (memory : Content) :
    Kept works again wait message adapter memory ↔ Sound works again wait message adapter memory := by
  by_cases reaches : Reaches works wait message adapter memory
  · obtain ⟨tagCapacity, written⟩ := write_reaches reaches
    simp only [Kept, Sound, written, reaches, true_imp_iff, finish_memory, Bool.true_eq_false,
      false_and, imp_false, Nat.not_lt]
    rw [whole_iff]
    -- What the transfers leave on the tag, and what a read makes of it.
    have parts (small : storedSize message < 256)
        (through : ∀ transfer ≤ count 16 (tlv message).length, works (2 + transfer) = true) :
        Needed (finish works (storing works wait message adapter memory)).sent 1 (tlv message)
          (BitVec.ofNat 8 (count 16 (tlv message).length)) ∧
        (ReadBack message (∀ transfer, again transfer = true) (read again { adapter with
          ntag := (storing works wait message adapter memory).2.1, tagCapacity,
          messageLength := message.length, bufferSize := storedSize message,
          ndefStartIndex := startIndex message.length }
          (Bus.start (storing works wait message adapter memory).2.2.memory)).1 ↔
          ((∀ transfer, again transfer = true) → formatted memory = true) ∧
            ((again 1 = true → formatted memory = true) → message = [] ∨
              ∀ transfer < count 16 (2 + message.length), again (3 + transfer) = true)) := by
      obtain ⟨made, holds, first, acknowledged, last⟩ :=
        @storing_small works wait message adapter memory small
          (fun transfer below => through transfer (Nat.le_of_lt below))
      constructor
      · refine ⟨fun place inside => ?_, ?_⟩
        · obtain ⟨rest, member⟩ := acknowledged place inside
          exact ⟨rest, finish_earlier member⟩
        · rw [← last]
          apply finish_last
          rw [made]
          exact through _ (Nat.le_refl _)
      · have short : message.length < 0xFF := by
          have bound := (small_iff message).mp small
          omega
        have same : formatted (storing works wait message adapter memory).2.2.memory = formatted memory := by
          rw [formatted, formatted, capabilityContainer, capabilityContainer, first]
        rw [readBack_iff small holds rfl (if_pos short), same]
    constructor
    · rintro ⟨⟨needed, back, small⟩, fits⟩
      have through := storing_needed small needed
      exact ⟨fits, (small_iff message).mp small, through, (parts small through).2.mp back⟩
    · rintro ⟨fits, short, through, sound⟩
      have small := (small_iff message).mpr short
      exact ⟨⟨(parts small through).1, (parts small through).2.mpr sound, small⟩, fits⟩
  · have refused := write_refused reaches
    simp [Kept, Sound, refused, reaches]

end NtagEepromAdapter

end MangOH.Nfc
