import MangOH.NtagStore

/-!
Reading a tag that anyone may have written. The bytes that a message is built from are
to be read in the same call, from where that call found the message.
-/

namespace MangOH.Nfc

open Blocks

variable {works : Nat → Bool}

/-- A part of a buffer is bytes of the tag, all of them read, just when every transfer for
a block with one of them goes through. -/
theorem part_contents_iff {bus : Bus} {first left read start length : Nat}
    {result : Bool × List Byte × Bus} (ran : ReadOf works bus first left (16 * left) read result)
    (fits : start + length ≤ 16 * left) :
    part result.2.1 (16 * left) start length =
        (((contents bus.memory first left).drop start).take length).map some ↔
      length = 0 ∨ ∀ transfer < count 16 (start + length), works (bus.made + transfer) = true := by
  have whole : (contents bus.memory first left).length = 16 * left := length_contents _ _ _
  have header : ((contents bus.memory first left).take start).length = start := by
    rw [List.length_take]
    omega
  have message : (((contents bus.memory first left).drop start).take length).length = length := by
    rw [List.length_take, List.length_drop]
    omega
  have split : (contents bus.memory first left).take start ++
      ((contents bus.memory first left).drop start).take length ++
      ((contents bus.memory first left).drop start).drop length = contents bus.memory first left := by
    rw [List.append_assoc, List.take_append_drop, List.take_append_drop]
  have holds := holds_contents bus.memory first left (by decide)
  rw [← split] at holds
  have parts := part_iff ran holds (by rw [header, message]; exact fits)
  rw [header, message] at parts
  rw [parts, ← List.length_eq_zero_iff, message]

/-! The EEPROM. -/

namespace NtagEepromAdapter

/-- What the first block says, where it is read: the length of the message and its start. -/
def decoded (memory : Content) : Option (Nat × Nat) :=
  let data := (memory 1).items
  if data.getD 0 0 = 0x03 then some ((data.getD 1 0).toNat, 2)
  else if data.getD 5 0 = 0x03 then some ((data.getD 6 0).toNat, 7)
  else none

def found (works : Nat → Bool) (memory : Content) : Option (Nat × Nat) :=
  if works 2 then decoded memory else none

/-- The adapter once a message was looked for. -/
def searched (adapter : NtagEepromAdapter) : Option (Nat × Nat) → NtagEepromAdapter
  | none => adapter
  | some (length, start) => { adapter with messageLength := length, ndefStartIndex := start }

theorem findNdefMessage_found (adapter : NtagEepromAdapter) (bus : Bus) :
    findNdefMessage works adapter bus =
      (adapter.searched (if works bus.made then decoded bus.memory else none), bus.count) := by
  have items : (bus.memory 1).items.take 16 = (bus.memory 1).items :=
    List.take_of_length_le (Nat.le_of_eq (bus.memory 1).full)
  have size : (16 : Byte).toNat = 16 := rfl
  rw [findNdefMessage, readEeprom_first adapter.ntag (by decide) (by decide)]
  cases works bus.made with
  | false => rfl
  | true =>
      simp only [size, items, decoded, if_true, Bool.not_true, Bool.false_eq_true, if_false]
      split
      · rfl
      · split <;> rfl

theorem searched_same {left right : NtagEepromAdapter} (length : left.messageLength = right.messageLength)
    (start : left.ndefStartIndex = right.ndefStartIndex) (place : Option (Nat × Nat)) :
    (left.searched place).messageLength = (right.searched place).messageLength ∧
      (left.searched place).ndefStartIndex = (right.searched place).ndefStartIndex := by
  cases place with
  | none => exact ⟨length, start⟩
  | some _ => exact ⟨rfl, rfl⟩

theorem searched_ntag (adapter : NtagEepromAdapter) (place : Option (Nat × Nat)) :
    (adapter.searched place).ntag = adapter.ntag := by
  cases place <;> rfl

/-- Nothing says that the tag has no message. -/
def Reads (works : Nat → Bool) (memory : Content) : Prop :=
  (works 0 = true → blank memory = false) ∧ (works 1 = true → formatted memory = true)

theorem read_refused {adapter : NtagEepromAdapter} {memory : Content} (refused : ¬ Reads works memory) :
    (read works adapter (Bus.start memory)).1.cells = none := by
  have unformatted : isUnformatted works adapter (Bus.start memory) =
      (works 0 && blank memory, (Bus.start memory).count) := isUnformatted_eq _ _
  have container : readCapabilityContainer works adapter (Bus.start memory).count =
      (!works 1 || formatted memory, _, (Bus.start memory).count.count) :=
    readCapabilityContainer_eq _ _
  simp only [read, unformatted, container]
  by_cases written : (works 0 && blank memory) = true
  · rw [if_pos written]
    rfl
  · have magic : (!(!works 1 || formatted memory)) = true := by
      cases first : works 0 <;> cases second : works 1 <;> simp_all [Reads]
    rw [if_neg written, if_pos magic]
    rfl

/-- What a read returns, and the length, the start and the size that it used. -/
theorem read_cells {adapter : NtagEepromAdapter} {memory : Content} (reads : Reads works memory) :
    let after := adapter.searched (found works memory)
    let result := read works adapter (Bus.start memory)
    result.2.1.messageLength = after.messageLength ∧
      result.2.1.ndefStartIndex = after.ndefStartIndex ∧
      result.2.1.bufferSize = sizeFor after.messageLength after.ndefStartIndex ∧
      (after.messageLength = 0 → result.1.cells = some []) ∧
      (after.messageLength ≠ 0 → result.1.cells = some (part (readEeprom works adapter.ntag 0
        (BitVec.ofNat 8 (sizeFor after.messageLength after.ndefStartIndex))
        (Bus.start memory).count.count.count).2.1
        (sizeFor after.messageLength after.ndefStartIndex) after.ndefStartIndex after.messageLength)) := by
  intro after result
  obtain ⟨opened, container, ntag, length, start⟩ :=
    container_kept works adapter (Bus.start memory).count
  change _ = (!works 1 || formatted memory, opened, (Bus.start memory).count.count) at container
  have search : findNdefMessage works opened (Bus.start memory).count.count =
      (opened.searched (found works memory), (Bus.start memory).count.count.count) :=
    findNdefMessage_found _ _
  have written : ¬ (works 0 && blank memory) = true := by
    cases first : works 0 <;> simp_all [Reads]
  have magic : ¬ (!(!works 1 || formatted memory)) = true := by
    cases second : works 1 <;> simp_all [Reads]
  have unformatted : isUnformatted works adapter (Bus.start memory) =
      (works 0 && blank memory, (Bus.start memory).count) := isUnformatted_eq _ _
  obtain ⟨same_length, same_start⟩ := searched_same length start (found works memory)
  simp only [result, read, unformatted, container, search, calculateBufferSize, if_neg written,
    if_neg magic, same_length, same_start, searched_ntag, ntag]
  -- An empty message is built without a read.
  by_cases empty : (adapter.searched (found works memory)).messageLength = 0
  · rw [if_pos empty]
    simp [after, empty, NfcTag.cells, Message.cells]
  · rw [if_neg empty]
    simp [after, empty, NfcTag.cells, Message.cells]

/-- Every cell of a message is a byte that was read in this call, inside the buffer, and
from where this call found the message. -/
def Honest (works : Nat → Bool) (adapter : NtagEepromAdapter) (memory : Content) : Prop :=
  let result := read works adapter (Bus.start memory)
  ∀ cells, result.1.cells = some cells →
    found works memory = some (result.2.1.messageLength, result.2.1.ndefStartIndex) ∧
      result.2.1.ndefStartIndex + result.2.1.messageLength ≤ result.2.1.bufferSize ∧
      cells = (((contents memory 1 (count 16 result.2.1.bufferSize)).drop
        result.2.1.ndefStartIndex).take result.2.1.messageLength).map some

/-- A read that goes on finds a message, and the message is empty, or a byte has the size
of its buffer and no transfer for a block of it fails. -/
def Clear (works : Nat → Bool) (memory : Content) : Prop :=
  Reads works memory → ∃ length start, found works memory = some (length, start) ∧
    (length = 0 ∨ length + start + 1 ≤ 240 ∧
      ∀ transfer < count 16 (start + length), works (3 + transfer) = true)

/-- A buffer of 256 bytes or more is read as far as a byte counts. -/
theorem part_large {adapter : NtagEepromAdapter} {bus : Bus} {bytes : List Byte} {start : Nat}
    (some_bytes : bytes ≠ []) (large : 256 ≤ sizeFor bytes.length start) :
    part (readEeprom works adapter.ntag 0 (BitVec.ofNat 8 (sizeFor bytes.length start)) bus).2.1
      (sizeFor bytes.length start) start bytes.length ≠ bytes.map some := by
  have size := sizeFor_eq bytes.length start
  obtain ⟨blocks, ran⟩ := @readEeprom_read works adapter.ntag
    (BitVec.ofNat 8 (sizeFor bytes.length start)) bus
  rw [BitVec.toNat_ofNat] at ran
  have bound := ran.bound
  simp only [count] at size bound
  apply part_short some_bytes (by omega)
  rw [ran.front, List.length_take, length_contents]
  omega

theorem sizeFor_fits (length start : Nat) : start + length ≤ sizeFor length start ∧
    count 16 (sizeFor length start) = count 16 (length + start + 1) := by
  have size := sizeFor_eq length start
  constructor
  · simp only [count] at size
    omega
  · simp only [size, count]
    omega

/-- The bytes of a message are those of the tag where a byte has the size of the buffer and
their blocks are read. -/
theorem part_found_iff {adapter : NtagEepromAdapter} {memory : Content} {length start : Nat}
    (some_length : length ≠ 0) :
    part (readEeprom works adapter.ntag 0 (BitVec.ofNat 8 (sizeFor length start))
        (Bus.start memory).count.count.count).2.1 (sizeFor length start) start length =
      (((contents memory 1 (count 16 (length + start + 1))).drop start).take length).map some ↔
    length + start + 1 ≤ 240 ∧ ∀ transfer < count 16 (start + length), works (3 + transfer) = true := by
  have size := sizeFor_eq length start
  obtain ⟨fits, blocks⟩ := sizeFor_fits length start
  have whole : (((contents memory 1 (count 16 (length + start + 1))).drop start).take
      length).length = length := by
    rw [List.length_take, List.length_drop, length_contents]
    omega
  have some_bytes : ((contents memory 1 (count 16 (length + start + 1))).drop start).take
      length ≠ [] := by
    intro none
    rw [none] at whole
    exact some_length whole.symm
  by_cases small : sizeFor length start < 256
  · have number : (BitVec.ofNat 8 (sizeFor length start)).toNat = sizeFor length start :=
      whole_iff.mpr small
    have short : length + start + 1 ≤ 240 := by
      simp only [count] at size
      omega
    obtain ⟨read, ran⟩ := @readEeprom_read works adapter.ntag
      (BitVec.ofNat 8 (sizeFor length start)) (Bus.start memory).count.count.count
    rw [number, blocks, size] at ran
    have parts := part_contents_iff ran (by rw [← size]; exact fits)
    simp only [some_length, false_or] at parts
    rw [size, and_iff_right short]
    exact parts
  · -- The size is cut to a byte, and the end of the message is not read.
    have large : 256 ≤ sizeFor length start := Nat.le_of_not_lt small
    have apart := @part_large works adapter (Bus.start memory).count.count.count _ start
      some_bytes (by rw [whole]; exact large)
    rw [whole] at apart
    refine iff_of_false apart fun clear => ?_
    have short := clear.1
    simp only [count] at size
    omega

theorem honest_iff (works : Nat → Bool) (adapter : NtagEepromAdapter) (memory : Content) :
    Honest works adapter memory ↔ Clear works memory := by
  by_cases reads : Reads works memory
  · obtain ⟨length_eq, start_eq, size_eq, no_cells, cells⟩ := @read_cells works adapter memory reads
    simp only [Honest, Clear, length_eq, start_eq, size_eq, reads, true_imp_iff]
    cases place : found works memory with
    | none =>
        -- The message of the call before is returned again.
        have returns : ∃ cells, (read works adapter (Bus.start memory)).1.cells = some cells := by
          by_cases empty : (adapter.searched (found works memory)).messageLength = 0
          · exact ⟨_, no_cells empty⟩
          · exact ⟨_, cells empty⟩
        obtain ⟨_, returned⟩ := returns
        simp [returned]
    | some pair =>
        obtain ⟨length, start⟩ := pair
        obtain ⟨fits, blocks⟩ := sizeFor_fits length start
        rw [place] at no_cells cells
        simp only [searched, Option.some.injEq, Prod.mk.injEq, fits, blocks, true_and] at cells no_cells ⊢
        by_cases empty : length = 0
        · constructor
          · intro _
            exact ⟨length, start, ⟨rfl, rfl⟩, Or.inl empty⟩
          · intro _ built returned
            rw [no_cells empty] at returned
            rw [empty, List.take_zero, ← Option.some.inj returned]
            rfl
        · simp only [cells empty, Option.some.injEq, forall_eq', part_found_iff empty]
          constructor
          · intro clear
            exact ⟨length, start, ⟨rfl, rfl⟩, Or.inr clear⟩
          · rintro ⟨_, _, ⟨rfl, rfl⟩, clear⟩
            exact clear.resolve_left empty
  · have none := @read_refused works adapter memory reads
    simp [Honest, Clear, none, reads]

end NtagEepromAdapter

/-! The SRAM. -/

theorem getNdefStartIndex_lt {n : Nat} {data : List Byte} {i : Nat}
    (found : getNdefStartIndex n data = some i) : i < n := by
  induction n generalizing data i with
  | zero => cases found
  | succ left ih =>
      rw [getNdefStartIndex] at found
      split at found
      · obtain ⟨before, later, rfl⟩ := Option.map_eq_some_iff.mp found
        exact Nat.succ_lt_succ (ih later)
      · split at found
        · rw [← Option.some.inj found]
          exact Nat.succ_pos left
        · cases found

theorem getNdefStartIndex_append {n : Nat} {data : List Byte} (enough : n ≤ data.length)
    (behind : List Byte) : getNdefStartIndex n (data ++ behind) = getNdefStartIndex n data := by
  induction n generalizing data with
  | zero => rfl
  | succ left ih =>
      cases data with
      | nil => cases enough
      | cons byte rest =>
          have next := ih (Nat.le_of_succ_le_succ enough)
          rw [List.cons_append, getNdefStartIndex, List.tail_cons, next]
          rfl

/-- The scan looks at nothing behind the first 17 bytes. -/
theorem decodeTlv_append {data : List Byte} (enough : 17 ≤ data.length) (behind : List Byte) :
    decodeTlv (data ++ behind) = decodeTlv data := by
  rw [decodeTlv, decodeTlv, getNdefStartIndex_append (by omega)]
  cases found : getNdefStartIndex 16 data with
  | none => rfl
  | some i =>
      have first := getNdefStartIndex_lt found
      have inside : i + 1 < data.length := by omega
      simp only [List.getD_append _ _ _ _ inside]

namespace NtagSramAdapter

/-- Whatever is behind the buffer, the scan finds the same, and every cell of a message is a
byte that was read in this call, inside the buffer, and from where this call found it. -/
def Honest (works : Nat → Bool) (wait : Wait) (adapter : NtagSramAdapter) (memory : Content) : Prop :=
  let bytes := contents memory 0xF8 4
  (∀ behind, decodeTlv (bytes ++ behind) = decodeTlv bytes) ∧
    ∀ cells, (read works wait adapter (Bus.start memory)).1.cells = some cells →
      ∃ length start, decodeTlv bytes = some (length, start) ∧ start + length ≤ sramSize ∧
        cells = ((bytes.drop start).take length).map some

/-- A length that is read and decoded does not reach behind the buffer. -/
def Clear (works : Nat → Bool) (wait : Wait) (adapter : NtagSramAdapter) (memory : Content) : Prop :=
  (waitUntilRfDone wait adapter.ntag).1 = true → (∀ transfer < 4, works transfer = true) →
    ∀ length start, decodeTlv (contents memory 0xF8 4) = some (length, start) →
      start + length ≤ sramSize

theorem read_cells {wait : Wait} {adapter : NtagSramAdapter} {memory : Content}
    {cells : List (Option Byte)} :
    (read works wait adapter (Bus.start memory)).1.cells = some cells ↔
      (waitUntilRfDone wait adapter.ntag).1 = true ∧ (∀ transfer < 4, works transfer = true) ∧
        ∃ length start, decodeTlv (contents memory 0xF8 4) = some (length, start) ∧
          cells = part (contents memory 0xF8 4) sramSize start length := by
  obtain ⟨blocks, ran⟩ :=
    @readSram_read works (waitUntilRfDone wait adapter.ntag).2 (Bus.start memory)
  have ok := ran.ok
  have whole : (contents memory 0xF8 4).length = 64 := length_contents memory 0xF8 4
  cases done : (waitUntilRfDone wait adapter.ntag).1 with
  | false =>
      simp only [read, done, Bool.not_false, if_true, Bool.false_eq_true, false_and, iff_false]
      intro none
      cases none
  | true =>
      by_cases all : blocks = 4
      · have through : ∀ transfer < 4, works transfer = true := by
          intro transfer below
          rw [← Nat.zero_add transfer]
          exact ran.through transfer (by omega)
        have result : (readSram works (waitUntilRfDone wait adapter.ntag).2 0
            (BitVec.ofNat 8 sramSize) (Bus.start memory)).1 = true := by
          rw [ok, all]
          rfl
        have front : (readSram works (waitUntilRfDone wait adapter.ntag).2 0
            (BitVec.ofNat 8 sramSize) (Bus.start memory)).2.1 = contents memory 0xF8 4 := by
          rw [ran.front, all]
          exact List.take_of_length_le (Nat.le_of_eq whole)
        simp only [read, done, result, front, Bool.not_true, Bool.false_eq_true, if_false, true_and]
        cases found : decodeTlv (contents memory 0xF8 4) with
        | none => simp [NfcTag.cells]
        | some place =>
            constructor
            · intro built
              exact ⟨through, place.1, place.2, rfl, (Option.some.inj built).symm⟩
            · rintro ⟨_, length, start, same, rfl⟩
              rw [Option.some.inj same]
              rfl
      · have less : blocks < 4 := by
          have bound := ran.bound
          omega
        have result : (readSram works (waitUntilRfDone wait adapter.ntag).2 0
            (BitVec.ofNat 8 sramSize) (Bus.start memory)).1 = false := by
          rw [ok]
          exact decide_eq_false all
        have failed := ran.failed less
        have start : (Bus.start memory).made = 0 := rfl
        rw [start, Nat.zero_add] at failed
        simp only [read, done, result, Bool.not_true, Bool.not_false, Bool.false_eq_true, if_false, if_true]
        constructor
        · intro none
          cases none
        · rintro ⟨_, through, _⟩
          rw [through blocks less] at failed
          cases failed

theorem honest_iff (works : Nat → Bool) (wait : Wait) (adapter : NtagSramAdapter) (memory : Content) :
    Honest works wait adapter memory ↔ Clear works wait adapter memory := by
  have whole : (contents memory 0xF8 4).length = 64 := length_contents memory 0xF8 4
  have scan : ∀ behind, decodeTlv (contents memory 0xF8 4 ++ behind) = decodeTlv (contents memory 0xF8 4) :=
    decodeTlv_append (by omega)
  constructor
  · intro honest done through length start found
    obtain ⟨length', start', found', inside, _⟩ :=
      honest.2 _ (read_cells.mpr ⟨done, through, length, start, found, rfl⟩)
    rw [found] at found'
    cases found'
    exact inside
  · intro clear
    refine ⟨scan, fun cells returned => ?_⟩
    obtain ⟨done, through, length, start, found, rfl⟩ := read_cells.mp returned
    have inside := clear done through length start found
    refine ⟨length, start, found, inside, part_front ?_⟩
    rw [whole]
    exact inside

end NtagSramAdapter

/-- Whatever is on the tag and whatever was called before, what a read hands on is honest
just when it found a message that it reads in full, within its buffer. -/
theorem hostile_iff (works : Nat → Bool) (wait : Wait) (memory : Content) :
    (∀ adapter, NtagEepromAdapter.Honest works adapter memory ↔
      NtagEepromAdapter.Clear works memory) ∧
    (∀ adapter, NtagSramAdapter.Honest works wait adapter memory ↔
      NtagSramAdapter.Clear works wait adapter memory) :=
  ⟨fun adapter => NtagEepromAdapter.honest_iff works adapter memory,
    fun adapter => NtagSramAdapter.honest_iff works wait adapter memory⟩

/-- A tag with no message in its EEPROM, and one of 255 bytes at the front of its SRAM. -/
def hostileTag : Content := fun key =>
  if key = 0xF8 then ⟨[3, 0xFF, 0, 0, 0, 0, 0, 0, 0, 0, 0, 0, 0, 0, 0, 0], rfl⟩
  else if key = 1 then ⟨List.replicate 16 0xFF, rfl⟩
  else emptyTag key

/-- The length of an earlier message is used again, and a message of 255 bytes is taken out
of a buffer of 64. No transfer fails. -/
theorem hostile_content_used :
    ¬ NtagEepromAdapter.Honest (fun _ => true) ⟨freshNtag, [], 872, 5, 16, 2⟩ hostileTag ∧
    ¬ NtagSramAdapter.Honest (fun _ => true) idleWait ⟨freshNtag, []⟩ hostileTag := by
  constructor
  · intro honest
    have reads : NtagEepromAdapter.Reads (fun _ => true) hostileTag := ⟨fun _ => rfl, fun _ => rfl⟩
    obtain ⟨length, start, found, _⟩ := (NtagEepromAdapter.honest_iff _ _ _).mp honest reads
    have missing : NtagEepromAdapter.found (fun _ => true) hostileTag = none := rfl
    rw [missing] at found
    cases found
  · intro honest
    have clear := (NtagSramAdapter.honest_iff _ _ _ _).mp honest
    have inside := clear rfl (fun _ _ => rfl) 255 2 rfl
    exact absurd inside (by decide)

end MangOH.Nfc
