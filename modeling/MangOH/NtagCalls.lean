import MangOH.NtagAdapters
import MangOH.NtagTransfers

/-!
The calls of the adapters into the driver, and what is expected of them: that a write that
reports success was acknowledged in full, and that a read builds its message from what was
written.
-/

namespace MangOH.Nfc

open Blocks

variable {works : Nat → Bool}

/-! What is expected. -/

def Message.cells : Message → List (Option Byte)
  | .parsed cells => cells
  | .empty => []

def NfcTag.cells (tag : NfcTag) : Option (List (Option Byte)) := tag.message.map Message.cells

/-- Every write that the data needs, and the one that tells the reader its last block. -/
def Needed (sent : List (List Byte)) (start : Nat) (data : List Byte) (last : Byte) : Prop :=
  Acknowledged sent start data ∧ [0xFE, lastNdefBlock, 0xFF, last] ∈ sent

/-- A read builds its message from these bytes only, and an undisturbed one does. -/
def ReadBack (message : List Byte) (undisturbed : Prop) (tag : NfcTag) : Prop :=
  (∀ cells, tag.cells = some cells → cells = message.map some) ∧ (undisturbed → tag.cells ≠ none)

/-- A length that a byte holds. -/
def Whole (length : Nat) : Prop := (BitVec.ofNat 8 length).toNat = length

theorem whole_iff {length : Nat} : Whole length ↔ length < 256 := by
  rw [Whole, BitVec.toNat_ofNat]
  constructor
  · intro same
    rw [← same]
    exact Nat.mod_lt length (by decide)
  · exact Nat.mod_eq_of_lt

/-! Storing. -/

theorem writeEeprom_start (ntag : Ntag) (pdata : List Byte) (length : Byte) (bus : Bus) :
    writeEeprom works ntag 0 pdata length bus =
      writeRest works ntag .usermem 1 (pdata.take length.toNat) bus := rfl

theorem writeSram_start (ntag : Ntag) (pdata : List Byte) (length : Byte) (bus : Bus) :
    writeSram works ntag 0 pdata length bus =
      writeRest works ntag .sram 0xF8 (pdata.take length.toNat) bus := rfl

theorem writeRest_bus (ntag : Ntag) (bt : BlockType) (blockNr : Nat) (data : List Byte) (bus : Bus) :
    (writeRest works ntag bt blockNr data bus).2.2 =
      (writeLoop works ntag.dt bt data.length blockNr data bus).2.2 := by
  rw [writeRest]
  split <;> rfl

/-- What both adapters do after the data, whatever came of it. -/
def finish (works : Nat → Bool) (stored : Bool × Ntag × Bus) : Bus :=
  releaseI2c works stored.2.1 (setLastNdefBlock works stored.2.1 stored.2.2).2

theorem setLastNdefBlock_eq (ntag : Ntag) (bus : Bus) : setLastNdefBlock works ntag bus =
    if works bus.made then
      (true, bus.count.receive [0xFE, lastNdefBlock, 0xFF, BitVec.ofNat 8 (lastNdef ntag)])
    else (false, bus.count) :=
  writeRegister_eq ntag.dt (by decide) _ _ bus

theorem releaseI2c_eq (ntag : Ntag) (bus : Bus) : releaseI2c works ntag bus =
    if works bus.made then bus.count.receive [0xFE, nsReg, 0x40, 0] else bus.count := by
  rw [releaseI2c, writeRegister_eq ntag.dt (by decide)]
  split <;> rfl

theorem releaseI2c_memory (ntag : Ntag) (bus : Bus) :
    (releaseI2c works ntag bus).memory = bus.memory := by
  rw [releaseI2c_eq]
  split <;> rfl

theorem finish_memory (stored : Bool × Ntag × Bus) : (finish works stored).memory = stored.2.2.memory := by
  rw [finish, releaseI2c_memory, setLastNdefBlock_eq]
  split <;> rfl

theorem finish_earlier {stored : Bool × Ntag × Bus} {frame : List Byte}
    (member : frame ∈ stored.2.2.sent) : frame ∈ (finish works stored).sent := by
  have kept : frame ∈ (setLastNdefBlock works stored.2.1 stored.2.2).2.sent := by
    rw [setLastNdefBlock_eq]
    split
    · exact List.mem_append_left _ member
    · exact member
  rw [finish, releaseI2c_eq]
  split
  · exact List.mem_append_left _ kept
  · exact kept

theorem finish_last {stored : Bool × Ntag × Bus} (through : works stored.2.2.made = true) :
    [0xFE, lastNdefBlock, 0xFF, BitVec.ofNat 8 (lastNdef stored.2.1)] ∈ (finish works stored).sent := by
  rw [finish, releaseI2c_eq, setLastNdefBlock_eq, if_pos through]
  split <;> simp

/-- What else is acknowledged are registers, and the last block only by its own transfer. -/
theorem finish_origin {stored : Bool × Ntag × Bus} {frame : List Byte}
    (member : frame ∈ (finish works stored).sent) : frame ∈ stored.2.2.sent ∨
      frame.head? = some 0xFE ∧ (frame[1]? = some lastNdefBlock → works stored.2.2.made = true) := by
  have release : frame ∈ (setLastNdefBlock works stored.2.1 stored.2.2).2.sent ∨
      frame = [0xFE, nsReg, 0x40, 0] := by
    rw [finish, releaseI2c_eq] at member
    split at member
    · simpa using member
    · exact Or.inl member
  rcases release with before | now
  · rw [setLastNdefBlock_eq] at before
    split at before
    · rename_i through
      simp only [receive_sent, count_sent, List.mem_append, List.mem_singleton] at before
      rcases before with earlier | now
      · exact Or.inl earlier
      · exact Or.inr ⟨by rw [now]; rfl, fun _ => through⟩
    · exact Or.inl before
  · refine Or.inr ⟨by rw [now]; rfl, fun last => ?_⟩
    rw [now] at last
    exact absurd last (by decide)

/-- Data in the first blocks from `start`, as far as it went, and all that was needed for it:
then every transfer went through, and no part of the data was left out. -/
theorem needed_through {ntag : Ntag} {bt : BlockType} {start : Nat} {data tlv : List Byte} {bus : Bus}
    {last : Byte} (memory : bt ≠ .register)
    (clean : bus.sent = []) (short : start + count 16 data.length < 0xFE)
    (needed : Needed (finish works (writeRest works ntag bt start data bus)).sent start tlv last) :
    tlv.length ≤ 16 * count 16 data.length ∧
      (∀ place, 16 * place < tlv.length → 16 * place < data.length →
        ∀ transfer ≤ transferOf data.length place, works (bus.made + transfer) = true) ∧
      works (writeRest works ntag bt start data bus).2.2.made = true := by
  have origin {place : Nat} (inside : 16 * place < tlv.length) (below : start + place < 0xFE) :
      16 * place < data.length ∧
        ∀ transfer ≤ transferOf data.length place, works (bus.made + transfer) = true := by
    obtain ⟨rest, member⟩ := needed.1 place inside
    rcases finish_origin member with loop | ⟨register, _⟩
    · rw [writeRest_bus] at loop
      rcases writeLoop_origin data.length loop with before | ⟨other, within, valid, head, worked⟩
      · rw [clean] at before
        exact absurd before List.not_mem_nil
      · have numbers := congrArg BitVec.toNat (Option.some.inj head)
        have small := valid_lt_register memory valid
        rw [BitVec.toNat_ofNat, BitVec.toNat_ofNat, Nat.mod_eq_of_lt (by omega),
          Nat.mod_eq_of_lt (by omega)] at numbers
        have same : other = place := by omega
        rw [same] at within worked
        exact ⟨within, worked⟩
    · have numbers := congrArg BitVec.toNat (Option.some.inj register)
      rw [BitVec.toNat_ofNat, Nat.mod_eq_of_lt (by omega)] at numbers
      exact absurd numbers (Nat.ne_of_lt below)
  refine ⟨?_, ?_, ?_⟩
  · apply Nat.le_of_not_lt
    intro more
    -- The first block behind those that were written is needed, too.
    have next := (@origin (count 16 data.length) (by omega) short).1
    simp only [count] at next
    omega
  · intro place inside within
    apply (origin inside _).2
    simp only [count] at short
    omega
  · rcases finish_origin needed.2 with loop | ⟨_, through⟩
    · rw [writeRest_bus] at loop
      rcases writeLoop_origin data.length loop with before | ⟨place, _, valid, head, _⟩
      · rw [clean] at before
        exact absurd before List.not_mem_nil
      · have numbers := congrArg BitVec.toNat (Option.some.inj head)
        have small := valid_lt_register memory valid
        rw [BitVec.toNat_ofNat, Nat.mod_eq_of_lt (by omega)] at numbers
        exact absurd numbers (by simp; omega)
    · exact through rfl

/-! Reading back. -/

/-- The cells behind what was read were never written. -/
theorem part_behind {front : List Byte} {size start length place : Nat} (inside : place < length)
    (fits : start + length ≤ size) (behind : front.length ≤ start + place) :
    (part front size start length)[place]? = some none := by
  have cell : start + place - front.length < size - front.length := by omega
  rw [part, List.getElem?_take_of_lt inside, List.getElem?_drop,
    List.getElem?_append_right (by rw [List.length_map]; exact behind), List.length_map,
    List.getElem?_replicate, if_pos cell]

/-- A part of which not all was read is no part of bytes. -/
theorem part_short {front bytes : List Byte} {size start : Nat} (some_bytes : bytes ≠ [])
    (fits : start + bytes.length ≤ size) (short : front.length < start + bytes.length) :
    part front size start bytes.length ≠ bytes.map some := by
  intro same
  have positive : 0 < bytes.length := List.length_pos_iff.mpr some_bytes
  have inside : max front.length start - start < bytes.length := by omega
  have missing := part_behind inside fits (by omega : front.length ≤ start + (max front.length start - start))
  rw [same, List.getElem?_map, List.getElem?_eq_getElem inside] at missing
  cases missing

theorem part_front {front : List Byte} {size start length : Nat} (read : start + length ≤ front.length) :
    part front size start length = ((front.drop start).take length).map some := by
  have within : start ≤ (front.map some).length := by rw [List.length_map]; omega
  rw [part, List.drop_append_of_le_length within, List.take_append_of_le_length, List.map_take,
    List.map_drop]
  rw [List.length_drop, List.length_map]
  omega

/-- A message between its header and what comes after it is read back from the blocks that
hold it, and from no fewer. -/
theorem part_iff {bus : Bus} {start left read : Nat} {result : Bool × List Byte × Bus}
    {header message behind : List Byte}
    (ran : ReadOf works bus start left (16 * left) read result)
    (holds : Holds bus.memory start (header ++ message ++ behind))
    (fits : header.length + message.length ≤ 16 * left) :
    part result.2.1 (16 * left) header.length message.length = message.map some ↔
      message = [] ∨ ∀ transfer < count 16 (header.length + message.length),
        works (bus.made + transfer) = true := by
  have bound := ran.bound
  have length : result.2.1.length = 16 * read := by
    rw [ran.front, List.length_take, length_contents]
    omega
  -- Transfers stop at the first that fails, so that it is enough to count them.
  have enough_iff : (∀ transfer < count 16 (header.length + message.length),
      works (bus.made + transfer) = true) ↔ header.length + message.length ≤ 16 * read := by
    constructor
    · intro through
      apply Nat.le_of_not_lt
      intro more
      have failed := ran.failed (by omega)
      have worked := through read (by simp only [count]; omega)
      rw [failed] at worked
      cases worked
    · intro enough transfer below
      simp only [count] at below
      exact ran.through transfer (by omega)
  rw [enough_iff]
  constructor
  · intro same
    by_cases empty : message = []
    · exact Or.inl empty
    · right
      apply Nat.le_of_not_lt
      intro more
      exact part_short empty fits (by rw [length]; exact more) same
  · intro known
    rcases known with rfl | enough
    · rw [part, List.length_nil, List.take_zero]
      rfl
    · have prefix_length : (header ++ message).length ≤ 16 * read := by
        rw [List.length_append]
        exact enough
      have held : Holds bus.memory start (header ++ message) := by
        have taken := holds.take (header ++ message).length
        rwa [List.take_left'] at taken
        rfl
      have found := held.take_contents (by decide) prefix_length
      have whole : result.2.1 = contents bus.memory start read := by
        rw [ran.front, List.take_of_length_le]
        rw [length_contents]
        omega
      rw [part_front (by rw [length]; exact enough), whole]
      congr 1
      -- What is in front of the message is the same in the blocks and in what is stored.
      have dropped := congrArg (List.drop header.length) found
      rw [List.length_append, List.drop_take, Nat.add_sub_cancel_left, List.drop_left] at dropped
      exact dropped

end MangOH.Nfc
