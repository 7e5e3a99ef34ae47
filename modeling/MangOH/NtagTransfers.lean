import MangOH.Ntag

/-!
What a run of transfers does to the tag, by the first of them that fails. A write that
was acknowledged is one whose transfers, and all before it, went through; where all go
through, the data is on the tag.
-/

namespace MangOH.Nfc

open Blocks

variable {works : Nat → Bool}

-- Their equations are made here, and not by whichever proof comes to them first.
attribute [local simp] isAddressValid readBlock writeLoop

/-! One transfer. -/

theorem queue_all {data txBuffer : List Byte} (room : txBuffer.length + data.length ≤ bufferLength) :
    data.foldl queue txBuffer = txBuffer ++ data := by
  induction data generalizing txBuffer with
  | nil => simp
  | cons byte rest ih =>
      rw [List.length_cons] at room
      have free : ¬ bufferLength ≤ txBuffer.length := by omega
      have room' : (txBuffer ++ [byte]).length + rest.length ≤ bufferLength := by
        rw [List.length_append, List.length_singleton]
        omega
      rw [List.foldl_cons, queue, if_neg free, ih room', List.append_assoc]
      rfl

theorem valid_lt {dt : DeviceType} {bt : BlockType} {blocknr : Nat}
    (valid : isAddressValid dt bt blocknr = true) : blocknr < 256 := by
  cases bt <;> cases dt <;> simp only [isAddressValid, decide_eq_true_eq] at valid <;> omega

/-- The registers are behind every block of the memory. -/
theorem valid_lt_register {dt : DeviceType} {bt : BlockType} {blocknr : Nat} (memory : bt ≠ .register)
    (valid : isAddressValid dt bt blocknr = true) : blocknr < 0xFE := by
  cases bt with
  | register => exact absurd rfl memory
  | config => simp only [isAddressValid, decide_eq_true_eq] at valid; omega
  | usermem => cases dt <;> simp only [isAddressValid, decide_eq_true_eq] at valid <;> omega
  | sram => simp only [isAddressValid, decide_eq_true_eq] at valid; omega

theorem writeBlockAddress_valid {dt : DeviceType} {bt : BlockType} {blocknr : Nat}
    (valid : isAddressValid dt bt blocknr = true) :
    writeBlockAddress dt bt blocknr = some [BitVec.ofNat 8 blocknr] := by
  rw [writeBlockAddress, if_pos valid]
  rfl

theorem toNat_ofNat_valid {dt : DeviceType} {bt : BlockType} {blocknr : Nat}
    (valid : isAddressValid dt bt blocknr = true) : (BitVec.ofNat 8 blocknr).toNat = blocknr := by
  rw [BitVec.toNat_ofNat]
  exact Nat.mod_eq_of_lt (valid_lt valid)

theorem readBlock_valid {dt : DeviceType} {bt : BlockType} {blocknr dataSize : Nat}
    (valid : isAddressValid dt bt blocknr = true) (some_data : 0 < dataSize) (fits : dataSize ≤ 16)
    (bus : Bus) : readBlock works dt bt blocknr dataSize bus =
      (if works bus.made then some ((bus.memory blocknr).items.take dataSize) else none, bus.count) := by
  have small : ¬ ntagBlockSize < dataSize := Nat.not_lt.mpr fits
  have nonzero : dataSize ≠ 0 := Nat.ne_of_gt some_data
  rw [readBlock, if_neg small, writeBlockAddress_valid valid]
  simp only [requestFrom, if_neg nonzero, toNat_ofNat_valid valid]
  split
  · simp
  · have error : (-1 : Int) ≠ dataSize := by omega
    simp [error]

theorem readBlock_invalid {dt : DeviceType} {bt : BlockType} {blocknr : Nat}
    (invalid : ¬ isAddressValid dt bt blocknr = true) (dataSize : Nat) (bus : Bus) :
    readBlock works dt bt blocknr dataSize bus = (none, bus) := by
  rw [readBlock, writeBlockAddress, if_neg invalid]
  split <;> rfl

theorem writeBlock_valid {dt : DeviceType} {bt : BlockType} {blocknr : Nat} {block : List Byte}
    (valid : isAddressValid dt bt blocknr = true) (full : block.length = 16) (bus : Bus) :
    writeBlock works dt bt blocknr block bus =
      if works bus.made then (true, bus.count.receive (BitVec.ofNat 8 blocknr :: block))
      else (false, bus.count) := by
  have room : [BitVec.ofNat 8 blocknr].length + block.length ≤ bufferLength := by
    simp [bufferLength, full]
  rw [writeBlock, writeBlockAddress_valid valid]
  simp only [queue_all room, endTransmission, List.singleton_append, reduceCtorEq, if_false]
  split <;> simp

theorem writeBlock_invalid {dt : DeviceType} {bt : BlockType} {blocknr : Nat}
    (invalid : ¬ isAddressValid dt bt blocknr = true) (block : List Byte) (bus : Bus) :
    writeBlock works dt bt blocknr block bus = (false, bus) := by
  rw [writeBlock, writeBlockAddress, if_neg invalid]

theorem writeRegister_eq (dt : DeviceType) {regAddr : Byte} (known : regAddr.toNat ≤ 7)
    (mask regdat : Byte) (bus : Bus) : writeRegister works dt regAddr mask regdat bus =
      if works bus.made then (true, bus.count.receive [0xFE, regAddr, mask, regdat])
      else (false, bus.count) := by
  have valid : isAddressValid dt .register 0xFE = true := by cases dt <;> rfl
  have room : [BitVec.ofNat 8 0xFE].length + [regAddr, mask, regdat].length ≤ bufferLength := by
    simp [bufferLength]
  rw [writeRegister, if_neg (Nat.not_lt.mpr known), writeBlockAddress_valid valid]
  simp only [queue_all room, endTransmission, List.singleton_append, reduceCtorEq, if_false]
  split <;> simp

@[simp] theorem count_memory (bus : Bus) : bus.count.memory = bus.memory := rfl
@[simp] theorem count_made (bus : Bus) : bus.count.made = bus.made + 1 := rfl
@[simp] theorem count_sent (bus : Bus) : bus.count.sent = bus.sent := rfl
@[simp] theorem receive_made (bus : Bus) (frame : List Byte) : (bus.receive frame).made = bus.made := rfl

@[simp] theorem receive_sent (bus : Bus) (frame : List Byte) :
    (bus.receive frame).sent = bus.sent ++ [frame] := rfl

/-- A frame that is not of a whole block leaves the memory as it is. -/
theorem receive_register (bus : Bus) (regAddr mask regdat : Byte) :
    (bus.receive [0xFE, regAddr, mask, regdat]).memory = bus.memory := rfl

theorem receive_block {blocknr : Nat} (small : blocknr < 256) {block : List Byte}
    (full : block.length = 16) (bus : Bus) :
    (bus.receive (BitVec.ofNat 8 blocknr :: block)).memory = set bus.memory blocknr ⟨block, full⟩ := by
  simp only [Bus.receive, dif_pos full, BitVec.toNat_ofNat]
  rw [Nat.mod_eq_of_lt small]

/-! The loop that writes. -/

variable {dt : DeviceType} {bt : BlockType}

theorem writeLoop_nil (left blockNr : Nat) (bus : Bus) :
    writeLoop works dt bt left blockNr [] bus = (true, blockNr, bus) := by
  cases left <;> rfl

theorem writeLoop_full {blockNr : Nat} {data : List Byte} (valid : isAddressValid dt bt blockNr = true)
    (full : 16 ≤ data.length) (left : Nat) (bus : Bus) :
    writeLoop works dt bt (left + 1) blockNr data bus =
      if works bus.made then
        writeLoop works dt bt left (blockNr + 1) (data.drop 16)
          (bus.count.receive (BitVec.ofNat 8 blockNr :: data.take 16))
      else (false, blockNr, bus.count) := by
  have some_data : data ≠ [] := List.ne_nil_of_length_pos (by omega)
  have whole : (data.take 16).length = 16 := by rw [List.length_take]; omega
  rw [writeLoop, if_neg some_data]
  simp only [ntagBlockSize, whole, if_true, writeBlock_valid valid whole]
  split <;> simp

theorem writeLoop_part {blockNr : Nat} {data : List Byte} (valid : isAddressValid dt bt blockNr = true)
    (some_data : data ≠ []) (part : data.length < 16) (left : Nat) (bus : Bus) :
    writeLoop works dt bt (left + 1) blockNr data bus =
      if works bus.made then
        if works (bus.made + 1) then
          (true, blockNr + 1, bus.count.count.receive
            (BitVec.ofNat 8 blockNr :: (data ++ (bus.memory blockNr).items.drop data.length)))
        else (false, blockNr, bus.count.count)
      else (false, blockNr, bus.count) := by
  have chunk : data.take 16 = data := List.take_of_length_le (Nat.le_of_lt part)
  have short : ¬ data.length = 16 := Nat.ne_of_lt part
  have after : data.drop 16 = [] := List.drop_eq_nil_of_le (Nat.le_of_lt part)
  have items : (bus.memory blockNr).items.take 16 = (bus.memory blockNr).items :=
    List.take_of_length_le (Nat.le_of_eq (bus.memory blockNr).full)
  have full : (data ++ (bus.memory blockNr).items.drop data.length).length = 16 := by
    rw [List.length_append, List.length_drop, (bus.memory blockNr).full]
    omega
  rw [writeLoop, if_neg some_data]
  simp only [ntagBlockSize, chunk, short, if_false, after, writeLoop_nil,
    readBlock_valid valid (by decide : 0 < 16) (Nat.le_refl 16), items]
  cases works bus.made with
  | false => rfl
  | true =>
      simp only [if_true, Option.map_some, writeBlock_valid valid full]
      cases later : works (bus.made + 1) <;> simp [later]

theorem writeLoop_invalid {blockNr : Nat} {data : List Byte}
    (invalid : ¬ isAddressValid dt bt blockNr = true) (some_data : data ≠ []) (left : Nat) (bus : Bus) :
    writeLoop works dt bt (left + 1) blockNr data bus = (false, blockNr, bus) := by
  rw [writeLoop, if_neg some_data]
  by_cases whole : (data.take ntagBlockSize).length = ntagBlockSize
  · simp only [whole, if_true, writeBlock_invalid invalid, Bool.false_eq_true, if_false]
  · simp only [whole, if_false, readBlock_invalid invalid, Option.map_none]

/-- Which transfer of the loop writes a block: a block that is not filled is read first. -/
def transferOf (length place : Nat) : Nat := if 16 * place + 16 ≤ length then place else place + 1

/-- All transfers of the loop. -/
def transfers (length : Nat) : Nat := length / 16 + if length % 16 = 0 then 0 else 2

theorem transferOf_next {length place : Nat} (long : 16 ≤ length) :
    transferOf length (place + 1) = transferOf (length - 16) place + 1 := by
  simp only [transferOf]
  split <;> split <;> omega

/-- An acknowledged write of the loop went through, and so did all transfers before it. -/
theorem writeLoop_origin (left : Nat) {blockNr : Nat} {data : List Byte} {bus : Bus} {frame : List Byte}
    (member : frame ∈ (writeLoop works dt bt left blockNr data bus).2.2.sent) :
    frame ∈ bus.sent ∨ ∃ place, 16 * place < data.length ∧
      isAddressValid dt bt (blockNr + place) = true ∧
      frame.head? = some (BitVec.ofNat 8 (blockNr + place)) ∧
      ∀ transfer ≤ transferOf data.length place, works (bus.made + transfer) = true := by
  induction left generalizing blockNr data bus with
  | zero => exact Or.inl member
  | succ left ih =>
      by_cases empty : data = []
      · rw [empty, writeLoop_nil] at member
        exact Or.inl member
      have positive : 0 < data.length := List.length_pos_iff.mpr empty
      -- A block outside of the memory sends nothing.
      by_cases valid : isAddressValid dt bt blockNr = true
      · by_cases full : 16 ≤ data.length
        · rw [writeLoop_full valid full] at member
          by_cases through : works bus.made = true
          · rw [if_pos through] at member
            -- Sent for this block, or by the rest of the loop, whose blocks count from one on.
            rcases ih member with before | ⟨place, inside, valid', head, worked⟩
            · rw [receive_sent, count_sent, List.mem_append, List.mem_singleton] at before
              rcases before with earlier | now
              · exact Or.inl earlier
              · have first : transferOf data.length 0 = 0 := if_pos full
                refine Or.inr ⟨0, positive, valid, by rw [now]; rfl, ?_⟩
                intro transfer bound
                have only : transfer = 0 := by omega
                rw [only]
                exact through
            · rw [List.length_drop] at inside worked
              rw [Nat.add_assoc, Nat.add_comm 1] at valid' head
              refine Or.inr ⟨place + 1, by omega, valid', head, ?_⟩
              intro transfer bound
              rw [transferOf_next full] at bound
              cases transfer with
              | zero => exact through
              | succ transfer =>
                  have later := worked transfer (Nat.le_of_succ_le_succ bound)
                  rw [receive_made, count_made, Nat.add_assoc, Nat.add_comm 1] at later
                  exact later
          · rw [if_neg through] at member
            exact Or.inl member
        · rw [writeLoop_part valid empty (Nat.lt_of_not_le full)] at member
          split at member
          · rename_i through
            split at member
            · rename_i through'
              -- The block was read before it is written: both transfers went through.
              rw [receive_sent, count_sent, count_sent, List.mem_append, List.mem_singleton] at member
              rcases member with earlier | now
              · exact Or.inl earlier
              · have last : transferOf data.length 0 = 1 := if_neg full
                refine Or.inr ⟨0, positive, valid, by rw [now]; rfl, ?_⟩
                intro transfer bound
                rcases (by omega : transfer = 0 ∨ transfer = 1) with rfl | rfl
                · exact through
                · exact through'
            · exact Or.inl member
          · exact Or.inl member
      · rw [writeLoop_invalid valid empty] at member
        exact Or.inl member

/-- The writes that data needs, each with its block and what the block gets of the data. -/
def Acknowledged (sent : List (List Byte)) (start : Nat) (data : List Byte) : Prop :=
  ∀ place, 16 * place < data.length →
    ∃ rest, BitVec.ofNat 8 (start + place) :: ((data.drop (16 * place)).take 16 ++ rest) ∈ sent

/-- The front of data that is written is written. -/
theorem Acknowledged.take {sent : List (List Byte)} {start : Nat} {data : List Byte}
    (acknowledged : Acknowledged sent start data) (length : Nat) :
    Acknowledged sent start (data.take length) := by
  intro place inside
  rw [List.length_take] at inside
  obtain ⟨rest, member⟩ := acknowledged place (by omega)
  refine ⟨((data.drop (16 * place)).take 16).drop (length - 16 * place) ++ rest, ?_⟩
  rwa [List.drop_take, List.take_take, Nat.min_comm, ← List.take_take, ← List.append_assoc,
    List.take_append_drop]

/-- What the loop leaves when all its transfers go through. -/
structure Stored (before after : Bus) (start : Nat) (data : List Byte) : Prop where
  made : after.made = before.made + transfers data.length
  holds : Holds after.memory start data
  others : ∀ key, key < start ∨ start + count 16 data.length ≤ key → after.memory key = before.memory key
  earlier : ∀ frame ∈ before.sent, frame ∈ after.sent
  acknowledged : Acknowledged after.sent start data

theorem stored_nil (bus : Bus) (start : Nat) : Stored bus bus start [] where
  made := rfl
  holds := holds_nil _ _
  others := fun _ _ => rfl
  earlier := fun _ member => member
  acknowledged := fun _ inside => absurd inside (Nat.not_lt_zero _)

/-- A full block, and then the rest of the data. -/
theorem stored_step {before after : Bus} {start : Nat} {data : List Byte} (small : start < 256)
    (full : 16 ≤ data.length)
    (rest : Stored (before.count.receive (BitVec.ofNat 8 start :: data.take 16)) after (start + 1)
      (data.drop 16)) : Stored before after start data := by
  have whole : (data.take 16).length = 16 := by rw [List.length_take]; omega
  have here := receive_block small whole before.count
  constructor
  · rw [rest.made, receive_made, count_made, List.length_drop]
    simp only [transfers]
    split <;> split <;> omega
  · apply holds_step (by decide) _ rest.holds
    intro place inside _
    rw [rest.others start (Or.inl (Nat.lt_succ_self start)), here, set_self,
      List.getElem?_take_of_lt inside]
  · intro key outside
    have count_eq : count 16 data.length = count 16 (data.length - 16) + 1 := by
      simp only [count]
      omega
    have other : key ≠ start := by omega
    rw [rest.others key (by rw [List.length_drop]; omega), here, set_other _ _ other, count_memory]
  · intro frame member
    exact rest.earlier frame (List.mem_append_left _ member)
  · intro place inside
    cases place with
    | zero =>
        refine ⟨[], rest.earlier _ (List.mem_append_right _ ?_)⟩
        simp
    | succ place =>
        have later := rest.acknowledged place (by rw [List.length_drop]; omega)
        rw [List.drop_drop, Nat.add_assoc, Nat.add_comm 1, Nat.add_comm 16, ← Nat.mul_add_one] at later
        exact later

/-- The last block, with less than it holds. -/
theorem stored_part {before : Bus} {start : Nat} {data : List Byte} (small : start < 256)
    (some_data : data ≠ []) (part : data.length < 16) :
    Stored before (before.count.count.receive (BitVec.ofNat 8 start ::
      (data ++ (before.memory start).items.drop data.length))) start data := by
  have positive : 0 < data.length := List.length_pos_iff.mpr some_data
  have full : (data ++ (before.memory start).items.drop data.length).length = 16 := by
    rw [List.length_append, List.length_drop, (before.memory start).full]
    omega
  have here := receive_block small full before.count.count
  have one : count 16 data.length = 1 := by simp only [count]; omega
  constructor
  · rw [receive_made, count_made, count_made]
    simp only [transfers]
    split <;> omega
  · apply holds_step (by decide)
    · intro place _ below
      rw [here, set_self, List.getElem?_append_left below]
    · rw [List.drop_eq_nil_of_le (Nat.le_of_lt part)]
      exact holds_nil _ _
  · intro key outside
    have other : key ≠ start := by omega
    rw [here, set_other _ _ other, count_memory, count_memory]
  · intro frame member
    exact List.mem_append_left _ member
  · intro place inside
    have first : place = 0 := by omega
    refine ⟨(before.memory start).items.drop data.length, List.mem_append_right _ ?_⟩
    rw [first, Nat.mul_zero, List.drop_zero, List.take_of_length_le (Nat.le_of_lt part)]
    exact List.mem_singleton.mpr rfl

theorem writeLoop_all (left : Nat) {blockNr : Nat} {data : List Byte} {bus : Bus}
    (enough : data.length ≤ 16 * left)
    (valid : ∀ place, 16 * place < data.length → isAddressValid dt bt (blockNr + place) = true)
    (through : ∀ transfer < transfers data.length, works (bus.made + transfer) = true) :
    ∃ after, writeLoop works dt bt left blockNr data bus =
      (true, blockNr + count 16 data.length, after) ∧ Stored bus after blockNr data := by
  induction left generalizing blockNr data bus with
  | zero =>
      have empty : data = [] := List.length_eq_zero_iff.mp (Nat.le_zero.mp enough)
      rw [empty]
      exact ⟨bus, rfl, stored_nil bus blockNr⟩
  | succ left ih =>
      by_cases empty : data = []
      · rw [empty, writeLoop_nil]
        exact ⟨bus, rfl, stored_nil bus blockNr⟩
      have positive : 0 < data.length := List.length_pos_iff.mpr empty
      have here : isAddressValid dt bt blockNr = true := valid 0 positive
      by_cases full : 16 ≤ data.length
      · have first : works bus.made = true := through 0 (by simp only [transfers]; omega)
        have moved : transfers data.length = transfers (data.length - 16) + 1 := by
          simp only [transfers]
          split <;> split <;> omega
        have counted : count 16 data.length = count 16 (data.length - 16) + 1 := by
          simp only [count]
          omega
        -- The rest of the loop has one transfer less, and its blocks count from one on.
        obtain ⟨after, ran, stored⟩ := @ih (blockNr + 1) (data.drop 16)
          (bus.count.receive (BitVec.ofNat 8 blockNr :: data.take 16))
          (by rw [List.length_drop]; omega)
          (fun place inside => by
            rw [List.length_drop] at inside
            rw [Nat.add_assoc, Nat.add_comm 1]
            exact valid (place + 1) (by omega))
          (fun transfer bound => by
            rw [List.length_drop] at bound
            rw [receive_made, count_made, Nat.add_assoc, Nat.add_comm 1]
            exact through (transfer + 1) (by omega))
        refine ⟨after, ?_, stored_step (valid_lt here) full stored⟩
        rw [writeLoop_full here full, if_pos first, ran, List.length_drop, counted, Nat.add_assoc,
          Nat.add_comm 1]
      · have part : data.length < 16 := Nat.lt_of_not_le full
        have two : transfers data.length = 2 := by
          simp only [transfers]
          split <;> omega
        have one : count 16 data.length = 1 := by simp only [count]; omega
        have first : works bus.made = true := through 0 (by omega)
        have second : works (bus.made + 1) = true := through 1 (by omega)
        refine ⟨_, ?_, stored_part (valid_lt here) empty part⟩
        rw [writeLoop_part here empty part, if_pos first, if_pos second, one]

/-! The loop that reads. -/

theorem readLoop_step {eb i byteAddress length left : Nat} (valid : isAddressValid dt bt i = true)
    (aligned : byteAddress % 16 = 0) (bus : Bus) :
    readLoop works dt bt eb (left + 1) i byteAddress length bus =
      if works bus.made then
        let readLength := if i = eb then length else 16
        let rest := readLoop works dt bt eb left (i + 1) (byteAddress + readLength)
          (length - readLength) bus.count
        (rest.1, (bus.memory i).items.take readLength ++ rest.2.1, rest.2.2)
      else (false, [], bus.count) := by
  have items : (bus.memory i).items.take 16 = (bus.memory i).items :=
    List.take_of_length_le (Nat.le_of_eq (bus.memory i).full)
  rw [readLoop, ntagBlockSize, readBlock_valid valid (by decide) (Nat.le_refl 16), aligned, items]
  cases works bus.made <;> simp

/-- What a read from the start of a block gets: the blocks up to the first transfer that
fails, and of the last one what is left of the length. -/
structure ReadOf (works : Nat → Bool) (bus : Bus) (start left length read : Nat)
    (result : Bool × List Byte × Bus) : Prop where
  bound : read ≤ left
  through : ∀ transfer < read, works (bus.made + transfer) = true
  failed : read < left → works (bus.made + read) = false
  ok : result.1 = decide (read = left)
  front : result.2.1 = (contents bus.memory start read).take length
  memory : result.2.2.memory = bus.memory

theorem readOf_failed {start left length : Nat} {bus : Bus} (broken : works bus.made = false) :
    ReadOf works bus start (left + 1) length 0 (false, [], bus.count) := by
  refine ⟨Nat.zero_le _, ?_, fun _ => broken, rfl, ?_, rfl⟩
  · intro transfer below
    exact absurd below (Nat.not_lt_zero _)
  · simp [contents]

/-- The last block gives what is left of the length. -/
theorem readOf_last {start length : Nat} {bus : Bus} (through : works bus.made = true) :
    ReadOf works bus start 1 length 1
      (true, (bus.memory start).items.take length ++ [], bus.count) := by
  refine ⟨Nat.le_refl 1, ?_, ?_, rfl, ?_, rfl⟩
  · intro transfer below
    rw [Nat.lt_one_iff.mp below]
    exact through
  · intro below
    exact absurd below (Nat.lt_irrefl _)
  · simp [contents]

/-- A whole block, and then as many transfers as the rest of the loop makes. -/
theorem readOf_next {start left length read : Nat} {bus : Bus} {result : Bool × List Byte × Bus}
    (through : works bus.made = true) (long : 16 ≤ length)
    (rest : ReadOf works bus.count (start + 1) left (length - 16) read result) :
    ReadOf works bus start (left + 1) length (read + 1)
      (result.1, (bus.memory start).items ++ result.2.1, result.2.2) := by
  refine ⟨Nat.succ_le_succ rest.bound, ?_, ?_, ?_, ?_, rest.memory⟩
  · intro transfer below
    cases transfer with
    | zero => exact through
    | succ transfer =>
        have later := rest.through transfer (Nat.lt_of_succ_lt_succ below)
        rwa [count_made, Nat.add_assoc, Nat.add_comm 1] at later
  · intro below
    have later := rest.failed (Nat.lt_of_succ_lt_succ below)
    rwa [count_made, Nat.add_assoc, Nat.add_comm 1] at later
  · simp [rest.ok]
  · have whole : (bus.memory start).items.length ≤ length := by
      rw [(bus.memory start).full]
      exact long
    rw [rest.front, contents, List.take_append, List.take_of_length_le whole,
      (bus.memory start).full, count_memory]

theorem readLoop_aligned (left : Nat) {eb i byteAddress length : Nat} {bus : Bus}
    (blocks : i + left = eb + 1) (aligned : byteAddress % 16 = 0) (long : 16 * left < length + 16)
    (short : length ≤ 16 * left)
    (valid : ∀ place < left, isAddressValid dt bt (i + place) = true) :
    ∃ read, ReadOf works bus i left length read
      (readLoop works dt bt eb left i byteAddress length bus) := by
  induction left generalizing i byteAddress length bus with
  | zero =>
      refine ⟨0, Nat.le_refl 0, ?_, ?_, rfl, ?_, rfl⟩
      · intro transfer below
        exact absurd below (Nat.not_lt_zero _)
      · intro below
        exact absurd below (Nat.not_lt_zero _)
      · simp [readLoop, contents]
  | succ left ih =>
      have here : isAddressValid dt bt i = true := valid 0 (Nat.succ_pos left)
      rw [readLoop_step here aligned]
      cases through : works bus.made with
      | false => exact ⟨0, readOf_failed through⟩
      | true =>
          rw [if_pos rfl]
          by_cases last : i = eb
          · have none_left : left = 0 := by omega
            subst none_left
            simp only [if_pos last, readLoop]
            exact ⟨1, readOf_last through⟩
          · have full : ∀ place < left, isAddressValid dt bt (i + 1 + place) = true := by
              intro place below
              rw [Nat.add_assoc, Nat.add_comm 1]
              exact valid (place + 1) (Nat.succ_lt_succ below)
            obtain ⟨read, rest⟩ := @ih (i + 1) (byteAddress + 16) (length - 16) bus.count (by omega)
              (by omega) (by omega) (by omega) full
            have items : (bus.memory i).items.take 16 = (bus.memory i).items :=
              List.take_of_length_le (Nat.le_of_eq (bus.memory i).full)
            simp only [if_neg last, items]
            exact ⟨read + 1, readOf_next through (by omega) rest⟩

end MangOH.Nfc
