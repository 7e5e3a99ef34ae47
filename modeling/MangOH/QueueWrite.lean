import MangOH.QueueMemory
import MangOH.Trace

/-!
The host-to-slave direction: `mt7697q_write` fills the ring in at most two
chunks around its end. The host works on its own copy of the slave's read
offset, which it refreshes only when the copy leaves too little room; the
slave consumes words and moves the shared offset between the calls.
-/

namespace MangOH.QueueWrite

open BitFields CyclicWindow QueueMemory

def mt7697qReadState (qs : QueueSpec) : QueueSpec × Int :=
  match qs.slave.transfer with
  | (some fault, slave) =>
      ({ qs with slave := slave, data := qs.data.store slave.entry fault.done }, fault.ret)
  | (none, slave) =>
      let qs := { qs with slave := slave, data := qs.data.store slave.entry 4 }
      if qs.data.baseAddr = 0 then (qs, -einval)
      else if qs.data.flags = 0 then (qs, -einval)
      else if mt7697qGetCapacity qs < qs.data.rdOffset.toNat ∨
          mt7697qGetCapacity qs < qs.data.wrOffset.toNat then (qs, -einval)
      else (qs, 0)

def mt7697qPullRdPtr (qs : QueueSpec) : QueueSpec × Int :=
  match qs.slave.transfer with
  | (none, slave) =>
      ({ qs with slave := slave, data := { qs.data with rdOffset := slave.entry.rdOffset } }, 0)
  | (some fault, slave) => ({ qs with slave := slave }, fault.ret)

/-- An error behind the word does not take the offset back. -/
def mt7697qPushWrPtr (qs : QueueSpec) : QueueSpec × Int :=
  match qs.slave.transfer with
  | (some fault, slave) =>
      let wrOffset := if 0 < fault.done then qs.data.wrOffset else slave.entry.wrOffset
      ({ qs with slave := { slave with entry := { slave.entry with wrOffset } } }, fault.ret)
  | (none, slave) =>
      let entry := { slave.entry with wrOffset := qs.data.wrOffset }
      match mt7697ioWrM2sMbx { qs with slave := { slave with entry := entry } } (1 <<< qs.ch) with
      | (qs, ret) => if ret < 0 then (qs, ret) else mt7697ioTriggerIntr qs

/-- One linear chunk: at most `words` words of `buff` at `writeOffset`. -/
def writeChunk (qs : QueueSpec) (writeOffset words : Nat) (buff : List Word) :
    QueueSpec × Int × Nat × List Word :=
  let wordsToWrite := if buff.length ≤ words then buff.length else words
  match mt7697ioWr qs (wordAddr qs writeOffset) (buff.take wordsToWrite) with
  | (qs, ret) =>
      if ret < 0 then (qs, ret, writeOffset, buff)
      else (qs, ret, u16 (writeOffset + wordsToWrite), buff.drop wordsToWrite)

/-- The first chunk of `mt7697q_write`, up to the end of the ring; a reader at
offset zero costs it the last cell. -/
def writeToEnd (qs : QueueSpec) (readOffset writeOffset : Nat) (buff : List Word) :
    QueueSpec × Int × Nat × List Word :=
  if readOffset ≤ writeOffset then
    let wordsToEnd := sub32 qs.data.numWords writeOffset
    let wordsAvail := if readOffset = 0 then sub32 wordsToEnd 1 else wordsToEnd
    match writeChunk qs writeOffset wordsAvail buff with
    | (written, ret, offset, rest) =>
        (written, ret, if offset = qs.data.numWords then 0 else offset, rest)
  else (qs, 0, writeOffset, buff)

/-- The second chunk, below the reader. -/
def writeBelow (qs : QueueSpec) (readOffset writeOffset : Nat) (buff : List Word) :
    QueueSpec × Int × Nat × List Word :=
  if writeOffset < readOffset ∧ 0 < buff.length then
    writeChunk qs writeOffset (sub32 (sub32 readOffset writeOffset) 1) buff
  else (qs, 0, writeOffset, buff)

def writeWords (qs : QueueSpec) (buff : List Word) : QueueSpec × Int :=
  let readOffset := qs.data.rdOffset.toNat
  match writeToEnd qs readOffset qs.data.wrOffset.toNat buff with
  | (qs, ret, writeOffset, rest) =>
      if ret < 0 then (qs, ret)
      else match writeBelow qs readOffset writeOffset rest with
        | (qs, ret, writeOffset, rest) =>
            if ret < 0 then (qs, ret)
            else if qs.data.numWords ≤ writeOffset then (qs, -einval)
            else
              let data := { qs.data with wrOffset := BitVec.ofNat 16 writeOffset }
              match mt7697qPushWrPtr { qs with data := data } with
              | (qs, ret) =>
                  if ret < 0 then (qs, ret) else (qs, (buff.length - rest.length : Nat))

/-- `avail` is computed before the read offset is pulled and tested again
unchanged after it, so a call that had to pull never writes. -/
def mt7697qWrite (qs : QueueSpec) (buff : List Word) : QueueSpec × Int :=
  let avail := mt7697qGetFreeWords qs
  if avail < buff.length then
    match mt7697qPullRdPtr qs with
    | (qs, ret) =>
        if ret < 0 then (qs, ret)
        else if avail < buff.length then
          ({ qs with qinfo := { qs.qinfo with blockedWriter := true } }, -eagain)
        else writeWords qs buff
  else writeWords qs buff

/-- The words the slave has not consumed yet, read off its own table entry. -/
def slaveUnread (qs : QueueSpec) : List Word :=
  let entry := qs.slave.entry
  window entry.numWords (cells entry.baseAddr qs.slave.memory) entry.rdOffset.toNat
    (distance entry.numWords entry.rdOffset.toNat entry.wrOffset.toNat)

def slaveConsume (qs : QueueSpec) (count : Nat) : QueueSpec :=
  let entry := qs.slave.entry
  let rdOffset := BitVec.ofNat 16 ((entry.rdOffset.toNat + count) % entry.numWords)
  { qs with slave := { qs.slave with entry := { entry with rdOffset := rdOffset } } }

inductive Event where
  | write (buff : List Word) (ret : Int)
  | consume (words : List Word)

def Step (before : QueueSpec) (event : Event) (after : QueueSpec) : Prop :=
  match event with
  | .write buff ret => mt7697qWrite before buff = (after, ret)
  | .consume words => words <+: slaveUnread before ∧ after = slaveConsume before words.length

/-- The words of the successful writes, in order. -/
def written : List Event → List Word
  | [] => []
  | .write buff ret :: rest => if 0 ≤ ret then buff ++ written rest else written rest
  | .consume _ :: rest => written rest

def consumed : List Event → List Word
  | [] => []
  | .write _ _ :: rest => consumed rest
  | .consume words :: rest => words ++ consumed rest

theorem written_append (left right : List Event) :
    written (left ++ right) = written left ++ written right := by
  induction left with
  | nil => rfl
  | cons event rest ih =>
      cases event with
      | write buff ret => by_cases ok : 0 ≤ ret <;> simp [written, ok, ih]
      | consume words => simp [written, ih]

theorem consumed_append (left right : List Event) :
    consumed (left ++ right) = consumed left ++ consumed right := by
  induction left with
  | nil => rfl
  | cons event rest ih => cases event <;> simp [consumed, ih]

/-- The invariant between calls. The host may believe that more is unread than
there is, never less. -/
structure Writer (qs : QueueSpec) (unread : List Word) : Prop where
  quiet : qs.slave.faults = []
  flags : qs.slave.entry.flags = qs.data.flags
  base : qs.slave.entry.baseAddr = qs.data.baseAddr
  published : qs.slave.entry.wrOffset = qs.data.wrOffset
  rd_lt : qs.data.rdOffset.toNat < qs.data.numWords
  stale : unread.length ≤
    distance qs.data.numWords qs.data.rdOffset.toNat qs.data.wrOffset.toNat
  ring : Holds qs.data.numWords (cells qs.data.baseAddr qs.slave.memory)
    qs.slave.entry.rdOffset.toNat qs.data.wrOffset.toNat unread

theorem free_eq {qs : QueueSpec} (read_lt : qs.data.rdOffset.toNat < qs.data.numWords)
    (write_lt : qs.data.wrOffset.toNat < qs.data.numWords) :
    mt7697qGetFreeWords qs = qs.data.numWords - 1 -
      distance qs.data.numWords qs.data.rdOffset.toNat qs.data.wrOffset.toNat := by
  have small := numWords_lt qs.data
  have far := distance_lt read_lt write_lt
  have capacity : mt7697qGetCapacity qs = qs.data.numWords - 1 :=
    sub32_of_le (by omega) (by omega)
  have used : mt7697qGetNumWords qs =
      distance qs.data.numWords qs.data.rdOffset.toNat qs.data.wrOffset.toNat :=
    mt7697qBufDiff_eq small read_lt
  rw [mt7697qGetFreeWords, capacity, used, sub32_of_le (by omega) (by omega)]

theorem Writer.free {qs : QueueSpec} {unread : List Word} (writer : Writer qs unread) :
    mt7697qGetFreeWords qs = qs.data.numWords - 1 -
      distance qs.data.numWords qs.data.rdOffset.toNat qs.data.wrOffset.toNat :=
  free_eq writer.rd_lt writer.ring.target_lt

theorem Writer.unread_eq {qs : QueueSpec} {unread : List Word} (writer : Writer qs unread) :
    slaveUnread qs = unread := by
  have size : qs.slave.entry.numWords = qs.data.numWords := by
    simp only [QueueData.numWords, writer.flags]
  simp only [slaveUnread, size, writer.base, writer.published]
  exact writer.ring.content_eq

theorem mt7697qPushWrPtr_quiet (qs : QueueSpec) (quiet : qs.slave.faults = []) :
    mt7697qPushWrPtr qs = ({ qs with slave := { qs.slave with
      entry := { qs.slave.entry with wrOffset := qs.data.wrOffset }
      m2sMailbox := bfDefine (BitVec.ofNat 32 (1 <<< qs.ch)) 0 7
      irq := true } }, 0) := by
  simp [mt7697qPushWrPtr, mt7697ioWrM2sMbx, mt7697ioTriggerIntr, Slave.transfer, quiet]

/-! One chunk. -/

/-- The memory once this many words of a chunk are stored. -/
def stored (qs : QueueSpec) (writeOffset : Nat) (buff : List Word) (count : Nat) : Word → Word :=
  storeWords qs.slave.memory (wordAddr qs writeOffset) (buff.take count)

theorem writeChunk_eq (qs : QueueSpec) (writeOffset words : Nat) (buff : List Word) :
    let count := min buff.length words
    writeChunk qs writeOffset words buff = match qs.slave.faults.headD none with
      | none => ((qs.withMemory (stored qs writeOffset buff count)).withFaults qs.slave.faults.tail, 0,
          u16 (writeOffset + count), buff.drop count)
      | some fault => ((qs.withMemory (stored qs writeOffset buff (min fault.done count))).withFaults
          qs.slave.faults.tail, fault.ret, writeOffset, buff) := by
  intro count
  have count_eq : (if buff.length ≤ words then buff.length else words) = count := by
    simp only [count]
    split_ifs <;> omega
  simp only [writeChunk, count_eq, mt7697ioWr, transfer_eq]
  cases qs.slave.faults.headD none with
  | none => rfl
  | some fault => simp [fault.ret_neg, QueueSpec.withFaults, QueueSpec.withMemory, stored, List.take_take]

/-- Words of a chunk that fits are behind what is held. -/
theorem stored_holds {qs : QueueSpec} {size source writeOffset count : Nat} {content buff : List Word}
    (small : size < 65536)
    (ring : Holds size (cells qs.data.baseAddr qs.slave.memory) source writeOffset content)
    (few : count ≤ buff.length) (linear : writeOffset + count ≤ size)
    (room : content.length + count < size) :
    Holds size (cells qs.data.baseAddr (stored qs writeOffset buff count)) source
      (slot size writeOffset count) (content ++ buff.take count) := by
  have taken : (buff.take count).length = count := by
    rw [List.length_take]; omega
  have appended := ring.append (buff.take count) (by rw [taken]; exact linear) (by rw [taken]; exact room)
  rw [taken] at appended
  refine appended.congr fun place inside => ?_
  exact (storeWords_cells _ _ _ _ (by rw [taken]; omega) place (by omega)).symm

/-- What is held is still held when something is appended to it. -/
theorem holds_front {size source target later : Nat} {memory : Nat → Word} {content items : List Word}
    (before : content.length = distance size source target) (target_lt : target < size)
    (ring : Holds size memory source later (content ++ items)) :
    Holds size memory source target content := by
  have front := ring.split (show content.length ≤ _ by simp)
  rw [List.take_left, before, slot_distance ring.source_lt target_lt] at front
  exact front

/-- A part of a write that made some transfers. Where they go through, it has stored so many
words behind what is held, and otherwise nothing counts as stored. -/
structure Part (qs : QueueSpec) (made source writeOffset count after : Nat) (content buff : List Word)
    (result : QueueSpec × Int × Nat × List Word) : Prop where
  through : Through (qs.slave.faults.take made) → ∃ memory,
    result = ((qs.withMemory memory).withFaults (qs.slave.faults.drop made), 0, after, buff.drop count) ∧
      Holds qs.data.numWords (cells qs.data.baseAddr memory) source
        (slot qs.data.numWords writeOffset count) (content ++ buff.take count)
  failed : ¬ Through (qs.slave.faults.take made) → ∃ memory left,
    result.1 = (qs.withMemory memory).withFaults left ∧ result.2.1 < 0 ∧
      Holds qs.data.numWords (cells qs.data.baseAddr memory) source writeOffset content

theorem part_nothing {qs : QueueSpec} {source writeOffset : Nat} {content buff : List Word}
    (ring : Holds qs.data.numWords (cells qs.data.baseAddr qs.slave.memory) source writeOffset content) :
    Part qs 0 source writeOffset 0 writeOffset content buff (qs, 0, writeOffset, buff) := by
  refine ⟨fun _ => ⟨qs.slave.memory, rfl, ?_⟩, fun failed => absurd through_nil failed⟩
  rw [slot_zero ring.target_lt, List.take_zero, List.append_nil]
  exact ring

theorem writeChunk_part {qs : QueueSpec} {source writeOffset : Nat} {content : List Word}
    (words : Nat) (buff : List Word)
    (ring : Holds qs.data.numWords (cells qs.data.baseAddr qs.slave.memory) source writeOffset content)
    (linear : writeOffset + min buff.length words ≤ qs.data.numWords)
    (room : content.length + min buff.length words < qs.data.numWords) :
    Part qs 1 source writeOffset (min buff.length words) (writeOffset + min buff.length words) content buff
      (writeChunk qs writeOffset words buff) := by
  have small := numWords_lt qs.data
  have few : min buff.length words ≤ buff.length := Nat.min_le_left _ _
  have offset : u16 (writeOffset + min buff.length words) = writeOffset + min buff.length words := by
    unfold u16; omega
  rw [writeChunk_eq]
  constructor
  · rw [through_one]
    intro head
    rw [head, offset, List.drop_one]
    exact ⟨_, rfl, stored_holds small ring few linear room⟩
  · rw [through_one]
    intro failed
    obtain ⟨fault, head⟩ := Option.ne_none_iff_exists'.mp failed
    rw [head]
    have less : min fault.done (min buff.length words) ≤ min buff.length words := Nat.min_le_right _ _
    exact ⟨_, _, rfl, fault.ret_neg, holds_front ring.length_eq ring.target_lt
      (stored_holds small ring (by omega) (by omega) (by omega))⟩

/-- Filling up to a reader at zero would make the two offsets equal. -/
theorem toEnd_avail {size readOffset writeOffset : Nat} (small : size < 4294967296)
    (write_lt : writeOffset < size) :
    (if readOffset = 0 then sub32 (sub32 size writeOffset) 1 else sub32 size writeOffset) =
      size - writeOffset - if readOffset = 0 then 1 else 0 := by
  have toEnd : sub32 size writeOffset = size - writeOffset :=
    sub32_of_le (Nat.le_of_lt write_lt) small
  rw [toEnd]
  split_ifs
  · exact sub32_of_le (by omega) (by omega)
  · rfl

/-- How many of `num` words the first chunk takes. -/
def endCount (size readOffset writeOffset num : Nat) : Nat :=
  if readOffset ≤ writeOffset then min num (size - writeOffset - if readOffset = 0 then 1 else 0)
  else 0

/-- The first chunk. -/
theorem writeToEnd_part {qs : QueueSpec} {source readOffset writeOffset : Nat}
    {buff content : List Word}
    (ring : Holds qs.data.numWords (cells qs.data.baseAddr qs.slave.memory) source writeOffset content)
    (read_lt : readOffset < qs.data.numWords)
    (stale : content.length ≤ distance qs.data.numWords readOffset writeOffset)
    (fits : buff.length ≤ qs.data.numWords - 1 - distance qs.data.numWords readOffset writeOffset) :
    let count := endCount qs.data.numWords readOffset writeOffset buff.length
    Part qs (if readOffset ≤ writeOffset then 1 else 0) source writeOffset count
      (slot qs.data.numWords writeOffset count) content buff
      (writeToEnd qs readOffset writeOffset buff) := by
  intro count
  have small := numWords_lt qs.data
  have write_lt := ring.target_lt
  by_cases ahead : readOffset ≤ writeOffset
  · have used : distance qs.data.numWords readOffset writeOffset = writeOffset - readOffset := by
      simp [distance, ahead]
    rw [used] at stale fits
    have avail := @toEnd_avail _ readOffset _ (Nat.lt_trans small (by decide)) write_lt
    have part := writeChunk_part
      (qs.data.numWords - writeOffset - if readOffset = 0 then 1 else 0) buff ring
      (by split_ifs <;> omega) (by split_ifs <;> omega)
    have some : count = min buff.length
        (qs.data.numWords - writeOffset - if readOffset = 0 then 1 else 0) := if_pos ahead
    rw [some, if_pos ahead, writeToEnd, if_pos ahead]
    simp only [avail]
    refine ⟨fun through => ?_, fun failed => ?_⟩
    · obtain ⟨memory, result, filled⟩ := part.through through
      refine ⟨memory, ?_, filled⟩
      simp only [result, slot]
      split_ifs <;> simp <;> omega
    · obtain ⟨memory, left, result, error, held⟩ := part.failed failed
      exact ⟨memory, left, result, error, held⟩
  -- The writer is behind the reader, and this chunk is left out.
  · have none : count = 0 := if_neg ahead
    rw [none, if_neg ahead, writeToEnd, if_neg ahead, slot_zero write_lt]
    exact part_nothing ring

/-- The first chunk either takes everything or stops at the end of the ring
with room for the rest below the reader. -/
theorem endCount_next {size readOffset writeOffset num : Nat} (read_lt : readOffset < size)
    (write_lt : writeOffset < size)
    (fits : num ≤ size - 1 - distance size readOffset writeOffset) :
    let count := endCount size readOffset writeOffset num
    count ≤ num ∧ (count = num ∨ slot size writeOffset count < readOffset ∧
      num - count < readOffset - slot size writeOffset count) := by
  intro count
  have taken : count = if readOffset ≤ writeOffset then
      min num (size - writeOffset - if readOffset = 0 then 1 else 0) else 0 := rfl
  have place : slot size writeOffset count = if writeOffset + count < size then writeOffset + count
      else writeOffset + count - size := rfl
  clear_value count
  unfold distance at fits
  split_ifs at taken place fits <;> omega

theorem writeBelow_part {qs : QueueSpec} {source readOffset writeOffset : Nat}
    {content rest : List Word}
    (ring : Holds qs.data.numWords (cells qs.data.baseAddr qs.slave.memory) source writeOffset content)
    (read_lt : readOffset < qs.data.numWords)
    (room : content.length + rest.length < qs.data.numWords)
    (below : rest.length = 0 ∨ writeOffset < readOffset ∧ rest.length < readOffset - writeOffset) :
    Part qs (if 0 < rest.length then 1 else 0) source writeOffset rest.length
      (slot qs.data.numWords writeOffset rest.length) content rest
      (writeBelow qs readOffset writeOffset rest) := by
  have small := numWords_lt qs.data
  have write_lt := ring.target_lt
  by_cases nothing : rest.length = 0
  · rw [if_neg (by omega), writeBelow, if_neg (by omega), nothing, slot_zero write_lt]
    exact part_nothing ring
  · have order : writeOffset < readOffset ∧ rest.length < readOffset - writeOffset :=
      below.resolve_left nothing
    have gap : sub32 readOffset writeOffset = readOffset - writeOffset :=
      sub32_of_le (by omega) (by omega)
    have words : sub32 (sub32 readOffset writeOffset) 1 = readOffset - writeOffset - 1 := by
      rw [gap]
      exact sub32_of_le (by omega) (by omega)
    have whole : min rest.length (readOffset - writeOffset - 1) = rest.length := by omega
    have part := writeChunk_part (readOffset - writeOffset - 1) rest ring (by omega) (by omega)
    rw [whole] at part
    have after : slot qs.data.numWords writeOffset rest.length = writeOffset + rest.length :=
      if_pos (by omega)
    rw [if_pos (by omega), writeBelow, if_pos ⟨order.1, by omega⟩, words, after]
    exact part

/-- How many transfers the data of a write takes. -/
def chunks (data : QueueData) (num : Nat) : Nat :=
  (if data.rdOffset.toNat ≤ data.wrOffset.toNat then 1 else 0) +
    if 0 < num - endCount data.numWords data.rdOffset.toNat data.wrOffset.toNat num then 1 else 0

theorem chunks_eq {data : QueueData} {num : Nat} : chunks data num =
    (if data.rdOffset.toNat ≤ data.wrOffset.toNat then 1 else 0) +
      if 0 < num - endCount data.numWords data.rdOffset.toNat data.wrOffset.toNat num then 1 else 0 := rfl

/-- The outcomes that are left for publishing the offset. -/
def pushFaults (qs : QueueSpec) (num : Nat) : List (Option Fault) :=
  qs.slave.faults.drop (chunks qs.data num)

/-- The queue when all the data is stored and its offset is to be published. -/
def publishing (qs : QueueSpec) (memory : Word → Word) (num : Nat) : QueueSpec :=
  { (qs.withMemory memory).withFaults (pushFaults qs num) with
    data := { qs.data with
      wrOffset := BitVec.ofNat 16 (slot qs.data.numWords qs.data.wrOffset.toNat num) } }

/-- The two chunks of a write. Where they go through, only the offset is left to publish, and
otherwise nothing counts as stored. -/
structure Chunked (qs : QueueSpec) (source : Nat) (content buff : List Word) : Prop where
  through : Through (qs.slave.faults.take (chunks qs.data buff.length)) → ∃ memory,
    let pushed := mt7697qPushWrPtr (publishing qs memory buff.length)
    writeWords qs buff = (pushed.1, if pushed.2 < 0 then pushed.2 else (buff.length : Int)) ∧
      Holds qs.data.numWords (cells qs.data.baseAddr memory) source
        (slot qs.data.numWords qs.data.wrOffset.toNat buff.length) (content ++ buff)
  failed : ¬ Through (qs.slave.faults.take (chunks qs.data buff.length)) → ∃ memory left ret,
    writeWords qs buff = ((qs.withMemory memory).withFaults left, ret) ∧ ret < 0 ∧
      Holds qs.data.numWords (cells qs.data.baseAddr memory) source qs.data.wrOffset.toNat content

/-- With all of the data stored inside the ring, only the offset is left to publish. -/
theorem writeWords_pushes {qs first last : QueueSpec} {buff rest : List Word} {place next : Nat}
    (stored : writeToEnd qs qs.data.rdOffset.toNat qs.data.wrOffset.toNat buff = (first, 0, place, rest))
    (done : writeBelow first qs.data.rdOffset.toNat place rest = (last, 0, next, []))
    (inside : next < last.data.numWords) :
    let pushed := mt7697qPushWrPtr
      { last with data := { last.data with wrOffset := BitVec.ofNat 16 next } }
    writeWords qs buff = (pushed.1, if pushed.2 < 0 then pushed.2 else (buff.length : Int)) := by
  simp only [writeWords, stored, done, Int.lt_irrefl, if_false, if_neg (Nat.not_le.mpr inside),
    List.length_nil, Nat.sub_zero]
  generalize mt7697qPushWrPtr _ = pushed
  by_cases error : pushed.2 < 0
  · simp only [if_pos error]
  · simp only [if_neg error]

/-- The chunks go behind what a reader that is no further than the host's copy has to read. -/
theorem writeWords_chunked {qs : QueueSpec} {source : Nat} {content buff : List Word}
    (ring : Holds qs.data.numWords (cells qs.data.baseAddr qs.slave.memory) source
      qs.data.wrOffset.toNat content)
    (read_lt : qs.data.rdOffset.toNat < qs.data.numWords)
    (stale : content.length ≤
      distance qs.data.numWords qs.data.rdOffset.toNat qs.data.wrOffset.toNat)
    (fits : buff.length ≤ qs.data.numWords - 1 -
      distance qs.data.numWords qs.data.rdOffset.toNat qs.data.wrOffset.toNat) :
    Chunked qs source content buff := by
  have small := numWords_lt qs.data
  have far := distance_lt read_lt ring.target_lt
  obtain ⟨count_le, next⟩ := endCount_next read_lt ring.target_lt fits
  have first := writeToEnd_part ring read_lt stale fits
  have data := @chunks_eq qs.data buff.length
  generalize endCount qs.data.numWords qs.data.rdOffset.toNat qs.data.wrOffset.toNat buff.length = count
    at count_le first next data
  generalize (if qs.data.rdOffset.toNat ≤ qs.data.wrOffset.toNat then 1 else 0) = made at first data
  by_cases through : Through (qs.slave.faults.take made)
  · obtain ⟨memory, stored, held⟩ := first.through through
    have dropped : (buff.drop count).length = buff.length - count := List.length_drop
    have kept : (content ++ buff.take count).length = content.length + count := by
      rw [List.length_append, List.length_take]; omega
    have total : content.length + count + (buff.length - count) < qs.data.numWords := by omega
    have second := @writeBelow_part ((qs.withMemory memory).withFaults (qs.slave.faults.drop made)) source
      qs.data.rdOffset.toNat _ _ (buff.drop count) held read_lt (by rw [kept, dropped]; exact total)
      (by rw [dropped]; omega)
    rw [dropped] at second
    -- The two chunks move the offset as one write of all the words would.
    have merged : slot qs.data.numWords (slot qs.data.numWords qs.data.wrOffset.toNat count)
        (buff.length - count) = slot qs.data.numWords qs.data.wrOffset.toNat buff.length := by
      rw [slot_slot ring.target_lt (by omega)]
      congr 1
      omega
    have joined : content ++ buff.take count ++ (buff.drop count).take (buff.length - count) =
        content ++ buff := by
      rw [← dropped, List.take_length, List.append_assoc, List.take_append_drop]
    have nothing : (buff.drop count).drop (buff.length - count) = [] := by
      rw [← dropped, List.drop_length]
    generalize (if 0 < buff.length - count then 1 else 0) = more at second data
    have both : Through (qs.slave.faults.take (chunks qs.data buff.length)) ↔
        Through ((qs.slave.faults.drop made).take more) := by
      rw [data, List.take_add, through_append, and_iff_right through]
    constructor
    · rw [both]
      intro further
      obtain ⟨last, done, filled⟩ := second.through further
      rw [withFaults_data, withMemory_data, merged, joined] at filled
      rw [withFaults_data, withMemory_data, merged, nothing] at done
      have state : (((qs.withMemory memory).withFaults (qs.slave.faults.drop made)).withMemory
          last).withFaults ((qs.slave.faults.drop made).drop more) =
          (qs.withMemory last).withFaults (pushFaults qs buff.length) := by
        rw [List.drop_drop, pushFaults, data]
        rfl
      rw [withFaults_faults, state] at done
      exact ⟨last, writeWords_pushes stored done filled.target_lt, filled⟩
    · rw [both]
      intro further
      obtain ⟨last, left, result, error, held'⟩ := second.failed further
      refine ⟨last, left, _, ?_, error, holds_front ring.length_eq ring.target_lt held'⟩
      simp only [writeWords, stored, Int.lt_irrefl, if_false, if_pos error, result]
      rfl
  · obtain ⟨memory, left, result, error, held⟩ := first.failed through
    have broken : ¬ Through (qs.slave.faults.take (chunks qs.data buff.length)) := by
      rw [data, List.take_add, through_append]
      exact fun both => through both.1
    refine ⟨fun both => absurd both broken, fun _ => ⟨memory, left, _, ?_, error, held⟩⟩
    simp only [writeWords, if_pos error, result]

/-- A write that passes the room test stores exactly its words. -/
theorem writeWords_holds {qs : QueueSpec} {unread buff : List Word} (writer : Writer qs unread)
    (fits : buff.length ≤ mt7697qGetFreeWords qs) :
    ∃ after, writeWords qs buff = (after, (buff.length : Int)) ∧ Writer after (unread ++ buff) ∧
      after.data.flags = qs.data.flags ∧ after.slave.entry.rdOffset = qs.slave.entry.rdOffset ∧
      after.ch = qs.ch := by
  rw [writer.free] at fits
  have small := numWords_lt qs.data
  have far := distance_lt writer.rd_lt writer.ring.target_lt
  have stale := writer.stale
  obtain ⟨last, result, filled⟩ := (writeWords_chunked writer.ring writer.rd_lt stale fits).through (by
    rw [writer.quiet, List.take_nil]
    exact through_nil)
  have inside := filled.target_lt
  have offset : (BitVec.ofNat 16 (slot qs.data.numWords qs.data.wrOffset.toNat buff.length)).toNat =
      slot qs.data.numWords qs.data.wrOffset.toNat buff.length := by
    rw [BitVec.toNat_ofNat]; omega
  have advanced : distance qs.data.numWords qs.data.rdOffset.toNat
      (slot qs.data.numWords qs.data.wrOffset.toNat buff.length) = _ :=
    distance_to_slot writer.rd_lt writer.ring.target_lt (by omega)
  -- Up to the push the chunks change the slave's memory but not its table entry.
  have nothing : pushFaults qs buff.length = [] := by
    rw [pushFaults, writer.quiet, List.drop_nil]
  have pushed := mt7697qPushWrPtr_quiet (publishing qs last buff.length) nothing
  refine ⟨(mt7697qPushWrPtr (publishing qs last buff.length)).1, ?_, ?_, ?_, ?_, ?_⟩
  · rw [result, pushed, if_neg (Int.lt_irrefl 0)]
  · rw [pushed]
    refine ⟨nothing, writer.flags, writer.base, rfl, writer.rd_lt, ?_, ?_⟩
    · change (unread ++ buff).length ≤ distance qs.data.numWords qs.data.rdOffset.toNat
        (BitVec.ofNat 16 (slot qs.data.numWords qs.data.wrOffset.toNat buff.length)).toNat
      rw [offset, advanced, List.length_append]
      omega
    · change Holds qs.data.numWords (cells qs.data.baseAddr last) qs.slave.entry.rdOffset.toNat
        (BitVec.ofNat 16 (slot qs.data.numWords qs.data.wrOffset.toNat buff.length)).toNat
        (unread ++ buff)
      rw [offset]
      exact filled
  · rw [pushed]; rfl
  · rw [pushed]; rfl
  · rw [pushed]; rfl

/-- The host's copy after a pull is the slave's offset. -/
theorem mt7697qPullRdPtr_quiet {qs : QueueSpec} (quiet : qs.slave.faults = []) :
    mt7697qPullRdPtr qs =
      ({ qs with data := { qs.data with rdOffset := qs.slave.entry.rdOffset } }, 0) := by
  simp [mt7697qPullRdPtr, Slave.transfer, quiet]

theorem mt7697qPullRdPtr_writer {qs : QueueSpec} {unread : List Word} (writer : Writer qs unread) :
    mt7697qPullRdPtr qs =
        ({ qs with data := { qs.data with rdOffset := qs.slave.entry.rdOffset } }, 0) ∧
      Writer { qs with data := { qs.data with rdOffset := qs.slave.entry.rdOffset } } unread := by
  constructor
  · exact mt7697qPullRdPtr_quiet writer.quiet
  · exact ⟨writer.quiet, writer.flags, writer.base, writer.published, writer.ring.source_lt,
      le_of_eq writer.ring.length_eq, writer.ring⟩

/-- The two outcomes of a write: too little room by the host's copy, or all
of `buff` appended. -/
theorem mt7697qWrite_cases {qs : QueueSpec} {unread : List Word} (writer : Writer qs unread)
    (buff : List Word) :
    (∃ after, mt7697qWrite qs buff = (after, -eagain) ∧ Writer after unread ∧
        after.data.flags = qs.data.flags ∧
        after.slave.entry.rdOffset = qs.slave.entry.rdOffset) ∨
      ∃ after, mt7697qWrite qs buff = (after, (buff.length : Int)) ∧
        Writer after (unread ++ buff) ∧ after.data.flags = qs.data.flags ∧
        after.slave.entry.rdOffset = qs.slave.entry.rdOffset := by
  by_cases short : mt7697qGetFreeWords qs < buff.length
  · left
    -- The second test uses the old count again, so the pull only brings the copy up to date.
    obtain ⟨pulled, kept⟩ := mt7697qPullRdPtr_writer writer
    refine ⟨{ qs with
      data := { qs.data with rdOffset := qs.slave.entry.rdOffset }
      qinfo := { qs.qinfo with blockedWriter := true } }, ?_, ?_, rfl, rfl⟩
    · simp [mt7697qWrite, short, pulled]
    · exact ⟨kept.quiet, kept.flags, kept.base, kept.published, kept.rd_lt, kept.stale, kept.ring⟩
  · right
    obtain ⟨after, result, kept, flags, place, _⟩ :=
      writeWords_holds writer (Nat.le_of_not_lt short)
    exact ⟨after, by rw [mt7697qWrite, if_neg short, result], kept, flags, place⟩

theorem slaveConsume_writer {qs : QueueSpec} {unread : List Word} (writer : Writer qs unread)
    {count : Nat} (bound : count ≤ unread.length) :
    Writer (slaveConsume qs count) (unread.drop count) := by
  have small := numWords_lt qs.data
  have inside := writer.ring.length_lt
  have size : qs.slave.entry.numWords = qs.data.numWords := by
    simp only [QueueData.numWords, writer.flags]
  have moved := writer.ring.drop bound
  have offset : (BitVec.ofNat 16 ((qs.slave.entry.rdOffset.toNat + count) %
      qs.slave.entry.numWords)).toNat =
      slot qs.data.numWords qs.slave.entry.rdOffset.toNat count := by
    have lt := moved.source_lt
    rw [size, slot_eq_mod writer.ring.source_lt (by omega), BitVec.toNat_ofNat]
    omega
  -- The host's copy stays where it is, so it only becomes staler.
  refine ⟨writer.quiet, writer.flags, writer.base, writer.published, writer.rd_lt, ?_, ?_⟩
  · have stale := writer.stale
    rw [List.length_drop]
    exact Nat.le_trans (Nat.sub_le _ _) stale
  · change Holds qs.data.numWords (cells qs.data.baseAddr qs.slave.memory)
      (BitVec.ofNat 16 _).toNat qs.data.wrOffset.toNat (unread.drop count)
    rw [offset]
    exact moved

/-- A state accepted by `mt7697q_read_state` starts the invariant. -/
theorem mt7697qReadState_writer {fresh start : QueueSpec} {ret : Int}
    (quiet : fresh.slave.faults = []) (accepted : mt7697qReadState fresh = (start, ret))
    (success : 0 ≤ ret) (size : 0 < start.data.numWords) : Writer start (slaveUnread start) := by
  have small := numWords_lt start.data
  simp only [mt7697qReadState, Slave.transfer, quiet, einval] at accepted
  split_ifs at accepted with base flags range
  · cases accepted; omega
  · cases accepted; omega
  · cases accepted; omega
  · cases accepted
    -- The accepted offsets are at most the capacity, one less than the ring.
    have capacity : ∀ qs : QueueSpec, 0 < qs.data.numWords →
        mt7697qGetCapacity qs = qs.data.numWords - 1 := by
      intro qs positive
      have := numWords_lt qs.data
      exact sub32_of_le (by omega) (by omega)
    rw [capacity _ size] at range
    simp only [not_or, Nat.not_lt] at range
    have rd_lt := Nat.lt_of_le_of_lt range.1 (Nat.sub_one_lt_of_lt size)
    have wr_lt := Nat.lt_of_le_of_lt range.2 (Nat.sub_one_lt_of_lt size)
    exact ⟨quiet, rfl, rfl, rfl, rd_lt, le_of_eq (window_length ..), rd_lt, wr_lt, rfl⟩

/-- What a run has established: the invariant holds for the words that were
unread at the start, plus those written, less those consumed. -/
def Refines (start : QueueSpec) (events : List Event) (after : QueueSpec) : Prop :=
  ∃ unread, Writer after unread ∧ after.data.flags = start.data.flags ∧
    consumed events ++ unread = slaveUnread start ++ written events ∧
    ∀ buff ret, .write buff ret ∈ events → 0 ≤ ret → ret = buff.length

theorem step_refines {start before after : QueueSpec} {events : List Event} {event : Event}
    (refines : Refines start events before) (step : Step before event after) :
    Refines start (events ++ [event]) after := by
  obtain ⟨unread, writer, flags, ledger, returned⟩ := refines
  cases event with
  | write buff ret =>
      change mt7697qWrite before buff = (after, ret) at step
      rcases mt7697qWrite_cases writer buff with
        ⟨next, result, kept, same, _⟩ | ⟨next, result, kept, same, _⟩
      · rw [result] at step
        cases step
        refine ⟨unread, kept, same.trans flags, ?_, ?_⟩
        -- The error code is negative, so nothing counts as written.
        · simpa [written_append, consumed_append, written, consumed, eagain] using ledger
        · intro other code member success
          rcases List.mem_append.mp member with earlier | last
          · exact returned other code earlier success
          · rw [List.mem_singleton] at last
            cases last
            simp [eagain] at success
      · rw [result] at step
        cases step
        refine ⟨unread ++ buff, kept, same.trans flags, ?_, ?_⟩
        · rw [written_append, consumed_append]
          simp [written, consumed, ← List.append_assoc, ledger]
        · intro other code member success
          rcases List.mem_append.mp member with earlier | last
          · exact returned other code earlier success
          · rw [List.mem_singleton] at last
            cases last
            rfl
  | consume words =>
      -- The slave takes its words from the front of the unread ones.
      obtain ⟨isPrefix, rfl⟩ := step
      rw [writer.unread_eq] at isPrefix
      obtain ⟨rest, rfl⟩ := isPrefix
      refine ⟨rest, ?_, flags, ?_, ?_⟩
      · simpa using slaveConsume_writer writer (show words.length ≤ (words ++ rest).length by simp)
      · rw [written_append, consumed_append]
        simpa [written, consumed] using ledger
      · intro other code member success
        rcases List.mem_append.mp member with earlier | last
        · exact returned other code earlier success
        · simp at last

/-- The host-to-slave ring is a FIFO. From any state the driver accepts, over
any interleaving of writes and slave reads with working transfers, the offsets
stay inside the ring, what was consumed and what is unread are together the
initial words followed by the successfully written ones, a successful write
returns its word count, and the next write either appends its words to what is
unread or leaves it as it was. -/
theorem mt7697qWrite_refines_fifo {fresh start after : QueueSpec} {ret : Int}
    {events : List Event} (quiet : fresh.slave.faults = [])
    (accepted : mt7697qReadState fresh = (start, ret)) (success : 0 ≤ ret)
    (size : 2 ≤ start.data.numWords) (exec : Trace.Exec Step start events after) :
    after.data.rdOffset.toNat < start.data.numWords ∧
      after.data.wrOffset.toNat < start.data.numWords ∧
      after.slave.entry.rdOffset.toNat < start.data.numWords ∧
      consumed events ++ slaveUnread after = slaveUnread start ++ written events ∧
      consumed events <+: slaveUnread start ++ written events ∧
      (∀ buff ret, .write buff ret ∈ events → 0 ≤ ret → ret = buff.length) ∧
      ∀ buff next ret, mt7697qWrite after buff = (next, ret) →
        next.slave.entry.rdOffset = after.slave.entry.rdOffset ∧
        slaveUnread next = slaveUnread after ++ if 0 ≤ ret then buff else [] := by
  have initial : Refines start [] start :=
    ⟨slaveUnread start, mt7697qReadState_writer quiet accepted success (by omega), rfl,
      by simp [consumed, written], by simp⟩
  obtain ⟨unread, writer, flags, ledger, returned⟩ :=
    exec.invariant (Refines start) initial step_refines
  have same : after.data.numWords = start.data.numWords := by
    simp only [QueueData.numWords, flags]
  rw [← same, writer.unread_eq]
  refine ⟨writer.rd_lt, writer.ring.target_lt, writer.ring.source_lt, ledger, ⟨_, ledger⟩,
    returned, ?_⟩
  intro buff next ret called
  rcases mt7697qWrite_cases writer buff with
    ⟨result, outcome, kept, _, place⟩ | ⟨result, outcome, kept, _, place⟩
  · rw [outcome] at called
    cases called
    exact ⟨place, by simp [kept.unread_eq, eagain]⟩
  · rw [outcome] at called
    cases called
    exact ⟨place, by simp [kept.unread_eq]⟩

/-- An empty four-word ring whose offsets stand at the last cell. -/
def lastCell : QueueSpec where
  data := ⟨0, 0, 0, 0⟩
  ch := 0
  qinfo := ⟨.cleared, false⟩
  slave :=
    { memory := fun _ => 0, entry := ⟨0x40000, 0x20001000, 3, 3⟩, todo := [], agenda := []
      faults := [], m2sMailbox := 0, irq := false }

theorem mt7697qWrite_refines_fifo_wrap :
    slaveUnread (mt7697qWrite (mt7697qReadState lastCell).1 [7, 8]).1 = [7, 8] := by
  have exec : Trace.Exec Step (mt7697qReadState lastCell).1 ([] ++ [.write [7, 8] 2])
      (mt7697qWrite (mt7697qReadState lastCell).1 [7, 8]).1 :=
    .next (.refl _) (Prod.ext rfl (by decide))
  have accepted : mt7697qReadState lastCell = ((mt7697qReadState lastCell).1, 0) :=
    Prod.ext rfl (by decide)
  have refined := mt7697qWrite_refines_fifo rfl accepted (by decide) (by decide) exec
  have none : slaveUnread (mt7697qReadState lastCell).1 = [] := rfl
  have ledger := refined.2.2.2.1
  rw [none, List.nil_append] at ledger
  exact ledger

end MangOH.QueueWrite
