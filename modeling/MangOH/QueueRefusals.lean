import MangOH.QueueFaults
import MangOH.QueueWrite

/-!
Writes that do not succeed: for want of room, and because a transfer fails. What is stored
behind the published words is nothing yet; a write is there once its offset is.
-/

namespace MangOH.QueueWrite

open BitFields CyclicWindow QueueMemory
open MangOH.QueueRead (InRange)

/-! Room. -/

/-- The queue with the read offset that the slave has published. -/
def refreshed (qs : QueueSpec) : QueueSpec :=
  { qs.withFaults qs.slave.faults.tail with
    data := { qs.data with rdOffset := qs.slave.entry.rdOffset } }

/-- The queue by whose read offset a write of so many words decides. -/
def consulted (qs : QueueSpec) (num : Nat) : QueueSpec :=
  if mt7697qGetFreeWords qs < num then refreshed qs else qs

theorem mt7697qPullRdPtr_eq (qs : QueueSpec) :
    mt7697qPullRdPtr qs = match qs.slave.faults.headD none with
      | none => (refreshed qs, 0)
      | some fault => (qs.withFaults qs.slave.faults.tail, fault.ret) := by
  rw [mt7697qPullRdPtr, transfer_eq]
  cases qs.slave.faults.headD none <;> rfl

theorem writeChunk_through {qs : QueueSpec} (through : Through qs.slave.faults)
    (writeOffset words : Nat) (buff : List Word) :
    (writeChunk qs writeOffset words buff).2.1 = 0 ∧
      Through (writeChunk qs writeOffset words buff).1.slave.faults := by
  rw [writeChunk_eq, through_head through]
  exact ⟨rfl, through_tail through⟩

theorem writeToEnd_through {qs : QueueSpec} (through : Through qs.slave.faults)
    (readOffset writeOffset : Nat) (buff : List Word) :
    (writeToEnd qs readOffset writeOffset buff).2.1 = 0 ∧
      Through (writeToEnd qs readOffset writeOffset buff).1.slave.faults := by
  rw [writeToEnd]
  split
  · exact writeChunk_through through _ _ buff
  · exact ⟨rfl, through⟩

theorem writeBelow_through {qs : QueueSpec} (through : Through qs.slave.faults)
    (readOffset writeOffset : Nat) (buff : List Word) :
    (writeBelow qs readOffset writeOffset buff).2.1 = 0 ∧
      Through (writeBelow qs readOffset writeOffset buff).1.slave.faults := by
  rw [writeBelow]
  split
  · exact writeChunk_through through _ _ buff
  · exact ⟨rfl, through⟩

/-- The word with the offset is stored. -/
def Published (qs : QueueSpec) : Prop :=
  ∀ fault, qs.slave.faults.headD none = some fault → 0 < fault.done

theorem mt7697qPushWrPtr_spec (qs : QueueSpec) :
    let result := mt7697qPushWrPtr qs
    result.1.data = qs.data ∧ result.1.slave.memory = qs.slave.memory ∧
      (Through (qs.slave.faults.take 3) → result.2 = 0) ∧
      (¬ Through (qs.slave.faults.take 3) → result.2 < 0) ∧
      (Published qs → result.1.slave.entry = { qs.slave.entry with wrOffset := qs.data.wrOffset }) ∧
      (¬ Published qs → result.1.slave.entry = qs.slave.entry) := by
  have faults3 : Through (qs.slave.faults.take 3) ↔ qs.slave.faults.headD none = none ∧
      qs.slave.faults.tail.headD none = none ∧ qs.slave.faults.tail.tail.headD none = none := by
    rw [through_succ, through_succ, through_one]
  rw [faults3]
  cases first : qs.slave.faults.headD none with
  | some fault =>
      simp only [mt7697qPushWrPtr, transfer_eq, Published, first, fault.ret_neg, Option.some.injEq,
        forall_eq', reduceCtorEq, false_and, not_false_eq_true, true_imp_iff, false_imp_iff, true_and]
      constructor
      · intro published
        rw [if_pos published]
      · intro unpublished
        rw [if_neg unpublished]
  | none =>
      have published : Published qs := by
        intro fault error
        rw [first] at error
        cases error
      simp only [mt7697qPushWrPtr, mt7697ioWrM2sMbx, mt7697ioTriggerIntr, transfer_eq, first, published]
      cases second : qs.slave.faults.tail.headD none with
      | some fault => simp [fault.ret_neg]
      | none =>
          cases third : qs.slave.faults.tail.tail.headD none with
          | some fault => simp [fault.ret_neg]
          | none => simp

/-- With nothing that fails, a write past the room test ends well, or with its own error. -/
theorem writeWords_through {qs : QueueSpec} (through : Through qs.slave.faults) (buff : List Word) :
    (writeWords qs buff).2 ≠ -eagain := by
  obtain ⟨first, after⟩ := writeToEnd_through through qs.data.rdOffset.toNat qs.data.wrOffset.toNat buff
  simp only [writeWords]
  generalize writeToEnd qs qs.data.rdOffset.toNat qs.data.wrOffset.toNat buff = one at first after
  obtain ⟨second, still⟩ := writeBelow_through after qs.data.rdOffset.toNat one.2.2.1 one.2.2.2
  generalize writeBelow one.1 qs.data.rdOffset.toNat one.2.2.1 one.2.2.2 = two at second still
  rw [first, second, if_neg (Int.lt_irrefl 0), if_neg (Int.lt_irrefl 0)]
  split
  · have other : -einval ≠ -eagain := by decide
    exact other
  · have pushed := (mt7697qPushWrPtr_spec { two.1 with
      data := { two.1.data with wrOffset := BitVec.ofNat 16 two.2.2.1 } }).2.2.1
        (fun fault inside => still fault (List.mem_of_mem_take inside))
    rw [pushed, if_neg (Int.lt_irrefl 0)]
    simp only [eagain]
    omega

/-- A write without room only pulls the read offset. -/
theorem short_write {qs : QueueSpec} {buff : List Word} (short : mt7697qGetFreeWords qs < buff.length) :
    mt7697qWrite qs buff = match qs.slave.faults.headD none with
      | none => ({ refreshed qs with
          qinfo := { (refreshed qs).qinfo with blockedWriter := true } }, -eagain)
      | some fault => (qs.withFaults qs.slave.faults.tail, fault.ret) := by
  simp only [mt7697qWrite, short, if_true, mt7697qPullRdPtr_eq]
  cases qs.slave.faults.headD none with
  | none => rfl
  | some fault => simp only [fault.ret_neg, if_true]

/-- Where no transfer fails, a write is turned away, and its writer marked, just when the
read offset that it consulted leaves too little room; with enough room it is carried out. -/
def Exact (qs : QueueSpec) (buff : List Word) : Prop :=
  let result := mt7697qWrite qs buff
  let room := mt7697qGetFreeWords (consulted qs buff.length)
  Through qs.slave.faults →
    (result.2 = -eagain ∧ result.1.qinfo.blockedWriter = true ↔ room < buff.length) ∧
    (buff.length ≤ room → result = writeWords (consulted qs buff.length) buff)

/-- The room was enough before the offset was pulled, or is too little with it. -/
def Settled (qs : QueueSpec) (num : Nat) : Prop :=
  Through qs.slave.faults → num ≤ mt7697qGetFreeWords qs ∨ mt7697qGetFreeWords (refreshed qs) < num

theorem mt7697qWrite_exact_iff (qs : QueueSpec) (buff : List Word) :
    Exact qs buff ↔ Settled qs buff.length := by
  rw [Exact, Settled]
  refine imp_congr_right fun through => ?_
  by_cases short : mt7697qGetFreeWords qs < buff.length
  · have fresh : consulted qs buff.length = refreshed qs := if_pos short
    have refused : mt7697qWrite qs buff =
        ({ refreshed qs with qinfo := { (refreshed qs).qinfo with blockedWriter := true } }, -eagain) := by
      rw [short_write short, through_head through]
    rw [refused, fresh]
    constructor
    · intro exact
      exact Or.inr (exact.1.mp ⟨rfl, rfl⟩)
    · intro settled
      have little := settled.resolve_left (Nat.not_le.mpr short)
      exact ⟨iff_of_true ⟨rfl, rfl⟩ little, fun room => absurd little (Nat.not_lt.mpr room)⟩
  · have same : consulted qs buff.length = qs := if_neg short
    have written : mt7697qWrite qs buff = writeWords qs buff := if_neg short
    rw [written, same]
    refine iff_of_true ⟨iff_of_false ?_ short, fun _ => rfl⟩ (Or.inl (Nat.le_of_not_lt short))
    exact fun refused => writeWords_through through buff refused.1

/-- A ring of four words that is full by the host's copy, and that the slave has emptied. -/
def emptied : QueueSpec where
  data := ⟨0x40000, 0x20001000, 0, 3⟩
  ch := 0
  qinfo := ⟨.cleared, false⟩
  slave :=
    { memory := fun _ => 0, entry := ⟨0x40000, 0x20001000, 3, 3⟩, todo := [], agenda := []
      faults := [], m2sMailbox := 0, irq := false }

/-- One word for three free ones is turned away. -/
theorem stale_room_refuses : ¬ ∀ (qs : QueueSpec) (buff : List Word), Exact qs buff := by
  intro exact
  have room := (exact emptied [7] through_nil).1.mp ⟨by decide, by decide⟩
  exact absurd room (by decide)

/-! Failing transfers. -/

/-- A write that reports an error leaves both offsets, and a later one adds its own words
only to what was unread. -/
def Unsent (qs : QueueSpec) (buff : List Word) : Prop :=
  let result := mt7697qWrite qs buff
  result.2 < 0 → result.1.data.wrOffset = qs.data.wrOffset ∧
    result.1.slave.entry.wrOffset = qs.slave.entry.wrOffset ∧
    ∀ unread, Writer qs.healed unread → ∀ later next ret,
      mt7697qWrite result.1.healed later = (next, ret) → 0 ≤ ret → slaveUnread next = unread ++ later

theorem later_write {qs : QueueSpec} {unread : List Word} (writer : Writer qs unread) :
    ∀ later next ret, mt7697qWrite qs later = (next, ret) → 0 ≤ ret →
      slaveUnread next = unread ++ later := by
  intro later next ret called success
  rcases mt7697qWrite_cases writer later with ⟨after, result, _⟩ | ⟨after, result, kept, _⟩
  · rw [called] at result
    cases result
    exact absurd success (by decide)
  · rw [called] at result
    cases result
    exact kept.unread_eq

/-- A queue whose memory alone differs, where what is unread does not. -/
theorem Writer.rewritten {qs other : QueueSpec} {unread : List Word} (writer : Writer qs.healed unread)
    (data : other.data = qs.data) (entry : other.slave.entry = qs.slave.entry)
    (ring : Holds qs.data.numWords (cells qs.data.baseAddr other.slave.memory)
      qs.slave.entry.rdOffset.toNat qs.data.wrOffset.toNat unread) : Writer other.healed unread := by
  have data' : other.healed.data = qs.data := data
  have entry' : other.healed.slave.entry = qs.slave.entry := entry
  refine ⟨rfl, ?_, ?_, ?_, ?_, ?_, ?_⟩
  all_goals rw [data']
  · rw [entry']; exact writer.flags
  · rw [entry']; exact writer.base
  · rw [entry']; exact writer.published
  · exact writer.rd_lt
  · exact writer.stale
  · rw [entry']; exact ring

/-- Where the room is short, at most the host's copy of the read offset changes. -/
theorem short_unsent {qs : QueueSpec} {buff : List Word} (short : mt7697qGetFreeWords qs < buff.length) :
    Unsent qs buff := by
  rw [Unsent, short_write short]
  cases qs.slave.faults.headD none with
  | none =>
      refine fun _ => ⟨rfl, rfl, fun unread writer => later_write ?_⟩
      have kept := (mt7697qPullRdPtr_writer writer).2
      exact ⟨kept.quiet, kept.flags, kept.base, kept.published, kept.rd_lt, kept.stale, kept.ring⟩
  | some fault => exact fun _ => ⟨rfl, rfl, fun unread writer => later_write writer⟩

theorem written_fits {qs : QueueSpec} (range : InRange qs) {buff : List Word}
    (room : ¬ mt7697qGetFreeWords qs < buff.length) :
    buff.length ≤ qs.data.numWords - 1 -
      distance qs.data.numWords qs.data.rdOffset.toNat qs.data.wrOffset.toNat := by
  rw [← free_eq range.read range.write]
  exact Nat.le_of_not_lt room

/-- The two chunks, for what the host's copy of the read offset says is unread. -/
theorem host_chunked {qs : QueueSpec} (range : InRange qs) {buff : List Word}
    (room : ¬ mt7697qGetFreeWords qs < buff.length) :
    Chunked qs qs.data.rdOffset.toNat (QueueRead.unread qs) buff :=
  writeWords_chunked range.holds range.read (Nat.le_of_eq range.holds.length_eq)
    (written_fits range room)

/-- The two chunks, for what the slave has still to read. -/
theorem slave_chunked {qs : QueueSpec} {unread : List Word} (writer : Writer qs.healed unread)
    {buff : List Word} (room : ¬ mt7697qGetFreeWords qs < buff.length) :
    Chunked qs qs.slave.entry.rdOffset.toNat unread buff :=
  @writeWords_chunked qs _ _ buff writer.ring writer.rd_lt writer.stale
    (written_fits ⟨writer.rd_lt, writer.ring.target_lt⟩ room)

/-- Where one of the data chunks fails, what is stored stays behind the offset. -/
theorem chunk_unsent {qs : QueueSpec} (range : InRange qs) {buff : List Word}
    (room : ¬ mt7697qGetFreeWords qs < buff.length)
    (broken : ¬ Through (qs.slave.faults.take (chunks qs.data buff.length))) : Unsent qs buff := by
  have written : mt7697qWrite qs buff = writeWords qs buff := if_neg room
  obtain ⟨memory, left, ret, result, _, _⟩ := (host_chunked range room).failed broken
  intro _
  refine ⟨?_, ?_, fun unread writer => ?_⟩
  · rw [written, result]
    rfl
  · rw [written, result]
    rfl
  · obtain ⟨memory', left', ret', result', _, ring⟩ := (slave_chunked writer room).failed broken
    rw [written, result']
    exact later_write (writer.rewritten rfl rfl ring)

/-- What is published with no data is the host's offset, or nothing. -/
def Idle (qs : QueueSpec) (num : Nat) : Prop :=
  qs.slave.entry.wrOffset = qs.data.wrOffset ∨
    ∃ fault, (pushFaults qs num).headD none = some fault ∧ fault.done = 0

theorem publishing_nothing {qs : QueueSpec} (range : InRange qs) (memory : Word → Word) :
    (publishing qs memory 0).data = qs.data := by
  have same : BitVec.ofNat 16 (slot qs.data.numWords qs.data.wrOffset.toNat 0) = qs.data.wrOffset := by
    rw [slot_zero range.write]
    exact BitVec.eq_of_toNat_eq (by rw [BitVec.toNat_ofNat]; exact Nat.mod_eq_of_lt qs.data.wrOffset.isLt)
  rw [publishing, same]

theorem published_iff (qs : QueueSpec) (memory : Word → Word) (num : Nat) :
    Published (publishing qs memory num) ↔
      ¬ ∃ fault, (pushFaults qs num).headD none = some fault ∧ fault.done = 0 := by
  rw [Published]
  constructor
  · rintro published ⟨fault, head, zero⟩
    exact absurd (published fault head) (by omega)
  · intro none fault head
    exact Nat.pos_of_ne_zero fun zero => none ⟨fault, head, zero⟩

/-- Publishing with no data leaves the entry just when it is idle. -/
theorem idle_push {qs : QueueSpec} (range : InRange qs) (memory : Word → Word) :
    let pushed := mt7697qPushWrPtr (publishing qs memory 0)
    pushed.1.data = qs.data ∧ pushed.1.slave.memory = memory ∧
      (Idle qs 0 → pushed.1.slave.entry = qs.slave.entry) ∧
      (pushed.1.slave.entry.wrOffset = qs.slave.entry.wrOffset → Idle qs 0) := by
  have same := publishing_nothing range memory
  obtain ⟨data, kept, _, _, published, unpublished⟩ := mt7697qPushWrPtr_spec (publishing qs memory 0)
  rw [published_iff, same] at published
  rw [published_iff] at unpublished
  refine ⟨data.trans same, kept, fun idle => ?_, fun entry => ?_⟩
  · by_cases early : ∃ fault, (pushFaults qs 0).headD none = some fault ∧ fault.done = 0
    · exact unpublished (not_not.mpr early)
    · rw [published early, ← idle.resolve_right early]
      rfl
  · by_cases early : ∃ fault, (pushFaults qs 0).headD none = some fault ∧ fault.done = 0
    · exact Or.inr early
    · rw [published early] at entry
      exact Or.inl entry.symm

/-- Where the data is stored, it depends on what fails then, and on whether there was any. -/
theorem push_unsent_iff {qs : QueueSpec} (range : InRange qs) {buff : List Word}
    (room : ¬ mt7697qGetFreeWords qs < buff.length)
    (through : Through (qs.slave.faults.take (chunks qs.data buff.length))) :
    Unsent qs buff ↔ Through ((pushFaults qs buff.length).take 3) ∨
      buff.length = 0 ∧ Idle qs buff.length := by
  have written : mt7697qWrite qs buff = writeWords qs buff := if_neg room
  obtain ⟨memory, result, _⟩ := (host_chunked range room).through through
  obtain ⟨data, _, sent, broken, _⟩ := mt7697qPushWrPtr_spec (publishing qs memory buff.length)
  by_cases push : Through ((pushFaults qs buff.length).take 3)
  · refine iff_of_true (fun error => ?_) (Or.inl push)
    have ended : (mt7697qWrite qs buff).2 = (buff.length : Int) := by
      rw [written, result]
      exact if_neg (by rw [sent push]; exact Int.lt_irrefl 0)
    rw [ended] at error
    omega
  · have error : (mt7697qWrite qs buff).2 < 0 := by
      rw [written, result]
      exact lt_of_eq_of_lt (if_pos (broken push)) (broken push)
    -- Publishing fails. With words the offset has moved; without, only the entry can change.
    by_cases none : buff.length = 0
    · rw [none] at result push ⊢
      rw [or_iff_right push, and_iff_right rfl]
      obtain ⟨same, _, keeps, idle⟩ := idle_push range memory
      constructor
      · intro unsent
        have entry := (unsent error).2.1
        rw [written, result] at entry
        exact idle entry
      · intro idle _
        refine ⟨?_, ?_, fun unread writer => ?_⟩
        · rw [written, result]
          exact congrArg QueueData.wrOffset same
        · rw [written, result]
          exact congrArg QueueData.wrOffset (keeps idle)
        · obtain ⟨memory', result', ring⟩ := (slave_chunked writer room).through through
          obtain ⟨same', kept, keeps', _⟩ := idle_push range memory'
          have no_words : buff = [] := List.length_eq_zero_iff.mp none
          rw [none, slot_zero range.write, no_words, List.append_nil] at ring
          rw [none] at result'
          rw [written, result']
          refine later_write (writer.rewritten same' (keeps' idle) ?_)
          rw [kept]
          exact ring
    · have small := numWords_lt qs.data
      have write_lt := range.write
      have fits := written_fits range room
      have far := distance_lt range.read range.write
      -- A write of less than the ring never comes back to its own offset.
      refine iff_of_false (fun unsent => ?_) (fun either => ?_)
      · have offset := (unsent error).1
        rw [written, result] at offset
        have moved := congrArg BitVec.toNat ((congrArg QueueData.wrOffset data).symm.trans offset)
        have place : (BitVec.ofNat 16 (slot qs.data.numWords qs.data.wrOffset.toNat buff.length)).toNat =
          qs.data.wrOffset.toNat := moved
        rw [BitVec.toNat_ofNat, slot] at place
        split_ifs at place <;> omega
      · exact either.elim push fun idle => none idle.1

/-- A write comes to no error once its data is stored, or it has no data and publishes
nothing else. -/
def Unbroken (qs : QueueSpec) (num : Nat) : Prop :=
  mt7697qGetFreeWords qs < num ∨ ¬ Through (qs.slave.faults.take (chunks qs.data num)) ∨
    Through ((pushFaults qs num).take 3) ∨ num = 0 ∧ Idle qs num

/-- In any state of the ring, and with any transfers failing, a write that reports an error
leaves no trace just when it does not come to that error while publishing its words. -/
theorem mt7697qWrite_unsent_iff {qs : QueueSpec} (range : InRange qs) (buff : List Word) :
    Unsent qs buff ↔ Unbroken qs buff.length := by
  by_cases short : mt7697qGetFreeWords qs < buff.length
  · exact iff_of_true (short_unsent short) (Or.inl short)
  · by_cases through : Through (qs.slave.faults.take (chunks qs.data buff.length))
    · rw [push_unsent_iff range short through, Unbroken]
      simp only [short, through, not_true_eq_false, false_or]
    · exact iff_of_true (chunk_unsent range short through) (Or.inr (Or.inl through))

/-- An empty ring of four words, with transfers that fail. -/
def failing (faults : List (Option Fault)) : QueueSpec where
  data := ⟨0x40000, 0x20001000, 0, 0⟩
  ch := 0
  qinfo := ⟨.cleared, false⟩
  slave :=
    { memory := fun _ => 0, entry := ⟨0x40000, 0x20001000, 0, 0⟩, todo := [], agenda := []
      faults := faults, m2sMailbox := 0, irq := false }

theorem failing_range (faults : List (Option Fault)) : InRange (failing faults) :=
  ⟨(by decide : 0 < (failing []).data.numWords), (by decide : 0 < (failing []).data.numWords)⟩

/-- A chunk that fails behind its first word leaves nothing to be sent. -/
theorem mt7697qWrite_unsent_iff_chunk : Unsent (failing [some ⟨1, 4⟩]) [7, 8] := by
  apply (mt7697qWrite_unsent_iff (failing_range _) [7, 8]).mpr
  right
  left
  intro through
  exact absurd (through_one.mp through) (by decide)

/-- The mailbox write fails behind the offset, and the word is there for the slave. -/
theorem unannounced_is_sent : ¬ ∀ qs, InRange qs → ∀ buff, Unsent qs buff := by
  intro unsent
  have offset := (unsent _ (failing_range [none, none, some ⟨0, 4⟩]) [7] (by decide)).2.1
  exact absurd offset (by decide)

end MangOH.QueueWrite
