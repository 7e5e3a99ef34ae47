import MangOH.QueueRead

/-!
One read of a ring with transfers that fail. The transfers that were made are gone from the
list of outcomes, and nothing else of the queue has changed unless all of them went
through.
-/

namespace MangOH.QueueRead

open BitFields CyclicWindow QueueMemory

/-- A part of a read that made some transfers: the words and the offset that it comes to,
where they go through, and nothing but an error where one does not. -/
structure Served (qs : QueueSpec) (made : Nat) (comes : List Word × Nat)
    (result : QueueSpec × Int × List Word × Nat) : Prop where
  state : result.1 = qs.withFaults (qs.slave.faults.drop made)
  through : Through (qs.slave.faults.take made) → result.2 = (0, comes)
  failed : ¬ Through (qs.slave.faults.take made) → result.2.1 < 0

theorem readChunk_served (qs : QueueSpec) (readOffset rdNum : Nat) :
    Served qs 1 (readChunk qs.healed readOffset rdNum).2.2 (readChunk qs readOffset rdNum) := by
  have whole : (readChunk qs.healed readOffset rdNum).2.2 =
      (loadWords qs.slave.memory (wordAddr qs readOffset) rdNum, u16 (readOffset + rdNum)) := rfl
  have chunk : readChunk qs readOffset rdNum = match qs.slave.faults.headD none with
      | none => (qs.withFaults qs.slave.faults.tail, 0,
          loadWords qs.slave.memory (wordAddr qs readOffset) rdNum, u16 (readOffset + rdNum))
      | some fault => (qs.withFaults qs.slave.faults.tail, fault.ret,
          loadWords qs.slave.memory (wordAddr qs readOffset) (min fault.done rdNum), readOffset) := by
    rw [readChunk, mt7697ioRd, transfer_eq]
    cases qs.slave.faults.headD none with
    | none => rfl
    | some fault => simp [fault.ret_neg, QueueSpec.withFaults]
  rw [whole, chunk]
  constructor
  · rw [List.drop_one]
    cases qs.slave.faults.headD none <;> rfl
  · intro through
    rw [through_one.mp through]
  · rw [through_one]
    intro failed
    obtain ⟨fault, head⟩ := Option.ne_none_iff_exists'.mp failed
    rw [head]
    exact fault.ret_neg

theorem readToEnd_served (qs : QueueSpec) (readOffset writeOffset num : Nat) :
    ∃ made ≤ 1, Served qs made (readToEnd qs.healed readOffset writeOffset num).2.2
      (readToEnd qs readOffset writeOffset num) := by
  by_cases wraps : writeOffset < readOffset
  · have served := readChunk_served qs readOffset
      (if num ≤ sub32 qs.data.numWords readOffset then num else sub32 qs.data.numWords readOffset)
    refine ⟨1, Nat.le_refl 1, ?_⟩
    rw [readToEnd, readToEnd, if_pos wraps, if_pos wraps]
    refine ⟨served.state, fun through => ?_, served.failed⟩
    have chunk : readChunk qs readOffset _ = (_, 0, _) := Prod.ext served.state (served.through through)
    simp only [healed_data, chunk]
    rfl
  · refine ⟨0, Nat.zero_le 1, ?_⟩
    rw [readToEnd, readToEnd, if_neg wraps, if_neg wraps]
    exact ⟨rfl, fun _ => rfl, fun failed => absurd through_nil failed⟩

theorem readBelow_served (qs : QueueSpec) (readOffset writeOffset num : Nat) :
    ∃ made ≤ 1, Served qs made (readBelow qs.healed readOffset writeOffset num).2.2
      (readBelow qs readOffset writeOffset num) := by
  by_cases more : 0 < num
  · refine ⟨1, Nat.le_refl 1, ?_⟩
    rw [readBelow, readBelow, if_pos more, if_pos more]
    exact readChunk_served qs readOffset _
  · refine ⟨0, Nat.zero_le 1, ?_⟩
    rw [readBelow, readBelow, if_neg more, if_neg more]
    exact ⟨rfl, fun _ => rfl, fun failed => absurd through_nil failed⟩

/-- The words between the host's two offsets. -/
def unread (qs : QueueSpec) : List Word :=
  window qs.data.numWords (cells qs.data.baseAddr qs.slave.memory) qs.data.rdOffset.toNat
    (distance qs.data.numWords qs.data.rdOffset.toNat qs.data.wrOffset.toNat)

/-- The queue after a read of some words. -/
def advanced (qs : QueueSpec) (count : Nat) : QueueSpec :=
  { qs with data := { qs.data with
    rdOffset := BitVec.ofNat 16 ((qs.data.rdOffset.toNat + count) % qs.data.numWords) } }

/-- An offset in the ring. -/
structure InRange (qs : QueueSpec) : Prop where
  read : qs.data.rdOffset.toNat < qs.data.numWords
  write : qs.data.wrOffset.toNat < qs.data.numWords

theorem InRange.holds {qs : QueueSpec} (range : InRange qs) :
    Holds qs.data.numWords (cells qs.data.baseAddr qs.slave.memory) qs.data.rdOffset.toNat
      qs.data.wrOffset.toNat (unread qs) := ⟨range.read, range.write, rfl⟩

/-- The two parts of a read come to the next words, as many as were asked for and are
there, and to the offset behind them. -/
theorem parts_come {qs : QueueSpec} (range : InRange qs) (num : Nat) :
    let first := (readToEnd qs.healed qs.data.rdOffset.toNat qs.data.wrOffset.toNat num).2.2
    let second := (readBelow qs.healed first.2 qs.data.wrOffset.toNat (num - first.1.length)).2.2
    first.1 ++ second.1 = (unread qs).take num ∧
      second.2 = (qs.data.rdOffset.toNat + ((unread qs).take num).length) % qs.data.numWords := by
  have ring : Holds qs.healed.data.numWords (cells qs.healed.data.baseAddr qs.healed.slave.memory)
      qs.data.rdOffset.toNat qs.data.wrOffset.toNat (unread qs) := range.holds
  have total := ring.length_lt
  obtain ⟨count, count_le, count_len, first, next⟩ := readToEnd_holds num rfl ring
  have rest := ring.drop count_len
  have second := readBelow_holds (num - count) rfl rest (by omega)
  have taken : ((unread qs).take count).length = count := by
    rw [List.length_take]; omega
  have taken_le : ((unread qs).take num).length ≤ (unread qs).length := List.length_take_le' _ _
  have joined : (unread qs).take count ++ ((unread qs).drop count).take (num - count) =
      (unread qs).take num := by
    rw [← List.take_add]
    congr 1
    omega
  have moved : slot qs.data.numWords (slot qs.data.numWords qs.data.rdOffset.toNat count)
      (min (num - count) ((unread qs).drop count).length) =
      slot qs.data.numWords qs.data.rdOffset.toNat ((unread qs).take num).length := by
    rw [healed_data] at total
    rw [List.length_drop, slot_slot range.read (by omega), List.length_take]
    congr 1
    omega
  rw [healed_data] at total first second
  simp only [first, taken, second, joined, moved, true_and]
  exact (slot_eq_mod range.read (Nat.le_of_lt (Nat.lt_of_le_of_lt taken_le total))).symm

/-- A read with whatever transfers fail. -/
theorem mt7697qRead_served {qs : QueueSpec} (range : InRange qs) (num : Nat) :
    ∃ made ≤ 2, (mt7697qRead qs num).1.slave = (qs.withFaults (qs.slave.faults.drop made)).slave ∧
      (Through (qs.slave.faults.take made) → mt7697qRead qs num =
        (advanced (qs.withFaults (qs.slave.faults.drop made)) ((unread qs).take num).length,
          (((unread qs).take num).length : Int), (unread qs).take num)) ∧
      (¬ Through (qs.slave.faults.take made) →
        (mt7697qRead qs num).2.1 < 0 ∧ (mt7697qRead qs num).1.data = qs.data) := by
  obtain ⟨joined, offset⟩ := parts_come range num
  obtain ⟨made, made_le, first⟩ := readToEnd_served qs qs.data.rdOffset.toNat qs.data.wrOffset.toNat num
  generalize comes : (readToEnd qs.healed qs.data.rdOffset.toNat qs.data.wrOffset.toNat num).2.2 = one
    at joined offset first
  -- The first chunk goes through, and then the second one, or neither counts.
  by_cases through : Through (qs.slave.faults.take made)
  · have served : readToEnd qs qs.data.rdOffset.toNat qs.data.wrOffset.toNat num =
        (qs.withFaults (qs.slave.faults.drop made), 0, one.1, one.2) :=
      Prod.ext first.state (first.through through)
    obtain ⟨more, more_le, second⟩ := readBelow_served (qs.withFaults (qs.slave.faults.drop made)) one.2
      qs.data.wrOffset.toNat (num - one.1.length)
    have same : (qs.withFaults (qs.slave.faults.drop made)).healed = qs.healed := rfl
    rw [same] at second
    generalize (readBelow qs.healed one.2 qs.data.wrOffset.toNat (num - one.1.length)).2.2 = two
      at joined offset second
    have state := second.state
    have fails := second.failed
    have comes_two := second.through
    rw [withFaults_twice, withFaults_faults, List.drop_drop] at state
    rw [withFaults_faults] at fails comes_two
    refine ⟨made + more, by omega, ?_⟩
    rw [List.take_add, through_append, and_iff_right through]
    by_cases further : Through ((qs.slave.faults.drop made).take more)
    · have served_two : readBelow (qs.withFaults (qs.slave.faults.drop made)) one.2
          qs.data.wrOffset.toNat (num - one.1.length) =
          (qs.withFaults (qs.slave.faults.drop (made + more)), 0, two.1, two.2) :=
        Prod.ext state (comes_two further)
      -- The offset is a remainder, so that the test for it never fails.
      have inside : ¬ qs.data.numWords ≤ two.2 := by
        rw [offset]
        exact Nat.not_le.mpr (Nat.mod_lt _ (Nat.lt_of_le_of_lt (Nat.zero_le _) range.read))
      have result : mt7697qRead qs num =
          (advanced (qs.withFaults (qs.slave.faults.drop (made + more))) ((unread qs).take num).length,
            (((unread qs).take num).length : Int), (unread qs).take num) := by
        simp only [mt7697qRead, served, served_two, withFaults_data, Int.lt_irrefl, if_false,
          if_neg inside, joined, advanced, ← offset]
      rw [result]
      exact ⟨rfl, fun _ => rfl, fun failed => absurd further failed⟩
    · have error := fails further
      simp only [mt7697qRead, served, withFaults_data, Int.lt_irrefl, if_false, if_pos error, state]
      exact ⟨trivial, fun none => absurd none further, fun _ => ⟨error, trivial⟩⟩
  · have error := first.failed through
    have state := first.state
    refine ⟨made, by omega, ?_⟩
    simp only [mt7697qRead, if_pos error, state, withFaults_data]
    exact ⟨trivial, fun none => absurd none through, fun _ => ⟨error, trivial⟩⟩

/-! What a read looks at. -/

theorem loadWords_congr {base : Word} {memory other : Word → Word} {start num : Nat}
    (same : ∀ place < num, cells base other (start + place) = cells base memory (start + place)) :
    loadWords other (base + BitVec.ofNat 32 (4 * start)) num =
      loadWords memory (base + BitVec.ofNat 32 (4 * start)) num := by
  rw [loadWords_cells, loadWords_cells]
  exact List.map_congr_left fun place inside => same place (List.mem_range.mp inside)

theorem readChunk_congr {qs : QueueSpec} {memory : Word → Word} {readOffset rdNum : Nat}
    (same : ∀ place < rdNum, cells qs.data.baseAddr memory (readOffset + place) =
      cells qs.data.baseAddr qs.slave.memory (readOffset + place)) :
    readChunk (qs.withMemory memory) readOffset rdNum =
      ((readChunk qs readOffset rdNum).1.withMemory memory, (readChunk qs readOffset rdNum).2) := by
  simp only [readChunk, mt7697ioRd, transfer_eq]
  have front : ∀ count ≤ rdNum, loadWords memory (wordAddr qs readOffset) count =
      loadWords qs.slave.memory (wordAddr qs readOffset) count :=
    fun count few => loadWords_congr fun place inside => same place (Nat.lt_of_lt_of_le inside few)
  have address : wordAddr (qs.withMemory memory) readOffset = wordAddr qs readOffset := rfl
  have outcomes : (qs.withMemory memory).slave.faults = qs.slave.faults := rfl
  rw [address, outcomes]
  cases qs.slave.faults.headD none with
  | none =>
      have whole := front rdNum (Nat.le_refl rdNum)
      simp only [QueueSpec.withMemory, whole]
  | some fault =>
      have part := front (min fault.done rdNum) (Nat.min_le_right _ _)
      simp only [QueueSpec.withMemory, part]

/-- The same words between the two offsets. -/
def SameUnread (qs : QueueSpec) (memory : Word → Word) : Prop :=
  ∀ place < (unread qs).length,
    cells qs.data.baseAddr memory (slot qs.data.numWords qs.data.rdOffset.toNat place) =
      cells qs.data.baseAddr qs.slave.memory (slot qs.data.numWords qs.data.rdOffset.toNat place)

theorem length_unread (qs : QueueSpec) : (unread qs).length =
    distance qs.data.numWords qs.data.rdOffset.toNat qs.data.wrOffset.toNat := window_length _ _ _ _

theorem readToEnd_congr {qs : QueueSpec} (range : InRange qs) {memory : Word → Word}
    (same : SameUnread qs memory) (num : Nat) :
    readToEnd (qs.withMemory memory) qs.data.rdOffset.toNat qs.data.wrOffset.toNat num =
      ((readToEnd qs qs.data.rdOffset.toNat qs.data.wrOffset.toNat num).1.withMemory memory,
        (readToEnd qs qs.data.rdOffset.toNat qs.data.wrOffset.toNat num).2) := by
  by_cases wraps : qs.data.wrOffset.toNat < qs.data.rdOffset.toNat
  · have small := numWords_lt qs.data
    have read_lt := range.read
    have toEnd : sub32 qs.data.numWords qs.data.rdOffset.toNat =
        qs.data.numWords - qs.data.rdOffset.toNat := sub32_of_le (by omega) (by omega)
    have used := length_unread qs
    rw [distance, if_neg (by omega)] at used
    have chunk := @readChunk_congr qs memory qs.data.rdOffset.toNat
      (if num ≤ sub32 qs.data.numWords qs.data.rdOffset.toNat then num
        else sub32 qs.data.numWords qs.data.rdOffset.toNat) (fun place inside => by
      have there := same place (by rw [toEnd] at inside; split_ifs at inside <;> omega)
      rw [slot, if_pos (by rw [toEnd] at inside; split_ifs at inside <;> omega)] at there
      exact there)
    rw [readToEnd, readToEnd, if_pos wraps, if_pos wraps]
    exact congrArg (fun served : QueueSpec × Int × List Word × Nat => (served.1, served.2.1, served.2.2.1,
      if served.2.2.2 = qs.data.numWords then 0 else served.2.2.2)) chunk
  · rw [readToEnd, readToEnd, if_neg wraps, if_neg wraps]

theorem readBelow_congr {qs : QueueSpec} {readOffset writeOffset num : Nat} {memory : Word → Word}
    (order : num = 0 ∨ readOffset ≤ writeOffset) (small : writeOffset < 4294967296)
    (same : ∀ place, readOffset + place < writeOffset →
      cells qs.data.baseAddr memory (readOffset + place) =
        cells qs.data.baseAddr qs.slave.memory (readOffset + place)) :
    readBelow (qs.withMemory memory) readOffset writeOffset num =
      ((readBelow qs readOffset writeOffset num).1.withMemory memory,
        (readBelow qs readOffset writeOffset num).2) := by
  by_cases more : 0 < num
  · have avail : sub32 writeOffset readOffset = writeOffset - readOffset :=
      sub32_of_le (by omega) small
    rw [readBelow, readBelow, if_pos more, if_pos more]
    apply readChunk_congr
    intro place inside
    apply same
    rw [avail] at inside
    split_ifs at inside <;> omega
  · rw [readBelow, readBelow, if_neg more, if_neg more]

/-- A read looks at no word of the slave but those between the two offsets. -/
theorem mt7697qRead_congr {qs : QueueSpec} (range : InRange qs) {memory : Word → Word}
    (same : SameUnread qs memory) (num : Nat) :
    mt7697qRead (qs.withMemory memory) num =
      ((mt7697qRead qs num).1.withMemory memory, (mt7697qRead qs num).2) := by
  have ring := range.holds
  have small := numWords_lt qs.data
  have write_lt := range.write
  have first := readToEnd_congr range same num
  obtain ⟨made, _, served⟩ := readToEnd_served qs qs.data.rdOffset.toNat qs.data.wrOffset.toNat num
  obtain ⟨count, count_le, count_len, comes, next⟩ := @readToEnd_holds qs.healed _ _ _ num rfl ring
  rw [comes] at served
  by_cases through : Through (qs.slave.faults.take made)
  · have done : readToEnd qs qs.data.rdOffset.toNat qs.data.wrOffset.toNat num =
        (qs.withFaults (qs.slave.faults.drop made), 0, (unread qs).take count,
          slot qs.data.numWords qs.data.rdOffset.toNat count) :=
      Prod.ext served.state (served.through through)
    have taken : ((unread qs).take count).length = count := by
      rw [List.length_take]; omega
    have rest := ring.drop count_len
    have left := rest.length_eq
    have inside := rest.source_lt
    have second := @readBelow_congr (qs.withFaults (qs.slave.faults.drop made))
      (slot qs.data.numWords qs.data.rdOffset.toNat count) qs.data.wrOffset.toNat (num - count) memory
      (by rw [healed_data] at next; omega) (by omega) (fun place below => by
        have used := ring.length_lt
        rw [distance, if_pos (by omega), List.length_drop] at left
        have there := same (count + place) (by omega)
        rw [← slot_slot range.read (by omega), slot, if_pos (by omega)] at there
        exact there)
    rw [done] at first
    simp only [mt7697qRead, first, done, taken, withMemory_data, second, Int.lt_irrefl, if_false]
    generalize readBelow (qs.withFaults (qs.slave.faults.drop made)) _ _ _ = two
    by_cases error : two.2.1 < 0
    · rw [if_pos error, if_pos error]
    · rw [if_neg error, if_neg error]
      by_cases outside : two.1.data.numWords ≤ two.2.2.2
      · rw [if_pos outside, if_pos outside]
      · rw [if_neg outside, if_neg outside]
        rfl
  · have error := served.failed through
    simp only [mt7697qRead, withMemory_data, first, if_pos error]

/-- A read in any state of the ring, with any transfers failing: it looks at no other words;
where its transfers go through it returns the next words and moves on by as many, and
otherwise it reports an error and leaves the offset, so that the same words come again. -/
theorem mt7697qRead_exact {qs : QueueSpec} (range : InRange qs) (num : Nat) :
    let result := mt7697qRead qs num
    let count := min num (unread qs).length
    (∃ made ≤ 2, result.1.slave = (qs.withFaults (qs.slave.faults.drop made)).slave ∧
      (Through (qs.slave.faults.take made) → result =
        (advanced (qs.withFaults (qs.slave.faults.drop made)) count, (count : Int),
          (unread qs).take num)) ∧
      (¬ Through (qs.slave.faults.take made) → result.2.1 < 0 ∧ result.1.data = qs.data ∧
        (mt7697qRead result.1.healed num).2 = ((count : Int), (unread qs).take num))) ∧
    ∀ memory, SameUnread qs memory →
      mt7697qRead (qs.withMemory memory) num = (result.1.withMemory memory, result.2) := by
  intro result count
  have length : ((unread qs).take num).length = count := List.length_take
  obtain ⟨made, made_le, state, through, failed⟩ := mt7697qRead_served range num
  rw [length] at through
  refine ⟨⟨made, made_le, state, through, fun error => ?_⟩, fun memory same => mt7697qRead_congr range same num⟩
  obtain ⟨negative, data⟩ := failed error
  have memory : result.1.slave.memory = qs.slave.memory := by
    rw [state]
    rfl
  have same : unread result.1.healed = unread qs := by
    have data' : result.1.healed.data = qs.data := data
    have memory' : result.1.healed.slave.memory = qs.slave.memory := memory
    rw [unread, unread, data', memory']
  have still : InRange result.1.healed := by
    refine ⟨?_, ?_⟩
    all_goals
      rw [healed_data, data]
    · exact range.read
    · exact range.write
  obtain ⟨more, _, _, again, _⟩ := mt7697qRead_served still num
  rw [same, length, healed_faults, List.take_nil] at again
  exact ⟨negative, data, congrArg Prod.snd (again through_nil)⟩

/-- A ring of four words whose unread ones go round its end. -/
def wrapped : QueueSpec where
  data := ⟨0x40000, 0x20001000, 3, 2⟩
  ch := 1
  qinfo := ⟨.cleared, false⟩
  slave :=
    { memory := fun addr => addr, entry := ⟨0x40000, 0x20001000, 3, 2⟩, todo := [], agenda := []
      faults := [], m2sMailbox := 0, irq := false }

theorem mt7697qRead_exact_wrapped :
    (mt7697qRead wrapped 2).2 = (2, [0x2000100C, 0x20001000]) := by
  obtain ⟨⟨made, _, _, through, _⟩, _⟩ :=
    mt7697qRead_exact (show InRange wrapped from ⟨by decide, by decide⟩) 2
  have none : Through (wrapped.slave.faults.take made) := by
    have empty : wrapped.slave.faults = [] := rfl
    rw [empty, List.take_nil]
    exact through_nil
  rw [through none]
  change (((min 2 (unread wrapped).length : Nat) : Int), (unread wrapped).take 2) = _
  decide

end MangOH.QueueRead
