import MangOH.QueueMemory
import MangOH.Reader

/-!
The slave-to-host direction: `mt7697q_read` empties the ring in at most two
chunks around its end, up to the host's copy of the write offset. The slave
publishes words one by one as long as its own table entry shows room; the
host returns room by pushing its read offset.
-/

namespace MangOH.QueueRead

open BitFields CyclicWindow QueueMemory

/-- The slave stores its next word and publishes the new write offset, unless
its table entry shows a full ring. -/
def slavePublishWord (slave : Slave) : Slave :=
  let entry := slave.entry
  let size := entry.numWords
  match slave.todo with
  | [] => slave
  | word :: rest =>
      if distance size entry.rdOffset.toNat entry.wrOffset.toNat + 1 < size then
        { slave with
          memory := storeWords slave.memory
            (entry.baseAddr + BitVec.ofNat 32 (4 * entry.wrOffset.toNat)) [word]
          entry := { entry with
            wrOffset := BitVec.ofNat 16 ((entry.wrOffset.toNat + 1) % size) }
          todo := rest }
      else slave

def slavePublish : Nat → Slave → Slave
  | 0, slave => slave
  | count + 1, slave => slavePublish count (slavePublishWord slave)

/-- The slave's progress while the host is about to read its write offset. -/
def slaveTick (slave : Slave) : Slave :=
  match slave.agenda with
  | [] => slave
  | count :: rest => slavePublish count { slave with agenda := rest }

def mt7697qPullWrPtr (qs : QueueSpec) : QueueSpec × Int :=
  match (slaveTick qs.slave).transfer with
  | (none, slave) =>
      ({ qs with slave := slave, data := { qs.data with wrOffset := slave.entry.wrOffset } }, 0)
  | (some fault, slave) => ({ qs with slave := slave }, fault.ret)

/-- An error behind the word does not take the offset back. -/
def mt7697qPushRdPtr (qs : QueueSpec) : QueueSpec × Int :=
  match qs.slave.transfer with
  | (some fault, slave) =>
      let rdOffset := if 0 < fault.done then qs.data.rdOffset else slave.entry.rdOffset
      ({ qs with slave := { slave with entry := { slave.entry with rdOffset } } }, fault.ret)
  | (none, slave) =>
      let entry := { slave.entry with rdOffset := qs.data.rdOffset }
      match mt7697ioWrM2sMbx { qs with slave := { slave with entry := entry } } (1 <<< qs.ch) with
      | (qs, ret) => if ret < 0 then (qs, ret) else mt7697ioTriggerIntr qs

/-- One linear chunk of `rdNum` words from `readOffset`. -/
def readChunk (qs : QueueSpec) (readOffset rdNum : Nat) : QueueSpec × Int × List Word × Nat :=
  match mt7697ioRd qs (wordAddr qs readOffset) rdNum with
  | (qs, ret, words) =>
      (qs, ret, words, if ret < 0 then readOffset else u16 (readOffset + rdNum))

/-- The first chunk of `mt7697q_read`, taken when the unread words wrap. -/
def readToEnd (qs : QueueSpec) (readOffset writeOffset num : Nat) :
    QueueSpec × Int × List Word × Nat :=
  if writeOffset < readOffset then
    let wordsToEnd := sub32 qs.data.numWords readOffset
    match readChunk qs readOffset (if num ≤ wordsToEnd then num else wordsToEnd) with
    | (served, ret, words, offset) =>
        (served, ret, words, if offset = qs.data.numWords then 0 else offset)
  else (qs, 0, [], readOffset)

/-- The second chunk, with the read offset below the write offset. -/
def readBelow (qs : QueueSpec) (readOffset writeOffset num : Nat) :
    QueueSpec × Int × List Word × Nat :=
  if 0 < num then
    let wordsAvail := sub32 writeOffset readOffset
    readChunk qs readOffset (if num ≤ wordsAvail then num else wordsAvail)
  else (qs, 0, [], readOffset)

/-- The third component is what the caller's buffer holds, also on an error. -/
def mt7697qRead (qs : QueueSpec) (num : Nat) : QueueSpec × Int × List Word :=
  let writeOffset := qs.data.wrOffset.toNat
  match readToEnd qs qs.data.rdOffset.toNat writeOffset num with
  | (qs, ret, first, readOffset) =>
      if ret < 0 then (qs, ret, first)
      else match readBelow qs readOffset writeOffset (num - first.length) with
        | (qs, ret, second, readOffset) =>
            if ret < 0 then (qs, ret, first ++ second)
            else if qs.data.numWords ≤ readOffset then (qs, -einval, first ++ second)
            else
              let data := { qs.data with rdOffset := BitVec.ofNat 16 readOffset }
              ({ qs with data := data }, ((first ++ second).length : Int), first ++ second)

/-- The words of an S2M ring between calls, oldest first: read by the host but
not yet returned to the slave, visible to the host, and published since the
host last pulled the write offset. -/
structure Feed (qs : QueueSpec) (held seen unseen : List Word) : Prop where
  quiet : qs.slave.faults = []
  flags : qs.slave.entry.flags = qs.data.flags
  base : qs.slave.entry.baseAddr = qs.data.baseAddr
  ring : Holds qs.data.numWords (cells qs.data.baseAddr qs.slave.memory)
    qs.slave.entry.rdOffset.toNat qs.slave.entry.wrOffset.toNat (held ++ (seen ++ unseen))
  read : qs.data.rdOffset.toNat =
    slot qs.data.numWords qs.slave.entry.rdOffset.toNat held.length
  write : qs.data.wrOffset.toNat =
    slot qs.data.numWords qs.slave.entry.rdOffset.toNat (held.length + seen.length)

namespace Feed

variable {qs : QueueSpec} {held seen unseen : List Word}

theorem size_eq (feed : Feed qs held seen unseen) :
    qs.slave.entry.numWords = qs.data.numWords := by
  simp only [QueueData.numWords, feed.flags]

theorem total_lt (feed : Feed qs held seen unseen) :
    held.length + seen.length + unseen.length < qs.data.numWords := by
  have bound := feed.ring.length_lt
  simp only [List.length_append] at bound
  omega

/-- The host's own view: between its two offsets lie the seen words. -/
theorem visible (feed : Feed qs held seen unseen) :
    Holds qs.data.numWords (cells qs.data.baseAddr qs.slave.memory)
      qs.data.rdOffset.toNat qs.data.wrOffset.toNat seen := by
  have bound := feed.total_lt
  have dropped := feed.ring.drop (show held.length ≤ _ by simp)
  rw [List.drop_left] at dropped
  have kept := dropped.split (show seen.length ≤ _ by simp)
  rw [List.take_left, slot_slot feed.ring.source_lt (by omega)] at kept
  rw [feed.read, feed.write]
  exact kept

/-- What the slave has published beyond the host's read offset. -/
theorem published (feed : Feed qs held seen unseen) :
    Holds qs.data.numWords (cells qs.data.baseAddr qs.slave.memory)
      qs.data.rdOffset.toNat qs.slave.entry.wrOffset.toNat (seen ++ unseen) := by
  have dropped := feed.ring.drop (show held.length ≤ _ by simp)
  rw [List.drop_left] at dropped
  rw [feed.read]
  exact dropped

theorem numWords_seen (feed : Feed qs held seen unseen) :
    mt7697qGetNumWords qs = seen.length := by
  rw [mt7697qGetNumWords, mt7697qBufDiff_eq (numWords_lt _) feed.visible.source_lt,
    feed.visible.length_eq]

end Feed

theorem readChunk_holds {qs : QueueSpec} {source target count : Nat} {content : List Word}
    (quiet : qs.slave.faults = [])
    (ring : Holds qs.data.numWords (cells qs.data.baseAddr qs.slave.memory) source target content)
    (bound : count ≤ content.length) (linear : source + count ≤ qs.data.numWords) :
    readChunk qs source count = (qs, 0, content.take count, source + count) := by
  have small := numWords_lt qs.data
  have offset : u16 (source + count) = source + count := by
    unfold u16; omega
  have loaded : loadWords qs.slave.memory (wordAddr qs source) count = content.take count := by
    rw [wordAddr, loadWords_cells, ring.take_linear bound linear]
  simp [readChunk, mt7697ioRd, Slave.transfer, quiet, loaded, offset]

/-- The first chunk either serves the request or leaves the rest unwrapped. -/
theorem readToEnd_holds {qs : QueueSpec} {source target : Nat} {content : List Word} (num : Nat)
    (quiet : qs.slave.faults = [])
    (ring : Holds qs.data.numWords (cells qs.data.baseAddr qs.slave.memory) source target content) :
    ∃ count, count ≤ num ∧ count ≤ content.length ∧
      readToEnd qs source target num =
        (qs, 0, content.take count, slot qs.data.numWords source count) ∧
      (count = num ∨ slot qs.data.numWords source count ≤ target) := by
  have small := numWords_lt qs.data
  have source_lt := ring.source_lt
  have target_lt := ring.target_lt
  have length_eq := ring.length_eq
  by_cases wraps : target < source
  · have used : content.length = qs.data.numWords - source + target := by
      rw [length_eq, distance, if_neg (by omega)]
    have toEnd : sub32 qs.data.numWords source = qs.data.numWords - source :=
      sub32_of_le (by omega) (by omega)
    have count : (if num ≤ qs.data.numWords - source then num else qs.data.numWords - source) =
        min num (qs.data.numWords - source) := by
      split_ifs <;> omega
    refine ⟨min num (qs.data.numWords - source), Nat.min_le_left _ _, by omega, ?_, ?_⟩
    · rw [readToEnd, if_pos wraps]
      simp only [toEnd, count, readChunk_holds quiet ring
        (show min num (qs.data.numWords - source) ≤ content.length by omega) (by omega), slot]
      split_ifs <;> simp <;> omega
    · unfold slot
      split_ifs <;> omega
  · refine ⟨0, Nat.zero_le _, Nat.zero_le _, ?_, Or.inr ?_⟩
    · simp [readToEnd, wraps, slot_zero source_lt]
    · rw [slot_zero source_lt]
      omega

theorem readBelow_holds {qs : QueueSpec} {source target : Nat} {content : List Word} (num : Nat)
    (quiet : qs.slave.faults = [])
    (ring : Holds qs.data.numWords (cells qs.data.baseAddr qs.slave.memory) source target content)
    (order : num = 0 ∨ source ≤ target) :
    readBelow qs source target num =
      (qs, 0, content.take num, slot qs.data.numWords source (min num content.length)) := by
  have small := numWords_lt qs.data
  have target_lt := ring.target_lt
  have length_eq := ring.length_eq
  by_cases nothing : num = 0
  · simp [readBelow, nothing, slot_zero ring.source_lt]
  · have le := order.resolve_left nothing
    have used : content.length = target - source := by
      rw [length_eq, distance, if_pos le]
    have avail : sub32 target source = target - source := sub32_of_le le (by omega)
    have count : (if num ≤ target - source then num else target - source) =
        min num content.length := by
      split_ifs <;> omega
    have whole : content.take (min num content.length) = content.take num := by
      rw [List.take_eq_take_iff]; omega
    rw [readBelow, if_pos (by omega)]
    simp only [avail, count]
    rw [readChunk_holds quiet ring (Nat.min_le_right _ _) (by omega), whole, slot,
      if_pos (by omega)]

/-- A read hands over the oldest visible words, as many as there are. -/
theorem mt7697qRead_feed {qs : QueueSpec} {held seen unseen : List Word} (num : Nat)
    (feed : Feed qs held seen unseen) :
    ∃ after, mt7697qRead qs num = (after, ((seen.take num).length : Int), seen.take num) ∧
      Feed after (held ++ seen.take num) (seen.drop num) unseen ∧
      after = { qs with data := { qs.data with rdOffset := after.data.rdOffset } } := by
  have small := numWords_lt qs.data
  have total := feed.total_lt
  have ring := feed.visible
  obtain ⟨count, count_le, count_len, first, next⟩ := readToEnd_holds num feed.quiet ring
  have rest := ring.drop count_len
  have second := readBelow_holds (num - count) feed.quiet rest (by omega)
  -- The two chunks advance the offset by the words handed over.
  have moved : slot qs.data.numWords (slot qs.data.numWords qs.data.rdOffset.toNat count)
      (min (num - count) (seen.drop count).length) =
      slot qs.data.numWords qs.data.rdOffset.toNat (seen.take num).length := by
    rw [List.length_drop, slot_slot ring.source_lt (by omega), List.length_take]
    congr 1
    omega
  have joined : seen.take count ++ (seen.drop count).take (num - count) = seen.take num := by
    rw [← List.take_add]
    congr 1
    omega
  have taken : (seen.take count).length = count := by
    rw [List.length_take]; omega
  have taken_le : (seen.take num).length ≤ seen.length := List.length_take_le' _ _
  have inside : slot qs.data.numWords qs.data.rdOffset.toNat (seen.take num).length <
      qs.data.numWords := slot_lt ring.source_lt (by omega)
  have offset : (BitVec.ofNat 16 (slot qs.data.numWords qs.data.rdOffset.toNat
      (seen.take num).length)).toNat =
      slot qs.data.numWords qs.data.rdOffset.toNat (seen.take num).length := by
    rw [BitVec.toNat_ofNat]; omega
  rw [moved] at second
  let place := slot qs.data.numWords qs.data.rdOffset.toNat (seen.take num).length
  refine ⟨{ qs with data := { qs.data with rdOffset := BitVec.ofNat 16 place } }, ?_, ?_, rfl⟩
  · simp only [mt7697qRead, first, taken, second, joined, Int.lt_irrefl, if_false,
      if_neg (Nat.not_le.mpr inside), place]
  · refine ⟨feed.quiet, feed.flags, feed.base, ?_, ?_, ?_⟩
    · have whole : held ++ seen.take num ++ (seen.drop num ++ unseen) = held ++ (seen ++ unseen) := by
        rw [List.append_assoc, ← List.append_assoc (seen.take num), List.take_append_drop]
      rw [whole]
      exact feed.ring
    · change (BitVec.ofNat 16 _).toNat = slot qs.data.numWords _ _
      rw [offset, feed.read, slot_slot feed.ring.source_lt (by omega), List.length_append]
    · change qs.data.wrOffset.toNat = slot qs.data.numWords _ _
      rw [feed.write]
      congr 1
      rw [List.length_append, List.length_take, List.length_drop]
      omega

theorem slavePublishWord_feed {qs : QueueSpec} {held seen unseen rest : List Word} {word : Word}
    (feed : Feed qs held seen unseen) (todo : qs.slave.todo = word :: rest)
    (room : held.length + seen.length + unseen.length + 1 < qs.data.numWords) :
    Feed { qs with slave := slavePublishWord qs.slave } held seen (unseen ++ [word]) ∧
      (slavePublishWord qs.slave).todo = rest := by
  have small := numWords_lt qs.data
  have ring := feed.ring
  have used := ring.length_eq
  simp only [List.length_append] at used
  have free : distance qs.slave.entry.numWords qs.slave.entry.rdOffset.toNat
      qs.slave.entry.wrOffset.toNat + 1 < qs.slave.entry.numWords := by
    rw [feed.size_eq]; omega
  have appended := ring.append [word] (by have := ring.target_lt; simp; omega)
    (by simp only [List.length_append, List.length_singleton]; omega)
  have offset : (BitVec.ofNat 16 ((qs.slave.entry.wrOffset.toNat + 1) %
      qs.slave.entry.numWords)).toNat = slot qs.data.numWords qs.slave.entry.wrOffset.toNat 1 := by
    have lt := appended.target_lt
    rw [List.length_singleton] at lt
    rw [feed.size_eq, slot_eq_mod ring.target_lt (by omega), BitVec.toNat_ofNat]
    omega
  refine ⟨⟨?_, ?_, ?_, ?_, ?_, ?_⟩, ?_⟩ <;> simp only [slavePublishWord, todo, free, if_true]
  · exact feed.quiet
  · exact feed.flags
  · exact feed.base
  -- The word goes into a free cell behind everything that is held.
  · rw [offset, ← List.append_assoc seen, ← List.append_assoc held]
    refine appended.congr fun place inside => ?_
    rw [feed.base]
    refine (storeWords_cells _ _ _ _ ?_ place (by omega)).symm
    have := ring.target_lt
    simp
    omega
  · exact feed.read
  · exact feed.write

theorem slavePublishWord_idle {qs : QueueSpec} {held seen unseen : List Word}
    (feed : Feed qs held seen unseen) (idle : qs.slave.todo = [] ∨
      qs.data.numWords ≤ held.length + seen.length + unseen.length + 1) :
    slavePublishWord qs.slave = qs.slave := by
  have used := feed.ring.length_eq
  simp only [List.length_append] at used
  unfold slavePublishWord
  rcases idle with nothing | full
  · simp [nothing]
  · have busy : ¬ distance qs.slave.entry.numWords qs.slave.entry.rdOffset.toNat
        qs.slave.entry.wrOffset.toNat + 1 < qs.slave.entry.numWords := by
      rw [feed.size_eq]; omega
    cases todo : qs.slave.todo with
    | nil => rfl
    | cons word rest => simp [busy]

/-- The slave publishes as many words as were asked for, are left and fit. -/
theorem slavePublish_feed {held seen : List Word} (count : Nat) :
    ∀ {qs : QueueSpec} {unseen : List Word} (amount : Nat), Feed qs held seen unseen →
      amount = min count (min qs.slave.todo.length
        (qs.data.numWords - 1 - (held.length + seen.length + unseen.length))) →
      Feed { qs with slave := slavePublish count qs.slave } held seen
          (unseen ++ qs.slave.todo.take amount) ∧
        (slavePublish count qs.slave).todo = qs.slave.todo.drop amount := by
  induction count with
  | zero =>
      intro qs unseen amount feed exact
      have none : amount = 0 := by omega
      subst none
      simpa [slavePublish] using feed
  | succ count ih =>
      intro qs unseen amount feed exact
      by_cases idle : qs.slave.todo = [] ∨
          qs.data.numWords ≤ held.length + seen.length + unseen.length + 1
      -- A full ring and an exhausted slave stay so for the remaining rounds.
      · have same := slavePublishWord_idle feed idle
        have zero : amount = 0 := by
          rcases idle with nothing | full
          · simp [nothing] at exact; exact exact
          · omega
        subst zero
        rw [slavePublish, same]
        exact ih 0 feed (by omega)
      · simp only [not_or, Nat.not_le] at idle
        obtain ⟨word, rest, todo⟩ := List.exists_cons_of_ne_nil idle.1
        obtain ⟨kept, left⟩ := slavePublishWord_feed feed todo idle.2
        have later := ih (amount - 1) kept (by
          rw [todo] at exact
          simp only [List.length_cons] at exact
          simp only [left, List.length_append, List.length_singleton]
          omega)
        have positive : amount = amount - 1 + 1 := by
          rw [todo] at exact
          simp only [List.length_cons] at exact
          omega
        simp only [left] at later
        rw [slavePublish, todo, positive, List.take_succ_cons, List.drop_succ_cons]
        simpa [List.append_assoc] using later

/-- Some of the words still to come become published, none is lost. -/
theorem slaveTick_feed {qs : QueueSpec} {held seen unseen : List Word}
    (feed : Feed qs held seen unseen) :
    ∃ amount, Feed { qs with slave := slaveTick qs.slave } held seen
        (unseen ++ qs.slave.todo.take amount) ∧
      (slaveTick qs.slave).todo = qs.slave.todo.drop amount := by
  unfold slaveTick
  cases agenda : qs.slave.agenda with
  | nil => exact ⟨0, by simpa using feed, rfl⟩
  | cons count rest =>
      have later : Feed { qs with slave := { qs.slave with agenda := rest } } held seen unseen :=
        ⟨feed.quiet, feed.flags, feed.base, feed.ring, feed.read, feed.write⟩
      exact ⟨_, slavePublish_feed count _ later rfl⟩

/-- Pulling the write offset shows the host everything published so far. -/
theorem mt7697qPullWrPtr_feed {qs : QueueSpec} {held seen unseen : List Word}
    (feed : Feed qs held seen unseen) :
    ∃ after amount, mt7697qPullWrPtr qs = (after, 0) ∧
      Feed after held (seen ++ (unseen ++ qs.slave.todo.take amount)) [] ∧
      after.slave.todo = qs.slave.todo.drop amount ∧ after.qinfo = qs.qinfo ∧
      after.data.flags = qs.data.flags := by
  obtain ⟨amount, ticked, left⟩ := slaveTick_feed feed
  have quiet : (slaveTick qs.slave).faults = [] := ticked.quiet
  refine ⟨{ qs with
    slave := slaveTick qs.slave
    data := { qs.data with wrOffset := (slaveTick qs.slave).entry.wrOffset } },
    amount, ?_, ⟨quiet, ticked.flags, ticked.base, ?_, ticked.read, ?_⟩, left, rfl, rfl⟩
  · simp [mt7697qPullWrPtr, Slave.transfer, quiet]
  · rw [List.append_nil]
    exact ticked.ring
  · change (slaveTick qs.slave).entry.wrOffset.toNat = slot qs.data.numWords _ _
    -- The new copy is as far from the slave's read offset as there are words in the ring.
    have far := slot_distance ticked.ring.source_lt ticked.ring.target_lt
    rw [← ticked.ring.length_eq] at far
    rw [← List.length_append]
    exact far.symm

/-- Pushing the read offset returns the held words to the slave. -/
theorem mt7697qPushRdPtr_feed {qs : QueueSpec} {held seen unseen : List Word}
    (feed : Feed qs held seen unseen) :
    ∃ after, mt7697qPushRdPtr qs = (after, 0) ∧ Feed after [] seen unseen ∧
      after.slave.todo = qs.slave.todo ∧ after.qinfo = qs.qinfo ∧
      after.data.flags = qs.data.flags := by
  have total := feed.total_lt
  refine ⟨{ qs with slave := { qs.slave with
    entry := { qs.slave.entry with rdOffset := qs.data.rdOffset }
    m2sMailbox := bfDefine (BitVec.ofNat 32 (1 <<< qs.ch)) 0 7
    irq := true } }, ?_, ⟨feed.quiet, feed.flags, feed.base, feed.published, ?_, ?_⟩, rfl, rfl, rfl⟩
  · simp [mt7697qPushRdPtr, mt7697ioWrM2sMbx, mt7697ioTriggerIntr, Slave.transfer, feed.quiet]
  · exact (slot_zero feed.published.source_lt).symm
  · change qs.data.wrOffset.toNat = slot qs.data.numWords qs.data.rdOffset.toNat _
    rw [feed.write, feed.read, slot_slot feed.ring.source_lt (by simp; omega)]
    simp

/-- A program that takes `total` words of the visible ones gets the oldest. -/
theorem run_feed {α : Type} (program : Reader Word α) :
    ∀ {total : Nat} {qs : QueueSpec} {held seen unseen : List Word}, program.Takes total →
      Feed qs held seen unseen → total ≤ seen.length →
      ∃ after value, program.run mt7697qRead qs = (after, seen.take total, value) ∧
        Feed after (held ++ seen.take total) (seen.drop total) unseen ∧
        after = { qs with data := { qs.data with rdOffset := after.data.rdOffset } } := by
  induction program with
  | done value =>
      intro total qs held seen unseen takes feed enough
      have none : total = 0 := takes
      subst none
      exact ⟨qs, value, rfl, by simpa using feed, rfl⟩
  | read num next ih =>
      intro total qs held seen unseen takes feed enough
      obtain ⟨fits, rest⟩ := takes
      have served : (seen.take num).length = num := by
        rw [List.length_take]; omega
      -- This request takes the first words, the rest of the program the others.
      have split : num + (total - num) = total := by omega
      obtain ⟨middle, result, kept, moved⟩ := mt7697qRead_feed num feed
      rw [served] at result
      obtain ⟨after, value, ran, last, frame⟩ := ih _ _ (rest _ served) kept
        (by rw [List.length_drop]; omega)
      refine ⟨after, value, ?_, ?_, ?_⟩
      · simp only [Reader.run, result, ran]
        rw [← List.take_add, split]
      · rw [List.append_assoc, ← List.take_add, List.drop_drop, split] at last
        exact last
      · rw [frame, moved]

end MangOH.QueueRead
