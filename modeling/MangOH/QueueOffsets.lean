import MangOH.SoloTasks
import MangOH.SpiQueue

/-!
Offsets that the slave publishes and that are not in its ring. `mt7697q_read_state` checks
both offsets once; after that one of them is the host's own, and the other comes from the
slave's word each time that it is pulled.
-/

namespace MangOH.QueueOffsets

open BitFields CyclicWindow SpiBridge MutexTasks SpiQueue SoloTasks
open QueueMemory hiding mt7697qGetCapacity mt7697qGetNumWords mt7697qGetFreeWords
open QueueReceive (headerWords bodyWords grpQueue mt7697qProcQueueRsp)

abbrev QueueRun := Run Host Call Outcome
abbrev Slave := Peer Host Call Outcome

/-- The channels of `mt7697q_init`. -/
structure Link where
  rx : Nat
  tx : Nat
  apart : rx ≠ tx

inductive Request where
  | read (num : Nat)
  | write (buff : List Word)
  /-- `rx_fcn`, and the largest buffer that it hands to `mt7697q_read`. -/
  | procData (handler : RspHdr → Handler) (limit : Nat)

def Request.procedure (link : Link) (fuel : Nat) : Request → Procedure Host Call Outcome Int
  | .read num, next => mt7697qRead link.rx num fun ret _ => next ret
  | .write buff, next => mt7697qWrite link.tx buff next
  | .procData handler _, next => mt7697qProcData handler fuel link.rx next

/-- What `rx_fcn` does with the pair of queues. -/
def Fits (link : Link) (limit : Nat) : Handler → Prop
  | .done _ => True
  | .read ch num next => ch = link.rx ∧ num ≤ limit ∧ ∀ ret words, Fits link limit (next ret words)
  | .write ch buff next => ch = link.tx ∧ buff.length ≤ limit ∧ ∀ ret, Fits link limit (next ret)

def Request.Fits (link : Link) : Request → Prop
  | .procData handler limit => ∀ header, QueueOffsets.Fits link limit (handler header)
  | _ => True

/-! What a call of `io.h` addresses. -/

/-- Each of so many words from this address is one of the ring. -/
def InRing (data : QueueData) (addr : Word) (count : Nat) : Prop :=
  ∀ word < count, ∃ place < data.numWords,
    addr + BitVec.ofNat 32 (4 * word) = data.baseAddr + BitVec.ofNat 32 (4 * place)

/-- The words of the slave's table that hold the offsets of the pair. -/
def IsOffset (link : Link) (addr : Word) (count : Nat) : Prop :=
  count = 1 ∧ (addr = rdOffsetAddr link.rx ∨ addr = wrOffsetAddr link.rx ∨
    addr = rdOffsetAddr link.tx ∨ addr = wrOffsetAddr link.tx)

instance (link : Link) (addr : Word) (count : Nat) : Decidable (IsOffset link addr count) :=
  inferInstanceAs (Decidable (_ ∧ _))

def Inside (link : Link) (host : Host) : Call → Prop
  | .rd addr num => IsOffset link addr num ∨ InRing (host.queues link.rx) addr num
  | .wr addr data => IsOffset link addr data.length ∨ InRing (host.queues link.tx) addr data.length
  | _ => True

/-- How many words of the caller's buffer a call moves. -/
def ringWords (link : Link) : Call → Nat
  | .rd addr num => if IsOffset link addr num then 0 else num
  | .wr addr data => if IsOffset link addr data.length then 0 else data.length
  | _ => 0

/-! The sizes, each as what it is taken from and what is taken. -/

def Whole (sizes : List (Nat × Nat)) : Prop := ∀ size ∈ sizes, size.2 ≤ size.1

def bufDiffSizes (size source target : Nat) : List (Nat × Nat) :=
  if source ≤ target then [(target, source)] else [(size, source)]

def numWordsSizes (data : QueueData) : List (Nat × Nat) :=
  bufDiffSizes data.numWords data.rdOffset.toNat data.wrOffset.toNat

def freeSizes (data : QueueData) : List (Nat × Nat) :=
  (data.numWords, 1) :: numWordsSizes data ++ [(mt7697qGetCapacity data, mt7697qGetNumWords data)]

def readSizes (data : QueueData) (num : Nat) : List (Nat × Nat) :=
  let readOffset := data.rdOffset.toNat
  let writeOffset := data.wrOffset.toNat
  if writeOffset < readOffset then
    let rdNum := min num (sub32 data.numWords readOffset)
    let offset := u16 (readOffset + rdNum)
    (data.numWords, readOffset) ::
      if rdNum < num then [(writeOffset, if offset = data.numWords then 0 else offset)] else []
  else if 0 < num then [(writeOffset, readOffset)] else []

def belowSizes (readOffset writeOffset num : Nat) : List (Nat × Nat) :=
  if writeOffset < readOffset ∧ 0 < num then
    [(readOffset, writeOffset), (sub32 readOffset writeOffset, 1)]
  else []

def writeSizes (data : QueueData) (num : Nat) : List (Nat × Nat) :=
  let readOffset := data.rdOffset.toNat
  let writeOffset := data.wrOffset.toNat
  if readOffset ≤ writeOffset then
    let toEnd := sub32 data.numWords writeOffset
    let words := min num (if readOffset = 0 then sub32 toEnd 1 else toEnd)
    let offset := u16 (writeOffset + words)
    (data.numWords, writeOffset) :: (if readOffset = 0 then [(toEnd, 1)] else []) ++
      belowSizes readOffset (if offset = data.numWords then 0 else offset) (num - words)
  else belowSizes readOffset writeOffset num

/-- No size wraps that one of the calls takes from these offsets. -/
structure Unwrapped (link : Link) (host : Host) : Prop where
  avail : Whole (numWordsSizes (host.queues link.rx))
  read : ∀ num, Whole (readSizes (host.queues link.rx) num)
  free : Whole (freeSizes (host.queues link.tx))
  write : ∀ num, num ≤ mt7697qGetFreeWords (host.queues link.tx) →
    Whole (writeSizes (host.queues link.tx) num)

/-- The offset that a call pulled, where it is not one of the ring. -/
def Stray (data : QueueData) (addr : Word) (entry : Entry Host Call Outcome) : Prop :=
  entry.call = .rd addr 1 ∧ 0 ≤ entry.answer.1 ∧ data.numWords ≤ (entry.answer.2.headD 0).toNat

/-- The request works with an offset of the slave's that is not in the ring. -/
def Meets (link : Link) (before : Host) (calls : List (Entry Host Call Outcome)) : Request → Prop
  | .read _ => (before.queues link.rx).numWords ≤ (before.queues link.rx).wrOffset.toNat
  | .write _ => (before.queues link.tx).numWords ≤ (before.queues link.tx).rdOffset.toNat ∨
      ∃ entry ∈ calls, Stray (before.queues link.tx) (rdOffsetAddr link.tx) entry
  | .procData _ _ => ∃ entry ∈ calls, Stray (before.queues link.rx) (wrOffsetAddr link.rx) entry

def ownOffset (link : Link) (host : Host) : Request → BitVec 16
  | .write _ => (host.queues link.tx).wrOffset
  | _ => (host.queues link.rx).rdOffset

/-- The words for the caller's buffer; those of `mt7697q_proc_data` go to the header and to
what `rx_fcn` provides, one read at a time. -/
def Held (link : Link) (calls : List (Entry Host Call Outcome)) : Request → Prop
  | .read num => (calls.map fun entry => ringWords link entry.call).sum ≤ num
  | .write buff => (calls.map fun entry => ringWords link entry.call).sum ≤ buff.length
  | .procData _ limit => ∀ entry ∈ calls, ringWords link entry.call ≤ max headerWords limit

structure Contained (link : Link) (request : Request) (before : QueueRun) (ret : Int)
    (after : QueueRun) (calls : List (Entry Host Call Outcome)) : Prop where
  made : after.log = before.log ++ calls
  inside : ∀ entry ∈ calls, Inside link entry.host entry.call
  held : Held link calls request
  sizes : Unwrapped link before.host ∧ (∀ entry ∈ calls, Unwrapped link entry.host) ∧
    Unwrapped link after.host
  stops : Meets link before.host calls request →
    ret < 0 ∧ ownOffset link after.host request = ownOffset link before.host request

/-- Each of these requests ends, and is contained. -/
def Contains (link : Link) (slave : Slave) : List Request → QueueRun → Prop
  | [], _ => True
  | request :: rest, before => ∃ enough ret after calls,
      (∀ fuel, enough ≤ fuel → Returns slave (request.procedure link fuel) before ret after) ∧
        Contained link request before ret after calls ∧ Contains link slave rest after

/-! What the slave publishes. -/

/-- Each offset that is pulled from the word is one of these. -/
def Publishes (slave : Slave) (addr : Word) (offsets : Word → Prop) : Prop :=
  ∀ log, 0 ≤ (slave log (.rd addr 1)).1 → offsets ((slave log (.rd addr 1)).2.headD 0)

/-- After so many calls the word does not change any more. -/
def Settles (slave : Slave) (addr : Word) : Prop :=
  ∃ count offset, ∀ log, count ≤ log.length → 0 ≤ (slave log (.rd addr 1)).1 →
    (slave log (.rd addr 1)).2.headD 0 = offset

instance : Nontrivial Host :=
  ⟨⟨⟨fun _ => ⟨0, 0, 0, 0⟩, .cleared, true⟩, ⟨fun _ => ⟨0, 0, 0, 0⟩, .cleared, false⟩, by simp⟩⟩

theorem mt7697qReadState_ends (slave : Slave) (run : QueueRun) (ch : Nat) :
    Ends slave (mt7697qReadState ch) run fun ret after => 0 ≤ ret → Accepted (after.host.queues ch) := by
  unfold mt7697qReadState
  apply ends_lock
  apply ends_call
  generalize slave run.log _ = answer
  obtain ⟨ret, words⟩ := answer
  apply ends_host
  have invalid : ¬ 0 ≤ -einval := by decide
  generalize setData ch words _ = host
  by_cases error : ret < 0
  · simp only [if_pos error]
    exact ends_value fun success => absurd error (Int.not_lt.mpr success)
  by_cases base : (host.queues ch).baseAddr = 0
  · simp only [if_neg error, if_pos base]
    exact ends_value fun success => absurd success invalid
  by_cases flags : (host.queues ch).flags = 0
  · simp only [if_neg error, if_neg base, if_pos flags]
    exact ends_value fun success => absurd success invalid
  by_cases range : mt7697qGetCapacity (host.queues ch) < (host.queues ch).rdOffset.toNat ∨
      mt7697qGetCapacity (host.queues ch) < (host.queues ch).wrOffset.toNat
  · simp only [if_neg error, if_neg base, if_neg flags, if_pos range]
    exact ends_value fun success => absurd success invalid
  · simp only [if_neg error, if_neg base, if_neg flags, if_neg range]
    rw [not_or, Nat.not_lt, Nat.not_lt] at range
    exact ends_value fun _ => ⟨base, flags, range.1, range.2⟩

/-- The queues that `mt7697q_read_state` lets pass. -/
theorem mt7697qReadState_accepted {slave : Slave} {run after : QueueRun} {ch : Nat} {ret : Int}
    (returns : Returns slave (mt7697qReadState ch) run ret after) (success : 0 ≤ ret) :
    Accepted (after.host.queues ch) := by
  obtain ⟨other, final, same, accepted⟩ := mt7697qReadState_ends slave run ch
  obtain ⟨rfl, rfl⟩ := returns_unique same returns
  exact accepted success

/-! Offsets in the ring. -/

structure Ranged (data : QueueData) : Prop where
  read : data.rdOffset.toNat < data.numWords
  write : data.wrOffset.toNat < data.numWords

theorem capacity_eq {data : QueueData} (words : 0 < data.numWords) :
    mt7697qGetCapacity data = data.numWords - 1 :=
  sub32_of_le words (Nat.lt_trans (numWords_lt data) (by decide))

theorem ranged_of_accepted {data : QueueData} (accepted : Accepted data) (words : 0 < data.numWords) :
    Ranged data := by
  obtain ⟨_, _, read, write⟩ := accepted
  have capacity : sub32 data.numWords 1 = data.numWords - 1 := capacity_eq words
  rw [capacity] at read write
  exact ⟨Nat.lt_of_le_of_lt read (Nat.sub_one_lt_of_lt words),
    Nat.lt_of_le_of_lt write (Nat.sub_one_lt_of_lt words)⟩

namespace Ranged

variable {data : QueueData}

theorem words (ranged : Ranged data) : 0 < data.numWords := Nat.zero_lt_of_lt ranged.read

theorem used_eq (ranged : Ranged data) : mt7697qGetNumWords data =
    distance data.numWords data.rdOffset.toNat data.wrOffset.toNat :=
  mt7697qBufDiff_eq (numWords_lt data) ranged.read

theorem free_eq (ranged : Ranged data) : mt7697qGetFreeWords data = data.numWords - 1 -
    distance data.numWords data.rdOffset.toNat data.wrOffset.toNat := by
  have small := numWords_lt data
  have far := distance_lt ranged.read ranged.write
  rw [mt7697qGetFreeWords, capacity_eq ranged.words, ranged.used_eq]
  exact sub32_of_le (by omega) (by omega)

theorem whole_avail (ranged : Ranged data) : Whole (numWordsSizes data) := by
  intro size inside
  have read := ranged.read
  unfold numWordsSizes bufDiffSizes at inside
  split_ifs at inside with order <;> rw [List.mem_singleton] at inside <;> subst inside
  · exact order
  · exact Nat.le_of_lt read

theorem whole_free (ranged : Ranged data) : Whole (freeSizes data) := by
  have far := distance_lt ranged.read ranged.write
  intro size inside
  rcases List.mem_cons.mp inside with rfl | inside
  · exact ranged.words
  · rcases List.mem_append.mp inside with avail | used
    · exact ranged.whole_avail size avail
    · rw [List.mem_singleton] at used
      subst used
      rw [capacity_eq ranged.words, ranged.used_eq]
      omega

theorem whole_read (ranged : Ranged data) (num : Nat) : Whole (readSizes data num) := by
  have small := numWords_lt data
  have read := ranged.read
  have toEnd : sub32 data.numWords data.rdOffset.toNat = data.numWords - data.rdOffset.toNat :=
    sub32_of_le (by omega) (by omega)
  intro size inside
  simp only [readSizes, toEnd] at inside
  split_ifs at inside with wraps more whole any
  · rcases List.mem_cons.mp inside with rfl | rest
    · exact Nat.le_of_lt read
    · rw [List.mem_singleton] at rest
      subst rest
      exact Nat.zero_le _
  · -- The first chunk is cut short only by the end of the ring.
    have offset : u16 (data.rdOffset.toNat + min num (data.numWords - data.rdOffset.toNat)) =
        data.rdOffset.toNat + min num (data.numWords - data.rdOffset.toNat) := by
      unfold u16; omega
    rw [offset] at whole
    omega
  · rw [List.mem_singleton] at inside
    subst inside
    exact Nat.le_of_lt read
  · rw [List.mem_singleton] at inside
    subst inside
    exact Nat.le_of_not_lt wraps
  · exact absurd inside List.not_mem_nil

theorem whole_below {readOffset writeOffset num : Nat} (small : readOffset < 65536) :
    Whole (belowSizes readOffset writeOffset num) := by
  intro size inside
  unfold belowSizes at inside
  split_ifs at inside with below
  · have room : sub32 readOffset writeOffset = readOffset - writeOffset :=
      sub32_of_le (by omega) (by omega)
    rcases List.mem_cons.mp inside with rfl | rest
    · exact Nat.le_of_lt below.1
    · rw [List.mem_singleton] at rest
      subst rest
      rw [room]
      simp only
      omega
  · exact absurd inside List.not_mem_nil

theorem whole_write (ranged : Ranged data) (num : Nat) : Whole (writeSizes data num) := by
  have small := numWords_lt data
  have write := ranged.write
  have read := ranged.read
  have toEnd : sub32 data.numWords data.wrOffset.toNat = data.numWords - data.wrOffset.toNat :=
    sub32_of_le (by omega) (by omega)
  intro size inside
  simp only [writeSizes, toEnd] at inside
  split at inside
  · rw [List.cons_append] at inside
    rcases List.mem_cons.mp inside with rfl | rest
    · exact Nat.le_of_lt write
    · rcases List.mem_append.mp rest with last | below
      · split_ifs at last
        · rw [List.mem_singleton] at last
          subst last
          simp only
          omega
        · exact absurd last List.not_mem_nil
      · exact whole_below (by omega) size below
  · exact whole_below (by omega) size inside

end Ranged

/-! Sound calls. -/

/-- Both queues have their offsets in the ring, and the sizes that they had. -/
structure Safe (link : Link) (rxSize txSize : Nat) (host : Host) : Prop where
  rx : Ranged (host.queues link.rx)
  tx : Ranged (host.queues link.tx)
  rxSize : (host.queues link.rx).numWords = rxSize
  txSize : (host.queues link.tx).numWords = txSize

/-- The slave publishes offsets of its rings. What `mt7697q_write` pulls is cut first. -/
structure Honest (link : Link) (rxSize txSize : Nat) (slave : Slave) : Prop where
  wrOffset : Publishes slave (wrOffsetAddr link.rx) fun offset => offset.toNat < rxSize
  rdOffset : Publishes slave (rdOffsetAddr link.tx) fun offset =>
    (offset.setWidth 16 : BitVec 16).toNat < txSize

structure Sound (link : Link) (rxSize limit : Nat) (entry : Entry Host Call Outcome) : Prop where
  inside : Inside link entry.host entry.call
  words : ringWords link entry.call ≤ limit
  sizes : Unwrapped link entry.host
  pulled : entry.call = .rd (wrOffsetAddr link.rx) 1 → 0 ≤ entry.answer.1 →
    (entry.answer.2.headD 0).toNat < rxSize

variable {link : Link} {slave : Slave} {rxSize txSize limit : Nat}

theorem Safe.unwrapped {host : Host} (safe : Safe link rxSize txSize host) : Unwrapped link host :=
  ⟨safe.rx.whole_avail, safe.rx.whole_read, safe.tx.whole_free, fun num _ => safe.tx.whole_write num⟩

abbrev Passes (link : Link) (rxSize limit : Nat) :=
  Moves (Sound link rxSize limit) (ringWords link)

theorem passes_made (honest : Honest link rxSize txSize slave) {run : QueueRun}
    (safe : Safe link rxSize txSize run.host) {call : Call} {words : Nat}
    (inside : Inside link run.host call) (size : ringWords link call ≤ words) (few : words ≤ limit) :
    Passes link rxSize limit words run (run.made call (slave run.log call)) := by
  have sound : Sound link rxSize limit ⟨run.host, call, slave run.log call⟩ := by
    refine ⟨inside, Nat.le_trans size few, safe.unwrapped, ?_⟩
    rintro rfl success
    exact honest.wrOffset run.log success
  exact (moves_made sound).imp (fun _ holds => holds) size

theorem inRing_linear {data : QueueData} {offset count : Nat} (fits : offset + count ≤ data.numWords) :
    InRing data (data.baseAddr + BitVec.ofNat 32 (4 * offset)) count := by
  intro word below
  refine ⟨offset + word, by omega, ?_⟩
  rw [Nat.mul_add, BitVec.ofNat_add, BitVec.add_assoc]

theorem ringWords_rd_le (addr : Word) (num : Nat) : ringWords link (.rd addr num) ≤ num := by
  rw [ringWords]
  split
  · exact Nat.zero_le _
  · exact Nat.le_refl _

theorem ringWords_wr_le (addr : Word) (data : List Word) :
    ringWords link (.wr addr data) ≤ data.length := by
  rw [ringWords]
  split
  · exact Nat.zero_le _
  · exact Nat.le_refl _

theorem readChunk_ends (honest : Honest link rxSize txSize slave) {run : QueueRun}
    (safe : Safe link rxSize txSize run.host) {readOffset rdNum : Nat}
    (linear : readOffset + rdNum ≤ (run.host.queues link.rx).numWords) (few : rdNum ≤ limit) :
    Ends slave (fun exit => readChunk (run.host.queues link.rx) readOffset rdNum
        (fun ret words => exit (Sum.inl (ret, words))) fun words offset => exit (Sum.inr (words, offset)))
      run fun value after => Passes link rxSize limit rdNum run after ∧ after.host = run.host ∧
        ((∃ ret words, value = Sum.inl (ret, words) ∧ ret < 0) ∨
          ∃ words, value = Sum.inr (words, readOffset + rdNum)) := by
  have small := numWords_lt (run.host.queues link.rx)
  have offset : u16 (readOffset + rdNum) = readOffset + rdNum := Nat.mod_eq_of_lt (by omega)
  apply ends_call
  have moves := passes_made honest safe (show Inside link run.host (.rd _ rdNum) from
    Or.inr (inRing_linear linear)) (ringWords_rd_le _ _) few
  generalize slave run.log _ = answer at moves ⊢
  obtain ⟨ret, words⟩ := answer
  by_cases error : ret < 0
  · simp only [if_pos error]
    exact ends_value ⟨moves, rfl, Or.inl ⟨ret, words, rfl, error⟩⟩
  · simp only [if_neg error, offset]
    exact ends_value ⟨moves, rfl, Or.inr ⟨words, rfl⟩⟩

/-- What a part of a read comes to, with what then holds of its words and the offset. -/
def Part (link : Link) (rxSize limit num : Nat) (run : QueueRun) (behind : Nat → Nat → Prop)
    (value : Sum (Int × List Word) (Nat × List Word × Nat)) (after : QueueRun) : Prop :=
  after.host = run.host ∧
    ((∃ ret words, value = Sum.inl (ret, words) ∧ ret < 0 ∧ Passes link rxSize limit num run after) ∨
      ∃ rdNum words offset, value = Sum.inr (rdNum, words, offset) ∧ rdNum ≤ num ∧
        Passes link rxSize limit rdNum run after ∧ behind rdNum offset)

theorem part_ends (honest : Honest link rxSize txSize slave) {run : QueueRun}
    (safe : Safe link rxSize txSize run.host) {rdNum num : Nat} {behind : Nat → Nat → Prop}
    (readOffset : Nat) (part : (Int → List Word → QueueTask) → (Nat → List Word → Nat → QueueTask) → QueueTask)
    (turn : Nat → Nat)
    (shape : ∀ cleanup next, part cleanup next = readChunk (run.host.queues link.rx) readOffset rdNum
      cleanup fun words offset => next rdNum words (turn offset))
    (linear : readOffset + rdNum ≤ (run.host.queues link.rx).numWords) (fits : rdNum ≤ num)
    (few : num ≤ limit) (reached : behind rdNum (turn (readOffset + rdNum))) :
    Ends slave (fun exit => part (fun ret words => exit (Sum.inl (ret, words)))
      fun rdNum words offset => exit (Sum.inr (rdNum, words, offset))) run
      (Part link rxSize limit num run behind) := by
  obtain ⟨value, after, returns, moves, host, outcome⟩ :=
    readChunk_ends honest safe linear (Nat.le_trans fits few)
  have goes := fun exit : Sum (Int × List Word) (Nat × List Word × Nat) → QueueTask =>
    returns fun value => Sum.elim (fun failed => exit (Sum.inl failed))
      (fun got => exit (Sum.inr (rdNum, got.1, turn got.2))) value
  rcases outcome with ⟨ret, words, rfl, error⟩ | ⟨words, rfl⟩
  · refine ⟨Sum.inl (ret, words), after, fun exit => ?_, host, Or.inl ⟨ret, words, rfl, error,
      moves.imp (fun _ holds => holds) fits⟩⟩
    simp only [shape]
    exact goes exit
  · refine ⟨Sum.inr (rdNum, words, turn (readOffset + rdNum)), after, fun exit => ?_, host,
      Or.inr ⟨rdNum, words, _, rfl, fits, moves, reached⟩⟩
    simp only [shape]
    exact goes exit

theorem clamp_eq (num words : Nat) : (if num ≤ words then num else words) = min num words := by
  split_ifs <;> omega

/-- The first chunk either serves the request or leaves the rest unwrapped. -/
theorem readToEnd_ends (honest : Honest link rxSize txSize slave) {run : QueueRun}
    (safe : Safe link rxSize txSize run.host) {num : Nat} (few : num ≤ limit) :
    let data := run.host.queues link.rx
    Ends slave (fun exit => readToEnd data num (fun ret words => exit (Sum.inl (ret, words)))
        fun rdNum words offset => exit (Sum.inr (rdNum, words, offset))) run
      (Part link rxSize limit num run fun rdNum offset => offset < data.numWords ∧
        distance data.numWords offset data.wrOffset.toNat + rdNum =
          distance data.numWords data.rdOffset.toNat data.wrOffset.toNat ∧
        (rdNum = num ∨ offset ≤ data.wrOffset.toNat)) := by
  intro data
  have small := numWords_lt data
  have read : data.rdOffset.toNat < data.numWords := safe.rx.read
  have write : data.wrOffset.toNat < data.numWords := safe.rx.write
  by_cases wraps : data.wrOffset.toNat < data.rdOffset.toNat
  · have toEnd : sub32 data.numWords data.rdOffset.toNat = data.numWords - data.rdOffset.toNat :=
      sub32_of_le (by omega) (by omega)
    refine part_ends honest safe data.rdOffset.toNat (readToEnd data num)
      (fun offset => if offset = data.numWords then 0 else offset) (fun cleanup next => ?_) ?_
      (Nat.min_le_left num (data.numWords - data.rdOffset.toNat)) few ⟨?_, ?_, ?_⟩
    · simp only [readToEnd, if_pos wraps, toEnd, clamp_eq]
      rfl
    · change data.rdOffset.toNat + _ ≤ data.numWords
      omega
    · split_ifs <;> omega
    · unfold distance
      split_ifs <;> omega
    · split_ifs <;> omega
  · refine ⟨Sum.inr (0, [], data.rdOffset.toNat), run, fun exit => ?_, rfl, Or.inr ⟨0, [], _, rfl,
      Nat.zero_le num, moves_same, read, rfl, Or.inr (Nat.le_of_not_lt wraps)⟩⟩
    simp only [readToEnd, if_neg wraps]

theorem readBelow_ends (honest : Honest link rxSize txSize slave) {run : QueueRun}
    (safe : Safe link rxSize txSize run.host) {readOffset num : Nat} (few : num ≤ limit)
    (inside : readOffset < (run.host.queues link.rx).numWords)
    (order : num = 0 ∨ readOffset ≤ (run.host.queues link.rx).wrOffset.toNat) :
    let data := run.host.queues link.rx
    Ends slave (fun exit => readBelow data readOffset num (fun ret words => exit (Sum.inl (ret, words)))
        fun rdNum words offset => exit (Sum.inr (rdNum, words, offset))) run
      (Part link rxSize limit num run fun rdNum offset => offset < data.numWords ∧
        distance data.numWords offset data.wrOffset.toNat + rdNum =
          distance data.numWords readOffset data.wrOffset.toNat) := by
  intro data
  have small := numWords_lt data
  have write : data.wrOffset.toNat < data.numWords := safe.rx.write
  by_cases any : 0 < num
  · have behind : readOffset ≤ data.wrOffset.toNat := order.resolve_left (Nat.ne_of_gt any)
    have avail : sub32 data.wrOffset.toNat readOffset = data.wrOffset.toNat - readOffset :=
      sub32_of_le behind (by omega)
    refine part_ends honest safe readOffset (readBelow data readOffset num) id (fun cleanup next => ?_) ?_
      (Nat.min_le_left num (data.wrOffset.toNat - readOffset)) few ⟨?_, ?_⟩
    · simp only [readBelow, if_pos any, avail, clamp_eq]
      rfl
    · change readOffset + _ ≤ data.numWords
      omega
    · simp only [id]
      omega
    · unfold distance
      simp only [id]
      split_ifs <;> omega
  · refine ⟨Sum.inr (0, [], readOffset), run, fun exit => ?_, rfl, Or.inr ⟨0, [], _, rfl,
      Nat.zero_le num, moves_same, inside, rfl⟩⟩
    simp only [readBelow, if_neg any]

/-- A read leaves the offset, or moves it over the words that it counts. -/
theorem mt7697qRead_ends (honest : Honest link rxSize txSize slave) {run : QueueRun}
    (safe : Safe link rxSize txSize run.host) {num : Nat} (few : num ≤ limit) :
    let data := run.host.queues link.rx
    Ends slave (fun next => mt7697qRead link.rx num fun ret words => next (ret, words)) run
      fun value after => Passes link rxSize limit num run after ∧
        (value.1 < 0 ∧ after.host = run.host ∨ ∃ count offset : Nat, value.1 = count ∧
          count ≤ num ∧ offset < data.numWords ∧
          distance data.numWords offset data.wrOffset.toNat + count =
            distance data.numWords data.rdOffset.toNat data.wrOffset.toNat ∧
          after.host = setRdOffset link.rx (BitVec.ofNat 16 offset) run.host) := by
  intro data
  obtain ⟨value, middle, first, host, outcome⟩ := readToEnd_ends honest safe few
  have start := fun next : Int × List Word → QueueTask => first (Sum.elim (fun failed => .unlock (next failed))
    fun got => readBelow data got.2.2 (num - got.1)
      (fun ret words => .unlock (next (ret, got.2.1 ++ words))) fun rdMore second offset =>
        if data.numWords ≤ offset then .unlock (next (-einval, got.2.1 ++ second))
        else .host (setRdOffset link.rx (BitVec.ofNat 16 offset)) fun _ =>
          .unlock (next ((got.1 + rdMore : Nat), got.2.1 ++ second)))
  rcases outcome with ⟨ret, words, rfl, error, moves⟩ | ⟨rdNum, words, offset, rfl, fits, moves, inside, used, order⟩
  · exact ⟨(ret, words), middle, start, moves, Or.inl ⟨error, host⟩⟩
  · have safe' : Safe link rxSize txSize middle.host := by rwa [host]
    have same : middle.host.queues link.rx = data := by rw [host]
    change rdNum = num ∨ offset ≤ data.wrOffset.toNat at order
    change distance data.numWords offset data.wrOffset.toNat + rdNum =
      distance data.numWords data.rdOffset.toNat data.wrOffset.toNat at used
    obtain ⟨value, after, second, host', outcome⟩ := @readBelow_ends _ _ _ _ limit honest middle safe' offset
      (num - rdNum) (by omega) (by rwa [same]) (by rw [same]; omega)
    rw [same] at second outcome
    have all := fun next : Int × List Word → QueueTask => (start next).trans (second (Sum.elim
      (fun failed => .unlock (next (failed.1, words ++ failed.2))) fun got =>
        if data.numWords ≤ got.2.2 then .unlock (next (-einval, words ++ got.2.1))
        else .host (setRdOffset link.rx (BitVec.ofNat 16 got.2.2)) fun _ =>
          .unlock (next ((rdNum + got.1 : Nat), words ++ got.2.1))))
    rcases outcome with ⟨ret, more, rfl, error, moves'⟩ | ⟨rdMore, more, place, rfl, fits', moves', inside', used'⟩
    · refine ⟨(ret, words ++ more), after, all, ?_, Or.inl ⟨error, host'.trans host⟩⟩
      exact (moves.trans moves').imp (fun _ holds => holds) (by omega)
    · refine ⟨((rdNum + rdMore : Nat), words ++ more),
        { after with host := setRdOffset link.rx (BitVec.ofNat 16 place) after.host }, fun next => ?_, ?_,
        Or.inr ⟨rdNum + rdMore, place, rfl, by omega, inside', by omega, ?_⟩⟩
      · refine (all next).trans ?_
        simp only [Sum.elim_inr, if_neg (Nat.not_le.mpr inside'), alone]
      · exact ((moves.trans moves').trans moves_same).imp (fun _ holds => holds) (by omega)
      · rw [host', host]

/-! Writes. -/

/-- Sound calls none of which reads. -/
abbrev Stores (link : Link) (rxSize limit : Nat) :=
  Moves (fun entry => Sound link rxSize limit entry ∧ ∀ addr num, entry.call ≠ .rd addr num)
    (ringWords link)

theorem stores_made (honest : Honest link rxSize txSize slave) {run : QueueRun}
    (safe : Safe link rxSize txSize run.host) {call : Call} {words : Nat}
    (inside : Inside link run.host call) (size : ringWords link call ≤ words) (few : words ≤ limit)
    (noRead : ∀ addr num, call ≠ .rd addr num) :
    Stores link rxSize limit words run (run.made call (slave run.log call)) := by
  obtain ⟨calls, log, sound, sum⟩ := passes_made honest safe inside size few
  refine ⟨calls, log, fun entry member => ⟨sound entry member, ?_⟩, sum⟩
  have only : calls = [⟨run.host, call, slave run.log call⟩] := (List.append_cancel_left log).symm
  rw [only, List.mem_singleton] at member
  subst member
  exact noRead

/-- What a part of a write comes to: an error, or an offset in the ring and what is left. -/
def Stored (link : Link) (rxSize limit size : Nat) (buff : List Word) (run : QueueRun)
    (value : Sum Int (Nat × List Word)) (after : QueueRun) : Prop :=
  after.host = run.host ∧
    ((∃ ret, value = Sum.inl ret ∧ ret < 0 ∧ Stores link rxSize limit buff.length run after) ∨
      ∃ offset rest words, value = Sum.inr (offset, rest) ∧ words + rest.length = buff.length ∧
        Stores link rxSize limit words run after ∧ offset < size)

theorem writeChunk_ends (honest : Honest link rxSize txSize slave) {run : QueueRun}
    (safe : Safe link rxSize txSize run.host) {buff : List Word}
    (writeOffset words : Nat) (part : (Int → QueueTask) → (Nat → List Word → QueueTask) → QueueTask)
    (turn : Nat → Nat)
    (shape : ∀ cleanup next, part cleanup next = writeChunk (run.host.queues link.tx) writeOffset words buff
      cleanup fun offset rest => next (turn offset) rest)
    (linear : writeOffset + min buff.length words ≤ (run.host.queues link.tx).numWords)
    (few : buff.length ≤ limit)
    (inside : turn (writeOffset + min buff.length words) < (run.host.queues link.tx).numWords) :
    Ends slave (fun exit => part (fun ret => exit (Sum.inl ret)) fun offset rest => exit (Sum.inr (offset, rest)))
      run (Stored link rxSize limit (run.host.queues link.tx).numWords buff run) := by
  have small := numWords_lt (run.host.queues link.tx)
  let count := min buff.length words
  have le : count ≤ buff.length := Nat.min_le_left _ _
  have taken : (buff.take count).length = count := by
    rw [List.length_take, Nat.min_eq_left le]
  have offset : u16 (writeOffset + count) = writeOffset + count := Nat.mod_eq_of_lt (by omega)
  have moves := stores_made honest safe (show Inside link run.host (.wr _ (buff.take count)) from
    Or.inr (by rw [taken]; exact inRing_linear linear)) ((ringWords_wr_le _ _).trans_eq taken)
    (Nat.le_trans le few) (fun _ _ same => by cases same)
  simp only [shape, writeChunk, clamp_eq]
  apply ends_call
  generalize slave run.log _ = answer at moves ⊢
  obtain ⟨ret, got⟩ := answer
  by_cases error : ret < 0
  · simp only [if_pos error]
    exact ends_value ⟨rfl, Or.inl ⟨ret, rfl, error, moves.imp (fun _ holds => holds) le⟩⟩
  · simp only [if_neg error]
    have rest : count + (buff.drop count).length = buff.length := by
      rw [List.length_drop]; omega
    refine ends_value ⟨rfl, Or.inr ⟨_, _, count, rfl, rest, moves, ?_⟩⟩
    change turn (u16 (writeOffset + count)) < _
    rw [offset]
    exact inside

theorem writeToEnd_ends (honest : Honest link rxSize txSize slave) {run : QueueRun}
    (safe : Safe link rxSize txSize run.host) {buff : List Word} (few : buff.length ≤ limit) :
    let data := run.host.queues link.tx
    Ends slave (fun exit => writeToEnd data buff (fun ret => exit (Sum.inl ret))
      fun offset rest => exit (Sum.inr (offset, rest))) run
      (Stored link rxSize limit data.numWords buff run) := by
  intro data
  have small := numWords_lt data
  have write : data.wrOffset.toNat < data.numWords := safe.tx.write
  by_cases ahead : data.rdOffset.toNat ≤ data.wrOffset.toNat
  · have toEnd : sub32 data.numWords data.wrOffset.toNat = data.numWords - data.wrOffset.toNat :=
      sub32_of_le (by omega) (by omega)
    have last : sub32 (data.numWords - data.wrOffset.toNat) 1 = data.numWords - data.wrOffset.toNat - 1 :=
      sub32_of_le (by omega) (by omega)
    refine writeChunk_ends honest safe data.wrOffset.toNat
      (if data.rdOffset.toNat = 0 then data.numWords - data.wrOffset.toNat - 1
        else data.numWords - data.wrOffset.toNat) (writeToEnd data buff)
      (fun offset => if offset = data.numWords then 0 else offset) (fun cleanup next => ?_) ?_ few ?_
    · simp only [writeToEnd, if_pos ahead, toEnd, last]
      rfl
    · change data.wrOffset.toNat + _ ≤ data.numWords
      split_ifs <;> omega
    · change (if data.wrOffset.toNat + _ = data.numWords then 0 else data.wrOffset.toNat + _) < data.numWords
      split_ifs <;> omega
  · refine ⟨Sum.inr (data.wrOffset.toNat, buff), run, fun exit => ?_, rfl, Or.inr ⟨_, buff, 0, rfl,
      Nat.zero_add _, moves_same, write⟩⟩
    simp only [writeToEnd, if_neg ahead]

theorem writeBelow_ends (honest : Honest link rxSize txSize slave) {run : QueueRun}
    (safe : Safe link rxSize txSize run.host) {buff : List Word} (few : buff.length ≤ limit)
    {writeOffset : Nat} (inside : writeOffset < (run.host.queues link.tx).numWords) :
    let data := run.host.queues link.tx
    Ends slave (fun exit => writeBelow data writeOffset buff (fun ret => exit (Sum.inl ret))
      fun offset rest => exit (Sum.inr (offset, rest))) run
      (Stored link rxSize limit data.numWords buff run) := by
  intro data
  have small := numWords_lt data
  have read : data.rdOffset.toNat < data.numWords := safe.tx.read
  by_cases below : writeOffset < data.rdOffset.toNat ∧ 0 < buff.length
  · have room : sub32 (sub32 data.rdOffset.toNat writeOffset) 1 = data.rdOffset.toNat - writeOffset - 1 := by
      rw [@sub32_of_le data.rdOffset.toNat writeOffset (by omega) (by omega)]
      exact sub32_of_le (by omega) (by omega)
    refine writeChunk_ends honest safe writeOffset (data.rdOffset.toNat - writeOffset - 1)
      (writeBelow data writeOffset buff) id (fun cleanup next => ?_) ?_ few ?_
    · simp only [writeBelow, if_pos below, room]
      rfl
    · change writeOffset + _ ≤ data.numWords
      omega
    · change writeOffset + _ < data.numWords
      omega
  · refine ⟨Sum.inr (writeOffset, buff), run, fun exit => ?_, rfl, Or.inr ⟨_, buff, 0, rfl,
      Nat.zero_add _, moves_same, inside⟩⟩
    simp only [writeBelow, if_neg below]

theorem announce_ends (honest : Honest link rxSize txSize slave) (run : QueueRun)
    (safe : Safe link rxSize txSize run.host) (bits : Word) :
    Ends slave (fun next => .call (.wrM2sMbx bits) fun (ret, _) =>
        if ret < 0 then next ret else .call .triggerIntr fun (ret, _) => next ret) run
      fun (_ : Int) after => Stores link rxSize limit 0 run after ∧ after.host = run.host := by
  have mailbox := @stores_made _ _ _ _ limit honest run safe (.wrM2sMbx bits) 0 trivial (Nat.le_refl 0)
    (Nat.zero_le _) (fun _ _ same => by cases same)
  apply ends_call
  generalize slave run.log _ = answer at mailbox ⊢
  obtain ⟨ret, words⟩ := answer
  by_cases error : ret < 0
  · simp only [if_pos error]
    exact ends_value ⟨mailbox, rfl⟩
  · simp only [if_neg error]
    apply ends_call
    have trigger := @stores_made _ _ _ _ limit honest (run.made (.wrM2sMbx bits) (ret, words)) safe
      .triggerIntr 0 trivial (Nat.le_refl 0) (Nat.zero_le _) (fun _ _ same => by cases same)
    exact ends_value ⟨mailbox.trans trigger, rfl⟩

/-- Publishing an offset moves none of the caller's words. -/
theorem pushPtr_ends (honest : Honest link rxSize txSize slave) (run : QueueRun)
    (safe : Safe link rxSize txSize run.host) (ch : Nat) {addr : Word} (offset : BitVec 16)
    (isOffset : IsOffset link addr 1) :
    Ends slave (fun next => pushPtr ch addr offset next) run fun _ after =>
      Stores link rxSize limit 0 run after ∧ after.host = run.host ∧ run.log.length < after.log.length := by
  have none : ringWords link (.wr addr [offset.setWidth 32]) = 0 := if_pos isOffset
  have stored := @stores_made _ _ _ _ limit honest run safe (.wr addr [offset.setWidth 32]) 0
    (Or.inl isOffset) (Nat.le_of_eq none) (Nat.zero_le _) (fun _ _ same => by cases same)
  unfold pushPtr
  apply ends_call
  generalize slave run.log _ = answer at stored ⊢
  obtain ⟨ret, words⟩ := answer
  have grown : run.log.length < (run.made (.wr addr [offset.setWidth 32]) (ret, words)).log.length := by
    simp [Run.made]
  by_cases error : ret < 0
  · simp only [if_pos error]
    exact ends_value ⟨stored, rfl, grown⟩
  · simp only [if_neg error]
    refine (@announce_ends _ _ _ _ limit honest (run.made _ (ret, words)) safe _).imp fun ret after announced => ?_
    exact ⟨stored.trans announced.1, announced.2, Nat.lt_of_lt_of_le grown announced.1.length⟩

/-! What a write leaves of the host. -/

structure Wrote (link : Link) (rxSize txSize : Nat) (before after : Host) : Prop where
  safe : Safe link rxSize txSize after
  rx : after.queues link.rx = before.queues link.rx
  rsp : after.rsp = before.rsp

section
variable {ch other : Nat} (host : Host)

theorem setRdOffset_self (offset : BitVec 16) : (setRdOffset ch offset host).queues ch =
    { host.queues ch with rdOffset := offset } := Function.update_self ..

theorem setWrOffset_self (offset : BitVec 16) : (setWrOffset ch offset host).queues ch =
    { host.queues ch with wrOffset := offset } := Function.update_self ..

theorem setRdOffset_other (apart : other ≠ ch) (offset : BitVec 16) :
    (setRdOffset ch offset host).queues other = host.queues other := Function.update_of_ne apart ..

theorem setWrOffset_other (apart : other ≠ ch) (offset : BitVec 16) :
    (setWrOffset ch offset host).queues other = host.queues other := Function.update_of_ne apart ..

end

theorem setWrOffset_wrote {host : Host} (safe : Safe link rxSize txSize host) {offset : Nat}
    (inside : offset < (host.queues link.tx).numWords) :
    Wrote link rxSize txSize host (setWrOffset link.tx (BitVec.ofNat 16 offset) host) := by
  have small := numWords_lt (host.queues link.tx)
  have rx := setWrOffset_other host link.apart (BitVec.ofNat 16 offset)
  have tx := @setWrOffset_self link.tx host (BitVec.ofNat 16 offset)
  refine ⟨⟨?_, ?_, ?_, ?_⟩, rx, rfl⟩
  · rw [rx]; exact safe.rx
  · rw [tx]
    refine ⟨safe.tx.read, ?_⟩
    change (BitVec.ofNat 16 offset).toNat < (host.queues link.tx).numWords
    rw [BitVec.toNat_ofNat]
    omega
  · rw [rx]; exact safe.rxSize
  · rw [tx]; exact safe.txSize

theorem setRdOffset_wrote {host : Host} (safe : Safe link rxSize txSize host) {offset : BitVec 16}
    (inside : offset.toNat < (host.queues link.tx).numWords) :
    Wrote link rxSize txSize host (setRdOffset link.tx offset host) := by
  have rx := setRdOffset_other host link.apart offset
  have tx := @setRdOffset_self link.tx host offset
  refine ⟨⟨?_, ?_, ?_, ?_⟩, rx, rfl⟩
  · rw [rx]; exact safe.rx
  · rw [tx]; exact ⟨inside, safe.tx.write⟩
  · rw [rx]; exact safe.rxSize
  · rw [tx]; exact safe.txSize

theorem writeWords_ends (honest : Honest link rxSize txSize slave) {run : QueueRun}
    (safe : Safe link rxSize txSize run.host) {buff : List Word} (few : buff.length ≤ limit) :
    Ends slave (fun next => writeWords link.tx buff next) run fun _ after =>
      Stores link rxSize limit buff.length run after ∧ Wrote link rxSize txSize run.host after.host := by
  let data := run.host.queues link.tx
  have unchanged : Wrote link rxSize txSize run.host run.host := ⟨safe, rfl, rfl⟩
  obtain ⟨value, middle, first, host, outcome⟩ := writeToEnd_ends honest safe few
  have start := fun next : Int → QueueTask => first (Sum.elim next fun got =>
    writeBelow data got.1 got.2 next fun writeOffset rest =>
      if data.numWords ≤ writeOffset then next (-einval)
      else .host (setWrOffset link.tx (BitVec.ofNat 16 writeOffset)) fun _ =>
        mt7697qPushWrPtr link.tx fun ret =>
          if ret < 0 then next ret else next (buff.length - rest.length : Nat))
  rcases outcome with ⟨ret, rfl, error, moves⟩ | ⟨offset, rest, words, rfl, total, moves, inside⟩
  · exact ⟨ret, middle, start, moves, by rwa [host]⟩
  · have safe' : Safe link rxSize txSize middle.host := by rwa [host]
    have same : middle.host.queues link.tx = data := by rw [host]
    obtain ⟨value, after, second, host', outcome⟩ := @writeBelow_ends _ _ _ _ limit honest middle safe' rest
      (by omega) offset (by rwa [same])
    rw [same] at second outcome
    have all := fun next : Int → QueueTask => (start next).trans (second (Sum.elim next fun got =>
      if data.numWords ≤ got.1 then next (-einval)
      else .host (setWrOffset link.tx (BitVec.ofNat 16 got.1)) fun _ =>
        mt7697qPushWrPtr link.tx fun ret =>
          if ret < 0 then next ret else next (buff.length - got.2.length : Nat)))
    have kept : after.host = run.host := host'.trans host
    rcases outcome with ⟨ret, rfl, error, moves'⟩ | ⟨place, left, more, rfl, total', moves', inside'⟩
    · refine ⟨ret, after, all, (moves.trans moves').imp (fun _ holds => holds) (by omega), by rwa [kept]⟩
    · have wrote := setWrOffset_wrote safe inside'
      obtain ⟨ret, pushed, third, pushes, host'', _⟩ := @pushPtr_ends _ _ _ _ limit honest
        { after with host := setWrOffset link.tx (BitVec.ofNat 16 place) after.host }
        (by rw [kept]; exact wrote.safe) link.tx (wrOffsetAddr link.tx)
        ((setWrOffset link.tx (BitVec.ofNat 16 place) after.host).queues link.tx).wrOffset
        ⟨rfl, Or.inr (Or.inr (Or.inr rfl))⟩
      refine ⟨if ret < 0 then ret else (buff.length - left.length : Nat), pushed, fun next => ?_, ?_, ?_⟩
      · refine (all next).trans ?_
        simp only [Sum.elim_inr, if_neg (Nat.not_le.mpr inside'), alone, mt7697qPushWrPtr, id]
        refine (third _).trans ?_
        by_cases error : ret < 0
        · simp only [if_pos error]
        · simp only [if_neg error]
      · exact (((moves.trans moves').trans moves_same).trans pushes).imp (fun _ holds => holds) (by omega)
      · rw [host'', kept]
        exact wrote

theorem Wrote.refl {host : Host} (safe : Safe link rxSize txSize host) :
    Wrote link rxSize txSize host host := ⟨safe, rfl, rfl⟩

/-- A write that pulls the offset is turned away with its own offset as it was. -/
theorem mt7697qWrite_ends (honest : Honest link rxSize txSize slave) {run : QueueRun}
    (safe : Safe link rxSize txSize run.host) {buff : List Word} (few : buff.length ≤ limit) :
    Ends slave (fun next => mt7697qWrite link.tx buff next) run fun ret after =>
      Wrote link rxSize txSize run.host after.host ∧
        (ret < 0 ∧ (after.host.queues link.tx).wrOffset = (run.host.queues link.tx).wrOffset ∧
            Passes link rxSize limit 0 run after ∨
          Stores link rxSize limit buff.length run after) := by
  by_cases short : mt7697qGetFreeWords (run.host.queues link.tx) < buff.length
  · have isOffset : IsOffset link (rdOffsetAddr link.tx) 1 := ⟨rfl, Or.inr (Or.inr (Or.inl rfl))⟩
    have pulls := @passes_made _ _ _ _ limit honest run safe (.rd (rdOffsetAddr link.tx) 1) 0
      (Or.inl isOffset) (Nat.le_of_eq (if_pos isOffset)) (Nat.zero_le _)
    have published := honest.rdOffset run.log
    simp only [mt7697qWrite, mt7697qPullRdPtr]
    apply ends_lock
    apply ends_host
    simp only [id, if_pos short]
    apply ends_call
    generalize slave run.log _ = answer at pulls published ⊢
    obtain ⟨ret, words⟩ := answer
    by_cases error : ret < 0
    · simp only [if_pos error]
      exact ends_value ⟨Wrote.refl safe, Or.inl ⟨error, rfl, pulls⟩⟩
    · simp only [if_neg error]
      apply ends_host
      apply ends_host
      have moved := setRdOffset_wrote safe
        (Nat.lt_of_lt_of_eq (published (Int.not_lt.mp error)) safe.txSize.symm)
      have kept : ((setRdOffset link.tx ((words.headD 0).setWidth 16) run.host).queues link.tx).wrOffset =
          (run.host.queues link.tx).wrOffset := by
        rw [setRdOffset_self]
      exact ends_value ⟨⟨⟨moved.safe.rx, moved.safe.tx, moved.safe.rxSize, moved.safe.txSize⟩, moved.rx, moved.rsp⟩,
        Or.inl ⟨by decide, kept, pulls.trans moves_same⟩⟩
  · simp only [mt7697qWrite]
    apply ends_lock
    apply ends_host
    simp only [id, if_neg short]
    obtain ⟨ret, after, returns, stores, wrote⟩ := writeWords_ends honest safe few
    exact ⟨ret, after, fun next => returns fun ret => .unlock (next ret), wrote, Or.inr stores⟩

/-! The loop of `mt7697q_proc_data`. -/

/-- The offset that the slave's word settles on, once so many calls are made. -/
def SettledFrom (slave : Slave) (addr : Word) (count : Nat) (offset : Word) : Prop :=
  ∀ log, count ≤ log.length → 0 ≤ (slave log (.rd addr 1)).1 →
    (slave log (.rd addr 1)).2.headD 0 = offset

/-- How far a queue is from having nothing to read, where its word stays at this offset. -/
def gap (offset : Word) (data : QueueData) : Nat :=
  distance data.numWords data.rdOffset.toNat data.wrOffset.toNat +
    if data.wrOffset = offset.setWidth 16 then 0 else data.numWords

/-- What a part of the loop does to the run. -/
structure Goes (link : Link) (slave : Slave) (rxSize txSize limit : Nat) (before after : QueueRun) :
    Prop where
  moves : ∃ words, Passes link rxSize limit words before after
  safe : Safe link rxSize txSize after.host
  nearer : ∀ offset, SettledFrom slave (wrOffsetAddr link.rx) before.log.length offset →
    gap offset (after.host.queues link.rx) ≤ gap offset (before.host.queues link.rx)

theorem Goes.refl {run : QueueRun} (safe : Safe link rxSize txSize run.host) :
    Goes link slave rxSize txSize limit run run :=
  ⟨⟨0, moves_same⟩, safe, fun _ _ => Nat.le_refl _⟩

theorem Goes.length {before after : QueueRun} (goes : Goes link slave rxSize txSize limit before after) :
    before.log.length ≤ after.log.length := goes.moves.elim fun _ moves => moves.length

theorem Goes.trans {before middle after : QueueRun}
    (one : Goes link slave rxSize txSize limit before middle)
    (two : Goes link slave rxSize txSize limit middle after) :
    Goes link slave rxSize txSize limit before after := by
  obtain ⟨words, moves⟩ := one.moves
  obtain ⟨more, moves'⟩ := two.moves
  refine ⟨⟨words + more, moves.trans moves'⟩, two.safe, fun offset settled => ?_⟩
  exact Nat.le_trans (two.nearer offset fun log long => settled log (Nat.le_trans one.length long))
    (one.nearer offset settled)

theorem gap_bound {data : QueueData} (ranged : Ranged data) (offset : Word) :
    gap offset data < 2 * data.numWords := by
  have far := distance_lt ranged.read ranged.write
  unfold gap
  split_ifs <;> omega

theorem setRdOffset_gap {data : QueueData} {offset count : Nat} (inside : offset < data.numWords)
    (used : distance data.numWords offset data.wrOffset.toNat + count =
      distance data.numWords data.rdOffset.toNat data.wrOffset.toNat) (other : Word) :
    gap other { data with rdOffset := BitVec.ofNat 16 offset } + count = gap other data := by
  have small := numWords_lt data
  have place : (BitVec.ofNat 16 offset).toNat = offset := by
    rw [BitVec.toNat_ofNat]; omega
  unfold gap
  change distance data.numWords (BitVec.ofNat 16 offset).toNat data.wrOffset.toNat +
    (if data.wrOffset = other.setWidth 16 then 0 else data.numWords) + count = _
  rw [place]
  omega

/-- A read, with what the loop needs to know of it. -/
theorem mt7697qRead_goes (honest : Honest link rxSize txSize slave) {run : QueueRun}
    (safe : Safe link rxSize txSize run.host) {num : Nat} (few : num ≤ limit) :
    ∃ ret words after,
      (∀ next, alone slave (mt7697qRead link.rx num next) run = alone slave (next ret words) after) ∧
      Passes link rxSize limit num run after ∧ Goes link slave rxSize txSize limit run after ∧
      after.host.rsp = run.host.rsp ∧
      (ret < 0 ∨ ∀ offset, gap offset (after.host.queues link.rx) + ret.toNat ≤
        gap offset (run.host.queues link.rx)) := by
  obtain ⟨value, after, returns, moves, outcome⟩ := mt7697qRead_ends honest safe few
  refine ⟨value.1, value.2, after, fun next => returns fun value => next value.1 value.2, moves, ?_⟩
  rcases outcome with ⟨error, host⟩ | ⟨count, offset, ret, _, inside, used, host⟩
  · rw [host]
    refine ⟨⟨⟨num, moves⟩, by rwa [host], fun _ _ => by rw [host]⟩, rfl, Or.inl error⟩
  · have small := numWords_lt (run.host.queues link.rx)
    have place : (BitVec.ofNat 16 offset).toNat = offset := by
      rw [BitVec.toNat_ofNat]; omega
    have rx : after.host.queues link.rx =
        { run.host.queues link.rx with rdOffset := BitVec.ofNat 16 offset } := by
      rw [host, setRdOffset_self]
    have tx : after.host.queues link.tx = run.host.queues link.tx := by
      rw [host, setRdOffset_other _ link.apart.symm]
    have closer : ∀ other, gap other (after.host.queues link.rx) + count =
        gap other (run.host.queues link.rx) := by
      rw [rx]
      exact setRdOffset_gap inside used
    have safe' : Safe link rxSize txSize after.host := by
      refine ⟨?_, ?_, ?_, ?_⟩
      · rw [rx]
        refine ⟨?_, safe.rx.write⟩
        change (BitVec.ofNat 16 offset).toNat < (run.host.queues link.rx).numWords
        rwa [place]
      · rw [tx]; exact safe.tx
      · rw [rx]; exact safe.rxSize
      · rw [tx]; exact safe.txSize
    refine ⟨⟨⟨num, moves⟩, safe', fun other _ => ?_⟩, by rw [host]; rfl, Or.inr fun other => ?_⟩
    · rw [← closer other]
      exact Nat.le_add_right _ _
    · rw [ret, Int.toNat_natCast]
      exact Nat.le_of_eq (closer other)

theorem Wrote.goes {run after : QueueRun} (wrote : Wrote link rxSize txSize run.host after.host) {words : Nat}
    (moves : Passes link rxSize limit words run after) : Goes link slave rxSize txSize limit run after :=
  ⟨⟨words, moves⟩, wrote.safe, fun _ _ => by rw [wrote.rx]⟩

theorem mt7697qWrite_goes (honest : Honest link rxSize txSize slave) {run : QueueRun}
    (safe : Safe link rxSize txSize run.host) {buff : List Word} (few : buff.length ≤ limit) :
    ∃ ret after,
      (∀ next, alone slave (mt7697qWrite link.tx buff next) run = alone slave (next ret) after) ∧
      Goes link slave rxSize txSize limit run after ∧ after.host.rsp = run.host.rsp := by
  obtain ⟨ret, after, returns, wrote, outcome⟩ := mt7697qWrite_ends honest safe few
  refine ⟨ret, after, returns, ?_, wrote.rsp⟩
  rcases outcome with ⟨_, _, moves⟩ | moves
  · exact wrote.goes moves
  · exact wrote.goes (moves.imp (fun _ holds => holds.1) (Nat.le_refl _))

/-- `rx_fcn` may read and write; the header is not its own. -/
theorem handler_goes (honest : Honest link rxSize txSize slave) (handler : Handler) :
    Fits link limit handler → ∀ {run : QueueRun}, Safe link rxSize txSize run.host →
      ∃ ret after, (∀ next, alone slave (handler.task next) run = alone slave (next ret) after) ∧
        Goes link slave rxSize txSize limit run after ∧ after.host.rsp = run.host.rsp := by
  induction handler with
  | done ret => exact fun _ run safe => ⟨ret, run, fun _ => rfl, Goes.refl safe, rfl⟩
  | read ch num more ih =>
      rintro ⟨rfl, few, rest⟩ run safe
      obtain ⟨ret, words, middle, first, _, goes, rsp, _⟩ := mt7697qRead_goes honest safe few
      obtain ⟨result, after, second, goes', rsp'⟩ := ih ret words (rest ret words) goes.safe
      exact ⟨result, after, fun next => (first _).trans (second next), goes.trans goes', rsp'.trans rsp⟩
  | write ch buff more ih =>
      rintro ⟨rfl, few, rest⟩ run safe
      obtain ⟨ret, middle, first, goes, rsp⟩ := mt7697qWrite_goes honest safe few
      obtain ⟨result, after, second, goes', rsp'⟩ := ih ret (rest ret) goes.safe
      exact ⟨result, after, fun next => (first _).trans (second next), goes.trans goes', rsp'.trans rsp⟩

theorem setWrOffset_gap {data : QueueData} (ranged : Ranged data) {offset : Word}
    (inside : (offset.setWidth 16 : BitVec 16).toNat < data.numWords) :
    gap offset { data with wrOffset := offset.setWidth 16 } ≤ gap offset data := by
  have far := distance_lt ranged.read inside
  unfold gap
  change distance data.numWords data.rdOffset.toNat (offset.setWidth 16 : BitVec 16).toNat +
    (if offset.setWidth 16 = offset.setWidth 16 then 0 else _) ≤ _
  rw [if_pos rfl]
  by_cases same : data.wrOffset = offset.setWidth 16
  · rw [if_pos same, ← same]
  · rw [if_neg same]
    omega

theorem mt7697qPullWrPtr_goes (honest : Honest link rxSize txSize slave) {run : QueueRun}
    (safe : Safe link rxSize txSize run.host) :
    ∃ ret after, (∀ next, alone slave (mt7697qPullWrPtr link.rx next) run = alone slave (next ret) after) ∧
      Goes link slave rxSize txSize limit run after ∧ after.host.rsp = run.host.rsp := by
  have isOffset : IsOffset link (wrOffsetAddr link.rx) 1 := ⟨rfl, Or.inr (Or.inl rfl)⟩
  have pulls := @passes_made _ _ _ _ limit honest run safe (.rd (wrOffsetAddr link.rx) 1) 0
    (Or.inl isOffset) (Nat.le_of_eq (if_pos isOffset)) (Nat.zero_le _)
  have published := honest.wrOffset run.log
  have settles : ∀ offset, SettledFrom slave (wrOffsetAddr link.rx) run.log.length offset →
      0 ≤ (slave run.log (.rd (wrOffsetAddr link.rx) 1)).1 →
      (slave run.log (.rd (wrOffsetAddr link.rx) 1)).2.headD 0 = offset :=
    fun offset settled => settled run.log (Nat.le_refl _)
  simp only [mt7697qPullWrPtr, alone]
  generalize slave run.log _ = answer at pulls published settles ⊢
  obtain ⟨ret, words⟩ := answer
  by_cases error : ret < 0
  · refine ⟨ret, run.made (.rd (wrOffsetAddr link.rx) 1) (ret, words), fun next => ?_,
      ⟨⟨0, pulls⟩, safe, fun _ _ => Nat.le_refl _⟩, rfl⟩
    simp only [if_pos error, alone]
  · have success := Int.not_lt.mp error
    have small := numWords_lt (run.host.queues link.rx)
    have cut : ((words.headD 0).setWidth 16 : BitVec 16).toNat < (run.host.queues link.rx).numWords := by
      have whole : (words.headD 0).toNat < rxSize := published success
      rw [BitVec.toNat_setWidth, safe.rxSize]
      omega
    refine ⟨ret, { run.made (.rd (wrOffsetAddr link.rx) 1) (ret, words) with
        host := setWrOffset link.rx ((words.headD 0).setWidth 16) run.host }, fun next => ?_,
      ⟨⟨0, pulls.trans moves_same⟩, ⟨?_, ?_, ?_, ?_⟩, fun offset settled => ?_⟩, rfl⟩
    · simp only [if_neg error, alone]
      rfl
    · rw [setWrOffset_self]
      exact ⟨safe.rx.read, cut⟩
    · rw [setWrOffset_other _ link.apart.symm]
      exact safe.tx
    · rw [setWrOffset_self]
      exact safe.rxSize
    · rw [setWrOffset_other _ link.apart.symm]
      exact safe.txSize
    · have same := settles offset settled success
      simp only at same
      rw [setWrOffset_self]
      rw [same] at cut ⊢
      exact setWrOffset_gap safe.rx cut

theorem mt7697qPushRdPtr_goes (honest : Honest link rxSize txSize slave) {run : QueueRun}
    (safe : Safe link rxSize txSize run.host) :
    ∃ ret after, (∀ next, alone slave (mt7697qPushRdPtr link.rx next) run = alone slave (next ret) after) ∧
      Goes link slave rxSize txSize limit run after ∧ after.host.rsp = run.host.rsp ∧
      run.log.length < after.log.length := by
  obtain ⟨ret, after, returns, stores, host, longer⟩ := @pushPtr_ends _ _ _ _ limit honest run safe link.rx
    (rdOffsetAddr link.rx) (run.host.queues link.rx).rdOffset ⟨rfl, Or.inl rfl⟩
  refine ⟨ret, after, fun next => returns fun ret => .unlock (next ret),
    ⟨⟨0, stores.imp (fun _ holds => holds.1) (Nat.le_refl 0)⟩, by rwa [host], fun _ _ => by rw [host]⟩,
    by rw [host], longer⟩

theorem readHeader_goes (honest : Honest link rxSize txSize slave) {run : QueueRun}
    (safe : Safe link rxSize txSize run.host) (header : headerWords ≤ limit) (avail : Nat) {req : Nat}
    (ret : Int) (asked : run.host.rsp.len = 0 → req = headerWords) :
    ∃ after, Goes link slave rxSize txSize limit run after ∧
      ((∃ result, ∀ cleanup next,
          alone slave (readHeader link.rx avail req ret cleanup next) run = alone slave (cleanup result) after) ∨
        ∃ left body result, (∀ cleanup next,
            alone slave (readHeader link.rx avail req ret cleanup next) run =
              alone slave (next left body result) after) ∧
          (run.host.rsp.len = 0 → ∀ offset, gap offset (after.host.queues link.rx) + headerWords ≤
            gap offset (run.host.queues link.rx))) := by
  simp only [readHeader, alone, id]
  by_cases empty : run.host.rsp.len = 0
  · have asks := asked empty
    subst asks
    simp only [if_pos empty]
    obtain ⟨result, words, after, reads, _, goes, _, closer⟩ := mt7697qRead_goes honest safe header
    let stored : QueueRun := { after with host := { after.host with rsp := after.host.rsp.store words } }
    have goes' : Goes link slave rxSize txSize limit run stored :=
      goes.trans ⟨⟨0, moves_same⟩, ⟨goes.safe.rx, goes.safe.tx, goes.safe.rxSize, goes.safe.txSize⟩,
        fun _ _ => Nat.le_refl _⟩
    refine ⟨stored, goes', ?_⟩
    by_cases whole : result = (headerWords : Int)
    · refine Or.inr ⟨sub32 avail headerWords, bodyWords stored.host.rsp.len, result, fun cleanup next => ?_,
        fun _ offset => ?_⟩
      · refine (reads _).trans ?_
        simp only [alone, whole, ne_eq, not_true_eq_false, if_false]
        rfl
      · subst whole
        exact closer.resolve_left (Int.not_lt.mpr (Int.natCast_nonneg _)) offset
    · refine Or.inl ⟨result, fun cleanup next => ?_⟩
      refine (reads _).trans ?_
      simp only [alone, ne_eq, whole, not_false_eq_true, if_true]
      rfl
  · simp only [if_neg empty]
    exact ⟨run, Goes.refl safe, Or.inr ⟨avail, req, ret, fun _ _ => rfl, fun none => absurd none empty⟩⟩

theorem refill_goes (honest : Honest link rxSize txSize slave) {run : QueueRun}
    (safe : Safe link rxSize txSize run.host) (avail req : Nat) (ret : Int) :
    ∃ after, Goes link slave rxSize txSize limit run after ∧ after.host.rsp = run.host.rsp ∧
      ((∃ result, ∀ cleanup next,
          alone slave (refill link.rx avail req ret cleanup next) run = alone slave (cleanup result) after) ∨
        ∃ left result, ∀ cleanup next,
          alone slave (refill link.rx avail req ret cleanup next) run = alone slave (next left result) after) := by
  by_cases short : avail < req
  · obtain ⟨result, after, pulls, goes, rsp⟩ := mt7697qPullWrPtr_goes honest safe
    simp only [refill, if_pos short]
    refine ⟨after, goes, rsp, ?_⟩
    by_cases error : result < 0
    · refine Or.inl ⟨result, fun cleanup next => (pulls _).trans ?_⟩
      simp only [if_pos error]
    · refine Or.inr ⟨mt7697qGetNumWords (after.host.queues link.rx), result, fun cleanup next =>
        (pulls _).trans ?_⟩
      simp only [if_neg error, alone, id]
  · simp only [refill, if_neg short]
    exact ⟨run, Goes.refl safe, rfl, Or.inr ⟨avail, ret, fun _ _ => rfl⟩⟩

theorem dispatch_goes (honest : Honest link rxSize txSize slave) {handler : RspHdr → Handler}
    (fits : ∀ header, Fits link limit (handler header)) {run : QueueRun}
    (safe : Safe link rxSize txSize run.host) :
    ∃ after, Goes link slave rxSize txSize limit run after ∧
      ((∃ result, ∀ cleanup next,
          alone slave (dispatch handler cleanup next) run = alone slave (cleanup result) after) ∨
        ∃ result, ∀ cleanup next,
          alone slave (dispatch handler cleanup next) run = alone slave (next result) after) := by
  simp only [dispatch, alone, id]
  by_cases queue : run.host.rsp.grp = grpQueue
  · simp only [if_pos queue]
    refine ⟨run, Goes.refl safe, ?_⟩
    by_cases error : mt7697qProcQueueRsp run.host.rsp < 0
    · simp only [if_pos error]
      exact Or.inl ⟨_, fun _ _ => rfl⟩
    · simp only [if_neg error]
      exact Or.inr ⟨_, fun _ _ => rfl⟩
  · simp only [if_neg queue]
    obtain ⟨ret, after, returns, goes, _⟩ := handler_goes honest (handler run.host.rsp) (fits _) safe
    exact ⟨after, goes, Or.inr ⟨ret, fun _ next => returns next⟩⟩

/-- The body of the loop. -/
def procFrame (handler : RspHdr → Handler) (ch avail req : Nat) (ret : Int) (cleanup : Int → QueueTask)
    (next : Nat → Int → QueueTask) : QueueTask :=
  readHeader ch avail req ret cleanup fun avail req ret =>
    refill ch avail req ret cleanup fun avail ret =>
      if avail < req then cleanup ret
      else
        dispatch handler cleanup fun ret =>
          .host (fun host => { host with rsp := { host.rsp with len := 0 } }) fun _ =>
            refill ch (sub32 avail req) headerWords ret cleanup fun avail _ =>
              mt7697qPushRdPtr ch fun ret => if ret < 0 then cleanup ret else next avail ret

theorem procLoop_succ (handler : RspHdr → Handler) (ch : Nat) (cleanup : Int → QueueTask)
    (fuel avail req : Nat) (ret : Int) : procLoop handler ch cleanup (fuel + 1) avail req ret =
      if avail < req then cleanup ret
      else procFrame handler ch avail req ret cleanup fun avail ret =>
        procLoop handler ch cleanup fuel avail headerWords ret := by
  unfold procFrame
  rw [procLoop]

/-- A pass that comes back has made a call, and where it read a header, the queue is nearer to
having nothing to read. -/
theorem procFrame_goes (honest : Honest link rxSize txSize slave) {handler : RspHdr → Handler}
    (fits : ∀ header, Fits link limit (handler header)) {run : QueueRun}
    (safe : Safe link rxSize txSize run.host) (header : headerWords ≤ limit) (avail : Nat) {req : Nat}
    (ret : Int) (asked : run.host.rsp.len = 0 → req = headerWords) :
    ∃ after, Goes link slave rxSize txSize limit run after ∧
      ((∃ result, ∀ cleanup next, alone slave (procFrame handler link.rx avail req ret cleanup next) run =
          alone slave (cleanup result) after) ∨
        ∃ left result, (∀ cleanup next,
            alone slave (procFrame handler link.rx avail req ret cleanup next) run =
              alone slave (next left result) after) ∧
          after.host.rsp.len = 0 ∧ run.log.length < after.log.length ∧
          (run.host.rsp.len = 0 → ∀ offset,
            SettledFrom slave (wrOffsetAddr link.rx) run.log.length offset →
            gap offset (after.host.queues link.rx) + headerWords ≤ gap offset (run.host.queues link.rx))) := by
  obtain ⟨one, goes1, ⟨result, first⟩ | ⟨seen, body, got, first, closer⟩⟩ :=
    readHeader_goes honest safe header avail ret asked
  · exact ⟨one, goes1, Or.inl ⟨result, fun _ _ => first _ _⟩⟩
  obtain ⟨two, goes2, rsp2, ⟨result, second⟩ | ⟨there, pulled, second⟩⟩ :=
    @refill_goes _ _ _ _ limit honest one goes1.safe seen body got
  · exact ⟨two, goes1.trans goes2, Or.inl ⟨result, fun _ _ => (first _ _).trans (second _ _)⟩⟩
  -- Without the whole body the pass ends, and the header is kept for the next one.
  by_cases short : there < body
  · refine ⟨two, goes1.trans goes2, Or.inl ⟨pulled, fun cleanup next => ?_⟩⟩
    refine ((first _ _).trans (second _ _)).trans ?_
    rw [if_pos short]
  obtain ⟨three, goes3, ⟨result, third⟩ | ⟨handled, third⟩⟩ := dispatch_goes honest fits goes2.safe
  · refine ⟨three, (goes1.trans goes2).trans goes3, Or.inl ⟨result, fun cleanup next => ?_⟩⟩
    refine ((first _ _).trans (second _ _)).trans ?_
    rw [if_neg short]
    exact third _ _
  -- The frame is handled: its header is forgotten before the next one is asked for.
  let emptied : QueueRun := { three with host := { three.host with rsp := { three.host.rsp with len := 0 } } }
  have safe4 : Safe link rxSize txSize emptied.host :=
    ⟨goes3.safe.rx, goes3.safe.tx, goes3.safe.rxSize, goes3.safe.txSize⟩
  have goes4 : Goes link slave rxSize txSize limit three emptied :=
    ⟨⟨0, moves_same⟩, safe4, fun _ _ => Nat.le_refl _⟩
  have goes1234 := ((goes1.trans goes2).trans goes3).trans goes4
  have start : ∀ cleanup next, alone slave (procFrame handler link.rx avail req ret cleanup next) run =
      alone slave (refill link.rx (sub32 there body) headerWords handled cleanup fun avail _ =>
        mt7697qPushRdPtr link.rx fun ret => if ret < 0 then cleanup ret else next avail ret) emptied := by
    intro cleanup next
    refine ((first _ _).trans (second _ _)).trans ?_
    rw [if_neg short]
    exact (third _ _).trans (alone_host ..)
  obtain ⟨five, goes5, rsp5, ⟨result, fourth⟩ | ⟨left, again, fourth⟩⟩ :=
    @refill_goes _ _ _ _ limit honest emptied safe4 (sub32 there body) headerWords handled
  · exact ⟨five, goes1234.trans goes5, Or.inl ⟨result, fun _ _ => (start _ _).trans (fourth _ _)⟩⟩
  obtain ⟨result, after, fifth, goes6, rsp6, longer⟩ := mt7697qPushRdPtr_goes honest goes5.safe
  have goes := (goes1234.trans goes5).trans goes6
  refine ⟨after, goes, ?_⟩
  by_cases error : result < 0
  · refine Or.inl ⟨result, fun cleanup next => ?_⟩
    refine (((start _ _).trans (fourth _ _)).trans (fifth _)).trans ?_
    rw [if_pos error]
  · refine Or.inr ⟨left, result, fun cleanup next => ?_, ?_, ?_, fun empty offset settled => ?_⟩
    · refine (((start _ _).trans (fourth _ _)).trans (fifth _)).trans ?_
      rw [if_neg error]
    · rw [rsp6, rsp5]
    · exact Nat.lt_of_le_of_lt (goes1234.trans goes5).length longer
    · -- The header is what brings the queue nearer; nothing after it takes that back.
      have later := (((goes2.trans goes3).trans goes4).trans goes5).trans goes6
      have nearer := later.nearer offset fun log long => settled log (Nat.le_trans goes1.length long)
      exact Nat.le_trans (Nat.add_le_add_right nearer _) (closer empty offset)

/-- What is left of a call: the calls until the word settles, then the words to be read. -/
def left (link : Link) (count : Nat) (offset : Word) (run : QueueRun) : Nat :=
  (count - run.log.length) * (2 * (run.host.queues link.rx).numWords + 2) +
    gap offset (run.host.queues link.rx) + if run.host.rsp.len = 0 then 0 else 1

theorem left_lt {before after : QueueRun} (safe : Safe link rxSize txSize before.host)
    (goes : Goes link slave rxSize txSize limit before after) {count : Nat} {offset : Word}
    (settled : SettledFrom slave (wrOffsetAddr link.rx) count offset)
    (longer : before.log.length < after.log.length) (empty : after.host.rsp.len = 0)
    (closer : before.host.rsp.len = 0 → ∀ offset,
      SettledFrom slave (wrOffsetAddr link.rx) before.log.length offset →
      gap offset (after.host.queues link.rx) + headerWords ≤ gap offset (before.host.queues link.rx)) :
    left link count offset after < left link count offset before := by
  have size : (after.host.queues link.rx).numWords = (before.host.queues link.rx).numWords :=
    goes.safe.rxSize.trans safe.rxSize.symm
  have bound := gap_bound goes.safe.rx offset
  rw [size] at bound
  simp only [left, if_pos empty, size]
  by_cases late : count ≤ before.log.length
  · -- The word has settled, so a pass reads a header or had one to begin with.
    have here : SettledFrom slave (wrOffsetAddr link.rx) before.log.length offset :=
      fun log long => settled log (Nat.le_trans late long)
    have nearer := goes.nearer offset here
    rw [Nat.sub_eq_zero_of_le late, Nat.sub_eq_zero_of_le (Nat.le_trans late (Nat.le_of_lt longer))]
    by_cases header : before.host.rsp.len = 0
    · have two : headerWords = 2 := rfl
      have read := closer header offset here
      rw [if_pos header]
      omega
    · rw [if_neg header]
      omega
  · -- Before that, a pass makes at least a call.
    obtain ⟨fewer, drop⟩ : ∃ fewer, count - before.log.length = fewer + 1 := ⟨_, (Nat.succ_pred (by omega)).symm⟩
    have less : count - after.log.length ≤ fewer := by omega
    generalize each : 2 * (before.host.queues link.rx).numWords + 2 = weight
    have product := Nat.mul_le_mul_right weight less
    rw [drop, Nat.succ_mul]
    split_ifs <;> omega

theorem procLoop_goes (honest : Honest link rxSize txSize slave) {handler : RspHdr → Handler}
    (fits : ∀ header, Fits link limit (handler header)) (header : headerWords ≤ limit) {count : Nat}
    {offset : Word} (settled : SettledFrom slave (wrOffsetAddr link.rx) count offset) (enough : Nat) :
    ∀ {run : QueueRun}, Safe link rxSize txSize run.host → ∀ (avail req : Nat) (ret : Int),
      (run.host.rsp.len = 0 → req = headerWords) → left link count offset run < enough →
      ∃ result after, (∀ fuel, enough ≤ fuel → ∀ next,
        alone slave (procLoop handler link.rx next fuel avail req ret) run = alone slave (next result) after) ∧
        Goes link slave rxSize txSize limit run after := by
  induction enough with
  | zero => exact fun _ _ _ _ _ few => absurd few (Nat.not_lt_zero _)
  | succ enough ih =>
      intro run safe avail req ret asked few
      by_cases short : avail < req
      · refine ⟨ret, run, fun fuel some next => ?_, Goes.refl safe⟩
        obtain ⟨fuel, rfl⟩ := Nat.exists_eq_add_of_le' (Nat.le_trans (Nat.succ_pos enough) some)
        rw [procLoop_succ, if_pos short]
      · obtain ⟨middle, goes, ⟨result, ends⟩ | ⟨more, result, ends, empty, longer, closer⟩⟩ :=
          procFrame_goes honest fits safe header avail ret asked
        · refine ⟨result, middle, fun fuel some next => ?_, goes⟩
          obtain ⟨fuel, rfl⟩ := Nat.exists_eq_add_of_le' (Nat.le_trans (Nat.succ_pos enough) some)
          rw [procLoop_succ, if_neg short]
          exact ends _ _
        · have fewer := left_lt safe goes settled longer empty closer
          obtain ⟨final, after, rest, goes'⟩ := ih goes.safe more headerWords result (fun _ => rfl) (by omega)
          refine ⟨final, after, fun fuel some next => ?_, goes.trans goes'⟩
          obtain ⟨fuel, rfl⟩ := Nat.exists_eq_add_of_le' (Nat.le_trans (Nat.succ_pos enough) some)
          rw [procLoop_succ, if_neg short]
          exact (ends _ _).trans (rest fuel (Nat.le_of_succ_le_succ some) next)

theorem mt7697qProcData_goes (honest : Honest link rxSize txSize slave)
    (settles : Settles slave (wrOffsetAddr link.rx)) {handler : RspHdr → Handler}
    (fits : ∀ header, Fits link limit (handler header)) (header : headerWords ≤ limit) {run : QueueRun}
    (safe : Safe link rxSize txSize run.host) :
    ∃ enough result after, (∀ fuel, enough ≤ fuel →
        Returns slave (mt7697qProcData handler fuel link.rx) run result after) ∧
      Goes link slave rxSize txSize limit run after := by
  obtain ⟨count, offset, settled⟩ := settles
  obtain ⟨ret, pulled, pulls, goes, rsp⟩ := @mt7697qPullWrPtr_goes _ _ _ _ limit honest run safe
  by_cases error : ret < 0
  · refine ⟨0, ret, pulled, fun fuel _ next => (pulls _).trans ?_, goes⟩
    rw [if_pos error]
  · obtain ⟨result, after, loops, goes'⟩ := procLoop_goes honest fits header settled _ goes.safe
      (mt7697qGetNumWords (pulled.host.queues link.rx))
      (if 0 < pulled.host.rsp.len.toNat then bodyWords pulled.host.rsp.len else headerWords) ret
      (fun empty => by rw [empty]; rfl) (Nat.lt_succ_self _)
    refine ⟨(left link count offset pulled).succ, result, after, fun fuel some next =>
      (pulls _).trans ?_, goes.trans goes'⟩
    rw [if_neg error, alone_host]
    exact loops fuel some next

/-! The requests. -/

theorem read_contained (honest : Honest link rxSize txSize slave) {before : QueueRun}
    (safe : Safe link rxSize txSize before.host) (num : Nat) :
    ∃ ret after calls, (∀ fuel, Returns slave ((Request.read num).procedure link fuel) before ret after) ∧
      Contained link (.read num) before ret after calls ∧ Safe link rxSize txSize after.host := by
  obtain ⟨ret, _, after, returns, ⟨calls, made, sound, few⟩, goes, _⟩ :=
    mt7697qRead_goes honest safe (Nat.le_refl num)
  refine ⟨ret, after, calls, fun _ next => returns fun ret _ => next ret, ?_, goes.safe⟩
  refine ⟨made, fun entry inside => (sound entry inside).inside, few,
    ⟨safe.unwrapped, fun entry inside => (sound entry inside).sizes, goes.safe.unwrapped⟩, fun meets => ?_⟩
  exact absurd safe.rx.write (Nat.not_lt.mpr meets)

theorem write_contained (honest : Honest link rxSize txSize slave) {before : QueueRun}
    (safe : Safe link rxSize txSize before.host) (buff : List Word) :
    ∃ ret after calls, (∀ fuel, Returns slave ((Request.write buff).procedure link fuel) before ret after) ∧
      Contained link (.write buff) before ret after calls ∧ Safe link rxSize txSize after.host := by
  obtain ⟨ret, after, returns, wrote, outcome⟩ := mt7697qWrite_ends honest safe (Nat.le_refl buff.length)
  rcases outcome with ⟨error, own, calls, made, sound, few⟩ | ⟨calls, made, sound, few⟩
  · refine ⟨ret, after, calls, fun _ => returns, ?_, wrote.safe⟩
    exact ⟨made, fun entry inside => (sound entry inside).inside, Nat.le_trans few (Nat.zero_le _),
      ⟨safe.unwrapped, fun entry inside => (sound entry inside).sizes, wrote.safe.unwrapped⟩,
      fun _ => ⟨error, own⟩⟩
  · refine ⟨ret, after, calls, fun _ => returns, ?_, wrote.safe⟩
    refine ⟨made, fun entry inside => (sound entry inside).1.inside, few,
      ⟨safe.unwrapped, fun entry inside => (sound entry inside).1.sizes, wrote.safe.unwrapped⟩, fun meets => ?_⟩
    rcases meets with stale | ⟨entry, inside, pulled, _⟩
    · exact absurd safe.tx.read (Nat.not_lt.mpr stale)
    · exact absurd pulled ((sound entry inside).2 _ _)

theorem Fits.mono {handler : Handler} {less more : Nat} (le : less ≤ more) :
    QueueOffsets.Fits link less handler → QueueOffsets.Fits link more handler := by
  induction handler with
  | done ret => exact fun _ => trivial
  | read ch num next ih =>
      exact fun fits => ⟨fits.1, Nat.le_trans fits.2.1 le, fun ret words => ih ret words (fits.2.2 ret words)⟩
  | write ch buff next ih =>
      exact fun fits => ⟨fits.1, Nat.le_trans fits.2.1 le, fun ret => ih ret (fits.2.2 ret)⟩

theorem procData_contained (honest : Honest link rxSize txSize slave)
    (settles : Settles slave (wrOffsetAddr link.rx)) {before : QueueRun}
    (safe : Safe link rxSize txSize before.host) {handler : RspHdr → Handler} {limit : Nat}
    (fits : ∀ header, QueueOffsets.Fits link limit (handler header)) :
    ∃ enough ret after calls, (∀ fuel, enough ≤ fuel →
        Returns slave ((Request.procData handler limit).procedure link fuel) before ret after) ∧
      Contained link (.procData handler limit) before ret after calls ∧
      Safe link rxSize txSize after.host := by
  obtain ⟨enough, ret, after, returns, goes⟩ := mt7697qProcData_goes honest settles
    (fun header => (fits header).mono (Nat.le_max_right headerWords limit)) (Nat.le_max_left _ _) safe
  obtain ⟨words, calls, made, sound, _⟩ := goes.moves
  refine ⟨enough, ret, after, calls, returns, ?_, goes.safe⟩
  refine ⟨made, fun entry inside => (sound entry inside).inside,
    fun entry inside => (sound entry inside).words,
    ⟨safe.unwrapped, fun entry inside => (sound entry inside).sizes, goes.safe.unwrapped⟩, ?_⟩
  rintro ⟨entry, inside, call, success, stray⟩
  rw [safe.rxSize] at stray
  exact absurd ((sound entry inside).pulled call success) (Nat.not_lt.mpr stray)

/-- From queues that `mt7697q_read_state` accepts and that have room for a word, and with a slave
that publishes offsets of its rings only, every request is contained, in any order. -/
theorem requests_contained {before : QueueRun}
    (rx : Accepted (before.host.queues link.rx)) (tx : Accepted (before.host.queues link.tx))
    (rxWords : 0 < (before.host.queues link.rx).numWords)
    (txWords : 0 < (before.host.queues link.tx).numWords)
    (honest : Honest link (before.host.queues link.rx).numWords (before.host.queues link.tx).numWords slave)
    (settles : Settles slave (wrOffsetAddr link.rx)) {requests : List Request}
    (fits : ∀ request ∈ requests, request.Fits link) : Contains link slave requests before := by
  have start : Safe link (before.host.queues link.rx).numWords (before.host.queues link.tx).numWords
      before.host := ⟨ranged_of_accepted rx rxWords, ranged_of_accepted tx txWords, rfl, rfl⟩
  clear rx tx rxWords txWords
  revert start honest
  generalize (before.host.queues link.rx).numWords = rxSize
  generalize (before.host.queues link.tx).numWords = txSize
  intro honest start
  induction requests generalizing before with
  | nil => trivial
  | cons request rest ih =>
      have later := fun request inside => fits request (List.mem_cons_of_mem _ inside)
      cases request with
      | read num =>
          obtain ⟨ret, after, calls, returns, contained, safe⟩ := read_contained honest start num
          exact ⟨0, ret, after, calls, fun fuel _ => returns fuel, contained, ih later safe⟩
      | write buff =>
          obtain ⟨ret, after, calls, returns, contained, safe⟩ := write_contained honest start buff
          exact ⟨0, ret, after, calls, fun fuel _ => returns fuel, contained, ih later safe⟩
      | procData handler limit =>
          obtain ⟨enough, ret, after, calls, returns, contained, safe⟩ :=
            procData_contained honest settles start (fits _ List.mem_cons_self)
          exact ⟨enough, ret, after, calls, returns, contained, ih later safe⟩

/-- Whatever is in the copy behind the ring, there is a read that does not report it. -/
theorem stray_uncontained {run : QueueRun} (read : (run.host.queues link.rx).rdOffset.toNat <
      (run.host.queues link.rx).numWords)
    (stray : (run.host.queues link.rx).numWords ≤ (run.host.queues link.rx).wrOffset.toNat) :
    ¬ Contains link slave [.read 0] run := by
  rintro ⟨enough, ret, after, calls, returns, contained, _⟩
  have ahead : ¬ (run.host.queues link.rx).wrOffset.toNat < (run.host.queues link.rx).rdOffset.toNat := by omega
  let same := setRdOffset link.rx (BitVec.ofNat 16 (run.host.queues link.rx).rdOffset.toNat) run.host
  have succeeds : Returns slave ((Request.read 0).procedure link enough) run 0 { run with host := same } := by
    intro next
    simp only [Request.procedure, mt7697qRead, alone, id, readToEnd, if_neg ahead, readBelow,
      Nat.sub_self, Nat.lt_irrefl, if_false, if_neg (Nat.not_le.mpr read)]
    rfl
  obtain ⟨rfl, _⟩ := returns_unique succeeds (returns enough (Nat.le_refl _))
  exact absurd (contained.stops stray).1 (by decide)

/-- Two empty rings of four words. -/
def emptyRings : QueueRun := ⟨⟨fun _ => ⟨0x40000, 0x20001000, 0, 0⟩, .cleared, false⟩, []⟩

def pair : Link := ⟨1, 0, by decide⟩

/-- Single words are read as this offset, and nothing else goes through. -/
def publishing (offset : Word) : Slave
  | _, .rd _ 1 => (0, [offset])
  | _, _ => (-5, [])

theorem emptyRings_accepted (ch : Nat) : Accepted (emptyRings.host.queues ch) :=
  ⟨(by decide : (0x20001000 : Word) ≠ 0), (by decide : (0x40000 : Word) ≠ 0), Nat.zero_le _, Nat.zero_le _⟩

theorem publishing_settles (offset addr : Word) : Settles (publishing offset) addr :=
  ⟨0, offset, fun _ _ _ => rfl⟩

theorem requests_contained_pair :
    Contains pair (publishing 3) [.procData (fun _ => .done 0) 0, .write [7, 8], .read 4] emptyRings := by
  have words : 0 < (emptyRings.host.queues 0).numWords := by decide
  refine requests_contained (emptyRings_accepted _) (emptyRings_accepted _) words words
    ⟨fun _ _ => ?_, fun _ _ => ?_⟩ (publishing_settles _ _) ?_
  · change (3 : Word).toNat < (emptyRings.host.queues 1).numWords
    decide
  · change ((3 : Word).setWidth 16 : BitVec 16).toNat < (emptyRings.host.queues 0).numWords
    decide
  · intro request inside
    rcases List.mem_cons.mp inside with rfl | inside
    · exact fun _ => trivial
    · rcases List.mem_cons.mp inside with rfl | inside
      · trivial
      · rw [List.mem_singleton.mp inside]
        trivial

/-- The offset 8 is pulled, the header cannot be read. -/
def pulledEight : QueueRun :=
  { emptyRings.made (.rd (wrOffsetAddr 1) 1) (0, [8]) with host := setWrOffset 1 8 emptyRings.host }

theorem read_behind (run : QueueRun) (data : run.host.queues 1 = ⟨0x40000, 0x20001000, 0, 8⟩) :
    Returns (publishing 8) (fun next => mt7697qRead 1 6 fun ret _ => next ret) run (-5)
      (run.made (.rd 0x20001000 6) (-5, [])) := by
  intro next
  have wraps : ¬ (8 : BitVec 16).toNat < (0 : BitVec 16).toNat := by decide
  have avail : sub32 (8 : BitVec 16).toNat (0 : BitVec 16).toNat = 8 := by decide
  simp only [mt7697qRead, alone, id, data, readToEnd, if_neg wraps, readBelow, avail]
  rfl

/-- Of the six words that are then read two are behind the ring. -/
theorem corrupt_offset_read : ¬ ∀ (link : Link) (slave : Slave) (requests : List Request) (before : QueueRun),
    Accepted (before.host.queues link.rx) → Accepted (before.host.queues link.tx) →
    Settles slave (wrOffsetAddr link.rx) → (∀ request ∈ requests, request.Fits link) →
    Contains link slave requests before := by
  intro contains
  have fits : ∀ request ∈ [Request.procData (fun _ => .done 0) 0, .read 6], request.Fits pair := by
    intro request inside
    rcases List.mem_cons.mp inside with rfl | inside
    · exact fun _ => trivial
    · rw [List.mem_singleton.mp inside]
      trivial
  obtain ⟨enough, ret, after, _, first, _, enough', ret', after', calls, second, contained, _⟩ :=
    contains pair (publishing 8) _ emptyRings (emptyRings_accepted _) (emptyRings_accepted _)
      (publishing_settles _ _) fits
  have pulled : Returns (publishing 8) ((Request.procData (fun _ => .done 0) 0).procedure pair (enough + 1))
      emptyRings (-5) (pulledEight.made (.rd 0x20001000 2) (-5, [])) := fun _ => rfl
  obtain ⟨rfl, rfl⟩ := returns_unique pulled (first (enough + 1) (Nat.le_succ _))
  have read := read_behind (pulledEight.made (.rd 0x20001000 2) (-5, [])) rfl
  obtain ⟨rfl, rfl⟩ := returns_unique read (second enough' (Nat.le_refl _))
  have only := List.append_cancel_left contained.made
  have inside := contained.inside _ (by rw [← only]; exact List.mem_singleton_self _)
  rcases inside with ⟨single, _⟩ | ring
  · exact absurd single (by decide)
  · obtain ⟨place, below, same⟩ := ring 4 (by decide)
    have four : place < 4 := below
    have words := congrArg BitVec.toNat ((BitVec.add_right_inj (0x20001000 : Word)).mp same)
    rw [BitVec.toNat_ofNat, BitVec.toNat_ofNat] at words
    omega

end MangOH.QueueOffsets
