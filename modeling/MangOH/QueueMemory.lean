import MangOH.BitFields
import MangOH.CyclicWindow

/-!
The data of one `mt7697q` queue and the transfers that move it. A queue is a
ring of words in the slave's memory and an entry of the slave's queue table;
the host keeps a copy of the entry in `mt7697q_spec`. Each queue's ring and
table entry are objects of their own, so a transfer names the word it moves.

A transfer takes its outcome from `faults`: the head says how many words of
the burst went through before the SPI error. An exhausted list means success.
-/

namespace MangOH.QueueMemory

open BitFields CyclicWindow

def einval : Int := 22
def eagain : Int := 11

/-- 32-bit subtraction of the source's `size_t` and `u32` values. -/
def sub32 (left right : Nat) : Nat := (left + 4294967296 - right) % 4294967296

def u16 (value : Nat) : Nat := value % 65536

def lenToWord (bytes : Nat) : Nat := bytes / 4 + if bytes % 4 = 0 then 0 else 1

def len32Aligned (length : Nat) : Nat := lenToWord length * 4

/-- `struct mt7697q_data`. -/
structure QueueData where
  flags : Word
  baseAddr : Word
  rdOffset : BitVec 16
  wrOffset : BitVec 16

/-- What a burst over `struct mt7697q_data` leaves behind after `done` words. -/
def QueueData.store (data entry : QueueData) (done : Nat) : QueueData where
  flags := if 0 < done then entry.flags else data.flags
  baseAddr := if 1 < done then entry.baseAddr else data.baseAddr
  rdOffset := if 2 < done then entry.rdOffset else data.rdOffset
  wrOffset := if 3 < done then entry.wrOffset else data.wrOffset

/-- `struct mt7697_rsp_hdr` as a little-endian host overlays it on two words. -/
structure RspHdr where
  len : BitVec 16
  grp : BitVec 8
  type : BitVec 8
  result : Word
  deriving DecidableEq

def RspHdr.cleared : RspHdr := ⟨0, 0, 0, 0⟩

/-- Reading `words` over the header. A burst that stops after the first word
has already replaced `cmd`. -/
def RspHdr.store (header : RspHdr) : List Word → RspHdr
  | [] => header
  | [cmd] => { header with
      len := cmd.setWidth 16, grp := (cmd >>> 16).setWidth 8, type := (cmd >>> 24).setWidth 8 }
  | cmd :: result :: _ =>
      ⟨cmd.setWidth 16, (cmd >>> 16).setWidth 8, (cmd >>> 24).setWidth 8, result⟩

/-- The members of `mt7697q_info` that its queues share. -/
structure QueueInfo where
  rsp : RspHdr
  blockedWriter : Bool

structure Fault where
  done : Nat
  errno : Nat

def Fault.ret (fault : Fault) : Int := -(fault.errno + 1 : Nat)

/-- What the slave keeps for one queue: its memory, its table entry, the words
it still wants to put in the ring and the pace at which it does so while the
host is inside a call. -/
structure Slave where
  memory : Word → Word
  entry : QueueData
  todo : List Word
  agenda : List Nat
  faults : List (Option Fault)
  m2sMailbox : Word
  irq : Bool

/-- `struct mt7697q_spec` with the slave it talks to. -/
structure QueueSpec where
  data : QueueData
  ch : Nat
  qinfo : QueueInfo
  slave : Slave

def QueueSpec.withMemory (qs : QueueSpec) (memory : Word → Word) : QueueSpec :=
  { qs with slave := { qs.slave with memory := memory } }

section
variable (qs : QueueSpec) (memory : Word → Word)

@[simp] theorem withMemory_data : (qs.withMemory memory).data = qs.data := rfl
@[simp] theorem withMemory_twice (later : Word → Word) :
    (qs.withMemory memory).withMemory later = qs.withMemory later := rfl

end

def mt7697qBufDiff (size source target : Nat) : Nat :=
  if source ≤ target then target - source else (sub32 size source + target) % 4294967296

def QueueData.numWords (data : QueueData) : Nat := (bfGet data.flags 16 16).toNat

/-- What `mt7697q_read_state` accepts. -/
def Accepted (data : QueueData) : Prop :=
  data.baseAddr ≠ 0 ∧ data.flags ≠ 0 ∧ data.rdOffset.toNat ≤ sub32 data.numWords 1 ∧
    data.wrOffset.toNat ≤ sub32 data.numWords 1

def mt7697qGetCapacity (qs : QueueSpec) : Nat := sub32 qs.data.numWords 1

def mt7697qGetNumWords (qs : QueueSpec) : Nat :=
  mt7697qBufDiff qs.data.numWords qs.data.rdOffset.toNat qs.data.wrOffset.toNat

def mt7697qGetFreeWords (qs : QueueSpec) : Nat :=
  sub32 (mt7697qGetCapacity qs) (mt7697qGetNumWords qs)

def loadWords (memory : Word → Word) (addr : Word) : Nat → List Word
  | 0 => []
  | num + 1 => memory addr :: loadWords memory (addr + 4) num

def storeWords (memory : Word → Word) (addr : Word) : List Word → Word → Word
  | [] => memory
  | word :: rest =>
      storeWords (fun place => if place = addr then word else memory place) (addr + 4) rest

def Slave.transfer (slave : Slave) : Option Fault × Slave :=
  match slave.faults with
  | [] => (none, slave)
  | fault :: rest => (fault, { slave with faults := rest })

/-- A burst read of `num` words; the words read before an error are stored. -/
def mt7697ioRd (qs : QueueSpec) (addr : Word) (num : Nat) : QueueSpec × Int × List Word :=
  match qs.slave.transfer with
  | (none, slave) => ({ qs with slave := slave }, 0, loadWords slave.memory addr num)
  | (some fault, slave) =>
      ({ qs with slave := slave }, fault.ret, loadWords slave.memory addr (min fault.done num))

def mt7697ioWr (qs : QueueSpec) (addr : Word) (data : List Word) : QueueSpec × Int :=
  match qs.slave.transfer with
  | (none, slave) =>
      ({ qs with slave := { slave with memory := storeWords slave.memory addr data } }, 0)
  | (some fault, slave) =>
      ({ qs with slave := { slave with
          memory := storeWords slave.memory addr (data.take fault.done) } }, fault.ret)

def mt7697ioWrM2sMbx (qs : QueueSpec) (bits : Nat) : QueueSpec × Int :=
  match qs.slave.transfer with
  | (none, slave) =>
      ({ qs with slave := { slave with m2sMailbox := bfDefine (BitVec.ofNat 32 bits) 0 7 } }, 0)
  | (some fault, slave) => ({ qs with slave := slave }, fault.ret)

def mt7697ioTriggerIntr (qs : QueueSpec) : QueueSpec × Int :=
  match qs.slave.transfer with
  | (none, slave) => ({ qs with slave := { slave with irq := true } }, 0)
  | (some fault, slave) => ({ qs with slave := slave }, fault.ret)

/-- The address of a ring word, `base_addr + offset * sizeof(u32)`. -/
def wordAddr (qs : QueueSpec) (offset : Nat) : Word :=
  qs.data.baseAddr + BitVec.ofNat 32 (4 * offset)

/-- The ring of a queue as a buffer of cells. -/
def cells (base : Word) (memory : Word → Word) : Nat → Word :=
  fun place => memory (base + BitVec.ofNat 32 (4 * place))

theorem addr_next (base : Word) (place : Nat) :
    base + BitVec.ofNat 32 (4 * place) + 4 = base + BitVec.ofNat 32 (4 * (place + 1)) := by
  rw [BitVec.add_assoc, Nat.mul_add, BitVec.ofNat_add]
  rfl

/-- Ring words have distinct addresses even when the ring wraps the address
space, because a ring is shorter than 2^16 words. -/
theorem addr_injective (base : Word) {left right : Nat} (left_lt : left < 65536)
    (right_lt : right < 65536)
    (same : base + BitVec.ofNat 32 (4 * left) = base + BitVec.ofNat 32 (4 * right)) :
    left = right := by
  have cancelled := congrArg BitVec.toNat ((BitVec.add_right_inj base).mp same)
  rw [BitVec.toNat_ofNat, BitVec.toNat_ofNat] at cancelled
  omega

theorem loadWords_cells (base : Word) (memory : Word → Word) (start num : Nat) :
    loadWords memory (base + BitVec.ofNat 32 (4 * start)) num =
      (List.range num).map fun place => cells base memory (start + place) := by
  induction num generalizing start with
  | zero => rfl
  | succ num ih =>
      rw [loadWords, addr_next, ih, List.range_succ_eq_map, List.map_cons, List.map_map]
      congr 1
      apply List.map_congr_left
      intro place _
      simp only [Function.comp, Nat.succ_eq_add_one]
      congr 1
      omega

theorem storeWords_cells (base : Word) (memory : Word → Word) (start : Nat) (words : List Word)
    (fits : start + words.length ≤ 65536) (place : Nat) (bound : place < 65536) :
    cells base (storeWords memory (base + BitVec.ofNat 32 (4 * start)) words) place =
      fill (cells base memory) start words place := by
  induction words generalizing memory start with
  | nil => simp [storeWords, fill]
  | cons word rest ih =>
      rw [List.length_cons] at fits
      rw [storeWords, addr_next, ih _ (start + 1) (by omega)]
      by_cases before : place < start
      · have apart : base + BitVec.ofNat 32 (4 * place) ≠ base + BitVec.ofNat 32 (4 * start) := by
          intro same
          have := addr_injective base bound (by omega) same
          omega
        simp [fill, before, Nat.lt_succ_of_lt before, cells, apart]
      · by_cases here : place = start
        · subst place
          simp [fill, cells]
        · have apart : base + BitVec.ofNat 32 (4 * place) ≠ base + BitVec.ofNat 32 (4 * start) := by
            intro same
            exact here (addr_injective base bound (by omega) same)
          have later : place - start = place - (start + 1) + 1 := by omega
          simp [fill, before, show ¬ place < start + 1 by omega, later, cells, apart]

theorem numWords_eq (data : QueueData) : data.numWords = data.flags.toNat / 65536 :=
  bfGet_upper data.flags

theorem numWords_lt (data : QueueData) : data.numWords < 65536 := by
  have small : data.flags.toNat < 4294967296 := data.flags.isLt
  rw [numWords_eq]
  omega

theorem sub32_of_le {left right : Nat} (le : right ≤ left) (small : left < 4294967296) :
    sub32 left right = left - right := by
  unfold sub32; omega

theorem lenToWord_four_mul (words : Nat) : lenToWord (4 * words) = words := by
  unfold lenToWord; split_ifs <;> omega

/-- Inside the ring the source's difference is the cyclic distance. -/
theorem mt7697qBufDiff_eq {size source target : Nat} (small : size < 65536)
    (source_lt : source < size) :
    mt7697qBufDiff size source target = distance size source target := by
  unfold mt7697qBufDiff distance
  split_ifs with order
  · rfl
  · rw [sub32_of_le (by omega) (by omega)]
    omega

/-! Transfers that may fail. -/

def QueueSpec.withFaults (qs : QueueSpec) (faults : List (Option Fault)) : QueueSpec :=
  { qs with slave := { qs.slave with faults := faults } }

/-- The queue with every later transfer going through. -/
def QueueSpec.healed (qs : QueueSpec) : QueueSpec := qs.withFaults []

/-- Every one of these transfers goes through. -/
def Through (faults : List (Option Fault)) : Prop := ∀ fault ∈ faults, fault = none

theorem through_nil : Through [] := fun _ inside => absurd inside List.not_mem_nil

theorem through_append {first second : List (Option Fault)} :
    Through (first ++ second) ↔ Through first ∧ Through second := List.forall_mem_append

theorem through_cons {fault : Option Fault} {rest : List (Option Fault)} :
    Through (fault :: rest) ↔ fault = none ∧ Through rest := List.forall_mem_cons

section
variable (qs : QueueSpec) (faults : List (Option Fault))

@[simp] theorem withFaults_data : (qs.withFaults faults).data = qs.data := rfl
@[simp] theorem withFaults_memory : (qs.withFaults faults).slave.memory = qs.slave.memory := rfl
@[simp] theorem withFaults_faults : (qs.withFaults faults).slave.faults = faults := rfl
@[simp] theorem withFaults_same : qs.withFaults qs.slave.faults = qs := rfl
@[simp] theorem healed_data : qs.healed.data = qs.data := rfl
@[simp] theorem healed_faults : qs.healed.slave.faults = [] := rfl

@[simp] theorem withFaults_twice (later : List (Option Fault)) :
    (qs.withFaults faults).withFaults later = qs.withFaults later := rfl

end

/-- The next transfer, and what is left of the outcomes. -/
theorem transfer_eq (slave : Slave) : slave.transfer =
    (slave.faults.headD none, { slave with faults := slave.faults.tail }) := by
  cases slave with
  | mk memory entry todo agenda faults m2sMailbox irq => cases faults <;> rfl

theorem through_one {faults : List (Option Fault)} :
    Through (faults.take 1) ↔ faults.headD none = none := by
  cases faults with
  | nil => exact iff_of_true through_nil rfl
  | cons fault rest => exact through_cons.trans (and_iff_left through_nil)

theorem through_succ {faults : List (Option Fault)} {count : Nat} :
    Through (faults.take (count + 1)) ↔ faults.headD none = none ∧ Through (faults.tail.take count) := by
  cases faults with
  | nil => exact iff_of_true through_nil ⟨rfl, by rw [List.tail_nil, List.take_nil]; exact through_nil⟩
  | cons fault rest => exact through_cons

theorem through_tail {faults : List (Option Fault)} (through : Through faults) : Through faults.tail :=
  fun fault inside => through fault (List.mem_of_mem_tail inside)

theorem through_head {faults : List (Option Fault)} (through : Through faults) :
    faults.headD none = none := by
  cases faults with
  | nil => rfl
  | cons fault rest => exact through fault List.mem_cons_self

theorem Fault.ret_neg (fault : Fault) : fault.ret < 0 := by
  rw [Fault.ret]
  omega

/-- With nothing left to fail, a queue is what it is once healed. -/
theorem healed_quiet {qs : QueueSpec} (quiet : qs.slave.faults = []) : qs.healed = qs := by
  rw [QueueSpec.healed, ← quiet]
  rfl

end MangOH.QueueMemory
