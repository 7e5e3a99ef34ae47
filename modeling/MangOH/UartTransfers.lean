import MangOH.PartialTransfers
import MangOH.UartReceive

/-!
`mt7697_uart_read` and `mt7697_uart_write`, each a loop of calls of the kernel that may move
less than they are asked for, or nothing. What a call returns is not decided here, but it is
never more than was requested. A buffer is the bytes from its address on.
-/

namespace MangOH.UartTransfers

open QueueMemory PartialTransfers

abbrev Octet := BitVec 8

/-- The open file and the caller's buffer. `input` is the stream that the device sends, of which
`pos` bytes are consumed, and `output` what it was sent. `returns` is what each call would
return if enough was requested. -/
structure Port where
  fdHndl : Bool
  input : Nat → Octet
  pos : Nat
  output : List Octet
  returns : Nat → Int
  calls : Nat
  buf : Nat → Octet

/-- The bytes that a call moves when so many are requested. -/
def Port.answer (port : Port) (count : Nat) : Int := min (port.returns port.calls) count

def kernelRead (port : Port) (ptr count : Nat) : Port × Int :=
  let ret := port.answer count
  let moved := ret.toNat
  ({ port with
    pos := port.pos + moved
    calls := port.calls + 1
    buf := fun place =>
      if ptr ≤ place ∧ place < ptr + moved then port.input (port.pos + (place - ptr))
      else port.buf place }, ret)

def kernelWrite (port : Port) (ptr count : Nat) : Port × Int :=
  let ret := port.answer count
  let sent := (List.range ret.toNat).map fun place => port.buf (ptr + place)
  ({ port with output := port.output ++ sent, calls := port.calls + 1 }, ret)

/-- `len * sizeof(u32)`. -/
def byteCount (len : Nat) : Nat := len * 4 % 4294967296

/-- What both functions do with their call. -/
def transfer (call : Port → Nat → Nat → Port × Int) (fuel : Nat) (port : Port) (len : Nat) :
    Option (Port × Nat) :=
  if port.fdHndl = false then some (port, 0)
  else (transferAll call fuel port 0 (byteCount len)).map fun result =>
    (result.1, if result.2 = true then len else 0)

def mt7697UartRead : Nat → Port → Nat → Option (Port × Nat) := transfer kernelRead

def mt7697UartWrite : Nat → Port → Nat → Option (Port × Nat) := transfer kernelWrite

/-- Since then, the next bytes of the stream are in the buffer, from its start on, and nothing
else has changed. -/
def ReadIn (port : Port) (done : Nat) (after : Port) : Prop :=
  after.pos = port.pos + done ∧ after.output = port.output ∧
    ∀ place, after.buf place = if place < done then port.input (port.pos + place) else port.buf place

/-- Since then, the first bytes of the buffer have been sent. -/
def WrittenOut (port : Port) (done : Nat) (after : Port) : Prop :=
  after.pos = port.pos ∧ after.buf = port.buf ∧
    after.output = port.output ++ (List.range done).map port.buf

/-- Every call since then has moved something. -/
def Positive (port after : Port) : Prop :=
  ∀ call, port.calls ≤ call → call < after.calls → 0 < port.returns call

/-- A transfer ends, with all of its bytes moved and its length returned as long as the calls
move something, and otherwise with zero and a part of them. -/
def Independent (uart : Nat → Port → Nat → Option (Port × Nat)) (Moves : Port → Nat → Port → Prop)
    (port : Port) (len : Nat) : Prop :=
  ∃ after ret, (∀ fuel, 4 * len < fuel → uart fuel port len = some (after, ret)) ∧
    (Positive port after ∨ len = 0 → ret = len ∧ Moves port (4 * len) after) ∧
    (¬ Positive port after → 0 < len → ret = 0 ∧ ret ≠ len ∧ ∃ done < 4 * len, Moves port done after)

variable {port : Port}

theorem answer_le (count : Nat) : port.answer count ≤ (count : Int) := Int.min_le_right _ _

theorem answer_pos {count : Nat} (some : 0 < count) :
    0 < port.answer count ↔ 0 < port.returns port.calls := by
  rw [Port.answer]
  omega

theorem byteCount_eq {len : Nat} (fits : 4 * len < 4294967296) : byteCount len = 4 * len := by
  rw [byteCount, Nat.mul_comm len, Nat.mod_eq_of_lt fits]

/-- The parts of the port that no call touches. -/
structure Same (port after : Port) : Prop where
  input : after.input = port.input
  returns : after.returns = port.returns

/-- As far as a transfer has come with calls that move something. -/
structure Underway (Moves : Port → Nat → Port → Prop) (port : Port) (done : Nat) (after : Port) :
    Prop where
  same : Same port after
  calls : port.calls ≤ after.calls
  positive : Positive port after
  moves : Moves port done after

/-- Where a call has moved nothing. -/
structure Stuck (Moves : Port → Nat → Port → Prop) (port : Port) (done : Nat) (after : Port) :
    Prop where
  broken : ¬ Positive port after
  moves : Moves port done after

/-- A call of the kernel, and what it moves. -/
structure Kernel (call : Port → Nat → Nat → Port × Int) (Moves : Port → Nat → Port → Prop) :
    Prop where
  ret : ∀ port ptr count, (call port ptr count).2 = port.answer count
  calls : ∀ port ptr count, (call port ptr count).1.calls = port.calls + 1
  same : ∀ port ptr count, Same port (call port ptr count).1
  start : ∀ port, Moves port 0 port
  moves : ∀ port now done count, Same port now → Moves port done now →
    Moves port (done + (now.answer count).toNat) (call now done count).1

theorem kernelRead_kernel : Kernel kernelRead ReadIn where
  ret _ _ _ := rfl
  calls _ _ _ := rfl
  same _ _ _ := ⟨rfl, rfl⟩
  start port := ⟨rfl, rfl, fun place => by simp⟩
  moves port now done count same moves := by
    obtain ⟨pos, output, buf⟩ := moves
    refine ⟨?_, output, fun place => ?_⟩
    · rw [← Nat.add_assoc, ← pos]
      rfl
    · simp only [kernelRead, buf, same.input, pos]
      by_cases earlier : place < done
      · rw [if_neg (by omega), if_pos earlier, if_pos (by omega)]
      · by_cases here : place < done + (now.answer count).toNat
        · rw [if_pos (by omega), if_pos here]
          congr 1
          omega
        · rw [if_neg (by omega), if_neg earlier, if_neg here]

theorem kernelWrite_kernel : Kernel kernelWrite WrittenOut where
  ret _ _ _ := rfl
  calls _ _ _ := rfl
  same _ _ _ := ⟨rfl, rfl⟩
  start port := ⟨rfl, rfl, by simp⟩
  moves port now done count same moves := by
    obtain ⟨pos, buf, output⟩ := moves
    refine ⟨pos, buf, ?_⟩
    simp only [kernelWrite, buf, output]
    rw [List.range_add, List.map_append, List.map_map, List.append_assoc]
    rfl

section
variable {call : Port → Nat → Nat → Port × Int} {Moves : Port → Nat → Port → Prop}

theorem positive_next {now after : Port} (positive : Positive port now)
    (returns : now.returns = port.returns) (calls : after.calls = now.calls + 1)
    (some : 0 < now.returns now.calls) : Positive port after := by
  intro index first last
  by_cases newest : index = now.calls
  · rw [newest, ← returns]
    exact some
  · exact positive index first (by omega)

theorem Kernel.called (kernel : Kernel call Moves) {now after : Port} {done count : Nat} {ret : Int}
    (called : call now done count = (after, ret)) : ret = now.answer count ∧
      after.calls = now.calls + 1 ∧ Same now after ∧
      (Same port now → Moves port done now → Moves port (done + ret.toNat) after) := by
  have answered := kernel.ret now done count
  have counted := kernel.calls now done count
  have same := kernel.same now done count
  have moves := kernel.moves port now done count
  rw [called] at answered counted same moves
  rw [← answered] at moves
  exact ⟨answered, counted, same, moves⟩

theorem kernel_keeps (kernel : Kernel call Moves) (port : Port) (total : Nat) :
    Keeps call total (Underway Moves port) (Stuck Moves port) where
  most {now after place left ret} called := by
    rw [(@Kernel.called port _ _ kernel _ _ _ _ _ called).1]
    exact answer_le left
  moved {now after done ret} inside underway called some := by
    obtain ⟨same, calls, positive, moves⟩ := underway
    obtain ⟨answered, counted, next, moved⟩ := kernel.called called
    have returned : 0 < now.returns now.calls := (answer_pos (by omega)).mp (answered ▸ some)
    exact ⟨⟨next.input.trans same.input, next.returns.trans same.returns⟩, by omega,
      positive_next positive same.returns counted returned, moved same moves⟩
  stuck {now after done ret} inside underway called none := by
    obtain ⟨same, calls, positive, moves⟩ := underway
    obtain ⟨answered, counted, next, moved⟩ := kernel.called called
    have kept := moved same moves
    rw [Int.toNat_of_nonpos none] at kept
    refine ⟨fun always => ?_, kept⟩
    have some := always now.calls calls (by omega)
    rw [← same.returns] at some
    rw [answered] at none
    exact absurd ((answer_pos (by omega)).mpr some) (Int.not_lt.mpr none)

theorem transfer_nothing (kernel : Kernel call Moves) (opened : port.fdHndl = true) :
    Independent (transfer call) Moves port 0 := by
  refine ⟨(call port 0 0).1, 0, fun fuel some => ?_, fun _ => ⟨rfl, ?_⟩, fun _ positive => ?_⟩
  · obtain ⟨fuel, rfl⟩ := Nat.exists_eq_succ_of_ne_zero (Nat.ne_of_gt some)
    have none : (call port 0 0).2 ≤ 0 := by
      rw [kernel.ret]
      exact answer_le 0
    have closed : ¬ port.fdHndl = false := by rw [opened]; exact Bool.noConfusion
    rw [transfer, if_neg closed, byteCount_eq (by decide), transferAll_stuck rfl none]
    rfl
  · have kept := kernel.moves port port 0 0 ⟨rfl, rfl⟩ (kernel.start port)
    have nothing : (port.answer 0).toNat = 0 := Int.toNat_of_nonpos (answer_le 0)
    rw [nothing] at kept
    exact kept
  · exact absurd positive (Nat.lt_irrefl 0)

theorem transfer_independent (kernel : Kernel call Moves) (opened : port.fdHndl = true) {len : Nat}
    (fits : 4 * len < 4294967296) : Independent (transfer call) Moves port len := by
  by_cases none : len = 0
  · subst none
    exact transfer_nothing kernel opened
  · have start : Underway Moves port 0 port := by
      refine ⟨⟨rfl, rfl⟩, Nat.le_refl _, fun index first last => ?_, kernel.start port⟩
      omega
    -- From the first byte on, what was moved is what the kernel would move at once.
    obtain ⟨after, whole, ended, moved, stuck⟩ := @transferAll_keeps _ _ _ _ _
      (kernel_keeps kernel port (4 * len)) (4 * len + 1) 0 port (by omega) start (by omega)
    have closed : ¬ port.fdHndl = false := by rw [opened]; exact Bool.noConfusion
    refine ⟨after, if whole = true then len else 0, fun fuel enough => ?_, ?_, ?_⟩
    · have run := transferAll_more ended enough
      rw [Nat.sub_zero] at run
      rw [transfer, if_neg closed, byteCount_eq fits, run]
      rfl
    · intro positive
      cases whole with
      | true => exact ⟨rfl, (moved rfl).moves⟩
      | false =>
          obtain ⟨stop, _, broken, _⟩ := stuck rfl
          exact absurd (positive.resolve_right none) broken
    · intro broken _
      cases whole with
      | true => exact absurd (moved rfl).positive broken
      | false =>
          obtain ⟨stop, inside, _, moves⟩ := stuck rfl
          exact ⟨rfl, fun same => none same.symm, stop, inside, moves⟩

end

/-- Reads and writes of a word buffer do not depend on the chunks in which the kernel moves
it. The address space bounds the buffer. -/
theorem mt7697Uart_independent {port : Port} (opened : port.fdHndl = true) {len : Nat}
    (fits : 4 * len < 4294967296) :
    Independent mt7697UartRead ReadIn port len ∧ Independent mt7697UartWrite WrittenOut port len :=
  ⟨transfer_independent kernelRead_kernel opened fits,
    transfer_independent kernelWrite_kernel opened fits⟩

/-- A device that moves three bytes with each call. -/
def threes : Port where
  fdHndl := true
  input := fun place => BitVec.ofNat 8 place
  pos := 0
  output := []
  returns := fun _ => 3
  calls := 0
  buf := fun _ => 7

theorem mt7697Uart_independent_threes : Independent mt7697UartRead ReadIn threes 2 :=
  (@mt7697Uart_independent threes rfl 2 (by decide)).1

/-! The worker's reads are this loop over a device that ends. -/

open UartReceive in
/-- A call on such a device, with the bytes that are there so far. -/
def ttyCall (state : Tty × List Octet) (_ count : Nat) : (Tty × List Octet) × Int :=
  let (tty, got) := UartReceive.kernelRead count state.1
  ((tty, state.2 ++ got), (got.length : Int))

open UartReceive in
theorem readBytes_transferAll {fuel count ptr : Nat} {tty : Tty} {past : List Octet}
    (enough : count < fuel) : transferAll ttyCall fuel (tty, past) ptr count =
      some (((readBytes fuel count tty).1, past ++ (readBytes fuel count tty).2.2),
        (readBytes fuel count tty).2.1) := by
  induction fuel generalizing count ptr tty past with
  | zero => omega
  | succ fuel ih =>
      have called : ttyCall (tty, past) ptr count = (((UartReceive.kernelRead count tty).1,
          past ++ (UartReceive.kernelRead count tty).2),
          ((UartReceive.kernelRead count tty).2.length : Int)) := rfl
      by_cases none : (UartReceive.kernelRead count tty).2 = []
      · have still : ((UartReceive.kernelRead count tty).2.length : Int) ≤ 0 := by
          rw [none]
          exact Int.le_refl 0
        rw [transferAll_stuck called still]
        simp only [readBytes, none, if_true]
      · have some : 0 < ((UartReceive.kernelRead count tty).2.length : Int) :=
          Int.natCast_pos.mpr (List.length_pos_iff.mpr none)
        by_cases last : count - (UartReceive.kernelRead count tty).2.length = 0
        · rw [transferAll_last called some last]
          simp only [readBytes, if_neg none, if_pos last]
        · rw [transferAll_next called some last, Int.toNat_natCast, ih (by omega)]
          simp only [readBytes, if_neg none, if_neg last, List.append_assoc]

end MangOH.UartTransfers
