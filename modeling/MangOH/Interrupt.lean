import MangOH.BitFields
import MangOH.Trace

/-!
The interrupt path of `mt7697q`. The handler masks the line and queues a work
item; the item reads and clears the S2M mailbox, then either asks for another
pass later or unmasks the line, and serves the channels. `irq_workq` runs one
item at a time. Every call that others can see is a step of its own, so that
the handler may come while a worker is still in its loop.
-/

namespace MangOH.Interrupt

open BitFields Trace

def numQueues : Nat := 6
def queueDirS2m : Word := 1

def mt7697qFlagsGetInUse (flags : Word) : Word := bfGet flags 0 1

def mt7697qFlagsGetDir (flags : Word) : Word := bfGet flags 1 1

def mt7697ioGetS2mMbox (value : BitVec 16) : BitVec 8 :=
  (bfGet (value.setWidth 32) 0 6).setWidth 8

def mt7697ioSetS2mMbox (value : BitVec 8) : BitVec 16 :=
  (bfDefine (value.setWidth 32) 0 6).setWidth 16

/-- The two transfers of `mt7697q_get_s2m_mbx`: their codes, the bits that the
slave sets after the first, and whether a write that fails has reached it. -/
structure MailboxIo where
  read : Int
  clear : Int
  late : BitVec 16
  arrives : Bool

structure Mailbox where
  reg : BitVec 16
  mbox : BitVec 8
  ret : Int

/-- A one that is written clears its bit of the register. -/
def mt7697ioClrS2mMbx (io : MailboxIo) (reg : BitVec 16) (mbox : BitVec 8) : Mailbox :=
  let reg := reg ||| io.late
  if io.clear < 0 ∧ io.arrives = false then ⟨reg, mbox, io.clear⟩
  else ⟨reg &&& ~~~ mt7697ioSetS2mMbox mbox, mbox, io.clear⟩

def mt7697qGetS2mMbx (io : MailboxIo) (reg : BitVec 16) : Mailbox :=
  if io.read < 0 then ⟨reg ||| io.late, 0, io.read⟩
  else mt7697ioClrS2mMbx io reg (mt7697ioGetS2mMbox reg)

inductive Service where
  | none
  | procData
  | notifyTx
  deriving DecidableEq

/-- What the loop of `mt7697q_irq_run` calls for one channel. -/
def service (mbox : BitVec 8) (ch : Nat) (flags : Word) (blockedWriter : Bool) : Service :=
  if mt7697qFlagsGetInUse flags ≠ 0 ∧ mbox &&& (1 : BitVec 8) <<< ch ≠ 0 then
    if mt7697qFlagsGetDir flags = queueDirS2m then .procData
    else if blockedWriter = true then .notifyTx
    else .none
  else .none

/-- What a pass of the loop meets at its channel, and what the call returns. -/
structure Turn where
  flags : Word
  blockedWriter : Bool
  ret : Int

/-- Where a worker is in `mt7697q_irq_run`. -/
inductive Phase where
  | fetching
  | deciding (mbox : BitVec 8)
  | serving (mbox : BitVec 8) (ch : Nat)
  deriving DecidableEq

/-- A failing `mt7697q_get_s2m_mbx` ends the run. -/
def fetched (mailbox : Mailbox) : Option Phase :=
  if mailbox.ret < 0 then none else some (.deciding mailbox.mbox)

/-- Only a failing `mt7697q_proc_data` leaves the loop early. -/
def served (mbox : BitVec 8) (ch : Nat) (turn : Turn) : Option Phase :=
  if service mbox ch turn.flags turn.blockedWriter = .procData ∧ turn.ret < 0 then none
  else if ch + 1 < numQueues then some (.serving mbox (ch + 1))
  else none

inductive Call where
  | disable
  | enable
  deriving DecidableEq

/-- The line's disable count, the pending bits of the two work items, whether
the handler is between its two calls, and where the worker is. `calls` lists
the calls of `disable_irq_nosync` and `enable_irq`. -/
structure Irq where
  depth : Nat
  handler : Bool
  irqWork : Bool
  delayedWork : Bool
  worker : Option Phase
  calls : List Call

def disableIrqNosync (irq : Irq) : Irq :=
  { irq with depth := irq.depth + 1, calls := irq.calls ++ [.disable] }

/-- The count of a line that is not disabled stays zero. -/
def enableIrq (irq : Irq) : Irq :=
  { irq with depth := irq.depth - 1, calls := irq.calls ++ [.enable] }

/-- A work item that is pending already stays so, and the refusal is logged. -/
def requeueOrEnable (mbox : BitVec 8) (irq : Irq) : Irq :=
  let irq := { irq with worker := some (.serving mbox 0) }
  if mbox ≠ 0 then { irq with delayedWork := true } else enableIrq irq

inductive Event where
  | isr
  | isrQueue
  | irqWork
  | irqDelayedWork
  | fetch (reg : BitVec 16) (io : MailboxIo)
  | decide
  | serve (turn : Turn)

/-- An event whose time has not come leaves the state alone: the handler needs
an enabled line, an item a free worker. -/
def step (irq : Irq) : Event → Irq
  | .isr =>
      if irq.depth = 0 ∧ irq.handler = false then { disableIrqNosync irq with handler := true }
      else irq
  | .isrQueue => if irq.handler = true then { irq with handler := false, irqWork := true } else irq
  | .irqWork =>
      if irq.irqWork = true ∧ irq.worker = none then
        { irq with irqWork := false, worker := some .fetching }
      else irq
  | .irqDelayedWork =>
      if irq.delayedWork = true ∧ irq.worker = none then
        { irq with delayedWork := false, worker := some .fetching }
      else irq
  | .fetch reg io =>
      match irq.worker with
      | some .fetching => { irq with worker := fetched (mt7697qGetS2mMbx io reg) }
      | _ => irq
  | .decide =>
      match irq.worker with
      | some (.deciding mbox) => requeueOrEnable mbox irq
      | _ => irq
  | .serve turn =>
      match irq.worker with
      | some (.serving mbox ch) => { irq with worker := served mbox ch turn }
      | _ => irq

/-- After `request_irq`. -/
def probed : Irq := ⟨0, false, false, false, none, []⟩

/-- Each disable is followed by one enable, the last one unless the line is
still disabled. -/
def Paired (irq : Irq) : Prop :=
  ∃ rounds, irq.calls = (List.replicate rounds [Call.disable, Call.enable]).flatten ++
    if irq.depth = 0 then [] else [Call.disable]

structure HandOff (irq : Irq) : Prop where
  requeued : irq.worker = none → irq.handler = false → irq.depth ≠ 0 →
    irq.irqWork = true ∨ irq.delayedWork = true
  paired : Paired irq

/-- The worker still has to decide who gets the line. -/
def undecided : Option Phase → Bool
  | some .fetching => true
  | some (.deciding _) => true
  | _ => false

/-- Those who are to enable the line again. -/
def Irq.holders (irq : Irq) : Nat :=
  irq.handler.toNat + irq.irqWork.toNat + irq.delayedWork.toNat + (undecided irq.worker).toNat

/-- A disabled line has exactly one holder. -/
structure Held (irq : Irq) : Prop where
  holders : irq.depth = irq.holders
  single : irq.depth ≤ 1
  paired : Paired irq

/-- The mailbox is read and cleared. -/
def FetchSafe (irq : Irq) : Event → Prop
  | .fetch _ io => irq.worker = some .fetching → 0 ≤ io.read ∧ 0 ≤ io.clear
  | _ => True

theorem mailbox_ret (io : MailboxIo) (reg : BitVec 16) :
    (mt7697qGetS2mMbx io reg).ret < 0 ↔ ¬ (0 ≤ io.read ∧ 0 ≤ io.clear) := by
  unfold mt7697qGetS2mMbx mt7697ioClrS2mMbx
  by_cases read : io.read < 0
  · simp only [if_pos read]
    omega
  · by_cases quiet : io.clear < 0 ∧ io.arrives = false
    · simp only [if_neg read, if_pos quiet]
      omega
    · simp only [if_neg read, if_neg quiet]
      omega

theorem paired_disable {irq : Irq} (paired : Paired irq) (enabled : irq.depth = 0) :
    Paired (disableIrqNosync irq) := by
  obtain ⟨rounds, calls⟩ := paired
  rw [if_pos enabled, List.append_nil] at calls
  refine ⟨rounds, ?_⟩
  simp [disableIrqNosync, calls]

theorem paired_enable {irq : Irq} (paired : Paired irq) (disabled : irq.depth = 1) :
    Paired (enableIrq irq) := by
  obtain ⟨rounds, calls⟩ := paired
  rw [if_neg (by omega)] at calls
  refine ⟨rounds + 1, ?_⟩
  simp [enableIrq, calls, disabled, List.replicate_succ']

/-- Nothing but the counts and the calls matters. -/
theorem Held.moved {irq after : Irq} (held : Held irq) (depth : after.depth = irq.depth)
    (calls : after.calls = irq.calls) (holders : after.holders = irq.holders) : Held after where
  holders := by rw [depth, holders, held.holders]
  single := depth ▸ held.single
  paired := by
    unfold Paired
    rw [calls, depth]
    exact held.paired

theorem Held.handOff {irq : Irq} (held : Held irq) : HandOff irq where
  requeued free idle disabled := by
    have one := held.holders
    unfold Irq.holders at one
    rw [free, idle] at one
    cases irqWork : irq.irqWork with
    | true => exact Or.inl rfl
    | false =>
        cases delayedWork : irq.delayedWork with
        | true => exact Or.inr rfl
        | false =>
            rw [irqWork, delayedWork] at one
            exact absurd one disabled
  paired := held.paired

theorem served_decided (mbox : BitVec 8) (ch : Nat) (turn : Turn) :
    undecided (served mbox ch turn) = false := by
  unfold served
  split
  · rfl
  · split <;> rfl

/-- The worker hands the line on, to the delayed item or to the slave. -/
theorem requeueOrEnable_held {irq : Irq} {mbox : BitVec 8} (held : Held irq)
    (deciding : irq.worker = some (.deciding mbox)) : Held (requeueOrEnable mbox irq) := by
  obtain ⟨holders, single, paired⟩ := held
  unfold Irq.holders at holders
  rw [deciding] at holders
  simp only [undecided, Bool.toNat_true] at holders
  have free : irq.delayedWork = false := Bool.toNat_eq_zero.mp (by omega)
  have disabled : irq.depth = 1 := by omega
  unfold requeueOrEnable
  by_cases some : mbox ≠ 0
  · simp only [if_pos some]
    refine ⟨?_, single, paired⟩
    rw [free, Bool.toNat_false] at holders
    simp only [Irq.holders, undecided, Bool.toNat_true, Bool.toNat_false]
    omega
  · simp only [if_neg some]
    refine ⟨?_, by simp [enableIrq, disabled], paired_enable paired disabled⟩
    simp only [Irq.holders, enableIrq, undecided, Bool.toNat_false]
    omega

/-- The handler takes an enabled line, which nobody holds. -/
theorem disable_held {irq : Irq} (held : Held irq) (enabled : irq.depth = 0)
    (idle : irq.handler = false) : Held { disableIrqNosync irq with handler := true } := by
  have holders := held.holders
  unfold Irq.holders at holders
  rw [idle, Bool.toNat_false] at holders
  refine ⟨?_, by simp [disableIrqNosync, enabled], paired_disable held.paired enabled⟩
  simp only [disableIrqNosync, Irq.holders, Bool.toNat_true]
  omega

/-- The handler hands the line to the work item, which cannot be pending. -/
theorem queue_held {irq : Irq} (held : Held irq) (running : irq.handler = true) :
    Held { irq with handler := false, irqWork := true } := by
  have holders := held.holders
  have single := held.single
  unfold Irq.holders at holders
  rw [running, Bool.toNat_true] at holders
  have free : irq.irqWork = false := Bool.toNat_eq_zero.mp (by omega)
  refine held.moved rfl rfl ?_
  simp only [Irq.holders, running, free, Bool.toNat_true, Bool.toNat_false]

theorem step_held {irq : Irq} {event : Event} (held : Held irq) (safe : FetchSafe irq event) :
    Held (step irq event) := by
  cases event with
  | isr =>
      by_cases due : irq.depth = 0 ∧ irq.handler = false
      · simpa only [step, if_pos due] using disable_held held due.1 due.2
      · simpa only [step, if_neg due] using held
  | isrQueue =>
      by_cases due : irq.handler = true
      · simpa only [step, if_pos due] using queue_held held due
      · simpa only [step, if_neg due] using held
  | irqWork =>
      by_cases due : irq.irqWork = true ∧ irq.worker = none
      · simp only [step, if_pos due]
        refine held.moved rfl rfl ?_
        simp only [Irq.holders, due.1, due.2, undecided, Bool.toNat_true, Bool.toNat_false]
        omega
      · simpa only [step, if_neg due] using held
  | irqDelayedWork =>
      by_cases due : irq.delayedWork = true ∧ irq.worker = none
      · simp only [step, if_pos due]
        refine held.moved rfl rfl ?_
        simp only [Irq.holders, due.1, due.2, undecided, Bool.toNat_true, Bool.toNat_false]
      · simpa only [step, if_neg due] using held
  | fetch reg io =>
      simp only [step]
      split
      case h_1 fetching =>
        -- The read of the mailbox went through, and so did its clearing.
        have success : ¬ (mt7697qGetS2mMbx io reg).ret < 0 :=
          fun failed => (mailbox_ret io reg).mp failed (safe fetching)
        refine held.moved rfl rfl ?_
        simp only [Irq.holders, fetched, if_neg success, fetching, undecided]
      case h_2 => exact held
  | decide =>
      simp only [step]
      split
      case h_1 mbox deciding => exact requeueOrEnable_held held deciding
      case h_2 => exact held
  | serve turn =>
      simp only [step]
      split
      case h_1 mbox ch serving =>
        refine held.moved rfl rfl ?_
        simp only [Irq.holders, served_decided, serving]
        rfl
      case h_2 => exact held

/-- A run that ends at the mailbox takes the line with it. -/
theorem fetch_deaf {irq : Irq} {reg : BitVec 16} {io : MailboxIo} (held : Held irq)
    (fetching : irq.worker = some .fetching) (failed : ¬ (0 ≤ io.read ∧ 0 ≤ io.clear)) :
    ¬ HandOff (step irq (.fetch reg io)) := by
  obtain ⟨holders, single, _⟩ := held
  unfold Irq.holders at holders
  rw [fetching] at holders
  simp only [undecided, Bool.toNat_true] at holders
  have ended : step irq (.fetch reg io) = { irq with worker := none } := by
    simp only [step, fetching, fetched, if_pos ((mailbox_ret io reg).mpr failed)]
  intro handOff
  have requeued := handOff.requeued
  rw [ended] at requeued
  have idle : irq.handler = false := Bool.toNat_eq_zero.mp (by omega)
  rcases requeued rfl idle (by simp only; omega) with queued | queued
  · simp only at queued
    rw [queued, Bool.toNat_true] at holders
    omega
  · simp only at queued
    rw [queued, Bool.toNat_true] at holders
    omega

theorem handOff_iff {irq : Irq} {event : Event} (held : Held irq) :
    HandOff (step irq event) ↔ FetchSafe irq event := by
  constructor
  · intro handOff
    cases event with
    | fetch reg io =>
        intro fetching
        by_contra failed
        exact fetch_deaf held fetching failed handOff
    | _ => trivial
  · exact fun safe => (step_held held safe).handOff

theorem probed_held : Held probed := ⟨rfl, by decide, 0, rfl⟩

/-- The line is handed on in every state that a run from the probe reaches
exactly when no worker fails at the mailbox. -/
theorem irq_handedOff_iff (events : List Event) :
    Along step (fun irq event => HandOff (step irq event)) probed events ↔
      Along step FetchSafe probed events :=
  @along_iff _ _ step _ FetchSafe Held handOff_iff
    (fun held handOff => step_held held ((handOff_iff held).mp handOff)) events probed probed_held

/-- One interrupt whose mailbox cannot be read. -/
theorem irq_left_disabled :
    ¬ Along step (fun irq event => HandOff (step irq event)) probed
      [.isr, .isrQueue, .irqWork, .fetch 2 ⟨-5, 0, 0, false⟩] := by
  rintro ⟨-, -, -, last, -⟩
  rcases last.requeued rfl rfl (by decide) with queued | queued <;> exact absurd queued (by decide)

end MangOH.Interrupt
