import MangOH.Interrupt

/-!
One run of `mt7697q_irq_run` over the six channels: the bits that it clears in
the S2M mailbox, and the channels that it serves for them. All bits are
cleared before the first channel is served, so a channel that ends the loop
takes the bits of those behind it along. `blocked_writer` is one flag for all
channels.
-/

namespace MangOH.Interrupt

open BitFields Trace

/-- One of `qinfo->queues` during a run: its flags, what its
`mt7697q_proc_data` or `notify_tx_fcn` returns, and whether the latter calls
`mt7697q_unblock_writer`. -/
structure Queue where
  flags : Word
  ret : Int
  unblocks : Bool

structure Pass where
  blockedWriter : Bool
  served : List (Nat × Service)
  ret : Int

def Pass.add (pass : Pass) (ch : Nat) (service : Service) (ret : Int) : Pass :=
  { pass with served := pass.served ++ [(ch, service)], ret := ret }

/-- The body of the loop; the error side is `goto cleanup`. -/
def serveChannel (mbox : BitVec 8) (ch : Nat) (queue : Queue) (pass : Pass) : Except Pass Pass :=
  match service mbox ch queue.flags pass.blockedWriter with
  | .none => .ok pass
  | .procData =>
      if queue.ret < 0 then .error (pass.add ch .procData queue.ret)
      else .ok (pass.add ch .procData queue.ret)
  | .notifyTx =>
      .ok { pass.add ch .notifyTx queue.ret with
        blockedWriter := pass.blockedWriter && !queue.unblocks }

/-- The loop from the channel `ch` on, with `left` channels to go. -/
def serveLoop (mbox : BitVec 8) (queues : Nat → Queue) : Nat → Nat → Pass → Pass
  | 0, _, pass => pass
  | left + 1, ch, pass =>
      match serveChannel mbox ch (queues ch) pass with
      | .ok pass => serveLoop mbox queues left (ch + 1) pass
      | .error pass => pass

structure IrqRun where
  reg : BitVec 16
  pass : Pass

/-- `ret` is lost when a channel is served. -/
def mt7697qIrqRun (io : MailboxIo) (reg : BitVec 16) (blockedWriter : Bool) (queues : Nat → Queue) :
    IrqRun :=
  let mailbox := mt7697qGetS2mMbx io reg
  let pass := ⟨blockedWriter, [], mailbox.ret⟩
  if mailbox.ret < 0 then ⟨mailbox.reg, pass⟩
  else ⟨mailbox.reg, serveLoop mailbox.mbox queues numQueues 0 pass⟩

/-! The three flags that say what a channel is. -/

def InUse (queue : Queue) : Prop := queue.flags.getLsbD 0 = true

def FromSlave (queue : Queue) : Prop := queue.flags.getLsbD 1 = true

/-- The bit behind the direction, which `mt7697q_flags_get_dir` reads too. -/
def Stray (queue : Queue) : Prop := queue.flags.getLsbD 2 = true

instance (queue : Queue) : Decidable (InUse queue) := inferInstanceAs (Decidable (_ = true))
instance (queue : Queue) : Decidable (FromSlave queue) := inferInstanceAs (Decidable (_ = true))
instance (queue : Queue) : Decidable (Stray queue) := inferInstanceAs (Decidable (_ = true))

section
variable (io : MailboxIo) (reg : BitVec 16) (blockedWriter : Bool) (queues : Nat → Queue)

/-- The bit of a channel was set and the run has cleared it. -/
def Cleared (ch : Nat) : Prop :=
  (reg ||| io.late).getLsbD ch = true ∧
    (mt7697qIrqRun io reg blockedWriter queues).reg.getLsbD ch = false

/-- Every channel in use whose bit has been cleared is served: by
`mt7697q_proc_data` when the slave writes it, else, when a writer is blocked,
by `notify_tx_fcn`. -/
def NoneLost : Prop :=
  ∀ ch, ch < numQueues → Cleared io reg blockedWriter queues ch → InUse (queues ch) →
    (FromSlave (queues ch) →
      (ch, .procData) ∈ (mt7697qIrqRun io reg blockedWriter queues).pass.served) ∧
    (¬ FromSlave (queues ch) → blockedWriter = true →
      (ch, .notifyTx) ∈ (mt7697qIrqRun io reg blockedWriter queues).pass.served)

/-- The channel has an event for `mt7697q_proc_data`. -/
def Receives (ch : Nat) : Prop :=
  reg.getLsbD ch = true ∧ FromSlave (queues ch) ∧ ¬ Stray (queues ch)

/-- The channel has an event, and the loop takes it for one that the host
writes. -/
def Sends (ch : Nat) : Prop :=
  reg.getLsbD ch = true ∧ (InUse (queues ch) ∨ FromSlave (queues ch)) ∧
    (FromSlave (queues ch) → Stray (queues ch))

/-- The channel ends the loop. -/
def Stops (ch : Nat) : Prop := Receives reg queues ch ∧ (queues ch).ret < 0

/-- The channel's notification unblocks the writers of all channels. -/
def Unblocks (ch : Nat) : Prop := Sends reg queues ch ∧ (queues ch).unblocks = true

/-- When the mailbox is cleared, the write does not fail, no channel ends the
loop before one that is to be served, none unblocks the writer of a later one,
and no stray bit hides a direction. -/
def PassSafe : Prop :=
  0 ≤ io.read → (0 ≤ io.clear ∨ io.arrives = true) →
    ∀ ch, ch < numQueues → reg.getLsbD ch = true → InUse (queues ch) →
      (FromSlave (queues ch) →
        0 ≤ io.clear ∧ ¬ Stray (queues ch) ∧ ∀ before, before < ch → ¬ Stops reg queues before) ∧
      (¬ FromSlave (queues ch) → blockedWriter = true →
        0 ≤ io.clear ∧ ∀ before, before < ch →
          ¬ Stops reg queues before ∧ ¬ Unblocks reg queues before)

end

/-! The bits of the mailbox and of the flags. -/

theorem getS2mMbox_bit (reg : BitVec 16) {bit : Nat} (low : bit ≤ 6) :
    (mt7697ioGetS2mMbox reg).getLsbD bit = reg.getLsbD bit := by
  rw [mt7697ioGetS2mMbox, BitVec.getLsbD_setWidth, getLsbD_bfGet,
    BitVec.getLsbD_setWidth, Nat.zero_add]
  simp [show bit < 8 by omega, show bit < 32 by omega, low]

theorem setS2mMbox_bit (mbox : BitVec 8) {bit : Nat} (low : bit ≤ 6) :
    (mt7697ioSetS2mMbox mbox).getLsbD bit = mbox.getLsbD bit := by
  rw [mt7697ioSetS2mMbox, BitVec.getLsbD_setWidth, getLsbD_bfDefine,
    BitVec.getLsbD_setWidth]
  simp [show bit < 16 by omega, show bit < 32 by omega, low]

theorem mask_ne_zero (mbox : BitVec 8) {ch : Nat} (low : ch < 8) :
    mbox &&& (1 : BitVec 8) <<< ch ≠ 0 ↔ mbox.getLsbD ch = true := by
  have power : (1 : BitVec 8) <<< ch = BitVec.twoPow 8 ch := rfl
  rw [power, BitVec.and_twoPow]
  have some : BitVec.twoPow 8 ch ≠ 0 := by
    intro zero
    have bit : (BitVec.twoPow 8 ch).getLsbD ch = true := by simp [low]
    rw [zero] at bit
    simp at bit
  split_ifs with set
  · exact iff_of_true some set
  · exact iff_of_false (fun wrong => wrong rfl) set

/-- The field is two bits wide, so the direction alone makes a channel look
used. -/
theorem inUse_iff (queue : Queue) :
    mt7697qFlagsGetInUse queue.flags ≠ 0 ↔ InUse queue ∨ FromSlave queue := by
  rw [Ne, mt7697qFlagsGetInUse, bfGet_bit_iff getLsbD_zero_beyond, InUse, FromSlave]
  constructor
  · intro used
    by_contra neither
    rw [not_or, Bool.not_eq_true, Bool.not_eq_true] at neither
    exact used neither
  · rintro (set | set) ⟨lowest, next⟩
    · rw [set] at lowest
      exact absurd lowest (by decide)
    · rw [set] at next
      exact absurd next (by decide)

theorem dir_iff (queue : Queue) :
    mt7697qFlagsGetDir queue.flags = queueDirS2m ↔ FromSlave queue ∧ ¬ Stray queue := by
  rw [mt7697qFlagsGetDir, queueDirS2m, bfGet_bit_iff getLsbD_one_beyond, FromSlave, Stray,
    Bool.not_eq_true]
  exact Iff.rfl

section
variable {mbox : BitVec 8} {reg : BitVec 16} {queues : Nat → Queue} {ch : Nat}

theorem served_iff (low : ch < 8) (agree : mbox.getLsbD ch = reg.getLsbD ch) (queue : Queue) :
    mt7697qFlagsGetInUse queue.flags ≠ 0 ∧ mbox &&& (1 : BitVec 8) <<< ch ≠ 0 ↔
      (InUse queue ∨ FromSlave queue) ∧ reg.getLsbD ch = true :=
  and_congr (inUse_iff queue) ((mask_ne_zero mbox low).trans (by rw [agree]))

variable (queues) in
theorem service_procData_iff (low : ch < 8) (agree : mbox.getLsbD ch = reg.getLsbD ch)
    (blockedWriter : Bool) :
    service mbox ch (queues ch).flags blockedWriter = .procData ↔ Receives reg queues ch := by
  have seen := served_iff low agree (queues ch)
  have source := dir_iff (queues ch)
  unfold service Receives
  split_ifs with used dir blocked
  · exact iff_of_true rfl ⟨(seen.mp used).2, source.mp dir⟩
  · exact iff_of_false (by simp) fun receives => dir (source.mpr receives.2)
  · exact iff_of_false (by simp) fun receives => dir (source.mpr receives.2)
  · exact iff_of_false (by simp) fun receives =>
      used (seen.mpr ⟨Or.inr receives.2.1, receives.1⟩)

variable (queues) in
theorem service_notifyTx_iff (low : ch < 8) (agree : mbox.getLsbD ch = reg.getLsbD ch)
    (blockedWriter : Bool) :
    service mbox ch (queues ch).flags blockedWriter = .notifyTx ↔
      Sends reg queues ch ∧ blockedWriter = true := by
  have seen := served_iff low agree (queues ch)
  have source := dir_iff (queues ch)
  unfold service Sends
  split_ifs with used dir blocked
  · exact iff_of_false (by simp) fun sends => (source.mp dir).2 (sends.1.2.2 (source.mp dir).1)
  · obtain ⟨some, set⟩ := seen.mp used
    refine iff_of_true rfl ⟨⟨set, some, fun fromSlave => ?_⟩, blocked⟩
    by_contra clear
    exact dir (source.mpr ⟨fromSlave, clear⟩)
  · exact iff_of_false (by simp) fun sends => blocked sends.2
  · exact iff_of_false (by simp) fun sends => used (seen.mpr ⟨sends.1.2.1, sends.1.1⟩)

theorem Receives.not_sends (receives : Receives reg queues ch) : ¬ Sends reg queues ch :=
  fun sends => receives.2.2 (sends.2.2 receives.2.1)

/-- What the body does: nothing, or one of the two calls. -/
theorem serveChannel_cases (low : ch < 8) (agree : mbox.getLsbD ch = reg.getLsbD ch) (pass : Pass) :
    (¬ Receives reg queues ch ∧ ¬ (Sends reg queues ch ∧ pass.blockedWriter = true) ∧
        serveChannel mbox ch (queues ch) pass = .ok pass) ∨
      (Receives reg queues ch ∧ (queues ch).ret < 0 ∧ serveChannel mbox ch (queues ch) pass =
        .error (pass.add ch .procData (queues ch).ret)) ∨
      (Receives reg queues ch ∧ ¬ (queues ch).ret < 0 ∧ serveChannel mbox ch (queues ch) pass =
        .ok (pass.add ch .procData (queues ch).ret)) ∨
      (Sends reg queues ch ∧ pass.blockedWriter = true ∧ serveChannel mbox ch (queues ch) pass =
        .ok { pass.add ch .notifyTx (queues ch).ret with
          blockedWriter := pass.blockedWriter && !(queues ch).unblocks }) := by
  have procData := service_procData_iff queues low agree pass.blockedWriter
  have notifyTx := service_notifyTx_iff queues low agree pass.blockedWriter
  unfold serveChannel
  cases called : service mbox ch (queues ch).flags pass.blockedWriter with
  | none =>
      rw [called] at procData notifyTx
      exact Or.inl ⟨fun receives => by simpa using procData.mpr receives,
        fun sends => by simpa using notifyTx.mpr sends, rfl⟩
  | procData =>
      have receives := procData.mp called
      by_cases failed : (queues ch).ret < 0
      · exact Or.inr (Or.inl ⟨receives, failed, by simp only [if_pos failed]⟩)
      · exact Or.inr (Or.inr (Or.inl ⟨receives, failed, by simp only [if_neg failed]⟩))
  | notifyTx =>
      obtain ⟨sends, blocked⟩ := notifyTx.mp called
      exact Or.inr (Or.inr (Or.inr ⟨sends, blocked, rfl⟩))

end

/-! The channels that the loop reaches. -/

/-- The loop serves `target` when nothing from `ch` on keeps it from there. -/
def Reached (wanted good : Nat → Prop) (ch target : Nat) : Prop :=
  ch ≤ target ∧ target < numQueues ∧ wanted target ∧
    ∀ before, ch ≤ before → before < target → good before

theorem not_reached (wanted good : Nat → Prop) (target : Nat) :
    ¬ Reached wanted good numQueues target :=
  fun reached => absurd reached.1 (Nat.not_le_of_lt reached.2.1)

theorem reached_step {wanted good : Nat → Prop} {ch target : Nat} (more : ch < numQueues) :
    Reached wanted good ch target ↔
      (target = ch ∧ wanted ch) ∨ (good ch ∧ Reached wanted good (ch + 1) target) := by
  constructor
  · rintro ⟨up, low, want, free⟩
    rcases Nat.eq_or_lt_of_le up with rfl | later
    · exact Or.inl ⟨rfl, want⟩
    · exact Or.inr ⟨free ch (Nat.le_refl ch) later, later, low, want,
        fun before past => free before (Nat.le_of_succ_le past)⟩
  · rintro (⟨rfl, want⟩ | ⟨here, up, low, want, free⟩)
    · exact ⟨Nat.le_refl _, more, want, fun before past short => absurd past (Nat.not_le_of_lt short)⟩
    · refine ⟨Nat.le_of_succ_le up, low, want, fun before past short => ?_⟩
      rcases Nat.eq_or_lt_of_le past with rfl | later
      · exact here
      · exact free before later short

section
variable {mbox : BitVec 8} {reg : BitVec 16} {queues : Nat → Queue} {target : Nat}
variable (agree : ∀ ch, ch < numQueues → mbox.getLsbD ch = reg.getLsbD ch)
include agree

theorem serveLoop_receives {left ch : Nat} {pass : Pass} (all : ch + left = numQueues) :
    (target, Service.procData) ∈ (serveLoop mbox queues left ch pass).served ↔
      (target, Service.procData) ∈ pass.served ∨
        Reached (Receives reg queues) (fun before => ¬ Stops reg queues before) ch target := by
  induction left generalizing ch pass with
  | zero =>
      obtain rfl : ch = numQueues := all
      simp [serveLoop, not_reached]
  | succ left ih =>
      have more : ch < numQueues := by omega
      have low : ch < 8 := Nat.lt_trans more (by decide)
      have rest : ch + 1 + left = numQueues := by omega
      rw [reached_step more, serveLoop]
      -- Nothing is called, or the data call fails, or it goes through, or the writer is told.
      rcases serveChannel_cases low (agree ch more) pass with
        ⟨quiet, -, result⟩ | ⟨receives, failed, result⟩ | ⟨receives, fine, result⟩ |
        ⟨sends, -, result⟩
      · rw [result]
        simp [ih rest, quiet, Stops]
      · rw [result]
        simp [Pass.add, receives, failed, Stops]
      · rw [result]
        simp [ih rest, Pass.add, receives, fine, Stops, or_assoc]
      · rw [result]
        have other : ¬ Receives reg queues ch := fun receives => receives.not_sends sends
        simp [ih rest, Pass.add, other, Stops]

theorem serveLoop_sends {left ch : Nat} {pass : Pass} (all : ch + left = numQueues) :
    (target, Service.notifyTx) ∈ (serveLoop mbox queues left ch pass).served ↔
      (target, Service.notifyTx) ∈ pass.served ∨
        (pass.blockedWriter = true ∧ Reached (Sends reg queues)
          (fun before => ¬ Stops reg queues before ∧ ¬ Unblocks reg queues before) ch target) := by
  induction left generalizing ch pass with
  | zero =>
      obtain rfl : ch = numQueues := all
      simp [serveLoop, not_reached]
  | succ left ih =>
      have more : ch < numQueues := by omega
      have low : ch < 8 := Nat.lt_trans more (by decide)
      have rest : ch + 1 + left = numQueues := by omega
      rw [reached_step more, serveLoop]
      -- A blocked writer is told once: the flag is gone for the channels that follow.
      rcases serveChannel_cases low (agree ch more) pass with
        ⟨quiet, unsent, result⟩ | ⟨receives, failed, result⟩ | ⟨receives, fine, result⟩ |
        ⟨sends, blocked, result⟩
      · rw [result]
        cases blocked : pass.blockedWriter with
        | false => simp [ih rest, blocked]
        | true =>
            have silent : ¬ Sends reg queues ch := fun sends => unsent ⟨sends, blocked⟩
            simp [ih rest, blocked, quiet, silent, Stops, Unblocks]
      · rw [result]
        simp [Pass.add, receives, failed, receives.not_sends, Stops]
      · rw [result]
        simp [ih rest, Pass.add, fine, receives.not_sends, Stops, Unblocks]
      · rw [result]
        have other : ¬ Receives reg queues ch := fun receives => receives.not_sends sends
        simp [ih rest, Pass.add, other, sends, blocked, Stops, Unblocks, or_assoc]

end

section
variable (io : MailboxIo) (reg : BitVec 16) (blockedWriter : Bool) (queues : Nat → Queue)

theorem run_failed (failed : ¬ (0 ≤ io.read ∧ 0 ≤ io.clear)) :
    (mt7697qIrqRun io reg blockedWriter queues).pass.served = [] := by
  rw [mt7697qIrqRun, if_pos ((mailbox_ret io reg).mpr failed)]

theorem run_read (read : 0 ≤ io.read) (clear : 0 ≤ io.clear) :
    (mt7697qIrqRun io reg blockedWriter queues).pass =
      serveLoop (mt7697ioGetS2mMbox reg) queues numQueues 0 ⟨blockedWriter, [], io.clear⟩ := by
  have success : ¬ (mt7697qGetS2mMbx io reg).ret < 0 :=
    fun failed => (mailbox_ret io reg).mp failed ⟨read, clear⟩
  have quiet : ¬ (io.clear < 0 ∧ io.arrives = false) := fun failed => by omega
  rw [mt7697qIrqRun, if_neg success]
  simp only [mt7697qGetS2mMbx, mt7697ioClrS2mMbx, if_neg (Int.not_lt.mpr read), if_neg quiet]

theorem run_reg : (mt7697qIrqRun io reg blockedWriter queues).reg = (mt7697qGetS2mMbx io reg).reg := by
  by_cases failed : (mt7697qGetS2mMbx io reg).ret < 0
  · rw [mt7697qIrqRun, if_pos failed]
  · rw [mt7697qIrqRun, if_neg failed]

theorem getS2mMbox_agree (ch : Nat) (low : ch < numQueues) :
    (mt7697ioGetS2mMbox reg).getLsbD ch = reg.getLsbD ch :=
  getS2mMbox_bit reg (Nat.le_of_lt (Nat.lt_of_lt_of_le low (by decide)))

/-- The bits that are read are the ones that a write clears. -/
theorem cleared_iff {ch : Nat} (low : ch < numQueues) :
    Cleared io reg blockedWriter queues ch ↔
      0 ≤ io.read ∧ (0 ≤ io.clear ∨ io.arrives = true) ∧ reg.getLsbD ch = true := by
  have bound : ch ≤ 6 := Nat.le_of_lt (Nat.lt_of_lt_of_le low (by decide))
  have small : ch < 16 := by omega
  unfold Cleared
  rw [run_reg, mt7697qGetS2mMbx]
  by_cases read : io.read < 0
  · rw [if_pos read]
    refine iff_of_false (fun both => ?_) fun all => absurd all.1 (Int.not_le.mpr read)
    rw [both.1] at both
    exact absurd both.2 (by decide)
  · rw [if_neg read, mt7697ioClrS2mMbx]
    -- The write did not arrive, and the bits are there for the next pass.
    by_cases quiet : io.clear < 0 ∧ io.arrives = false
    · simp only [if_pos quiet]
      refine iff_of_false (fun both => ?_) fun all => ?_
      · rw [both.1] at both
        exact absurd both.2 (by decide)
      · rcases all.2.1 with fine | arrived
        · exact absurd quiet.1 (Int.not_lt.mpr fine)
        · rw [quiet.2] at arrived
          exact absurd arrived (by decide)
    · have written : 0 ≤ io.clear ∨ io.arrives = true := by
        by_cases failed : io.clear < 0
        · exact Or.inr (Bool.eq_true_of_not_eq_false fun off => quiet ⟨failed, off⟩)
        · exact Or.inl (Int.not_lt.mp failed)
      have mask := (setS2mMbox_bit (mt7697ioGetS2mMbox reg) bound).trans (getS2mMbox_bit reg bound)
      simp only [if_neg quiet, BitVec.getLsbD_and, BitVec.getLsbD_or, BitVec.getLsbD_not, small,
        decide_true, Bool.true_and, mask, Int.not_lt.mp read, written, true_and]
      cases reg.getLsbD ch <;> simp

theorem procData_mem_iff {ch : Nat} (low : ch < numQueues) :
    (ch, Service.procData) ∈ (mt7697qIrqRun io reg blockedWriter queues).pass.served ↔
      (0 ≤ io.read ∧ 0 ≤ io.clear) ∧ Receives reg queues ch ∧
        ∀ before, before < ch → ¬ Stops reg queues before := by
  by_cases fetched : 0 ≤ io.read ∧ 0 ≤ io.clear
  · rw [run_read io reg blockedWriter queues fetched.1 fetched.2,
      serveLoop_receives (getS2mMbox_agree reg) (Nat.zero_add _)]
    simp [Reached, fetched, low]
  · rw [run_failed io reg blockedWriter queues fetched]
    simp [fetched]

theorem notifyTx_mem_iff {ch : Nat} (low : ch < numQueues) :
    (ch, Service.notifyTx) ∈ (mt7697qIrqRun io reg blockedWriter queues).pass.served ↔
      (0 ≤ io.read ∧ 0 ≤ io.clear) ∧ blockedWriter = true ∧ Sends reg queues ch ∧
        ∀ before, before < ch → ¬ Stops reg queues before ∧ ¬ Unblocks reg queues before := by
  by_cases fetched : 0 ≤ io.read ∧ 0 ≤ io.clear
  · rw [run_read io reg blockedWriter queues fetched.1 fetched.2,
      serveLoop_sends (getS2mMbox_agree reg) (Nat.zero_add _)]
    simp [Reached, fetched, low]
  · rw [run_failed io reg blockedWriter queues fetched]
    simp [fetched]

/-- No cleared bit is lost exactly when the mailbox write does not fail halfway,
no earlier channel stops the loop or takes the blocked flag, and no direction is
misread. -/
theorem mailbox_noneLost_iff :
    NoneLost io reg blockedWriter queues ↔ PassSafe io reg blockedWriter queues := by
  constructor
  · intro kept read written ch low set used
    have cleared := (cleared_iff io reg blockedWriter queues low).mpr ⟨read, written, set⟩
    obtain ⟨receive, send⟩ := kept ch low cleared used
    constructor
    · intro fromSlave
      obtain ⟨fetched, receives, free⟩ :=
        (procData_mem_iff io reg blockedWriter queues low).mp (receive fromSlave)
      exact ⟨fetched.2, receives.2.2, free⟩
    · intro toSlave blocked
      obtain ⟨fetched, -, -, free⟩ :=
        (notifyTx_mem_iff io reg blockedWriter queues low).mp (send toSlave blocked)
      exact ⟨fetched.2, free⟩
  · intro safe ch low cleared used
    obtain ⟨read, written, set⟩ := (cleared_iff io reg blockedWriter queues low).mp cleared
    obtain ⟨receive, send⟩ := safe read written ch low set used
    constructor
    · intro fromSlave
      obtain ⟨clear, straight, free⟩ := receive fromSlave
      exact (procData_mem_iff io reg blockedWriter queues low).mpr
        ⟨⟨read, clear⟩, ⟨set, fromSlave, straight⟩, free⟩
    · intro toSlave blocked
      obtain ⟨clear, free⟩ := send toSlave blocked
      exact (notifyTx_mem_iff io reg blockedWriter queues low).mpr
        ⟨⟨read, clear⟩, blocked, ⟨set, Or.inl used, fun fromSlave => absurd fromSlave toSlave⟩, free⟩

end

/-! The run as steps of the interrupt path. -/

/-- What the loop meets from the channel `ch` on, until it ends. -/
def turns (mbox : BitVec 8) (queues : Nat → Queue) : Nat → Nat → Pass → List Turn
  | 0, _, _ => []
  | left + 1, ch, pass =>
      ⟨(queues ch).flags, pass.blockedWriter, (queues ch).ret⟩ ::
        match serveChannel mbox ch (queues ch) pass with
        | .ok pass => turns mbox queues left (ch + 1) pass
        | .error _ => []

theorem serve_step {irq : Irq} {mbox : BitVec 8} {ch : Nat} (serving : irq.worker = some (.serving mbox ch))
    (queue : Queue) (pass : Pass) :
    step irq (.serve ⟨queue.flags, pass.blockedWriter, queue.ret⟩) =
      { irq with worker :=
          match serveChannel mbox ch queue pass with
          | .ok _ => if ch + 1 < numQueues then some (.serving mbox (ch + 1)) else none
          | .error _ => none } := by
  simp only [step, serving, served, serveChannel]
  cases service mbox ch queue.flags pass.blockedWriter with
  | none => simp
  | procData => by_cases failed : queue.ret < 0 <;> simp [failed]
  | notifyTx => simp

/-- The steps of a worker in its loop are those of `serveLoop`, and end it. -/
theorem serves_end (mbox : BitVec 8) (queues : Nat → Queue) {left ch : Nat} {irq : Irq} {pass : Pass}
    (serving : irq.worker = some (.serving mbox ch)) (all : ch + (left + 1) = numQueues) :
    run step irq ((turns mbox queues (left + 1) ch pass).map .serve) = { irq with worker := none } := by
  induction left generalizing ch irq pass with
  | zero =>
      have last : ¬ ch + 1 < numQueues := by omega
      rw [turns, List.map_cons, run, List.foldl_cons, serve_step serving]
      cases serveChannel mbox ch (queues ch) pass <;> simp [turns, last]
  | succ left ih =>
      have more : ch + 1 < numQueues := by omega
      rw [turns, List.map_cons, run, List.foldl_cons, serve_step serving]
      cases serveChannel mbox ch (queues ch) pass with
      | error after => rfl
      | ok after =>
          simp only [if_pos more]
          exact ih rfl (by omega)

/-- A run of `mt7697q_irq_run` hands the line on and leaves the worker free. -/
theorem irqRun_steps {irq : Irq} {io : MailboxIo} {reg : BitVec 16} (blockedWriter : Bool)
    (queues : Nat → Queue) (fetching : irq.worker = some .fetching)
    (success : ¬ (mt7697qGetS2mMbx io reg).ret < 0) :
    run step irq (.fetch reg io :: .decide :: (turns (mt7697qGetS2mMbx io reg).mbox queues numQueues 0
        ⟨blockedWriter, [], (mt7697qGetS2mMbx io reg).ret⟩).map .serve) =
      { requeueOrEnable (mt7697qGetS2mMbx io reg).mbox irq with worker := none } := by
  have fetch : step irq (.fetch reg io) =
      { irq with worker := some (.deciding (mt7697qGetS2mMbx io reg).mbox) } := by
    simp only [step, fetching, fetched, if_neg success]
  have decided : step { irq with worker := some (.deciding (mt7697qGetS2mMbx io reg).mbox) } .decide =
      requeueOrEnable (mt7697qGetS2mMbx io reg).mbox irq := rfl
  rw [run, List.foldl_cons, List.foldl_cons, fetch, decided]
  apply serves_end
  · unfold requeueOrEnable
    split_ifs <;> rfl
  · rfl

/-- The channels 1 and 3 are written by the slave; `mt7697q_proc_data` fails on
the first. -/
theorem failed_channel_hides_next :
    ¬ NoneLost ⟨0, 0, 0, false⟩ 10 false
      (fun ch => if ch % 2 = 1 then ⟨3, -5, false⟩ else ⟨0, 0, false⟩) := by
  intro kept
  have lost := (kept 3 (by decide) ⟨by decide, by decide⟩ (by decide)).1 (by decide)
  exact absurd lost (by decide)

end MangOH.Interrupt
