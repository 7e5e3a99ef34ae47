import MangOH.MailboxPass
import MangOH.QueueWrite
import MangOH.TransmitPool

/-!
The wake-up of a transmit queue that was full: the work that sends, step by
step through `mt7697q_write`; the slave that makes room, publishes its offset
and then sets the queue's mailbox bit; and the runs of `mt7697q_irq_run` that
fetch the bit, test the blocked flag and notify. The interrupt may come at any
time here, and all transfers succeed. The blocked flag is the one of `tx`.
-/

namespace MangOH.TransmitWakeup

open BitFields QueueMemory QueueWrite Interrupt Trace

/-- Where `mt7697q_write` is. It holds the mutex until it has returned. -/
inductive Write where
  | none
  | short (num : Nat)
  | pulled (num : Nat)
  | roomy (num : Nat)
  | returned (ret : Int)
  deriving DecidableEq

def Write.locked : Write → Bool
  | .none => false
  | .returned _ => false
  | _ => true

/-- Where `mt7697q_irq_run` is on its way to `notify_tx_fcn`. -/
inductive IrqPass where
  | idle
  | fetched (bit : Bool)
  | notifying
  deriving DecidableEq

/-- `request` is the size of the last write that set the blocked flag. The
slave has published an offset and not set the bit yet while it is `announcing`. -/
structure Sys where
  tx : Transmit.Cfg
  qs : QueueSpec
  write : Write
  request : Nat
  announcing : Bool
  bit : Bool
  pass : IrqPass

/-- The packet that the work has come to, in words of its request. -/
def visited (tx : Transmit.Cfg) : Option Nat :=
  match tx.worker with
  | .visit slot _ => (tx.pool slot).map fun skb => Transmit.rawPacketWords skb.data.length
  | _ => none

/-- `mt7697q_init` marks the host's copy of the flags. -/
def inUseFlags (qs : QueueSpec) : Word := qs.data.flags ||| bfDefine 1 0 1

/-- The bit of the queue alone, when it was set. -/
def mailbox (bit : Bool) (ch : Nat) : BitVec 8 := if bit = true then BitVec.twoPow 8 ch else 0

inductive Event where
  | dataTx (skb : Transmit.Skb) (copy : Option Nat)
  | workBegin
  | writeTest
  | writePull
  | writeRefuse
  | writeStore (buff : List Word)
  | workPacket
  | workAdvance
  | slaveConsume (count : Nat)
  | slaveAnnounce
  | passFetch
  | passTest
  | passNotify (large : Bool)

def writeTest (sys : Sys) : Sys :=
  match sys.write, visited sys.tx with
  | .none, some num =>
      { sys with write := if mt7697qGetFreeWords sys.qs < num then .short num else .roomy num }
  | _, _ => sys

def writePull (sys : Sys) : Sys :=
  match sys.write with
  | .short num => { sys with qs := (mt7697qPullRdPtr sys.qs).1, write := .pulled num }
  | _ => sys

/-- The room is not counted again after the pull. -/
def writeRefuse (sys : Sys) : Sys :=
  match sys.write with
  | .pulled num =>
      { sys with
        tx := { sys.tx with blockedWriter := true }
        write := .returned (-eagain)
        request := num }
  | _ => sys

/-- The slave does not look at the new words before it has their offset, so
they are stored in one step. -/
def writeStore (buff : List Word) (sys : Sys) : Sys :=
  match sys.write with
  | .roomy num =>
      if buff.length = num then
        { sys with
          qs := (writeWords sys.qs buff).1
          write := .returned (writeWords sys.qs buff).2 }
      else sys
  | _ => sys

/-- The flag has been set inside the write. -/
def workPacket (sys : Sys) : Sys :=
  match sys.write with
  | .returned ret =>
      { sys with
        tx := { Transmit.step sys.tx (.workPacket ret) with blockedWriter := sys.tx.blockedWriter }
        write := .none }
  | _ => sys

def slaveStep (count : Nat) (sys : Sys) : Sys :=
  if sys.announcing = false ∧ count ≤ (slaveUnread sys.qs).length then
    { sys with qs := slaveConsume sys.qs count, announcing := true }
  else sys

def passFetch (sys : Sys) : Sys :=
  if sys.pass = .idle ∧ sys.write.locked = false then
    { sys with pass := .fetched sys.bit, bit := false }
  else sys

def passTest (sys : Sys) : Sys :=
  match sys.pass with
  | .fetched bit =>
      { sys with pass :=
          if service (mailbox bit sys.qs.ch) sys.qs.ch (inUseFlags sys.qs) sys.tx.blockedWriter =
            .notifyTx then .notifying
          else .idle }
  | _ => sys

def passNotify (large : Bool) (sys : Sys) : Sys :=
  match sys.pass with
  | .notifying => { sys with tx := Transmit.step sys.tx (.notifyTx large), pass := .idle }
  | _ => sys

def step (sys : Sys) : Event → Sys
  | .dataTx skb copy => { sys with tx := Transmit.step sys.tx (.dataTx skb copy) }
  | .workBegin => { sys with tx := Transmit.step sys.tx .workBegin }
  | .writeTest => writeTest sys
  | .writePull => writePull sys
  | .writeRefuse => writeRefuse sys
  | .writeStore buff => writeStore buff sys
  | .workPacket => workPacket sys
  | .workAdvance => { sys with tx := Transmit.step sys.tx .workAdvance }
  | .slaveConsume count => slaveStep count sys
  | .slaveAnnounce =>
      if sys.announcing = true then { sys with announcing := false, bit := true } else sys
  | .passFetch => passFetch sys
  | .passTest => passTest sys
  | .passNotify large => passNotify large sys

/-- A queue that has been opened, with nothing sent yet. -/
def opened (qs : QueueSpec) (neededHeadroom : Nat) : Sys :=
  ⟨Transmit.probed neededHeadroom, qs, .none, 0, false, false, .idle⟩

/-- The room that the host finds when it reads the slave's offset now. -/
def publishedFree (qs : QueueSpec) : Nat := mt7697qGetFreeWords (mt7697qPullRdPtr qs).1

/-- Nothing runs, is queued or is announced. -/
structure Quiet (sys : Sys) : Prop where
  worker : sys.tx.worker = .idle
  queued : sys.tx.queued = false
  announcing : sys.announcing = false
  bit : sys.bit = false
  pass : sys.pass = .idle

/-- In a quiet state neither the first packet of the list nor the request that
was refused last fits in the room that the slave has published. -/
structure Woken (sys : Sys) : Prop where
  pending : Quiet sys → ∀ slot skb, sys.tx.list.head? = some slot → sys.tx.pool slot = some skb →
    publishedFree sys.qs < Transmit.rawPacketWords skb.data.length
  blocked : Quiet sys → sys.tx.blockedWriter = true → publishedFree sys.qs < sys.request

/-- A write is refused only while its words do not fit, and a notification
that finds room for them finds a packet on the list and lets the work go on. -/
def WakeSafe (sys : Sys) : Event → Prop
  | .writeRefuse => ∀ num, sys.write = .pulled num → publishedFree sys.qs < num
  | .passNotify large => sys.pass = .notifying → sys.tx.blockedWriter = true →
      sys.request ≤ publishedFree sys.qs → sys.tx.list ≠ [] ∧ large = true
  | _ => True

/-- Someone will still look at the blocked flag. -/
def Watched (sys : Sys) : Prop :=
  sys.announcing = true ∨ sys.bit = true ∨ sys.pass = .fetched true ∨ sys.pass = .notifying

/-- A ring without words, which the slave may announce, takes no write. -/
structure Attended (sys : Sys) : Prop where
  sound : Transmit.Sound sys.tx
  quiet : sys.qs.slave.faults = []
  writer : 0 < sys.qs.data.numWords → Writer sys.qs (slaveUnread sys.qs)
  channel : sys.qs.ch < numQueues
  toSlave : mt7697qFlagsGetDir (inUseFlags sys.qs) ≠ queueDirS2m
  roomy : ∀ num, sys.write = .roomy num → num ≤ mt7697qGetFreeWords sys.qs
  wake : sys.tx.blockedWriter = true → publishedFree sys.qs < sys.request ∨ Watched sys

theorem publishedFree_quiet {qs : QueueSpec} (quiet : qs.slave.faults = []) :
    publishedFree qs = mt7697qGetFreeWords
      { qs with data := { qs.data with rdOffset := qs.slave.entry.rdOffset } } := by
  rw [publishedFree, mt7697qPullRdPtr_quiet quiet]

theorem publishedFree_eq {qs : QueueSpec} {unread : List Word} (writer : Writer qs unread) :
    publishedFree qs = qs.data.numWords - 1 - unread.length := by
  obtain ⟨pulled, kept⟩ := mt7697qPullRdPtr_writer writer
  rw [publishedFree, pulled, kept.free, kept.ring.length_eq]
  rfl

/-! Without faults the chunks of a write change nothing but the memory. -/

section
variable {qs : QueueSpec} (quiet : qs.slave.faults = [])
include quiet

theorem writeChunk_quiet (writeOffset words : Nat) (buff : List Word) :
    ∃ memory offset rest,
      writeChunk qs writeOffset words buff = (qs.withMemory memory, 0, offset, rest) := by
  simp [writeChunk, mt7697ioWr, Slave.transfer, quiet, QueueSpec.withMemory]

theorem writeToEnd_quiet (readOffset writeOffset : Nat) (buff : List Word) :
    ∃ memory offset rest,
      writeToEnd qs readOffset writeOffset buff = (qs.withMemory memory, 0, offset, rest) := by
  unfold writeToEnd
  by_cases ahead : readOffset ≤ writeOffset
  · have chunk := writeChunk_quiet quiet writeOffset
      (if readOffset = 0 then sub32 (sub32 qs.data.numWords writeOffset) 1
        else sub32 qs.data.numWords writeOffset) buff
    obtain ⟨memory, offset, rest, result⟩ := chunk
    simp only [if_pos ahead, result]
    exact ⟨memory, _, rest, rfl⟩
  · rw [if_neg ahead]
    exact ⟨qs.slave.memory, writeOffset, buff, rfl⟩

theorem writeBelow_quiet (readOffset writeOffset : Nat) (buff : List Word) :
    ∃ memory offset rest,
      writeBelow qs readOffset writeOffset buff = (qs.withMemory memory, 0, offset, rest) := by
  unfold writeBelow
  split_ifs
  · exact writeChunk_quiet quiet writeOffset _ buff
  · exact ⟨qs.slave.memory, writeOffset, buff, rfl⟩

/-- No offset is inside a ring without words. -/
theorem writeWords_empty (empty : qs.data.numWords = 0) (buff : List Word) :
    ∃ memory, writeWords qs buff = (qs.withMemory memory, -einval) := by
  obtain ⟨memory, offset, left, stored⟩ :=
    writeToEnd_quiet quiet qs.data.rdOffset.toNat qs.data.wrOffset.toNat buff
  have still : (qs.withMemory memory).slave.faults = [] := quiet
  obtain ⟨after, place, rest, below⟩ := writeBelow_quiet still qs.data.rdOffset.toNat offset left
  refine ⟨after, ?_⟩
  simp [writeWords, stored, below, empty]

end

/-- A fetched bit with a blocked writer leads to a notification. -/
theorem service_notifies {qs : QueueSpec} {blockedWriter : Bool} (channel : qs.ch < numQueues)
    (toSlave : mt7697qFlagsGetDir (inUseFlags qs) ≠ queueDirS2m) (blocked : blockedWriter = true) :
    service (mailbox true qs.ch) qs.ch (inUseFlags qs) blockedWriter = .notifyTx := by
  have low : qs.ch < 8 := Nat.lt_trans channel (by decide)
  have used : mt7697qFlagsGetInUse (inUseFlags qs) ≠ 0 := by
    apply (inUse_iff ⟨inUseFlags qs, 0, false⟩).mpr
    apply Or.inl
    have lowest : (bfDefine 1 0 1).getLsbD 0 = true := by decide
    simp only [InUse, inUseFlags, BitVec.getLsbD_or, lowest, Bool.or_true]
  have set : mailbox true qs.ch &&& (1 : BitVec 8) <<< qs.ch ≠ 0 := by
    apply (mask_ne_zero _ low).mpr
    simp [mailbox, low]
  rw [service, if_pos ⟨used, set⟩, if_neg toSlave, if_pos blocked]

/-- Only a notification clears the flag, and only a write sets it. -/
theorem flag_kept {tx after : Transmit.Cfg} {event : Transmit.Event}
    (effect : Transmit.Effect tx event after) (silent : ∀ large, event ≠ .notifyTx large)
    (unsent : ∀ ret, event ≠ .workPacket ret) : after.blockedWriter = tx.blockedWriter := by
  cases effect with
  | wait _ => rfl
  | drop _ => rfl
  | busy ensured _ =>
      obtain ⟨freed, copies, rfl⟩ := Transmit.ensured_frame ensured
      rfl
  | queue ensured _ =>
      obtain ⟨freed, copies, rfl⟩ := Transmit.ensured_frame ensured
      rfl
  | notify => exact absurd rfl (silent _)
  | begin _ => cases tx.list.head? <;> rfl
  | packet _ _ _ _ => exact absurd rfl (unsent _)
  | @advance next _ _ => cases next <;> rfl
  | stop _ => rfl

/-- The work or the write moves on, with the queue and the flag as they were. -/
theorem Attended.moved {sys : Sys} {tx : Transmit.Cfg} {write : Write} (attended : Attended sys)
    (sound : Transmit.Sound tx) (flag : tx.blockedWriter = sys.tx.blockedWriter)
    (room : ∀ num, write = .roomy num → num ≤ mt7697qGetFreeWords sys.qs) :
    Attended { sys with tx := tx, write := write } where
  sound := sound
  quiet := attended.quiet
  writer := attended.writer
  channel := attended.channel
  toSlave := attended.toSlave
  roomy := room
  wake blocked := attended.wake (flag.symm.trans blocked)

/-- A step of the work or of the stack that leaves the flag alone. -/
theorem Attended.txStep {sys : Sys} {event : Transmit.Event} (attended : Attended sys)
    (stops : Transmit.StopsEmpty sys.tx event) (silent : ∀ large, event ≠ .notifyTx large)
    (unsent : ∀ ret, event ≠ .workPacket ret) :
    Attended { sys with tx := Transmit.step sys.tx event } :=
  attended.moved (Transmit.step_sound attended.sound stops)
    (flag_kept (Transmit.step_effect attended.sound event) silent unsent) attended.roomy

/-- The host's queue moves on without more room than the slave has published. -/
theorem Attended.queueStep {sys : Sys} {qs : QueueSpec} {write : Write} (attended : Attended sys)
    (quiet : qs.slave.faults = []) (writer : 0 < qs.data.numWords → Writer qs (slaveUnread qs))
    (channel : qs.ch = sys.qs.ch) (flags : qs.data.flags = sys.qs.data.flags)
    (less : publishedFree qs ≤ publishedFree sys.qs) (room : ∀ num, write ≠ .roomy num) :
    Attended { sys with qs := qs, write := write } where
  sound := attended.sound
  quiet := quiet
  writer := writer
  channel := channel ▸ attended.channel
  toSlave := by
    simp only [inUseFlags, flags]
    exact attended.toSlave
  roomy num running := absurd running (room num)
  wake blocked := (attended.wake blocked).imp_left (Nat.lt_of_le_of_lt less)

theorem writeTest_attended {sys : Sys} (attended : Attended sys) : Attended (writeTest sys) := by
  unfold writeTest
  split
  case h_1 num _ _ =>
    refine attended.moved attended.sound rfl ?_
    intro words running
    split_ifs at running with short
    cases running
    exact Nat.le_of_not_lt short
  case h_2 => exact attended

theorem writePull_attended {sys : Sys} (attended : Attended sys) : Attended (writePull sys) := by
  unfold writePull
  split
  case h_1 num _ =>
    rw [mt7697qPullRdPtr_quiet attended.quiet]
    have same := publishedFree_quiet attended.quiet
    refine attended.queueStep attended.quiet ?_ rfl rfl ?_ fun _ => by simp
    · exact fun size => (mt7697qPullRdPtr_writer (attended.writer size)).2
    · rw [same, publishedFree_quiet]
      exact attended.quiet
  case h_2 => exact attended

/-- The flag is set over a request that does not fit. -/
theorem writeRefuse_attended {sys : Sys} (attended : Attended sys)
    (safe : WakeSafe sys .writeRefuse) : Attended (writeRefuse sys) := by
  unfold writeRefuse
  split
  case h_1 num running =>
    exact
      { sound := ⟨attended.sound.ring, attended.sound.working⟩
        quiet := attended.quiet
        writer := attended.writer
        channel := attended.channel
        toSlave := attended.toSlave
        roomy := fun _ other => by simp at other
        wake := fun _ => Or.inl (safe num running) }
  case h_2 => exact attended

theorem writeStore_attended {sys : Sys} (attended : Attended sys) (buff : List Word) :
    Attended (writeStore buff sys) := by
  unfold writeStore
  split
  case h_1 num running =>
    split_ifs with whole
    · rcases Nat.eq_zero_or_pos sys.qs.data.numWords with empty | size
      · obtain ⟨memory, result⟩ := writeWords_empty attended.quiet empty buff
        rw [result]
        have same : publishedFree (sys.qs.withMemory memory) = publishedFree sys.qs := by
          rw [publishedFree_quiet attended.quiet, publishedFree_quiet]
          · rfl
          · exact attended.quiet
        refine attended.queueStep attended.quiet ?_ rfl rfl (Nat.le_of_eq same) fun _ => by simp
        exact fun size => absurd empty (Nat.ne_of_gt size)
      · have fits : buff.length ≤ mt7697qGetFreeWords sys.qs := whole ▸ attended.roomy num running
        obtain ⟨after, result, kept, flags, _, channel⟩ := writeWords_holds (attended.writer size) fits
        rw [result]
        refine attended.queueStep kept.quiet ?_ channel flags ?_ fun _ => by simp
        · rw [kept.unread_eq]
          exact fun _ => kept
        · rw [publishedFree_eq kept, publishedFree_eq (attended.writer size), List.length_append]
          simp only [QueueData.numWords, flags]
          omega
    · exact attended
  case h_2 => exact attended

theorem workPacket_attended {sys : Sys} (attended : Attended sys) : Attended (workPacket sys) := by
  unfold workPacket
  split
  case h_1 ret _ =>
    have sound : Transmit.Sound (Transmit.step sys.tx (.workPacket ret)) :=
      Transmit.step_sound attended.sound trivial
    exact attended.moved ⟨sound.ring, sound.working⟩ rfl fun _ running => by simp at running
  case h_2 => exact attended

theorem slaveStep_attended {sys : Sys} (attended : Attended sys) (count : Nat) :
    Attended (slaveStep count sys) := by
  unfold slaveStep
  split_ifs with ready
  · exact
      { sound := attended.sound
        quiet := attended.quiet
        writer := fun size => by
          have writer := slaveConsume_writer (attended.writer size) ready.2
          rw [writer.unread_eq]
          exact writer
        channel := attended.channel
        toSlave := attended.toSlave
        roomy := attended.roomy
        wake := fun _ => Or.inr (Or.inl rfl) }
  · exact attended

/-- Steps of the slave and of the run that only hand the bit on. -/
theorem Attended.watched {sys : Sys} {announcing bit : Bool} {pass : IrqPass} (attended : Attended sys)
    (on : sys.tx.blockedWriter = true → Watched sys →
      Watched { sys with announcing := announcing, bit := bit, pass := pass }) :
    Attended { sys with announcing := announcing, bit := bit, pass := pass } where
  sound := attended.sound
  quiet := attended.quiet
  writer := attended.writer
  channel := attended.channel
  toSlave := attended.toSlave
  roomy := attended.roomy
  wake blocked := (attended.wake blocked).imp_right (on blocked)

theorem passFetch_attended {sys : Sys} (attended : Attended sys) : Attended (passFetch sys) := by
  unfold passFetch
  split_ifs with ready
  · apply attended.watched
    rintro - (announcing | bit | fetched | notifying)
    · exact Or.inl announcing
    · exact Or.inr (Or.inr (Or.inl (by rw [bit])))
    · exact absurd (ready.1.symm.trans fetched) (by simp)
    · exact absurd (ready.1.symm.trans notifying) (by simp)
  · exact attended

theorem passTest_attended {sys : Sys} (attended : Attended sys) : Attended (passTest sys) := by
  unfold passTest
  split
  case h_1 bit fetched =>
    apply attended.watched
    rintro blocked (announcing | set | held | notifying)
    · exact Or.inl announcing
    · exact Or.inr (Or.inl set)
    · obtain rfl : bit = true := by simpa [fetched] using held
      have notifies := service_notifies attended.channel attended.toSlave blocked
      exact Or.inr (Or.inr (Or.inr (if_pos notifies)))
    · exact absurd (fetched.symm.trans notifying) (by simp)
  case h_2 => exact attended

/-- A notification that matters clears the flag. -/
theorem passNotify_attended {sys : Sys} {large : Bool} (attended : Attended sys)
    (safe : WakeSafe sys (.passNotify large)) : Attended (passNotify large sys) := by
  unfold passNotify
  split
  case h_1 notifying =>
    have sound : Transmit.Sound (Transmit.step sys.tx (.notifyTx large)) :=
      Transmit.step_sound attended.sound trivial
    refine ⟨sound, attended.quiet, attended.writer, attended.channel, attended.toSlave, attended.roomy, ?_⟩
    intro blocked
    by_cases wakes : sys.tx.list ≠ [] ∧ large = true
    · simp [Transmit.step, Transmit.mt7697NotifyTx, wakes] at blocked
    · have same : Transmit.step sys.tx (.notifyTx large) = sys.tx := if_neg wakes
      rw [same] at blocked
      left
      by_contra room
      exact wakes (safe notifying blocked (Nat.le_of_not_lt room))
  case h_2 => exact attended

theorem step_attended {sys : Sys} {event : Event} (attended : Attended sys)
    (safe : WakeSafe sys event) : Attended (step sys event) := by
  cases event with
  | dataTx skb copy => exact attended.txStep trivial (by simp) (by simp)
  | workBegin => exact attended.txStep trivial (by simp) (by simp)
  | workAdvance => exact attended.txStep trivial (by simp) (by simp)
  | writeTest => exact writeTest_attended attended
  | writePull => exact writePull_attended attended
  | writeRefuse => exact writeRefuse_attended attended safe
  | writeStore buff => exact writeStore_attended attended buff
  | workPacket => exact workPacket_attended attended
  | slaveConsume count => exact slaveStep_attended attended count
  | slaveAnnounce =>
      simp only [step]
      split_ifs
      · exact attended.watched fun _ _ => Or.inr (Or.inl rfl)
      · exact attended
  | passFetch => exact passFetch_attended attended
  | passTest => exact passTest_attended attended
  | passNotify large => exact passNotify_attended attended safe

/-- Every packet leaves the list, refused or not, so a quiet list is empty. -/
theorem Attended.woken {sys : Sys} (attended : Attended sys) : Woken sys where
  pending quiet slot skb first _ := by
    have working := attended.sound.working
    rw [quiet.worker] at working
    rcases working with empty | queued
    · rw [empty] at first
      exact absurd first (by simp)
    · rw [quiet.queued] at queued
      exact absurd queued (by decide)
  blocked quiet blocked := by
    rcases attended.wake blocked with full | announcing | bit | fetched | notifying
    · exact full
    · exact absurd (quiet.announcing.symm.trans announcing) (by decide)
    · exact absurd (quiet.bit.symm.trans bit) (by decide)
    · exact absurd (quiet.pass.symm.trans fetched) (by simp)
    · exact absurd (quiet.pass.symm.trans notifying) (by simp)

theorem readState_quiet {fresh qs : QueueSpec} {ret : Int} (quiet : fresh.slave.faults = [])
    (accepted : mt7697qReadState fresh = (qs, ret)) : qs.slave.faults = [] := by
  simp only [mt7697qReadState, Slave.transfer, quiet] at accepted
  split_ifs at accepted <;> cases accepted <;> exact quiet

/-- No quiet state keeps a writer waiting for room that is there, as long as
every refusal is right and every notification in time for it finds its packet. -/
theorem transmit_woken {fresh qs : QueueSpec} {ret : Int} {events : List Event}
    (quiet : fresh.slave.faults = []) (accepted : mt7697qReadState fresh = (qs, ret))
    (success : 0 ≤ ret) (channel : qs.ch < numQueues)
    (toSlave : mt7697qFlagsGetDir (inUseFlags qs) ≠ queueDirS2m) (neededHeadroom : Nat)
    (safe : Along step WakeSafe (opened qs neededHeadroom) events) :
    Along step (fun sys event => Woken (step sys event)) (opened qs neededHeadroom) events := by
  have attended : Attended (opened qs neededHeadroom) :=
    { sound := Transmit.probed_sound neededHeadroom
      quiet := readState_quiet quiet accepted
      writer := mt7697qReadState_writer quiet accepted success
      channel := channel
      toSlave := toSlave
      roomy := fun _ running => by simp [opened] at running
      wake := fun blocked => by simp [opened, Transmit.probed] at blocked }
  exact @along_imp _ _ step WakeSafe _ Attended
    (fun before safe => (step_attended before safe).woken) step_attended events _ attended safe

/-- A ring of four words, empty, on channel 0. -/
def fourWords : QueueSpec := { lastCell with slave := { lastCell.slave with entry := ⟨0x40000, 0x20001000, 0, 0⟩ } }

/-- Four bytes make a request of three words. -/
def frame : Event := .dataTx ⟨1, [1, 2, 3, 4], 64⟩ none

/-- The slave makes room for the second packet while it is still on the list. -/
theorem transmit_woken_retry :
    Along step (fun sys event => Woken (step sys event)) (opened (mt7697qReadState fourWords).1 64)
      [frame, frame, .workBegin, .writeTest, .writeStore [1, 2, 3], .workPacket, .workAdvance,
        .writeTest, .writePull, .writeRefuse, .slaveConsume 3, .slaveAnnounce, .passFetch,
        .passTest, .passNotify true, .workPacket, .workAdvance, .workBegin] := by
  have accepted : mt7697qReadState fourWords = ((mt7697qReadState fourWords).1, 0) :=
    Prod.ext rfl (by decide)
  refine transmit_woken rfl accepted (by decide) (by decide) (by decide) 64 ?_
  refine ⟨trivial, trivial, trivial, trivial, trivial, trivial, trivial, trivial, trivial, ?_,
    trivial, trivial, trivial, trivial, ?_, trivial, trivial, trivial, trivial⟩
  · intro num running
    cases running
    decide
  · exact fun _ _ _ => ⟨by decide, rfl⟩

/-- The second packet is refused and dropped; then the slave makes room. -/
theorem blocked_writer_sleeps :
    ¬ Along step (fun sys event => Woken (step sys event)) (opened (mt7697qReadState fourWords).1 64)
      [frame, frame, .workBegin, .writeTest, .writeStore [1, 2, 3], .workPacket, .workAdvance,
        .writeTest, .writePull, .writeRefuse, .workPacket, .workAdvance, .slaveConsume 3,
        .slaveAnnounce, .passFetch, .passTest, .passNotify true] := by
  rintro ⟨-, -, -, -, -, -, -, -, -, -, -, -, -, -, -, -, last, -⟩
  exact absurd (last.blocked ⟨rfl, rfl, rfl, rfl, rfl⟩ rfl) (by decide)

end MangOH.TransmitWakeup
