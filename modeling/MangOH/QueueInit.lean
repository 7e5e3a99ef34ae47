import MangOH.Interrupt
import MangOH.QueueReceive
import MangOH.QueueRefusals

/-!
`mt7697q_init` and `mt7697q_shutdown`. The entries of `mt7697q_info` and the caller's handles
are filled before the steps that can fail. An entry is named by its place in the array, and the
transfers of all queues share one bus.
-/

namespace MangOH.QueueInit

open BitFields CyclicWindow QueueMemory QueueWrite Interrupt
open MangOH.QueueRead (InRange)
open MangOH.QueueReceive (grpQueue)

def eio : Int := 5

def cmdQueueInit : BitVec 8 := 0
def cmdQueueUnused : BitVec 8 := 2

/-- Zero is `NULL`. -/
abbrev Pointer := Nat

/-- `struct mt7697q_spec`. -/
structure Spec where
  data : QueueData
  ch : Nat
  priv : Pointer
  notifyTxFcn : Pointer
  rxFcn : Pointer

/-- `struct mt7697q_info`, with the slave's side of each queue and the outcomes of the
transfers to come. -/
structure Info where
  queues : Nat → Spec
  qinfo : QueueInfo
  slaves : Nat → Slave
  faults : List (Option Fault)

def Info.setSpec (info : Info) (place : Nat) (spec : Spec) : Info :=
  { info with queues := Function.update info.queues place spec }

/-- A queue as the functions of `queue.c` get it. -/
def Info.qs (info : Info) (place : Nat) : QueueSpec where
  data := (info.queues place).data
  ch := (info.queues place).ch
  qinfo := info.qinfo
  slave := { info.slaves place with faults := info.faults }

/-- What such a function leaves of the queue. -/
def Info.put (info : Info) (place : Nat) (qs : QueueSpec) : Info where
  queues := Function.update info.queues place { info.queues place with data := qs.data }
  qinfo := qs.qinfo
  slaves := Function.update info.slaves place qs.slave
  faults := qs.slave.faults

def Info.setFlags (info : Info) (place : Nat) (flags : Word → Word) : Info :=
  let spec := info.queues place
  info.setSpec place { spec with data := { spec.data with flags := flags spec.data.flags } }

def setInUse (flags : Word) : Word := flags ||| bfDefine 1 0 1

def clearInUse (flags : Word) : Word := flags &&& ~~~ bfGet flags 0 1

def readState (info : Info) (place : Nat) : Info × Int :=
  let read := mt7697qReadState (info.qs place)
  (info.put place read.1, read.2)

/-- `struct mt7697_queue_init_req`, and the other requests about a pair of channels. -/
def queueReq (type : BitVec 8) (m2sCh s2mCh : Nat) : List Word :=
  [12 ||| grpQueue.setWidth 32 <<< 16 ||| type.setWidth 32 <<< 24,
    BitVec.ofNat 32 m2sCh, BitVec.ofNat 32 s2mCh]

def wrReq (info : Info) (place : Nat) (req : List Word) : Info × Int :=
  let written := mt7697qWrite (info.qs place) req
  let ret := written.2
  (info.put place written.1, if ret ≠ (req.length : Int) then if ret < 0 then ret else -eio else 0)

def mt7697qWrInit (info : Info) (txCh rxCh : Nat) : Info × Int :=
  wrReq info txCh (queueReq cmdQueueInit txCh rxCh)

def mt7697qWrUnused (info : Info) (m2s s2m : Nat) : Info × Int :=
  let req := queueReq cmdQueueUnused (info.queues m2s).ch (info.queues s2m).ch
  wrReq ((info.setFlags m2s clearInUse).setFlags s2m clearInUse) m2s req

/-- How far the search for the SPI device gets. -/
inductive Lookup where
  | noMaster
  | noDevice
  | noDrvdata
  | found
  deriving DecidableEq

structure Args where
  txCh : Nat
  rxCh : Nat
  priv : Pointer
  notifyTxFcn : Pointer
  rxFcn : Pointer

/-- `overrun` counts the bytes behind the two local pointers that are set to zero. -/
structure State where
  info : Info
  txHndl : Option Nat
  rxHndl : Option Nat
  overrun : Nat

/-- `sizeof(struct mt7697q_spec)` and the size of a pointer. -/
def specSize : Nat := 36
def pointerSize : Nat := 4

def attachTx (args : Args) (state : State) : State :=
  let spec := state.info.queues args.txCh
  let info := state.info.setSpec args.txCh
    { spec with ch := args.txCh, priv := args.priv, notifyTxFcn := args.notifyTxFcn }
  { state with
    info := { info with qinfo := { info.qinfo with blockedWriter := false } }
    txHndl := some args.txCh }

def attachRx (args : Args) (state : State) : State :=
  let spec := state.info.queues args.rxCh
  { state with
    info := state.info.setSpec args.rxCh
      { spec with ch := args.rxCh, rxFcn := args.rxFcn, priv := args.priv }
    rxHndl := some args.rxCh }

/-- From where both entries are filled. -/
def start (args : Args) (info : Info) : Info × Int :=
  let tx := readState info args.txCh
  if tx.2 < 0 then tx
  else
    let rx := readState tx.1 args.rxCh
    if rx.2 < 0 then rx
    else
      mt7697qWrInit ((rx.1.setFlags args.txCh setInUse).setFlags args.rxCh setInUse)
        args.txCh args.rxCh

/-- `memset(&qsTx, 0, sizeof(struct mt7697q_spec))`, and the same for `qsRx`. -/
def cleanup (state : State) : State :=
  { state with overrun := state.overrun + (specSize - pointerSize) + (specSize - pointerSize) }

def mt7697qInit (lookup : Lookup) (args : Args) (state : State) : State × Int :=
  if lookup ≠ .found then (cleanup state, -einval)
  else if numQueues ≤ args.txCh ∨ numQueues ≤ args.rxCh then (cleanup state, -einval)
  else
    let state := attachRx args (attachTx args state)
    let result := start args state.info
    let state := { state with info := result.1 }
    (if result.2 < 0 then cleanup state else state, result.2)

/-! Reading the state of a queue. -/

theorem store_whole (data entry : QueueData) : data.store entry 4 = entry := rfl

theorem mt7697qReadState_accepts {qs : QueueSpec} (through : qs.slave.faults.headD none = none)
    (accepted : Accepted qs.slave.entry) : mt7697qReadState qs =
      ({ qs.withFaults qs.slave.faults.tail with data := qs.slave.entry }, 0) := by
  obtain ⟨base, flags, read, write⟩ := accepted
  simp only [mt7697qReadState, transfer_eq, through, store_whole, mt7697qGetCapacity, base, flags,
    Nat.not_lt.mpr read, Nat.not_lt.mpr write, if_false, or_self]
  rfl

theorem mt7697qReadState_refuses {qs : QueueSpec}
    (refused : ¬ (qs.slave.faults.headD none = none ∧ Accepted qs.slave.entry)) :
    (mt7697qReadState qs).2 < 0 := by
  cases outcome : qs.slave.faults.headD none with
  | some fault =>
      simp only [mt7697qReadState, transfer_eq, outcome]
      exact fault.ret_neg
  | none =>
      have invalid : -einval < 0 := by decide
      simp only [mt7697qReadState, transfer_eq, outcome, store_whole, mt7697qGetCapacity]
      by_cases base : qs.slave.entry.baseAddr = 0
      · simp only [base, if_true, invalid]
      · by_cases flags : qs.slave.entry.flags = 0
        · simp only [base, flags, if_false, if_true, invalid]
        · by_cases range : sub32 qs.slave.entry.numWords 1 < qs.slave.entry.rdOffset.toNat ∨
              sub32 qs.slave.entry.numWords 1 < qs.slave.entry.wrOffset.toNat
          · simp only [base, flags, range, if_false, if_true, invalid]
          · rw [not_or, Nat.not_lt, Nat.not_lt] at range
            exact absurd ⟨outcome, base, flags, range⟩ refused

/-- The queue once its state is read. -/
def Info.loaded (info : Info) (place : Nat) : Info :=
  info.put place
    { (info.qs place).withFaults info.faults.tail with data := (info.slaves place).entry }

section
variable {info : Info} {place : Nat}

@[simp] theorem loaded_faults : (info.loaded place).faults = info.faults.tail := rfl

theorem loaded_queues : (info.loaded place).queues =
    Function.update info.queues place { info.queues place with data := (info.slaves place).entry } := rfl

@[simp] theorem loaded_entry (other : Nat) :
    ((info.loaded place).slaves other).entry = (info.slaves other).entry := by
  by_cases same : other = place
  · subst other
    simp only [Info.loaded, Info.put, Function.update_self]
    rfl
  · simp only [Info.loaded, Info.put, Function.update_of_ne same]

theorem readState_accepts (through : info.faults.headD none = none)
    (accepted : Accepted (info.slaves place).entry) : readState info place = (info.loaded place, 0) := by
  rw [readState, @mt7697qReadState_accepts (info.qs place) through accepted]
  rfl

theorem readState_refuses
    (refused : ¬ (info.faults.headD none = none ∧ Accepted (info.slaves place).entry)) :
    (readState info place).2 < 0 :=
  @mt7697qReadState_refuses (info.qs place) refused

end

/-! Sending a request. -/

theorem writeToEnd_data (qs : QueueSpec) (readOffset writeOffset : Nat) (buff : List Word) :
    (writeToEnd qs readOffset writeOffset buff).1.data = qs.data := by
  rw [writeToEnd]
  split
  · simp only [writeChunk_eq]
    cases qs.slave.faults.headD none <;> rfl
  · rfl

theorem writeBelow_data (qs : QueueSpec) (readOffset writeOffset : Nat) (buff : List Word) :
    (writeBelow qs readOffset writeOffset buff).1.data = qs.data := by
  rw [writeBelow]
  split
  · simp only [writeChunk_eq]
    cases qs.slave.faults.headD none <;> rfl
  · rfl

/-- In a ring of no words every offset is behind the end. -/
theorem writeWords_empty {qs : QueueSpec} (empty : qs.data.numWords = 0) (buff : List Word) :
    (writeWords qs buff).2 < 0 := by
  have first := writeToEnd_data qs qs.data.rdOffset.toNat qs.data.wrOffset.toNat buff
  simp only [writeWords]
  generalize writeToEnd qs qs.data.rdOffset.toNat qs.data.wrOffset.toNat buff = one at first
  have second := writeBelow_data one.1 qs.data.rdOffset.toNat one.2.2.1 one.2.2.2
  generalize writeBelow one.1 qs.data.rdOffset.toNat one.2.2.1 one.2.2.2 = two at second
  by_cases failed : one.2.1 < 0
  · rw [if_pos failed]
    exact failed
  · rw [if_neg failed]
    by_cases broken : two.2.1 < 0
    · rw [if_pos broken]
      exact broken
    · rw [if_neg broken, second, first, empty, if_pos (Nat.zero_le _)]
      exact (by decide : -einval < 0)

theorem mt7697qWrite_short {qs : QueueSpec} {buff : List Word} (short : mt7697qGetFreeWords qs < buff.length) :
    (mt7697qWrite qs buff).2 < 0 := by
  rw [short_write short]
  cases qs.slave.faults.headD none with
  | none => exact (by decide : -eagain < 0)
  | some fault => exact fault.ret_neg

theorem mt7697qWrite_empty {qs : QueueSpec} (empty : qs.data.numWords = 0) (buff : List Word) :
    (mt7697qWrite qs buff).2 < 0 := by
  by_cases short : mt7697qGetFreeWords qs < buff.length
  · exact mt7697qWrite_short short
  · have written : mt7697qWrite qs buff = writeWords qs buff := if_neg short
    rw [written]
    exact writeWords_empty empty buff

/-- A write of all its words. -/
theorem mt7697qWrite_whole_iff {qs : QueueSpec} (range : InRange qs) (buff : List Word) :
    (mt7697qWrite qs buff).2 = (buff.length : Int) ↔ buff.length ≤ mt7697qGetFreeWords qs ∧
      Through (qs.slave.faults.take (chunks qs.data buff.length + 3)) := by
  by_cases short : mt7697qGetFreeWords qs < buff.length
  · have negative := mt7697qWrite_short short
    exact iff_of_false (by omega) (fun both => absurd both.1 (Nat.not_le.mpr short))
  · have written : mt7697qWrite qs buff = writeWords qs buff := if_neg short
    rw [written, and_iff_right (Nat.le_of_not_lt short), List.take_add, through_append]
    by_cases through : Through (qs.slave.faults.take (chunks qs.data buff.length))
    · obtain ⟨memory, result, _⟩ := (host_chunked range short).through through
      obtain ⟨_, _, sent, broken, _⟩ := mt7697qPushWrPtr_spec (publishing qs memory buff.length)
      rw [and_iff_right through, result]
      by_cases push : Through ((pushFaults qs buff.length).take 3)
      · refine iff_of_true ?_ push
        exact if_neg (by rw [sent push]; exact Int.lt_irrefl 0)
      · refine iff_of_false (fun whole => ?_) push
        have negative := broken push
        rw [if_pos negative] at whole
        omega
    · obtain ⟨memory, left, ret, result, negative, _⟩ := (host_chunked range short).failed through
      rw [result]
      exact iff_of_false (by simp only; omega) (fun both => through both.1)

theorem wrReq_ret (info : Info) (place : Nat) (req : List Word) :
    (wrReq info place req).2 < 0 ↔ (mt7697qWrite (info.qs place) req).2 ≠ (req.length : Int) := by
  have io : -eio < 0 := by decide
  simp only [wrReq]
  generalize (mt7697qWrite (info.qs place) req).2 = ret
  by_cases whole : ret = (req.length : Int)
  · simp [whole]
  · by_cases negative : ret < 0
    · simp only [whole, negative, ne_eq, not_false_eq_true, if_true]
    · simp only [whole, negative, ne_eq, not_false_eq_true, if_true, if_false, io]

/-- A write moves the offsets only. -/
theorem writeWords_flags (qs : QueueSpec) (buff : List Word) :
    (writeWords qs buff).1.data.flags = qs.data.flags := by
  have first := writeToEnd_data qs qs.data.rdOffset.toNat qs.data.wrOffset.toNat buff
  simp only [writeWords]
  generalize writeToEnd qs qs.data.rdOffset.toNat qs.data.wrOffset.toNat buff = one at first
  have second := writeBelow_data one.1 qs.data.rdOffset.toNat one.2.2.1 one.2.2.2
  generalize writeBelow one.1 qs.data.rdOffset.toNat one.2.2.1 one.2.2.2 = two at second
  have pushed := (mt7697qPushWrPtr_spec { two.1 with
    data := { two.1.data with wrOffset := BitVec.ofNat 16 two.2.2.1 } }).1
  generalize mt7697qPushWrPtr _ = three at pushed
  have flags : two.1.data.flags = qs.data.flags := by rw [second, first]
  split
  · rw [first]
  · split
    · exact flags
    · split
      · exact flags
      · split
        · rw [pushed]
          exact flags
        · rw [pushed]
          exact flags

theorem mt7697qWrite_flags (qs : QueueSpec) (buff : List Word) :
    (mt7697qWrite qs buff).1.data.flags = qs.data.flags := by
  by_cases short : mt7697qGetFreeWords qs < buff.length
  · rw [short_write short]
    cases qs.slave.faults.headD none <;> rfl
  · have written : mt7697qWrite qs buff = writeWords qs buff := if_neg short
    rw [written]
    exact writeWords_flags qs buff

theorem put_queues (info : Info) (place : Nat) (qs : QueueSpec) : (info.put place qs).queues =
    Function.update info.queues place { info.queues place with data := qs.data } := rfl

theorem put_flags {info : Info} {place : Nat} {qs : QueueSpec}
    (kept : qs.data.flags = (info.queues place).data.flags) (other : Nat) :
    ((info.put place qs).queues other).data.flags = (info.queues other).data.flags := by
  rw [put_queues]
  by_cases same : other = place
  · subst other
    rw [Function.update_self]
    exact kept
  · rw [Function.update_of_ne same]

theorem wrReq_flags (info : Info) (place : Nat) (req : List Word) (other : Nat) :
    ((wrReq info place req).1.queues other).data.flags = (info.queues other).data.flags :=
  put_flags (mt7697qWrite_flags (info.qs place) req) other

/-! Starting the queues. -/

def marked (entry : QueueData) : QueueData := { entry with flags := setInUse entry.flags }

theorem marked_numWords (entry : QueueData) : (marked entry).numWords = entry.numWords := by
  have low : bfDefine 1 0 1 >>> 16 = (0 : Word) := by decide
  have upper : setInUse entry.flags >>> 16 = entry.flags >>> 16 := by
    rw [setInUse, BitVec.ushiftRight_or_distrib, low]
    exact BitVec.or_zero
  rw [QueueData.numWords, bfGet, marked, upper]
  rfl

theorem marked_chunks (entry : QueueData) (num : Nat) : chunks (marked entry) num = chunks entry num := by
  rw [chunks, chunks, marked_numWords]
  rfl

theorem setFlags_queues (info : Info) (place : Nat) (flags : Word → Word) :
    (info.setFlags place flags).queues = Function.update info.queues place
      { info.queues place with data :=
        { (info.queues place).data with flags := flags (info.queues place).data.flags } } := rfl

theorem setInUse_twice (flags : Word) : setInUse (setInUse flags) = setInUse flags := by
  rw [setInUse, setInUse, BitVec.or_assoc, BitVec.or_self]

/-- Both entries once the slave's states are read and accepted. -/
def Info.ready (info : Info) (args : Args) : Info :=
  (((info.loaded args.txCh).loaded args.rxCh).setFlags args.txCh setInUse).setFlags args.rxCh setInUse

theorem ready_data (info : Info) (args : Args) :
    ((info.ready args).queues args.txCh).data = marked (info.slaves args.txCh).entry := by
  by_cases same : args.txCh = args.rxCh
  · simp [Info.ready, setFlags_queues, loaded_queues, same, setInUse_twice, marked]
  · simp [Info.ready, setFlags_queues, loaded_queues, same, Function.update_of_ne, marked]

/-- Words that the ring still takes, by this entry. -/
def Room (data : QueueData) (num : Nat) : Prop :=
  distance data.numWords data.rdOffset.toNat data.wrOffset.toNat + num < data.numWords

/-- The slave has two rings with valid offsets, there is room for the request, and every
transfer goes through. -/
structure Starts (args : Args) (info : Info) : Prop where
  transmit : Accepted (info.slaves args.txCh).entry
  receive : Accepted (info.slaves args.rxCh).entry
  room : Room (info.slaves args.txCh).entry 3
  transfers : Through (info.faults.take (chunks (info.slaves args.txCh).entry 3 + 3 + 2))

/-- The request goes out just when there is room for it, and no transfer fails. -/
theorem wrInit_ret {info : Info} {args : Args} {data : QueueData}
    (entry : (info.slaves args.txCh).entry = data) (accepted : Accepted data) :
    (mt7697qWrInit (info.ready args) args.txCh args.rxCh).2 < 0 ↔
      ¬ (Room data 3 ∧ Through (info.faults.tail.tail.take (chunks data 3 + 3))) := by
  rw [mt7697qWrInit, wrReq_ret]
  apply not_congr
  have held : ((info.ready args).qs args.txCh).data = marked data := by
    rw [← entry]
    exact ready_data info args
  have size : ((info.ready args).qs args.txCh).data.numWords = data.numWords := by
    rw [held, marked_numWords]
  by_cases empty : data.numWords = 0
  · have negative := mt7697qWrite_empty (size.trans empty)
      (queueReq cmdQueueInit args.txCh args.rxCh)
    refine iff_of_false (by omega) fun both => ?_
    have room := both.1
    rw [Room, empty] at room
    omega
  · have small := numWords_lt data
    obtain ⟨_, _, read, write⟩ := accepted
    rw [sub32_of_le (by omega) (by omega)] at read write
    have read_lt : data.rdOffset.toNat < data.numWords := by omega
    have write_lt : data.wrOffset.toNat < data.numWords := by omega
    have range : InRange ((info.ready args).qs args.txCh) := by
      constructor
      · rw [size, held]
        exact read_lt
      · rw [size, held]
        exact write_lt
    -- The room by the copy that the host has just made of the entry.
    have free : mt7697qGetFreeWords ((info.ready args).qs args.txCh) =
        data.numWords - 1 - distance data.numWords data.rdOffset.toNat data.wrOffset.toNat := by
      rw [free_eq range.read range.write, size, held]
      rfl
    have far := distance_lt read_lt write_lt
    have words : (queueReq cmdQueueInit args.txCh args.rxCh).length = 3 := rfl
    rw [mt7697qWrite_whole_iff range, free, held, marked_chunks, words, Room]
    exact and_congr (by omega) Iff.rfl

theorem start_ret (args : Args) (info : Info) : (start args info).2 < 0 ↔ ¬ Starts args info := by
  by_cases first : info.faults.headD none = none ∧ Accepted (info.slaves args.txCh).entry
  · have loaded := readState_accepts first.1 first.2
    by_cases second : info.faults.tail.headD none = none ∧ Accepted (info.slaves args.rxCh).entry
    · have again : readState (info.loaded args.txCh) args.rxCh =
          ((info.loaded args.txCh).loaded args.rxCh, 0) :=
        readState_accepts second.1 (by rw [loaded_entry]; exact second.2)
      have starts : start args info = mt7697qWrInit (info.ready args) args.txCh args.rxCh := by
        simp only [start, loaded, again, Int.lt_irrefl, if_false]
        rfl
      rw [starts, wrInit_ret rfl first.2]
      apply not_congr
      constructor
      · rintro ⟨room, through⟩
        exact ⟨first.2, second.2, room,
          through_succ.mpr ⟨first.1, through_succ.mpr ⟨second.1, through⟩⟩⟩
      · rintro ⟨_, _, room, transfers⟩
        exact ⟨room, (through_succ.mp (through_succ.mp transfers).2).2⟩
    · have negative := @readState_refuses (info.loaded args.txCh) args.rxCh
        (by rw [loaded_entry]; exact second)
      refine iff_of_true ?_ fun starts =>
        second ⟨(through_succ.mp (through_succ.mp starts.transfers).2).1, starts.receive⟩
      simp only [start, loaded, Int.lt_irrefl, if_false, if_pos negative]
      exact negative
  · have negative := readState_refuses first
    refine iff_of_true ?_ fun starts => first ⟨(through_succ.mp starts.transfers).1, starts.transmit⟩
    simp only [start, if_pos negative]
    exact negative

/-! What a failure leaves. -/

/-- A queue that is not in use, and that calls nobody. -/
def Cleared (spec : Spec) : Prop :=
  mt7697qFlagsGetInUse spec.data.flags = 0 ∧ spec.priv = 0 ∧ spec.notifyTxFcn = 0 ∧ spec.rxFcn = 0

/-- One of the two entries, where the array has it. -/
def Entry (args : Args) (place : Nat) : Prop :=
  place < numQueues ∧ (place = args.txCh ∨ place = args.rxCh)

structure Undone (args : Args) (before after : State) : Prop where
  cleared : ∀ place, Entry args place → Cleared (after.info.queues place)
  unserved : ∀ place, Entry args place → ∀ mbox blockedWriter,
    service mbox place (after.info.queues place).data.flags blockedWriter = .none
  others : ∀ place, ¬ Entry args place → after.info.queues place = before.info.queues place
  overrun : after.overrun = before.overrun
  txHndl : after.txHndl = before.txHndl ∨ after.txHndl = none
  rxHndl : after.rxHndl = before.rxHndl ∨ after.rxHndl = none

def AllOrNothing (lookup : Lookup) (args : Args) (state : State) : Prop :=
  let result := mt7697qInit lookup args state
  result.2 < 0 → Undone args state result.1

/-- Nothing fails from the search for the device to the request. -/
structure Goes (lookup : Lookup) (args : Args) (info : Info) : Prop extends Starts args info where
  device : lookup = .found
  channels : args.txCh < numQueues ∧ args.rxCh < numQueues

/-- It is to set two entries to zero, and sets the pointers to them and what is behind. -/
theorem cleanup_overruns (state : State) : (cleanup state).overrun ≠ state.overrun := by
  simp only [cleanup, specSize, pointerSize]
  omega

/-- Filling the entries changes nothing that the start depends on. -/
theorem attached_starts {args : Args} {state : State} :
    Starts args (attachRx args (attachTx args state)).info ↔ Starts args state.info := by
  constructor
  · rintro ⟨transmit, receive, room, transfers⟩
    exact ⟨transmit, receive, room, transfers⟩
  · rintro ⟨transmit, receive, room, transfers⟩
    exact ⟨transmit, receive, room, transfers⟩

theorem mt7697qInit_goes {lookup : Lookup} {args : Args} {state : State}
    (goes : Goes lookup args state.info) : 0 ≤ (mt7697qInit lookup args state).2 := by
  have device : ¬ lookup ≠ .found := not_not.mpr goes.device
  have channels : ¬ (numQueues ≤ args.txCh ∨ numQueues ≤ args.rxCh) :=
    not_or.mpr ⟨Nat.not_le.mpr goes.channels.1, Nat.not_le.mpr goes.channels.2⟩
  have started := mt (start_ret args (attachRx args (attachTx args state)).info).mp
    (not_not.mpr (attached_starts.mpr goes.toStarts))
  simp only [mt7697qInit, if_neg device, if_neg channels]
  exact Int.not_lt.mp started

theorem mt7697qInit_fails {lookup : Lookup} {args : Args} {state : State}
    (stops : ¬ Goes lookup args state.info) : (mt7697qInit lookup args state).2 < 0 ∧
      (mt7697qInit lookup args state).1.overrun ≠ state.overrun := by
  have invalid : -einval < 0 := by decide
  by_cases device : lookup ≠ .found
  · rw [mt7697qInit, if_pos device]
    exact ⟨invalid, cleanup_overruns state⟩
  · by_cases channels : numQueues ≤ args.txCh ∨ numQueues ≤ args.rxCh
    · rw [mt7697qInit, if_neg device, if_pos channels]
      exact ⟨invalid, cleanup_overruns state⟩
    · have failed := (start_ret args (attachRx args (attachTx args state)).info).mpr fun starts =>
        stops ⟨attached_starts.mp starts, not_not.mp device, Nat.not_le.mp (not_or.mp channels).1,
          Nat.not_le.mp (not_or.mp channels).2⟩
      simp only [mt7697qInit, if_neg device, if_neg channels, if_pos failed]
      exact ⟨failed, cleanup_overruns _⟩

/-- An initialisation is all or nothing just when it is all. -/
theorem mt7697qInit_allOrNothing_iff (lookup : Lookup) (args : Args) (state : State) :
    AllOrNothing lookup args state ↔ Goes lookup args state.info := by
  constructor
  · intro allOrNothing
    by_contra stops
    obtain ⟨failed, overrun⟩ := mt7697qInit_fails stops
    exact overrun (allOrNothing failed).overrun
  · intro goes failed
    exact absurd (mt7697qInit_goes goes) (Int.not_le.mpr failed)

/-- At most the data of the entries differs. -/
def OnlyData (before after : Info) : Prop :=
  ∀ place, ∃ data, after.queues place = { before.queues place with data := data }

namespace OnlyData

variable {before middle after : Info}

theorem trans (first : OnlyData before middle) (second : OnlyData middle after) :
    OnlyData before after := by
  intro place
  obtain ⟨old, changed⟩ := first place
  obtain ⟨new, again⟩ := second place
  exact ⟨new, by rw [again, changed]⟩

theorem update {place : Nat} {data : QueueData} (changed : after.queues =
    Function.update before.queues place { before.queues place with data := data }) :
    OnlyData before after := by
  intro other
  rw [changed]
  by_cases same : other = place
  · subst other
    exact ⟨data, Function.update_self ..⟩
  · exact ⟨(before.queues other).data, Function.update_of_ne same ..⟩

end OnlyData

theorem start_onlyData (args : Args) (info : Info) : OnlyData info (start args info).1 := by
  have tx : OnlyData info (readState info args.txCh).1 := .update rfl
  simp only [start]
  generalize readState info args.txCh = one at tx
  by_cases failed : one.2 < 0
  · simpa only [if_pos failed] using tx
  · have rx : OnlyData info (readState one.1 args.rxCh).1 := tx.trans (.update rfl)
    simp only [if_neg failed]
    generalize readState one.1 args.rxCh = two at rx
    by_cases broken : two.2 < 0
    · simpa only [if_pos broken] using rx
    · simp only [if_neg broken]
      have marked : OnlyData two.1 ((two.1.setFlags args.txCh setInUse).setFlags args.rxCh setInUse) :=
        .trans (.update rfl) (.update rfl)
      exact (rx.trans marked).trans (.update rfl)

/-- Behind the search, a failure leaves the handles, the private pointer and the callbacks. -/
theorem failed_attached {args : Args} {state : State}
    (channels : args.txCh < numQueues ∧ args.rxCh < numQueues)
    (failed : (mt7697qInit .found args state).2 < 0) :
    let after := (mt7697qInit .found args state).1
    after.txHndl = some args.txCh ∧ after.rxHndl = some args.rxCh ∧
      (after.info.queues args.txCh).priv = args.priv ∧
      (after.info.queues args.txCh).notifyTxFcn = args.notifyTxFcn ∧
      (after.info.queues args.rxCh).priv = args.priv ∧
      (after.info.queues args.rxCh).rxFcn = args.rxFcn := by
  have inside : ¬ (numQueues ≤ args.txCh ∨ numQueues ≤ args.rxCh) :=
    not_or.mpr ⟨Nat.not_le.mpr channels.1, Nat.not_le.mpr channels.2⟩
  have keeps := start_onlyData args (attachRx args (attachTx args state)).info
  simp only [mt7697qInit, ne_eq, not_true_eq_false, if_false, if_neg inside] at failed ⊢
  generalize start args (attachRx args (attachTx args state)).info = result at failed keeps
  obtain ⟨tx, sent⟩ := keeps args.txCh
  obtain ⟨rx, received⟩ := keeps args.rxCh
  simp only [if_pos failed, cleanup, sent, received]
  by_cases same : args.txCh = args.rxCh
  · simp [attachRx, attachTx, Info.setSpec, same]
  · simp [attachRx, attachTx, Info.setSpec, same, Function.update_of_ne]

/-- A slave with two empty rings of eight words, and one transfer that fails. -/
def unsent : State where
  info :=
    { queues := fun _ => ⟨⟨0, 0, 0, 0⟩, 0, 0, 0, 0⟩
      qinfo := ⟨.cleared, false⟩
      slaves := fun _ =>
        { memory := fun _ => 0, entry := ⟨0x80000, 0x20001000, 0, 0⟩, todo := [], agenda := []
          faults := [], m2sMailbox := 0, irq := false }
      faults := [none, none, some ⟨0, 4⟩] }
  txHndl := none
  rxHndl := none
  overrun := 0

/-- The request cannot be sent, and the receive queue stays in use. -/
theorem failed_init_in_use :
    ¬ ∀ lookup args state, AllOrNothing lookup args state := by
  intro allOrNothing
  have undone := allOrNothing .found ⟨0, 1, 7, 8, 9⟩ unsent (by decide)
  have inUse := (undone.cleared 1 ⟨by decide, Or.inr rfl⟩).1
  exact absurd inUse (by decide)

end MangOH.QueueInit
