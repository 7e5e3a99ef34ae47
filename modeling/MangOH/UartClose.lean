import Mathlib.Logic.Function.Basic
import MangOH.Ledger
import MangOH.Trace
import MangOH.UartReceive

/-!
Opening and closing the serial transport. Any number of callers share the
handle, the `close` flag and the worker that should clear it; a call is cut
where another one, the worker or the device may come between.
-/

namespace MangOH.UartClose

open Trace
open UartReceive (grpUart)

/-- The work item. `ending` has left its loop and not yet cleared `close`. -/
inductive Worker where
  | idle
  | queued
  | running
  | ending
  deriving DecidableEq

/-- Where a caller stands. `tested` has found the device open, and `oopsed`
has followed NULL. -/
inductive Task where
  | idle
  | opening
  | openFailed
  | tested
  | asking
  | waiting
  | closing
  | closed
  | oopsed
  deriving DecidableEq

/-- `again` is a work item queued while it runs. What was open at each return of
`mt7697_uart_close` and what failing opens gave back are kept. -/
structure Uart where
  fdHndl : Option Nat
  close : Bool
  worker : Worker
  again : Bool
  mutex : Option Nat
  task : Nat → Task
  files : Ledger Nat
  returned : List (Multiset Nat)
  putByOpen : List Nat

/-- What `mt7697_uart_probe` leaves. -/
def Uart.probed : Uart where
  fdHndl := none
  close := false
  worker := .idle
  again := false
  mutex := none
  task := fun _ => .idle
  files := .empty
  returned := []
  putByOpen := []

def Uart.become (tid : Nat) (task : Task) (uart : Uart) : Uart :=
  { uart with task := Function.update uart.task tid task }

/-- The end of a failing open, with what `uart_info->fd_hndl` then reads as. -/
def openCleanup (tid : Nat) (fdHndl : Option Nat) (uart : Uart) : Uart :=
  match fdHndl with
  | none => uart.become tid .idle
  | some file =>
      { uart with
        files := uart.files.release file
        putByOpen := file :: uart.putByOpen }.become tid .idle

def scheduleWork (uart : Uart) : Uart :=
  match uart.worker with
  | .idle => { uart with worker := .queued }
  | .queued => uart
  | .running => { uart with again := true }
  | .ending => { uart with again := true }

/-- `fd_hndl` loses what it held before, whether or not the file opens. -/
def filpOpen (tid : Nat) (file : Option Nat) (uart : Uart) : Uart :=
  match file with
  | none => { uart with fdHndl := none }.become tid .openFailed
  | some file =>
      { uart with fdHndl := some file, files := uart.files.acquire file }.become tid .opening

def closeReturns (tid : Nat) (uart : Uart) : Uart :=
  { uart with returned := uart.files.held :: uart.returned }.become tid .idle

/-- `mt7697_uart_snd_shutdown_req`, whose write takes the mutex. A device that
is closed by then fails it as well. -/
def sndShutdownReq (tid : Nat) (written : Bool) (uart : Uart) : Uart :=
  match uart.fdHndl with
  | none => closeReturns tid uart
  | some file =>
      let uart := { uart with files := uart.files.use file }
      if written = true then uart.become tid .waiting else closeReturns tid uart

/-- `filp_close` gives the file back also when its flush fails. The mutex is
kept until the handle is cleared. -/
def filpClose (tid : Nat) (flushed : Bool) (uart : Uart) : Uart :=
  match uart.fdHndl with
  | none => { uart with mutex := some tid }.become tid .oopsed
  | some file =>
      let uart := { uart with files := uart.files.release file }
      if flushed = true then { uart with mutex := some tid }.become tid .closed
      else closeReturns tid uart

/-- The end of `mt7697_uart_rx_work`. -/
def finish (uart : Uart) : Uart :=
  { uart with
    close := false
    worker := if uart.again = true then .queued else .idle
    again := false }

/-- The steps of `mt7697_uart_open`, of `mt7697_uart_close` and of the worker.
A lookup that fails leaves `uart_info` NULL, or leading to what the stack held. -/
inductive Event where
  | lookupFails (tid : Nat) (uartInfo : Option (Option Nat))
  | filpOpen (tid : Nat) (file : Option Nat)
  | openCleanup (tid : Nat)
  | schedule (tid : Nat)
  | closeTest (tid : Nat)
  | closeSet (tid : Nat)
  | sndShutdownReq (tid : Nat) (written : Bool)
  | wake (tid : Nat) (interrupted : Bool)
  | filpClose (tid : Nat) (flushed : Bool)
  | clear (tid : Nat)
  | workStarts
  | workFails
  | frame (grp : BitVec 8)
  | workEnds

def step (uart : Uart) : Event → Uart
  | .lookupFails tid uartInfo =>
      if uart.task tid = .idle then
        match uartInfo with
        | none => uart.become tid .oopsed
        | some fdHndl => openCleanup tid fdHndl uart
      else uart
  | .filpOpen tid file => if uart.task tid = .idle then filpOpen tid file uart else uart
  | .openCleanup tid =>
      if uart.task tid = .openFailed then openCleanup tid uart.fdHndl uart else uart
  | .schedule tid =>
      if uart.task tid = .opening then (scheduleWork { uart with close := false }).become tid .idle
      else uart
  | .closeTest tid =>
      if uart.task tid = .idle then
        if uart.fdHndl = none then closeReturns tid uart else uart.become tid .tested
      else uart
  | .closeSet tid =>
      if uart.task tid = .tested then { uart with close := true }.become tid .asking else uart
  | .sndShutdownReq tid written =>
      if uart.task tid = .asking ∧ uart.mutex = none then sndShutdownReq tid written uart else uart
  | .wake tid interrupted =>
      -- What the wait returns is not looked at.
      if uart.task tid = .waiting ∧ (uart.close = false ∨ interrupted = true) then
        uart.become tid .closing
      else uart
  | .filpClose tid flushed =>
      if uart.task tid = .closing ∧ uart.mutex = none then filpClose tid flushed uart else uart
  | .clear tid =>
      if uart.task tid = .closed then closeReturns tid { uart with fdHndl := none, mutex := none }
      else uart
  | .workStarts => if uart.worker = .queued then { uart with worker := .running } else uart
  | .workFails => if uart.worker = .running then { uart with worker := .ending } else uart
  | .frame grp =>
      if uart.worker = .running ∧ grp = grpUart ∧ uart.close = true then
        { uart with worker := .ending }
      else uart
  | .workEnds => if uart.worker = .ending then finish uart else uart

attribute [local simp] step

/-- The handle leads to the one file that is open. -/
def Open (uart : Uart) : Prop := ∃ file, uart.fdHndl = some file ∧ uart.files.held = {file}

/-- A close that waits for the flag has a worker to clear it, and a worker has
the file it reads from. A file that is open is the one in the handle, is given
back once, by `mt7697_uart_close`, and before that returns. -/
structure Handshake (uart : Uart) : Prop where
  waits : ∀ tid, uart.task tid = .waiting → uart.close = true → uart.worker ≠ .idle
  clears : ∀ event, uart.worker ≠ .idle → (step uart event).worker = .idle →
    (step uart event).close = false
  reads : uart.worker = .running → Open uart
  owned : uart.files.held = 0 ∨ Open uart
  misuses : uart.files.misuses = []
  returned : ∀ held ∈ uart.returned, held = 0
  putByOpen : uart.putByOpen = []

/-- From `filp_open` until the worker is scheduled, and from the request to
close until the handle is cleared. -/
def Task.underWay : Task → Bool
  | .idle => false
  | .tested => false
  | .oopsed => false
  | _ => true

def Alone (uart : Uart) (tid : Nat) : Prop :=
  ∀ other, other ≠ tid → (uart.task other).underWay = false

/-- A lookup that fails leaves nothing to give back. No call comes into another
one, no open replaces an open file, and no close comes after the worker has
ended. The request to close is written, and no signal ends the wait for it. -/
def Regular (uart : Uart) : Event → Prop
  | .lookupFails _ uartInfo => ∀ file, uartInfo ≠ some (some file)
  | .filpOpen tid _ => Alone uart tid ∧ ∀ file ∈ uart.fdHndl, file ∉ uart.files.held
  | .closeSet tid => Alone uart tid ∧ (uart.fdHndl ≠ none → uart.worker ≠ .idle)
  | .sndShutdownReq _ written => uart.fdHndl ≠ none → written = true
  | .wake _ interrupted => interrupted = true → uart.close = false
  | _ => True

/-! What a regular run keeps. -/

/-- What a caller relies on from where it stands. -/
def Phase (uart : Uart) : Task → Prop
  | .opening => Open uart ∧ uart.worker = .idle
  | .openFailed => uart.fdHndl = none
  | .asking => uart.fdHndl ≠ none → Open uart ∧ (uart.close = true ↔ uart.worker ≠ .idle)
  | .waiting => Open uart ∧ (uart.close = true ↔ uart.worker ≠ .idle)
  | .closing => Open uart ∧ uart.worker = .idle
  | .closed => uart.files.held = 0
  | _ => True

/-- What does not depend on the callers. -/
structure Books (uart : Uart) : Prop where
  owned : uart.files.held = 0 ∨ Open uart
  live : uart.worker ≠ .idle → Open uart
  again : uart.again = false
  misuses : uart.files.misuses = []
  returned : ∀ held ∈ uart.returned, held = 0
  putByOpen : uart.putByOpen = []

structure Sound (uart : Uart) : Prop where
  books : Books uart
  alone : ∀ tid, (uart.task tid).underWay = true → Alone uart tid
  phase : ∀ tid, Phase uart (uart.task tid)

variable {uart after : Uart} {tid : Nat} {task next : Task} {event : Event}

theorem probed_sound : Sound Uart.probed := by
  constructor
  · constructor
    · exact Or.inl rfl
    · exact fun live => absurd rfl live
    · rfl
    · rfl
    · exact fun _ none => absurd none List.not_mem_nil
    · rfl
  · exact fun _ busy => absurd busy Bool.noConfusion
  · exact fun _ => trivial

theorem phase_resting (rests : task.underWay = false) : Phase uart task := by
  cases task with
  | idle => trivial
  | tested => trivial
  | oopsed => trivial
  | _ => exact absurd rests Bool.noConfusion

/-- A caller looks at the handle, the flag and the files, and at whether the
worker has ended. -/
theorem phase_same (fdHndl : after.fdHndl = uart.fdHndl) (close : after.close = uart.close)
    (worker : after.worker = .idle ↔ uart.worker = .idle) (files : after.files = uart.files)
    (phase : Phase uart task) : Phase after task := by
  unfold Phase Open at phase ⊢
  rw [fdHndl, close, files]
  simp only [ne_eq, worker]
  exact phase

theorem Open.notHeld (opened : Open uart) : ¬∀ file ∈ uart.fdHndl, file ∉ uart.files.held := by
  obtain ⟨file, fdHndl, held⟩ := opened
  intro lost
  apply lost file fdHndl
  rw [held]
  exact Multiset.mem_singleton_self file

namespace Books

variable (books : Books uart)
include books

theorem idle_of_closed (closed : ¬Open uart) : uart.worker = .idle :=
  Decidable.byContradiction fun live => closed (books.live live)

theorem held_of_closed (closed : ¬Open uart) : uart.files.held = 0 := books.owned.resolve_right closed

theorem held_of_none (none : uart.fdHndl = none) : uart.files.held = 0 := by
  apply books.held_of_closed
  rintro ⟨file, some, _⟩
  rw [none] at some
  exact absurd some (Option.some_ne_none file).symm

end Books

/-- One caller moves while no other call is under way. -/
theorem sound_moved (alone : Alone uart tid) (books : Books after)
    (tasks : after.task = Function.update uart.task tid next) (phase : Phase after next) :
    Sound after := by
  have rests : ∀ other, other ≠ tid → (after.task other).underWay = false := by
    intro other apart
    rw [tasks, Function.update_of_ne apart]
    exact alone other apart
  constructor
  · exact books
  · intro one busy other apart
    by_cases mine : one = tid
    · subst mine
      exact rests other apart
    · exact absurd busy (Bool.eq_false_iff.mp (rests one mine))
  · intro one
    by_cases mine : one = tid
    · subst mine
      rw [tasks, Function.update_self]
      exact phase
    · exact phase_resting (rests one mine)

/-- A caller at rest moves, and stays at rest. -/
theorem Sound.rested (sound : Sound uart) (rests : (uart.task tid).underWay = false)
    (books : Books after) (tasks : after.task = Function.update uart.task tid next)
    (still : next.underWay = false) (phase : ∀ {task}, Phase uart task → Phase after task) :
    Sound after := by
  have same : ∀ other, (after.task other).underWay = (uart.task other).underWay := by
    intro other
    rw [tasks]
    by_cases mine : other = tid
    · subst mine
      rw [Function.update_self, still, rests]
    · rw [Function.update_of_ne mine]
  constructor
  · exact books
  · intro one busy other apart
    rw [same] at busy ⊢
    exact sound.alone one busy other apart
  · intro one
    rw [tasks]
    by_cases mine : one = tid
    · subst mine
      rw [Function.update_self]
      exact phase_resting still
    · rw [Function.update_of_ne mine]
      exact phase (sound.phase one)

/-- The worker moves. -/
theorem Sound.worked (sound : Sound uart) (books : Books after) (tasks : after.task = uart.task)
    (phase : ∀ {task}, Phase uart task → Phase after task) : Sound after := by
  constructor
  · exact books
  · unfold Alone
    rw [tasks]
    exact sound.alone
  · intro one
    rw [tasks]
    exact phase (sound.phase one)

/-- A caller that is under way is alone, and knows where it stands. -/
theorem Sound.mover (sound : Sound uart) (stands : uart.task tid = task)
    (busy : task.underWay = true) : Alone uart tid ∧ Phase uart task := by
  subst stands
  exact ⟨sound.alone tid busy, sound.phase tid⟩

theorem returned_cons {held : Multiset Nat} {returned : List (Multiset Nat)} (none : held = 0)
    (before : ∀ held ∈ returned, held = 0) : ∀ one ∈ held :: returned, one = 0 := by
  rw [List.forall_mem_cons]
  exact ⟨none, before⟩

/-! Opening. -/

theorem lookupFails_sound {uartInfo : Option (Option Nat)} (sound : Sound uart)
    (nothing : ∀ file, uartInfo ≠ some (some file)) :
    Sound (step uart (.lookupFails tid uartInfo)) := by
  simp only [step]
  split
  · rename_i idle
    have rests : (uart.task tid).underWay = false := by
      rw [idle]
      rfl
    cases uartInfo with
    | none => exact sound.rested rests { sound.books with } rfl rfl (phase_same rfl rfl Iff.rfl rfl)
    | some fdHndl =>
        cases fdHndl with
        | none => exact sound.rested rests { sound.books with } rfl rfl (phase_same rfl rfl Iff.rfl rfl)
        | some file => exact absurd rfl (nothing file)
  · exact sound

/-- Whatever comes back from `filp_open`, no open file is lost. -/
theorem filpOpen_sound {file : Option Nat} (sound : Sound uart) (alone : Alone uart tid)
    (closed : ∀ file ∈ uart.fdHndl, file ∉ uart.files.held) :
    Sound (step uart (.filpOpen tid file)) := by
  have shut : ¬Open uart := fun opened => opened.notHeld closed
  have held := sound.books.held_of_closed shut
  have idle := sound.books.idle_of_closed shut
  simp only [step]
  split
  · cases file with
    | none =>
        refine sound_moved alone ?_ rfl rfl
        exact { sound.books with
          owned := Or.inl held
          live := fun live => absurd idle live }
    | some file =>
        have opened : Open (filpOpen tid (some file) uart) := by
          refine ⟨file, rfl, ?_⟩
          simp only [filpOpen, Uart.become, Ledger.acquire_held, held]
          rfl
        refine sound_moved alone ?_ rfl ⟨opened, idle⟩
        exact { sound.books with
          owned := Or.inr opened
          live := fun _ => opened }
  · exact sound

theorem openCleanup_sound (sound : Sound uart) : Sound (step uart (.openCleanup tid)) := by
  simp only [step]
  split
  · rename_i stands
    obtain ⟨alone, none⟩ := sound.mover stands rfl
    have fdHndl : uart.fdHndl = Option.none := none
    simp only [openCleanup, fdHndl]
    exact sound_moved alone { sound.books with } rfl trivial
  · exact sound

theorem schedule_sound (sound : Sound uart) : Sound (step uart (.schedule tid)) := by
  simp only [step]
  split
  · rename_i stands
    obtain ⟨alone, opened, idle⟩ := sound.mover stands rfl
    have queued : scheduleWork { uart with close := false } =
        { uart with close := false, worker := .queued } := by
      simp only [scheduleWork, idle]
    rw [queued]
    refine sound_moved alone ?_ rfl trivial
    exact { sound.books with
      owned := Or.inr opened
      live := fun _ => opened }
  · exact sound

/-! Closing. -/

theorem closeTest_sound (sound : Sound uart) : Sound (step uart (.closeTest tid)) := by
  simp only [step]
  split
  · rename_i idle
    have rests : (uart.task tid).underWay = false := by
      rw [idle]
      rfl
    split
    · rename_i none
      refine sound.rested rests ?_ rfl rfl (phase_same rfl rfl Iff.rfl rfl)
      exact { sound.books with
        returned := returned_cons (sound.books.held_of_none none) sound.books.returned }
    · exact sound.rested rests { sound.books with } rfl rfl (phase_same rfl rfl Iff.rfl rfl)
  · exact sound

theorem closeSet_sound (sound : Sound uart) (alone : Alone uart tid)
    (alive : uart.fdHndl ≠ none → uart.worker ≠ .idle) : Sound (step uart (.closeSet tid)) := by
  simp only [step]
  split
  · refine sound_moved alone { sound.books with } rfl ?_
    intro open_
    have live := alive open_
    exact ⟨sound.books.live live, iff_of_true rfl live⟩
  · exact sound

theorem sndShutdownReq_sound {written : Bool} (sound : Sound uart)
    (writes : uart.fdHndl ≠ none → written = true) :
    Sound (step uart (.sndShutdownReq tid written)) := by
  simp only [step]
  split
  · rename_i stands
    obtain ⟨alone, phase⟩ := sound.mover stands.1 rfl
    unfold sndShutdownReq
    split
    · rename_i none
      refine sound_moved alone ?_ rfl trivial
      exact { sound.books with
        returned := returned_cons (sound.books.held_of_none none) sound.books.returned }
    · rename_i file some
      have open_ : uart.fdHndl ≠ none := some ▸ Option.some_ne_none file
      obtain ⟨opened, answered⟩ := phase open_
      have used : uart.files.use file = uart.files := by
        obtain ⟨other, same, held⟩ := opened
        cases some.symm.trans same
        exact Ledger.use_held (held ▸ Multiset.mem_singleton_self file)
      rw [used, if_pos (writes open_)]
      exact sound_moved alone { sound.books with } rfl ⟨opened, answered⟩
  · exact sound

theorem wake_sound {interrupted : Bool} (sound : Sound uart)
    (quiet : interrupted = true → uart.close = false) :
    Sound (step uart (.wake tid interrupted)) := by
  simp only [step]
  split
  · rename_i stands
    obtain ⟨alone, opened, answered⟩ := sound.mover stands.1 rfl
    have cleared : uart.close = false := stands.2.elim id quiet
    have idle : uart.worker = .idle := by
      by_contra live
      have set := answered.mpr live
      rw [cleared] at set
      exact Bool.noConfusion set
    exact sound_moved alone { sound.books with } rfl ⟨opened, idle⟩
  · exact sound

theorem filpClose_sound {flushed : Bool} (sound : Sound uart) :
    Sound (step uart (.filpClose tid flushed)) := by
  simp only [step]
  split
  · rename_i stands
    obtain ⟨alone, ⟨file, some, held⟩, idle⟩ := sound.mover stands.1 rfl
    have released : uart.files.release file = ⟨0, uart.files.misuses⟩ := Ledger.release_of_held held
    simp only [filpClose, some, released]
    split
    · refine sound_moved alone ?_ rfl rfl
      exact { sound.books with
        owned := Or.inl rfl
        live := fun live => absurd idle live }
    · refine sound_moved alone ?_ rfl trivial
      exact { sound.books with
        owned := Or.inl rfl
        live := fun live => absurd idle live
        returned := returned_cons rfl sound.books.returned }
  · exact sound

theorem clear_sound (sound : Sound uart) : Sound (step uart (.clear tid)) := by
  simp only [step]
  split
  · rename_i stands
    obtain ⟨alone, none⟩ := sound.mover stands rfl
    have held : uart.files.held = 0 := none
    have shut : ¬Open uart := by
      rintro ⟨file, _, one⟩
      rw [held] at one
      exact Multiset.zero_ne_singleton file one
    have idle := sound.books.idle_of_closed shut
    refine sound_moved alone ?_ rfl trivial
    exact { sound.books with
      owned := Or.inl held
      live := fun live => absurd idle live
      returned := returned_cons held sound.books.returned }
  · exact sound

/-! The worker. -/

/-- A step in which the worker neither begins nor ends. -/
theorem Sound.turned {worker : Worker} (sound : Sound uart) (before : uart.worker ≠ .idle)
    (live : worker ≠ .idle) : Sound { uart with worker := worker } := by
  have opened := sound.books.live before
  refine sound.worked ?_ rfl (phase_same rfl rfl (iff_of_false live before) rfl)
  exact { sound.books with live := fun _ => opened }

/-- Before the worker has ended nobody can be opening or about to close. -/
theorem phase_ended (live : uart.worker ≠ .idle) (phase : Phase uart task) :
    Phase { uart with close := false, worker := .idle } task := by
  have answered : (false = true ↔ Worker.idle ≠ .idle) :=
    iff_of_false Bool.noConfusion (fun busy => busy rfl)
  cases task with
  | idle => trivial
  | opening => exact absurd phase.2 live
  | openFailed => exact phase
  | tested => trivial
  | asking => exact fun open_ => ⟨(phase open_).1, answered⟩
  | waiting => exact ⟨phase.1, answered⟩
  | closing => exact absurd phase.2 live
  | closed => exact phase
  | oopsed => trivial

theorem finish_sound (sound : Sound uart) (ending : uart.worker = .ending) : Sound (finish uart) := by
  have live : uart.worker ≠ .idle := ending ▸ Worker.noConfusion
  have idle : finish uart = { uart with close := false, worker := .idle } := by
    simp only [finish, sound.books.again]
    rfl
  rw [idle]
  refine sound.worked ?_ rfl (phase_ended live)
  exact { sound.books with live := fun live => absurd rfl live }

/-! Callers leave the worker as it is, but for the one that schedules it. -/

@[simp] theorem become_worker : (uart.become tid task).worker = uart.worker := rfl

@[simp] theorem closeReturns_worker : (closeReturns tid uart).worker = uart.worker := rfl

@[simp] theorem openCleanup_worker {fdHndl : Option Nat} :
    (openCleanup tid fdHndl uart).worker = uart.worker := by
  unfold openCleanup
  split <;> rfl

@[simp] theorem filpOpen_worker {file : Option Nat} :
    (filpOpen tid file uart).worker = uart.worker := by
  unfold filpOpen
  split <;> rfl

@[simp] theorem sndShutdownReq_worker {written : Bool} :
    (sndShutdownReq tid written uart).worker = uart.worker := by
  unfold sndShutdownReq
  split
  · rfl
  · split <;> rfl

@[simp] theorem filpClose_worker {flushed : Bool} :
    (filpClose tid flushed uart).worker = uart.worker := by
  unfold filpClose
  split
  · rfl
  · split <;> rfl

theorem scheduleWork_live : (scheduleWork uart).worker ≠ .idle := by
  unfold scheduleWork
  cases worker : uart.worker with
  | _ => simp [worker]

/-- Only a worker that clears the flag ends. -/
theorem step_clears (live : uart.worker ≠ .idle) (gone : (step uart event).worker = .idle) :
    (step uart event).close = false := by
  cases event with
  | workEnds =>
      simp only [step] at gone ⊢
      split at gone
      · rename_i ending
        rw [if_pos ending]
        rfl
      · exact absurd gone live
  | schedule tid =>
      simp only [step] at gone
      split at gone
      · exact absurd gone scheduleWork_live
      · exact absurd gone live
  | _ =>
      exfalso
      simp only [step] at gone
      grind [become_worker, closeReturns_worker, openCleanup_worker, filpOpen_worker,
        sndShutdownReq_worker, filpClose_worker]

theorem step_sound (sound : Sound uart) (regular : Regular uart event) : Sound (step uart event) := by
  cases event with
  | lookupFails tid uartInfo => exact lookupFails_sound sound regular
  | filpOpen tid file => exact filpOpen_sound sound regular.1 regular.2
  | openCleanup tid => exact openCleanup_sound sound
  | schedule tid => exact schedule_sound sound
  | closeTest tid => exact closeTest_sound sound
  | closeSet tid => exact closeSet_sound sound regular.1 regular.2
  | sndShutdownReq tid written => exact sndShutdownReq_sound sound regular
  | wake tid interrupted => exact wake_sound sound regular
  | filpClose tid flushed => exact filpClose_sound sound
  | clear tid => exact clear_sound sound
  | workStarts =>
      simp only [step]
      split
      · rename_i queued
        exact sound.turned (queued ▸ Worker.noConfusion) Worker.noConfusion
      · exact sound
  | workFails =>
      simp only [step]
      split
      · rename_i running
        exact sound.turned (running ▸ Worker.noConfusion) Worker.noConfusion
      · exact sound
  | frame grp =>
      simp only [step]
      split
      · rename_i last
        exact sound.turned (last.1 ▸ Worker.noConfusion) Worker.noConfusion
      · exact sound
  | workEnds =>
      simp only [step]
      split
      · rename_i ending
        exact finish_sound sound ending
      · exact sound

theorem Sound.handshake (sound : Sound uart) : Handshake uart := by
  constructor
  · intro tid waiting
    have phase := sound.phase tid
    rw [waiting] at phase
    exact phase.2.mp
  · exact fun event => step_clears
  · exact fun running => sound.books.live (running ▸ Worker.noConfusion)
  · exact sound.books.owned
  · exact sound.books.misuses
  · exact sound.books.returned
  · exact sound.books.putByOpen

/-- The handshake holds in every run that is regular at each step. -/
theorem handshake_kept {events : List Event} (regular : Along step Regular Uart.probed events) :
    Handshake (run step Uart.probed events) :=
  (along_invariant step_sound probed_sound regular).handshake

def openedAndClosed : List Event :=
  [.filpOpen 0 (some 3), .schedule 0, .workStarts, .closeTest 0, .closeSet 0, .sndShutdownReq 0 true,
    .frame grpUart, .workEnds, .wake 0 false, .filpClose 0 true, .clear 0]

theorem handshake_kept_cycle : Handshake (run step Uart.probed openedAndClosed) := by
  apply handshake_kept
  refine ⟨⟨fun _ _ => rfl, by decide⟩, trivial, trivial, trivial, ⟨?_, by decide⟩, fun _ => rfl,
    trivial, trivial, fun _ => rfl, trivial, trivial, trivial⟩
  intro other apart
  simp [step, Uart.probed, filpOpen, scheduleWork, Uart.become, Function.update, apart,
    Task.underWay]

/-- A close that comes after the worker has ended waits for nobody when its
request is written, and leaves the file open when it is not. -/
theorem late_close {written : Bool} (stands : uart.task tid = .tested) (free : uart.mutex = none)
    (some : uart.fdHndl ≠ none) (held : uart.files.held ≠ 0) (idle : uart.worker = .idle) :
    ¬Handshake (run step uart [.closeSet tid, .sndShutdownReq tid written]) := by
  intro handshake
  obtain ⟨file, fdHndl⟩ := Option.ne_none_iff_exists'.mp some
  cases written with
  | true =>
      have waits := handshake.waits tid
      simp [run, stands, Uart.become, free, sndShutdownReq, fdHndl, idle] at waits
  | false =>
      have returned := handshake.returned uart.files.held
      simp [run, stands, Uart.become, free, sndShutdownReq, fdHndl, closeReturns] at returned
      exact held returned

section Receive
open QueueReceive UartReceive
variable {Priv : Type} {handler : RxHandler Priv} {rx : UartReceive.Uart Priv}

/-- The step that a pass of the receive worker comes to. -/
def passEvent (rx : UartReceive.Uart Priv) : Event :=
  if mt7697UartRxPoll rx.tty ≠ 0 ∨ (readHeader rx).2 ≠ (headerWords : Int) then .workFails
  else .frame (readHeader rx).1.rsp.grp

/-- The worker goes on where the receive worker does. -/
theorem rxFrame_follows (running : uart.worker = .running) (close : rx.close = uart.close) :
    (step uart (passEvent rx)).worker = .running ↔ ∃ later, rxFrame handler rx = .ok later := by
  have flag : (readHeader rx).1.close = uart.close := close
  unfold passEvent rxFrame
  by_cases polled : mt7697UartRxPoll rx.tty = 0
  · by_cases whole : (readHeader rx).2 = (headerWords : Int)
    · by_cases own : (readHeader rx).1.rsp.grp = grpUart
      · by_cases set : uart.close = true
        · simp [polled, whole, own, set, flag, running]
        · simp [polled, whole, own, set, flag, running]
      · simp [polled, whole, own, running]
    · simp [polled, whole, running]
  · simp [polled, running]

end Receive

/-- A worker that has ended before the close. -/
theorem ended_worker_is_waited_for :
    ¬∀ events : List Event, Handshake (run step Uart.probed events) := by
  intro always
  have handshake := always [.filpOpen 0 (some 3), .schedule 0, .workStarts, .workFails, .workEnds,
    .closeTest 0, .closeSet 0, .sndShutdownReq 0 true]
  exact handshake.waits 0 (by decide) (by decide) (by decide)

end MangOH.UartClose
