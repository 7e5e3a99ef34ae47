import MangOH.Trace
import Mathlib.Logic.Function.Basic

/-!
The lock of the light sensor with its interrupt. A reading holds `opt->lock` while it
waits for the interrupt handler, which is told by a flag not to take the lock. The
handler tests the flag once before its work and once behind it. Any number of threads
read or do something else under the lock; there is one handler at a time.
-/

namespace MangOH.LightLock

open Trace

/-- Where a thread stands. The phases from `locked` on are those of
`opt300x_get_reading`, each named by what comes next; `other` is any other operation
that holds the lock. A conversion is known by its number. -/
inductive Task where
  | idle
  | other
  | writeLimit
  | allow
  | reset
  | readConfig
  | writeConfig
  | waiting (conversion : Nat)
  | failing
  | finished (conversion : Nat)
  | restoring (conversion : Nat)
  | unlock
deriving DecidableEq

/-- Where the handler stands, and whether it has taken the lock. `testing` is behind the
label `out`. -/
inductive Handler where
  | idle
  | locking
  | readConfig (locked : Bool)
  | readResult (locked : Bool)
  | store (locked : Bool) (result : Option Nat)
  | ready (locked : Bool)
  | testing (locked : Bool)
  | unlock (locked : Bool)
deriving DecidableEq

inductive Thread where
  | task (tid : Nat)
  | handler
deriving DecidableEq

/-- The results are known by the conversion they come from, `none` for one that no
reading has started. The last three fields record the run: the threads that unlocked
without holding the lock, what each handler did about it, and for each reading that
succeeded its conversion with the one of its result. -/
structure Light where
  lock : Option Thread
  okToIgnoreLock : Bool
  resultReady : Bool
  result : Option Nat
  task : Nat → Task
  handler : Handler
  resultReg : Option Nat
  running : Option Nat
  started : Nat
  misuses : List Thread
  handled : List (Bool × Bool)
  readings : List (Nat × Option Nat)

def Light.probed : Light where
  lock := none
  okToIgnoreLock := false
  resultReady := false
  result := none
  task := fun _ => .idle
  handler := .idle
  resultReg := none
  running := none
  started := 0
  misuses := []
  handled := []
  readings := []

/-- The configuration register, as the handler looks at it. -/
structure Config where
  continuous : Bool
  conversionReady : Bool

/-- The steps of the operations, those of the handler from `irq` on, and those of the
device. A transfer that fails is `false` or `none`. -/
inductive Event where
  | lock (tid : Nat) (reading : Bool)
  | writeLimit (tid : Nat) (written : Bool)
  | allow (tid : Nat)
  | reset (tid : Nat)
  | readConfig (tid : Nat) (read : Bool)
  | writeConfig (tid : Nat) (written : Bool)
  | waitEnds (tid : Nat)
  | disallow (tid : Nat)
  | restore (tid : Nat) (written : Bool)
  | unlock (tid : Nat)
  | irq
  | irqLock
  | irqReadConfig (config : Option Config)
  | irqReadResult (read : Bool)
  | irqStore
  | irqReady
  | irqTest
  | irqUnlock
  | converted
  | sampled

namespace Light

variable (light : Light)

def become (tid : Nat) (task : Task) : Light :=
  { light with task := Function.update light.task tid task }

/-- `mutex_unlock`, whoever holds the lock. -/
def unlockBy (thread : Thread) : Light :=
  { light with
    lock := none
    misuses := if light.lock = some thread then light.misuses else thread :: light.misuses }

/-- A lock that is held is waited for. -/
def lockTask (tid : Nat) (reading : Bool) : Light :=
  if light.task tid = .idle ∧ light.lock = none then
    { light with lock := some (.task tid) }.become tid (if reading then .writeLimit else .other)
  else light

/-- The end of the wait: at once with a result, otherwise at the timeout. -/
def waitEnds (tid : Nat) : Light :=
  match light.task tid with
  | .waiting conversion =>
      light.become tid (if light.resultReady then .finished conversion else .failing)
  | _ => light

/-- Behind the label `err`. -/
def disallow (tid : Nat) : Light :=
  match light.task tid with
  | .failing => { light with okToIgnoreLock := false }.become tid .unlock
  | .finished conversion => { light with okToIgnoreLock := false }.become tid (.restoring conversion)
  | _ => light

def restore (tid : Nat) (written : Bool) : Light :=
  match light.task tid with
  | .restoring conversion =>
      if written then
        { light with readings := (conversion, light.result) :: light.readings }.become tid .unlock
      else light.become tid .unlock
  | _ => light

def unlockTask (tid : Nat) : Light :=
  if light.task tid = .unlock ∨ light.task tid = .other then
    (light.unlockBy (.task tid)).become tid .idle
  else light

def irqReadConfig (config : Option Config) : Light :=
  match light.handler with
  | .readConfig locked =>
      match config with
      | none => { light with handler := .testing locked }
      | some config =>
          if ¬config.continuous ∧ config.conversionReady then
            { light with handler := .readResult locked }
          else { light with handler := .testing locked }
  | _ => light

def irqReadResult (read : Bool) : Light :=
  match light.handler with
  | .readResult locked =>
      { light with handler := if read then .store locked light.resultReg else .testing locked }
  | _ => light

def irqStore : Light :=
  match light.handler with
  | .store locked result => { light with result := result, handler := .ready locked }
  | _ => light

def irqReady : Light :=
  match light.handler with
  | .ready locked => { light with resultReady := true, handler := .testing locked }
  | _ => light

/-- The second test of the flag. -/
def irqTest : Light :=
  match light.handler with
  | .testing locked =>
      if light.okToIgnoreLock then
        { light with handler := .idle, handled := (locked, false) :: light.handled }
      else { light with handler := .unlock locked }
  | _ => light

def irqUnlock : Light :=
  match light.handler with
  | .unlock locked =>
      let light := light.unlockBy .handler
      { light with handler := .idle, handled := (locked, true) :: light.handled }
  | _ => light

def step (light : Light) : Event → Light
  | .lock tid reading => light.lockTask tid reading
  | .writeLimit tid written =>
      if light.task tid = .writeLimit then light.become tid (if written then .allow else .unlock)
      else light
  | .allow tid =>
      if light.task tid = .allow then { light with okToIgnoreLock := true }.become tid .reset else light
  | .reset tid =>
      if light.task tid = .reset then { light with resultReady := false }.become tid .readConfig
      else light
  | .readConfig tid read =>
      if light.task tid = .readConfig then
        light.become tid (if read then .writeConfig else .failing)
      else light
  | .writeConfig tid written =>
      if light.task tid = .writeConfig then
        if written then
          { light with running := some light.started, started := light.started + 1 }.become tid
            (.waiting light.started)
        else light.become tid (.failing)
      else light
  | .waitEnds tid => light.waitEnds tid
  | .disallow tid => light.disallow tid
  | .restore tid written => light.restore tid written
  | .unlock tid => light.unlockTask tid
  | .irq =>
      if light.handler = .idle then
        { light with handler := if light.okToIgnoreLock then .readConfig false else .locking }
      else light
  | .irqLock =>
      if light.handler = .locking ∧ light.lock = none then
        { light with lock := some .handler, handler := .readConfig true }
      else light
  | .irqReadConfig config => light.irqReadConfig config
  | .irqReadResult read => light.irqReadResult read
  | .irqStore => light.irqStore
  | .irqReady => light.irqReady
  | .irqTest => light.irqTest
  | .irqUnlock => light.irqUnlock
  | .converted =>
      match light.running with
      | none => light
      | some conversion => { light with resultReg := some conversion, running := none }
  | .sampled => { light with resultReg := none }

end Light

/-- A handler unlocks just if it locked, nobody else unlocks what it does not hold, the
lock is free when everybody is done, and a reading returns its own conversion. -/
structure Discipline (light : Light) : Prop where
  handled : ∀ done ∈ light.handled, done.1 = done.2
  misuses : light.misuses = []
  free : (∀ tid, light.task tid = .idle) → light.handler = .idle → light.lock = none
  readings : ∀ reading ∈ light.readings, reading.2 = some reading.1

/-- The phases of a reading in which the flag is set. -/
def Task.flagged : Task → Bool
  | .reset | .readConfig | .writeConfig | .waiting _ | .failing | .finished _ => true
  | .idle | .other | .writeLimit | .allow | .restoring _ | .unlock => false

def Task.leaving : Task → Bool
  | .failing | .finished _ => true
  | _ => false

/-- A result that does no harm to a reading: its own, or any once it has failed. -/
def Task.Takes (result : Option Nat) : Task → Prop
  | .waiting conversion | .finished conversion => result = some conversion
  | .reset | .readConfig | .writeConfig => False
  | _ => True

/-- A handler that did not take the lock, up to its second test. -/
def Handler.skipping : Handler → Bool
  | .readConfig locked | .readResult locked | .store locked _ | .ready locked | .testing locked =>
      !locked
  | .idle | .locking | .unlock _ => false

/-- The flag is not cleared under a handler that found it set, and such a handler reads a
result only once the conversion of the reading in progress is complete. -/
def Timely (light : Light) : Event → Prop
  | .disallow tid => (light.task tid).leaving = true → light.handler.skipping = false
  | .irqReadResult _ =>
      light.handler = .readResult false → ∀ tid, (light.task tid).Takes light.resultReg
  | _ => True

/-! What a timely run keeps. -/

def Handler.holds : Handler → Bool
  | .readConfig locked | .readResult locked | .store locked _ | .ready locked | .testing locked =>
      locked
  | .unlock locked => locked
  | .idle | .locking => false

/-- Who has the lock, with the phase of the thread that has it: the others are idle. -/
inductive Owned (light : Light) : Task → Prop where
  | free (lock : light.lock = none) (tasks : ∀ tid, light.task tid = .idle)
      (handler : light.handler.holds = false) : Owned light .idle
  | handler (lock : light.lock = some .handler) (tasks : ∀ tid, light.task tid = .idle)
      (handler : light.handler.holds = true) : Owned light .idle
  | task (tid : Nat) {current : Task} (lock : light.lock = some (.task tid))
      (busy : current ≠ .idle) (tasks : light.task = Function.update (fun _ => .idle) tid current)
      (handler : light.handler.holds = false) : Owned light current

/-- What a reading relies on from where it stands. -/
def Phase (light : Light) : Task → Prop
  | .readConfig | .writeConfig => light.resultReady = false
  | .waiting conversion => light.resultReady = true → light.result = some conversion
  | .finished conversion | .restoring conversion => light.result = some conversion
  | _ => True

/-- What a handler without the lock is about to leave. -/
def Carried (light : Light) (current : Task) : Handler → Prop
  | .store false result => current.Takes result
  | .ready false => current.Takes light.result
  | _ => True

structure Books (light : Light) : Prop where
  handled : ∀ done ∈ light.handled, done.1 = done.2
  misuses : light.misuses = []
  readings : ∀ reading ∈ light.readings, reading.2 = some reading.1

structure Steady (light : Light) (current : Task) : Prop where
  flag : light.okToIgnoreLock = current.flagged
  skipping : light.handler.skipping = true → current.flagged = true
  unlocks : light.handler ≠ .unlock false
  phase : Phase light current
  carried : Carried light current light.handler
  books : Books light

def Sound (light : Light) : Prop := ∃ current, Owned light current ∧ Steady light current

variable {light after : Light} {tid : Nat} {now next current : Task}

theorem probed_sound : Sound .probed := by
  refine ⟨.idle, .free rfl (fun _ => rfl) rfl, rfl, ?_, ?_, trivial, trivial, ?_, rfl, ?_⟩
  · exact fun skipping => absurd skipping Bool.false_ne_true
  · exact Handler.noConfusion
  · exact fun _ none => absurd none List.not_mem_nil
  · exact fun _ none => absurd none List.not_mem_nil

/-- A thread that is not idle has the lock, and is the only one. -/
theorem Owned.mover (owned : Owned light current) (stands : light.task tid = now)
    (busy : now ≠ .idle) :
    current = now ∧ light.lock = some (.task tid) ∧
      light.task = Function.update (fun _ => .idle) tid now ∧ light.handler.holds = false := by
  subst stands
  cases owned with
  | free _ tasks => exact absurd (tasks tid) busy
  | handler _ tasks => exact absurd (tasks tid) busy
  | task owner lock _ tasks handler =>
      by_cases mine : tid = owner
      · subst mine
        have here : light.task tid = current := by rw [tasks, Function.update_self]
        exact ⟨here.symm, lock, here ▸ tasks, handler⟩
      · rw [tasks, Function.update_of_ne mine] at busy
        exact absurd rfl busy

/-- The thread that has the lock goes on. -/
theorem Sound.moved (sound : Sound light) (stands : light.task tid = now) (busy : now ≠ .idle)
    (goes : next ≠ .idle) (lock : after.lock = light.lock) (handler : after.handler = light.handler)
    (tasks : after.task = Function.update light.task tid next)
    (steady : Steady light now → Steady after next) : Sound after := by
  obtain ⟨current, owned, kept⟩ := sound
  obtain ⟨rfl, mine, single, free⟩ := owned.mover stands busy
  refine ⟨next, .task tid (lock.trans mine) goes ?_ (handler ▸ free), steady kept⟩
  rw [tasks, single, Function.update_idem]

/-- The handler goes on, and no thread with the lock does. -/
theorem Sound.handled (sound : Sound light) (lock : after.lock = light.lock)
    (tasks : after.task = light.task) (holds : after.handler.holds = light.handler.holds)
    (steady : ∀ {current}, Owned light current → Steady light current → Steady after current) :
    Sound after := by
  obtain ⟨current, owned, kept⟩ := sound
  refine ⟨current, ?_, steady owned kept⟩
  cases owned with
  | free none idle free => exact .free (lock.trans none) (tasks ▸ idle) (holds.trans free)
  | handler some idle held => exact .handler (lock.trans some) (tasks ▸ idle) (holds.trans held)
  | task tid some busy single free =>
      exact .task tid (lock.trans some) busy (tasks.trans single) (holds.trans free)

theorem Sound.discipline (sound : Sound light) : Discipline light := by
  obtain ⟨current, owned, kept⟩ := sound
  refine ⟨kept.books.handled, kept.books.misuses, fun tasks handler => ?_, kept.books.readings⟩
  cases owned with
  | free none => exact none
  | handler _ _ held =>
      rw [handler] at held
      exact absurd held Bool.false_ne_true
  | task tid _ busy single =>
      have idle := tasks tid
      rw [single, Function.update_self] at idle
      exact absurd idle busy

theorem carried_quiet {handler : Handler} (quiet : handler.skipping = false) :
    Carried light current handler := by
  cases handler with
  | store locked result =>
      cases locked with
      | true => trivial
      | false => exact absurd quiet Bool.noConfusion
  | ready locked =>
      cases locked with
      | true => trivial
      | false => exact absurd quiet Bool.noConfusion
  | _ => trivial

theorem carried_imp {handler : Handler} (takes : ∀ {result}, now.Takes result → next.Takes result)
    (same : after.result = light.result) (carried : Carried light now handler) :
    Carried after next handler := by
  cases handler with
  | store locked result =>
      cases locked with
      | true => trivial
      | false => exact takes carried
  | ready locked =>
      cases locked with
      | true => trivial
      | false =>
          rw [Carried, same]
          exact takes carried
  | _ => trivial

/-- Outside of the flag's phases no handler is without the lock. -/
theorem Steady.quiet (kept : Steady light now) (flagged : now.flagged = false) :
    light.handler.skipping = false := by
  cases skips : light.handler.skipping with
  | false => rfl
  | true =>
      rw [kept.skipping skips] at flagged
      exact absurd flagged Bool.noConfusion

/-! The steps of a thread. -/

/-- A thread goes on to a phase with the flag as it is. -/
theorem Steady.goes (kept : Steady light now) (handler : after.handler = light.handler)
    (flag : after.okToIgnoreLock = light.okToIgnoreLock) (flagged : next.flagged = now.flagged)
    (phase : Phase after next) (carried : Carried after next light.handler)
    (books : Books light → Books after) : Steady after next := by
  constructor
  · rw [flag, flagged]
    exact kept.flag
  · rw [handler, flagged]
    exact kept.skipping
  · exact handler ▸ kept.unlocks
  · exact phase
  · exact handler ▸ carried
  · exact books kept.books

theorem lockTask_sound (tid : Nat) (reading : Bool) (sound : Sound light) :
    Sound (light.lockTask tid reading) := by
  rw [Light.lockTask]
  split
  · rename_i free
    obtain ⟨current, owned, kept⟩ := sound
    obtain ⟨rfl, tasks, holds⟩ : current = .idle ∧ (∀ tid, light.task tid = .idle) ∧
        light.handler.holds = false := by
      cases owned with
      | free _ tasks holds => exact ⟨rfl, tasks, holds⟩
      | handler some => exact absurd (free.2.symm.trans some) (Option.some_ne_none _).symm
      | task _ some => exact absurd (free.2.symm.trans some) (Option.some_ne_none _).symm
    have quiet := kept.quiet rfl
    have single : light.task = fun _ => .idle := funext tasks
    cases reading with
    | true =>
        refine ⟨.writeLimit, .task tid rfl Task.noConfusion ?_ holds, ?_⟩
        · exact congrArg (Function.update · tid _) single
        · exact kept.goes rfl rfl rfl trivial (carried_quiet quiet) fun books => { books with }
    | false =>
        refine ⟨.other, .task tid rfl Task.noConfusion ?_ holds, ?_⟩
        · exact congrArg (Function.update · tid _) single
        · exact kept.goes rfl rfl rfl trivial (carried_quiet quiet) fun books => { books with }
  · exact sound

theorem writeLimit_sound (tid : Nat) (written : Bool) (sound : Sound light) :
    Sound (light.step (.writeLimit tid written)) := by
  rw [Light.step]
  split
  · rename_i stands
    cases written with
    | true =>
        exact sound.moved stands Task.noConfusion Task.noConfusion rfl rfl rfl fun kept =>
          kept.goes rfl rfl rfl trivial (carried_quiet (kept.quiet rfl)) fun books => { books with }
    | false =>
        exact sound.moved stands Task.noConfusion Task.noConfusion rfl rfl rfl fun kept =>
          kept.goes rfl rfl rfl trivial (carried_quiet (kept.quiet rfl)) fun books => { books with }
  · exact sound

theorem allow_sound (tid : Nat) (sound : Sound light) : Sound (light.step (.allow tid)) := by
  rw [Light.step]
  split
  · rename_i stands
    refine sound.moved stands Task.noConfusion Task.noConfusion rfl rfl rfl fun kept => ?_
    exact ⟨rfl, fun _ => rfl, kept.unlocks, trivial, carried_quiet (kept.quiet rfl),
      { kept.books with }⟩
  · exact sound

theorem reset_sound (tid : Nat) (sound : Sound light) : Sound (light.step (.reset tid)) := by
  rw [Light.step]
  split
  · rename_i stands
    exact sound.moved stands Task.noConfusion Task.noConfusion rfl rfl rfl fun kept =>
      kept.goes rfl rfl rfl rfl (carried_imp False.elim rfl kept.carried) fun books => { books with }
  · exact sound

theorem readConfig_sound (tid : Nat) (read : Bool) (sound : Sound light) :
    Sound (light.step (.readConfig tid read)) := by
  rw [Light.step]
  split
  · rename_i stands
    cases read with
    | true =>
        exact sound.moved stands Task.noConfusion Task.noConfusion rfl rfl rfl fun kept =>
          kept.goes rfl rfl rfl kept.phase (carried_imp False.elim rfl kept.carried)
            fun books => { books with }
    | false =>
        exact sound.moved stands Task.noConfusion Task.noConfusion rfl rfl rfl fun kept =>
          kept.goes rfl rfl rfl trivial (carried_imp False.elim rfl kept.carried)
            fun books => { books with }
  · exact sound

theorem writeConfig_sound (tid : Nat) (written : Bool) (sound : Sound light) :
    Sound (light.step (.writeConfig tid written)) := by
  rw [Light.step]
  split
  · rename_i stands
    cases written with
    | true =>
        refine sound.moved stands Task.noConfusion Task.noConfusion rfl rfl rfl fun kept => ?_
        have cleared : light.resultReady = false := kept.phase
        refine kept.goes rfl rfl rfl ?_ (carried_imp False.elim rfl kept.carried)
          fun books => { books with }
        exact fun ready => absurd (cleared.symm.trans ready) Bool.false_ne_true
    | false =>
        exact sound.moved stands Task.noConfusion Task.noConfusion rfl rfl rfl fun kept =>
          kept.goes rfl rfl rfl trivial (carried_imp False.elim rfl kept.carried)
            fun books => { books with }
  · exact sound

/-- A wait ends with a result only if that is the result of its own conversion. -/
theorem waitEnds_sound (tid : Nat) (sound : Sound light) : Sound (light.waitEnds tid) := by
  rw [Light.waitEnds]
  split
  · rename_i conversion stands
    cases ready : light.resultReady with
    | true =>
        exact sound.moved stands Task.noConfusion Task.noConfusion rfl rfl rfl fun kept =>
          kept.goes rfl rfl rfl (kept.phase ready) (carried_imp id rfl kept.carried)
            fun books => { books with }
    | false =>
        exact sound.moved stands Task.noConfusion Task.noConfusion rfl rfl rfl fun kept =>
          kept.goes rfl rfl rfl trivial (carried_imp (fun _ => trivial) rfl kept.carried)
            fun books => { books with }
  · exact sound

/-- The flag is cleared while no handler relies on it. -/
theorem disallow_sound (tid : Nat) (sound : Sound light)
    (quiet : (light.task tid).leaving = true → light.handler.skipping = false) :
    Sound (light.disallow tid) := by
  rw [Light.disallow]
  split
  · rename_i stands
    rw [stands] at quiet
    refine sound.moved stands Task.noConfusion Task.noConfusion rfl rfl rfl fun kept => ?_
    exact ⟨rfl, fun skips => absurd ((quiet rfl).symm.trans skips) Bool.false_ne_true, kept.unlocks,
      trivial, carried_quiet (quiet rfl), { kept.books with }⟩
  · rename_i conversion stands
    rw [stands] at quiet
    refine sound.moved stands Task.noConfusion Task.noConfusion rfl rfl rfl fun kept => ?_
    exact ⟨rfl, fun skips => absurd ((quiet rfl).symm.trans skips) Bool.false_ne_true, kept.unlocks,
      kept.phase, carried_quiet (quiet rfl), { kept.books with }⟩
  · exact sound

theorem restore_sound (tid : Nat) (written : Bool) (sound : Sound light) :
    Sound (light.restore tid written) := by
  rw [Light.restore]
  split
  · rename_i conversion stands
    cases written with
    | true =>
        refine sound.moved stands Task.noConfusion Task.noConfusion rfl rfl rfl fun kept => ?_
        have own : light.result = some conversion := kept.phase
        refine kept.goes rfl rfl rfl trivial (carried_quiet (kept.quiet rfl)) fun books => ?_
        refine { books with readings := ?_ }
        exact List.forall_mem_cons.mpr ⟨own, books.readings⟩
    | false =>
        exact sound.moved stands Task.noConfusion Task.noConfusion rfl rfl rfl fun kept =>
          kept.goes rfl rfl rfl trivial (carried_quiet (kept.quiet rfl)) fun books => { books with }
  · exact sound

theorem unlockTask_sound (tid : Nat) (sound : Sound light) : Sound (light.unlockTask tid) := by
  rw [Light.unlockTask]
  split
  · rename_i stands
    obtain ⟨current, owned, kept⟩ := sound
    have busy : light.task tid ≠ .idle := by
      rcases stands with stands | stands <;> rw [stands] <;> exact Task.noConfusion
    have flagged : (light.task tid).flagged = false := by
      rcases stands with stands | stands <;> rw [stands] <;> rfl
    obtain ⟨rfl, mine, single, free⟩ := owned.mover rfl busy
    have quiet := kept.quiet flagged
    have idle : Function.update light.task tid .idle = fun _ => .idle := by
      rw [single, Function.update_idem, Function.update_eq_self_iff]
    refine ⟨.idle, .free rfl (fun other => congrFun idle other) free, ?_⟩
    refine kept.goes rfl rfl flagged.symm trivial (carried_quiet quiet) fun books => ?_
    refine { books with misuses := ?_ }
    exact (if_pos mine).trans books.misuses
  · exact sound

/-! The steps of the handler. -/

/-- The handler goes on, and neither the flag nor the thread with the lock changes. -/
theorem Steady.answers (kept : Steady light current) (flag : after.okToIgnoreLock = light.okToIgnoreLock)
    (skipping : after.handler.skipping = light.handler.skipping) (unlocks : after.handler ≠ .unlock false)
    (phase : Phase after current) (carried : Carried after current after.handler)
    (books : Books light → Books after) : Steady after current :=
  ⟨flag.trans kept.flag, fun skips => kept.skipping (skipping.symm.trans skips), unlocks, phase, carried,
    books kept.books⟩

theorem irq_sound (sound : Sound light) : Sound (light.step .irq) := by
  rw [Light.step]
  split
  · rename_i idle
    cases flag : light.okToIgnoreLock with
    | true =>
        refine sound.handled rfl rfl ?_ fun _ kept => ?_
        · rw [idle]
          rfl
        · have flagged := kept.flag
          rw [flag] at flagged
          exact ⟨flagged, fun _ => flagged.symm, Handler.noConfusion, kept.phase, trivial,
            { kept.books with }⟩
    | false =>
        refine sound.handled rfl rfl ?_ fun _ kept => ?_
        · rw [idle]
          rfl
        · refine kept.answers flag.symm ?_ Handler.noConfusion kept.phase trivial
            fun books => { books with }
          rw [idle]
          rfl
  · exact sound

theorem irqLock_sound (sound : Sound light) : Sound (light.step .irqLock) := by
  rw [Light.step]
  split
  · rename_i free
    obtain ⟨current, owned, kept⟩ := sound
    obtain ⟨rfl, tasks⟩ : current = .idle ∧ ∀ tid, light.task tid = .idle := by
      cases owned with
      | free _ tasks => exact ⟨rfl, tasks⟩
      | handler some => exact absurd (free.2.symm.trans some) (Option.some_ne_none _).symm
      | task _ some => exact absurd (free.2.symm.trans some) (Option.some_ne_none _).symm
    refine ⟨.idle, .handler rfl tasks rfl, ?_⟩
    refine kept.answers rfl ?_ Handler.noConfusion trivial trivial fun books => { books with }
    rw [free.1]
    rfl
  · exact sound

/-- Whatever the register says, the handler reads the result or goes to its second test. -/
theorem irqReadConfig_sound (config : Option Config) (sound : Sound light) :
    Sound (light.irqReadConfig config) := by
  rw [Light.irqReadConfig]
  split
  · rename_i locked stands
    have tests : Sound { light with handler := .testing locked } := by
      refine sound.handled rfl rfl (stands ▸ rfl) fun _ kept => ?_
      exact kept.answers rfl (stands ▸ rfl) Handler.noConfusion kept.phase trivial
        fun books => { books with }
    have reads : Sound { light with handler := .readResult locked } := by
      refine sound.handled rfl rfl (stands ▸ rfl) fun _ kept => ?_
      exact kept.answers rfl (stands ▸ rfl) Handler.noConfusion kept.phase trivial
        fun books => { books with }
    cases config with
    | none => exact tests
    | some config =>
        simp only
        split
        · exact reads
        · exact tests
  · exact sound

theorem irqReadResult_sound (read : Bool) (sound : Sound light)
    (complete : light.handler = .readResult false → ∀ tid, (light.task tid).Takes light.resultReg) :
    Sound (light.irqReadResult read) := by
  rw [Light.irqReadResult]
  split
  · rename_i locked stands
    cases read with
    | false =>
        refine sound.handled rfl rfl (stands ▸ rfl) fun _ kept => ?_
        exact kept.answers rfl (stands ▸ rfl) Handler.noConfusion kept.phase trivial
          fun books => { books with }
    | true =>
        refine sound.handled rfl rfl (stands ▸ rfl) fun owned kept => ?_
        refine kept.answers rfl (stands ▸ rfl) Handler.noConfusion kept.phase ?_
          fun books => { books with }
        cases locked with
        | true => trivial
        | false =>
            cases owned with
            | free => trivial
            | handler => trivial
            | task tid _ _ single =>
                have takes := complete stands tid
                rw [single, Function.update_self] at takes
                exact takes
  · exact sound

/-- With the lock at the handler no thread is under way. -/
theorem Owned.held (owned : Owned light current) (holds : light.handler.holds = true) :
    current = .idle ∧ light.lock = some .handler ∧ ∀ tid, light.task tid = .idle := by
  cases owned with
  | free _ _ free => exact absurd (free.symm.trans holds) Bool.false_ne_true
  | handler lock tasks => exact ⟨rfl, lock, tasks⟩
  | task _ _ _ _ free => exact absurd (free.symm.trans holds) Bool.false_ne_true

theorem phase_of_takes (takes : current.Takes after.result) (flagged : current.flagged = true) :
    Phase after current := by
  cases current with
  | readConfig => exact takes.elim
  | writeConfig => exact takes.elim
  | waiting conversion => exact fun _ => takes
  | finished conversion => exact takes
  | restoring => exact absurd flagged Bool.noConfusion
  | _ => trivial

theorem irqStore_sound (sound : Sound light) : Sound light.irqStore := by
  rw [Light.irqStore]
  split
  · rename_i locked result stands
    refine sound.handled rfl rfl (stands ▸ rfl) fun owned kept => ?_
    cases locked with
    | true =>
        obtain ⟨rfl, _, _⟩ := owned.held (stands ▸ rfl)
        exact kept.answers rfl (stands ▸ rfl) Handler.noConfusion trivial trivial
          fun books => { books with }
    | false =>
        have takes := kept.carried
        rw [stands] at takes
        have flagged := kept.skipping (stands ▸ rfl)
        exact kept.answers rfl (stands ▸ rfl) Handler.noConfusion (phase_of_takes takes flagged) takes
          fun books => { books with }
  · exact sound

theorem irqReady_sound (sound : Sound light) : Sound light.irqReady := by
  rw [Light.irqReady]
  split
  · rename_i locked stands
    refine sound.handled rfl rfl (stands ▸ rfl) fun owned kept => ?_
    cases locked with
    | true =>
        obtain ⟨rfl, _, _⟩ := owned.held (stands ▸ rfl)
        exact kept.answers rfl (stands ▸ rfl) Handler.noConfusion trivial trivial
          fun books => { books with }
    | false =>
        have takes := kept.carried
        rw [stands] at takes
        have flagged := kept.skipping (stands ▸ rfl)
        exact kept.answers rfl (stands ▸ rfl) Handler.noConfusion (phase_of_takes takes flagged) trivial
          fun books => { books with }
  · exact sound

/-- The second test finds the flag as the first one did. -/
theorem irqTest_sound (sound : Sound light) : Sound light.irqTest := by
  rw [Light.irqTest]
  split
  · rename_i locked stands
    split
    · rename_i set
      have skipped : locked = false := by
        obtain ⟨current, owned, kept⟩ := sound
        cases locked with
        | false => rfl
        | true =>
            obtain ⟨rfl, _, _⟩ := owned.held (stands ▸ rfl)
            exact absurd (kept.flag.symm.trans set) Bool.false_ne_true
      subst skipped
      refine sound.handled rfl rfl (stands ▸ rfl) fun _ kept => ?_
      refine ⟨kept.flag, fun skips => absurd skips Bool.false_ne_true, Handler.noConfusion, kept.phase,
        trivial, { kept.books with handled := ?_ }⟩
      exact List.forall_mem_cons.mpr ⟨rfl, kept.books.handled⟩
    · rename_i clear
      have taken : locked = true := by
        obtain ⟨current, owned, kept⟩ := sound
        cases locked with
        | true => rfl
        | false => exact absurd (kept.flag.trans (kept.skipping (stands ▸ rfl))) clear
      subst taken
      refine sound.handled rfl rfl (stands ▸ rfl) fun _ kept => ?_
      refine kept.answers rfl (stands ▸ rfl) ?_ kept.phase trivial fun books => { books with }
      exact fun same => Bool.noConfusion (Handler.unlock.inj same)
  · exact sound

theorem irqUnlock_sound (sound : Sound light) : Sound light.irqUnlock := by
  rw [Light.irqUnlock]
  split
  · rename_i locked stands
    obtain ⟨current, owned, kept⟩ := sound
    cases locked with
    | false => exact absurd stands kept.unlocks
    | true =>
        obtain ⟨rfl, mine, tasks⟩ := owned.held (stands ▸ rfl)
        refine ⟨.idle, .free rfl tasks rfl, ?_⟩
        refine kept.answers rfl (stands ▸ rfl) Handler.noConfusion trivial trivial fun books => ?_
        exact ⟨List.forall_mem_cons.mpr ⟨rfl, books.handled⟩, (if_pos mine).trans books.misuses,
          books.readings⟩
  · exact sound

/-- What the device converts is looked at by the handler only. -/
theorem Sound.registers {resultReg running : Option Nat} (sound : Sound light) :
    Sound { light with resultReg := resultReg, running := running } :=
  sound.handled rfl rfl rfl fun _ kept =>
    kept.answers rfl rfl kept.unlocks kept.phase kept.carried fun books => { books with }

theorem step_sound {event : Event} (sound : Sound light) (timely : Timely light event) :
    Sound (light.step event) := by
  cases event with
  | lock tid reading => exact lockTask_sound tid reading sound
  | writeLimit tid written => exact writeLimit_sound tid written sound
  | allow tid => exact allow_sound tid sound
  | reset tid => exact reset_sound tid sound
  | readConfig tid read => exact readConfig_sound tid read sound
  | writeConfig tid written => exact writeConfig_sound tid written sound
  | waitEnds tid => exact waitEnds_sound tid sound
  | disallow tid => exact disallow_sound tid sound timely
  | restore tid written => exact restore_sound tid written sound
  | unlock tid => exact unlockTask_sound tid sound
  | irq => exact irq_sound sound
  | irqLock => exact irqLock_sound sound
  | irqReadConfig config => exact irqReadConfig_sound config sound
  | irqReadResult read => exact irqReadResult_sound read sound timely
  | irqStore => exact irqStore_sound sound
  | irqReady => exact irqReady_sound sound
  | irqTest => exact irqTest_sound sound
  | irqUnlock => exact irqUnlock_sound sound
  | converted =>
      rw [Light.step]
      split
      · exact sound
      · exact sound.registers
  | sampled => exact sound.registers

theorem timely_discipline {events : List Event} (timely : Along Light.step Timely .probed events) :
    Discipline (run Light.step .probed events) :=
  (along_invariant step_sound probed_sound timely).discipline

/-! What comes of a step that is not timely. -/

/-- A handler that skipped the lock and finds the flag cleared unlocks all the same. -/
theorem late_test_unlocks (stands : light.handler = .testing false)
    (clear : light.okToIgnoreLock = false) : ¬Discipline (run Light.step light [.irqTest, .irqUnlock]) := by
  have tested : light.irqTest = { light with handler := .unlock false } := by
    rw [Light.irqTest, stands]
    simp only
    rw [if_neg (Bool.eq_false_iff.mp clear)]
  have last : (false, true) ∈ (run Light.step light [.irqTest, .irqUnlock]).handled := by
    change (false, true) ∈ (Light.irqUnlock light.irqTest).handled
    rw [tested]
    exact .head _
  exact fun kept => absurd (kept.handled _ last) Bool.false_ne_true

/-- A handler that skipped the lock gives the reading in progress whatever result it reads. -/
theorem stale_result_returned {conversion : Nat} (stands : light.handler = .readResult false)
    (waits : light.task tid = .waiting conversion) (stale : light.resultReg ≠ some conversion) :
    ¬Discipline (run Light.step light
      [.irqReadResult true, .irqStore, .irqReady, .waitEnds tid, .disallow tid, .restore tid true]) := by
  have stored : run Light.step light [.irqReadResult true, .irqStore, .irqReady] =
      { light with result := light.resultReg, resultReady := true, handler := .testing false } := by
    simp [run, Light.step, Light.irqReadResult, Light.irqStore, Light.irqReady, stands]
  have last : (conversion, light.resultReg) ∈ (run Light.step light
      [.irqReadResult true, .irqStore, .irqReady, .waitEnds tid, .disallow tid,
        .restore tid true]).readings := by
    change _ ∈ (run Light.step (run Light.step light [.irqReadResult true, .irqStore, .irqReady])
      [.waitEnds tid, .disallow tid, .restore tid true]).readings
    rw [stored]
    simp [run, Light.step, Light.waitEnds, Light.disallow, Light.restore, Light.become, waits]
  exact fun kept => stale (kept.readings _ last)

/-- A reading with its interrupt in time. -/
def reading : List Event :=
  [.lock 0 true, .writeLimit 0 true, .allow 0, .reset 0, .readConfig 0 true, .writeConfig 0 true,
    .converted, .irq, .irqReadConfig (some ⟨false, true⟩), .irqReadResult true, .irqStore, .irqReady]

/-- The handler ends before the reading goes on. -/
def inTime : List Event :=
  reading ++ [.irqTest, .waitEnds 0, .disallow 0, .restore 0 true, .unlock 0]

/-- The reading is woken by the flag alone, before the second test of the handler. -/
def straddled : List Event := reading ++ [.waitEnds 0, .disallow 0, .irqTest, .irqUnlock]

theorem inTime_discipline : Discipline (run Light.step .probed inTime) := by
  apply timely_discipline
  refine ⟨trivial, trivial, trivial, trivial, trivial, trivial, trivial, trivial, trivial,
    fun _ tid => ?_, trivial, trivial, trivial, trivial, fun _ => rfl, trivial, trivial, trivial⟩
  -- The reading in progress is that of thread 0, and it waits for conversion 0.
  cases tid with
  | zero => exact rfl
  | succ other => exact trivial

theorem straddled_unlocks : ¬∀ events, Discipline (run Light.step .probed events) := by
  intro always
  exact absurd (always straddled).misuses (List.cons_ne_nil _ _)

end MangOH.LightLock
