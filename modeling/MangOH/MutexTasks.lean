import MangOH.PolledDevice
import MangOH.Trace
import Mathlib.Logic.Function.Basic

/-!
Contexts that share a device, a host memory and one mutex. A context carries
out one task at a time; a call of a task is a program for the device, and any
other context may run between two of its transfers. A task that makes its calls
under the mutex has the device to itself while a call lasts.
-/

namespace MangOH.MutexTasks

open PolledDevice Trace

inductive Task (Host Call Answer : Type) where
  | done
  | lock (next : Task Host Call Answer)
  | unlock (next : Task Host Call Answer)
  | call (io : Call) (next : Answer → Task Host Call Answer)
  | host (update : Host → Host) (next : Host → Task Host Call Answer)

/-- Where a context is; a call keeps the device that it began with. -/
inductive Context (Host Call Answer Device Frame : Type) where
  | running (task : Task Host Call Answer)
  | calling (io : Call) (begun : Device) (rest : Program Frame Answer)
      (next : Answer → Task Host Call Answer)

structure System (Ctx Host Call Answer Device Frame : Type) where
  device : Device
  host : Host
  owner : Option Ctx
  contexts : Ctx → Context Host Call Answer Device Frame

inductive Event (Ctx Operation Noise : Type) where
  | start (ctx : Ctx) (operation : Operation)
  | run (ctx : Ctx) (noise : Noise)
  | settle

variable {Ctx Host Call Answer Operation Device Frame Noise : Type}

section Steps
variable [DecidableEq Ctx] (port : Port Device Frame Noise) (program : Call → Program Frame Answer)

/-- A mutex that is held is waited for. A call begins with its first transfer. -/
def turn (system : System Ctx Host Call Answer Device Frame) (ctx : Ctx) (noise : Noise) :
    System Ctx Host Call Answer Device Frame :=
  let become := Function.update system.contexts ctx
  match system.contexts ctx with
  | .running .done => system
  | .running (.lock next) =>
      if system.owner = none then
        { system with owner := some ctx, contexts := become (.running next) }
      else system
  | .running (.unlock next) => { system with owner := none, contexts := become (.running next) }
  | .running (.host update next) =>
      let host := update system.host
      { system with host := host, contexts := become (.running (next host)) }
  | .running (.call io next) =>
      let moved := (program io).step port noise system.device
      { system with
        device := moved.2
        contexts := become (.calling io system.device moved.1 next) }
  | .calling _ _ (.done answer) next =>
      { system with contexts := become (.running (next answer)) }
  | .calling io begun rest next =>
      let moved := rest.step port noise system.device
      { system with device := moved.2, contexts := become (.calling io begun moved.1 next) }

/-- A context that has nothing to do takes up an operation. -/
def step (task : Operation → Task Host Call Answer)
    (system : System Ctx Host Call Answer Device Frame) :
    Event Ctx Operation Noise → System Ctx Host Call Answer Device Frame
  | .start ctx operation =>
      match system.contexts ctx with
      | .running .done =>
          { system with
            contexts := Function.update system.contexts ctx (.running (task operation)) }
      | _ => system
  | .run ctx noise => turn port program system ctx noise
  | .settle => { system with device := port.settle system.device }

end Steps

/-- The task takes the mutex before its calls, gives it back, and never takes
what it holds. -/
def Guarded : Bool → Task Host Call Answer → Prop
  | held, .done => held = false
  | held, .lock next => held = false ∧ Guarded true next
  | held, .unlock next => held = true ∧ Guarded false next
  | held, .call _ next => held = true ∧ ∀ answer, Guarded true (next answer)
  | held, .host _ next => ∀ host, Guarded held (next host)

section Rules
variable {one : Task Host Call Answer} {io : Call} {update : Host → Host}

theorem guarded_lock (rest : Guarded true one) : Guarded false (.lock one) := And.intro rfl rest

theorem guarded_unlock (rest : Guarded false one) : Guarded true (.unlock one) := And.intro rfl rest

theorem guarded_call {next : Answer → Task Host Call Answer}
    (rest : ∀ answer, Guarded true (next answer)) : Guarded true (.call io next) := And.intro rfl rest

theorem guarded_host {held : Bool} {next : Host → Task Host Call Answer}
    (rest : ∀ host, Guarded held (next host)) : Guarded held (.host update next) := rest

end Rules

/-- The mutex is the context's, and no other context is inside a call. -/
def Alone (system : System Ctx Host Call Answer Device Frame) (ctx : Ctx) : Prop :=
  system.owner = some ctx ∧ ∀ other io begun rest next,
    system.contexts other = .calling io begun rest next → other = ctx

/-- A transfer is made alone, and what a call returns is as `post` says. -/
def Proper (post : Call → Device → Answer → Device → Prop)
    (system : System Ctx Host Call Answer Device Frame) : Event Ctx Operation Noise → Prop
  | .run ctx _ =>
      match system.contexts ctx with
      | .running (.call _ _) => Alone system ctx
      | .running _ => True
      | .calling io begun (.done answer) _ =>
          Alone system ctx ∧ post io begun answer system.device
      | .calling _ _ _ _ => Alone system ctx
  | _ => True

/-- A call begins as `ready` says, and its polls are answered as `fair` says. -/
def Ready (ready : Call → Device → Noise → Prop) (fair : Device → Noise → Prop)
    (system : System Ctx Host Call Answer Device Frame) : Event Ctx Operation Noise → Prop
  | .run ctx noise =>
      match system.contexts ctx with
      | .running (.call io _) => ready io system.device noise
      | .running _ => True
      | .calling _ _ rest _ => rest.Fair fair noise system.device
  | _ => True

section Exclusion
variable (port : Port Device Frame Noise) (fair : Device → Noise → Prop)
variable (post : Call → Device → Answer → Device → Prop)

/-- A context that is inside a call holds the mutex. -/
def Context.Kept (device : Device) (held : Bool) : Context Host Call Answer Device Frame → Prop
  | .running task => Guarded held task
  | .calling io begun rest next =>
      held = true ∧ (∀ answer, Guarded true (next answer)) ∧
        rest.Meets port fair (post io begun) device

def Sound [DecidableEq Ctx] (system : System Ctx Host Call Answer Device Frame) : Prop :=
  ∀ ctx, (system.contexts ctx).Kept port fair post system.device
    (decide (system.owner = some ctx))

end Exclusion

variable [DecidableEq Ctx] {port : Port Device Frame Noise} {fair : Device → Noise → Prop}
variable {program : Call → Program Frame Answer} {task : Operation → Task Host Call Answer}
variable {post : Call → Device → Answer → Device → Prop}
variable {ready : Call → Device → Noise → Prop}
variable {system : System Ctx Host Call Answer Device Frame}

theorem Sound.alone {ctx : Ctx} (sound : Sound port fair post system)
    (owner : system.owner = some ctx) : Alone system ctx := by
  refine ⟨owner, ?_⟩
  intro other io begun rest next calling
  have kept := sound other
  rw [calling] at kept
  have held := of_decide_eq_true kept.1
  rw [owner] at held
  exact (Option.some.inj held).symm

/-- Without the mutex a context does not look at the device. -/
theorem kept_elsewhere {context : Context Host Call Answer Device Frame} {device : Device}
    (kept : context.Kept port fair post device false) (after : Device) :
    context.Kept port fair post after false := by
  cases context with
  | running => exact kept
  | calling => exact absurd kept.1 Bool.false_ne_true

/-- One context moves, with the mutex when it moves the device. -/
theorem Sound.moved {ctx : Ctx} {device : Device} {host : Host} {owner : Option Ctx}
    {context : Context Host Call Answer Device Frame} (sound : Sound port fair post system)
    (others : ∀ other, other ≠ ctx → (owner = some other ↔ system.owner = some other))
    (still : device = system.device ∨ system.owner = some ctx)
    (kept : context.Kept port fair post device (decide (owner = some ctx))) :
    Sound port fair post ⟨device, host, owner, Function.update system.contexts ctx context⟩ := by
  intro other
  simp only
  by_cases here : other = ctx
  · subst other
    rw [Function.update_self]
    exact kept
  · rw [Function.update_of_ne here, decide_eq_decide.mpr (others other here)]
    have before := sound other
    cases still with
    | inl same => exact same ▸ before
    | inr mine =>
        have free : decide (system.owner = some other) = false := by
          rw [mine, decide_eq_false_iff_not]
          exact fun same => here (Option.some.inj same).symm
        rw [free] at before ⊢
        exact kept_elsewhere before _

theorem Sound.settle (sound : Sound port fair post system) :
    Sound port fair post { system with device := port.settle system.device } := by
  intro ctx
  have kept := sound ctx
  simp only
  cases at_ : system.contexts ctx with
  | running =>
      rw [at_] at kept
      exact kept
  | calling =>
      rw [at_] at kept
      exact ⟨kept.1, kept.2.1, Program.meets_settle kept.2.2⟩

/-- The task that a context runs, with the mutex it then holds. -/
theorem Sound.running {ctx : Ctx} {one : Task Host Call Answer}
    (sound : Sound port fair post system) (at_ : system.contexts ctx = .running one) :
    Guarded (decide (system.owner = some ctx)) one := by
  have kept := sound ctx
  rw [at_] at kept
  exact kept

theorem Sound.calling {ctx : Ctx} {io : Call} {begun : Device} {rest : Program Frame Answer}
    {next : Answer → Task Host Call Answer} (sound : Sound port fair post system)
    (at_ : system.contexts ctx = .calling io begun rest next) :
    system.owner = some ctx ∧ (∀ answer, Guarded true (next answer)) ∧
      rest.Meets port fair (post io begun) system.device := by
  have kept := sound ctx
  rw [at_] at kept
  exact ⟨of_decide_eq_true kept.1, kept.2⟩

/-- What a sound system owes follows from where the context is. -/
theorem Sound.proper (sound : Sound port fair post system) (event : Event Ctx Operation Noise) :
    Proper post system event := by
  cases event with
  | start => trivial
  | settle => trivial
  | run ctx noise =>
      simp only [Proper]
      split
      · rename_i at_
        exact sound.alone (of_decide_eq_true (sound.running at_).1)
      · trivial
      · rename_i at_
        have inside := sound.calling at_
        exact ⟨sound.alone inside.1, Program.meets_done inside.2.2⟩
      · rename_i at_
        exact sound.alone (sound.calling at_).1

/-- One transfer of a call that has begun. -/
theorem Sound.transfer {ctx : Ctx} {noise : Noise} {io : Call} {begun : Device}
    {rest : Program Frame Answer} {next : Answer → Task Host Call Answer}
    (sound : Sound port fair post system)
    (at_ : system.contexts ctx = .calling io begun rest next)
    (answered : rest.Fair fair noise system.device) :
    Sound port fair post { system with
      device := (rest.step port noise system.device).2
      contexts := Function.update system.contexts ctx
        (.calling io begun (rest.step port noise system.device).1 next) } := by
  have inside := sound.calling at_
  apply sound.moved (fun _ _ => Iff.rfl) (Or.inr inside.1)
  exact ⟨decide_eq_true inside.1, inside.2.1, Program.meets_step inside.2.2 answered⟩

theorem turn_sound {ctx : Ctx} {noise : Noise}
    (opens : ∀ {io device noise}, ready io device noise →
      ((program io).step port noise device).1.Meets port fair (post io device)
        ((program io).step port noise device).2)
    (sound : Sound port fair post system)
    (allowed : Ready ready fair system (.run ctx noise : Event Ctx Operation Noise)) :
    Sound port fair post (turn port program system ctx noise) := by
  unfold turn
  simp only [Ready] at allowed
  -- A context takes its own step, or one transfer of the call that it is in.
  cases at_ : system.contexts ctx with
  | running one =>
      have guarded := sound.running at_
      rw [at_] at allowed
      cases one with
      | done => exact sound
      | lock next =>
          simp only
          split
          · rename_i free
            apply sound.moved _ (Or.inl rfl)
            · exact (decide_eq_true (rfl : some ctx = some ctx)).symm ▸ guarded.2
            · intro other apart
              simp [free, apart.symm]
          · exact sound
      | unlock next =>
          have mine := of_decide_eq_true guarded.1
          apply sound.moved _ (Or.inl rfl)
          · exact guarded.2
          · intro other apart
            simp [mine, apart.symm]
      | host update next =>
          exact sound.moved (fun _ _ => Iff.rfl) (Or.inl rfl) (guarded _)
      | call io next =>
          have mine := of_decide_eq_true guarded.1
          apply sound.moved (fun _ _ => Iff.rfl) (Or.inr mine)
          exact ⟨decide_eq_true mine, guarded.2, opens allowed⟩
  | calling io begun rest next =>
      rw [at_] at allowed
      cases rest with
      | done answer =>
          have inside := sound.calling at_
          apply sound.moved (fun _ _ => Iff.rfl) (Or.inl rfl)
          exact (decide_eq_true inside.1).symm ▸ inside.2.1 answer
      | write frame more => exact sound.transfer at_ allowed
      | read frame more => exact sound.transfer at_ allowed
      | poll frame again more => exact sound.transfer at_ allowed

/-- One step of a context, of the environment or of the device. -/
theorem step_sound {event : Event Ctx Operation Noise}
    (guarded : ∀ operation, Guarded false (task operation))
    (opens : ∀ {io device noise}, ready io device noise →
      ((program io).step port noise device).1.Meets port fair (post io device)
        ((program io).step port noise device).2)
    (sound : Sound port fair post system) (allowed : Ready ready fair system event) :
    Sound port fair post (step port program task system event) := by
  cases event with
  | settle => exact sound.settle
  | run ctx noise => exact turn_sound opens sound allowed
  | start ctx operation =>
      simp only [step]
      split
      · rename_i at_
        apply sound.moved (fun _ _ => Iff.rfl) (Or.inl rfl)
        have free : decide (system.owner = some ctx) = false := sound.running at_
        rw [Context.Kept, free]
        exact guarded operation
      · exact sound

/-- Guarded tasks whose calls begin right keep the calls apart, and each call
is what its program promises. -/
theorem run_proper {events : List (Event Ctx Operation Noise)}
    (guarded : ∀ operation, Guarded false (task operation))
    (opens : ∀ {io device noise}, ready io device noise →
      ((program io).step port noise device).1.Meets port fair (post io device)
        ((program io).step port noise device).2)
    (sound : Sound port fair post system)
    (along : Along (step port program task) (Ready ready fair) system events) :
    Along (step port program task) (Proper post) system events := by
  have meets : ∀ {before : System Ctx Host Call Answer Device Frame}
      {event : Event Ctx Operation Noise}, Sound port fair post before →
      Ready ready fair before event → Proper post before event :=
    fun sound _ => sound.proper _
  exact along_imp meets (step_sound guarded opens) sound along

end MangOH.MutexTasks
