import MangOH.Masks
import MangOH.Trace
import Mathlib.Logic.Function.Basic

/-!
Registers that several calls change field by field, each by a read and a later write of the
whole register. The calls' steps may come in any order.
-/

namespace MangOH.SharedFields

open Trace Masks

universe u v
variable {Call : Type u} {Reg : Type v} {width : Nat}

/-- A value for the bits of a mask in a register. -/
structure Update (Reg : Type v) (width : Nat) where
  reg : Reg
  mask : BitVec width
  value : BitVec width
  inside : value &&& mask = value

/-- How far a call is. -/
inductive Phase (width : Nat) where
  | idle
  | loaded (word : BitVec width)
  | returned (success : Bool)
deriving DecidableEq

/-- How a transfer ends; one that fails may have taken effect. -/
inductive Ending where
  | done
  | failed (took : Bool)
deriving DecidableEq

def Ending.success : Ending → Bool
  | .done => true
  | .failed _ => false

def Ending.took : Ending → Bool
  | .done => true
  | .failed took => took

structure State (Call : Type u) (Reg : Type v) (width : Nat) where
  registers : Reg → BitVec width
  phase : Call → Phase width

inductive Event (Call : Type u) where
  | read (call : Call) (ending : Ending)
  | write (call : Call) (ending : Ending)
deriving DecidableEq

variable (update : Call → Update Reg width)

def initial (start : Reg → BitVec width) : State Call Reg width := ⟨start, fun _ => .idle⟩

/-- What a write puts back beside its field is what the register holds there by then. -/
def Fresh (state : State Call Reg width) : Event Call → Prop
  | .read .. => True
  | .write call ending => ending.took = true → ∀ word, state.phase call = .loaded word →
      clear word (update call).mask =
        clear (state.registers (update call).reg) (update call).mask

/-- A field of a register, of which a call changes all or nothing. -/
structure Field (reg : Reg) (mask : BitVec width) : Prop where
  apart : ∀ call, (update call).reg = reg → (update call).mask = mask ∨ (update call).mask &&& mask = 0

/-- The call is for this field. -/
def Writes (reg : Reg) (mask : BitVec width) (call : Call) : Prop :=
  (update call).reg = reg ∧ (update call).mask = mask

/-- The field holds what one of its calls puts there. -/
def Held (reg : Reg) (mask : BitVec width) (state : State Call Reg width) : Prop :=
  ∃ call, Writes update reg mask call ∧ state.registers reg &&& mask = (update call).value

/-- What is known of a field at any time. -/
structure Kept (start : Reg → BitVec width) (reg : Reg) (mask : BitVec width)
    (state : State Call Reg width) : Prop where
  content : state.registers reg &&& mask = start reg &&& mask ∨ Held update reg mask state
  written : ∀ call, Writes update reg mask call → state.phase call = .returned true →
    Held update reg mask state

variable {update} {start : Reg → BitVec width} {reg : Reg} {mask : BitVec width}
  {state : State Call Reg width} {call : Call}

theorem kept_initial : Kept update start reg mask (initial start) :=
  ⟨.inl rfl, fun _ _ done => nomatch done⟩

/-- A fresh write of one field leaves another one of the same register. -/
theorem replace_beside {word content value own other : BitVec width} (inside : value &&& own = value)
    (fresh : clear word own = clear content own) (apart : own &&& other = 0) :
    replace word own value &&& other = content &&& other := by
  have beside : value &&& other = 0 := by
    rw [← inside, BitVec.and_assoc, apart]
    exact BitVec.and_zero
  rw [replace, or_and_other beside, fresh, clear_and_other apart]

section Steps

variable [DecidableEq Reg]

variable (update) in
/-- The register as the call has read it, with its value in the field. -/
def State.put (state : State Call Reg width) (call : Call) (word : BitVec width) :
    State Call Reg width :=
  { state with
    registers := Function.update state.registers (update call).reg
      (replace word (update call).mask (update call).value) }

@[simp] theorem put_self (word : BitVec width) :
    (state.put update call word).registers (update call).reg =
      replace word (update call).mask (update call).value := Function.update_self _ _ _

theorem put_other (other : reg ≠ (update call).reg) (word : BitVec width) :
    (state.put update call word).registers reg = state.registers reg :=
  Function.update_of_ne other _ _

/-- A write of the field puts its value there. -/
theorem put_own (writes : Writes update reg mask call) (word : BitVec width) :
    (state.put update call word).registers reg &&& mask = (update call).value := by
  obtain ⟨rfl, rfl⟩ := writes
  rw [put_self]
  exact replace_and_self (update call).inside

/-- A fresh write of anything else leaves the field. -/
theorem put_beside {word : BitVec width} (field : Field update reg mask)
    (other : ¬ Writes update reg mask call)
    (fresh : clear word (update call).mask =
      clear (state.registers (update call).reg) (update call).mask) :
    (state.put update call word).registers reg &&& mask = state.registers reg &&& mask := by
  by_cases same : (update call).reg = reg
  · subst same
    rw [put_self]
    rcases field.apart call rfl with own | apart
    · exact absurd ⟨rfl, own⟩ other
    · exact replace_beside (update call).inside fresh apart
  · rw [put_other (Ne.symm same)]

variable [DecidableEq Call]

def State.proceed (state : State Call Reg width) (call : Call) (phase : Phase width) :
    State Call Reg width :=
  { state with phase := Function.update state.phase call phase }

omit [DecidableEq Reg] in
theorem proceed_other {other : Call} (apart : other ≠ call) (phase : Phase width) :
    (state.proceed call phase).phase other = state.phase other := Function.update_of_ne apart _ _

omit [DecidableEq Reg] in
@[simp] theorem proceed_self (phase : Phase width) : (state.proceed call phase).phase call = phase :=
  Function.update_self _ _ _

variable (update) in
/-- A call reads first and then writes; it does neither twice. -/
def step (state : State Call Reg width) : Event Call → State Call Reg width
  | .read call ending =>
      match state.phase call, ending with
      | .idle, .done => state.proceed call (.loaded (state.registers (update call).reg))
      | .idle, .failed _ => state.proceed call (.returned false)
      | _, _ => state
  | .write call ending =>
      match state.phase call with
      | .loaded word =>
          (if ending.took then state.put update call word else state).proceed call
            (.returned ending.success)
      | _ => state

omit [DecidableEq Reg] in
/-- A call that gets on without success brings nothing new. -/
theorem Kept.proceed (kept : Kept update start reg mask state) {phase : Phase width}
    (unfinished : phase ≠ .returned true) : Kept update start reg mask (state.proceed call phase) := by
  refine ⟨kept.content, fun other writes done => kept.written other writes ?_⟩
  by_cases self : other = call
  · subst self
    rw [proceed_self] at done
    exact absurd done unfinished
  · rwa [proceed_other self] at done

theorem Kept.read (kept : Kept update start reg mask state) (call : Call) (ending : Ending) :
    Kept update start reg mask (step update state (.read call ending)) := by
  simp only [step]
  split
  · exact kept.proceed nofun
  · exact kept.proceed nofun
  · exact kept

/-- The step of a write that takes effect, by whether it is for the field. -/
theorem Kept.put (field : Field update reg mask) (kept : Kept update start reg mask state)
    {word : BitVec width} (success : Bool)
    (fresh : clear word (update call).mask =
      clear (state.registers (update call).reg) (update call).mask) :
    Kept update start reg mask ((state.put update call word).proceed call (.returned success)) := by
  by_cases writes : Writes update reg mask call
  · have held : Held update reg mask
        ((state.put update call word).proceed call (.returned success)) :=
      ⟨call, writes, put_own writes word⟩
    exact ⟨.inr held, fun _ _ _ => held⟩
  · have same := put_beside field writes fresh
    have held : Held update reg mask state →
        Held update reg mask ((state.put update call word).proceed call (.returned success)) := by
      rintro ⟨writer, own, value⟩
      exact ⟨writer, own, same.trans value⟩
    refine ⟨kept.content.imp same.trans held, fun other own done => held (kept.written other own ?_)⟩
    -- The call that returns now is for another field.
    have apart : other ≠ call := fun self => writes (self ▸ own)
    rwa [proceed_other apart] at done

theorem Kept.write (field : Field update reg mask) (kept : Kept update start reg mask state)
    {ending : Ending} (fresh : Fresh update state (.write call ending)) :
    Kept update start reg mask (step update state (.write call ending)) := by
  simp only [step]
  split
  case h_1 word phase =>
    cases ending with
    | done => exact kept.put field true (fresh rfl word phase)
    | failed took =>
        cases took with
        | true => exact kept.put field false (fresh rfl word phase)
        | false => exact kept.proceed nofun
  case h_2 => exact kept

/-- In every order of the steps whose writes are fresh, each field is kept. -/
theorem kept_run (field : Field update reg mask) {events : List (Event Call)}
    (fresh : Along (step update) (Fresh update) (initial start) events) :
    Kept update start reg mask (run (step update) (initial start) events) := by
  refine along_invariant (fun {state event} kept met => ?_) kept_initial fresh
  cases event with
  | read call ending => exact Kept.read kept call ending
  | write call ending => exact Kept.write field kept met

/-- With all calls returned a field holds what one of its calls puts there, or what it held. -/
theorem field_run (field : Field update reg mask) {events : List (Event Call)}
    (fresh : Along (step update) (Fresh update) (initial start) events)
    (returned : ∀ call, (run (step update) (initial start) events).phase call = .returned true) :
    ((∃ call, Writes update reg mask call) →
        Held update reg mask (run (step update) (initial start) events)) ∧
      ((∀ call, ¬ Writes update reg mask call) →
        (run (step update) (initial start) events).registers reg &&& mask = start reg &&& mask) := by
  have kept := kept_run field fresh
  constructor
  · rintro ⟨call, writes⟩
    exact kept.written call writes (returned call)
  · intro none
    rcases kept.content with same | ⟨call, writes, -⟩
    · exact same
    · exact absurd writes (none call)

end Steps

end MangOH.SharedFields
