/-!
Executions of labelled transition systems. `Exec` follows a step relation and
keeps the events in order; `run` and `Along` do the same for a step function.
An invariant is proved for one step and holds of every state reached.
-/

namespace MangOH.Trace

universe u v
variable {State : Type u} {Event : Type v}

inductive Exec (step : State → Event → State → Prop) : State → List Event → State → Prop where
  | refl (state : State) : Exec step state [] state
  | next {start before after : State} {events : List Event} {event : Event} :
      Exec step start events before → step before event after →
        Exec step start (events ++ [event]) after

namespace Exec

variable {step : State → Event → State → Prop}

/-- An invariant of the events so far and the state they lead to. -/
theorem invariant {start after : State} {events : List Event}
    (exec : Exec step start events after) (holds : List Event → State → Prop) (base : holds [] start)
    (keep : ∀ {past before event next}, holds past before → step before event next →
      holds (past ++ [event]) next) : holds events after := by
  induction exec with
  | refl => exact base
  | next _ one ih => exact keep ih one

theorem append {start middle after : State} {first second : List Event}
    (left : Exec step start first middle) (right : Exec step middle second after) :
    Exec step start (first ++ second) after := by
  induction right with
  | refl => simpa using left
  | next _ one ih =>
      rw [← List.append_assoc]
      exact .next ih one

/-- A deterministic step makes the events decide the state. -/
theorem unique {start left right : State} {events : List Event}
    (functional : ∀ {before event first second}, step before event first →
      step before event second → first = second)
    (exec : Exec step start events left) (other : Exec step start events right) :
    left = right := by
  induction exec generalizing right with
  | refl =>
      generalize nothing : ([] : List Event) = events at other
      cases other with
      | refl => rfl
      | next _ _ => simp at nothing
  | @next before after past event _ one ih =>
      -- The split needs a variable for the events; the equation keeps what they are.
      generalize whole : past ++ [event] = events at other
      cases other with
      | refl => simp at whole
      | next again two =>
          obtain ⟨rfl, same⟩ := List.append_inj' whole rfl
          cases same
          rw [← ih again] at two
          exact functional one two

end Exec

section Functions

variable (step : State → Event → State)

def run (start : State) (events : List Event) : State := events.foldl step start

/-- `holds` before each event of a run, of the state it meets. -/
def Along (holds : State → Event → Prop) : State → List Event → Prop
  | _, [] => True
  | state, event :: rest => holds state event ∧ Along holds (step state event) rest

variable {step} {good holds : State → Event → Prop} {inv : State → Prop}

theorem along_append {first second : List Event} : ∀ {start : State},
    Along step holds start (first ++ second) ↔
      Along step holds start first ∧ Along step holds (run step start first) second := by
  induction first with
  | nil => simp [Along, run]
  | cons event rest ih =>
      intro start
      rw [List.cons_append, Along, Along, ih, and_assoc]
      rfl

/-- The last step of a run, in the state that the steps before it reach. -/
theorem along_last {events : List Event} {event : Event} {start : State}
    (along : Along step holds start (events ++ [event])) : holds (run step start events) event :=
  (along_append.mp along).2.1

theorem along_invariant
    (keep : ∀ {state event}, inv state → good state event → inv (step state event))
    {events : List Event} : ∀ {start : State}, inv start → Along step good start events →
      inv (run step start events) := by
  induction events with
  | nil => exact fun base _ => base
  | cons event rest ih => exact fun base along => ih (keep base along.1) along.2

/-- A condition that keeps an invariant brings along what the two imply. -/
theorem along_imp (meets : ∀ {state event}, inv state → good state event → holds state event)
    (keep : ∀ {state event}, inv state → good state event → inv (step state event))
    {events : List Event} : ∀ {start : State}, inv start → Along step good start events →
      Along step holds start events := by
  induction events with
  | nil => exact fun _ _ => trivial
  | cons event rest ih =>
      exact fun base along => ⟨meets base along.1, ih (keep base along.1) along.2⟩

/-- An invariant that every step keeps brings along what it implies. -/
theorem along_always (meets : ∀ {state event}, inv state → holds state event)
    (keep : ∀ {state event}, inv state → inv (step state event)) {events : List Event} :
    ∀ {start : State}, inv start → Along step holds start events := by
  induction events with
  | nil => exact fun _ => trivial
  | cons event rest ih => exact fun base => ⟨meets base, ih (keep base)⟩

/-- Two conditions that agree where an invariant holds agree along every run
that keeps it. -/
theorem along_iff (same : ∀ {state event}, inv state → (good state event ↔ holds state event))
    (keep : ∀ {state event}, inv state → good state event → inv (step state event))
    {events : List Event} : ∀ {start : State}, inv start →
      (Along step good start events ↔ Along step holds start events) := by
  intro start base
  constructor
  · exact along_imp (fun kept => (same kept).mp) keep base
  · have keep' : ∀ {state event}, inv state → holds state event → inv (step state event) :=
      fun kept met => keep kept ((same kept).mpr met)
    exact along_imp (fun kept => (same kept).mpr) keep' base

end Functions

end MangOH.Trace
