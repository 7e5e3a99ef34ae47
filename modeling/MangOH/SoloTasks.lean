import MangOH.MutexTasks
import Mathlib.Algebra.Ring.Nat

/-!
A task that has the device and the mutex for itself. A peer answers its calls, each in view
of those before it. A procedure is a task that goes on with a value; it is described by
what holds when it does so, whatever follows.
-/

namespace MangOH.SoloTasks

open MutexTasks

structure Entry (Host Call Answer : Type) where
  host : Host
  call : Call
  answer : Answer

structure Run (Host Call Answer : Type) where
  host : Host
  log : List (Entry Host Call Answer)

abbrev Peer (Host Call Answer : Type) := List (Entry Host Call Answer) → Call → Answer

variable {Host Call Answer Value Result : Type}

def Run.made (run : Run Host Call Answer) (call : Call) (answer : Answer) : Run Host Call Answer :=
  { run with log := run.log ++ [⟨run.host, call, answer⟩] }

def alone (peer : Peer Host Call Answer) : Task Host Call Answer → Run Host Call Answer →
    Run Host Call Answer
  | .done, run => run
  | .lock next, run => alone peer next run
  | .unlock next, run => alone peer next run
  | .call call next, run =>
      alone peer (next (peer run.log call)) (run.made call (peer run.log call))
  | .host update next, run => alone peer (next (update run.host)) { run with host := update run.host }

theorem alone_host (peer : Peer Host Call Answer) (update : Host → Host)
    (next : Host → Task Host Call Answer) (run : Run Host Call Answer) :
    alone peer (.host update next) run =
      alone peer (next (update run.host)) { run with host := update run.host } := rfl

abbrev Procedure (Host Call Answer Value : Type) :=
  (Value → Task Host Call Answer) → Task Host Call Answer

/-- The procedure comes to the value, and to the run that what follows starts from. -/
def Returns (peer : Peer Host Call Answer) (procedure : Procedure Host Call Answer Value)
    (before : Run Host Call Answer) (value : Value) (after : Run Host Call Answer) : Prop :=
  ∀ next, alone peer (procedure next) before = alone peer (next value) after

def Ends (peer : Peer Host Call Answer) (procedure : Procedure Host Call Answer Value)
    (before : Run Host Call Answer) (post : Value → Run Host Call Answer → Prop) : Prop :=
  ∃ value after, Returns peer procedure before value after ∧ post value after

section Rules
variable {peer : Peer Host Call Answer} {before : Run Host Call Answer}
variable {post : Value → Run Host Call Answer → Prop}

theorem returns_unique [Nontrivial Host] {procedure : Procedure Host Call Answer Value}
    {first second : Value} {one other : Run Host Call Answer}
    (left : Returns peer procedure before first one)
    (right : Returns peer procedure before second other) : first = second ∧ one = other := by
  have same : one = other := (left fun _ => .done).symm.trans (right fun _ => .done)
  obtain ⟨here, there, apart⟩ := exists_pair_ne Host
  refine ⟨?_, same⟩
  by_contra differs
  -- What follows can tell the two values apart.
  classical
  have told := (left fun value => .host (fun _ => if value = first then here else there) fun _ => .done).symm.trans
    (right fun value => .host (fun _ => if value = first then here else there) fun _ => .done)
  have hosts : here = there := by
    simpa [alone, Ne.symm differs] using congrArg Run.host told
  exact apart hosts

theorem ends_value {value : Value} (holds : post value before) :
    Ends peer (fun next => next value) before post := ⟨value, before, fun _ => rfl, holds⟩

theorem ends_lock {procedure : Procedure Host Call Answer Value}
    (rest : Ends peer procedure before post) : Ends peer (fun next => .lock (procedure next)) before post :=
  rest

theorem ends_unlock {procedure : Procedure Host Call Answer Value}
    (rest : Ends peer procedure before post) :
    Ends peer (fun next => .unlock (procedure next)) before post := rest

theorem ends_call {call : Call} {procedure : Answer → Procedure Host Call Answer Value}
    (rest : Ends peer (procedure (peer before.log call)) (before.made call (peer before.log call)) post) :
    Ends peer (fun next => .call call fun answer => procedure answer next) before post := rest

theorem ends_host {update : Host → Host} {procedure : Host → Procedure Host Call Answer Value}
    (rest : Ends peer (procedure (update before.host)) { before with host := update before.host } post) :
    Ends peer (fun next => .host update fun host => procedure host next) before post := rest

theorem Ends.imp {procedure : Procedure Host Call Answer Value}
    {other : Value → Run Host Call Answer → Prop} (ends : Ends peer procedure before post)
    (weaker : ∀ value after, post value after → other value after) :
    Ends peer procedure before other := by
  obtain ⟨value, after, returns, holds⟩ := ends
  exact ⟨value, after, returns, weaker value after holds⟩

/-- One procedure, and then another that depends on the value. -/
theorem Ends.bind {first : Procedure Host Call Answer Value}
    {second : Value → Procedure Host Call Answer Result} {goal : Result → Run Host Call Answer → Prop}
    (ends : Ends peer first before post)
    (rest : ∀ value after, post value after → Ends peer (second value) after goal) :
    Ends peer (fun next => first fun value => second value next) before goal := by
  obtain ⟨value, middle, one, holds⟩ := ends
  obtain ⟨result, after, two, reached⟩ := rest value middle holds
  exact ⟨result, after, fun next => (one fun value => second value next).trans (two next), reached⟩

end Rules

section Growth
variable {allowed : Entry Host Call Answer → Prop} {size : Call → Nat}
variable {before middle after : Run Host Call Answer} {first second : Nat}

/-- The calls in between are allowed, and move no more than so much. -/
def Moves (allowed : Entry Host Call Answer → Prop) (size : Call → Nat) (limit : Nat)
    (before after : Run Host Call Answer) : Prop :=
  ∃ calls, after.log = before.log ++ calls ∧ (∀ entry ∈ calls, allowed entry) ∧
    (calls.map fun entry => size entry.call).sum ≤ limit

theorem moves_same {host : Host} : Moves allowed size 0 before { before with host := host } :=
  ⟨[], (List.append_nil _).symm, fun _ inside => absurd inside List.not_mem_nil, Nat.le_refl 0⟩

theorem moves_made {call : Call} {answer : Answer} (holds : allowed ⟨before.host, call, answer⟩) :
    Moves allowed size (size call) before (before.made call answer) :=
  ⟨[⟨before.host, call, answer⟩], rfl, fun entry inside => by rwa [List.mem_singleton.mp inside],
    by simp⟩

theorem Moves.trans (one : Moves allowed size first before middle)
    (two : Moves allowed size second middle after) :
    Moves allowed size (first + second) before after := by
  obtain ⟨calls, log, good, few⟩ := one
  obtain ⟨more, log', good', few'⟩ := two
  refine ⟨calls ++ more, by rw [log', log, List.append_assoc], fun entry inside => ?_, ?_⟩
  · exact (List.mem_append.mp inside).elim (good entry) (good' entry)
  · rw [List.map_append, List.sum_append]
    exact Nat.add_le_add few few'

theorem Moves.imp {other : Entry Host Call Answer → Prop} (moves : Moves allowed size first before after)
    (weaker : ∀ entry, allowed entry → other entry) (more : first ≤ second) :
    Moves other size second before after := by
  obtain ⟨calls, log, good, few⟩ := moves
  exact ⟨calls, log, fun entry inside => weaker entry (good entry inside), Nat.le_trans few more⟩

theorem Moves.length (moves : Moves allowed size first before after) :
    before.log.length ≤ after.log.length := by
  obtain ⟨calls, log, _, _⟩ := moves
  rw [log, List.length_append]
  exact Nat.le_add_right _ _

end Growth

end MangOH.SoloTasks
