/-!
Programs that write items as they go and end with a value or an error. What was
written before an error stays written, so the output alone does not tell how a
run has ended.
-/

namespace MangOH

universe u v w x

structure Emission (Item : Type u) (Error : Type v) (α : Type w) where
  written : List Item
  outcome : Except Error α

namespace Emission

variable {Item : Type u} {Error : Type v} {α β : Type w} {γ : Type x}

def emit (items : List Item) : Emission Item Error PUnit := ⟨items, .ok ⟨⟩⟩

def fail (error : Error) : Emission Item Error α := ⟨[], .error error⟩

instance : Monad (Emission Item Error) where
  pure value := ⟨[], .ok value⟩
  bind run next :=
    match run.outcome with
    | .error error => ⟨run.written, .error error⟩
    | .ok value => ⟨run.written ++ (next value).written, (next value).outcome⟩

/-- A loop that adds up what its steps return. -/
def total (step : γ → Emission Item Error Nat) : List γ → Nat → Emission Item Error Nat
  | [], count => pure count
  | item :: rest, count => do
      let more ← step item
      total step rest (count + more)

/-- The run ends with the value and has written exactly the items. -/
def Yields (run : Emission Item Error α) (items : List Item) (value : α) : Prop :=
  run = ⟨items, .ok value⟩

theorem yields_of_outcome {run : Emission Item Error α} {value : α} (done : run.outcome = .ok value) :
    run.Yields run.written value := by
  rw [Yields, ← done]

@[simp]
theorem yields_pure {items : List Item} {value returned : α} :
    (pure returned : Emission Item Error α).Yields items value ↔ items = [] ∧ value = returned := by
  constructor
  · intro done
    cases done
    exact ⟨rfl, rfl⟩
  · rintro ⟨rfl, rfl⟩
    rfl

@[simp]
theorem yields_emit {items written : List Item} {value : PUnit} :
    (emit written : Emission Item Error PUnit).Yields items value ↔ items = written := by
  constructor
  · intro done
    cases done
    rfl
  · rintro rfl
    rfl

@[simp]
theorem not_yields_fail {error : Error} {items : List Item} {value : α} :
    ¬(fail error : Emission Item Error α).Yields items value := by
  intro done
  cases done

/-- A sequence yields what its two halves yield, one behind the other. -/
theorem yields_bind {run : Emission Item Error α} {next : α → Emission Item Error β}
    {items : List Item} {value : β} :
    (run >>= next).Yields items value ↔
      ∃ first middle rest, run.Yields first middle ∧ (next middle).Yields rest value ∧
        items = first ++ rest := by
  obtain ⟨written, outcome⟩ := run
  cases outcome with
  | error error =>
      constructor
      · intro done
        cases done
      · rintro ⟨_, _, _, done, _⟩
        cases done
  | ok middle =>
      constructor
      · intro done
        have both : (⟨written ++ (next middle).written, (next middle).outcome⟩ :
            Emission Item Error β) = ⟨items, .ok value⟩ := done
        obtain ⟨rfl, onward⟩ := Emission.mk.inj both
        exact ⟨written, middle, _, rfl, yields_of_outcome onward, rfl⟩
      · rintro ⟨_, _, rest, done, onward, rfl⟩
        cases done
        simp only [Yields, bind] at onward ⊢
        rw [onward]

/-- Items that are written first are in front. -/
theorem yields_emit_bind {written items : List Item} {next : PUnit → Emission Item Error β}
    {value : β} : (emit written >>= next).Yields items value ↔
      ∃ rest, (next ⟨⟩).Yields rest value ∧ items = written ++ rest := by
  rw [yields_bind]
  constructor
  · rintro ⟨first, _, rest, done, onward, rfl⟩
    obtain rfl := yields_emit.mp done
    exact ⟨rest, onward, rfl⟩
  · rintro ⟨rest, onward, rfl⟩
    exact ⟨written, ⟨⟩, rest, yields_emit.mpr rfl, onward, rfl⟩

theorem yields_total_nil {step : γ → Emission Item Error Nat} {count value : Nat}
    {items : List Item} : (total step [] count).Yields items value ↔ items = [] ∧ value = count :=
  yields_pure

theorem yields_total_cons {step : γ → Emission Item Error Nat} {item : γ} {rest : List γ}
    {count value : Nat} {items : List Item} :
    (total step (item :: rest) count).Yields items value ↔
      ∃ first more behind, (step item).Yields first more ∧
        (total step rest (count + more)).Yields behind value ∧ items = first ++ behind :=
  yields_bind

end Emission

end MangOH
