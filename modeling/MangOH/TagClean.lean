import MangOH.NtagEeprom

/-!
The command that cleans the tag. It writes zeros over the blocks of the memory, one call of
the driver for each, and steps over those of the configuration; what it leaves is a tag
that the adapter takes for one that was never formatted.
-/

namespace MangOH.Nfc

open Blocks

variable {works again : Nat → Bool}

def zeroBlock : Block Byte 16 := ⟨List.replicate 16 0#8, rfl⟩

/-- The blocks that may not be read, with the configuration among them. -/
def skipped (i : Nat) : Prop := 0x38 < i ∧ i < 0x3F

instance (i : Nat) : Decidable (skipped i) := instDecidableAnd

namespace NtagEepromAdapter

/-- The loop from block `i` on, with the blocks that are left. -/
def cleanLoop (works : Nat → Bool) : Nat → Nat → Ntag → Bus → Bool × Ntag × Bus
  | 0, _, ntag, bus => (true, ntag, bus)
  | left + 1, i, ntag, bus =>
      if skipped i then cleanLoop works left (i + 1) ntag bus
      else
        let wrote := writeEeprom works ntag (i * ntagBlockSize) zeroBlock.items 16 bus
        if wrote.1 then cleanLoop works left (i + 1) wrote.2.1 wrote.2.2
        else (false, wrote.2.1, wrote.2.2)

def clean (works : Nat → Bool) (adapter : NtagEepromAdapter) (bus : Bus) :
    Bool × NtagEepromAdapter × Bus :=
  let container := readCapabilityContainer works adapter bus
  if !container.1 then (false, container.2.1, container.2.2)
  else
    -- The number of blocks is kept in a byte.
    let blocks := container.2.1.tagCapacity / ntagBlockSize % 256
    let cleaned := cleanLoop works blocks 0 container.2.1.ntag container.2.2
    (cleaned.1, { container.2.1 with ntag := cleaned.2.1 }, cleaned.2.2)

end NtagEepromAdapter

/-! What is written. -/

/-- Zeros in the blocks behind `first` as far as `upTo`. -/
def wiped (memory : Content) (first upTo : Nat) : Content := fun key =>
  if first < key ∧ key ≤ upTo ∧ ¬ skipped (key - 1) then zeroBlock else memory key

theorem wiped_none (memory : Content) (first : Nat) : wiped memory first first = memory := by
  funext key
  rw [wiped, if_neg]
  omega

theorem wiped_skip {memory : Content} {first upTo : Nat} (skip : skipped first) :
    wiped memory (first + 1) upTo = wiped memory first upTo := by
  funext key
  simp only [wiped]
  by_cases here : key = first + 1
  · have not_behind : ¬ (first + 1 < key ∧ key ≤ upTo ∧ ¬ skipped (key - 1)) := by omega
    have stepped : ¬ (first < key ∧ key ≤ upTo ∧ ¬ skipped (key - 1)) := by
      rw [here, Nat.add_sub_cancel]
      exact fun both => both.2.2 skip
    rw [if_neg not_behind, if_neg stepped]
  · have same : first + 1 < key ↔ first < key := by omega
    simp only [same]

theorem wiped_set {memory : Content} {first upTo : Nat} (written : ¬ skipped first) (reached : first < upTo) :
    wiped (Blocks.set memory (first + 1) zeroBlock) (first + 1) upTo = wiped memory first upTo := by
  funext key
  simp only [wiped, Blocks.set]
  by_cases here : key = first + 1
  · have not_behind : ¬ (first + 1 < key ∧ key ≤ upTo ∧ ¬ skipped (key - 1)) := by omega
    have cleaned : first < key ∧ key ≤ upTo ∧ ¬ skipped (key - 1) := by
      rw [here, Nat.add_sub_cancel]
      exact ⟨Nat.lt_succ_self _, reached, written⟩
    rw [if_neg not_behind, if_pos here, if_pos cleaned]
  · have same : first + 1 < key ↔ first < key := by omega
    simp only [same, if_neg here]

/-- One block of zeros: written, or nothing on the tag has changed. -/
theorem writeZeros {ntag : Ntag} {i : Nat} (small : i < 255) (bus : Bus) :
    let wrote := writeEeprom works ntag (i * ntagBlockSize) zeroBlock.items 16 bus
    (wrote.1 = true → wrote.2.2.memory = Blocks.set bus.memory (i + 1) zeroBlock) ∧
      (wrote.1 = false → wrote.2.2.memory = bus.memory) := by
  intro wrote
  have address : (i * ntagBlockSize + eepromBaseAddr) % 65536 = 16 * (i + 1) := by
    simp only [ntagBlockSize, eepromBaseAddr]
    omega
  have block : 16 * (i + 1) / ntagBlockSize % 256 = i + 1 := by
    simp only [ntagBlockSize]
    omega
  have aligned : ¬ 16 * (i + 1) % ntagBlockSize ≠ 0 := by
    simp only [ntagBlockSize]
    omega
  have data : zeroBlock.items.take ((16 : Byte)).toNat = zeroBlock.items := rfl
  have rest : wrote = writeRest works ntag .usermem (i + 1) zeroBlock.items bus := by
    show writeEeprom works ntag _ _ 16 bus = _
    rw [writeEeprom, address, write, if_neg aligned, block, data]
  have full : zeroBlock.items.length = 15 + 1 := rfl
  rw [rest, writeRest, full]
  by_cases valid : isAddressValid ntag.dt .usermem (i + 1) = true
  · have loop := @writeLoop_full works ntag.dt .usermem (i + 1) zeroBlock.items valid (Nat.le_refl 16) 15 bus
    have behind : zeroBlock.items.drop 16 = [] := rfl
    have front : zeroBlock.items.take 16 = zeroBlock.items := rfl
    rw [behind, front, writeLoop_nil] at loop
    rw [loop]
    cases through : works bus.made with
    | false => exact ⟨fun sent => (by cases sent), fun _ => rfl⟩
    | true =>
        refine ⟨fun _ => ?_, fun failed => (by cases failed)⟩
        exact receive_block (valid_lt valid) zeroBlock.full bus.count
  · rw [@writeLoop_invalid works ntag.dt .usermem (i + 1) zeroBlock.items valid (List.cons_ne_nil _ _)
      15 bus]
    exact ⟨fun sent => (by cases sent), fun _ => rfl⟩

namespace NtagEepromAdapter

/-- The loop wipes the blocks in their order, and reports success where it has wiped all. -/
theorem cleanLoop_wiped {left i : Nat} (small : i + left ≤ 255) (ntag : Ntag) (bus : Bus) :
    ∃ upTo, i ≤ upTo ∧ upTo ≤ i + left ∧
      (cleanLoop works left i ntag bus).2.2.memory = wiped bus.memory i upTo ∧
      ((cleanLoop works left i ntag bus).1 = true ↔ upTo = i + left) := by
  induction left generalizing i ntag bus with
  | zero => exact ⟨i, Nat.le_refl _, Nat.le_refl _, (wiped_none _ _).symm, iff_of_true rfl rfl⟩
  | succ left ih =>
      rw [cleanLoop]
      by_cases skip : skipped i
      · rw [if_pos skip]
        obtain ⟨upTo, low, high, memory, done⟩ := @ih (i + 1) (by omega) ntag bus
        refine ⟨upTo, by omega, by omega, memory.trans (wiped_skip skip), done.trans ?_⟩
        omega
      · rw [if_neg skip]
        have wrote := @writeZeros works ntag i (by omega) bus
        dsimp only
        cases sent : (writeEeprom works ntag (i * ntagBlockSize) zeroBlock.items 16 bus).1 with
        | true =>
            obtain ⟨upTo, low, high, memory, done⟩ := @ih (i + 1) (by omega)
              (writeEeprom works ntag (i * ntagBlockSize) zeroBlock.items 16 bus).2.1
              (writeEeprom works ntag (i * ntagBlockSize) zeroBlock.items 16 bus).2.2
            rw [wrote.1 sent, wiped_set skip low] at memory
            rw [if_pos rfl]
            refine ⟨upTo, by omega, by omega, memory, done.trans ?_⟩
            omega
        | false =>
            rw [if_neg Bool.false_ne_true]
            refine ⟨i, Nat.le_refl _, by omega, ?_, ?_⟩
            · rw [wiped_none]
              exact wrote.2 sent
            · exact iff_of_false Bool.false_ne_true (by omega)

/-- The number of blocks that a call is to clean. -/
def blocksOf (works : Nat → Bool) (adapter : NtagEepromAdapter) (memory : Content) : Nat :=
  (if works 0 then capacity memory else adapter.tagCapacity) / ntagBlockSize % 256

theorem clean_wiped (works : Nat → Bool) (adapter : NtagEepromAdapter) (memory : Content) :
    ∃ upTo ≤ blocksOf works adapter memory,
      (clean works adapter (Bus.start memory)).2.2.memory = wiped memory 0 upTo ∧
      ((clean works adapter (Bus.start memory)).1 = true ↔
        (works 0 = true → formatted memory = true) ∧ upTo = blocksOf works adapter memory) := by
  have container := @readCapabilityContainer_eq works adapter (Bus.start memory)
  have made : (Bus.start memory).made = 0 := rfl
  have tag : (Bus.start memory).memory = memory := rfl
  rw [made, tag] at container
  rw [clean, container, blocksOf]
  have small : ∀ size : Nat, 0 + size % 256 ≤ 255 := fun size => by omega
  cases first : works 0 with
  | false =>
      obtain ⟨upTo, _, high, memory, done⟩ := @cleanLoop_wiped works
        (adapter.tagCapacity / ntagBlockSize % 256) 0 (small _) adapter.ntag (Bus.start memory).count
      rw [Nat.zero_add] at high done
      exact ⟨upTo, high, memory, done.trans (and_iff_right fun none => (by cases none)).symm⟩
  | true =>
      cases magic : formatted memory with
      | false =>
          refine ⟨0, Nat.zero_le _, (wiped_none _ _).symm, iff_of_false Bool.false_ne_true fun both => ?_⟩
          cases both.1 rfl
      | true =>
          obtain ⟨upTo, _, high, memory, done⟩ := @cleanLoop_wiped works
            (capacity memory / ntagBlockSize % 256) 0 (small _) adapter.ntag (Bus.start memory).count
          rw [Nat.zero_add] at high done
          exact ⟨upTo, high, memory, done.trans (and_iff_right fun _ => rfl).symm⟩

theorem blank_wiped {memory : Content} {upTo : Nat} (some_block : 0 < upTo) :
    blank (wiped memory 0 upTo) = true := by
  have first : wiped memory 0 upTo 1 = zeroBlock := by
    rw [wiped, if_pos]
    exact ⟨Nat.one_pos, some_block, by decide⟩
  rw [blank, first]
  rfl

/-- A cleaned tag takes no message, and has none, until somebody else formats it. -/
theorem blank_refuses {memory : Content} (empty : blank memory = true) (wait : Wait)
    (message : List Byte) (adapter : NtagEepromAdapter) (found : again 1 = true) :
    (write again wait message adapter (Bus.start memory)).1 = false ∧
      (write again wait message adapter (Bus.start memory)).2.2.memory = memory := by
  apply write_refused
  rintro ⟨_, _, formatted, _⟩
  rw [formatted found] at empty
  cases empty

theorem blank_read {memory : Content} (empty : blank memory = true) (adapter : NtagEepromAdapter)
    (found : again 0 = true) : (read again adapter (Bus.start memory)).1.message = none := by
  have first : (isUnformatted again adapter (Bus.start memory)).1 = true := by
    rw [isUnformatted_eq]
    show (again 0 && blank memory) = true
    rw [found, empty]
    rfl
  rw [read, if_pos first]

end NtagEepromAdapter

end MangOH.Nfc
