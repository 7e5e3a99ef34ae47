import MangOH.NtagEeprom
import MangOH.NtagSram

/-!
The round trip of a message through the tag, with both adapters and whatever transfers
fail in the write and in the read after it.
-/

namespace MangOH.Nfc

open Blocks

/-- A round trip is as expected just when no branch is taken that loses an error or a part
of a length. -/
theorem store_iff (works again : Nat → Bool) (wait later : Wait) (message : List Byte) (memory : Content) :
    (∀ adapter, NtagEepromAdapter.Kept works again wait message adapter memory ↔
      NtagEepromAdapter.Sound works again wait message adapter memory) ∧
    (∀ adapter, NtagSramAdapter.Kept works again wait later message adapter memory ↔
      NtagSramAdapter.Sound works wait message adapter) :=
  ⟨fun adapter => NtagEepromAdapter.kept_iff works again wait message adapter memory,
    fun adapter => NtagSramAdapter.kept_iff works again wait later message adapter memory⟩

/-- A tag of 872 bytes, with an empty message on it. -/
def emptyTag : Content := fun key =>
  if key = 0 then ⟨[4, 0, 0, 0, 0, 0, 0, 0, 0, 0, 0, 0, 0xE1, 0x10, 0x6D, 0], rfl⟩
  else if key = 1 then ⟨[3, 0, 0xFE, 0, 0, 0, 0, 0, 0, 0, 0, 0, 0, 0, 0, 0], rfl⟩
  else ⟨List.replicate 16 0, rfl⟩

def idleWait : Wait := ⟨0, 0, [], ⟨0, some 0, 0⟩⟩

def freshNtag : Ntag := ⟨.ntagI2c2K, 0, 0, 0, false⟩

/-- A message of 240 bytes takes 256, which in a byte is none: nothing fails, nothing is
written, and the write reports success. -/
theorem whole_message_dropped :
    ¬ ∀ (works again : Nat → Bool) (wait later : Wait) (message : List Byte) (memory : Content),
      (∀ adapter, NtagEepromAdapter.Kept works again wait message adapter memory) ∧
      (∀ adapter, NtagSramAdapter.Kept works again wait later message adapter memory) := by
  intro kept
  have eeprom := (kept (fun _ => true) (fun _ => true) idleWait idleWait (List.replicate 240 0) emptyTag).1
    ⟨freshNtag, [], 0, 0, 0, 0⟩
  have sound := (NtagEepromAdapter.kept_iff _ _ _ _ _ _).mp eeprom
  have reaches : NtagEepromAdapter.Reaches (fun _ => true) idleWait (List.replicate 240 0)
      ⟨freshNtag, [], 0, 0, 0, 0⟩ emptyTag := by
    refine ⟨rfl, fun _ => rfl, fun _ => rfl, ?_⟩
    rw [NtagEepromAdapter.storedSize, List.length_replicate]
    decide
  have short := (sound reaches).2.1
  rw [List.length_replicate] at short
  exact absurd short (by decide)

end MangOH.Nfc
