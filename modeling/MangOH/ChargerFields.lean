import MangOH.Bq25601
import MangOH.SharedFields

/-!
The fields of the bq25601 under calls of `bq25601_write_mask` that run at the same time.
Nothing keeps two of them apart: `f_reg_lock` is for the fault register only.
-/

namespace MangOH.Bq25601

open I2c SharedFields Trace

universe u

/-- The fields that can be written through sysfs. The interrupt thread and the properties write
fields of this table only. -/
def sysfsFieldTbl : List Field := [
  iscEnHiz, ⟨0x00, 0x60, 5⟩, ⟨0x00, 0x1F, 0⟩,
  ⟨0x01, 0x30, 4⟩, ⟨0x01, 0x0E, 1⟩, ⟨0x01, 0x01, 0⟩,
  cccBoostLim, ⟨0x02, 0x40, 6⟩, cccIchg,
  ⟨0x03, 0xF0, 4⟩, ⟨0x03, 0x0F, 0⟩,
  cvcVreg, ⟨0x04, 0x06, 1⟩, ⟨0x04, 0x01, 0⟩,
  ⟨0x05, 0x80, 7⟩, ⟨0x05, 0x30, 4⟩, ⟨0x05, 0x08, 3⟩, ⟨0x05, 0x04, 2⟩, ⟨0x05, 0x02, 1⟩, ⟨0x05, 0x01, 0⟩,
  ⟨0x06, 0xC0, 6⟩, ⟨0x06, 0x30, 4⟩, ⟨0x06, 0x0F, 0⟩,
  ⟨0x07, 0x80, 7⟩, ⟨0x07, 0x40, 6⟩, ⟨0x07, 0x20, 5⟩, ⟨0x07, 0x10, 4⟩, ⟨0x07, 0x08, 3⟩, ⟨0x07, 0x04, 2⟩,
  ⟨0x07, 0x03, 0⟩]

/-- Every field of the control registers. -/
def controlFields : List Field := pocPfmDis :: pocWdRst :: sysfsFieldTbl

structure WriteCall where
  field : Field
  listed : field ∈ sysfsFieldTbl
  data : Byte

def WriteCall.update (call : WriteCall) : Update Byte 8 where
  reg := call.field.reg
  mask := call.field.mask
  value := (call.data <<< call.field.shift) &&& call.field.mask
  inside := by rw [BitVec.and_assoc, BitVec.and_self]

/-- The steps of the calls, in whatever order they come. -/
abbrev steps {Call : Type u} [DecidableEq Call] (calls : Call → WriteCall) :
    SharedFields.State Call Byte 8 → SharedFields.Event Call → SharedFields.State Call Byte 8 :=
  SharedFields.step fun call => (calls call).update

/-- Two fields of a register have no bit in common. -/
theorem controlFields_apart : ∀ one ∈ controlFields, ∀ other ∈ controlFields, one.reg = other.reg →
    one = other ∨ one.mask ≠ other.mask ∧ one.mask &&& other.mask = 0 := by
  decide

/-- How the steps see a transfer of one byte. -/
def ending : Transfer → Ending
  | .done => .done
  | .failed _ taken => .failed (taken ≠ 0)

variable {Call : Type u} [DecidableEq Call] {calls : Call → WriteCall} {call : Call}

/-- The two steps of a call with none in between are the call. -/
theorem writeMask_alone {state : SharedFields.State Call Byte 8} (idle : state.phase call = .idle)
    (first second : Transfer) :
    let after := run (steps calls) state
      [.read call (ending first), .write call (ending second)]
    let result := bq25601WriteMask first second (calls call).field (calls call).data state.registers
    after.registers = result.2 ∧ after.phase call = .returned (result.1 = 0) := by
  cases first with
  | failed errno taken =>
      have fails : (Transfer.failed errno taken).ret < 0 := ret_neg nofun
      simp [run, steps, SharedFields.step, ending, idle, bq25601WriteMask, bq25601Read, I2c.read,
        Int.ne_of_lt fails, SharedFields.State.proceed]
  | done =>
      cases second with
      | done =>
          simp [run, steps, SharedFields.step, ending, idle, writeMask_done, Ending.took,
            Ending.success]
          rfl
      | failed errno taken =>
          have fails : (Transfer.failed errno taken).ret < 0 := ret_neg nofun
          cases taken with
          | zero =>
              simp [run, steps, SharedFields.step, ending, idle, bq25601WriteMask, bq25601Read, I2c.read,
                bq25601Write, write, store, Ending.took, Ending.success, Int.ne_of_lt fails]
              rfl
          | succ taken =>
              simp [run, steps, SharedFields.step, ending, idle, bq25601WriteMask, bq25601Read, I2c.read,
                bq25601Write, write, store, Ending.took, Ending.success, Int.ne_of_lt fails]
              rfl

/-- Every field holds what one of the calls for it has written, and a field that no call is for
is unchanged, where each write puts back what the register still holds beside its field. -/
theorem charger_fields_kept (calls : Call → WriteCall) (start : Registers)
    (events : List (SharedFields.Event Call))
    (fresh : Along (steps calls) (Fresh fun call => (calls call).update) (initial start) events)
    (returned : ∀ call, (run (steps calls) (initial start) events).phase call = .returned true)
    (field : Field) (control : field ∈ controlFields) :
    let after := (run (steps calls) (initial start) events).registers
    ((∃ call, (calls call).field = field) →
        ∃ call, (calls call).field = field ∧ after field.reg &&& field.mask =
          ((calls call).data <<< field.shift) &&& field.mask) ∧
      ((∀ call, (calls call).field ≠ field) →
        after field.reg &&& field.mask = start field.reg &&& field.mask) := by
  intro after
  have listed : ∀ call, (calls call).field ∈ controlFields := fun call =>
    List.mem_cons_of_mem _ (List.mem_cons_of_mem _ (calls call).listed)
  have writes : ∀ call, Writes (fun call => (calls call).update) field.reg field.mask call ↔
      (calls call).field = field := by
    intro call
    constructor
    · rintro ⟨reg, mask⟩
      rcases controlFields_apart _ (listed call) _ control reg with same | ⟨other, -⟩
      · exact same
      · exact absurd mask other
    · rintro rfl
      exact ⟨rfl, rfl⟩
  have apart : SharedFields.Field (fun call => (calls call).update) field.reg field.mask := by
    refine ⟨fun call reg => ?_⟩
    rcases controlFields_apart _ (listed call) _ control reg with same | ⟨-, none⟩
    · exact .inl (congrArg Field.mask same)
    · exact .inr none
  obtain ⟨held, kept⟩ := field_run apart fresh returned
  simp only [writes] at held kept
  refine ⟨fun some => ?_, kept⟩
  obtain ⟨call, own, value⟩ := held some
  have same := (writes call).mp own
  exact ⟨call, same, value.trans (by simp only [WriteCall.update, same])⟩

/-- A charge current is set by one call, and the other sets the boost limit. -/
def twoCalls : Bool → WriteCall
  | false => ⟨cccIchg, by decide, 35⟩
  | true => ⟨cccBoostLim, by decide, 1⟩

def oneByOne : List (SharedFields.Event Bool) :=
  [.read false .done, .write false .done, .read true .done, .write true .done]

theorem twoCalls_oneByOne :
    let after := (run (steps twoCalls) (initial fun _ => 0) oneByOne).registers
    ∃ call, (twoCalls call).field = cccBoostLim ∧
      after 0x02 &&& 0x80 = ((twoCalls call).data <<< 7) &&& 0x80 := by
  have fresh : Along (steps twoCalls) (Fresh fun call => (twoCalls call).update)
      (initial fun _ => 0) oneByOne := by
    refine ⟨trivial, fun _ word loaded => ?_, trivial, fun _ word loaded => ?_, trivial⟩
    · cases loaded
      rfl
    · cases loaded
      rfl
  have returned : ∀ call, (run (steps twoCalls) (initial fun _ => 0) oneByOne).phase call =
      .returned true := by decide
  exact (charger_fields_kept twoCalls (fun _ => 0) oneByOne fresh returned cccBoostLim (by decide)).1
    ⟨true, rfl⟩

/-- Both calls read before either writes, and both return success: the charge current is lost. -/
theorem charge_current_lost :
    let events : List (SharedFields.Event Bool) :=
      [.read false .done, .read true .done, .write false .done, .write true .done]
    let after := run (steps twoCalls) (initial fun _ => 0) events
    (∀ call, after.phase call = .returned true) ∧ (twoCalls false).field = cccIchg ∧
      ∀ call, (twoCalls call).field = cccIchg →
        after.registers 0x02 &&& 0x3F ≠ (twoCalls call).data &&& 0x3F := by
  decide

end MangOH.Bq25601
