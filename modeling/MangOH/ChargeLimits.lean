import MangOH.Bq25601

/-!
The charge current and the charge voltage of the bq25601. The chip has each evenly spaced;
the driver goes by its tables, and that of the currents has entries that are not the chip's.
-/

namespace MangOH.Bq25601

open I2c SettingScale

def cccIchgValues : List Int := [
  0, 60000, 120000, 180000, 240000, 300000, 360000, 420000,
  480000, 540000, 600000, 660000, 720000, 780000, 840000, 900000,
  960000, 1020000, 1080000, 1140000, 1200000, 1260000, 1320000, 1380000,
  1440000, 1500000, 1560000, 1620000, 1680000, 1740000, 1800000, 1860000,
  1920000, 1980000, 2040000, 2100000, 2160000, 2200000, 2260000, 2280000,
  2340000, 2400000, 2460000, 2520000, 2580000, 2640000, 2700000, 2760000,
  2820000, 2880000, 2940000, 3000000]

def cvcVregValues : List Int := [
  3856000, 3888000, 3920000, 3952000, 3984000, 4016000, 4048000, 4080000,
  4112000, 4144000, 4176000, 4208000, 4240000, 4272000, 4304000, 4336000,
  4368000, 4400000, 4432000, 4464000, 4496000, 4528000, 4560000, 4592000,
  4624000]

/-- The setter of a limit: both transfers, what is asked for, and the registers. -/
abbrev Setter := Transfer → Transfer → Int → Registers → Int × Registers

abbrev Getter := Transfer → Registers → Except Int Int

def bq25601ChargerSetCurrent : Setter := fun first second intval registers =>
  bq25601SetFieldVal first second cccIchg cccIchgValues intval registers

def bq25601ChargerGetCurrent : Getter := fun transfer registers =>
  bq25601GetFieldVal transfer registers cccIchg cccIchgValues

def bq25601ChargerSetVoltage : Setter := fun first second intval registers =>
  bq25601SetFieldVal first second cvcVreg cvcVregValues intval registers

def bq25601ChargerGetVoltage : Getter := fun transfer registers =>
  bq25601GetFieldVal transfer registers cvcVreg cvcVregValues

/-! What the chip does. -/

/-- The setting that a register's content has in the field. -/
def Field.setting (field : Field) (v : Byte) : Nat := (field.bits v).toNat

/-- In microamperes. -/
def ichgScale : Scale := ⟨0, 60000, 3000000⟩

/-- In microvolts. -/
def vregScale : Scale := ⟨3856000, 32000, 4624000⟩

section Limits

variable (field : Field) (scale : Scale)

/-- A set that succeeds has the chip's limit right, and none changes another bit. -/
def SetsLimit (set : Setter) (request : Int) (registers : Registers) : Prop :=
  ∀ first second, let after := (set first second request registers).2
    ((set first second request registers).1 = 0 →
      scale.Meets request (scale.effect (field.setting (after field.reg)))) ∧
    after field.reg &&& ~~~field.mask = registers field.reg &&& ~~~field.mask ∧
    ∀ reg, reg ≠ field.reg → after reg = registers reg

/-- What is read back is what the chip does. -/
def ReadsBack (get : Getter) (registers : Registers) : Prop :=
  get .done registers = .ok (scale.effect (field.setting (registers field.reg)))

variable {field scale} {table : List Int}

/-- The field is wide enough for every index of the table. -/
def Field.Indexes (field : Field) (size : Nat) : Prop :=
  size ≤ 256 ∧ ∀ data : Byte, data.toNat < size → ((data <<< field.shift) &&& field.mask) >>> field.shift = data

theorem setting_put {data : Byte} {size : Nat} (indexes : field.Indexes size)
    (bound : data.toNat < size) (v : Byte) : field.setting (field.put data v) = data.toNat := by
  rw [Field.setting, Field.bits, field.put_and_mask, indexes.2 data bound]

/-- A set is right for what the table's index means to the chip. -/
theorem setsLimit_iff (some : 0 < table.length) (indexes : field.Indexes table.length)
    (request : Int) (registers : Registers) :
    SetsLimit field scale (fun first second => bq25601SetFieldVal first second field table) request
        registers ↔
      scale.Meets request (scale.effect (reached request table.tail)) := by
  have index := toNat_findIdx some indexes.1 request
  have bound := (found_reached some request).bound
  rw [← index] at bound ⊢
  have setting := setting_put indexes bound (registers field.reg)
  constructor
  · intro sets
    have right := (sets .done .done).1 rfl
    simp only [bq25601SetFieldVal, writeMask_done, Function.update_self, setting] at right
    exact right
  · intro meets first second
    simp only [bq25601SetFieldVal]
    rcases writeMask_cases first second field (bq25601FindIdx table request) registers with
      put | ⟨kept, fails⟩
    · rw [put]
      refine ⟨fun _ => ?_, ?_, fun reg apart => Function.update_of_ne apart _ _⟩
      · rwa [Function.update_self, setting]
      · rw [Function.update_self]
        exact field.put_and_not_mask (bq25601FindIdx table request) (registers field.reg)
    · rw [kept]
      exact ⟨fun same => absurd same (Int.ne_of_lt fails), rfl, fun _ _ => rfl⟩

theorem readsBack_iff (registers : Registers) :
    ReadsBack field scale (fun transfer registers => bq25601GetFieldVal transfer registers field table)
        registers ↔
      table.getD (if table.length ≤ field.setting (registers field.reg) then table.length - 1
        else field.setting (registers field.reg)) 0 =
        scale.effect (field.setting (registers field.reg)) := by
  constructor
  · exact fun same => Except.ok.inj same
  · exact fun same => congrArg Except.ok same

end Limits

theorem cvcVreg_indexes : cvcVreg.Indexes 25 := by
  refine ⟨by decide, fun data small => ?_⟩
  revert data
  decide

theorem cccIchg_indexes : cccIchg.Indexes 52 := by
  refine ⟨by decide, fun data small => ?_⟩
  revert data
  decide

theorem vreg_listed : vregScale.Listed cvcVregValues where
  increasing := by decide
  some := by decide
  last := by decide
  entry := by decide

/-- The currents in the table, by index. -/
theorem ichg_entry : ∀ (index : Nat) (bound : index < cccIchgValues.length),
    cccIchgValues[index] =
      if index < 37 then 60000 * (index : Int) else if index = 37 then 2200000
      else if index = 38 then 2260000 else 60000 * (index : Int) - 60000 := by
  decide

theorem setsVoltage (request : Int) (registers : Registers) :
    SetsLimit cvcVreg vregScale bq25601ChargerSetVoltage request registers :=
  (setsLimit_iff vreg_listed.some cvcVreg_indexes request registers).mpr
    (vreg_listed.meets request)

theorem readsVoltage (registers : Registers) :
    ReadsBack cvcVreg vregScale bq25601ChargerGetVoltage registers :=
  (readsBack_iff registers).mpr (vreg_listed.effect_clipped _).symm

theorem setsCurrent_iff (request : Int) (registers : Registers) :
    SetsLimit cccIchg ichgScale bq25601ChargerSetCurrent request registers ↔
      ¬ (2200000 ≤ request ∧ request < 2220000 ∨ 2260000 ≤ request ∧ request < 3000000) := by
  have some : 0 < cccIchgValues.length := by decide
  refine (setsLimit_iff some cccIchg_indexes request registers).trans ?_
  have found := found_reached some request
  generalize reached request cccIchgValues.tail = index at found
  have size : cccIchgValues.length = 52 := by decide
  have bound := found.bound
  have lower := found.lower
  have upper := found.upper
  simp only [ichg_entry, size] at bound lower upper
  have effect : ichgScale.effect index = min (60000 * (index : Int)) 3000000 := by
    simp [ichgScale, Scale.effect]
  rw [effect]
  constructor
  · rintro ⟨atMost, -, -, -⟩
    simp only [ichgScale] at atMost
    omega
  · intro apart
    constructor <;> simp only [ichgScale] <;> omega

theorem readsCurrent_iff (registers : Registers) :
    ReadsBack cccIchg ichgScale bq25601ChargerGetCurrent registers ↔
      ¬ (37 ≤ cccIchg.setting (registers cccIchg.reg) ∧
        cccIchg.setting (registers cccIchg.reg) ≤ 50) := by
  refine (readsBack_iff registers).trans ?_
  generalize cccIchg.setting (registers cccIchg.reg) = index
  have size : cccIchgValues.length = 52 := by decide
  have effect : ichgScale.effect index = min (60000 * (index : Int)) 3000000 := by
    simp [ichgScale, Scale.effect]
  rw [effect, size]
  by_cases beyond : 52 ≤ index
  · have last : cccIchgValues.getD 51 0 = 3000000 := by decide
    rw [if_pos beyond, last]
    omega
  · have bound : index < cccIchgValues.length := by omega
    rw [if_neg beyond, List.getD_eq_getElem _ _ bound, ichg_entry]
    omega

/-- Where the two limits are right: the voltage always, and the current but for the requests
and the settings that the wrong entries of its table stand for. -/
theorem charge_limits_iff (request : Int) (registers : Registers) :
    (SetsLimit cccIchg ichgScale bq25601ChargerSetCurrent request registers ↔
        ¬ (2200000 ≤ request ∧ request < 2220000 ∨ 2260000 ≤ request ∧ request < 3000000)) ∧
      (ReadsBack cccIchg ichgScale bq25601ChargerGetCurrent registers ↔
        ¬ (37 ≤ cccIchg.setting (registers cccIchg.reg) ∧
          cccIchg.setting (registers cccIchg.reg) ≤ 50)) ∧
      SetsLimit cvcVreg vregScale bq25601ChargerSetVoltage request registers ∧
      ReadsBack cvcVreg vregScale bq25601ChargerGetVoltage registers :=
  ⟨setsCurrent_iff request registers, readsCurrent_iff registers, setsVoltage request registers,
    readsVoltage registers⟩

/-- For 2.3 A the chip is set to 2.34 A, and 2.28 A is read back. -/
theorem current_exceeded :
    let after := (bq25601ChargerSetCurrent .done .done 2300000 fun _ => 0).2
    ichgScale.effect (cccIchg.setting (after cccIchg.reg)) = 2340000 ∧
      bq25601ChargerGetCurrent .done after = .ok 2280000 ∧
      ¬ SetsLimit cccIchg ichgScale bq25601ChargerSetCurrent 2300000 fun _ => 0 := by
  refine ⟨by decide, by decide, fun sets => ?_⟩
  have exceeds := ((sets .done .done).1 rfl).atMost (by decide)
  revert exceeds
  decide

end MangOH.Bq25601
