import MangOH.I2c
import MangOH.Masks
import MangOH.SettingScale

/-!
The registers of the bq25601 battery charger: fields under a mask and a shift, and tables
of the values that the settings of a field stand for.
-/

namespace MangOH.Bq25601

open I2c

/-- A register, and the field in it. -/
structure Field where
  reg : Byte
  mask : Byte
  shift : Nat
deriving DecidableEq

def iscEnHiz : Field := ⟨0x00, 0x80, 7⟩
def pocPfmDis : Field := ⟨0x01, 0x80, 7⟩
def pocWdRst : Field := ⟨0x01, 0x40, 6⟩
def cccBoostLim : Field := ⟨0x02, 0x80, 7⟩
def cccIchg : Field := ⟨0x02, 0x3F, 0⟩
def cvcVreg : Field := ⟨0x04, 0xF8, 3⟩

def bq25601Read (transfer : Transfer) (registers : Registers) (reg : Byte) : Except Int Byte :=
  read transfer registers reg

def bq25601Write (transfer : Transfer) (reg data : Byte) (registers : Registers) :
    Int × Registers :=
  write transfer reg [data] registers

/-- What a register's content has in the field. -/
def Field.bits (field : Field) (v : Byte) : Byte := (v &&& field.mask) >>> field.shift

def bq25601ReadMask (transfer : Transfer) (registers : Registers) (field : Field) :
    Except Int Byte :=
  match bq25601Read transfer registers field.reg with
  | .error ret => .error ret
  | .ok v => .ok (field.bits v)

/-- The register's content with this in the field. -/
def Field.put (field : Field) (data v : Byte) : Byte :=
  Masks.replace v field.mask ((data <<< field.shift) &&& field.mask)

def bq25601WriteMask (first second : Transfer) (field : Field) (data : Byte)
    (registers : Registers) : Int × Registers :=
  match bq25601Read first registers field.reg with
  | .error ret => (ret, registers)
  | .ok v => bq25601Write second field.reg (field.put data v) registers

/-- The loop of the search, at this place. -/
def findFrom (v : Int) (i : Nat) : List Int → Nat
  | [] => i
  | entry :: rest => if v < entry then i else findFrom v (i + 1) rest

/-- The search starts at the second entry and returns the one before where it ends. -/
def bq25601FindIdx (tbl : List Int) (v : Int) : Byte := BitVec.ofNat 8 (findFrom v 1 tbl.tail - 1)

def bq25601GetFieldVal (transfer : Transfer) (registers : Registers) (field : Field)
    (tbl : List Int) : Except Int Int :=
  match bq25601ReadMask transfer registers field with
  | .error ret => .error ret
  | .ok v => .ok (tbl.getD (if tbl.length ≤ v.toNat then tbl.length - 1 else v.toNat) 0)

def bq25601SetFieldVal (first second : Transfer) (field : Field) (tbl : List Int) (val : Int)
    (registers : Registers) : Int × Registers :=
  bq25601WriteMask first second field (bq25601FindIdx tbl val) registers

theorem findFrom_eq (v : Int) (rest : List Int) :
    ∀ i : Nat, findFrom v i rest = i + SettingScale.reached v rest := by
  induction rest with
  | nil => exact fun i => rfl
  | cons entry rest ih =>
      intro i
      rw [findFrom, SettingScale.reached]
      split
      · rfl
      · rw [ih, Nat.add_right_comm, Nat.add_assoc]

/-- The index is that of the search, for a table that a byte can index. -/
theorem toNat_findIdx {tbl : List Int} (some : 0 < tbl.length) (small : tbl.length ≤ 256) (v : Int) :
    (bq25601FindIdx tbl v).toNat = SettingScale.reached v tbl.tail := by
  have bound := (SettingScale.found_reached some v).bound
  rw [bq25601FindIdx, findFrom_eq, Nat.add_sub_cancel_left, BitVec.toNat_ofNat]
  exact Nat.mod_eq_of_lt (by omega)

theorem writeMask_done (field : Field) (data : Byte) (registers : Registers) :
    bq25601WriteMask .done .done field data registers =
      (0, Function.update registers field.reg (field.put data (registers field.reg))) := rfl

/-- The field is put in the register, or nothing is done and the call fails. -/
theorem writeMask_cases (first second : Transfer) (field : Field) (data : Byte)
    (registers : Registers) :
    (bq25601WriteMask first second field data registers).2 =
        Function.update registers field.reg (field.put data (registers field.reg)) ∨
      (bq25601WriteMask first second field data registers).2 = registers ∧
        (bq25601WriteMask first second field data registers).1 < 0 := by
  cases first with
  | failed errno taken =>
      have fails : (Transfer.failed errno taken).ret < 0 := ret_neg nofun
      exact .inr ⟨rfl, fails⟩
  | done =>
      rcases write_one second field.reg (field.put data (registers field.reg)) registers with
        put | ⟨kept, fails⟩
      · exact .inl put
      · refine .inr ⟨kept, ?_⟩
        exact (write_ret second field.reg _ registers).trans_lt (ret_neg fails)

/-- The field holds what was put there, and the other bits are left. -/
theorem Field.put_and_mask (field : Field) (data v : Byte) :
    field.put data v &&& field.mask = (data <<< field.shift) &&& field.mask := by
  rw [Field.put]
  apply Masks.replace_and_self
  rw [BitVec.and_assoc, BitVec.and_self]

theorem Field.put_and_other {field : Field} {other : Byte} (apart : field.mask &&& other = 0)
    (data v : Byte) : field.put data v &&& other = v &&& other := by
  rw [Field.put]
  apply Masks.replace_and_other apart
  rw [BitVec.and_assoc, apart]
  exact BitVec.and_zero

theorem Field.put_and_not_mask (field : Field) (data v : Byte) :
    field.put data v &&& ~~~field.mask = v &&& ~~~field.mask :=
  field.put_and_other (BitVec.and_not_self _) data v

/-- A field beside the one that is written keeps what it has, whatever the transfers do. -/
theorem writeMask_bits (first second : Transfer) {field other : Field}
    (apart : field.reg ≠ other.reg ∨ field.mask &&& other.mask = 0) (data : Byte)
    (registers : Registers) :
    other.bits ((bq25601WriteMask first second field data registers).2 other.reg) =
      other.bits (registers other.reg) := by
  rcases writeMask_cases first second field data registers with put | ⟨kept, -⟩
  · rw [put]
    by_cases same : other.reg = field.reg
    · rw [same, Function.update_self, Field.bits, Field.bits]
      rw [field.put_and_other (apart.resolve_left (not_not_intro same.symm))]
    · rw [Function.update_of_ne same]
  · rw [kept]

end MangOH.Bq25601
