import MangOH.QueueInit
import MangOH.SpiBridge

/-!
The bit-field macros against fields of exactly their width. A mask of one bit more takes in the
bit above the field, in the value that is stored and in the word that is read.
-/

namespace MangOH.FieldReads

open BitFields QueueMemory QueueWrite QueueInit Interrupt SpiBridge

/-- The field itself. -/
def field (value : Word) (offset width : Nat) : Nat := value.toNat / 2 ^ offset % 2 ^ width

/-- A bit of another field. -/
def Beside (offset width bit : Nat) : Prop := bit < offset ∨ offset + width ≤ bit

structure FieldAlgebra (v b : Word) (offset width : Nat) : Prop where
  defined : (bfGet (bfDefine b offset width) offset width).toNat = b.toNat % 2 ^ width
  got : (bfGet v offset width).toNat = field v offset width
  cleared : ∀ bit, Beside offset width bit → (bfClear v offset width).getLsbD bit = v.getLsbD bit
  set : field (bfSet v b offset width) offset width = b.toNat % 2 ^ width
  kept : ∀ bit, Beside offset width bit → (bfSet v b offset width).getLsbD bit = v.getLsbD bit

/-- The bit above the field is clear, in the word and in the value. -/
def Apart (v b : Word) (offset width : Nat) : Prop :=
  v.getLsbD (offset + width) = false ∧ (offset + width < 32 → b.getLsbD width = false)

theorem toNat_eq_iff {size number : Nat} {value : BitVec size} :
    value.toNat = number ↔ ∀ bit, value.getLsbD bit = number.testBit bit := by
  constructor
  · rintro rfl bit
    rfl
  · exact Nat.eq_of_testBit_eq

theorem testBit_field (value : Word) (offset width bit : Nat) :
    (field value offset width).testBit bit =
      (decide (bit < width) && value.getLsbD (offset + bit)) := by
  rw [field, Nat.testBit_mod_two_pow, Nat.testBit_div_two_pow, Nat.add_comm bit]
  rfl

section
variable (v b : Word) {offset width : Nat}

/-- A field is read right just when the bit above it is clear. -/
theorem got_iff : (bfGet v offset width).toNat = field v offset width ↔
    v.getLsbD (offset + width) = false := by
  rw [toNat_eq_iff]
  constructor
  · intro same
    have above := same width
    rw [getLsbD_bfGet, testBit_field] at above
    simpa using above
  · intro clear bit
    rw [getLsbD_bfGet, testBit_field, Bool.and_comm]
    rcases Nat.lt_trichotomy bit width with below | rfl | beyond
    · simp [below, Nat.le_of_lt below]
    · simp [clear]
    · simp [Nat.not_le.mpr beyond, Nat.lt_asymm beyond]

theorem defined_iff (fits : offset + width ≤ 32) :
    (bfGet (bfDefine b offset width) offset width).toNat = b.toNat % 2 ^ width ↔
      (offset + width < 32 → b.getLsbD width = false) := by
  have bits : ∀ bit, (bfGet (bfDefine b offset width) offset width).getLsbD bit =
      (decide (bit ≤ width ∧ offset + bit < 32) && b.getLsbD bit) := by
    intro bit
    rw [getLsbD_bfGet, getLsbD_bfDefine, Nat.add_sub_cancel_left, Bool.and_right_comm,
      ← Bool.decide_and]
    congr 1
    exact decide_eq_decide.mpr (by omega)
  rw [toNat_eq_iff]
  simp only [bits, Nat.testBit_mod_two_pow]
  constructor
  · intro same inside
    have above := same width
    simpa [inside] using above
  · intro clear bit
    rcases Nat.lt_trichotomy bit width with below | rfl | beyond
    · simp [below, Nat.le_of_lt below, show offset + bit < 32 by omega, BitVec.getLsbD]
    · by_cases inside : offset + bit < 32
      · simp [clear inside]
      · simp [inside]
    · simp [Nat.not_le.mpr beyond, Nat.lt_asymm beyond]

theorem getLsbD_bfClear (bit : Nat) : (bfClear v offset width).getLsbD bit =
    (v.getLsbD bit && !decide (offset ≤ bit ∧ bit ≤ offset + width)) := by
  rw [bfClear, BitVec.getLsbD_and, BitVec.getLsbD_not, getLsbD_mask]
  by_cases inside : bit < 32
  · simp [inside]
  · rw [BitVec.getLsbD_of_ge _ _ (Nat.le_of_not_lt inside)]
    rfl

theorem cleared_iff : (∀ bit, Beside offset width bit →
    (bfClear v offset width).getLsbD bit = v.getLsbD bit) ↔ v.getLsbD (offset + width) = false := by
  constructor
  · intro cleared
    have above := cleared (offset + width) (Or.inr (Nat.le_refl _))
    rw [getLsbD_bfClear] at above
    simpa using above.symm
  · intro clear bit beside
    rw [getLsbD_bfClear]
    by_cases above : bit = offset + width
    · subst bit
      simp [clear]
    · have apart : ¬ (offset ≤ bit ∧ bit ≤ offset + width) := by
        rcases beside with below | beyond <;> omega
      simp [apart]

/-- Replacing a field puts the value there in any case. -/
theorem set_field (fits : offset + width ≤ 32) :
    field (bfSet v b offset width) offset width = b.toNat % 2 ^ width := by
  apply Nat.eq_of_testBit_eq
  intro bit
  rw [testBit_field, Nat.testBit_mod_two_pow]
  by_cases inside : bit < width
  · have cleared : (bfClear v offset width).getLsbD (offset + bit) = false := by
      rw [getLsbD_bfClear]
      simp [show bit ≤ width by omega]
    have stored : (bfDefine b offset width).getLsbD (offset + bit) = b.getLsbD bit := by
      rw [getLsbD_bfDefine, Nat.add_sub_cancel_left]
      simp [show bit ≤ width by omega, show offset + bit < 32 by omega]
    rw [bfSet, BitVec.getLsbD_or, cleared, stored, Bool.false_or]
    rfl
  · simp [inside]

/-- Where the field is cleared right, the value may still reach the bit above. -/
theorem kept_iff (fits : offset + width ≤ 32) (clear : v.getLsbD (offset + width) = false) :
    (∀ bit, Beside offset width bit → (bfSet v b offset width).getLsbD bit = v.getLsbD bit) ↔
      (offset + width < 32 → b.getLsbD width = false) := by
  have cleared := (cleared_iff v).mpr clear
  constructor
  · intro kept inside
    have above := kept (offset + width) (Or.inr (Nat.le_refl _))
    rw [bfSet, BitVec.getLsbD_or, cleared _ (Or.inr (Nat.le_refl _)), clear, Bool.false_or,
      getLsbD_bfDefine, Nat.add_sub_cancel_left] at above
    simpa [inside] using above
  · intro low bit beside
    rw [bfSet, BitVec.getLsbD_or, cleared bit beside, getLsbD_bfDefine]
    by_cases above : bit = offset + width ∧ bit < 32
    · obtain ⟨rfl, inside⟩ := above
      simp [low inside]
    · have apart : ¬ (offset ≤ bit ∧ bit ≤ offset + width ∧ bit < 32) := by
        rcases beside with below | beyond <;> omega
      simp [apart]

theorem fieldAlgebra_iff (fits : offset + width ≤ 32) :
    FieldAlgebra v b offset width ↔ Apart v b offset width := by
  constructor
  · rintro ⟨defined, got, _, _, _⟩
    exact ⟨(got_iff v).mp got, (defined_iff b fits).mp defined⟩
  · rintro ⟨clear, low⟩
    exact ⟨(defined_iff b fits).mpr low, (got_iff v).mpr clear, (cleared_iff v).mpr clear,
      set_field v b fits, (kept_iff v b fits clear).mpr low⟩

end

/-! The fields that the driver reads. -/

structure Readings (data : QueueData) (reg : BitVec 16) : Prop where
  inUse : (mt7697qFlagsGetInUse data.flags).toNat = field data.flags 0 1
  dir : (mt7697qFlagsGetDir data.flags).toNat = field data.flags 1 1
  numWords : data.numWords = field data.flags 16 16
  busy : mt7697ioBusy reg = reg.getLsbD 0
  mailbox : (mt7697ioGetS2mMbox reg).toNat = field (reg.setWidth 32) 0 6

/-- The bits above the fields are clear, and the one above the busy bit where that is set. -/
structure Quiet (flags : Word) (reg : BitVec 16) : Prop where
  inUse : flags.getLsbD 1 = false
  dir : flags.getLsbD 2 = false
  busy : reg.getLsbD 0 = true → reg.getLsbD 1 = false
  mailbox : reg.getLsbD 6 = false

theorem busy_read_iff (reg : BitVec 16) :
    mt7697ioBusy reg = reg.getLsbD 0 ↔ (reg.getLsbD 0 = true → reg.getLsbD 1 = false) := by
  rw [Bool.eq_iff_iff, busy_iff]
  exact and_iff_left_iff_imp

theorem mailbox_read_iff (reg : BitVec 16) :
    (mt7697ioGetS2mMbox reg).toNat = field (reg.setWidth 32) 0 6 ↔ reg.getLsbD 6 = false := by
  have narrow : (mt7697ioGetS2mMbox reg).toNat = (bfGet (reg.setWidth 32) 0 6).toNat := by
    rw [toNat_eq_iff]
    intro bit
    have low := getLsbD_bfGet (reg.setWidth 32) 0 6 bit
    rw [mt7697ioGetS2mMbox, BitVec.getLsbD_setWidth]
    by_cases inside : bit < 8
    · rw [decide_eq_true inside, Bool.true_and]
      rfl
    · have beyond : ¬ bit ≤ 6 := by omega
      rw [decide_eq_false beyond, Bool.and_false] at low
      rw [decide_eq_false inside, Bool.false_and]
      exact low.symm
  rw [narrow, got_iff, BitVec.getLsbD_setWidth]
  exact Iff.rfl

theorem readings_iff (data : QueueData) (reg : BitVec 16) :
    Readings data reg ↔ Quiet data.flags reg := by
  constructor
  · rintro ⟨inUse, dir, _, busy, mailbox⟩
    exact ⟨(got_iff _).mp inUse, (got_iff _).mp dir, (busy_read_iff reg).mp busy,
      (mailbox_read_iff reg).mp mailbox⟩
  · rintro ⟨inUse, dir, busy, mailbox⟩
    exact ⟨(got_iff _).mpr inUse, (got_iff _).mpr dir,
      (got_iff _).mpr (BitVec.getLsbD_of_ge _ _ (Nat.le_refl 32)), (busy_read_iff reg).mpr busy,
      (mailbox_read_iff reg).mpr mailbox⟩

/-! Releasing the queues. -/

theorem clearInUse_bit (flags : Word) (bit : Nat) :
    (clearInUse flags).getLsbD bit = (flags.getLsbD bit && !decide (bit ≤ 1)) := by
  rw [clearInUse, BitVec.getLsbD_and, BitVec.getLsbD_not, getLsbD_bfGet, Nat.zero_add]
  cases set : flags.getLsbD bit with
  | false => simp
  | true =>
      have inside : bit < 32 := BitVec.lt_of_getLsbD set
      rw [decide_eq_true inside, Bool.true_and, Bool.true_and, Bool.true_and, Bool.true_and]

theorem wrUnused_bit {info : Info} {m2s s2m place : Nat} (entry : place = m2s ∨ place = s2m)
    (bit : Nat) : ((mt7697qWrUnused info m2s s2m).1.queues place).data.flags.getLsbD bit =
      ((info.queues place).data.flags.getLsbD bit && !decide (bit ≤ 1)) := by
  have kept := wrReq_flags ((info.setFlags m2s clearInUse).setFlags s2m clearInUse) m2s
    (queueReq cmdQueueUnused (info.queues m2s).ch (info.queues s2m).ch) place
  rw [mt7697qWrUnused, kept]
  rw [setFlags_queues, setFlags_queues]
  by_cases last : place = s2m
  · subst place
    rw [Function.update_self, clearInUse_bit]
    by_cases same : s2m = m2s
    · subst m2s
      rw [Function.update_self, clearInUse_bit, Bool.and_assoc, Bool.and_self]
    · rw [Function.update_of_ne same]
  · have first := entry.resolve_right last
    subst place
    rw [Function.update_of_ne last, Function.update_self, clearInUse_bit]

/-- Clearing the in-use field of a released queue leaves its direction. -/
def DirectionKept (info : Info) (m2s s2m place : Nat) : Prop :=
  ((mt7697qWrUnused info m2s s2m).1.queues place).data.flags.getLsbD 1 =
    (info.queues place).data.flags.getLsbD 1

theorem directionKept_iff {info : Info} {m2s s2m place : Nat} (entry : place = m2s ∨ place = s2m) :
    DirectionKept info m2s s2m place ↔ (info.queues place).data.flags.getLsbD 1 = false := by
  rw [DirectionKept, wrUnused_bit entry, decide_eq_true (Nat.le_refl 1), Bool.not_true, Bool.and_false]
  exact eq_comm

/-- The macros are exact, the driver's fields are read right, and a release keeps the
direction, just when the bits above the fields are clear. -/
theorem bitFields_iff (v b : Word) {offset width : Nat} (fits : offset + width ≤ 32)
    (data : QueueData) (reg : BitVec 16) {info : Info} {m2s s2m place : Nat}
    (entry : place = m2s ∨ place = s2m) :
    (FieldAlgebra v b offset width ↔ Apart v b offset width) ∧
      (Readings data reg ↔ Quiet data.flags reg) ∧
      (DirectionKept info m2s s2m place ↔ (info.queues place).data.flags.getLsbD 1 = false) :=
  ⟨fieldAlgebra_iff v b fits, readings_iff data reg, directionKept_iff entry⟩

theorem bitFields_iff_words : FieldAlgebra 0x40001 1 16 16 :=
  (@bitFields_iff 0x40001 1 16 16 (by decide) ⟨0, 0, 0, 0⟩ 0 unsent.info 0 1 0 (Or.inl rfl)).1.mpr
    ⟨by decide, by decide⟩

/-- The direction is read as a part of the in-use field. -/
theorem in_use_leaks : ¬ ∀ (v b : Word) (offset width : Nat), 1 ≤ width → offset + width ≤ 32 →
    FieldAlgebra v b offset width := by
  intro algebra
  have got := (algebra 2 0 0 1 (by decide) (by decide)).got
  exact absurd got (by decide)

end MangOH.FieldReads
