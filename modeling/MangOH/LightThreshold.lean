import MangOH.LightCache
import Mathlib.Tactic.Linarith

/-!
Thresholds of the light sensor as numbers: what is asked for, what is stored
and what is read back, in millionths of a lux or of a nW/cm^2. The comparison
with the scales is made in thousandths, in an `int` that the upper scales of
the second chip do not fit, and it takes a value for its thousandths rounded
towards zero.
-/

namespace MangOH.LightSensor

inductive Part where
  | opt3001
  | opt3002

def Part.chip : Part → Chip
  | .opt3001 => LightSensor.opt3001
  | .opt3002 => LightSensor.opt3002

/-- A value as the IIO core passes it: two `int`, of which the millionths are
negative only for a negative value without a whole part. -/
structure Value where
  val : Int
  val2 : Int
  int : -2147483648 ≤ val ∧ val ≤ 2147483647
  micro : -1000000 < val2 ∧ val2 < 1000000
  sign : val2 < 0 → val = 0

def Value.micros (value : Value) : Int :=
  if value.val < 0 then value.val * 1000000 - value.val2 else value.val * 1000000 + value.val2

def fullScale (scale : Int × Int) : Int := scale.1 * 1000000 + scale.2

def Chip.last (chip : Chip) : Int := fullScale (chip.table.getLastD (0, 0))

/-- The least significant bit of a mantissa with this exponent. -/
def Chip.lsb (chip : Chip) (exponent : Nat) : Int :=
  ((1000000 / chip.scalerDenominator * chip.scalerNumerator * 2 ^ exponent : Nat) : Int)

def readMicros (read : Nat × Nat) : Int := ((read.1 * 1000000 + read.2 : Nat) : Int)

/-- The cached threshold of a direction that events have. -/
def Cache.thresh (cache : Cache) : Direction → Option Threshold
  | .rising => some cache.highThresh
  | .falling => some cache.lowThresh
  | .other => none

def readEventValue (chip : Chip) (dir : Direction) (sensor : Sensor) : Except Errno (Nat × Nat) :=
  match sensor.cache.thresh dir with
  | some threshold => .ok (chip.toIioRet threshold)
  | none => .error .inval

def Direction.register : Direction → Register
  | .rising => .highLimit
  | .falling => .lowLimit
  | .other => .result

/-- The threshold in the cache, and in its register when the transfer succeeds. -/
def stored (dir : Direction) (threshold : Threshold) (written : Bool) (sensor : Sensor) : Sensor where
  cache :=
    match dir with
    | .rising => { sensor.cache with highThresh := threshold }
    | .falling => { sensor.cache with lowThresh := threshold }
    | .other => sensor.cache
  device := if written then sensor.device.write dir.register threshold.toWord else sensor.device

/-- The thousandths are not cut off by the `int` they are stored in. -/
def MilliFits (val val2 : Int) : Prop := milli val val2 = val * 1000 + val2.tdiv 1000

instance (val val2 : Int) : Decidable (MilliFits val val2) := inferInstanceAs (Decidable (_ = _))

/-- So are those of every scale that the value is compared with. -/
def ComparedFit (table : List (Int × Int)) (val val2 : Int) : Prop :=
  ∀ (place : Nat) scale, table[place]? = some scale →
    (∀ before < place, ∀ lower, table[before]? = some lower → milli lower.1 lower.2 < milli val val2) →
    MilliFits scale.1 scale.2

/-- A threshold for a value, with what is read back for it. -/
structure Encodes (chip : Chip) (value : Int) (threshold : Threshold) (read : Nat × Nat) : Prop where
  reaches : ∃ scale, chip.table[threshold.exponent.toNat]? = some scale ∧ value ≤ fullScale scale
  smallest : ∀ before < threshold.exponent.toNat, ∀ scale, chip.table[before]? = some scale →
    fullScale scale < value
  mantissa : threshold.mantissa.toNat ≤ 4095
  apart : threshold.exponent.setWidth 16 <<< 12 &&& threshold.mantissa = 0
  below : readMicros read ≤ value
  close : value < readMicros read + chip.lsb threshold.exponent.toNat

/-- What a request for a threshold owes. -/
structure Meets (chip : Chip) (dir : Direction) (value : Value) (bus : Bus) (sensor : Sensor) :
    Prop where
  refused : value.micros < 0 ∨ chip.last < value.micros →
    writeEventValue chip dir value.val value.val2 bus sensor = ⟨sensor, 0, none, .error .inval⟩
  accepted : 0 ≤ value.micros → value.micros ≤ chip.last →
    ∃ threshold read,
      (writeEventValue chip dir value.val value.val2 bus sensor).ret ≠ .error .inval ∧
      (writeEventValue chip dir value.val value.val2 bus sensor).sensor =
        stored dir threshold (bus 0) sensor ∧
      readEventValue chip dir (stored dir threshold (bus 0) sensor) = .ok read ∧
      Encodes chip value.micros threshold read
  fits : 0 ≤ value.val →
    MilliFits value.val value.val2 ∧ ComparedFit chip.table value.val value.val2

/-- The largest value, in millionths, that is compared without an overflow. -/
def Part.limit : Part → Int
  | .opt3001 => 2147483647999
  | .opt3002 => 1257984000000

/-- A value below zero has a negative whole part, and one from zero on is not
less than a thousandth above a scale. -/
def Exact (part : Part) (value : Value) : Prop :=
  value.val < 0 ∨ 0 ≤ value.val2 ∧ value.micros ≤ part.limit ∧
    ∀ scale ∈ part.chip.table,
      ¬(fullScale scale < value.micros ∧ value.micros < fullScale scale + 1000)

variable {chip : Chip} {part : Part} {dir : Direction} {value : Value} {bus : Bus} {sensor : Sensor}
  {val val2 : Int} {table : List (Int × Int)} {place : Nat}

/-! What the write does with the threshold that is found. -/

theorem writeEventValue_none (absent : val < 0 ∨ chip.threshold val val2 = none) :
    writeEventValue chip dir val val2 bus sensor = ⟨sensor, 0, none, .error .inval⟩ := by
  unfold writeEventValue
  rcases absent with negative | absent
  · rw [if_pos negative]
  · rw [absent]
    split_ifs <;> rfl

theorem writeEventValue_some {threshold : Threshold} (whole : 0 ≤ val)
    (found : chip.threshold val val2 = some threshold) (event : dir ≠ .other) :
    (writeEventValue chip dir val val2 bus sensor).ret ≠ .error .inval ∧
      (writeEventValue chip dir val val2 bus sensor).sensor =
        stored dir threshold (bus 0) sensor := by
  have positive : ¬val < 0 := by omega
  unfold writeEventValue
  rw [if_neg positive, found]
  cases dir with
  | other => exact absurd rfl event
  | rising => cases sent : bus 0 <;> simp [writeLast, sent, stored, Direction.register]
  | falling => cases sent : bus 0 <;> simp [writeLast, sent, stored, Direction.register]

theorem stored_thresh {threshold : Threshold} {written : Bool} (event : dir ≠ .other) :
    (stored dir threshold written sensor).cache.thresh dir = some threshold := by
  cases dir with
  | other => exact absurd rfl event
  | rising => rfl
  | falling => rfl

theorem readEventValue_stored {threshold : Threshold} {written : Bool} (event : dir ≠ .other) :
    readEventValue chip dir (stored dir threshold written sensor) =
      .ok (chip.toIioRet threshold) := by
  rw [readEventValue, stored_thresh event]

/-! The search for the scale. -/

theorem findScale_some (found : findScale val val2 table = some place) :
    ∃ scale, table[place]? = some scale ∧ milli val val2 ≤ milli scale.1 scale.2 ∧
      ∀ before < place, ∀ lower, table[before]? = some lower →
        milli lower.1 lower.2 < milli val val2 := by
  induction table generalizing place with
  | nil => cases found
  | cons first rest ih =>
      rw [findScale] at found
      split at found
      · rename_i reached
        cases found
        exact ⟨first, rfl, reached, fun before below => absurd below (Nat.not_lt_zero before)⟩
      · rename_i short
        obtain ⟨later, further, rfl⟩ := Option.map_eq_some_iff.mp found
        obtain ⟨scale, here, reached, lowest⟩ := ih further
        refine ⟨scale, here, reached, ?_⟩
        rintro (_ | before) below lower listed
        · obtain rfl : first = lower := Option.some.inj listed
          omega
        · exact lowest before (by omega) lower listed

theorem findScale_none (none : findScale val val2 table = none) :
    ∀ scale ∈ table, milli scale.1 scale.2 < milli val val2 := by
  induction table with
  | nil => simp
  | cons first rest ih =>
      rw [findScale] at none
      split at none
      · cases none
      · intro scale member
        rcases List.mem_cons.mp member with rfl | later
        · omega
        · exact ih (Option.map_eq_none_iff.mp none) scale later

/-- A scale that is not below the value is found, or an earlier one. -/
theorem findScale_le {scale : Int × Int} (listed : table[place]? = some scale)
    (reached : milli val val2 ≤ milli scale.1 scale.2) :
    ∃ first ≤ place, findScale val val2 table = some first := by
  cases found : findScale val val2 table with
  | none =>
      have above := findScale_none found scale (List.mem_of_getElem? listed)
      omega
  | some first =>
      obtain ⟨_, _, _, lowest⟩ := findScale_some found
      refine ⟨first, ?_, rfl⟩
      by_contra later
      have above := lowest place (by omega) scale listed
      omega

/-! The tables. -/

/-- The scales that an `int` holds in thousandths. -/
def Part.fitting : Part → Nat
  | .opt3001 => 12
  | .opt3002 => 9

theorem Part.scaled (part : Part) : part.chip.Scaled := by
  cases part with
  | opt3001 => exact opt3001_scaled
  | opt3002 => exact opt3002_scaled

theorem Part.exact_of_mem (part : Part) : ∀ scale ∈ part.chip.table.take part.fitting,
    MilliFits scale.1 scale.2 ∧ milli scale.1 scale.2 * 1000 = fullScale scale := by
  cases part <;> decide

theorem Part.exact {scale : Int × Int} (listed : part.chip.table[place]? = some scale)
    (low : place < part.fitting) :
    MilliFits scale.1 scale.2 ∧ milli scale.1 scale.2 * 1000 = fullScale scale := by
  apply part.exact_of_mem
  apply List.mem_of_getElem?
  rw [List.getElem?_take_of_lt low]
  exact listed

theorem Part.ascending (part : Part) :
    part.chip.table.Pairwise fun lower higher => fullScale lower < fullScale higher := by
  cases part <;> decide

theorem Part.ascending_le {lower higher : Int × Int} {before : Nat}
    (first : part.chip.table[before]? = some lower) (second : part.chip.table[place]? = some higher)
    (order : before ≤ place) : fullScale lower ≤ fullScale higher := by
  rcases Nat.eq_or_lt_of_le order with rfl | earlier
  · obtain rfl : lower = higher := Option.some.inj (first.symm.trans second)
    exact Int.le_refl _
  · obtain ⟨_, rfl⟩ := List.getElem?_eq_some_iff.mp first
    obtain ⟨_, rfl⟩ := List.getElem?_eq_some_iff.mp second
    exact Int.le_of_lt (List.pairwise_iff_getElem.mp part.ascending _ _ _ _ earlier)

theorem Part.fullScale_eq (part : Part) : ∀ place : Fin part.chip.table.length,
    fullScale part.chip.table[place] = 4095 * part.chip.lsb place := by
  cases part <;> decide

/-! The mantissa. -/

/-- The unit of the mantissa in millionths. -/
def Chip.unit (chip : Chip) : Nat := 1000000 / chip.scalerDenominator * chip.scalerNumerator

theorem Chip.lsb_eq (chip : Chip) (exponent : Nat) :
    chip.lsb exponent = ((chip.unit * 2 ^ exponent : Nat) : Int) := rfl

theorem Part.unit_pos (part : Part) : 0 < part.chip.unit := by
  cases part <;> decide

/-- The denominator divides a million, so the two divisions are one. -/
theorem Part.div_unit (part : Part) (micros : Nat) :
    micros * part.chip.scalerDenominator / (part.chip.scalerNumerator * 1000000) =
      micros / part.chip.unit := by
  have denominator : 0 < part.chip.scalerDenominator := by cases part <;> decide
  have units : part.chip.scalerNumerator * 1000000 =
      part.chip.unit * part.chip.scalerDenominator := by cases part <;> decide
  rw [units, Nat.mul_div_mul_right _ _ denominator]

theorem scaled_eq (part : Part) (whole : 0 ≤ val ∧ val ≤ 2147483647)
    (micro : 0 ≤ val2 ∧ val2 < 1000000) :
    part.chip.scaled val val2 = (val * 1000000 + val2).toNat / part.chip.unit := by
  obtain ⟨micros, same⟩ := Int.eq_ofNat_of_zero_le (show 0 ≤ val * 1000000 + val2 by omega)
  have small : part.chip.scalerDenominator ≤ 100 := by cases part <;> decide
  have bound : micros * part.chip.scalerDenominator < 2 ^ 64 := by
    calc micros * part.chip.scalerDenominator
        _ ≤ 2147484000000000 * 100 := Nat.mul_le_mul (by omega) small
        _ < 2 ^ 64 := by decide
  have word : ((micros : Int) * part.chip.scalerDenominator) =
      ((micros * part.chip.scalerDenominator : Nat) : Int) := (Int.natCast_mul _ _).symm
  rw [Chip.scaled, same, word, BitVec.ofInt_natCast, BitVec.toNat_ofNat, Nat.mod_eq_of_lt bound,
    Int.toNat_natCast, part.div_unit]

theorem readMicros_toIioRet (chip : Chip) (threshold : Threshold) :
    readMicros (chip.toIioRet threshold) =
      ((threshold.mantissa.toNat * (chip.unit * 2 ^ threshold.exponent.toNat) : Nat) : Int) := by
  have split : ∀ res : Nat, res / 1000000 * 1000000 + (res - 1000000 * (res / 1000000)) = res := by
    intro res
    omega
  have product : 1000000 / chip.scalerDenominator *
      (threshold.mantissa.toNat <<< threshold.exponent.toNat) * chip.scalerNumerator =
        threshold.mantissa.toNat * (chip.unit * 2 ^ threshold.exponent.toNat) := by
    rw [Nat.shiftLeft_eq, Chip.unit]
    ring
  rw [readMicros, Chip.toIioRet, product, split]

/-- A mantissa of twelve bits stays below the exponent of the word. -/
theorem exponent_and_mantissa {threshold : Threshold} (small : threshold.mantissa.toNat ≤ 4095) :
    threshold.exponent.setWidth 16 <<< 12 &&& threshold.mantissa = 0 := by
  apply BitVec.eq_of_getLsbD_eq
  intro bit inside
  simp only [BitVec.getLsbD_and, BitVec.getLsbD_shiftLeft]
  by_cases low : bit < 12
  · simp [low]
  · have high : threshold.mantissa.getLsbD bit = false := by
      apply Nat.testBit_lt_two_pow
      calc threshold.mantissa.toNat
          _ < 2 ^ 12 := by omega
          _ ≤ 2 ^ bit := Nat.pow_le_pow_right (by decide) (by omega)
    simp [high]

/-- What `opt300x_write_event_value` makes of a scale that is the right one. -/
theorem encodes_of_scale (part : Part) {scale : Int × Int} (whole : 0 ≤ val ∧ val ≤ 2147483647)
    (micro : 0 ≤ val2 ∧ val2 < 1000000) (here : part.chip.table[place]? = some scale)
    (reached : val * 1000000 + val2 ≤ fullScale scale)
    (lowest : ∀ before < place, ∀ lower, part.chip.table[before]? = some lower →
      fullScale lower < val * 1000000 + val2) :
    let threshold : Threshold :=
      ⟨BitVec.ofNat 16 (part.chip.scaled val val2 >>> place), BitVec.ofNat 8 place⟩
    Encodes part.chip (val * 1000000 + val2) threshold (part.chip.toIioRet threshold) := by
  intro threshold
  have mantissa_eq : threshold.mantissa =
    BitVec.ofNat 16 (part.chip.scaled val val2 >>> place) := rfl
  have exponent_eq : threshold.exponent = BitVec.ofNat 8 place := rfl
  generalize threshold = threshold at mantissa_eq exponent_eq ⊢
  obtain ⟨inside, listed⟩ := List.getElem?_eq_some_iff.mp here
  obtain ⟨micros, same⟩ := Int.eq_ofNat_of_zero_le (show 0 ≤ val * 1000000 + val2 by omega)
  have exponent : threshold.exponent.toNat = place := by
    have short := part.scaled.short
    rw [exponent_eq, BitVec.toNat_ofNat, Nat.mod_eq_of_lt (by omega)]
  have positive : 0 < part.chip.unit * 2 ^ place :=
    Nat.mul_pos part.unit_pos (Nat.two_pow_pos place)
  -- The full scale is the largest mantissa of twelve bits.
  have bound : micros ≤ 4095 * (part.chip.unit * 2 ^ place) := by
    have full : fullScale part.chip.table[place] = 4095 * part.chip.lsb place :=
      part.fullScale_eq ⟨place, inside⟩
    rw [← listed, full, Chip.lsb_eq, same] at reached
    exact_mod_cast reached
  have quotient : part.chip.scaled val val2 >>> place = micros / (part.chip.unit * 2 ^ place) := by
    rw [scaled_eq part whole micro, same, Int.toNat_natCast, Nat.shiftRight_eq_div_pow,
      Nat.div_div_eq_div_mul]
  have small : micros / (part.chip.unit * 2 ^ place) ≤ 4095 :=
    Nat.div_le_of_le_mul (by rwa [Nat.mul_comm] at bound)
  have mantissa : threshold.mantissa.toNat = micros / (part.chip.unit * 2 ^ place) := by
    rw [mantissa_eq, quotient, BitVec.toNat_ofNat, Nat.mod_eq_of_lt (by omega)]
  have read : readMicros (part.chip.toIioRet threshold) =
      ((micros / (part.chip.unit * 2 ^ place) * (part.chip.unit * 2 ^ place) : Nat) : Int) := by
    rw [readMicros_toIioRet, mantissa, exponent]
  constructor
  · exact ⟨scale, by rw [exponent]; exact here, reached⟩
  · rw [exponent]
    exact lowest
  · rw [mantissa]
    exact small
  · exact exponent_and_mantissa (by rw [mantissa]; exact small)
  · rw [read, same]
    exact_mod_cast Nat.div_mul_le_self micros _
  · rw [read, same, exponent, Chip.lsb_eq]
    exact_mod_cast Nat.lt_div_mul_add positive

/-! What is compared. -/

theorem milli_eq (whole : 0 ≤ val ∧ val ≤ 2147483647) (micro : 0 ≤ val2 ∧ val2 < 1000000) :
    MilliFits val val2 ↔ val * 1000000 + val2 ≤ 2147483647999 := by
  rw [MilliFits, milli, Int.tdiv_eq_ediv_of_nonneg micro.1, BitVec.toInt_ofInt]
  constructor
  · intro same
    by_contra large
    have high : val * 1000 + val2 / 1000 ≤ 2147483647 := by
      rw [← same]
      have top := @Int.bmod_lt (val * 1000 + val2 / 1000) (2 ^ 32) (by decide)
      omega
    omega
  · intro small
    exact Int.bmod_eq_of_le (by omega) (by omega)

/-- A value that fits is compared in thousandths, rounded down. -/
theorem milli_of_fits (micro : 0 ≤ val2) (fits : MilliFits val val2) :
    milli val val2 = (val * 1000000 + val2) / 1000 := by
  rw [MilliFits, Int.tdiv_eq_ediv_of_nonneg micro] at fits
  omega

/-- Up to the limit the search stops before the scales that do not fit. -/
theorem fitting_of_compared (micro : 0 ≤ val2) (fits : MilliFits val val2)
    (below : val * 1000000 + val2 ≤ part.limit) {scale : Int × Int}
    (listed : part.chip.table[place]? = some scale)
    (lowest : ∀ before < place, ∀ lower, part.chip.table[before]? = some lower →
      milli lower.1 lower.2 < milli val val2) : place < part.fitting := by
  have value := milli_of_fits micro fits
  by_contra late
  cases part with
  | opt3001 =>
      obtain ⟨inside, _⟩ := List.getElem?_eq_some_iff.mp listed
      exact late inside
  | opt3002 =>
      have above : milli 1257984 0 < milli val val2 :=
        lowest 8 (Nat.lt_of_lt_of_le (by decide) (Nat.le_of_not_lt late)) (1257984, 0) rfl
      have scale : milli 1257984 0 = 1257984000 := by decide
      have limit : Part.limit .opt3002 = 1257984000000 := rfl
      omega

theorem last_lt_of_none (micro : 0 ≤ val2) (fits : MilliFits val val2)
    (below : val * 1000000 + val2 ≤ part.limit)
    (none : findScale val val2 part.chip.table = none) :
    part.chip.last < val * 1000000 + val2 := by
  have value := milli_of_fits micro fits
  have above := findScale_none none
  cases part with
  | opt3001 =>
      have highest : milli 83865 600000 < milli val val2 := above (83865, 600000) (by decide)
      have scale : milli 83865 600000 = 83865600 := by decide
      have last : Chip.last (Part.chip .opt3001) = 83865600000 := by decide
      omega
  | opt3002 =>
      have highest : milli 1257984 0 < milli val val2 := above (1257984, 0) (by decide)
      have scale : milli 1257984 0 = 1257984000 := by decide
      have limit : Part.limit .opt3002 = 1257984000000 := rfl
      omega

theorem Part.le_last {scale : Int × Int} (listed : part.chip.table[place]? = some scale) :
    fullScale scale ≤ part.chip.last := by
  obtain ⟨inside, _⟩ := List.getElem?_eq_some_iff.mp listed
  cases part with
  | opt3001 =>
      exact @Part.ascending_le .opt3001 11 _ (83865, 600000) _ listed rfl (Nat.le_of_lt_succ inside)
  | opt3002 =>
      exact @Part.ascending_le .opt3002 11 _ (10063872, 0) _ listed rfl (Nat.le_of_lt_succ inside)

theorem micros_of_whole (whole : 0 ≤ value.val) :
    value.micros = value.val * 1000000 + value.val2 := by
  rw [Value.micros, if_neg (by omega)]

/-- A negative value: the whole part says so, or else the millionths. -/
theorem micros_negative (negative : value.val < 0) : value.micros < 0 := by
  have sign := value.sign
  rw [Value.micros, if_pos negative]
  omega

theorem meets_of_negative (negative : value.val < 0) : Meets part.chip dir value bus sensor := by
  have below := micros_negative negative
  constructor
  · intro refused
    exact writeEventValue_none (.inl negative)
  · intro positive
    omega
  · intro whole
    omega

theorem meets_of_exact (event : dir ≠ .other) (whole : 0 ≤ value.val) (micro : 0 ≤ value.val2)
    (below : value.micros ≤ part.limit) (gapless : ∀ scale ∈ part.chip.table,
      ¬(fullScale scale < value.micros ∧ value.micros < fullScale scale + 1000)) :
    Meets part.chip dir value bus sensor := by
  have int := value.int.2
  have million := value.micro.2
  have value_eq := micros_of_whole whole
  have limit : part.limit ≤ 2147483647999 := by cases part <;> decide
  have fits : MilliFits value.val value.val2 :=
    (milli_eq ⟨whole, int⟩ ⟨micro, million⟩).mpr (by omega)
  have milli_value := milli_of_fits micro fits
  rw [value_eq] at below gapless
  cases found : findScale value.val value.val2 part.chip.table with
  | none =>
      have above := last_lt_of_none micro fits below found
      constructor
      · intro refused
        exact writeEventValue_none (.inr (by rw [Chip.threshold, found]; rfl))
      · intro positive small
        omega
      · exact fun _ => ⟨fits, fun place scale listed lowest =>
          (Part.exact listed (fitting_of_compared micro fits below listed lowest)).1⟩
  | some place =>
      obtain ⟨scale, here, reached, lowest⟩ := findScale_some found
      have low := fitting_of_compared micro fits below here lowest
      obtain ⟨_, exact⟩ := Part.exact here low
      have member := gapless scale (List.mem_of_getElem? here)
      have full : value.val * 1000000 + value.val2 ≤ fullScale scale := by omega
      have last := Part.le_last here
      obtain ⟨ret, kept⟩ := @writeEventValue_some part.chip dir bus sensor value.val value.val2 _
        whole (by rw [Chip.threshold, found]; rfl) event
      constructor
      · rintro (negative | high) <;> omega
      · intro positive small
        refine ⟨_, _, ret, kept, readEventValue_stored event, ?_⟩
        rw [value_eq]
        apply encodes_of_scale part ⟨whole, int⟩ ⟨micro, million⟩ here full
        intro before earlier lower listed
        have under := lowest before earlier lower listed
        obtain ⟨_, whole⟩ := Part.exact listed (Nat.lt_trans earlier low)
        omega
      · exact fun _ => ⟨fits, fun place scale listed lowest =>
          (Part.exact listed (fitting_of_compared micro fits below listed lowest)).1⟩

/-! What a request that meets all of this is like. -/

theorem not_refused (event : dir ≠ .other) (whole : 0 ≤ val)
    (found : findScale val val2 chip.table = some place) :
    writeEventValue chip dir val val2 bus sensor ≠ ⟨sensor, 0, none, .error .inval⟩ := by
  intro refused
  obtain ⟨ret, _⟩ := @writeEventValue_some chip dir bus sensor val val2 _ whole
    (by rw [Chip.threshold, found]; rfl) event
  rw [refused] at ret
  exact ret rfl

/-- Millionths below zero alone are found to be on the first scale. -/
theorem micro_of_meets (event : dir ≠ .other) (whole : 0 ≤ value.val)
    (meets : Meets part.chip dir value bus sensor) : 0 ≤ value.val2 := by
  by_contra negative
  have zero := value.sign (by omega)
  have million := value.micro
  have cut : milli value.val value.val2 ≤ 0 := by
    have truncated : value.val2.tdiv 1000 = -(-value.val2 / 1000) := by
      rw [← Int.tdiv_eq_ediv_of_nonneg (by omega), Int.neg_tdiv, Int.neg_neg]
    rw [milli, zero, BitVec.toInt_ofInt, Int.bmod_eq_of_le (by omega) (by omega)]
    omega
  have first : ∃ scale, part.chip.table[0]? = some scale ∧ 0 ≤ milli scale.1 scale.2 := by
    cases part with
    | opt3001 => exact ⟨(40, 950000), rfl, by decide⟩
    | opt3002 => exact ⟨(4914, 0), rfl, by decide⟩
  obtain ⟨scale, listed, positive⟩ := first
  obtain ⟨place, _, found⟩ := findScale_le listed (Int.le_trans cut positive)
  have below : value.micros < 0 := by
    rw [micros_of_whole whole]
    omega
  exact not_refused event whole found (meets.refused (.inl below))

/-- The threshold that is stored is the one that is found. -/
theorem reached_of_meets (event : dir ≠ .other) (whole : 0 ≤ value.val) (positive : 0 ≤ value.micros)
    (meets : Meets part.chip dir value bus sensor)
    (found : findScale value.val value.val2 part.chip.table = some place) :
    ∃ scale, part.chip.table[place]? = some scale ∧ value.micros ≤ fullScale scale := by
  have last : value.micros ≤ part.chip.last := by
    by_contra above
    exact not_refused event whole found (meets.refused (.inr (by omega)))
  obtain ⟨threshold, read, _, kept, _, encodes⟩ := meets.accepted positive last
  obtain ⟨_, actual⟩ := @writeEventValue_some part.chip dir bus sensor value.val value.val2 _ whole
    (by rw [Chip.threshold, found]; rfl) event
  have same := congrArg (fun sensor => sensor.cache.thresh dir) (kept.symm.trans actual)
  dsimp only at same
  rw [stored_thresh event, stored_thresh event, Option.some_inj] at same
  obtain ⟨scale, here, reached⟩ := encodes.reaches
  obtain ⟨_, listed, _⟩ := findScale_some found
  obtain ⟨inside, _⟩ := List.getElem?_eq_some_iff.mp listed
  have short := part.scaled.short
  have exponent : threshold.exponent.toNat = place := by
    rw [same]
    exact Nat.mod_eq_of_lt (by omega)
  exact ⟨scale, by rw [← exponent]; exact here, reached⟩

theorem gapless_of_meets (event : dir ≠ .other) (whole : 0 ≤ value.val) (micro : 0 ≤ value.val2)
    (meets : Meets part.chip dir value bus sensor) : ∀ scale ∈ part.chip.table,
      ¬(fullScale scale < value.micros ∧ value.micros < fullScale scale + 1000) := by
  rintro scale member ⟨above, below⟩
  obtain ⟨fits, _⟩ := meets.fits whole
  have small := (milli_eq ⟨whole, value.int.2⟩ ⟨micro, value.micro.2⟩).mp fits
  have milli_value := milli_of_fits micro fits
  have value_eq := micros_of_whole whole
  obtain ⟨place, listed⟩ := List.mem_iff_getElem?.mp member
  have low : place < part.fitting := by
    by_contra high
    cases part with
    | opt3001 =>
        obtain ⟨inside, _⟩ := List.getElem?_eq_some_iff.mp listed
        exact high inside
    | opt3002 =>
        have wide : fullScale (2515968, 0) ≤ fullScale scale :=
          @Part.ascending_le .opt3002 place _ _ 9 rfl listed (Nat.le_of_not_lt high)
        have first : fullScale (2515968, 0) = 2515968000000 := rfl
        omega
  obtain ⟨_, exact⟩ := Part.exact listed low
  obtain ⟨first, order, found⟩ := findScale_le listed
    (show milli value.val value.val2 ≤ milli scale.1 scale.2 by omega)
  obtain ⟨lower, here, reached⟩ := reached_of_meets event whole (by omega) meets found
  have ascending := Part.ascending_le here listed order
  omega

theorem limit_of_meets (whole : 0 ≤ value.val) (micro : 0 ≤ value.val2)
    (meets : Meets part.chip dir value bus sensor) (gapless : ∀ scale ∈ part.chip.table,
      ¬(fullScale scale < value.micros ∧ value.micros < fullScale scale + 1000)) :
    value.micros ≤ part.limit := by
  obtain ⟨fits, compared⟩ := meets.fits whole
  have small := (milli_eq ⟨whole, value.int.2⟩ ⟨micro, value.micro.2⟩).mp fits
  have milli_value := milli_of_fits micro fits
  have value_eq := micros_of_whole whole
  cases part with
  | opt3001 =>
      rw [value_eq]
      exact small
  | opt3002 =>
      by_contra high
      have limit : Part.limit .opt3002 = 1257984000000 := rfl
      have gap := gapless (1257984, 0) (by decide)
      have edge : fullScale (1257984, 0) = 1257984000000 := rfl
      -- All scales that fit are below, and so the next one is compared.
      have wide := compared 9 (2515968, 0) rfl ?_
      · exact absurd wide (by decide)
      · intro before earlier lower listed
        have ascending := @Part.ascending_le .opt3002 8 _ (1257984, 0) before listed rfl (by omega)
        obtain ⟨_, exact⟩ := @Part.exact .opt3002 before _ listed earlier
        omega

/-- A request is met exactly when it is not in a gap between the thousandths and
nothing that is compared overflows. -/
theorem writeEventValue_meets_iff (part : Part) (dir : Direction) (value : Value) (bus : Bus)
    (sensor : Sensor) (event : dir ≠ .other) :
    Meets part.chip dir value bus sensor ↔ Exact part value := by
  constructor
  · intro meets
    by_cases negative : value.val < 0
    · exact .inl negative
    · have whole : 0 ≤ value.val := by omega
      have micro := micro_of_meets event whole meets
      have gapless := gapless_of_meets event whole micro meets
      exact .inr ⟨micro, limit_of_meets whole micro meets gapless, gapless⟩
  · intro exact
    by_cases negative : value.val < 0
    · exact meets_of_negative negative
    · obtain below | ⟨micro, limit, gapless⟩ := exact
      · exact absurd below negative
      · exact meets_of_exact event (by omega) micro limit gapless

def hundred : Value := ⟨100, 250000, by decide, by decide, by decide⟩

theorem writeEventValue_meets_hundred :
    Meets LightSensor.opt3001 .rising hundred (fun _ => true) cleared :=
  (writeEventValue_meets_iff .opt3001 .rising hundred (fun _ => true) cleared (by decide)).mpr
    (.inr ⟨by decide, by decide, by decide⟩)

/-- Two million nW/cm^2 are a valid threshold of the second chip, and refused. -/
def twoMillion : Value := ⟨2000000, 0, by decide, by decide, by decide⟩

theorem writeEventValue_overflows : ¬∀ (part : Part) (dir : Direction) (value : Value) (bus : Bus)
    (sensor : Sensor), dir ≠ .other → Meets part.chip dir value bus sensor := by
  intro always
  have meets := always .opt3002 .rising twoMillion (fun _ => true) cleared (by decide)
  obtain ⟨_, _, ret, _⟩ := meets.accepted (by decide) (by decide)
  exact ret (by decide)

end MangOH.LightSensor
