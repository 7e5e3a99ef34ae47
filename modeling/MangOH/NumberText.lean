import Mathlib.Tactic.Ring
import MangOH.PushNdef

/-!
The text of a number. `ltoa` and `ultoa` put the digits into `tmp`, the last one first, and copy
them to the string from the end; the constructors of `String` give them a buffer of as many
characters as the number has bits, with one for the end and one for a sign.
-/

namespace MangOH.NumberText

open PushNdef

abbrev Byte := BitVec 8

/-- The digits go past `tmp`, the text goes past the buffer, or the buffer is read unwritten. -/
inductive Fault where
  | pastTmp
  | pastString
  | unwritten
  deriving DecidableEq

def tmpSize : Nat := 33

def digitChar (i : Nat) : Byte := BitVec.ofNat 8 (if i < 10 then i + 48 else i + 97 - 10)

/-- The loop, with `room` characters left in `tmp`. What was put there last comes first. -/
def digitLoop (radix room : Nat) (tmp : List Byte) (v : Nat) : Option (List Byte) :=
  if v ≠ 0 ∨ tmp = [] then
    match room with
    | 0 => none
    | room + 1 => digitLoop radix room (digitChar (v % radix) :: tmp) (v / radix)
  else some tmp

-- Its equations are made here, and not by whichever proof comes to them first.
attribute [local simp] digitLoop

variable {width : Nat}

/-- What is written to the string, or nothing. -/
def ultoa (value : BitVec width) (radix : Nat) : Except Fault (Option (List Byte)) :=
  if radix > 36 ∨ radix ≤ 1 then .ok none
  else
    match digitLoop radix tmpSize [] value.toNat with
    | none => .error .pastTmp
    | some text => .ok (some text)

/-- The smallest number is its own negative. -/
def ltoa (value : BitVec width) (radix : Nat) : Except Fault (Option (List Byte)) :=
  if radix > 36 ∨ radix ≤ 1 then .ok none
  else
    let sign := radix = 10 ∧ value.toInt < 0
    let v := if sign then (-value).toNat else value.toNat
    match digitLoop radix tmpSize [] v with
    | none => .error .pastTmp
    | some text => .ok (some (if sign then 45 :: text else text))

/-- The number becomes a `long`. -/
def itoa (long : Nat) (value : BitVec width) (radix : Nat) : Except Fault (Option (List Byte)) :=
  ltoa (value.signExtend long) radix

def utoa (long : Nat) (value : BitVec width) (radix : Nat) : Except Fault (Option (List Byte)) :=
  ultoa (value.setWidth long) radix

/-- The text of a buffer of this size. -/
def bufText (size : Nat) (written : Except Fault (Option (List Byte))) : Except Fault (List Byte) :=
  match written with
  | .error fault => .error fault
  | .ok none => .error .unwritten
  | .ok (some text) => if text.length < size then .ok text else .error .pastString

/-! The constructors of `String`, for each kind of number. -/

def ofInt (long : Nat) (value : BitVec width) (base : Nat) : Except Fault (List Byte) :=
  bufText (2 + width) (itoa long value base)

def ofUnsignedInt (long : Nat) (value : BitVec width) (base : Nat) : Except Fault (List Byte) :=
  bufText (1 + width) (utoa long value base)

def ofLong (value : BitVec width) (base : Nat) : Except Fault (List Byte) :=
  bufText (2 + width) (ltoa value base)

def ofUnsignedLong (value : BitVec width) (base : Nat) : Except Fault (List Byte) :=
  bufText (1 + width) (ultoa value base)

/-! Reading a text back. -/

def digitValue (char : Byte) : Nat :=
  if char.toNat < 58 then char.toNat - 48 else if char.toNat < 97 then char.toNat - 55 else char.toNat - 87

def digitsValue (radix : Nat) : List Byte → Nat
  | [] => 0
  | char :: rest => digitValue char * radix ^ rest.length + digitsValue radix rest

/-- As `strtol` does. -/
def numberValue (radix : Nat) : List Byte → Int
  | [] => 0
  | char :: rest => if char = 45 then -(digitsValue radix rest : Int) else digitsValue radix (char :: rest)

/-- A text is made, and reads as the number. -/
def Reads (made : Except Fault (List Byte)) (base : Nat) (number : Int) : Prop :=
  ∃ text, made = .ok text ∧ numberValue base text = number

/-- The base is one, what is negative can have a sign, and the digits fit `tmp`. -/
structure Writable (base : Nat) (number : Int) : Prop where
  low : 2 ≤ base
  top : base ≤ 36
  signed : base = 10 ∨ 0 ≤ number
  fits : number.natAbs < base ^ tmpSize

/-! The digits. -/

theorem digitValue_char : ∀ i < 36, digitValue (digitChar i) = i := by decide

theorem digitChar_no_sign : ∀ i < 36, digitChar i ≠ 45 := by decide

variable {radix room v : Nat} {tmp text : List Byte}

theorem digitLoop_value (base : 2 ≤ radix) (top : radix ≤ 36) (done : digitLoop radix room tmp v = some text) :
    digitsValue radix text = v * radix ^ tmp.length + digitsValue radix tmp := by
  induction room generalizing tmp v with
  | zero =>
      rw [digitLoop] at done
      split at done
      · cases done
      · rename_i ended
        cases done
        rw [not_not.mp (not_or.mp ended).1, Nat.zero_mul, Nat.zero_add]
  | succ room ih =>
      rw [digitLoop] at done
      split at done
      · have small : v % radix < 36 := Nat.lt_of_lt_of_le (Nat.mod_lt _ (by omega)) top
        have split_off : v / radix * radix + v % radix = v := by
          rw [Nat.mul_comm]
          exact Nat.div_add_mod v radix
        rw [ih done, digitsValue, digitValue_char _ small, List.length_cons, pow_succ, ← Nat.add_assoc]
        congr 1
        calc v / radix * (radix ^ tmp.length * radix) + v % radix * radix ^ tmp.length
            = (v / radix * radix + v % radix) * radix ^ tmp.length := by ring
          _ = v * radix ^ tmp.length := by rw [split_off]
      · rename_i ended
        cases done
        rw [not_not.mp (not_or.mp ended).1, Nat.zero_mul, Nat.zero_add]

theorem digitLoop_some_iff (base : 2 ≤ radix) (started : tmp ≠ []) :
    (∃ text, digitLoop radix room tmp v = some text) ↔ v < radix ^ room := by
  induction room generalizing tmp v with
  | zero =>
      rw [digitLoop, pow_zero, Nat.lt_one_iff]
      split
      · rename_i more
        refine ⟨?_, fun zero => absurd zero (more.resolve_right started)⟩
        rintro ⟨_, wrong⟩
        cases wrong
      · rename_i ended
        exact ⟨fun _ => not_not.mp (not_or.mp ended).1, fun _ => ⟨_, rfl⟩⟩
  | succ room ih =>
      rw [digitLoop]
      split
      · rw [ih (List.cons_ne_nil _ _), Nat.div_lt_iff_lt_mul (by omega), pow_succ]
      · rename_i ended
        refine ⟨fun _ => ?_, fun _ => ⟨_, rfl⟩⟩
        rw [not_not.mp (not_or.mp ended).1]
        exact Nat.pow_pos (by omega)

theorem digitLoop_start_iff (base : 2 ≤ radix) :
    (∃ text, digitLoop radix tmpSize [] v = some text) ↔ v < radix ^ tmpSize := by
  show (∃ text, digitLoop radix (32 + 1) [] v = some text) ↔ v < radix ^ (32 + 1)
  rw [digitLoop, if_pos (.inr rfl)]
  rw [digitLoop_some_iff base (List.cons_ne_nil _ _), Nat.div_lt_iff_lt_mul (by omega), ← pow_succ]

/-- A number below a power of two has at most as many digits. -/
theorem digitLoop_length (base : 2 ≤ radix) (started : tmp ≠ []) {bits : Nat} (small : v < 2 ^ bits)
    (done : digitLoop radix room tmp v = some text) : text.length ≤ tmp.length + bits := by
  induction room generalizing tmp v bits with
  | zero =>
      rw [digitLoop] at done
      split at done
      · cases done
      · cases done
        exact Nat.le_add_right ..
  | succ room ih =>
      rw [digitLoop] at done
      split at done
      · rename_i more
        have some := more.resolve_right started
        obtain ⟨less, rfl⟩ : ∃ less, bits = less + 1 := by
          refine Nat.exists_eq_succ_of_ne_zero fun none => some ?_
          rw [none] at small
          exact Nat.lt_one_iff.mp small
        have half : v / radix < 2 ^ less := by
          rw [Nat.div_lt_iff_lt_mul (by omega)]
          calc v < 2 ^ less * 2 := by rw [← pow_succ]; exact small
            _ ≤ 2 ^ less * radix := Nat.mul_le_mul_left _ base
        have short := ih (List.cons_ne_nil _ _) half done
        rw [List.length_cons] at short
        omega
      · cases done
        exact Nat.le_add_right ..

theorem digitLoop_start_length (base : 2 ≤ radix) {bits : Nat} (small : v < 2 ^ (bits + 1))
    (done : digitLoop radix tmpSize [] v = some text) : text.length ≤ bits + 1 := by
  have half : v / radix < 2 ^ bits := by
    rw [Nat.div_lt_iff_lt_mul (by omega)]
    calc v < 2 ^ bits * 2 := by rw [← pow_succ]; exact small
      _ ≤ 2 ^ bits * radix := Nat.mul_le_mul_left _ base
  change digitLoop radix (32 + 1) [] v = some text at done
  rw [digitLoop, if_pos (.inr rfl)] at done
  have short := digitLoop_length base (List.cons_ne_nil _ _) half done
  rw [List.length_singleton] at short
  omega

theorem digitLoop_head (base : 2 ≤ radix) (top : radix ≤ 36)
    (begun : tmp = [] ∨ ∃ i < 36, ∃ rest, tmp = digitChar i :: rest)
    (done : digitLoop radix room tmp v = some text) : ∃ i < 36, ∃ rest, text = digitChar i :: rest := by
  induction room generalizing tmp v with
  | zero =>
      rw [digitLoop] at done
      split at done
      · cases done
      · rename_i ended
        cases done
        exact begun.resolve_left (not_or.mp ended).2
  | succ room ih =>
      rw [digitLoop] at done
      split at done
      · exact ih (.inr ⟨_, Nat.lt_of_lt_of_le (Nat.mod_lt _ (by omega)) top, _, rfl⟩) done
      · rename_i ended
        cases done
        exact begun.resolve_left (not_or.mp ended).2

/-- The digits of a number read as the number. -/
theorem digits_numberValue (base : 2 ≤ radix) (top : radix ≤ 36)
    (done : digitLoop radix tmpSize [] v = some text) :
    numberValue radix text = v ∧ numberValue radix (45 :: text) = -(v : Int) := by
  have value := digitLoop_value base top done
  rw [List.length_nil, pow_zero, Nat.mul_one] at value
  obtain ⟨i, small, rest, rfl⟩ := digitLoop_head base top (.inl rfl) done
  rw [numberValue, numberValue, if_neg (digitChar_no_sign i small), if_pos rfl, value]
  exact ⟨rfl, rfl⟩

/-! Numbers as strings. -/

theorem bufText_ok {size : Nat} {written : Except Fault (Option (List Byte))} :
    bufText size written = .ok text ↔ written = .ok (some text) ∧ text.length < size := by
  rcases written with fault | _ | made
  · exact ⟨fun wrong => (by cases wrong), fun both => (by cases both.1)⟩
  · exact ⟨fun wrong => (by cases wrong), fun both => (by cases both.1)⟩
  · rw [bufText]
    split
    · rename_i small
      exact ⟨fun same => (by cases same; exact ⟨rfl, small⟩), fun both => (by cases both.1; rfl)⟩
    · rename_i large
      exact ⟨fun wrong => (by cases wrong), fun both => (by cases both.1; exact absurd both.2 large)⟩

theorem ultoa_ok {value : BitVec width} : ultoa value radix = .ok (some text) ↔
    2 ≤ radix ∧ radix ≤ 36 ∧ digitLoop radix tmpSize [] value.toNat = some text := by
  rw [ultoa]
  split
  · exact ⟨fun wrong => (by cases wrong), fun all => (by omega)⟩
  · split
    · rename_i none
      exact ⟨fun wrong => (by cases wrong), fun all => (by cases none.symm.trans all.2.2)⟩
    · rename_i found
      rw [found]
      exact ⟨fun same => (by cases same; exact ⟨by omega, by omega, rfl⟩), fun all => (by cases all.2.2; rfl)⟩

theorem ofUnsignedInt_reads (bits more : Nat) (value : BitVec (bits + 1)) (base : Nat) :
    Reads (ofUnsignedInt (bits + 1 + more) value base) base value.toNat ↔ Writable base value.toNat := by
  have same : (value.setWidth (bits + 1 + more)).toNat = value.toNat :=
    BitVec.toNat_setWidth_of_le (Nat.le_add_right ..)
  constructor
  · rintro ⟨text, made, -⟩
    obtain ⟨low, top, done⟩ := ultoa_ok.mp (bufText_ok.mp made).1
    rw [same] at done
    exact ⟨low, top, .inr (Int.natCast_nonneg _), (digitLoop_start_iff low).mp ⟨text, done⟩⟩
  · rintro ⟨low, top, -, small⟩
    obtain ⟨text, done⟩ := (digitLoop_start_iff low).mpr small
    rw [Int.natAbs_natCast] at done
    have short := digitLoop_start_length low value.isLt done
    refine ⟨text, bufText_ok.mpr ⟨ultoa_ok.mpr ⟨low, top, same.symm ▸ done⟩, by omega⟩, ?_⟩
    exact (digits_numberValue low top done).1

theorem ofUnsignedLong_eq (value : BitVec width) (base : Nat) :
    ofUnsignedLong value base = ofUnsignedInt width value base := by
  rw [ofUnsignedInt, utoa, BitVec.setWidth_eq, ofUnsignedLong]

theorem ofLong_eq (value : BitVec width) (base : Nat) : ofLong value base = ofInt width value base := by
  rw [ofInt, itoa, BitVec.signExtend_eq, ofLong]

/-- What `ltoa` takes for the number, and the sign before it. -/
def magnitude (value : BitVec width) (radix : Nat) : Nat :=
  if radix = 10 ∧ value.toInt < 0 then (-value).toNat else value.toNat

theorem ltoa_ok {value : BitVec width} : ltoa value radix = .ok (some text) ↔
    2 ≤ radix ∧ radix ≤ 36 ∧ ∃ digits, digitLoop radix tmpSize [] (magnitude value radix) = some digits ∧
      text = if radix = 10 ∧ value.toInt < 0 then 45 :: digits else digits := by
  rw [ltoa]
  split
  · exact ⟨fun wrong => (by cases wrong), fun all => (by omega)⟩
  · dsimp only
    rw [← magnitude]
    split
    · rename_i none
      refine ⟨fun wrong => (by cases wrong), ?_⟩
      rintro ⟨-, -, _, found, -⟩
      cases none.symm.trans found
    · rename_i digits found
      rw [found]
      constructor
      · intro same
        cases same
        exact ⟨by omega, by omega, digits, rfl, rfl⟩
      · rintro ⟨-, -, _, same, rfl⟩
        cases same
        rfl

theorem toInt_cases (value : BitVec width) : 0 ≤ value.toInt ∧ value.toNat = value.toInt.natAbs ∨
    value.toInt < 0 ∧ (-value).toNat = value.toInt.natAbs := by
  have bound := value.isLt
  rw [BitVec.toNat_neg, BitVec.toInt_eq_toNat_cond]
  split
  · exact .inl (by omega)
  · have positive : 0 < value.toNat := by
      have := Nat.two_pow_pos width
      omega
    rw [Nat.mod_eq_of_lt (by omega)]
    exact .inr (by omega)

theorem ofInt_reads (bits more : Nat) (value : BitVec (bits + 1)) (base : Nat) :
    Reads (ofInt (bits + 1 + more) value base) base value.toInt ↔ Writable base value.toInt := by
  have same : (value.signExtend (bits + 1 + more)).toInt = value.toInt :=
    BitVec.toInt_signExtend_of_le (Nat.le_add_right ..)
  have size := toInt_cases (value.signExtend (bits + 1 + more))
  rw [same] at size
  constructor
  · rintro ⟨text, made, reads⟩
    obtain ⟨low, top, digits, done, rfl⟩ := ltoa_ok.mp (bufText_ok.mp made).1
    have values := digits_numberValue low top done
    have fits := (digitLoop_start_iff low).mp ⟨digits, done⟩
    rw [magnitude, same] at fits values
    rw [same] at reads
    rcases size with ⟨natural, number⟩ | ⟨negative, number⟩
    · rw [if_neg fun both => absurd natural (Int.not_le.mpr both.2), number] at fits
      exact ⟨low, top, .inr natural, fits⟩
    · by_cases ten : base = 10
      · rw [if_pos ⟨ten, negative⟩, number] at fits
        exact ⟨low, top, .inl ten, fits⟩
      · rw [if_neg fun both => ten both.1] at reads
        have wrong := values.1.symm.trans reads
        omega
  · rintro ⟨low, top, signed, small⟩
    have number : magnitude (value.signExtend (bits + 1 + more)) base = value.toInt.natAbs := by
      rw [magnitude, same]
      rcases size with ⟨natural, number⟩ | ⟨negative, number⟩
      · rw [if_neg fun both => absurd natural (Int.not_le.mpr both.2), number]
      · rw [if_pos ⟨signed.resolve_right (Int.not_le.mpr negative), negative⟩, number]
    obtain ⟨digits, done⟩ := (digitLoop_start_iff low).mpr small
    have below : value.toInt.natAbs < 2 ^ (bits + 1) := by
      have bound := value.isLt
      rw [BitVec.toInt_eq_toNat_cond]
      split
      · omega
      · omega
    have short := digitLoop_start_length low below done
    have values := digits_numberValue low top done
    refine ⟨_, bufText_ok.mpr ⟨ltoa_ok.mpr ⟨low, top, digits, number.symm ▸ done, rfl⟩, ?_⟩, ?_⟩
    · split
      · rw [List.length_cons]
        omega
      · omega
    · rw [same]
      split
      · rename_i both
        rw [values.2]
        omega
      · rename_i unsigned
        rw [values.1]
        have natural : 0 ≤ value.toInt := by
          rcases signed with ten | natural
          · exact Int.not_lt.mp fun negative => unsigned ⟨ten, negative⟩
          · exact natural
        omega

/-- Each constructor makes a text that reads as the number just where the number is writable. -/
theorem number_text_iff (bits more : Nat) (value : BitVec (bits + 1)) (base : Nat) :
    (Reads (ofInt (bits + 1 + more) value base) base value.toInt ↔ Writable base value.toInt) ∧
      (Reads (ofLong value base) base value.toInt ↔ Writable base value.toInt) ∧
      (Reads (ofUnsignedInt (bits + 1 + more) value base) base value.toNat ↔ Writable base value.toNat) ∧
      (Reads (ofUnsignedLong value base) base value.toNat ↔ Writable base value.toNat) := by
  rw [ofLong_eq, ofUnsignedLong_eq]
  exact ⟨ofInt_reads bits more value base, ofInt_reads bits 0 value base, ofUnsignedInt_reads bits more value base,
    ofUnsignedInt_reads bits 0 value base⟩

/-- A `long` of 64 bits in base two. -/
example : ofLong (-1 : BitVec 64) 2 = .error .pastTmp := by decide

/-! The text of a uid. -/

def toUpperCase (text : List Byte) : List Byte :=
  text.map fun char => if 97 ≤ char.toNat ∧ char.toNat ≤ 122 then char - 32 else char

/-- The loop from a byte on, which is the first one or not. An `unsigned int` has 32 bits. -/
def uidLoop (long : Nat) : Bool → List Byte → Except Fault (List Byte)
  | _, [] => .ok []
  | first, byte :: rest => do
      let hex ← ofUnsignedInt long (byte.setWidth 32) 16
      let others ← uidLoop long false rest
      .ok ((if first then [] else [32]) ++ ((if byte.toNat < 0xF then [48] else []) ++ hex) ++ others)

def getUidString (long : Nat) (uid : List Byte) : Except Fault (List Byte) :=
  (uidLoop long true uid).map toUpperCase

theorem digitLoop_byte {n : Nat} (small : n < 256) : digitLoop 16 tmpSize [] n =
    some (if n < 16 then [digitChar n] else [digitChar (n / 16), digitChar (n % 16)]) := by
  show digitLoop 16 (30 + 1 + 1 + 1) [] n = _
  rw [digitLoop, if_pos (.inr rfl)]
  by_cases one : n < 16
  · rw [if_pos one, Nat.div_eq_of_lt one, Nat.mod_eq_of_lt one, digitLoop,
      if_neg fun more => more.elim (fun wrong => wrong rfl) (List.cons_ne_nil _ _)]
  · have high : n / 16 < 16 := by omega
    rw [if_neg one, digitLoop, if_pos (.inl (by omega)), Nat.div_eq_of_lt high, Nat.mod_eq_of_lt high, digitLoop,
      if_neg fun more => more.elim (fun wrong => wrong rfl) (List.cons_ne_nil _ _)]

theorem toUpperCase_digit : ∀ i < 16, toUpperCase [digitChar i] = [upperDigit i] := by decide

/-- A byte in hexadecimal. -/
def hexText (byte : Byte) : List Byte :=
  if byte.toNat < 16 then [digitChar byte.toNat] else [digitChar (byte.toNat / 16), digitChar (byte.toNat % 16)]

theorem byte_text (more : Nat) (byte : Byte) :
    ofUnsignedInt (32 + more) (byte.setWidth 32) 16 = .ok (hexText byte) := by
  have same : ((byte.setWidth 32).setWidth (32 + more)).toNat = byte.toNat := by
    rw [BitVec.toNat_setWidth_of_le (Nat.le_add_right ..), BitVec.toNat_setWidth_of_le (by omega)]
  refine bufText_ok.mpr ⟨ultoa_ok.mpr ⟨by omega, by omega, ?_⟩, ?_⟩
  · rw [same]
    exact digitLoop_byte byte.isLt
  · rw [hexText]
    split
    · rw [List.length_singleton]
      omega
    · rw [List.length_cons, List.length_singleton]
      omega

theorem upper_byte (byte : Byte) :
    toUpperCase ((if byte.toNat < 0xF then [48] else []) ++ hexText byte) = uidByte byte := by
  have pair (front back : List Byte) : toUpperCase (front ++ back) = toUpperCase front ++ toUpperCase back :=
    List.map_append ..
  have zero : toUpperCase (if byte.toNat < 0xF then [48] else []) = if byte.toNat < 0xF then [48] else [] := by
    split
    · decide
    · rfl
  rw [pair, zero, uidByte, hexText]
  congr 1
  split
  · exact toUpperCase_digit _ ‹_›
  · have bound := byte.isLt
    rw [← List.singleton_append, pair, toUpperCase_digit _ (by omega), toUpperCase_digit _ (by omega)]
    rfl

theorem uidLoop_ok (more : Nat) (uid : List Byte) : ∀ first, ∃ text, uidLoop (32 + more) first uid = .ok text ∧
    toUpperCase text = (if first ∨ uid = [] then [] else [32]) ++ uidString uid := by
  induction uid with
  | nil =>
      intro first
      refine ⟨[], rfl, ?_⟩
      rw [if_pos (.inr rfl)]
      rfl
  | cons byte rest ih =>
      intro first
      obtain ⟨others, looped, upper⟩ := ih false
      refine ⟨(if first then [] else [32]) ++ ((if byte.toNat < 0xF then [48] else []) ++ hexText byte) ++ others,
        ?_, ?_⟩
      · rw [uidLoop, byte_text more byte, looped]
        rfl
      · have parts (a b c : List Byte) :
            toUpperCase (a ++ b ++ c) = toUpperCase a ++ toUpperCase b ++ toUpperCase c := by
          rw [toUpperCase, List.map_append, List.map_append]
          rfl
        rw [parts, upper_byte, upper]
        cases rest with
        | nil => cases first <;> simp [toUpperCase, uidString]
        | cons next rest => cases first <;> simp [toUpperCase, uidString]

/-- The text of a uid is made as the other model of it has it. -/
theorem getUidString_eq (more : Nat) (uid : List Byte) : getUidString (32 + more) uid = .ok (uidString uid) := by
  obtain ⟨text, looped, upper⟩ := uidLoop_ok more uid true
  rw [getUidString, looped]
  exact congrArg Except.ok (upper.trans (by rw [if_pos (.inl rfl)]; rfl))

theorem uidByte_value (byte : Byte) : digitsValue 16 (uidByte byte) = byte.toNat := by
  have digit : ∀ i < 16, digitValue (upperDigit i) = i := by decide
  have bound := byte.isLt
  rw [uidByte]
  split
  · rename_i padded
    rw [if_pos (by omega), List.singleton_append, digitsValue, digitsValue, digitsValue, digit _ (by omega)]
    simp [digitValue]
  · rw [List.nil_append]
    split
    · rw [digitsValue, digitsValue, digit _ ‹_›]
      simp
    · rw [digitsValue, digitsValue, digitsValue, digit _ (by omega), digit _ (by omega)]
      simp only [List.length_singleton, List.length_nil]
      omega

theorem uidByte_no_space (byte : Byte) : 32 ∉ uidByte byte := by
  have digit : ∀ i < 16, upperDigit i ≠ 32 := by decide
  have bound := byte.isLt
  rw [uidByte, List.mem_append]
  rintro (padding | inside)
  · split at padding
    · exact absurd (List.mem_singleton.mp padding) (by decide)
    · cases padding
  · split at inside
    · exact digit _ ‹_› (List.mem_singleton.mp inside).symm
    · rcases List.mem_cons.mp inside with high | low
      · exact digit _ (by omega) high.symm
      · exact digit _ (by omega) (List.mem_singleton.mp low).symm

theorem split_at_space {front other back rest : List Byte} (clean : 32 ∉ front) (free : 32 ∉ other)
    (same : front ++ 32 :: back = other ++ 32 :: rest) : front = other ∧ back = rest := by
  induction front generalizing other with
  | nil =>
      cases other with
      | nil => exact ⟨rfl, (List.cons.inj same).2⟩
      | cons char other => exact absurd (List.mem_cons.mpr (.inl (List.cons.inj same).1)) free
  | cons char front ih =>
      cases other with
      | nil => exact absurd (List.mem_cons.mpr (.inl (List.cons.inj same).1.symm)) clean
      | cons next other =>
          obtain ⟨rfl, tails⟩ := List.cons.inj same
          obtain ⟨rfl, whole⟩ := ih (fun inside => clean (List.mem_cons_of_mem _ inside))
            (fun inside => free (List.mem_cons_of_mem _ inside)) tails
          exact ⟨rfl, whole⟩

/-- Each byte with a space behind it. -/
def spaced (uid : List Byte) : List Byte := uid.flatMap fun byte => uidByte byte ++ [32]

theorem uidString_spaced {uid : List Byte} (some : uid ≠ []) : uidString uid ++ [32] = spaced uid := by
  induction uid with
  | nil => exact absurd rfl some
  | cons byte rest ih =>
      cases rest with
      | nil => rw [uidString, spaced, List.flatMap_cons, List.flatMap_nil, List.append_nil]
      | cons next rest =>
          have whole := ih (List.cons_ne_nil _ _)
          rw [uidString, spaced, List.flatMap_cons, ← spaced, ← whole, List.append_assoc, List.append_assoc]
          · rfl
          · exact List.cons_ne_nil _ _

theorem spaced_injective : Function.Injective spaced := by
  have filled (byte : Byte) (rest : List Byte) : spaced (byte :: rest) = uidByte byte ++ 32 :: spaced rest := by
    rw [spaced, List.flatMap_cons, List.append_assoc]
    rfl
  have never (byte : Byte) (rest : List Byte) : spaced (byte :: rest) ≠ [] := by
    rw [filled]
    exact List.append_ne_nil_of_right_ne_nil _ (List.cons_ne_nil _ _)
  intro uid
  induction uid with
  | nil =>
      intro other same
      cases other with
      | nil => rfl
      | cons byte rest => exact absurd same.symm (never byte rest)
  | cons byte rest ih =>
      intro other same
      cases other with
      | nil => exact absurd same (never byte rest)
      | cons next others =>
          rw [filled, filled] at same
          obtain ⟨bytes, tails⟩ := split_at_space (uidByte_no_space byte) (uidByte_no_space next) same
          have value := congrArg (digitsValue 16) bytes
          rw [uidByte_value, uidByte_value] at value
          rw [BitVec.eq_of_toNat_eq value, ih tails]

theorem uidString_filled (byte : Byte) (rest : List Byte) : uidString (byte :: rest) ≠ [] := by
  have filled : uidByte byte ≠ [] := by
    rw [uidByte]
    split
    · exact List.append_ne_nil_of_left_ne_nil (List.cons_ne_nil _ _) _
    · split
      · exact List.cons_ne_nil _ _
      · exact List.cons_ne_nil _ _
  cases rest with
  | nil => exact filled
  | cons next rest => exact List.append_ne_nil_of_left_ne_nil filled _

theorem uidString_injective : Function.Injective uidString := by
  intro uid other same
  cases uid with
  | nil =>
      cases other with
      | nil => rfl
      | cons byte rest => exact absurd same.symm (uidString_filled byte rest)
  | cons byte rest =>
      cases other with
      | nil => exact absurd same (uidString_filled byte rest)
      | cons next others =>
          have ends := congrArg (· ++ [32]) same
          rw [uidString_spaced (List.cons_ne_nil _ _), uidString_spaced (List.cons_ne_nil _ _)] at ends
          exact spaced_injective ends

/-- The text of a uid can always be made, and tells the uids apart. -/
theorem uid_text_iff (more : Nat) (uid other : List Byte) :
    (∃ text, getUidString (32 + more) uid = .ok text) ∧
      (getUidString (32 + more) uid = getUidString (32 + more) other ↔ uid = other) := by
  refine ⟨⟨_, getUidString_eq more uid⟩, fun same => ?_, fun same => by rw [same]⟩
  rw [getUidString_eq, getUidString_eq, Except.ok.injEq] at same
  exact uidString_injective same

end MangOH.NumberText
