import MangOH.Cells
import MangOH.PushNdef

/-!
The bytes of an NDEF record: what the writer puts down, and what the reader takes for a
record. The reader does not look at two bits of the first byte, and takes a payload's
length in either form whatever it is; the writer keeps the lower part of each length.
-/

namespace MangOH.Ndef

open CString (Buffer Fault)
open Cells

abbrev Byte := BitVec 8

abbrev Record := PushNdef.Record

/-! The first byte of a record. -/

def me (tnfByte : Byte) : Bool := tnfByte &&& 0x40 != 0
def sr (tnfByte : Byte) : Bool := tnfByte &&& 0x10 != 0
def il (tnfByte : Byte) : Bool := tnfByte &&& 0x8 != 0
def tnf (tnfByte : Byte) : Byte := tnfByte &&& 0x7

/-! `NdefRecord`. -/

def getEncodedSize (record : Record) : Nat :=
  2 + (if record.payload.length > 0xFF then 4 else 1) + (if record.id.length ≠ 0 then 1 else 0) +
    (record.type.length + record.payload.length + record.id.length)

def getTnfByte (firstRecord lastRecord : Bool) (record : Record) : Byte :=
  let value := record.tnf
  let value := if firstRecord then value ||| 0x80 else value
  let value := if lastRecord then value ||| 0x40 else value
  let value := if record.payload.length ≤ 0xFF then value ||| 0x10 else value
  if record.id.length ≠ 0 then value ||| 0x8 else value

/-- The bytes that are written from `data` on. -/
def encode (firstRecord lastRecord : Bool) (record : Record) : List Byte :=
  [getTnfByte firstRecord lastRecord record, BitVec.ofNat 8 record.type.length] ++
  (if record.payload.length ≤ 0xFF then [BitVec.ofNat 8 record.payload.length]
    else [0, 0, BitVec.ofNat 8 (record.payload.length >>> 8), BitVec.ofNat 8 record.payload.length]) ++
  (if record.id.length ≠ 0 then [BitVec.ofNat 8 record.id.length] else []) ++
  record.type ++ (if record.id.length ≠ 0 then record.id else []) ++ record.payload

/-! The reader, a round of its loop. -/

/-- `memcpy` with a length that was kept in an `int`. -/
def copyInt (data : Buffer) (index : Nat) (count : Int) : Except Fault (List Byte) :=
  if count < 0 then .error .pastEnd else copy data index count.toNat

/-- The payload's length and the place of its last byte. -/
def readPayloadLength (short : Bool) (data : Buffer) (index : Nat) : Except Fault (Int × Nat) :=
  if short then do
    let length ← cellAt data (index + 1)
    .ok ((length.toNat : Int), index + 1)
  else do
    let first ← cellAt data (index + 1)
    let second ← cellAt data (index + 2)
    let third ← cellAt data (index + 3)
    let fourth ← cellAt data (index + 4)
    .ok ((first ++ second ++ third ++ fourth : BitVec 32).toInt, index + 4)

def readIdLength (present : Bool) (data : Buffer) (index : Nat) : Except Fault (Nat × Nat) :=
  if present then do
    let length ← cellAt data (index + 1)
    .ok (length.toNat, index + 1)
  else .ok (0, index)

def readId (present : Bool) (data : Buffer) (index idLength : Nat) : Except Fault (List Byte × Nat) :=
  if present then do
    let id ← copy data index idLength
    .ok (id, index + idLength)
  else .ok ([], index)

/-- The record at a place, whether it is the last one, and the place behind it. -/
def readRecord (data : Buffer) (index : Nat) : Except Fault (Record × Bool × Nat) := do
  let tnfByte ← cellAt data index
  let typeLength ← cellAt data (index + 1)
  let payloadLength ← readPayloadLength (sr tnfByte) data (index + 1)
  let idLength ← readIdLength (il tnfByte) data payloadLength.2
  let type ← copy data (idLength.2 + 1) typeLength.toNat
  let id ← readId (il tnfByte) data (idLength.2 + 1 + typeLength.toNat) idLength.1
  let payload ← copyInt data id.2 payloadLength.1
  .ok (⟨tnf tnfByte, type, id.1, payload⟩, me tnfByte, id.2 + payload.length)

/-! The form of a record on the tag. -/

def payloadLengthField (short : Bool) (length : Nat) : List Byte :=
  if short then [BitVec.ofNat 8 length]
  else [BitVec.ofNat 8 (length >>> 24), BitVec.ofNat 8 (length >>> 16), BitVec.ofNat 8 (length >>> 8),
    BitVec.ofNat 8 length]

def idLengthField (present : Bool) (length : Nat) : List Byte :=
  if present then [BitVec.ofNat 8 length] else []

def form (tnfByte : Byte) (record : Record) : List Byte :=
  [tnfByte, BitVec.ofNat 8 record.type.length] ++
    (payloadLengthField (sr tnfByte) record.payload.length ++
      (idLengthField (il tnfByte) record.id.length ++ (record.type ++ (record.id ++ record.payload))))

/-- The record is one that its first byte and its length fields can say. -/
structure Forms (tnfByte : Byte) (record : Record) : Prop where
  tnf : record.tnf = tnf tnfByte
  type : record.type.length < 256
  payload : record.payload.length < if sr tnfByte then 256 else 2147483648
  id : record.id.length < if il tnfByte then 256 else 1

/-- The record's own parts fit where the writer puts their lengths. -/
structure Fits (record : Record) : Prop where
  tnf : record.tnf.toNat < 8
  type : record.type.length < 256
  id : record.id.length < 256
  payload : record.payload.length < 65536

variable {data : Buffer} {index next : Nat} {record : Record} {tnfByte : Byte}

theorem ofNat_byte {length : Nat} {byte : Byte} (small : length < 256) :
    BitVec.ofNat 8 length = byte ↔ byte.toNat = length := by
  rw [← BitVec.toNat_inj, BitVec.toNat_ofNat, Nat.mod_eq_of_lt small]
  exact eq_comm

theorem copyInt_iff {count : Int} {bytes : List Byte} :
    copyInt data index count = .ok bytes ↔ At data index bytes ∧ (bytes.length : Int) = count := by
  rw [copyInt]
  split
  · rename_i negative
    constructor
    · intro same
      cases same
    · rintro ⟨_, length⟩
      omega
  · rename_i positive
    rw [copy_iff]
    exact and_congr_right fun _ => by omega

theorem append_toNat {width : Nat} (high : BitVec width) (low : Byte) :
    (high ++ low).toNat = high.toNat * 256 + low.toNat := by
  rw [BitVec.toNat_append, ← Nat.shiftLeft_add_eq_or_of_lt low.isLt, Nat.shiftLeft_eq]

theorem word_toInt {first second third fourth : Byte} {length : Nat} :
    (first ++ second ++ third ++ fourth : BitVec 32).toInt = length ↔
      length < 2147483648 ∧ [first, second, third, fourth] = payloadLengthField false length := by
  have bits : (first ++ second ++ third ++ fourth : BitVec 32).toNat =
      ((first.toNat * 256 + second.toNat) * 256 + third.toNat) * 256 + fourth.toNat := by
    rw [append_toNat, append_toNat, append_toNat]
  have bounds := first.isLt
  have bounds' := second.isLt
  have bounds'' := third.isLt
  have bounds''' := fourth.isLt
  have split : (first ++ second ++ third ++ fourth : BitVec 32).toInt = length ↔
      length < 2147483648 ∧
        ((first.toNat * 256 + second.toNat) * 256 + third.toNat) * 256 + fourth.toNat = length := by
    rw [BitVec.toInt_eq_toNat_cond, bits]
    split <;> omega
  rw [split]
  refine and_congr_right fun small => ?_
  simp only [payloadLengthField, Bool.false_eq_true, if_false, List.cons.injEq, and_true,
    ← BitVec.toNat_inj, BitVec.toNat_ofNat, Nat.shiftRight_eq_div_pow]
  omega

theorem readPayloadLength_iff {short : Bool} {length place : Nat} :
    readPayloadLength short data index = .ok ((length : Int), place) ↔
      length < (if short then 256 else 2147483648) ∧
        At data (index + 1) (payloadLengthField short length) ∧
          place = index + (payloadLengthField short length).length := by
  cases short with
  | true =>
      simp only [readPayloadLength, if_true, bind_ok, cellAt_iff, payloadLengthField, Except.ok.injEq,
        Prod.mk.injEq, Int.natCast_inj]
      constructor
      · rintro ⟨byte, stands, rfl, rfl⟩
        rw [BitVec.ofNat_toNat, BitVec.setWidth_eq]
        exact ⟨byte.isLt, stands, rfl⟩
      · rintro ⟨small, stands, rfl⟩
        refine ⟨_, stands, ?_, rfl⟩
        rw [BitVec.toNat_ofNat]
        exact Nat.mod_eq_of_lt small
  | false =>
      simp only [readPayloadLength, Bool.false_eq_true, if_false, bind_ok, cellAt_iff, Except.ok.injEq,
        Prod.mk.injEq, word_toInt]
      constructor
      · rintro ⟨first, one, second, two, third, three, fourth, four, ⟨small, same⟩, rfl⟩
        rw [← same]
        refine ⟨small, ?_, rfl⟩
        exact at_cons.mpr ⟨one, at_cons.mpr ⟨two, at_cons.mpr ⟨three, four⟩⟩⟩
      · rintro ⟨small, stands, rfl⟩
        rw [payloadLengthField] at stands
        obtain ⟨one, rest⟩ := at_cons.mp stands
        obtain ⟨two, rest⟩ := at_cons.mp rest
        obtain ⟨three, four⟩ := at_cons.mp rest
        exact ⟨_, one, _, two, _, three, _, four, ⟨small, rfl⟩, rfl⟩

theorem readIdLength_iff {present : Bool} {length place : Nat} :
    readIdLength present data index = .ok (length, place) ↔
      length < (if present then 256 else 1) ∧ At data (index + 1) (idLengthField present length) ∧
        place = index + (idLengthField present length).length := by
  cases present with
  | true =>
      simp only [readIdLength, if_true, bind_ok, cellAt_iff, idLengthField, Except.ok.injEq,
        Prod.mk.injEq]
      constructor
      · rintro ⟨byte, stands, rfl, rfl⟩
        rw [BitVec.ofNat_toNat, BitVec.setWidth_eq]
        exact ⟨byte.isLt, stands, rfl⟩
      · rintro ⟨small, stands, rfl⟩
        exact ⟨_, stands, Nat.mod_eq_of_lt small, rfl⟩
  | false =>
      simp only [readIdLength, Bool.false_eq_true, if_false, Except.ok.injEq, Prod.mk.injEq,
        idLengthField, Nat.lt_one_iff, at_nil, true_and, List.length_nil, Nat.add_zero]
      exact and_congr eq_comm eq_comm

theorem readId_iff {present : Bool} {idLength place : Nat} {id : List Byte}
    (bound : idLength < if present then 256 else 1) :
    readId present data index idLength = .ok (id, place) ↔
      At data index id ∧ id.length = idLength ∧ place = index + id.length := by
  cases present with
  | true =>
      simp only [readId, if_true, bind_ok, copy_iff, Except.ok.injEq, Prod.mk.injEq]
      constructor
      · rintro ⟨_, ⟨stands, rfl⟩, rfl, rfl⟩
        exact ⟨stands, rfl, rfl⟩
      · rintro ⟨stands, rfl, rfl⟩
        exact ⟨id, ⟨stands, rfl⟩, rfl, rfl⟩
  | false =>
      rw [if_neg Bool.false_ne_true, Nat.lt_one_iff] at bound
      simp only [readId, Bool.false_eq_true, if_false, Except.ok.injEq, Prod.mk.injEq, bound]
      constructor
      · rintro ⟨rfl, rfl⟩
        exact ⟨at_nil, rfl, rfl⟩
      · rintro ⟨_, empty, rfl⟩
        rw [List.length_eq_zero_iff.mp empty]
        exact ⟨rfl, rfl⟩

theorem length_payloadLengthField (short : Bool) (length : Nat) :
    (payloadLengthField short length).length = if short then 1 else 4 := by
  cases short <;> rfl

/-- The parts of a record, at the places where the reader looks for them. -/
theorem at_form : At data index (form tnfByte record) ↔
    At data index [tnfByte] ∧ At data (index + 1) [BitVec.ofNat 8 record.type.length] ∧
      At data (index + 1 + 1) (payloadLengthField (sr tnfByte) record.payload.length) ∧
      let place := index + 1 + (payloadLengthField (sr tnfByte) record.payload.length).length
      At data (place + 1) (idLengthField (il tnfByte) record.id.length) ∧
      let behind := place + (idLengthField (il tnfByte) record.id.length).length + 1
      At data behind record.type ∧ At data (behind + record.type.length) record.id ∧
        At data (behind + record.type.length + record.id.length) record.payload := by
  have place : ∀ field : Nat, index + 1 + 1 + field = index + 1 + field + 1 := fun field => by omega
  have behind : ∀ field other : Nat, index + 1 + field + 1 + other = index + 1 + field + other + 1 :=
    fun field other => by omega
  have pair : ∀ {start : Nat} {first second : BitVec 8}, At data start [first, second] ↔
      At data start [first] ∧ At data (start + 1) [second] := at_cons
  simp only [form, at_append, pair, List.length_cons, List.length_nil, and_assoc,
    ← Nat.add_assoc index, Nat.zero_add, place, behind]

/-- The reader goes through just where a whole record stands. -/
theorem readRecord_iff {last : Bool} :
    readRecord data index = .ok (record, last, next) ↔
      ∃ tnfByte, Forms tnfByte record ∧ last = me tnfByte ∧ At data index (form tnfByte record) ∧
        next = index + (form tnfByte record).length := by
  rw [readRecord]
  simp only [bind_ok, cellAt_iff, copy_iff, copyInt_iff, Except.ok.injEq, Prod.mk.injEq, at_form]
  constructor
  · rintro ⟨tnfByte, head, typeByte, typed, ⟨payloadLength, place⟩, length, ⟨idLength, behind⟩,
      idLengthRead, type, ⟨typeStands, typeLength⟩, ⟨id, after⟩, idRead, payload,
      ⟨payloadStands, rfl⟩, rfl, rfl, rfl⟩
    obtain ⟨payloadSmall, lengthStands, rfl⟩ := readPayloadLength_iff.mp length
    obtain ⟨idSmall, idLengthStands, rfl⟩ := readIdLength_iff.mp idLengthRead
    obtain ⟨idStands, rfl, rfl⟩ := (readId_iff idSmall).mp idRead
    have typeSmall : type.length < 256 := typeLength ▸ typeByte.isLt
    have byte : BitVec.ofNat 8 type.length = typeByte := (ofNat_byte typeSmall).mpr typeLength.symm
    rw [← byte] at typed
    rw [← typeLength] at idStands payloadStands
    refine ⟨tnfByte, ⟨rfl, typeSmall, payloadSmall, idSmall⟩, rfl,
      ⟨head, typed, lengthStands, idLengthStands, typeStands, idStands, payloadStands⟩, ?_⟩
    simp only [form, List.length_append, List.length_cons, List.length_nil, ← typeLength]
    omega
  · rintro ⟨tnfByte, forms, rfl, ⟨head, typed, lengthStands, idLengthStands, typeStands, idStands,
      payloadStands⟩, rfl⟩
    have typeLength : (BitVec.ofNat 8 record.type.length).toNat = record.type.length :=
      (ofNat_byte forms.type).mp rfl
    refine ⟨tnfByte, head, _, typed, _, readPayloadLength_iff.mpr ⟨forms.payload, lengthStands, rfl⟩, _,
      readIdLength_iff.mpr ⟨forms.id, idLengthStands, rfl⟩, record.type,
      ⟨typeStands, typeLength.symm⟩, _, (readId_iff forms.id).mpr ⟨?_, rfl, rfl⟩, record.payload,
      ⟨?_, rfl⟩, ?_, rfl, ?_⟩
    · rw [typeLength]
      exact idStands
    · rw [typeLength]
      exact payloadStands
    · rw [← forms.tnf]
    · rw [typeLength]
      simp only [form, List.length_append, List.length_cons, List.length_nil]
      omega

/-! What the writer puts down. -/

theorem length_encode (firstRecord lastRecord : Bool) (record : Record) :
    (encode firstRecord lastRecord record).length = getEncodedSize record := by
  simp only [encode, getEncodedSize, List.length_append, List.length_cons, List.length_nil, gt_iff_lt]
  by_cases short : record.payload.length ≤ 0xFF
  · have small : ¬ 0xFF < record.payload.length := Nat.not_lt.mpr short
    rw [if_pos short, if_neg small]
    split <;> simp only [List.length_cons, List.length_nil] <;> omega
  · have long : 0xFF < record.payload.length := Nat.lt_of_not_le short
    rw [if_neg short, if_pos long]
    split <;> simp only [List.length_cons, List.length_nil] <;> omega

/-- The first byte, from the parts that it is put together of. -/
def flags (value : Byte) (firstRecord lastRecord short present : Bool) : Byte :=
  let value := if firstRecord then value ||| 0x80 else value
  let value := if lastRecord then value ||| 0x40 else value
  let value := if short then value ||| 0x10 else value
  if present then value ||| 0x8 else value

theorem flags_read : ∀ (value : Fin 8) (firstRecord lastRecord short present : Bool),
    let byte := flags (BitVec.ofNat 8 value) firstRecord lastRecord short present
    tnf byte = BitVec.ofNat 8 value ∧ me byte = lastRecord ∧ sr byte = short ∧ il byte = present := by
  decide

theorem getTnfByte_flags (firstRecord lastRecord : Bool) (record : Record) :
    getTnfByte firstRecord lastRecord record =
      flags record.tnf firstRecord lastRecord (decide (record.payload.length ≤ 0xFF))
        (decide (record.id.length ≠ 0)) := by
  simp only [getTnfByte, flags, decide_eq_true_eq]

theorem getTnfByte_read (firstRecord lastRecord : Bool) (small : record.tnf.toNat < 8) :
    let byte := getTnfByte firstRecord lastRecord record
    tnf byte = record.tnf ∧ me byte = lastRecord ∧
      sr byte = decide (record.payload.length ≤ 0xFF) ∧ il byte = decide (record.id.length ≠ 0) := by
  have read := flags_read ⟨record.tnf.toNat, small⟩ firstRecord lastRecord
    (decide (record.payload.length ≤ 0xFF)) (decide (record.id.length ≠ 0))
  rw [BitVec.ofNat_toNat, BitVec.setWidth_eq] at read
  rw [getTnfByte_flags]
  exact read

/-- A record that fits is written in a form that says it. -/
theorem encode_fits (firstRecord lastRecord : Bool) (fits : Fits record) :
    encode firstRecord lastRecord record = form (getTnfByte firstRecord lastRecord record) record ∧
      Forms (getTnfByte firstRecord lastRecord record) record ∧
        me (getTnfByte firstRecord lastRecord record) = lastRecord := by
  obtain ⟨tnf, last, short, present⟩ := getTnfByte_read firstRecord lastRecord fits.tnf
  have payload := fits.payload
  have id := fits.id
  refine ⟨?_, ⟨tnf.symm, fits.type, ?_, ?_⟩, last⟩
  · have zero : BitVec.ofNat 8 (record.payload.length >>> 24) = 0 := by
      rw [Nat.shiftRight_eq_div_pow, Nat.div_eq_of_lt (by omega)]
      rfl
    have zero' : BitVec.ofNat 8 (record.payload.length >>> 16) = 0 := by
      rw [Nat.shiftRight_eq_div_pow, Nat.div_eq_of_lt (by omega)]
      rfl
    have none : ¬ record.id.length ≠ 0 → record.id = [] := fun zero =>
      List.length_eq_zero_iff.mp (Classical.not_not.mp zero)
    simp only [encode, form, short, present, payloadLengthField, idLengthField, decide_eq_true_eq, zero,
      zero', List.append_assoc]
    by_cases present : record.id.length ≠ 0
    · simp only [if_pos present]
    · simp only [none present, List.length_nil, ne_eq, not_true_eq_false, if_false]
  · rw [short]
    split <;> simp at * <;> omega
  · rw [present]
    split <;> simp at * <;> omega

theorem fits_forms (forms : Forms tnfByte record) : Fits record ↔ record.payload.length < 65536 := by
  have id := forms.id
  have small : (tnf tnfByte).toNat < 8 := by
    rw [tnf, BitVec.toNat_and]
    exact Nat.lt_of_le_of_lt Nat.and_le_right (by decide)
  refine ⟨Fits.payload, fun payload => ⟨forms.tnf ▸ small, forms.type, ?_, payload⟩⟩
  split at id <;> omega

/-- Where a record is read from the place that it was written to, it fits. -/
theorem fits_of_form {firstRecord lastRecord : Bool}
    (written : At data index (encode firstRecord lastRecord record))
    (stands : At data index (form tnfByte record)) (forms : Forms tnfByte record) : Fits record := by
  rw [fits_forms forms]
  have payload := forms.payload
  by_cases short : record.payload.length ≤ 0xFF
  · omega
  · -- The two bytes that the writer leaves zero are the upper half of the length.
    have long : sr tnfByte = false := by
      rw [Bool.eq_false_iff]
      intro byte
      rw [if_pos byte] at payload
      omega
    rw [long, if_neg Bool.false_ne_true] at payload
    simp only [encode, if_neg short, List.append_assoc] at written
    have zeros := (at_append.mp (at_append.mp written).2).1
    have length := (at_form.mp stands).2.2.1
    rw [long] at length
    have same := at_same zeros length rfl
    simp only [payloadLengthField, Bool.false_eq_true, if_false, List.cons.injEq,
      ← BitVec.toNat_inj, BitVec.ofNat_eq_ofNat, BitVec.toNat_ofNat, Nat.shiftRight_eq_div_pow] at same
    omega

end MangOH.Ndef
