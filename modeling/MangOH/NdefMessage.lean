import MangOH.NdefRecord

/-!
NDEF messages: the records of one behind another, in a message that holds ten at most.
The reader goes by the mark of the last record; it looks at the number of bytes only
between two records, and there once too often.
-/

namespace MangOH.Ndef

open CString (Buffer Fault)
open Cells

def maxNdefRecords : Nat := 10

@[ext]
structure NdefMessage where
  records : List Record
  bounded : records.length ≤ maxNdefRecords

namespace NdefMessage

def empty : NdefMessage := ⟨[], Nat.zero_le _⟩

/-- A record beyond the tenth is left out. -/
def addRecord (record : Record) (message : NdefMessage) : Bool × NdefMessage :=
  if free : message.records.length < maxNdefRecords then
    (true, ⟨message.records ++ [record], by rw [List.length_append]; exact free⟩)
  else (false, message)

def encodedSizeFrom : List Record → Nat
  | [] => 0
  | record :: rest => getEncodedSize record + encodedSizeFrom rest

def encodedSize (message : NdefMessage) : Nat := encodedSizeFrom message.records

/-- The round for record `i` and those after it. -/
def encodeFrom (recordCount : Nat) : Nat → List Record → Buffer → Nat → Except Fault Buffer
  | _, [], data, _ => .ok data
  | i, record :: rest, data, dataPtr => do
      let data ← patch data dataPtr (Ndef.encode (i == 0) (i + 1 == recordCount) record)
      encodeFrom recordCount (i + 1) rest data (dataPtr + getEncodedSize record)

def encode (message : NdefMessage) (data : Buffer) (start : Nat) : Except Fault Buffer :=
  encodeFrom message.records.length 0 message.records data start

end NdefMessage

theorem readRecord_forward {data : Buffer} {index next : Nat} {record : Record} {last : Bool}
    (done : readRecord data index = .ok (record, last, next)) : index < next := by
  obtain ⟨_, _, _, _, rfl⟩ := readRecord_iff.mp done
  simp only [form, List.length_append, List.length_cons]
  omega

/-- The loop of the constructor that reads a message. -/
def readRecords (data : Buffer) (numBytes index : Nat) (message : NdefMessage) :
    Except Fault NdefMessage :=
  if index ≤ numBytes then
    match _round : readRecord data index with
    | .error fault => .error fault
    | .ok (record, last, next) =>
        if last then .ok (message.addRecord record).2
        else readRecords data numBytes next (message.addRecord record).2
  else .ok message
termination_by numBytes + 1 - index
decreasing_by
  have forward := readRecord_forward _round
  omega

def NdefMessage.decode (data : Buffer) (numBytes : Nat) : Except Fault NdefMessage :=
  readRecords data numBytes 0 .empty

variable {data : Buffer} {numBytes index : Nat} {message : NdefMessage} {record : Record}
  {records : List Record} {tnfByte : Byte}

/-! What the reader takes. -/

/-- The records from a place on, as far as the number of bytes or a last one. -/
inductive Chain (data : Buffer) (numBytes : Nat) : Nat → List Record → Prop where
  | behind {index : Nat} (less : numBytes < index) : Chain data numBytes index []
  | last {index : Nat} {record : Record} {tnfByte : Byte} (inside : index ≤ numBytes)
      (forms : Forms tnfByte record) (stands : At data index (form tnfByte record))
      (marked : me tnfByte = true) : Chain data numBytes index [record]
  | more {index : Nat} {record : Record} {rest : List Record} {tnfByte : Byte}
      (inside : index ≤ numBytes) (forms : Forms tnfByte record)
      (stands : At data index (form tnfByte record)) (unmarked : me tnfByte = false)
      (next : Chain data numBytes (index + (form tnfByte record).length) rest) :
      Chain data numBytes index (record :: rest)

theorem addRecord_records (record : Record) (message : NdefMessage) :
    (message.addRecord record).2.records = (message.records ++ [record]).take maxNdefRecords := by
  rw [NdefMessage.addRecord]
  split
  · rename_i free
    rw [List.take_of_length_le]
    rw [List.length_append]
    exact free
  · rename_i full
    have length : message.records.length = maxNdefRecords :=
      Nat.le_antisymm message.bounded (Nat.le_of_not_lt full)
    rw [← length, List.take_left]

theorem take_append_take (count : Nat) (front back : List Record) :
    (front.take count ++ back).take count = (front ++ back).take count := by
  rcases Nat.le_total count front.length with long | short
  · have full : count ≤ (front.take count).length := by
      rw [List.length_take]
      omega
    rw [List.take_append_of_le_length full, List.take_append_of_le_length long, List.take_take,
      Nat.min_self]
  · rw [List.take_of_length_le short]

theorem addRecord_append (record : Record) (rest : List Record) (message : NdefMessage) :
    ((message.addRecord record).2.records ++ rest).take maxNdefRecords =
      (message.records ++ record :: rest).take maxNdefRecords := by
  rw [addRecord_records, take_append_take, List.append_assoc, List.singleton_append]

theorem readRecords_eq : readRecords data numBytes index message =
    if index ≤ numBytes then do
      let round ← readRecord data index
      if round.2.1 then .ok (message.addRecord round.1).2
      else readRecords data numBytes round.2.2 (message.addRecord round.1).2
    else .ok message := by
  rw [readRecords]
  split
  · split
    · rename_i round
      rw [round]
      rfl
    · rename_i round
      rw [round]
      rfl
  · rfl

theorem chain_iff : Chain data numBytes index records ↔
    if index ≤ numBytes then
      ∃ record last next rest, readRecord data index = .ok (record, last, next) ∧
        records = record :: rest ∧ if last then rest = [] else Chain data numBytes next rest
    else records = [] := by
  constructor
  · intro chain
    cases chain with
    | behind less => rw [if_neg (Nat.not_le_of_lt less)]
    | last inside forms stands marked =>
        rw [if_pos inside]
        refine ⟨_, true, _, [], readRecord_iff.mpr ⟨_, forms, marked.symm, stands, rfl⟩, rfl, ?_⟩
        rw [if_pos rfl]
    | more inside forms stands unmarked next =>
        rw [if_pos inside]
        refine ⟨_, false, _, _, readRecord_iff.mpr ⟨_, forms, unmarked.symm, stands, rfl⟩, rfl, ?_⟩
        rw [if_neg Bool.false_ne_true]
        exact next
  · intro read
    by_cases inside : index ≤ numBytes
    · rw [if_pos inside] at read
      obtain ⟨record, last, next, rest, round, rfl, rest_of⟩ := read
      obtain ⟨tnfByte, forms, rfl, stands, rfl⟩ := readRecord_iff.mp round
      by_cases marked : me tnfByte = true
      · rw [if_pos marked] at rest_of
        rw [rest_of]
        exact .last inside forms stands marked
      · rw [if_neg marked] at rest_of
        exact .more inside forms stands (Bool.eq_false_iff.mpr marked) rest_of
    · rw [if_neg inside] at read
      rw [read]
      exact .behind (Nat.lt_of_not_le inside)

/-- The reader's result is the first ten records of the chain, and there is none where the
chain breaks off. -/
theorem readRecords_iff {result : NdefMessage} :
    readRecords data numBytes index message = .ok result ↔
      ∃ records, Chain data numBytes index records ∧
        result.records = (message.records ++ records).take maxNdefRecords := by
  induction index, message using readRecords.induct data numBytes with
  | case1 index message inside fault round =>
      rw [readRecords_eq, if_pos inside, round]
      constructor
      · intro same
        cases same
      · rintro ⟨records, chain, _⟩
        rw [chain_iff, if_pos inside, round] at chain
        obtain ⟨_, _, _, _, same, _⟩ := chain
        cases same
  | case2 index message inside record next round =>
      rw [readRecords_eq, if_pos inside, round]
      simp only [bind, Except.bind, if_true, Except.ok.injEq]
      rw [NdefMessage.ext_iff, addRecord_records]
      constructor
      · intro same
        refine ⟨[record], chain_iff.mpr ?_, same.symm⟩
        rw [if_pos inside]
        exact ⟨record, true, next, [], round, rfl, rfl⟩
      · rintro ⟨records, chain, same⟩
        rw [chain_iff, if_pos inside] at chain
        obtain ⟨_, _, _, rest, round', rfl, none⟩ := chain
        cases round.symm.trans round'
        rw [if_pos rfl] at none
        rw [same, none]
  | case3 index message inside record last next round unmarked ih =>
      rw [readRecords_eq, if_pos inside, round]
      simp only [bind, Except.bind, if_neg unmarked]
      rw [ih]
      constructor
      · rintro ⟨rest, chain, same⟩
        rw [addRecord_append] at same
        refine ⟨record :: rest, chain_iff.mpr ?_, same⟩
        rw [if_pos inside]
        refine ⟨record, last, next, rest, round, rfl, ?_⟩
        rw [if_neg unmarked]
        exact chain
      · rintro ⟨records, chain, same⟩
        rw [chain_iff, if_pos inside] at chain
        obtain ⟨_, _, _, rest, round', rfl, chain⟩ := chain
        cases round.symm.trans round'
        rw [if_neg unmarked] at chain
        exact ⟨rest, chain, (addRecord_append record rest message).symm ▸ same⟩
  | case4 index message less =>
      rw [readRecords_eq, if_neg less, Except.ok.injEq]
      constructor
      · rintro rfl
        refine ⟨[], .behind (Nat.lt_of_not_le less), ?_⟩
        rw [List.append_nil, List.take_of_length_le message.bounded]
      · rintro ⟨records, chain, same⟩
        rw [chain_iff, if_neg less] at chain
        subst chain
        rw [List.append_nil, List.take_of_length_le message.bounded] at same
        exact NdefMessage.ext_iff.mpr same.symm

/-! What the writer puts down. -/

/-- The bytes of a message's records from number `i` on. -/
def bytesFrom (recordCount : Nat) : Nat → List Record → List Byte
  | _, [] => []
  | i, record :: rest =>
      encode (i == 0) (i + 1 == recordCount) record ++ bytesFrom recordCount (i + 1) rest

namespace NdefMessage

def bytes (message : NdefMessage) : List Byte :=
  bytesFrom message.records.length 0 message.records

end NdefMessage

theorem length_bytesFrom (recordCount i : Nat) (records : List Record) :
    (bytesFrom recordCount i records).length = NdefMessage.encodedSizeFrom records := by
  induction records generalizing i with
  | nil => rfl
  | cons record rest ih =>
      rw [bytesFrom, List.length_append, length_encode, ih, NdefMessage.encodedSizeFrom]

theorem length_bytes (message : NdefMessage) : message.bytes.length = message.encodedSize :=
  length_bytesFrom ..

theorem encodeFrom_eq (recordCount i : Nat) (records : List Record) (inside : index ≤ data.length) :
    NdefMessage.encodeFrom recordCount i records data index =
      patch data index (bytesFrom recordCount i records) := by
  induction records generalizing i data index with
  | nil => rw [NdefMessage.encodeFrom, bytesFrom, patch_nil inside]
  | cons record rest ih =>
      rw [NdefMessage.encodeFrom, bytesFrom, ← patch_patch, length_encode]
      cases wrote : patch data index (encode (i == 0) (i + 1 == recordCount) record) with
      | error fault => rfl
      | ok after =>
          have room := (patch_iff.mp wrote).1
          rw [length_encode] at room
          exact ih (i + 1) (patch_length wrote ▸ room)

/-- The writer writes just the bytes of the message, one behind another. -/
theorem encode_eq (message : NdefMessage) (inside : index ≤ data.length) :
    message.encode data index = patch data index message.bytes :=
  encodeFrom_eq _ _ _ inside

/-! A message that was written is read. -/

theorem chain_fits {recordCount i : Nat} (fits : ∀ record ∈ records, Fits record)
    (some_records : records ≠ []) (count : i + records.length = recordCount)
    (stands : At data index (bytesFrom recordCount i records))
    (inside : index + (bytesFrom recordCount i records).length ≤ numBytes) :
    Chain data numBytes index records := by
  induction records generalizing i index with
  | nil => exact absurd rfl some_records
  | cons record rest ih =>
      obtain ⟨written, forms, last⟩ :=
        encode_fits (i == 0) (i + 1 == recordCount) (fits record (List.mem_cons_self ..))
      rw [bytesFrom, written] at stands inside
      obtain ⟨here, behind⟩ := at_append.mp stands
      rw [List.length_append] at inside
      rw [List.length_cons] at count
      cases rest with
      | nil =>
          have marked : (i + 1 == recordCount) = true := by simpa using count
          exact .last (by omega) forms here (last.trans marked)
      | cons second rest =>
          have unmarked : (i + 1 == recordCount) = false := by
            rw [beq_eq_false_iff_ne]
            rw [List.length_cons] at count
            omega
          refine .more (by omega) forms here (last.trans unmarked) ?_
          exact ih (fun record member => fits record (List.mem_cons_of_mem _ member))
            (List.cons_ne_nil _ _) (by omega) behind (by omega)

theorem fits_chain {recordCount i : Nat} {found : List Record} (chain : Chain data numBytes index found)
    (front : records <+: found) (count : i + records.length = recordCount)
    (stands : At data index (bytesFrom recordCount i records)) : ∀ record ∈ records, Fits record := by
  induction records generalizing i index found with
  | nil => exact fun _ member => absurd member List.not_mem_nil
  | cons record rest ih =>
      rw [bytesFrom] at stands
      obtain ⟨here, behind⟩ := at_append.mp stands
      rw [List.length_cons] at count
      -- The record that was found has the place of the one that was written.
      have one {tnfByte : Byte} (form_here : At data index (form tnfByte record))
          (forms : Forms tnfByte record) :
          Fits record ∧ encode (i == 0) (i + 1 == recordCount) record = form tnfByte record := by
        have fits := fits_of_form here form_here forms
        obtain ⟨written, _, _⟩ := encode_fits (i == 0) (i + 1 == recordCount) fits
        rw [written] at here
        have heads := at_same (at_form.mp here).1 (at_form.mp form_here).1 rfl
        rw [List.cons.injEq] at heads
        exact ⟨fits, heads.1 ▸ written⟩
      cases chain with
      | behind less => exact absurd (List.prefix_nil.mp front) (List.cons_ne_nil _ _)
      | last inside forms form_here marked =>
          obtain ⟨rfl, none⟩ := List.cons_prefix_cons.mp front
          rw [List.prefix_nil] at none
          rw [none]
          exact fun other member => List.mem_singleton.mp member ▸ (one form_here forms).1
      | more inside forms form_here unmarked next =>
          obtain ⟨rfl, others⟩ := List.cons_prefix_cons.mp front
          obtain ⟨fits, written⟩ := one form_here forms
          rw [written] at behind
          intro other member
          cases member with
          | head => exact fits
          | tail _ member => exact ih next others (by omega) behind other member

theorem chain_nonempty (chain : Chain data numBytes 0 records) : records ≠ [] := by
  cases chain with
  | behind less => exact absurd less (Nat.not_lt_zero _)
  | last => exact List.cons_ne_nil _ _
  | more => exact List.cons_ne_nil _ _

theorem decode_iff {result : NdefMessage} :
    NdefMessage.decode data numBytes = .ok result ↔
      ∃ records, Chain data numBytes 0 records ∧ result.records = records.take maxNdefRecords :=
  readRecords_iff

theorem decode_records {result : NdefMessage} (done : NdefMessage.decode data numBytes = .ok result) :
    result.records ≠ [] := by
  obtain ⟨records, chain, same⟩ := decode_iff.mp done
  intro none
  rw [none, List.nil_eq, List.take_eq_nil_iff] at same
  rcases same with zero | none
  · cases zero
  · exact chain_nonempty chain none

theorem encode_inside {after : Buffer} (wrote : message.encode data index = .ok after)
    (some_records : message.records ≠ []) : index ≤ data.length := by
  rw [NdefMessage.encode] at wrote
  cases records : message.records with
  | nil => exact absurd records some_records
  | cons record rest =>
      rw [records, NdefMessage.encodeFrom, bind_ok] at wrote
      obtain ⟨_, first, _⟩ := wrote
      exact Nat.le_trans (Nat.le_add_right ..) (patch_iff.mp first).1

/-- The bytes of a message are read, whatever stands behind them, just when it is not
empty and each of its records fits. -/
theorem decode_bytes_iff (message : NdefMessage)
    (stands : At data 0 message.bytes) :
    NdefMessage.decode data message.encodedSize = .ok message ↔
      message.records ≠ [] ∧ ∀ record ∈ message.records, Fits record := by
  constructor
  · intro back
    obtain ⟨records, chain, same⟩ := decode_iff.mp back
    have front : message.records <+: records := same ▸ List.take_prefix _ _
    exact ⟨decode_records back, fits_chain chain front (Nat.zero_add _) stands⟩
  · rintro ⟨some_records, fits⟩
    refine decode_iff.mpr ⟨message.records, chain_fits fits some_records (Nat.zero_add _) stands ?_, ?_⟩
    · rw [Nat.zero_add]
      exact Nat.le_of_eq (length_bytes message)
    · rw [List.take_of_length_le message.bounded]

/-- Written at a place of a buffer and read from there, a message comes back just when
there is room, when it is not empty, and when each of its records fits. -/
theorem decode_encode_iff (message : NdefMessage) (data : Buffer) (start : Nat) :
    (do
      let after ← message.encode data start
      NdefMessage.decode (after.drop start) message.encodedSize) = .ok message ↔
      start + message.encodedSize ≤ data.length ∧ message.records ≠ [] ∧
        ∀ record ∈ message.records, Fits record := by
  have stands (inside : start ≤ data.length) : At ((data.take start ++ message.bytes.map some ++
      data.drop (start + message.encodedSize)).drop start) 0 message.bytes := by
    rw [At, List.drop_zero, List.append_assoc, List.drop_left' (List.length_take_of_le inside)]
    exact List.prefix_append _ _
  rw [bind_ok]
  constructor
  · rintro ⟨after, wrote, back⟩
    have inside := encode_inside wrote (decode_records back)
    rw [encode_eq message inside, patch_iff, length_bytes] at wrote
    obtain ⟨room, rfl⟩ := wrote
    exact ⟨room, (decode_bytes_iff message (stands inside)).mp back⟩
  · rintro ⟨room, fit⟩
    have inside : start ≤ data.length := Nat.le_trans (Nat.le_add_right ..) room
    refine ⟨_, ?_, (decode_bytes_iff message (stands inside)).mpr fit⟩
    rw [encode_eq message inside, patch_iff, length_bytes]
    exact ⟨room, rfl⟩

/-! What is accepted where nothing stands behind the bytes. -/

/-- The bytes of records of which the last one is marked, and no other. -/
inductive Wire : List Record → List Byte → Prop where
  | last {record : Record} {tnfByte : Byte} (forms : Forms tnfByte record)
      (marked : me tnfByte = true) : Wire [record] (form tnfByte record)
  | more {record : Record} {rest : List Record} {bytes : List Byte} {tnfByte : Byte}
      (forms : Forms tnfByte record) (unmarked : me tnfByte = false) (next : Wire rest bytes) :
      Wire (record :: rest) (form tnfByte record ++ bytes)

theorem wire_of_chain (all : data.length ≤ numBytes) (inside : index ≤ data.length)
    (chain : Chain data numBytes index records) :
    ∃ bytes, Wire records bytes ∧ At data index bytes := by
  induction chain with
  | behind less => omega
  | last _ forms stands marked => exact ⟨_, .last forms marked, stands⟩
  | more _ forms stands unmarked _ ih =>
      have bound := at_length stands (List.cons_ne_nil _ _)
      obtain ⟨bytes, wire, behind⟩ := ih bound
      exact ⟨_, .more forms unmarked wire, at_append.mpr ⟨stands, behind⟩⟩

theorem chain_of_wire {bytes : List Byte} (all : data.length ≤ numBytes) (wire : Wire records bytes)
    (stands : At data index bytes) : Chain data numBytes index records := by
  induction wire generalizing index with
  | last forms marked =>
      have bound := at_length stands (List.cons_ne_nil _ _)
      exact .last (by omega) forms stands marked
  | more forms unmarked _ ih =>
      obtain ⟨here, behind⟩ := at_append.mp stands
      have bound := at_length here (List.cons_ne_nil _ _)
      exact .more (by omega) forms here unmarked (ih behind)

/-- The reader stays inside the bytes that it was given just when they begin with whole
records up to a marked one; its message is the first ten of them. -/
theorem decode_wire_iff (data : Buffer) (numBytes : Nat) (all : data.length ≤ numBytes)
    (result : NdefMessage) :
    NdefMessage.decode data numBytes = .ok result ↔
      ∃ records bytes, Wire records bytes ∧ At data 0 bytes ∧
        result.records = records.take maxNdefRecords := by
  rw [decode_iff]
  constructor
  · rintro ⟨records, chain, same⟩
    obtain ⟨bytes, wire, stands⟩ := wire_of_chain all (Nat.zero_le _) chain
    exact ⟨records, bytes, wire, stands, same⟩
  · rintro ⟨records, bytes, wire, stands, same⟩
    exact ⟨records, chain_of_wire all wire stands, same⟩

theorem empty_record_read : NdefMessage.decode [some 0xD0, some 0, some 0] 3 =
    .ok ⟨[⟨0, [], [], []⟩], by decide⟩ :=
  (decode_wire_iff _ 3 (by decide) _).mpr ⟨[⟨0, [], [], []⟩], [0xD0, 0, 0],
    @Wire.last ⟨0, [], [], []⟩ 0xD0 ⟨by decide, by decide, by decide, by decide⟩ rfl,
    List.prefix_refl _, rfl⟩

/-! Reading and writing again. -/

theorem chain_forms (chain : Chain data numBytes index records) :
    ∀ record ∈ records, ∃ tnfByte, Forms tnfByte record := by
  induction chain with
  | behind less => exact fun _ member => absurd member List.not_mem_nil
  | last _ forms _ _ => exact fun _ member => ⟨_, List.mem_singleton.mp member ▸ forms⟩
  | more _ forms _ _ _ ih =>
      intro record member
      cases member with
      | head => exact ⟨_, forms⟩
      | tail _ member => exact ih record member

/-- What was read, in whatever form its lengths were, is written so that it is read again,
but for a payload whose length takes more than two bytes. -/
theorem decode_again_iff (data : Buffer) (numBytes : Nat) (message : NdefMessage)
    (read : NdefMessage.decode data numBytes = .ok message) :
    NdefMessage.decode (message.bytes.map some) message.encodedSize = .ok message ↔
      ∀ record ∈ message.records, record.payload.length < 65536 := by
  have stands : At (message.bytes.map some) 0 message.bytes := List.prefix_refl _
  rw [decode_bytes_iff message stands, and_iff_right (decode_records read)]
  obtain ⟨records, chain, same⟩ := decode_iff.mp read
  refine forall₂_congr fun record member => ?_
  rw [same] at member
  obtain ⟨_, forms⟩ := chain_forms chain record (List.mem_of_mem_take member)
  exact fits_forms forms

/-- A payload of one byte with its length in four is written with its length in one. -/
theorem long_form_again :
    let message : NdefMessage := ⟨[⟨5, [], [], [7]⟩], by decide⟩
    NdefMessage.decode (message.bytes.map some) message.encodedSize = .ok message := by
  intro message
  have stands : At ([0xC5, 0, 0, 0, 0, 1, 7].map some) 0 (form 0xC5 ⟨5, [], [], [7]⟩) :=
    ⟨[], by decide⟩
  have read : NdefMessage.decode ([0xC5, 0, 0, 0, 0, 1, 7].map some) 7 = .ok message :=
    decode_iff.mpr ⟨[⟨5, [], [], [7]⟩],
      .last (Nat.zero_le _) ⟨by decide, by decide, by decide, by decide⟩ stands rfl, rfl⟩
  refine (decode_again_iff _ 7 message read).mpr fun record member => ?_
  rw [List.mem_singleton.mp member]
  decide

end MangOH.Ndef
