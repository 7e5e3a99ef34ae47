import MangOH.NdefMessage
import MangOH.NtagStore

/-!
NDEF messages on the tag: the records that are put together by the message's own functions,
the two adapters with a message of records, and the commands that leave the tag without a
message.
-/

namespace MangOH.Ndef

open CString (Buffer)
open Nfc hiding Byte
open Cells Blocks

/-! The records that a message is given. -/

def tnfWellKnown : Byte := 0x01
def tnfMimeMedia : Byte := 0x02
def tnfUnknown : Byte := 0x05
def tnfEmpty : Byte := 0x00

/-- The placeholder in front is replaced by the length of the encoding. -/
def textRecord (encoding text : List Byte) : Record :=
  ⟨tnfWellKnown, [0x54], [], BitVec.ofNat 8 encoding.length :: (encoding ++ text)⟩

def uriRecord (uri : List Byte) : Record := ⟨tnfWellKnown, [0x55], [], 0 :: uri⟩

def mimeMediaRecord (mimeType payload : List Byte) : Record := ⟨tnfMimeMedia, mimeType, [], payload⟩

def unknownRecord (payload : List Byte) : Record := ⟨tnfUnknown, [], [], payload⟩

def emptyRecord : Record := ⟨tnfEmpty, [], [], []⟩

namespace NdefMessage

def addTextRecord (text : List Byte) (message : NdefMessage) : NdefMessage :=
  (message.addRecord (textRecord (CString.ascii "en") text)).2

def addEmptyRecord (message : NdefMessage) : NdefMessage := (message.addRecord emptyRecord).2

/-- A message is built of any sequence of records. -/
def build (records : List Record) : NdefMessage :=
  records.foldl (fun message record => (message.addRecord record).2) empty

end NdefMessage

variable {works again : Nat → Bool} {wait later : Wait} {message : NdefMessage} {memory : Content}

/-- The first ten records are kept, in their order. -/
theorem build_records (records : List Record) :
    (NdefMessage.build records).records = records.take maxNdefRecords := by
  have step (message : NdefMessage) :
      (records.foldl (fun message record => (message.addRecord record).2) message).records =
        (message.records ++ records).take maxNdefRecords := by
    induction records generalizing message with
    | nil => rw [List.foldl_nil, List.append_nil, List.take_of_length_le message.bounded]
    | cons record rest ih => rw [List.foldl_cons, ih, addRecord_append]
  exact step .empty

/-! A message of records through the adapters. -/

/-- The message that the constructor makes of the cells in a tag's answer, whatever cells of
the buffer stand behind them. -/
def Carries (message : NdefMessage) (tag : NfcTag) : Prop :=
  ∃ cells, tag.message = some (.parsed cells) ∧
    ∀ behind, NdefMessage.decode (cells ++ behind) cells.length = .ok message

theorem bytes_nil_iff (message : NdefMessage) : message.bytes = [] ↔ message.records = [] := by
  constructor
  · intro none
    cases records : message.records with
    | nil => rfl
    | cons record rest =>
        rw [NdefMessage.bytes, records, bytesFrom, encode] at none
        cases none
  · intro none
    rw [NdefMessage.bytes, none]
    rfl

/-- An answer with the bytes of a message carries it just when each of its records fits. -/
theorem carries_iff {tag : NfcTag} (answered : tag.cells = some (message.bytes.map some)) :
    Carries message tag ↔ message.records ≠ [] ∧ ∀ record ∈ message.records, Fits record := by
  have length : (message.bytes.map some).length = message.encodedSize := by
    rw [List.length_map, length_bytes]
  constructor
  · rintro ⟨cells, parsed, read⟩
    rw [NfcTag.cells, parsed, Option.map_some, Option.some.injEq, Message.cells] at answered
    have back := read []
    rw [answered, List.append_nil, length] at back
    exact (decode_bytes_iff message (List.prefix_refl _)).mp back
  · rintro ⟨some_records, fits⟩
    obtain ⟨answer, parsed, cells⟩ := Option.map_eq_some_iff.mp answered
    cases answer with
    | empty =>
        rw [Message.cells, List.nil_eq, List.map_eq_nil_iff, bytes_nil_iff] at cells
        exact absurd cells some_records
    | parsed found =>
        rw [Message.cells] at cells
        refine ⟨found, parsed, fun behind => ?_⟩
        rw [cells, length]
        exact (decode_bytes_iff message (List.prefix_append _ _)).mpr ⟨some_records, fits⟩

/-- Where nothing is lost on the way, the records come back from the EEPROM just when each
of them fits. -/
theorem eeprom_carries_iff (adapter : NtagEepromAdapter)
    (reaches : NtagEepromAdapter.Reaches works wait message.bytes adapter memory)
    (sound : NtagEepromAdapter.Sound works again wait message.bytes adapter memory)
    (undisturbed : ∀ transfer, again transfer = true) :
    let written := NtagEepromAdapter.write works wait message.bytes adapter (Bus.start memory)
    Carries message (NtagEepromAdapter.read again written.2.1 (Bus.start written.2.2.memory)).1 ↔
      message.records ≠ [] ∧ ∀ record ∈ message.records, Fits record := by
  obtain ⟨_, written⟩ := NtagEepromAdapter.write_reaches reaches
  have kept := (NtagEepromAdapter.kept_iff works again wait message.bytes adapter memory).mpr sound
  have back := (kept.1 (congrArg Prod.fst written)).2.1
  obtain ⟨cells, answered⟩ := Option.ne_none_iff_exists'.mp (back.2 undisturbed)
  exact carries_iff (answered.trans (congrArg some (back.1 cells answered)))

/-- In the SRAM there is room for 61 bytes. -/
theorem sram_carries_iff (adapter : NtagSramAdapter)
    (done : (waitUntilRfDone wait adapter.ntag).1 = true) (short : message.encodedSize ≤ 61)
    (sound : NtagSramAdapter.Sound works wait message.bytes adapter)
    (undisturbed : ∀ transfer, again transfer = true) :
    let written := NtagSramAdapter.write works wait message.bytes adapter (Bus.start memory)
    (waitUntilRfDone later written.2.1.ntag).1 = true →
    (Carries message (NtagSramAdapter.read again later written.2.1 (Bus.start written.2.2.memory)).1 ↔
      message.records ≠ [] ∧ ∀ record ∈ message.records, Fits record) := by
  intro written quiet
  have enters : ¬ (!(waitUntilRfDone wait adapter.ntag).1 ||
      64 < (NtagSramAdapter.encoded message.bytes).length) = true := by
    have length := NtagSramAdapter.length_encoded message.bytes
    rw [length_bytes] at length
    simp only [done, Bool.not_true, Bool.false_or, decide_eq_true_eq]
    omega
  have wrote : written.1 = true := by
    show (NtagSramAdapter.write works wait message.bytes adapter (Bus.start memory)).1 = true
    rw [NtagSramAdapter.write_eq, if_neg enters]
  have kept := (NtagSramAdapter.kept_iff works again wait later message.bytes adapter memory).mpr sound
  have back := (kept.1 wrote).2.1
  obtain ⟨cells, answered⟩ := Option.ne_none_iff_exists'.mp (back.2 ⟨quiet, undisturbed⟩)
  exact carries_iff (answered.trans (congrArg some (back.1 cells answered)))

/-- `TextWrite`, from the write on. -/
def textWrite (works : Nat → Bool) (wait : Wait) (text : List Byte) (adapter : NtagEepromAdapter)
    (bus : Bus) : Bool × NtagEepromAdapter × Bus :=
  adapter.write works wait (NdefMessage.empty.addTextRecord text).bytes bus

def erase (works : Nat → Bool) (wait : Wait) (adapter : NtagEepromAdapter) (bus : Bus) :
    Bool × NtagEepromAdapter × Bus :=
  adapter.write works wait NdefMessage.empty.addEmptyRecord.bytes bus

end MangOH.Ndef
