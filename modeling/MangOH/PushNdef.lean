import MangOH.CString
import MangOH.JsonText

/-!
The text that the tag command pushes to the Data Hub. It is put together in
`NdefJson` with `strncat`, from pieces that `snprintf` leaves in `buf2`. The local
buffers of a call are as the call finds them; a use of a cell that was not written,
or past the end of a buffer, ends the call with a fault.
-/

namespace MangOH.PushNdef

open CString JsonText

abbrev Byte := BitVec 8

def bufsiz : Nat := 8192

/-- A format with one conversion. -/
def format (before : String) (chars : List Byte) (after : String) : List Byte :=
  ascii before ++ chars ++ ascii after

/-- `%d` and `%x` of a number that is not negative. -/
def decimal (number : Nat) : List Byte := (Nat.toDigits 10 number).map fun char => BitVec.ofNat 8 char.toNat

def hexadecimal (number : Nat) : List Byte :=
  (Nat.toDigits 16 number).map fun char => BitVec.ofNat 8 char.toNat

/-- `NdefRecord`. -/
structure Record where
  tnf : Byte
  type : List Byte
  id : List Byte
  payload : List Byte

/-- `NfcTag`. -/
structure Tag where
  tagType : Text
  uid : List Byte
  message : Option (List Record)

/-- The characters of a string that was made of bytes with a zero byte behind them. -/
def cstr (bytes : List Byte) : List Byte := bytes.takeWhile (· ≠ 0)

def upperDigit (digit : Nat) : Byte := BitVec.ofNat 8 (if digit < 10 then 48 + digit else 55 + digit)

/-- `String(value, HEX)` in upper case has no leading zero; one is put before a byte
below 15. -/
def uidByte (byte : Byte) : List Byte :=
  (if byte.toNat < 0xF then [48] else []) ++
    if byte.toNat < 16 then [upperDigit byte.toNat]
    else [upperDigit (byte.toNat / 16), upperDigit (byte.toNat % 16)]

/-- `getUidString`. -/
def uidString : List Byte → List Byte
  | [] => []
  | [byte] => uidByte byte
  | byte :: rest => uidByte byte ++ 32 :: uidString rest

/-! The call. -/

structure Frame where
  ndefJson : Buffer
  buf : Buffer
  buf2 : Buffer

def unwritten (size : Nat) : Buffer := List.replicate size none

/-- The bytes of a literal. -/
def literal (chars : List Byte) : Buffer := chars.map some ++ [some 0]

/-- `String::toCharArray` into `buf`. -/
def toCharArray (chars : List Byte) (frame : Frame) : Except Fault Frame := do
  let buf ← store (chars.take (bufsiz - 1)) frame.buf
  .ok { frame with buf := buf }

def snprintf (chars : List Byte) (frame : Frame) : Except Fault Frame := do
  let buf2 ← store (chars.take (bufsiz - 1)) frame.buf2
  .ok { frame with buf2 := buf2 }

def append (count : Nat) (src : Buffer) (frame : Frame) : Except Fault Frame := do
  let ndefJson ← strncat count src frame.ndefJson
  .ok { frame with ndefJson := ndefJson }

/-- The pair of calls that adds a piece. -/
def print (chars : List Byte) (frame : Frame) : Except Fault Frame := do
  let frame ← snprintf chars frame
  append bufsiz frame.buf2 frame

def setCell (buffer : Buffer) (index : Nat) (byte : Byte) : Except Fault Buffer :=
  if index < buffer.length then .ok (buffer.set index (some byte)) else .error .pastEnd

/-- The payload from a place on as a string; the zero byte goes behind the payload. -/
def printPayload (skip : Nat) (payload : Buffer) (frame : Frame) : Except Fault (Frame × Buffer) := do
  let payload ← setCell payload payload.length 0
  let chars ← text (payload.drop skip)
  let frame ← print (format "\"Payload (as String)\": \"" chars "\"") frame
  .ok (frame, payload)

/-- `le_hex_BinaryToString`; nothing is its error. -/
abbrev BinaryToString := List Byte → Option (List Byte)

/-- One round of the loop, and whether it was the last by its return. -/
def pushRecord (binaryToString : BinaryToString) (i recordCount : Nat) (record : Record)
    (frame : Frame) : Except Fault (Frame × Bool) := do
  let frame ← print (format "\"NDEF Record " (decimal (i + 1)) "\": \x7b ") frame
  let frame ← print (format "\"TNF\": \"" (hexadecimal record.tnf.toNat) "\",") frame
  let frame ← toCharArray (cstr record.type) frame
  let shown ← text frame.buf
  let frame ← print (format "\"Type\": \"" shown "\",") frame
  -- The bound is that of `buf`, and the array for the type has nine bytes.
  let type ← strncpy (bufsiz - 1) frame.buf (unwritten 9)
  let frame ← match binaryToString record.payload with
    | some cp => print (format "\"Hex Payload\": \"" cp "\",") frame
    | none => print (ascii "le_hex_BinaryToString failed in parsing NDEF payload") frame
  let frame ← toCharArray (cstr record.payload) frame
  let payload : Buffer := record.payload.map some
  let isText ← strncmp 2 type (literal (ascii "T"))
  let (frame, payload) ← if isText then printPayload 3 payload frame else .ok (frame, payload)
  let isUri ← strncmp 2 type (literal (ascii "U"))
  let (frame, _) ← if isUri then printPayload 1 payload frame else .ok (frame, payload)
  let isPoster ← strncmp 3 type (literal (ascii "Sp"))
  if isPoster then
    let frame ← print (ascii "\"PARSEFAIL Type\": \"Sp\"\x7d\x7d") frame
    .ok (frame, true)
  else
    let frame ←
      if cstr record.id ≠ [] then do
        let frame ← toCharArray (cstr record.id) frame
        let shown ← text frame.buf
        print (format ",\"ID\": \"" shown "\"") frame
      else .ok frame
    let frame ←
      if i + 1 = recordCount then append 1 (literal (ascii "\x7d")) frame
      else append 2 (literal (ascii "\x7d,")) frame
    .ok (frame, false)

def pushRecords (binaryToString : BinaryToString) (recordCount : Nat) :
    Nat → List Record → Frame → Except Fault (Frame × Bool)
  | _, [], frame => .ok (frame, false)
  | i, record :: rest, frame => do
      let round ← pushRecord binaryToString i recordCount record frame
      if round.2 then .ok round else pushRecords binaryToString recordCount (i + 1) rest round.1

def pushMessage (binaryToString : BinaryToString) :
    Option (List Record) → Frame → Except Fault (Frame × Bool)
  | none, frame => .ok (frame, false)
  | some records, frame => do
      let frame ← print (format ",\"RecordCount\": \"" (decimal records.length) "\",") frame
      pushRecords binaryToString records.length 0 records frame

/-- The end of the text, which a return out of the loop has put already. -/
def endJson : Frame × Bool → Except Fault Frame
  | (frame, true) => .ok frame
  | (frame, false) => append 1 (literal (ascii "\x7d")) frame

/-- What is pushed, with `NdefJson` as the call finds it. -/
def pushNdef (binaryToString : BinaryToString) (ndefJson : Buffer) (tag : Tag) :
    Except Fault (List Byte) := do
  let frame : Frame := ⟨ndefJson, unwritten bufsiz, unwritten bufsiz⟩
  let frame ← toCharArray tag.tagType.chars frame
  let shown ← text frame.buf
  let frame ← snprintf (format "\x7b\"TagType\": \"" shown "\",") frame
  -- The piece goes behind what the array holds, which has not been written yet.
  let frame ← append (bufsiz - 1) frame.buf2 frame
  let frame ← toCharArray (uidString tag.uid) frame
  let shown ← text frame.buf
  let frame ← print (format "\"UID\": \"" shown "\"") frame
  let cycled ← pushMessage binaryToString tag.message frame
  let frame ← endJson cycled
  text frame.ndefJson

/-- `NdefJson` is an automatic array without an initializer. -/
def ndefJson : Buffer := unwritten (2 * 2048 + 1)

/-! What is to be pushed. -/

def hexForm (payload : List Byte) : List Byte :=
  payload.flatMap fun byte => [upperDigit (byte.toNat / 16), upperDigit (byte.toNat % 16)]

def recordName (i : Nat) : List Byte := ascii "NDEF Record " ++ decimal (i + 1)

/-- The member of a record, with the strings as they are. -/
def recordText (i : Nat) (record : Record) : List Byte :=
  ascii "\"" ++ recordName i ++ ascii "\": \x7b \"TNF\": \"" ++ hexadecimal record.tnf.toNat ++
    ascii "\",\"Type\": \"" ++ record.type ++ ascii "\",\"Hex Payload\": \"" ++
    hexForm record.payload ++ ascii "\"\x7d,"

def headText (tag : Tag) : List Byte :=
  format "\x7b\"TagType\": \"" tag.tagType.chars "\"," ++
    format "\"UID\": \"" (uidString tag.uid) "\""

/-- The records up to this one and what goes before them leave room for the end. -/
def Fits (tag : Tag) (records : List Record) (i : Nat) : Prop :=
  (headText tag).length + (((records.take (i + 1)).mapIdx recordText).flatten).length + 40 ≤ 4096

structure Shows (members : Members) (i : Nat) (record : Record) : Prop where
  found : ∃ inner, members.find (recordName i) = some (.object inner) ∧
    inner.find (ascii "TNF") = some (.string (hexadecimal record.tnf.toNat)) ∧
    inner.find (ascii "Type") = some (.string record.type) ∧
    inner.find (ascii "Hex Payload") = some (.string (hexForm record.payload))

/-- The call ends without a fault, with a JSON object that has the records that fit. -/
def Published (binaryToString : BinaryToString) (ndefJson : Buffer) (tag : Tag) : Prop :=
  ∃ pushed, pushNdef binaryToString ndefJson tag = .ok pushed ∧
    ∃ members, (Value.object members).Written pushed ∧
      ∀ records, tag.message = some records → ∀ i record, records[i]? = some record →
        Fits tag records i → Shows members i record

/-! What a call that ends without a fault has done. -/

section Ends

variable {α β : Type} {binaryToString : BinaryToString} {chars : List Byte} {frame after : Frame}

theorem bind_ok {first : Except Fault α} {next : α → Except Fault β} {result : β}
    (ran : (first >>= next) = .ok result) : ∃ value, first = .ok value ∧ next value = .ok result := by
  cases first with
  | error fault => exact nomatch ran
  | ok value => exact ⟨value, rfl, ran⟩

theorem toCharArray_json (ran : toCharArray chars frame = .ok after) :
    after.ndefJson = frame.ndefJson := by
  obtain ⟨buf, _, same⟩ := bind_ok ran
  rw [← Except.ok.inj same]

theorem snprintf_json (ran : snprintf chars frame = .ok after) : after.ndefJson = frame.ndefJson := by
  obtain ⟨buf2, _, same⟩ := bind_ok ran
  rw [← Except.ok.inj same]

/-- The first piece is added behind a text that is there already. -/
theorem pushNdef_text {json : Buffer} {tag : Tag} {pushed : List Byte}
    (ran : pushNdef binaryToString json tag = .ok pushed) : ∃ before, text json = .ok before := by
  obtain ⟨first, copied, ran⟩ := bind_ok ran
  obtain ⟨_, _, ran⟩ := bind_ok ran
  obtain ⟨second, printed, ran⟩ := bind_ok ran
  obtain ⟨_, added, _⟩ := bind_ok ran
  obtain ⟨_, joined, _⟩ := bind_ok added
  obtain ⟨before, found, _⟩ := bind_ok joined
  rw [snprintf_json printed, toCharArray_json copied] at found
  exact ⟨before, found⟩

/-- The type of a record is copied with a count of nearly `BUFSIZ` into nine bytes. -/
theorem pushRecord_faults (i recordCount : Nat) (record : Record) (frame : Frame)
    (result : Frame × Bool) :
    pushRecord binaryToString i recordCount record frame ≠ .ok result := by
  intro ran
  obtain ⟨_, _, ran⟩ := bind_ok ran
  obtain ⟨_, _, ran⟩ := bind_ok ran
  obtain ⟨_, _, ran⟩ := bind_ok ran
  obtain ⟨_, _, ran⟩ := bind_ok ran
  obtain ⟨_, _, ran⟩ := bind_ok ran
  obtain ⟨type, copied, _⟩ := bind_ok ran
  exact strncpy_small (by rw [unwritten, List.length_replicate]; decide) _ type copied

/-- Whatever the buffers hold before, a tag with a record makes the call go past a
buffer's end. -/
theorem pushNdef_record_faults {json : Buffer} {tag : Tag} {record : Record} {records : List Record}
    (has : tag.message = some (record :: records)) (pushed : List Byte) :
    pushNdef binaryToString json tag ≠ .ok pushed := by
  intro ran
  obtain ⟨_, _, ran⟩ := bind_ok ran
  obtain ⟨_, _, ran⟩ := bind_ok ran
  obtain ⟨_, _, ran⟩ := bind_ok ran
  obtain ⟨_, _, ran⟩ := bind_ok ran
  obtain ⟨_, _, ran⟩ := bind_ok ran
  obtain ⟨_, _, ran⟩ := bind_ok ran
  obtain ⟨_, _, ran⟩ := bind_ok ran
  obtain ⟨_, cycled, _⟩ := bind_ok ran
  rw [has] at cycled
  obtain ⟨_, _, looped⟩ := bind_ok cycled
  obtain ⟨round, one, _⟩ := bind_ok looped
  exact pushRecord_faults _ _ _ _ round one

end Ends

/-! A call that finds an empty text in `NdefJson`. -/

section Started

variable {frame : Frame} {before chars : List Byte}

/-- The buffers with their sizes, and a text in `NdefJson`. -/
structure Sound (frame : Frame) (before : List Byte) : Prop where
  holds : Holds before frame.ndefJson
  ndefJson : frame.ndefJson.length = 4097
  buf : frame.buf.length = bufsiz
  buf2 : frame.buf2.length = bufsiz

theorem take_short (short : chars.length < bufsiz) : chars.take (bufsiz - 1) = chars := by
  apply List.take_of_length_le
  omega

theorem toCharArray_sound (sound : Sound frame before) (clean : 0 ∉ chars)
    (short : chars.length < bufsiz) :
    ∃ after, toCharArray chars frame = .ok after ∧ text after.buf = .ok chars ∧
      Sound after before := by
  obtain ⟨buf, stored, holds, length⟩ := store_holds clean (sound.buf ▸ short)
  refine ⟨{ frame with buf := buf }, ?_, text_holds holds, { sound with buf := ?_ }⟩
  · rw [toCharArray, take_short short, stored]
    rfl
  · rw [length, sound.buf]

theorem snprintf_sound (sound : Sound frame before) (clean : 0 ∉ chars)
    (short : chars.length < bufsiz) :
    ∃ after, snprintf chars frame = .ok after ∧ Holds chars after.buf2 ∧ Sound after before := by
  obtain ⟨buf2, stored, holds, length⟩ := store_holds clean (sound.buf2 ▸ short)
  refine ⟨{ frame with buf2 := buf2 }, ?_, holds, { sound with buf2 := ?_ }⟩
  · rw [snprintf, take_short short, stored]
    rfl
  · rw [length, sound.buf2]

theorem append_sound {count : Nat} {src : Buffer} (sound : Sound frame before) (holds : Holds chars src)
    (room : before.length + chars.length < 4097) (all : chars.length ≤ count) :
    ∃ after, append count src frame = .ok after ∧ Sound after (before ++ chars) := by
  obtain ⟨json, joined, text, length⟩ := strncat_holds holds sound.holds (sound.ndefJson ▸ room) all
  refine ⟨{ frame with ndefJson := json }, ?_, { sound with holds := text, ndefJson := ?_ }⟩
  · rw [append, joined]
    rfl
  · rw [length, sound.ndefJson]

theorem print_sound (sound : Sound frame before) (clean : 0 ∉ chars)
    (room : before.length + chars.length < 4097) :
    ∃ after, print chars frame = .ok after ∧ Sound after (before ++ chars) := by
  have small : bufsiz = 8192 := rfl
  obtain ⟨middle, printed, holds, sound⟩ := snprintf_sound sound clean (by omega)
  obtain ⟨after, added, sound⟩ := append_sound sound holds room (show _ ≤ bufsiz by omega)
  refine ⟨after, ?_, sound⟩
  rw [print, printed]
  exact added

theorem format_clean {first last : String} (left : 0 ∉ ascii first) (clean : 0 ∉ chars)
    (right : 0 ∉ ascii last) : 0 ∉ format first chars last := by
  intro zero
  rcases List.mem_append.mp zero with front | end_part
  · exact (List.mem_append.mp front).elim left clean
  · exact right end_part

theorem format_length (first : String) (chars : List Byte) (last : String) :
    (format first chars last).length = (ascii first).length + chars.length + (ascii last).length := by
  rw [format, List.length_append, List.length_append]

theorem plain_clean (plain : ∀ char ∈ chars, Plain char) : 0 ∉ chars :=
  fun zero => absurd (plain 0 zero) (by decide)

theorem uidString_plain (uid : List Byte) : ∀ char ∈ uidString uid, Plain char := by
  have digit : ∀ digit < 16, Plain (upperDigit digit) := by decide
  have one (byte : Byte) : ∀ char ∈ uidByte byte, Plain char := by
    have bound : byte.toNat < 256 := byte.isLt
    intro char member
    rcases List.mem_append.mp member with zero | rest
    · split at zero
      · rw [List.mem_singleton.mp zero]
        decide
      · exact absurd zero List.not_mem_nil
    · split at rest
      · rename_i small
        rw [List.mem_singleton.mp rest]
        exact digit _ small
      · rcases List.mem_cons.mp rest with rfl | last
        · exact digit _ (by omega)
        · rw [List.mem_singleton.mp last]
          exact digit _ (by omega)
  fun_induction uidString uid with
  | case1 => exact fun char member => absurd member List.not_mem_nil
  | case2 byte => exact one byte
  | case3 byte rest _ ih =>
      intro char member
      rcases List.mem_append.mp member with first | others
      · exact one byte char first
      · rcases List.mem_cons.mp others with rfl | later
        · decide
        · exact ih char later

/-- The one case that comes to its end: the array starts with a zero byte, and a tag
without a message has a type to be shown as it is. -/
theorem published_started (binaryToString : BinaryToString) {json : Buffer} {tag : Tag}
    (empty : Holds [] json) (size : json.length = 4097) (bare : tag.message = none)
    (plain : ∀ char ∈ tag.tagType.chars, Plain char) (fits : (headText tag).length ≤ 4095) :
    Published binaryToString json tag := by
  have small : bufsiz = 8192 := rfl
  have uidPlain := uidString_plain tag.uid
  have typeClean := plain_clean plain
  have uidClean := plain_clean uidPlain
  have oneClean : 0 ∉ format "\x7b\"TagType\": \"" tag.tagType.chars "\"," :=
    format_clean (by decide) typeClean (by decide)
  have twoClean : 0 ∉ format "\"UID\": \"" (uidString tag.uid) "\"" :=
    format_clean (by decide) uidClean (by decide)
  have oneLength := format_length "\x7b\"TagType\": \"" tag.tagType.chars "\","
  have twoLength := format_length "\"UID\": \"" (uidString tag.uid) "\""
  rw [headText, List.length_append] at fits
  have sound : Sound ⟨json, unwritten bufsiz, unwritten bufsiz⟩ [] :=
    ⟨empty, size, List.length_replicate, List.length_replicate⟩
  -- The type, the UID and the last brace, each behind what is held so far.
  obtain ⟨f1, ran1, text1, sound⟩ := toCharArray_sound sound typeClean (by omega)
  obtain ⟨f2, ran2, held, sound⟩ := snprintf_sound sound oneClean (by omega)
  obtain ⟨f3, ran3, sound⟩ := append_sound sound held (by rw [List.length_nil]; omega)
    (show _ ≤ bufsiz - 1 by omega)
  obtain ⟨f4, ran4, text4, sound⟩ := toCharArray_sound sound uidClean (by omega)
  obtain ⟨f5, ran5, sound⟩ := print_sound sound twoClean (by rw [List.nil_append]; omega)
  have brace : Holds (ascii "\x7d") (literal (ascii "\x7d")) := ⟨by decide, [], rfl⟩
  have one : (ascii "\x7d").length = 1 := by decide
  obtain ⟨f6, ran6, sound⟩ := append_sound sound brace
    (by rw [List.nil_append, List.length_append]; omega) (Nat.le_of_eq one)
  refine ⟨headText tag ++ ascii "\x7d", ?_, .cons (ascii "TagType") (.string tag.tagType.chars)
    (.cons (ascii "UID") (.string (uidString tag.uid)) .nil), ?_, ?_⟩
  · have pushed := text_holds sound.holds
    rw [List.nil_append] at pushed
    simp only [pushNdef, bind, Except.bind, ran1, text1, ran2, ran3, ran4, text4, ran5, bare,
      pushMessage, endJson, ran6, pushed, headText]
  · have space : Spaces [32] := by
      intro byte member
      rw [List.mem_singleton.mp member]
      decide
    have typeKey : ∀ char ∈ ascii "TagType", Plain char := by decide
    have uidKey : ∀ char ∈ ascii "UID", Plain char := by decide
    rw [Value.Written]
    refine ⟨_, ⟨_, _, _, padded_self (quoted_plain typeKey), padded_before space (quoted_plain plain),
      ⟨_, _, padded_self (quoted_plain uidKey), padded_before space (quoted_plain uidPlain), rfl⟩, rfl⟩, ?_⟩
    simp [headText, format, ascii, quote, colon, comma]
  · intro records message
    rw [bare] at message
    exact absurd message (by simp)

end Started

/-- Every call reads `NdefJson` before anything is written there. -/
theorem never_published (binaryToString : BinaryToString) (tag : Tag) :
    ¬ Published binaryToString ndefJson tag := by
  rintro ⟨pushed, ran, _⟩
  obtain ⟨before, found⟩ := pushNdef_text ran
  exact nomatch found

/-- A tag without a message, whose type and number of seven bytes would fit many times. -/
theorem bare_tag_unwritten : ¬ ∀ binaryToString tag, Published binaryToString ndefJson tag := by
  intro published
  obtain ⟨pushed, ran, _⟩ := published (fun _ => none)
    ⟨⟨[78, 88, 80], by decide⟩, [4, 0xA1, 2, 3, 4, 5, 0x80], none⟩
  obtain ⟨before, found⟩ := pushNdef_text ran
  exact nomatch found

end MangOH.PushNdef
