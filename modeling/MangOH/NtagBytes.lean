import MangOH.NtagTransfers

/-!
The tag as an array of bytes. The block functions are followed with what the other model
of them leaves out: a copy that leaves its buffers is no result, and the blocks that a call
reaches are kept. Where there is a result, it is that of the other model.
-/

namespace MangOH.Nfc

open Blocks

/-- The byte at an address, which counts through the blocks. -/
def byteAt (memory : Content) (address : Nat) : Option Byte :=
  (memory (address / 16)).items[address % 16]?

/-- The bus, and the blocks that were read or written. -/
structure Wire where
  bus : Bus
  touched : List Nat

def Wire.start (memory : Content) : Wire := ⟨Bus.start memory, []⟩

/-- A copy into a buffer from a place on, of a source that has no more than its bytes. -/
def memcpy (buffer : List Byte) (place : Nat) (source : List Byte) (length : Nat) :
    Option (List Byte) :=
  if place + length ≤ buffer.length ∧ length ≤ source.length then
    some (buffer.take place ++ source.take length ++ buffer.drop (place + length))
  else none

namespace Checked

variable (works : Nat → Bool)

def readBlock (dt : DeviceType) (bt : BlockType) (blockNr : Nat) (wire : Wire) :
    Option (List Byte) × Wire :=
  let block := Nfc.readBlock works dt bt blockNr ntagBlockSize wire.bus
  (block.1, ⟨block.2, wire.touched ++ [blockNr]⟩)

def writeBlock (dt : DeviceType) (bt : BlockType) (blockNr : Nat) (data : List Byte) (wire : Wire) :
    Bool × Wire :=
  let written := Nfc.writeBlock works dt bt blockNr data wire.bus
  (written.1, ⟨written.2, wire.touched ++ [blockNr]⟩)

/-- A block is read, changed from a place on and written. -/
def patch (dt : DeviceType) (bt : BlockType) (blockNr place : Nat) (data : List Byte)
    (writeLength : Nat) (wire : Wire) : Option (Bool × Wire) :=
  let block := readBlock works dt bt blockNr wire
  match block.1 with
  | none => some (false, block.2)
  | some readbuffer =>
      (memcpy readbuffer place data writeLength).map fun merged =>
        writeBlock works dt bt blockNr merged block.2

def writeLoop (dt : DeviceType) (bt : BlockType) :
    Nat → Nat → List Byte → Wire → Option (Bool × Nat × Wire)
  | 0, blockNr, _, wire => some (true, blockNr, wire)
  | left + 1, blockNr, data, wire =>
      if data = [] then some (true, blockNr, wire)
      else
        let writeLength := if ntagBlockSize < data.length then ntagBlockSize else data.length
        let written :=
          if writeLength = ntagBlockSize then
            some (writeBlock works dt bt blockNr (data.take ntagBlockSize) wire)
          else patch works dt bt blockNr 0 data writeLength wire
        match written with
        | none => none
        | some (false, wire) => some (false, blockNr, wire)
        | some (true, wire) => writeLoop dt bt left (blockNr + 1) (data.drop writeLength) wire

def writeRest (ntag : Ntag) (bt : BlockType) (blockNr : Nat) (data : List Byte) (wire : Wire) :
    Option (Bool × Ntag × Wire) :=
  (writeLoop works ntag.dt bt data.length blockNr data wire).map fun loop =>
    if loop.1 then (true, { ntag with lastMemBlockWritten := (loop.2.1 + 255) % 256 }, loop.2.2)
    else (false, ntag, loop.2.2)

/-- `Ntag::write` of all of `data`, which is what `pdata` points to. -/
def write (ntag : Ntag) (bt : BlockType) (byteAddress : Nat) (data : List Byte) (wire : Wire) :
    Option (Bool × Ntag × Wire) :=
  let blockNr := byteAddress / ntagBlockSize % 256
  let offset := byteAddress % ntagBlockSize
  if offset ≠ 0 then
    -- The larger of the two lengths is chosen.
    let writeLength := if ntagBlockSize - offset < data.length then data.length else ntagBlockSize - offset
    match patch works ntag.dt bt blockNr offset data writeLength wire with
    | none => none
    | some (false, wire) => some (false, ntag, wire)
    | some (true, wire) => writeRest works ntag bt (blockNr + 1) (data.drop writeLength) wire
  else writeRest works ntag bt blockNr data wire

/-- A copy ends inside `readbuffer` and inside what is left of `pdata`. -/
def readLoop (dt : DeviceType) (bt : BlockType) (eb : Nat) :
    Nat → Nat → Nat → Nat → Wire → Option (Bool × List Byte × Wire)
  | 0, _, _, _, wire => some (true, [], wire)
  | left + 1, i, byteAddress, length, wire =>
      let block := readBlock works dt bt i wire
      match block.1 with
      | none => some (false, [], block.2)
      | some readbuffer =>
          -- Both of the last two blocks are copied from the place of the address in its block.
          let offset := if i = eb ∨ i + 1 = eb then byteAddress % ntagBlockSize else 0
          let readLength := if i = eb then length else ntagBlockSize - offset
          if readbuffer.length < offset + readLength ∨ length < readLength then none
          else
            (readLoop dt bt eb left (i + 1) (byteAddress + readLength) (length - readLength)
              block.2).map fun rest =>
                (rest.1, (readbuffer.drop offset).take readLength ++ rest.2.1, rest.2.2)

def read (ntag : Ntag) (bt : BlockType) (byteAddress length : Nat) (wire : Wire) :
    Option (Bool × List Byte × Wire) :=
  let sb := byteAddress / ntagBlockSize
  let eb := (byteAddress + length - 1) / ntagBlockSize
  readLoop works ntag.dt bt eb (eb + 1 - sb % 256) (sb % 256) byteAddress length wire

end Checked

/-! What the functions are to do. -/

def firstBlock : BlockType → Nat
  | .sram => 0xF8
  | _ => 1

def lastBlock : DeviceType → BlockType → Nat
  | _, .sram => 0xFB
  | .ntagI2c1K, _ => 0x38
  | .ntagI2c2K, _ => 0x7F

/-- Data for addresses inside one area of the memory. -/
structure Span (dt : DeviceType) where
  bt : BlockType
  address : Nat
  data : List Byte
  area : bt = .usermem ∨ bt = .sram
  short : data.length ≤ 255
  low : 16 * firstBlock bt ≤ address
  high : address + data.length ≤ 16 * (lastBlock dt bt + 1)

namespace Span

variable {dt : DeviceType} (span : Span dt)

def Has (address : Nat) : Prop :=
  span.address ≤ address ∧ address < span.address + span.data.length

instance (address : Nat) : Decidable (span.Has address) := inferInstanceAs (Decidable (_ ∧ _))

/-- Every block that a call reached has a byte of the span. -/
def Reaches (wire : Wire) : Prop :=
  ∀ block ∈ wire.touched, ∃ address, span.Has address ∧ address / 16 = block

/-- The memory is that before, with the data at its addresses. -/
def Stored (before after : Content) : Prop :=
  ∀ address, byteAt after address =
    if span.Has address then span.data[address - span.address]? else byteAt before address

end Span

def always : Nat → Bool := fun _ => true

/-- A read gives the bytes that are stored and changes none. -/
def ReadExact (ntag : Ntag) (memory : Content) (span : Span ntag.dt) : Prop :=
  ∃ bytes wire, Checked.read always ntag span.bt span.address span.data.length (.start memory) =
      some (true, bytes, wire) ∧
    bytes.length = span.data.length ∧
    (∀ place < span.data.length, bytes[place]? = byteAt memory (span.address + place)) ∧
    wire.bus.memory = memory ∧ span.Reaches wire

/-- A write stores the data and nothing else, notes its last block, and the data is read
back. -/
def WriteExact (ntag : Ntag) (memory : Content) (span : Span ntag.dt) : Prop :=
  ∃ after wire, Checked.write always ntag span.bt span.address span.data (.start memory) =
      some (true, after, wire) ∧
    span.Stored memory wire.bus.memory ∧ span.Reaches wire ∧
    (span.data ≠ [] → after.lastMemBlockWritten = (span.address + span.data.length - 1) / 16) ∧
    ∃ again, Checked.read always after span.bt span.address span.data.length
        (.start wire.bus.memory) = some (true, span.data, again)

/-- A write starts with a block, or ends with the block it starts in. -/
def Span.Writable {dt : DeviceType} (span : Span dt) : Prop :=
  span.address % 16 = 0 ∨ span.address % 16 + span.data.length = 16

/-- A read starts with a block; or it has two blocks at most; or what it copies from the
start of each block before them is what follows at its own offset. -/
def Span.Readable {dt : DeviceType} (span : Span dt) (memory : Content) : Prop :=
  span.address % 16 = 0 ∨ span.data ≠ [] ∧
    ∀ place < 16 * ((span.address + span.data.length - 1) / 16 - 1 - span.address / 16),
      byteAt memory (16 * (span.address / 16) + place) = byteAt memory (span.address + place)

/-! The other model, wherever there is a result. -/

section Results

variable {works : Nat → Bool} {dt : DeviceType} {bt : BlockType}

theorem readBlock_full {blockNr : Nat} {bus : Bus} {bytes : List Byte}
    (found : (readBlock works dt bt blockNr ntagBlockSize bus).1 = some bytes) : bytes.length = 16 := by
  by_cases valid : isAddressValid dt bt blockNr = true
  · rw [readBlock_valid valid (by decide) (Nat.le_refl 16)] at found
    split at found
    · rw [← Option.some.inj found, List.length_take, (bus.memory blockNr).full]
      rfl
    · exact absurd found (by simp)
  · rw [readBlock_invalid valid] at found
    exact absurd found (by simp)

/-- What a patch that has a result did. -/
theorem checked_patch {blockNr place writeLength : Nat} {data : List Byte} {wire after : Wire} {ok : Bool}
    (ran : Checked.patch works dt bt blockNr place data writeLength wire = some (ok, after)) :
    let block := readBlock works dt bt blockNr ntagBlockSize wire.bus
    (block.1 = none ∧ ok = false ∧ after.bus = block.2) ∨
      ∃ readbuffer, block.1 = some readbuffer ∧ place + writeLength ≤ 16 ∧ writeLength ≤ data.length ∧
        writeBlock works dt bt blockNr (readbuffer.take place ++ data.take writeLength ++
          readbuffer.drop (place + writeLength)) block.2 = (ok, after.bus) := by
  simp only [Checked.patch, Checked.readBlock, memcpy] at ran
  cases found : (readBlock works dt bt blockNr ntagBlockSize wire.bus).1 with
  | none =>
      simp only [found] at ran
      obtain ⟨rfl, rfl⟩ := Prod.mk.inj (Option.some.inj ran)
      exact .inl ⟨found, rfl, rfl⟩
  | some readbuffer =>
      have whole := readBlock_full found
      simp only [found] at ran
      split at ran
      · rename_i inside
        simp only [Option.map_some, Checked.writeBlock] at ran
        obtain ⟨rfl, rfl⟩ := Prod.mk.inj (Option.some.inj ran)
        exact .inr ⟨readbuffer, found, by omega, inside.2, rfl⟩
      · exact absurd ran (by simp)

theorem chunk_full {data : List Byte} (full : 16 ≤ data.length) :
    (if ntagBlockSize < data.length then ntagBlockSize else data.length) = 16 := by
  unfold ntagBlockSize
  split <;> omega

theorem chunk_part {data : List Byte} (part : data.length < 16) :
    (if ntagBlockSize < data.length then ntagBlockSize else data.length) = data.length := by
  unfold ntagBlockSize
  exact if_neg (by omega)

theorem checked_writeLoop (left : Nat) {blockNr next : Nat} {data : List Byte} {wire after : Wire}
    {ok : Bool} (ran : Checked.writeLoop works dt bt left blockNr data wire = some (ok, next, after)) :
    writeLoop works dt bt left blockNr data wire.bus = (ok, next, after.bus) := by
  induction left generalizing blockNr data wire with
  | zero =>
      obtain ⟨rfl, rfl, rfl⟩ : true = ok ∧ blockNr = next ∧ wire = after := by
        simpa [Checked.writeLoop] using ran
      rfl
  | succ left ih =>
      rw [Checked.writeLoop] at ran
      rw [writeLoop]
      by_cases empty : data = []
      · rw [if_pos empty] at ran ⊢
        obtain ⟨rfl, rfl, rfl⟩ : true = ok ∧ blockNr = next ∧ wire = after := by simpa using ran
        rfl
      rw [if_neg empty] at ran ⊢
      by_cases full : 16 ≤ data.length
      · -- A whole block is written as it comes.
        have length := chunk_full full
        have whole : (data.take 16).length = 16 := by
          rw [List.length_take]
          omega
        simp only [ntagBlockSize, whole, if_true] at length ⊢
        simp only [length, if_true, Checked.writeBlock] at ran
        cases written : (writeBlock works dt bt blockNr (data.take 16) wire.bus).1 with
        | false =>
            simp only [written] at ran
            obtain ⟨rfl, rfl, rfl⟩ : false = ok ∧ blockNr = next ∧ _ = after := by simpa using ran
            rfl
        | true =>
            simp only [written] at ran
            exact ih ran
      · -- A part of one goes into what the block has.
        have part : data.length < 16 := Nat.lt_of_not_le full
        have short : data.length ≠ 16 := Nat.ne_of_lt part
        have chunk : data.take 16 = data := List.take_of_length_le (Nat.le_of_lt part)
        have rest : data.drop 16 = data.drop data.length := by
          rw [List.drop_length, List.drop_eq_nil_of_le (Nat.le_of_lt part)]
        have length := chunk_part part
        simp only [length, short, if_false] at ran
        simp only [ntagBlockSize, chunk, short, if_false, rest]
        cases patched : Checked.patch works dt bt blockNr 0 data data.length wire with
        | none =>
            rw [patched] at ran
            exact absurd ran (by simp)
        | some result =>
            obtain ⟨done, middle⟩ := result
            rw [patched] at ran
            rcases checked_patch patched with ⟨found, rfl, same⟩ | ⟨readbuffer, found, _, _, written⟩
            · obtain ⟨rfl, rfl, rfl⟩ : false = ok ∧ blockNr = next ∧ middle = after := by simpa using ran
              simp only [ntagBlockSize] at found same
              simp only [found, Option.map_none, same]
            · rw [List.take_zero, List.nil_append, List.take_length, Nat.zero_add] at written
              simp only [ntagBlockSize] at found written
              simp only [found, Option.map_some, written]
              cases done with
              | false =>
                  obtain ⟨rfl, rfl, rfl⟩ : false = ok ∧ blockNr = next ∧ middle = after := by
                    simpa using ran
                  rfl
              | true => exact ih ran

theorem checked_writeRest {ntag next : Ntag} {blockNr : Nat} {data : List Byte} {wire after : Wire}
    {ok : Bool} (ran : Checked.writeRest works ntag bt blockNr data wire = some (ok, next, after)) :
    writeRest works ntag bt blockNr data wire.bus = (ok, next, after.bus) := by
  obtain ⟨⟨done, block, wire'⟩, looped, same⟩ := Option.map_eq_some_iff.mp ran
  rw [writeRest, checked_writeLoop _ looped]
  cases done with
  | false =>
      obtain ⟨rfl, rfl, rfl⟩ : false = ok ∧ ntag = next ∧ wire' = after := by simpa using same
      rfl
  | true =>
      obtain ⟨rfl, rfl, rfl⟩ : true = ok ∧ _ = next ∧ wire' = after := by simpa using same
      rfl

/-- A write that stays inside its buffers is the write of the other model. -/
theorem checked_write {ntag next : Ntag} {byteAddress : Nat} {data : List Byte} (short : data.length ≤ 255)
    {wire after : Wire} {ok : Bool}
    (ran : Checked.write works ntag bt byteAddress data wire = some (ok, next, after)) :
    write works ntag bt byteAddress data (BitVec.ofNat 8 data.length) wire.bus =
      (ok, next, after.bus) := by
  have all : (BitVec.ofNat 8 data.length).toNat = data.length := by
    rw [BitVec.toNat_ofNat]
    exact Nat.mod_eq_of_lt (by omega)
  rw [Checked.write] at ran
  simp only [write, all, List.take_length]
  by_cases aligned : byteAddress % ntagBlockSize = 0
  · simp only [aligned, ne_eq, not_true_eq_false, if_false] at ran ⊢
    exact checked_writeRest ran
  simp only [aligned, ne_eq, not_false_eq_true, if_true] at ran ⊢
  -- The copy is as long as the larger of the data and the rest of the block.
  have same : (if ntagBlockSize - byteAddress % ntagBlockSize < data.length then data.length
      else ntagBlockSize - byteAddress % ntagBlockSize) =
        max (ntagBlockSize - byteAddress % ntagBlockSize) data.length := by
    split <;> omega
  rw [same] at ran
  have atLeast : data.length ≤ max (ntagBlockSize - byteAddress % ntagBlockSize) data.length :=
    Nat.le_max_right _ _
  generalize max (ntagBlockSize - byteAddress % ntagBlockSize) data.length = writeLength at ran atLeast ⊢
  cases patched : Checked.patch works ntag.dt bt (byteAddress / ntagBlockSize % 256)
      (byteAddress % ntagBlockSize) data writeLength wire with
  | none =>
      rw [patched] at ran
      exact absurd ran (by simp)
  | some result =>
      obtain ⟨done, middle⟩ := result
      rw [patched] at ran
      rcases checked_patch patched with ⟨found, rfl, same⟩ | ⟨readbuffer, found, fits, inside, written⟩
      · obtain ⟨rfl, rfl, rfl⟩ : false = ok ∧ ntag = next ∧ middle = after := by simpa using ran
        simp only [found, same]
      · obtain rfl : writeLength = data.length := Nat.le_antisymm inside atLeast
        have whole := readBlock_full found
        have full : (readbuffer.take (byteAddress % ntagBlockSize) ++ data.take data.length ++
            readbuffer.drop (byteAddress % ntagBlockSize + data.length)).take ntagBlockSize =
              readbuffer.take (byteAddress % ntagBlockSize) ++ data.take data.length ++
                readbuffer.drop (byteAddress % ntagBlockSize + data.length) := by
          apply List.take_of_length_le
          rw [List.take_length, List.length_append, List.length_append, List.length_take,
            List.length_drop]
          unfold ntagBlockSize at fits ⊢
          omega
        simp only [found, full, written]
        cases done with
        | false =>
            obtain ⟨rfl, rfl, rfl⟩ : false = ok ∧ ntag = next ∧ middle = after := by simpa using ran
            rfl
        | true => exact checked_writeRest ran

theorem checked_readLoop (left : Nat) {eb i byteAddress length : Nat} {wire after : Wire} {ok : Bool}
    {bytes : List Byte}
    (ran : Checked.readLoop works dt bt eb left i byteAddress length wire = some (ok, bytes, after)) :
    readLoop works dt bt eb left i byteAddress length wire.bus = (ok, bytes, after.bus) := by
  induction left generalizing i byteAddress length wire bytes with
  | zero =>
      obtain ⟨rfl, rfl, rfl⟩ : true = ok ∧ [] = bytes ∧ wire = after := by
        simpa [Checked.readLoop] using ran
      rfl
  | succ left ih =>
      simp only [Checked.readLoop, Checked.readBlock] at ran
      rw [readLoop]
      cases found : (readBlock works dt bt i ntagBlockSize wire.bus).1 with
      | none =>
          simp only [found] at ran
          obtain ⟨rfl, rfl, rfl⟩ : false = ok ∧ [] = bytes ∧ _ = after := by simpa using ran
          rfl
      | some readbuffer =>
          simp only [found] at ran
          dsimp only
          generalize (if i = eb ∨ i + 1 = eb then byteAddress % ntagBlockSize else 0) = offset at ran ⊢
          generalize (if i = eb then length else ntagBlockSize - offset) = readLength at ran ⊢
          split at ran
          · exact absurd ran (by simp)
          · obtain ⟨⟨done, rest, last⟩, looped, same⟩ := Option.map_eq_some_iff.mp ran
            obtain ⟨rfl, rfl, rfl⟩ : done = ok ∧ _ = bytes ∧ last = after := by simpa using same
            simp only [ih looped]

/-- So is a read. -/
theorem checked_read {ntag : Ntag} {byteAddress : Nat} {length : Byte} {wire after : Wire} {ok : Bool}
    {bytes : List Byte}
    (ran : Checked.read works ntag bt byteAddress length.toNat wire = some (ok, bytes, after)) :
    read works ntag bt byteAddress length wire.bus = (ok, bytes, after.bus) :=
  checked_readLoop _ ran

end Results

/-! Writing. -/

/-- Data at its addresses, and the blocks reached for it. -/
structure Placed (before after : Wire) (start : Nat) (data : List Byte) : Prop where
  bytes : ∀ address, byteAt after.bus.memory address =
    if start ≤ address ∧ address < start + data.length then data[address - start]?
    else byteAt before.bus.memory address
  reached : ∃ more, after.touched = before.touched ++ more ∧
    ∀ block ∈ more, ∃ address, (start ≤ address ∧ address < start + data.length) ∧
      address / 16 = block

theorem placed_nil (wire : Wire) (start : Nat) : Placed wire wire start [] where
  bytes address := by
    rw [if_neg]
    rintro ⟨low, high⟩
    rw [List.length_nil] at high
    omega
  reached := ⟨[], by simp⟩

theorem placed_append {before middle after : Wire} {start : Nat} {first second : List Byte}
    (left : Placed before middle start first)
    (right : Placed middle after (start + first.length) second) :
    Placed before after start (first ++ second) := by
  constructor
  · intro address
    rw [right.bytes, left.bytes, List.length_append]
    by_cases early : address < start + first.length
    · rw [if_neg (by omega)]
      by_cases low : start ≤ address
      · rw [if_pos ⟨low, early⟩, if_pos ⟨low, by omega⟩, List.getElem?_append_left (by omega)]
      · rw [if_neg (by omega), if_neg (by omega)]
    · by_cases late : address < start + first.length + second.length
      · rw [if_pos ⟨by omega, late⟩, if_pos ⟨by omega, by omega⟩,
          List.getElem?_append_right (by omega)]
        congr 1
        omega
      · rw [if_neg (by omega), if_neg (by omega), if_neg (by omega)]
  · obtain ⟨one, oneTouched, oneIn⟩ := left.reached
    obtain ⟨two, twoTouched, twoIn⟩ := right.reached
    refine ⟨one ++ two, by rw [twoTouched, oneTouched, List.append_assoc], ?_⟩
    intro block member
    rw [List.length_append]
    rcases List.mem_append.mp member with early | late
    · obtain ⟨address, inside, same⟩ := oneIn block early
      exact ⟨address, by omega, same⟩
    · obtain ⟨address, inside, same⟩ := twoIn block late
      exact ⟨address, by omega, same⟩

/-- Data in place of what was there. -/
def splice (items : List Byte) (place : Nat) (data : List Byte) : List Byte :=
  items.take place ++ data ++ items.drop (place + data.length)

theorem splice_length {items data : List Byte} {place : Nat}
    (fits : place + data.length ≤ items.length) : (splice items place data).length = items.length := by
  rw [splice, List.length_append, List.length_append, List.length_take, List.length_drop]
  omega

theorem splice_get {items data : List Byte} {place : Nat} (fits : place + data.length ≤ items.length)
    (index : Nat) : (splice items place data)[index]? =
      if place ≤ index ∧ index < place + data.length then data[index - place]? else items[index]? := by
  have front : (items.take place).length = place := by
    rw [List.length_take]
    omega
  rw [splice, List.append_assoc]
  by_cases early : index < place
  · rw [List.getElem?_append_left (by omega), List.getElem?_take_of_lt early, if_neg (by omega)]
  · rw [List.getElem?_append_right (by omega), front]
    by_cases inside : index - place < data.length
    · rw [List.getElem?_append_left inside, if_pos (by omega)]
    · rw [List.getElem?_append_right (by omega), List.getElem?_drop, if_neg (by omega)]
      congr 1
      omega

theorem memcpy_all {buffer data : List Byte} {place : Nat}
    (fits : place + data.length ≤ buffer.length) :
    memcpy buffer place data data.length = some (splice buffer place data) := by
  rw [memcpy, if_pos ⟨fits, Nat.le_refl _⟩, List.take_length, splice]

/-- A block that was merged with the data and written. -/
theorem placed_merge {before after : Wire} {blockNr place : Nat} {data : List Byte}
    (some_data : data ≠ []) (fits : place + data.length ≤ 16)
    (memory : ∀ key, (after.bus.memory key).items =
      if key = blockNr then splice (before.bus.memory key).items place data
      else (before.bus.memory key).items)
    {more : List Nat} (touched : after.touched = before.touched ++ more)
    (own : ∀ block ∈ more, block = blockNr) :
    Placed before after (16 * blockNr + place) data := by
  have positive : 0 < data.length := List.length_pos_iff.mpr some_data
  constructor
  · intro address
    have full : (before.bus.memory (address / 16)).items.length = 16 :=
      (before.bus.memory (address / 16)).full
    rw [byteAt, byteAt, memory]
    by_cases here : address / 16 = blockNr
    · rw [if_pos here, splice_get (by omega)]
      by_cases inside : place ≤ address % 16 ∧ address % 16 < place + data.length
      · rw [if_pos inside, if_pos (by omega)]
        congr 1
        omega
      · rw [if_neg inside, if_neg (by omega)]
    · rw [if_neg here, if_neg (by omega)]
  · refine ⟨more, touched, fun block member => ?_⟩
    obtain rfl := own block member
    exact ⟨16 * block + place, by omega, by omega⟩

namespace Checked

variable {dt : DeviceType} {bt : BlockType} {blockNr : Nat}

theorem readBlock_always (valid : isAddressValid dt bt blockNr = true) (wire : Wire) :
    readBlock always dt bt blockNr wire =
      (some (wire.bus.memory blockNr).items, ⟨wire.bus.count, wire.touched ++ [blockNr]⟩) := by
  have items : (wire.bus.memory blockNr).items.take 16 = (wire.bus.memory blockNr).items :=
    List.take_of_length_le (Nat.le_of_eq (wire.bus.memory blockNr).full)
  rw [readBlock, readBlock_valid valid (by decide) (Nat.le_refl 16), items]
  rfl

theorem writeBlock_always (valid : isAddressValid dt bt blockNr = true) {block : List Byte}
    (full : block.length = 16) (wire : Wire) :
    writeBlock always dt bt blockNr block wire =
      (true, ⟨wire.bus.count.receive (BitVec.ofNat 8 blockNr :: block), wire.touched ++ [blockNr]⟩) := by
  rw [writeBlock, writeBlock_valid valid full]
  rfl

/-- What a written block leaves in the memory. -/
theorem receive_items (valid : isAddressValid dt bt blockNr = true) {block : List Byte}
    (full : block.length = 16) (bus : Bus) (key : Nat) :
    ((bus.receive (BitVec.ofNat 8 blockNr :: block)).memory key).items =
      if key = blockNr then block else (bus.memory key).items := by
  rw [receive_block (valid_lt valid) full]
  by_cases same : key = blockNr
  · rw [if_pos same, same, set_self]
  · rw [if_neg same, set_other _ _ same]

theorem writeBlock_placed (valid : isAddressValid dt bt blockNr = true) {block : List Byte}
    (full : block.length = 16) (wire : Wire) :
    ∃ after, writeBlock always dt bt blockNr block wire = (true, after) ∧
      Placed wire after (16 * blockNr) block := by
  refine ⟨_, writeBlock_always valid full wire, ?_⟩
  change Placed wire _ (16 * blockNr + 0) block
  apply placed_merge (List.ne_nil_of_length_pos (by omega)) (by omega) _ rfl (by simp)
  intro key
  have rest : (wire.bus.memory key).items.drop (0 + block.length) = [] :=
    List.drop_eq_nil_of_le (by rw [(wire.bus.memory key).full]; omega)
  rw [receive_items valid full, splice, rest, List.take_zero, List.nil_append, List.append_nil]
  rfl

theorem patch_placed (valid : isAddressValid dt bt blockNr = true) {place : Nat} {data : List Byte}
    (some_data : data ≠ []) (fits : place + data.length ≤ 16) (wire : Wire) :
    ∃ after, patch always dt bt blockNr place data data.length wire = some (true, after) ∧
      Placed wire after (16 * blockNr + place) data := by
  have whole : (wire.bus.memory blockNr).items.length = 16 := (wire.bus.memory blockNr).full
  have room : place + data.length ≤ (wire.bus.memory blockNr).items.length := by omega
  have full : (splice (wire.bus.memory blockNr).items place data).length = 16 := by
    rw [splice_length room, whole]
  refine ⟨⟨wire.bus.count.count.receive
      (BitVec.ofNat 8 blockNr :: splice (wire.bus.memory blockNr).items place data),
    wire.touched ++ [blockNr] ++ [blockNr]⟩, ?_, ?_⟩
  · simp only [patch, readBlock_always valid, memcpy_all room, Option.map_some,
      writeBlock_always valid full]
  · apply placed_merge some_data fits _ (List.append_assoc _ [blockNr] [blockNr]) (by simp)
    intro key
    rw [receive_items valid full]
    by_cases same : key = blockNr
    · rw [if_pos same, if_pos same, same]
    · rw [if_neg same, if_neg same]
      rfl

/-- The loop places its data block by block, the last part in a block that is read first. -/
theorem writeLoop_placed (left : Nat) {data : List Byte} {wire : Wire} (enough : data.length ≤ left)
    (valid : ∀ place < data.length, isAddressValid dt bt (blockNr + place / 16) = true) :
    ∃ after, writeLoop always dt bt left blockNr data wire =
        some (true, blockNr + count 16 data.length, after) ∧
      Placed wire after (16 * blockNr) data := by
  induction left generalizing blockNr data wire with
  | zero =>
      obtain rfl : data = [] := List.length_eq_zero_iff.mp (Nat.le_zero.mp enough)
      exact ⟨wire, rfl, placed_nil wire _⟩
  | succ left ih =>
      by_cases empty : data = []
      · subst empty
        exact ⟨wire, rfl, placed_nil wire _⟩
      have positive : 0 < data.length := List.length_pos_iff.mpr empty
      have here : isAddressValid dt bt blockNr = true := by simpa using valid 0 positive
      rw [writeLoop, if_neg empty]
      by_cases full : 16 ≤ data.length
      · have length := chunk_full full
        have whole : (data.take 16).length = 16 := by
          rw [List.length_take]
          omega
        obtain ⟨middle, written, first⟩ := writeBlock_placed here whole wire
        obtain ⟨after, ran, rest⟩ := @ih (blockNr + 1) (data.drop 16) middle
          (by rw [List.length_drop]; omega)
          (fun place inside => by
            rw [List.length_drop] at inside
            have further := valid (16 + place) (by omega)
            rwa [Nat.add_div_left place (by decide), Nat.add_succ, ← Nat.succ_add] at further)
        have counted : count 16 data.length = count 16 (data.drop 16).length + 1 := by
          rw [List.length_drop, count, count]
          omega
        refine ⟨after, ?_, ?_⟩
        · simp only [length, if_true, written, ran, counted]
          rw [Nat.add_assoc, Nat.add_comm 1]
        · have joined := placed_append first (by rw [whole, ← Nat.mul_add_one]; exact rest)
          rwa [List.take_append_drop] at joined
      · have part : data.length < 16 := Nat.lt_of_not_le full
        have length := chunk_part part
        have one : count 16 data.length = 1 := by
          rw [count]
          omega
        obtain ⟨after, written, placed⟩ := @patch_placed dt bt blockNr here 0 data empty (by omega) wire
        refine ⟨after, ?_, placed⟩
        have short : data.length ≠ 16 := Nat.ne_of_lt part
        have rest : ∀ wire, writeLoop always dt bt left (blockNr + 1) [] wire =
            some (true, blockNr + 1, wire) := by
          intro wire
          cases left <;> rfl
        simp only [length, short, if_false, written, List.drop_length, one, rest]

/-! Reading. -/

/-- What the loop gives from block `i` on: the blocks before the last two from their start,
the others from the offset. -/
structure Fetched (before after : Wire) (i eb offset length : Nat) (bytes : List Byte) : Prop where
  long : bytes.length = length
  bytes : ∀ place < length, bytes[place]? =
    byteAt before.bus.memory (16 * i + place + if place < 16 * (eb - 1 - i) then 0 else offset)
  memory : after.bus.memory = before.bus.memory
  reached : after.touched = before.touched ++ List.range' i (eb + 1 - i)

/-- The last block gives what is left of the length, from the offset on. -/
theorem fetched_last {wire : Wire} {i offset length : Nat} (inside : offset + length ≤ 16) :
    Fetched wire ⟨wire.bus.count, wire.touched ++ [i]⟩ i i offset length
      (((wire.bus.memory i).items.drop offset).take length) := by
  have whole : (wire.bus.memory i).items.length = 16 := (wire.bus.memory i).full
  refine ⟨?_, ?_, rfl, ?_⟩
  · rw [List.length_take, List.length_drop]
    omega
  · intro place short
    have block : (16 * i + (offset + place)) / 16 = i := by omega
    have item : (16 * i + (offset + place)) % 16 = offset + place := by omega
    rw [List.getElem?_take_of_lt short, List.getElem?_drop, if_neg (by omega), byteAt,
      Nat.add_assoc, Nat.add_comm place, block, item]
  · simp

/-- The part of one block that is copied, in front of what the rest of the loop gives. -/
theorem fetched_step {before after : Wire} {i eb place part offset later length : Nat} {rest : List Byte}
    (below : i < eb) (inside : place + part ≤ 16) (fits : part ≤ length)
    (fetched : Fetched ⟨before.bus.count, before.touched ++ [i]⟩ after (i + 1) eb later
      (length - part) rest)
    (here : ∀ index < part, place + index = index + if index < 16 * (eb - 1 - i) then 0 else offset)
    (there : ∀ index < length - part,
      16 * (i + 1) + index + (if index < 16 * (eb - 1 - (i + 1)) then 0 else later) =
        16 * i + (part + index) + if part + index < 16 * (eb - 1 - i) then 0 else offset) :
    Fetched before after i eb offset length
      (((before.bus.memory i).items.drop place).take part ++ rest) := by
  have whole : (before.bus.memory i).items.length = 16 := (before.bus.memory i).full
  have front : (((before.bus.memory i).items.drop place).take part).length = part := by
    rw [List.length_take, List.length_drop]
    omega
  refine ⟨?_, ?_, fetched.memory, ?_⟩
  · rw [List.length_append, front, fetched.long]
    omega
  · intro index short
    by_cases early : index < part
    · rw [List.getElem?_append_left (by omega), List.getElem?_take_of_lt early, List.getElem?_drop,
        Nat.add_assoc, ← here index early, byteAt]
      have block : (16 * i + (place + index)) / 16 = i := by omega
      have item : (16 * i + (place + index)) % 16 = place + index := by omega
      rw [block, item]
    · have split : part + (index - part) = index := by omega
      rw [List.getElem?_append_right (by omega), front, fetched.bytes _ (by omega),
        there _ (by omega), split]
      rfl
  · have blocks : eb + 1 - i = (eb + 1 - (i + 1)) + 1 := by omega
    rw [fetched.reached, blocks, List.range'_succ, List.append_assoc]
    rfl

theorem readLoop_fetched (left : Nat) {i eb byteAddress length : Nat} {wire : Wire}
    (blocks : i + left = eb + 1) (some_block : i ≤ eb)
    (low : 16 * (eb - i) < length + byteAddress % 16)
    (high : length + byteAddress % 16 ≤ 16 * (eb - i) + 16)
    (valid : ∀ block, i ≤ block → block ≤ eb → isAddressValid dt bt block = true) :
    ∃ bytes after, readLoop always dt bt eb left i byteAddress length wire = some (true, bytes, after) ∧
      Fetched wire after i eb (byteAddress % 16) length bytes := by
  induction left generalizing i byteAddress length wire with
  | zero => omega
  | succ left ih =>
      have whole : (wire.bus.memory i).items.length = 16 := (wire.bus.memory i).full
      have here : isAddressValid dt bt i = true := valid i (Nat.le_refl i) some_block
      have further : ∀ block, i + 1 ≤ block → block ≤ eb → isAddressValid dt bt block = true :=
        fun block low high => valid block (by omega) high
      have rem : byteAddress % 16 < 16 := Nat.mod_lt _ (by decide)
      rw [readLoop, readBlock_always here]
      dsimp only
      by_cases last : i = eb
      · subst last
        have none_left : left = 0 := by omega
        subst none_left
        have inside : ¬ ((wire.bus.memory i).items.length < byteAddress % 16 + length ∨
            length < length) := by omega
        simp only [true_or, if_true, ntagBlockSize, inside, if_false, readLoop, Option.map_some,
          List.append_nil]
        exact ⟨_, _, rfl, fetched_last (by omega)⟩
      · by_cases penultimate : i + 1 = eb
        · -- From here on the copies start where the addresses do.
          obtain ⟨rest, after, ran, fetched⟩ := @ih (i + 1) (byteAddress + (16 - byteAddress % 16))
            (length - (16 - byteAddress % 16)) ⟨wire.bus.count, wire.touched ++ [i]⟩ (by omega) (by omega)
            (by omega) (by omega) further
          have inside : ¬ ((wire.bus.memory i).items.length <
              byteAddress % 16 + (16 - byteAddress % 16) ∨ length < 16 - byteAddress % 16) := by omega
          have started : (byteAddress + (16 - byteAddress % 16)) % 16 = 0 := by omega
          rw [started] at fetched
          simp only [last, penultimate, or_true, if_true, if_false, ntagBlockSize, inside] at ran ⊢
          simp only [ran, Option.map_some]
          refine ⟨_, after, rfl, ?_⟩
          exact fetched_step (by omega) (by omega) (by omega) fetched
            (fun index _ => by rw [if_neg (by omega)]; omega)
            (fun index _ => by rw [if_neg (by omega), if_neg (by omega)]; omega)
        · -- The address goes on by a block, and its place in the block stays.
          obtain ⟨rest, after, ran, fetched⟩ := @ih (i + 1) (byteAddress + 16) (length - 16)
            ⟨wire.bus.count, wire.touched ++ [i]⟩ (by omega) (by omega) (by omega) (by omega) further
          have inside : ¬ ((wire.bus.memory i).items.length < 0 + 16 ∨ length < 16) := by omega
          have kept : (byteAddress + 16) % 16 = byteAddress % 16 := by omega
          rw [kept] at fetched
          simp only [last, penultimate, or_self, if_false, ntagBlockSize, Nat.sub_zero, inside, ran,
            Option.map_some]
          refine ⟨_, after, rfl, ?_⟩
          exact fetched_step (by omega) (by omega) (by omega) fetched
            (fun index _ => by rw [if_pos (by omega)]; omega)
            (fun index _ => by split <;> split <;> omega)

end Checked

/-! The whole calls. -/

section Calls

variable {ntag : Ntag} {memory : Content} {span : Span ntag.dt}

theorem Span.valid {dt : DeviceType} (span : Span dt) {block : Nat} (low : span.address / 16 ≤ block)
    (high : block < (span.address + span.data.length + 15) / 16) :
    isAddressValid dt span.bt block = true := by
  have first := span.low
  have last := span.high
  rcases span.area with usermem | sram
  · rw [usermem] at first last ⊢
    cases dt <;> simp only [firstBlock, lastBlock, isAddressValid, decide_eq_true_eq] at * <;> omega
  · rw [sram] at first last ⊢
    simp only [firstBlock, lastBlock, isAddressValid, decide_eq_true_eq] at *
    omega

theorem lastBlock_le (dt : DeviceType) (bt : BlockType) : lastBlock dt bt ≤ 0xFB := by
  cases dt <;> cases bt <;> decide

theorem Span.block_lt {dt : DeviceType} (span : Span dt) : span.address / 16 < 256 := by
  have last := span.high
  have most := lastBlock_le dt span.bt
  omega

/-- The part of the address in its block is where the bytes of a read start, but for
the blocks before the last two. -/
theorem read_fetched (some_block : span.address % 16 ≠ 0 ∨ span.data ≠ []) :
    ∃ bytes wire, Checked.read always ntag span.bt span.address span.data.length (.start memory) =
        some (true, bytes, wire) ∧
      Checked.Fetched (.start memory) wire (span.address / 16)
        ((span.address + span.data.length - 1) / 16) (span.address % 16) span.data.length bytes := by
  have positive : 0 < span.address % 16 ∨ 0 < span.data.length :=
    some_block.imp Nat.pos_of_ne_zero List.length_pos_iff.mpr
  have first := span.low
  have one : 1 ≤ firstBlock span.bt := by cases span.bt <;> decide
  have byte : span.address / 16 % 256 = span.address / 16 := Nat.mod_eq_of_lt span.block_lt
  simp only [Checked.read, ntagBlockSize, byte]
  apply Checked.readLoop_fetched <;> try omega
  intro block low high
  exact span.valid low (by omega)

theorem read_empty (aligned : span.address % 16 = 0) (empty : span.data = []) :
    Checked.read always ntag span.bt span.address span.data.length (.start memory) =
      some (true, [], .start memory) := by
  have first := span.low
  have one : 1 ≤ firstBlock span.bt := by cases span.bt <;> decide
  have byte : span.address / 16 % 256 = span.address / 16 := Nat.mod_eq_of_lt span.block_lt
  have nothing : (span.address + 0 - 1) / 16 + 1 - span.address / 16 = 0 := by omega
  simp only [Checked.read, ntagBlockSize, byte, empty, List.length_nil, nothing]
  rfl

theorem readExact_empty (aligned : span.address % 16 = 0) (empty : span.data = []) :
    ReadExact ntag memory span := by
  refine ⟨[], _, read_empty aligned empty, ?_, ?_, rfl, ?_⟩
  · rw [empty]
  · rw [empty]
    exact fun place short => absurd short (Nat.not_lt_zero place)
  · exact fun block member => absurd member (List.not_mem_nil)

theorem readable_of_exact (exact : ReadExact ntag memory span) : span.Readable memory := by
  by_cases aligned : span.address % 16 = 0
  · exact .inl aligned
  have rem : span.address % 16 < 16 := Nat.mod_lt _ (by decide)
  obtain ⟨bytes, wire, ran, fetched⟩ := @read_fetched ntag memory span (.inl aligned)
  obtain ⟨found, after, returned, _, right, _, reaches⟩ := exact
  rw [ran] at returned
  obtain ⟨_, rfl, rfl⟩ : true = true ∧ bytes = found ∧ wire = after := by simpa using returned
  have some_data : span.data ≠ [] := by
    intro empty
    -- Without data a block is reached that has nothing of the span.
    have member : span.address / 16 ∈ wire.touched := by
      rw [fetched.reached, empty]
      apply List.mem_append_right
      rw [List.mem_range'_1]
      simp only [List.length_nil]
      omega
    obtain ⟨address, ⟨low, high⟩, _⟩ := reaches _ member
    rw [empty, List.length_nil] at high
    omega
  have positive : 0 < span.data.length := List.length_pos_iff.mpr some_data
  refine .inr ⟨some_data, fun place inside => ?_⟩
  have copied := fetched.bytes place (by omega)
  rw [if_pos inside, right place (by omega)] at copied
  exact copied.symm

theorem exact_of_readable (some_block : span.address % 16 ≠ 0 ∨ span.data ≠ [])
    (readable : span.Readable memory) : ReadExact ntag memory span := by
  obtain ⟨bytes, wire, ran, fetched⟩ := @read_fetched ntag memory span some_block
  have rem : span.address % 16 < 16 := Nat.mod_lt _ (by decide)
  refine ⟨bytes, wire, ran, fetched.long, ?_, fetched.memory, ?_⟩
  · intro place short
    rw [fetched.bytes place short]
    -- Before the last two blocks the copies start with their blocks.
    by_cases inside : place < 16 * ((span.address + span.data.length - 1) / 16 - 1 -
        span.address / 16)
    · rw [if_pos inside]
      rcases readable with aligned | ⟨_, repeats⟩
      · congr 1
        omega
      · exact repeats place inside
    · rw [if_neg inside]
      congr 1
      omega
  · have some_data : 0 < span.data.length := by
      rcases readable with aligned | ⟨some_data, _⟩
      · exact List.length_pos_iff.mpr (some_block.resolve_left fun other => other aligned)
      · exact List.length_pos_iff.mpr some_data
    intro block member
    rw [fetched.reached] at member
    have range : block ∈ List.range' (span.address / 16) _ :=
      (List.mem_append.mp member).resolve_left List.not_mem_nil
    rw [List.mem_range'_1] at range
    refine ⟨max span.address (16 * block), ⟨by omega, by omega⟩, by omega⟩

theorem readExact_iff : ReadExact ntag memory span ↔ span.Readable memory := by
  refine ⟨readable_of_exact, fun readable => ?_⟩
  by_cases nothing : span.address % 16 = 0 ∧ span.data = []
  · exact readExact_empty nothing.1 nothing.2
  · exact exact_of_readable (not_and_or.mp nothing) readable

theorem writeRest_placed {bt : BlockType} {blockNr : Nat} {data : List Byte} (wire : Wire)
    (valid : ∀ place < data.length, isAddressValid ntag.dt bt (blockNr + place / 16) = true) :
    ∃ after, Checked.writeRest always ntag bt blockNr data wire =
        some (true, { ntag with lastMemBlockWritten := (blockNr + count 16 data.length + 255) % 256 },
          after) ∧ Placed wire after (16 * blockNr) data := by
  obtain ⟨after, ran, placed⟩ := Checked.writeLoop_placed data.length (Nat.le_refl _) valid
  refine ⟨after, ?_, placed⟩
  rw [Checked.writeRest, ran]
  rfl

/-- What is placed at a span is read back where a read works. -/
theorem read_back {after : Ntag} (same : after.dt = ntag.dt) {wire : Wire}
    (placed : span.Stored memory wire.bus.memory) (writable : span.Writable) :
    ∃ again, Checked.read always after span.bt span.address span.data.length
      (.start wire.bus.memory) = some (true, span.data, again) := by
  have readable : span.Readable wire.bus.memory := by
    rcases writable with aligned | fits
    · exact .inl aligned
    · have rem : span.address % 16 < 16 := Nat.mod_lt _ (by decide)
      refine .inr ⟨List.ne_nil_of_length_pos (by omega), fun place inside => ?_⟩
      -- The span ends with its block, so that no block is before the last two.
      omega
  have reads : ReadExact ntag wire.bus.memory span := readExact_iff.mpr readable
  obtain ⟨bytes, again, ran, long, right, _, _⟩ := reads
  have back : bytes = span.data := by
    apply List.ext_getElem?
    intro place
    by_cases short : place < span.data.length
    · have here : span.Has (span.address + place) := ⟨by omega, by omega⟩
      rw [right place short, placed, if_pos here, Nat.add_sub_cancel_left]
    · rw [List.getElem?_eq_none (by omega), List.getElem?_eq_none (by omega)]
  refine ⟨again, ?_⟩
  rw [← back]
  simp only [Checked.read, same] at ran ⊢
  rw [long]
  exact ran

theorem placed_reaches {wire : Wire} {start : Nat} (here : start = span.address)
    (placed : Placed (.start memory) wire start span.data) :
    span.Stored memory wire.bus.memory ∧ span.Reaches wire := by
  subst here
  refine ⟨placed.bytes, ?_⟩
  obtain ⟨more, touched, own⟩ := placed.reached
  intro block member
  rw [touched] at member
  exact own block ((List.mem_append.mp member).resolve_left List.not_mem_nil)

/-- A copy of a first block stays inside its buffers where the data ends with the block. -/
theorem patch_inside {bt : BlockType} {blockNr place writeLength : Nat} {data : List Byte}
    {wire after : Wire} {ok : Bool} (valid : isAddressValid ntag.dt bt blockNr = true)
    (ran : Checked.patch always ntag.dt bt blockNr place data writeLength wire = some (ok, after)) :
    place + writeLength ≤ 16 ∧ writeLength ≤ data.length := by
  rcases checked_patch ran with ⟨refused, _⟩ | ⟨_, _, fits, inside, _⟩
  · rw [readBlock_valid valid (by decide) (Nat.le_refl 16)] at refused
    exact absurd refused (by simp [always])
  · exact ⟨fits, inside⟩

/-- A copy that stays inside both buffers fills the block, and has all of the data. -/
theorem writable_of_exact (exact : WriteExact ntag memory span) : span.Writable := by
  have byte : span.address / 16 % 256 = span.address / 16 := Nat.mod_eq_of_lt span.block_lt
  obtain ⟨after, wire, ran, _⟩ := exact
  by_cases aligned : span.address % 16 = 0
  · exact .inl aligned
  have first : isAddressValid ntag.dt span.bt (span.address / 16) = true :=
    span.valid (Nat.le_refl _) (by omega)
  simp only [Checked.write, ntagBlockSize, byte, ne_eq, aligned, not_false_eq_true, if_true] at ran
  split at ran
  · exact absurd ran (by simp)
  · rename_i patched
    have inside := patch_inside first patched
    split at inside <;> exact .inr (by omega)
  · rename_i patched
    have inside := patch_inside first patched
    split at inside <;> exact .inr (by omega)

theorem writeExact_aligned (aligned : span.address % 16 = 0) : WriteExact ntag memory span := by
  have byte : span.address / 16 % 256 = span.address / 16 := Nat.mod_eq_of_lt span.block_lt
  have start : 16 * (span.address / 16) = span.address := by omega
  obtain ⟨wire, ran, placed⟩ := @writeRest_placed ntag span.bt (span.address / 16) span.data
    (.start memory) fun place inside => span.valid (Nat.le_add_right _ _) (by omega)
  obtain ⟨stored, reaches⟩ := placed_reaches start placed
  let last := (span.address / 16 + count 16 span.data.length + 255) % 256
  refine ⟨{ ntag with lastMemBlockWritten := last }, wire, ?_, stored, reaches, ?_,
    read_back rfl stored (.inl aligned)⟩
  · simp only [Checked.write, ntagBlockSize, byte, ne_eq, aligned, not_true_eq_false, if_false]
    exact ran
  · intro some_data
    have positive : 0 < span.data.length := List.length_pos_iff.mpr some_data
    have bound := span.high
    have most := lastBlock_le ntag.dt span.bt
    change (span.address / 16 + (span.data.length + 16 - 1) / 16 + 255) % 256 = _
    omega

/-- The copy into the first block is all of the data, and the loop is left with none. -/
theorem writeExact_firstBlock (inside : span.address % 16 ≠ 0)
    (fits : span.address % 16 + span.data.length = 16) : WriteExact ntag memory span := by
  have byte : span.address / 16 % 256 = span.address / 16 := Nat.mod_eq_of_lt span.block_lt
  have rem : span.address % 16 < 16 := Nat.mod_lt _ (by decide)
  have some_data : span.data ≠ [] := List.ne_nil_of_length_pos (by omega)
  have first : isAddressValid ntag.dt span.bt (span.address / 16) = true :=
    span.valid (Nat.le_refl _) (by omega)
  have length : (if 16 - span.address % 16 < span.data.length then span.data.length
      else 16 - span.address % 16) = span.data.length := by
    split <;> omega
  obtain ⟨wire, ran, placed⟩ := @Checked.patch_placed _ _ _ first (span.address % 16) span.data
    some_data (Nat.le_of_eq fits) (.start memory)
  obtain ⟨stored, reaches⟩ := placed_reaches (by omega) placed
  refine ⟨{ ntag with lastMemBlockWritten := (span.address / 16 + 1 + 255) % 256 }, wire, ?_, stored,
    reaches, ?_, read_back rfl stored (.inr fits)⟩
  · simp only [Checked.write, ntagBlockSize, byte, ne_eq, inside, not_false_eq_true, if_true,
      length, ran, List.drop_length]
    rfl
  · intro _
    have small := span.block_lt
    change (span.address / 16 + 1 + 255) % 256 = _
    omega

theorem writeExact_iff : WriteExact ntag memory span ↔ span.Writable := by
  refine ⟨writable_of_exact, fun writable => ?_⟩
  by_cases aligned : span.address % 16 = 0
  · exact writeExact_aligned aligned
  · exact writeExact_firstBlock aligned (writable.resolve_left aligned)

end Calls

/-- With all transfers going through, the tag is an array of bytes for writes that start
with a block or end with their first one, and for reads that start with a block or have
two at most, unless the bytes repeat. -/
theorem bytes_exact_iff (ntag : Ntag) (memory : Content) (span : Span ntag.dt) :
    (WriteExact ntag memory span ↔ span.Writable) ∧
      (ReadExact ntag memory span ↔ span.Readable memory) :=
  ⟨writeExact_iff, readExact_iff⟩

/-- One byte in the middle of a block: 15 are copied from it. -/
theorem write_reads_beyond :
    ¬ ∀ (ntag : Ntag) (memory : Content) (span : Span ntag.dt),
      WriteExact ntag memory span ∧ ReadExact ntag memory span := by
  intro exact
  let span : Span .ntagI2c2K := ⟨.usermem, 17, [0xAA], .inl rfl, by decide, by decide, by decide⟩
  obtain ⟨_, _, ran, _⟩ := (exact ⟨.ntagI2c2K, 0, 0, 0, false⟩ (fun _ => ⟨List.replicate 16 0, rfl⟩) span).1
  have faults : Checked.write always ⟨.ntagI2c2K, 0, 0, 0, false⟩ .usermem 17 [0xAA]
      (.start fun _ => ⟨List.replicate 16 0, rfl⟩) = none := rfl
  exact absurd (faults.symm.trans ran) (by simp)

end MangOH.Nfc
