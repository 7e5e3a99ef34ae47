import MangOH.AlignedRecords
import Mathlib.Data.List.Chain

/-!
The scans of a sensor, and what each buffer gets of one. A buffer that wants fewer channels
than the sensor delivers has a table of copies from the scan to its own record.
-/

namespace MangOH.Iio

open AlignedRecords CString

abbrev Bitmap := Nat → Bool

abbrev Cell := Option (BitVec 8)

structure ChanSpec where
  scanIndex : Int
  storagebits : Nat

/-- What a driver says about its sensor. -/
structure DevSpec where
  channels : List ChanSpec
  masklength : Nat
  scanIndexTimestamp : Nat
  availableScanMasks : Option (List Bitmap)
  validateScanMask : Bitmap → Bool
  triggered : Bool
  hardware : Bool

def findChannelFromSi (dev : DevSpec) (si : Nat) : Option ChanSpec :=
  dev.channels.find? fun channel => channel.scanIndex == si

def setBits (masklength : Nat) (mask : Bitmap) : List Nat := (List.range masklength).filter mask

/-- The channels of a record in their order, the timestamp last. -/
def recordChannels (dev : DevSpec) (mask : Bitmap) (timestamp : Bool) : List Nat :=
  setBits dev.masklength mask ++ if timestamp = true then [dev.scanIndexTimestamp] else []

def chanLength (dev : DevSpec) (si : Nat) : Option Nat :=
  (findChannelFromSi dev si).map fun channel => channel.storagebits / 8

/-- The kernel's macro, for which a length is a power of two. -/
def align (bytes length : Nat) : Nat :=
  if length = 0 then 0 else Nat.ldiff (bytes + (length - 1)) (length - 1)

def scanBytesFrom (dev : DevSpec) : Nat → List Nat → Option Nat
  | bytes, [] => some bytes
  | bytes, si :: rest => do
      let length ← chanLength dev si
      scanBytesFrom dev (align bytes length + length) rest

/-- It has none where it would follow a null pointer. -/
def computeScanBytes (dev : DevSpec) (mask : Bitmap) (timestamp : Bool) : Option Nat :=
  scanBytesFrom dev 0 (recordChannels dev mask timestamp)

structure DemuxTable where
  fromLoc : Nat
  toLoc : Nat
  length : Nat

/-- The remainder by zero is a trap. -/
def fit (loc length : Nat) : Option Nat := if length = 0 then none else some (alignUp loc length)

/-- Passes over the channels of the scan that the buffer has not asked for. The length added is
the one of the next channel; behind the last one there is no channel. -/
def skipTo (dev : DevSpec) (outInd : Nat) : Nat → List Nat → Nat → Option (Nat × List Nat)
  | inInd, rest, inLoc =>
      if inInd = outInd then some (inLoc, rest)
      else match rest with
        | [] => none
        | next :: rest => do
            let length ← chanLength dev next
            let inLoc ← fit (inLoc + length) length
            skipTo dev outInd next rest inLoc

def demuxEntry (dev : DevSpec) (si inLoc outLoc : Nat) : Option (DemuxTable × Nat × Nat) := do
  let length ← chanLength dev si
  let outLoc ← fit outLoc length
  let inLoc ← fit inLoc length
  some (⟨inLoc, outLoc, length⟩, inLoc + length, outLoc + length)

def demuxEntries (dev : DevSpec) : List Nat → List Nat → Nat → Nat → Option (List DemuxTable × Nat × Nat)
  | [], _, inLoc, outLoc => some ([], inLoc, outLoc)
  | _ :: _, [], _, _ => none
  | outInd :: outs, first :: rest, inLoc, outLoc => do
      let (inLoc, rest) ← skipTo dev outInd first rest inLoc
      let (entry, inLoc, outLoc) ← demuxEntry dev outInd inLoc outLoc
      let (entries, ends) ← demuxEntries dev outs rest inLoc outLoc
      some (entry :: entries, ends)

/-- The table, and the length of the record it makes. -/
def demuxTable (dev : DevSpec) (active mask : Bitmap) (timestamp : Bool) : Option (List DemuxTable × Nat) := do
  let (entries, inLoc, outLoc) ←
    demuxEntries dev (setBits dev.masklength mask) (setBits dev.masklength active) 0 0
  if timestamp = true then do
    let (entry, _, outLoc) ← demuxEntry dev dev.scanIndexTimestamp inLoc outLoc
    some (entries ++ [entry], outLoc)
  else some (entries, outLoc)

def copyEntries (datain : List Cell) : List DemuxTable → List Cell → Except Fault (List Cell)
  | [], bounce => .ok bounce
  | entry :: rest, bounce => do
      let items ← Cells.copy datain entry.fromLoc entry.length
      let bounce ← Cells.patch bounce entry.toLoc items
      copyEntries datain rest bounce

structure Buffer where
  scanMask : Bitmap
  scanTimestamp : Bool
  demuxList : List DemuxTable
  demuxBounce : List Cell
  bytesPerDatum : Nat

/-- The record that a buffer makes of a scan, and its bounce buffer. -/
def demux (buffer : Buffer) (datain : List Cell) : Except Fault (List Cell × List Cell) :=
  match buffer.demuxList with
  | [] => .ok (datain, buffer.demuxBounce)
  | _ => do
      let bounce ← copyEntries datain buffer.demuxList buffer.demuxBounce
      .ok (bounce, bounce)

/-- A store takes one datum, of the length that the buffer was told. -/
def storeTo (bytesPerDatum : Nat) (dataout : List Cell) : Except Fault (List Cell) :=
  if bytesPerDatum ≤ dataout.length then .ok (dataout.take bytesPerDatum) else .error .pastEnd

def pushToBuffer (buffer : Buffer) (datain : List Cell) : Except Fault (List Cell × Buffer) := do
  let (dataout, bounce) ← demux buffer datain
  let record ← storeTo buffer.bytesPerDatum dataout
  .ok (record, { buffer with demuxBounce := bounce })

def bitmapEqual (masklength : Nat) (first second : Bitmap) : Bool :=
  (List.range masklength).all fun si => first si == second si

/-- The buffer, and whether its memory was there. The masks of one scan need no table. -/
def bufferUpdateDemux (dev : DevSpec) (active : Bitmap) (memory : Bool) (buffer : Buffer) : Option (Buffer × Bool) :=
  if bitmapEqual dev.masklength active buffer.scanMask = true then
    some ({ buffer with demuxList := [], demuxBounce := [] }, true)
  else do
    let (table, outLoc) ← demuxTable dev active buffer.scanMask buffer.scanTimestamp
    if memory = true then
      some ({ buffer with demuxList := table, demuxBounce := List.replicate outLoc (some 0#8) }, true)
    else some ({ buffer with demuxList := [], demuxBounce := [] }, false)

/-! Sizes. -/

/-- Every channel is there, and is stored in a power of two of bytes. -/
structure Described (dev : DevSpec) (size : Nat → Nat) : Prop where
  length : ∀ {si}, si < dev.masklength ∨ si = dev.scanIndexTimestamp → chanLength dev si = some (size si)
  power : ∀ si, ∃ bits, size si = 2 ^ bits

variable {dev : DevSpec} {size : Nat → Nat} {active mask : Bitmap} {timestamp : Bool} {si : Nat}

theorem mem_setBits {masklength : Nat} : si ∈ setBits masklength mask ↔ si < masklength ∧ mask si = true := by
  rw [setBits, List.mem_filter, List.mem_range]

theorem Described.positive (described : Described dev size) (si : Nat) : 0 < size si := by
  obtain ⟨bits, same⟩ := described.power si
  rw [same]
  exact Nat.two_pow_pos bits

theorem Described.member (described : Described dev size) (found : si ∈ recordChannels dev mask timestamp) :
    chanLength dev si = some (size si) := by
  refine described.length ?_
  rcases List.mem_append.mp found with bit | last
  · exact .inl (mem_setBits.mp bit).1
  · split at last
    · exact .inr (List.mem_singleton.mp last)
    · cases last

theorem Described.align (described : Described dev size) (bytes si : Nat) :
    align bytes (size si) = alignUp bytes (size si) := by
  rw [Iio.align, if_neg (Nat.pos_iff_ne_zero.mp (described.positive si))]
  obtain ⟨bits, same⟩ := described.power si
  rw [same]
  exact alignUp_mask bits

theorem Described.fit (described : Described dev size) (loc si : Nat) :
    fit loc (size si) = some (alignUp loc (size si)) :=
  if_neg (Nat.pos_iff_ne_zero.mp (described.positive si))

theorem scanBytesFrom_ending (described : Described dev size) {channels : List Nat} {bytes : Nat}
    (known : ∀ si ∈ channels, chanLength dev si = some (size si)) :
    scanBytesFrom dev bytes channels = some (ending size bytes channels) := by
  induction channels generalizing bytes with
  | nil => rfl
  | cons si rest ih =>
      rw [scanBytesFrom, known si (List.mem_cons_self ..), Option.bind_eq_bind, Option.bind_some, described.align]
      exact ih fun other found => known other (List.mem_cons_of_mem _ found)

theorem computeScanBytes_ending (described : Described dev size) :
    computeScanBytes dev mask timestamp = some (ending size 0 (recordChannels dev mask timestamp)) :=
  scanBytesFrom_ending described fun _ found => described.member found

/-! The table. -/

/-- The channels of a scan up to the last one that the buffer wants. -/
def upTo (mask : Bitmap) : List Nat → List Nat
  | [] => []
  | si :: rest => if (si :: rest).any mask = true then si :: upTo mask rest else []

def Steady (size : Nat → Nat) (mask : Bitmap) (scan : List Nat) : Prop :=
  List.IsChain (fun si next => mask si = false → size si = size next) (upTo mask scan)

/-- A channel that is passed over is as long as the next one, and those behind the last one wanted
do not move the timestamp. -/
structure Level (dev : DevSpec) (size : Nat → Nat) (active mask : Bitmap) (timestamp : Bool) : Prop where
  steady : Steady size mask (setBits dev.masklength active)
  timestamp : timestamp = true →
    alignUp (ending size 0 (upTo mask (setBits dev.masklength active))) (size dev.scanIndexTimestamp) =
      alignUp (ending size 0 (setBits dev.masklength active)) (size dev.scanIndexTimestamp)

/-- A table that copies each channel from where it stands in the scan to where it belongs. -/
def Reads (size : Nat → Nat) (scan : List (Nat × Nat)) : Nat → List Nat → List DemuxTable → Prop
  | _, [], [] => True
  | outLoc, si :: rest, entry :: entries =>
      (si, entry.fromLoc) ∈ scan ∧ entry.toLoc = alignUp outLoc (size si) ∧ entry.length = size si ∧
        Reads size scan (alignUp outLoc (size si) + size si) rest entries
  | _, _, _ => False

variable {outs scan : List Nat} {out inLoc outLoc place : Nat} {entries : List DemuxTable} {entry : DemuxTable}
  {places wider : List (Nat × Nat)}

theorem reads_wider (reads : Reads size places outLoc outs entries) (inside : places ⊆ wider) :
    Reads size wider outLoc outs entries := by
  induction outs generalizing outLoc entries with
  | nil =>
      cases entries with
      | nil => trivial
      | cons entry entries => exact reads
  | cons si rest ih =>
      cases entries with
      | nil => exact reads
      | cons entry entries => exact ⟨inside reads.1, reads.2.1, reads.2.2.1, ih reads.2.2.2⟩

theorem reads_last (reads : Reads size places outLoc outs entries)
    (last : Reads size places (ending size outLoc outs) [si] [entry]) :
    Reads size places outLoc (outs ++ [si]) (entries ++ [entry]) := by
  induction outs generalizing outLoc entries with
  | nil =>
      cases entries with
      | nil => exact last
      | cons entry entries => exact reads.elim
  | cons first rest ih =>
      cases entries with
      | nil => exact reads.elim
      | cons entry entries => exact ⟨reads.1, reads.2.1, reads.2.2.1, ih reads.2.2.2 last⟩

theorem upTo_cons {first : Nat} {rest : List Nat} (wanted : (first :: rest).filter mask = out :: outs) :
    upTo mask (first :: rest) = first :: upTo mask rest := by
  have member : out ∈ (first :: rest).filter mask := by
    rw [wanted]
    exact List.mem_cons_self ..
  rw [List.mem_filter] at member
  exact if_pos (List.any_eq_true.mpr ⟨out, member⟩)

theorem upTo_nil (none : scan.filter mask = []) : upTo mask scan = [] := by
  cases scan with
  | nil => rfl
  | cons first rest =>
      refine if_neg fun some => ?_
      obtain ⟨si, found, wanted⟩ := List.any_eq_true.mp some
      exact absurd wanted (List.filter_eq_nil_iff.mp none si found)

/-- The copy of a channel reads it where it stands as long as those passed over are as long as the
next ones. -/
theorem skipTo_found (described : Described dev size) {rest : List Nat} : ∀ {first inLoc : Nat},
    (∀ si ∈ rest, chanLength dev si = some (size si)) → (first :: rest).filter mask = out :: outs →
      ∃ skipped behind loc, skipTo dev out first rest inLoc = some (loc, behind) ∧
        first :: rest = skipped ++ out :: behind ∧ behind.filter mask = outs ∧
          upTo mask (first :: rest) = skipped ++ out :: upTo mask behind ∧
            ∀ {place : Nat}, Steady size mask (first :: rest) →
              alignUp inLoc (size first) = alignUp place (size first) →
                alignUp loc (size out) = alignUp (ending size place skipped) (size out) := by
  induction rest with
  | nil =>
      intro first inLoc _ wanted
      have here : mask first = true := by
        by_contra other
        rw [List.filter_cons_of_neg other] at wanted
        cases wanted
      have only : upTo mask [first] = [first] := upTo_cons wanted
      rw [List.filter_cons_of_pos here] at wanted
      cases wanted
      exact ⟨[], [], inLoc, by rw [skipTo, if_pos rfl], rfl, rfl, only, fun _ same => same⟩
  | cons next rest ih =>
      intro first inLoc known wanted
      have whole := upTo_cons wanted
      by_cases here : mask first = true
      · rw [List.filter_cons_of_pos here] at wanted
        cases wanted
        exact ⟨[], next :: rest, inLoc, by rw [skipTo, if_pos rfl], rfl, rfl, whole, fun _ same => same⟩
      · rw [List.filter_cons_of_neg here] at wanted
        have tail := upTo_cons wanted
        have positive := described.positive next
        have apart : first ≠ out := by
          rintro rfl
          have member : first ∈ (next :: rest).filter mask := by
            rw [wanted]
            exact List.mem_cons_self ..
          exact here (List.mem_filter.mp member).2
        obtain ⟨skipped, behind, loc, found, split, left, front, there⟩ :=
          @ih next (alignUp (inLoc + size next) (size next))
            (fun si member => known si (List.mem_cons_of_mem _ member)) wanted
        refine ⟨first :: skipped, behind, loc, ?_, ?_, left, ?_, fun {place} steady same => ?_⟩
        · rw [skipTo, if_neg apart]
          simp only [known next (List.mem_cons_self ..), described.fit, Option.bind_eq_bind, Option.bind_some]
          exact found
        · rw [split]
          rfl
        · rw [whole, front]
          rfl
        · rw [Steady, whole, tail, List.isChain_cons_cons, ← tail] at steady
          have equal : size first = size next := steady.1 (Bool.eq_false_iff.mpr here)
          refine there steady.2 ?_
          rw [alignUp_idem positive, alignUp_add positive, equal, alignUp_add positive, alignUp_idem positive,
            ← equal, same]

theorem demuxEntry_described (described : Described dev size) (known : chanLength dev si = some (size si)) :
    demuxEntry dev si inLoc outLoc =
      some (⟨alignUp inLoc (size si), alignUp outLoc (size si), size si⟩, alignUp inLoc (size si) + size si,
        alignUp outLoc (size si) + size si) := by
  rw [demuxEntry, known]
  simp only [described.fit, Option.bind_eq_bind, Option.bind_some]

theorem demuxEntries_found (described : Described dev size) : ∀ {scan : List Nat} {inLoc outLoc : Nat},
    (∀ si ∈ scan, chanLength dev si = some (size si)) → scan.filter mask = outs →
      ∃ entries last, demuxEntries dev outs scan inLoc outLoc = some (entries, last, ending size outLoc outs) ∧
        (Steady size mask scan → last = ending size inLoc (upTo mask scan) ∧
          Reads size (spots size inLoc scan) outLoc outs entries) := by
  induction outs with
  | nil =>
      intro scan inLoc outLoc _ wanted
      rw [upTo_nil wanted]
      exact ⟨[], inLoc, rfl, fun _ => ⟨rfl, trivial⟩⟩
  | cons out outs ih =>
      intro scan inLoc outLoc known wanted
      cases scan with
      | nil => cases wanted
      | cons first rest =>
          obtain ⟨skipped, behind, loc, found, split, left, front, there⟩ := @skipTo_found _ _ _ _ _ described rest first
            inLoc (fun si member => known si (List.mem_cons_of_mem _ member)) wanted
          have kept : ∀ si ∈ behind, chanLength dev si = some (size si) := by
            refine fun si member => known si ?_
            rw [split]
            exact List.mem_append_right _ (List.mem_cons_of_mem _ member)
          have mine : chanLength dev out = some (size out) := by
            refine known out ?_
            rw [split]
            exact List.mem_append_right _ (List.mem_cons_self ..)
          obtain ⟨entries, last, table, rest_reads⟩ := @ih behind (alignUp loc (size out) + size out)
            (alignUp outLoc (size out) + size out) kept left
          refine ⟨⟨alignUp loc (size out), alignUp outLoc (size out), size out⟩ :: entries, last, ?_, fun steady => ?_⟩
          · rw [demuxEntries, found]
            simp only [demuxEntry_described described mine, Option.bind_eq_bind, Option.bind_some, table]
            rfl
          · have same := there steady rfl
            have steadier : Steady size mask behind := by
              rw [Steady, front] at steady
              exact steady.right_of_append.tail
            obtain ⟨ends, reads⟩ := rest_reads steadier
            rw [split, spots_append, spots, ← split, front, ending_append, ending, ← same]
            exact ⟨ends, List.mem_append_right _ (List.mem_cons_self ..), rfl, rfl,
              reads_wider reads fun spot member => List.mem_append_right _ (List.mem_cons_of_mem _ member)⟩

/-- What a buffer is given of a scan needs the scan's channels. -/
def Covered (dev : DevSpec) (active mask : Bitmap) : Prop :=
  ∀ si < dev.masklength, mask si = true → active si = true

theorem setBits_covered (covered : Covered dev active mask) :
    (setBits dev.masklength active).filter mask = setBits dev.masklength mask := by
  rw [setBits, setBits, List.filter_filter]
  refine List.filter_congr fun si member => ?_
  cases wanted : mask si with
  | false => rfl
  | true => exact covered si (List.mem_range.mp member) wanted

/-- A record is always as long as its channels; the copies are right where the channels are level. -/
theorem demuxTable_covered (described : Described dev size) (covered : Covered dev active mask) {stamped : Bool}
    (with_stamp : timestamp = true → stamped = true) :
    ∃ entries, demuxTable dev active mask timestamp =
        some (entries, ending size 0 (recordChannels dev mask timestamp)) ∧
      (Level dev size active mask timestamp →
        Reads size (spots size 0 (recordChannels dev active stamped)) 0 (recordChannels dev mask timestamp) entries) := by
  have known : ∀ si ∈ setBits dev.masklength active, chanLength dev si = some (size si) :=
    fun si member => described.length (.inl (mem_setBits.mp member).1)
  obtain ⟨entries, last, table, reads⟩ := @demuxEntries_found _ _ _ _ described _ 0 0 known (setBits_covered covered)
  have wide : Level dev size active mask timestamp →
      Reads size (spots size 0 (recordChannels dev active stamped)) 0 (setBits dev.masklength mask) entries := by
    intro level
    rw [recordChannels, spots_append]
    exact reads_wider (reads level.steady).2 (List.subset_append_left _ _)
  rw [demuxTable, table]
  cases asked : timestamp with
  | false =>
      rw [asked] at wide
      refine ⟨entries, ?_, fun level => ?_⟩
      · simp [recordChannels]
      · simpa [recordChannels] using wide level
  | true =>
      have mine := described.length (.inr rfl)
      rw [asked] at wide
      refine ⟨entries ++ [⟨alignUp last (size dev.scanIndexTimestamp),
          alignUp (ending size 0 (setBits dev.masklength mask)) (size dev.scanIndexTimestamp),
          size dev.scanIndexTimestamp⟩], ?_, fun level => reads_last (wide level) ⟨?_, rfl, rfl, trivial⟩⟩
      · simp only [Option.bind_eq_bind, Option.bind_some, if_true, demuxEntry_described described mine,
          recordChannels, ending_append]
        rfl
      · rw [(reads level.steady).1, level.timestamp rfl, with_stamp asked, recordChannels, spots_append]
        exact List.mem_append_right _ (List.mem_cons_self ..)

/-! The copies. -/

variable {value : Nat → List (BitVec 8)} {datain bounce : List Cell}

theorem copyEntries_holds (sized : ∀ si, (value si).length = size si)
    (holds : ∀ {si place}, (si, place) ∈ places → Cells.At datain place (value si)) :
    ∀ {outs : List Nat} {entries : List DemuxTable} {outLoc : Nat} {bounce : List Cell},
      Reads size places outLoc outs entries → ending size outLoc outs ≤ bounce.length →
        ∃ after, copyEntries datain entries bounce = .ok after ∧ after.length = bounce.length ∧
          Holds size value after outLoc outs ∧
            ∀ {place : Nat} {items : List (BitVec 8)}, Cells.At bounce place items → place + items.length ≤ outLoc →
              Cells.At after place items := by
  intro outs
  induction outs with
  | nil =>
      intro entries outLoc bounce reads _
      cases entries with
      | nil => exact ⟨bounce, rfl, rfl, holds_nil, fun stands _ => stands⟩
      | cons entry rest => exact reads.elim
  | cons si rest ih =>
      intro entries outLoc bounce reads room
      cases entries with
      | nil => exact reads.elim
      | cons entry entries =>
          obtain ⟨found, toLoc, length, reads⟩ := reads
          have read : Cells.copy datain entry.fromLoc entry.length = .ok (value si) :=
            Cells.copy_iff.mpr ⟨holds found, (sized si).trans length.symm⟩
          have fits : entry.toLoc + (value si).length ≤ bounce.length := by
            rw [toLoc, sized]
            exact Nat.le_trans ending_le room
          have written := Cells.patch_iff.mpr ⟨fits, rfl⟩
          have long := Cells.patch_length written
          obtain ⟨after, done, lengths, whole, front⟩ := ih reads (Nat.le_trans room (Nat.le_of_eq long.symm))
          refine ⟨after, ?_, lengths.trans long, holds_cons.mpr ⟨?_, whole⟩, fun stands before => ?_⟩
          · rw [copyEntries, read]
            simp only [bind, Except.bind, written]
            exact done
          · have stands := front (Cells.patch_stands written) (Nat.le_of_eq (by rw [toLoc, sized]))
            rwa [toLoc] at stands
          · refine front (Cells.patch_before written stands ?_) ?_
            · rw [toLoc]
              exact Nat.le_trans before alignUp_le
            · exact Nat.le_trans before (Nat.le_trans alignUp_le (Nat.le_add_right _ _))

/-! One scan, one buffer. -/

/-- The buffer's table is the one for the scan. -/
def Tabled (dev : DevSpec) (active : Bitmap) (buffer : Buffer) : Prop :=
  if bitmapEqual dev.masklength active buffer.scanMask = true then buffer.demuxList = []
  else demuxTable dev active buffer.scanMask buffer.scanTimestamp = some (buffer.demuxList, buffer.demuxBounce.length)

/-- And its datum is the record of its channels. -/
structure Fed (dev : DevSpec) (active : Bitmap) (buffer : Buffer) : Prop where
  table : Tabled dev active buffer
  bytes : computeScanBytes dev buffer.scanMask buffer.scanTimestamp = some buffer.bytesPerDatum

variable {buffer : Buffer}

theorem setBits_equal (equal : bitmapEqual dev.masklength active mask = true) :
    setBits dev.masklength mask = setBits dev.masklength active := by
  refine List.filter_congr fun si member => ?_
  exact (beq_iff_eq.mp (List.all_eq_true.mp equal si member)).symm

theorem bytes_recordChannels (described : Described dev size) (fed : Fed dev active buffer) :
    buffer.bytesPerDatum = ending size 0 (recordChannels dev buffer.scanMask buffer.scanTimestamp) :=
  Option.some.inj (fed.bytes.symm.trans (computeScanBytes_ending described))

theorem storeTo_holds (described : Described dev size) (fed : Fed dev active buffer)
    (sized : ∀ si, (value si).length = size si) {dataout : List Cell}
    (holds : Holds size value dataout 0 (recordChannels dev buffer.scanMask buffer.scanTimestamp))
    (room : ending size 0 (recordChannels dev buffer.scanMask buffer.scanTimestamp) ≤ dataout.length) :
    ∃ record, storeTo buffer.bytesPerDatum dataout = .ok record ∧
      record.length = ending size 0 (recordChannels dev buffer.scanMask buffer.scanTimestamp) ∧
        Holds size value record 0 (recordChannels dev buffer.scanMask buffer.scanTimestamp) := by
  rw [bytes_recordChannels described fed]
  refine ⟨_, if_pos room, ?_, holds_take sized holds (Nat.le_refl _)⟩
  rw [List.length_take]
  exact Nat.min_eq_left room

/-- A scan that has all its channels gives a buffer its record of them. -/
theorem pushToBuffer_record (described : Described dev size) (fed : Fed dev active buffer)
    (covered : Covered dev active buffer.scanMask)
    (level : Level dev size active buffer.scanMask buffer.scanTimestamp) {stamped : Bool}
    (with_stamp : buffer.scanTimestamp = true → stamped = true) (sized : ∀ si, (value si).length = size si)
    (holds : Holds size value datain 0 (recordChannels dev active stamped))
    (room : ending size 0 (recordChannels dev active stamped) ≤ datain.length) :
    ∃ record bounce, pushToBuffer buffer datain = .ok (record, { buffer with demuxBounce := bounce }) ∧
      bounce.length = buffer.demuxBounce.length ∧
        record.length = ending size 0 (recordChannels dev buffer.scanMask buffer.scanTimestamp) ∧
          Holds size value record 0 (recordChannels dev buffer.scanMask buffer.scanTimestamp) := by
  have table := fed.table
  rw [Tabled] at table
  split at table
  · rename_i equal
    have front : ∃ rest, recordChannels dev active stamped =
        recordChannels dev buffer.scanMask buffer.scanTimestamp ++ rest := by
      rw [recordChannels, recordChannels, setBits_equal equal]
      cases asked : buffer.scanTimestamp with
      | true => exact ⟨[], by rw [with_stamp asked, List.append_nil]⟩
      | false =>
          refine ⟨if stamped = true then [dev.scanIndexTimestamp] else [], ?_⟩
          rw [if_neg Bool.false_ne_true, List.append_nil]
    obtain ⟨rest, whole⟩ := front
    rw [whole] at holds room
    rw [ending_append] at room
    obtain ⟨record, stored, length, kept⟩ := storeTo_holds described fed sized (holds_append.mp holds).1
      (Nat.le_trans ending_le room)
    refine ⟨record, buffer.demuxBounce, ?_, rfl, length, kept⟩
    simp only [pushToBuffer, demux, table, bind, Except.bind, stored]
  · obtain ⟨entries, made, reads⟩ := demuxTable_covered described covered with_stamp
    rw [made] at table
    obtain ⟨entries_same, length_same⟩ := Prod.mk.inj (Option.some.inj table)
    obtain ⟨after, done, lengths, kept, -⟩ := copyEntries_holds sized holds (reads level)
      (Nat.le_of_eq length_same)
    rw [entries_same] at done
    cases none : buffer.demuxList with
    | nil =>
        have bare := reads level
        rw [entries_same, none] at bare
        cases channels : recordChannels dev buffer.scanMask buffer.scanTimestamp with
        | cons si rest =>
            rw [channels] at bare
            exact bare.elim
        | nil =>
            have empty : Holds size value datain 0 (recordChannels dev buffer.scanMask buffer.scanTimestamp) := by
              rw [channels]
              exact holds_nil
            have room : ending size 0 (recordChannels dev buffer.scanMask buffer.scanTimestamp) ≤ datain.length := by
              rw [channels]
              exact Nat.zero_le _
            obtain ⟨record, stored, length, held⟩ := storeTo_holds described fed sized empty room
            rw [channels] at length held
            refine ⟨record, buffer.demuxBounce, ?_, rfl, length, held⟩
            simp only [pushToBuffer, demux, none, bind, Except.bind, stored]
    | cons entry rest =>
        obtain ⟨record, stored, length, held⟩ := storeTo_holds described fed sized kept
          (Nat.le_of_eq (length_same.trans lengths.symm))
        refine ⟨record, after, ?_, lengths, length, held⟩
        rw [none] at done
        simp only [pushToBuffer, demux, none, done, bind, Except.bind, stored]

/-- A scan of two channels of two bytes and one of four, of which the buffer wants the last: its
copy begins behind the scan. -/
example :
    (demuxTable ⟨[⟨0, 16⟩, ⟨1, 16⟩, ⟨2, 32⟩], 3, 0, none, fun _ => true, true, false⟩ (fun _ => true)
      (fun si => si == 2) false).map (fun table => table.1.map DemuxTable.fromLoc) = some [8] ∧
      ending (fun si => if si = 2 then 4 else 2) 0 [0, 1, 2] = 8 := by
  decide

end MangOH.Iio
