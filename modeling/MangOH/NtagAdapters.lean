import MangOH.Ntag

/-!
The two adapters that keep an NDEF message on the tag, in its EEPROM and in its SRAM. A
message is given as the bytes that it encodes to. A buffer is a list of cells, with `none`
for one that was never written.
-/

namespace MangOH.Nfc

open Blocks

/-! Waiting for the reader. -/

/-- A wait with its polls, as far as the clock lets them happen, and the last one. -/
structure Wait where
  timeOut : Nat
  startTime : Nat
  polls : List Poll
  last : Poll
deriving DecidableEq

def waitLoop (wait : Wait) : List Poll → Ntag → Bool × Ntag
  | [], ntag => (!(isRfBusy wait.last ntag).1, (isRfBusy wait.last ntag).2)
  | poll :: rest, ntag =>
      if poll.now < wait.startTime + wait.timeOut then
        let busy := isRfBusy poll ntag
        if busy.1 then waitLoop wait rest busy.2 else (true, busy.2)
      else (!(isRfBusy wait.last ntag).1, (isRfBusy wait.last ntag).2)

def waitUntilRfDone (wait : Wait) (ntag : Ntag) : Bool × Ntag :=
  waitLoop wait (if 0 < wait.timeOut then wait.polls else []) ntag

/-! What a read returns. -/

inductive Message where
  /-- Built from cells of the buffer. -/
  | parsed (cells : List (Option Byte))
  /-- One empty record, which is no byte of the tag. -/
  | empty
deriving DecidableEq

structure NfcTag where
  uid : List Byte
  tagType : String
  message : Option Message
deriving DecidableEq

/-- The part of a buffer that a message is built from, of what was read into its front. -/
def part (front : List Byte) (size start length : Nat) : List (Option Byte) :=
  ((front.map some ++ List.replicate (size - front.length) none).drop start).take length

def messageTypeNdef : Byte := 3
def terminator : Byte := 0xFE

variable (works : Nat → Bool)

/-! The adapter for the EEPROM. -/

structure NtagEepromAdapter where
  ntag : Ntag
  uid : List Byte
  tagCapacity : Nat
  messageLength : Nat
  bufferSize : Nat
  ndefStartIndex : Nat

def nfcForumTagType2 : String := "NFC Forum Type 2"

namespace NtagEepromAdapter

def isUnformatted (adapter : NtagEepromAdapter) (bus : Bus) : Bool × Bus :=
  let page := readEeprom works adapter.ntag 0 4 bus
  (page.1 && page.2.1 == [0, 0, 0, 0], page.2.2)

/-- Where the container cannot be read, the capacity stays as it was. -/
def readCapabilityContainer (adapter : NtagEepromAdapter) (bus : Bus) :
    Bool × NtagEepromAdapter × Bus :=
  let container := getCapabilityContainer works adapter.ntag bus
  match container.1 with
  | none => (true, adapter, container.2)
  | some data =>
      if data.getD 0 0 ≠ 0xE1 then (false, adapter, container.2)
      else (true, { adapter with tagCapacity := (data.getD 2 0).toNat * 8 }, container.2)

/-- The size of the type, the length, the message and the terminator, in whole blocks. -/
def sizeFor (messageLength ndefStartIndex : Nat) : Nat :=
  let bufferSize := messageLength + ndefStartIndex + 1
  if bufferSize % ntagBlockSize ≠ 0 then (bufferSize / ntagBlockSize + 1) * ntagBlockSize
  else bufferSize

def calculateBufferSize (adapter : NtagEepromAdapter) : NtagEepromAdapter :=
  { adapter with bufferSize := sizeFor adapter.messageLength adapter.ndefStartIndex }

def startIndex (messageLength : Nat) : Nat := if messageLength < 0xFF then 2 else 4

/-- The type and the length. -/
def header (messageLength : Nat) : List Byte :=
  if messageLength < 0xFF then [messageTypeNdef, BitVec.ofNat 8 messageLength]
  else [messageTypeNdef, 0xFF, BitVec.ofNat 8 (messageLength >>> 8), BitVec.ofNat 8 messageLength]

def encoded (message : List Byte) (bufferSize : Nat) : List Byte :=
  header message.length ++ message ++ [terminator] ++
    List.replicate (bufferSize - startIndex message.length - message.length - 1) 0

def write (wait : Wait) (message : List Byte) (adapter : NtagEepromAdapter) (bus : Bus) :
    Bool × NtagEepromAdapter × Bus :=
  let done := waitUntilRfDone wait adapter.ntag
  let adapter := { adapter with ntag := done.2 }
  if !done.1 then (false, adapter, bus)
  else
    let container := readCapabilityContainer works adapter bus
    if !container.1 then (false, container.2.1, container.2.2)
    else
      let unformatted := isUnformatted works container.2.1 container.2.2
      if unformatted.1 then (false, container.2.1, unformatted.2)
      else
        let adapter := calculateBufferSize { container.2.1 with
          messageLength := message.length, ndefStartIndex := startIndex message.length }
        if adapter.bufferSize > adapter.tagCapacity then (false, adapter, unformatted.2)
        else
          -- Neither this result nor the next is looked at; the size is passed in a byte.
          let stored := writeEeprom works adapter.ntag 0 (encoded message adapter.bufferSize)
            (BitVec.ofNat 8 adapter.bufferSize) unformatted.2
          let last := setLastNdefBlock works stored.2.1 stored.2.2
          (true, { adapter with ntag := stored.2.1 }, releaseI2c works stored.2.1 last.2)

/-- Where the first block cannot be read, the length and the index stay as they were. -/
def findNdefMessage (adapter : NtagEepromAdapter) (bus : Bus) : NtagEepromAdapter × Bus :=
  let page := readEeprom works adapter.ntag 0 16 bus
  let data := page.2.1
  if !page.1 then (adapter, page.2.2)
  else if data.getD 0 0 = 0x03 then
    ({ adapter with messageLength := (data.getD 1 0).toNat, ndefStartIndex := 2 }, page.2.2)
  else if data.getD 5 0 = 0x03 then
    ({ adapter with messageLength := (data.getD 6 0).toNat, ndefStartIndex := 7 }, page.2.2)
  else (adapter, page.2.2)

def read (adapter : NtagEepromAdapter) (bus : Bus) : NfcTag × NtagEepromAdapter × Bus :=
  let unformatted := isUnformatted works adapter bus
  if unformatted.1 then (⟨adapter.uid, nfcForumTagType2, none⟩, adapter, unformatted.2)
  else
    let container := readCapabilityContainer works adapter unformatted.2
    if !container.1 then
      (⟨adapter.uid, nfcForumTagType2, none⟩, container.2.1, container.2.2)
    else
      let found := findNdefMessage works container.2.1 container.2.2
      let adapter := calculateBufferSize found.1
      if adapter.messageLength = 0 then
        (⟨adapter.uid, nfcForumTagType2, some .empty⟩, adapter, found.2)
      else
        let buffer := readEeprom works adapter.ntag 0 (BitVec.ofNat 8 adapter.bufferSize) found.2
        (⟨adapter.uid, nfcForumTagType2, some (.parsed
          (part buffer.2.1 adapter.bufferSize adapter.ndefStartIndex adapter.messageLength))⟩,
          adapter, buffer.2.2)

end NtagEepromAdapter

/-! The adapter for the SRAM. -/

/-- The first byte of the message's type among the first 16, behind zero bytes only. -/
def getNdefStartIndex : Nat → List Byte → Option Nat
  | 0, _ => none
  | left + 1, data =>
      if data.headD 0 = 0 then (getNdefStartIndex left data.tail).map (· + 1)
      else if data.headD 0 = messageTypeNdef then some 0
      else none

/-- The length of the message and where it starts. -/
def decodeTlv (data : List Byte) : Option (Nat × Nat) :=
  match getNdefStartIndex 16 data with
  | none => none
  | some i => some ((data.getD (i + 1) 0).toNat, i + 2)

structure NtagSramAdapter where
  ntag : Ntag
  uid : List Byte

def sramSize : Nat := 64

namespace NtagSramAdapter

def encoded (message : List Byte) : List Byte :=
  [messageTypeNdef, BitVec.ofNat 8 message.length] ++ message ++ [terminator]

def write (wait : Wait) (message : List Byte) (adapter : NtagSramAdapter) (bus : Bus) :
    Bool × NtagSramAdapter × Bus :=
  let done := waitUntilRfDone wait adapter.ntag
  let adapter := { adapter with ntag := done.2 }
  if !done.1 then (false, adapter, bus)
  else if 3 + message.length > sramSize then (false, adapter, bus)
  else
    let stored := writeSram works adapter.ntag 0 (encoded message)
      (BitVec.ofNat 8 (3 + message.length)) bus
    let last := setLastNdefBlock works stored.2.1 stored.2.2
    (true, { adapter with ntag := stored.2.1 }, releaseI2c works stored.2.1 last.2)

def read (wait : Wait) (adapter : NtagSramAdapter) (bus : Bus) : NfcTag × NtagSramAdapter × Bus :=
  let done := waitUntilRfDone wait adapter.ntag
  let adapter := { adapter with ntag := done.2 }
  if !done.1 then (⟨adapter.uid, "NOT READY2", none⟩, adapter, bus)
  else
    let buffer := readSram works adapter.ntag 0 (BitVec.ofNat 8 sramSize) bus
    if !buffer.1 then (⟨adapter.uid, "ERROR", none⟩, adapter, buffer.2.2)
    else
      let released := releaseI2c works adapter.ntag buffer.2.2
      match decodeTlv buffer.2.1 with
      | none => (⟨adapter.uid, "ERROR", none⟩, adapter, released)
      | some (length, start) =>
          (⟨adapter.uid, "NTAG", some (.parsed (part buffer.2.1 sramSize start length))⟩, adapter,
            released)

end NtagSramAdapter

end MangOH.Nfc
