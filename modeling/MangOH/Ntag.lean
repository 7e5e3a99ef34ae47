import MangOH.Blocks

/-!
The NFC tag as it is reached over I2C: blocks of 16 bytes by their number, the registers
behind a block number of their own. Each transfer may fail; `works` says of the transfers
of one call, in their order, which do not. The registers are not kept, and what the status
register answers is an input.
-/

namespace MangOH.Nfc

open Blocks

abbrev Byte := BitVec 8

abbrev ntagBlockSize : Nat := 16

abbrev Content := Memory Byte 16

/-- The memory of the tag, how many transfers the call has made, and the writes that the
tag has acknowledged. -/
structure Bus where
  memory : Content
  made : Nat
  sent : List (List Byte)

/-- The tag at the beginning of a call. -/
def Bus.start (memory : Content) : Bus := ⟨memory, 0, []⟩

/-- A write of a block is its number and 16 bytes; the shorter ones are for registers. -/
def Bus.receive (bus : Bus) (frame : List Byte) : Bus where
  memory := match frame with
    | [] => bus.memory
    | address :: data =>
        if full : data.length = 16 then set bus.memory address.toNat ⟨data, full⟩ else bus.memory
  made := bus.made
  sent := bus.sent ++ [frame]

def Bus.count (bus : Bus) : Bus := { bus with made := bus.made + 1 }

/-! The wire: what is queued is sent by the call that queued it. -/

def bufferLength : Nat := 32

/-- `ArduinoWire::write`. -/
def queue (txBuffer : List Byte) (data : Byte) : List Byte :=
  if bufferLength ≤ txBuffer.length then txBuffer else txBuffer ++ [data]

variable (works : Nat → Bool)

def endTransmission (txBuffer : List Byte) (bus : Bus) : Int × Bus :=
  if txBuffer = [] then (1, bus)
  else if works bus.made then (0, bus.count.receive txBuffer)
  else (-3, bus.count)

/-- The length that was read and the bytes, of a block by its number. -/
def requestFrom (txBuffer : List Byte) (readLen : Nat) (bus : Bus) : Int × List Byte × Bus :=
  match txBuffer with
  | [] => (0, [], bus)
  | address :: _ =>
      if readLen = 0 then (-2, [], bus)
      else if works bus.made then (readLen, (bus.memory address.toNat).items.take readLen, bus.count)
      else (-1, [], bus.count)

inductive DeviceType where
  | ntagI2c1K
  | ntagI2c2K
deriving DecidableEq

inductive BlockType where
  | config
  | usermem
  | register
  | sram
deriving DecidableEq

def isAddressValid (dt : DeviceType) (type : BlockType) (blocknr : Nat) : Bool :=
  match type, dt with
  | .config, _ => blocknr = 0
  | .usermem, .ntagI2c1K => 1 ≤ blocknr ∧ blocknr ≤ 0x38
  | .usermem, .ntagI2c2K => 1 ≤ blocknr ∧ blocknr ≤ 0x7F
  | .sram, _ => 0xF8 ≤ blocknr ∧ blocknr ≤ 0xFB
  | .register, _ => blocknr = 0xFE

/-- `none` is an address that is not valid. -/
def writeBlockAddress (dt : DeviceType) (type : BlockType) (addr : Nat) : Option (List Byte) :=
  if isAddressValid dt type addr then some (queue [] (BitVec.ofNat 8 addr)) else none

def readBlock (dt : DeviceType) (bt : BlockType) (memBlockAddress dataSize : Nat) (bus : Bus) :
    Option (List Byte) × Bus :=
  if ntagBlockSize < dataSize then (none, bus)
  else match writeBlockAddress dt bt memBlockAddress with
    | none => (none, bus)
    | some txBuffer =>
        let answer := requestFrom works txBuffer dataSize bus
        (if answer.1 = dataSize then some answer.2.1 else none, answer.2.2)

def writeBlock (dt : DeviceType) (bt : BlockType) (memBlockAddress : Nat) (data : List Byte)
    (bus : Bus) : Bool × Bus :=
  match writeBlockAddress dt bt memBlockAddress with
  | none => (false, bus)
  | some txBuffer =>
      let answer := endTransmission works (data.foldl queue txBuffer) bus
      (answer.1 = 0, answer.2)

def lastNdefBlock : Byte := 1
def nsReg : Byte := 6

def writeRegister (dt : DeviceType) (regAddr mask regdat : Byte) (bus : Bus) : Bool × Bus :=
  if 7 < regAddr.toNat then (false, bus)
  else match writeBlockAddress dt .register 0xFE with
    | none => (false, bus)
    | some txBuffer =>
        let answer := endTransmission works ([regAddr, mask, regdat].foldl queue txBuffer) bus
        (answer.1 = 0, answer.2)

/-- What a read of a register gives, and the value that it leaves. -/
def readRegister : Option Byte → Bool × Byte
  | none => (false, 0)
  | some value => (true, value)

/-- The variables of `Ntag`. -/
structure Ntag where
  dt : DeviceType
  lastMemBlockWritten : Nat
  mirrorBaseBlockNr : Nat
  rfBusyStartTime : Nat
  triggered : Bool

def eepromBaseAddr : Nat := 1 <<< 4
def sramBaseAddr : Nat := 0xF8 <<< 4

/-! Writing. -/

/-- The loop over what is left of the data; a block that is not filled is read first. The
number of the next block, and the result. -/
def writeLoop (dt : DeviceType) (bt : BlockType) :
    Nat → Nat → List Byte → Bus → Bool × Nat × Bus
  | 0, blockNr, _, bus => (true, blockNr, bus)
  | left + 1, blockNr, data, bus =>
      if data = [] then (true, blockNr, bus)
      else
        let chunk := data.take ntagBlockSize
        let readbuffer :=
          if chunk.length = ntagBlockSize then (some chunk, bus)
          else
            let block := readBlock works dt bt blockNr ntagBlockSize bus
            (block.1.map fun bytes => chunk ++ bytes.drop chunk.length, block.2)
        match readbuffer.1 with
        | none => (false, blockNr, readbuffer.2)
        | some block =>
            let written := writeBlock works dt bt blockNr block readbuffer.2
            if written.1 then writeLoop dt bt left (blockNr + 1) (data.drop ntagBlockSize) written.2
            else (false, blockNr, written.2)

/-- `Ntag::write` from the loop on, with the blocks numbered by a byte. -/
def writeRest (ntag : Ntag) (bt : BlockType) (blockNr : Nat) (data : List Byte) (bus : Bus) :
    Bool × Ntag × Bus :=
  let loop := writeLoop works ntag.dt bt data.length blockNr data bus
  if loop.1 then (true, { ntag with lastMemBlockWritten := (loop.2.1 + 255) % 256 }, loop.2.2)
  else (false, ntag, loop.2.2)

def write (ntag : Ntag) (bt : BlockType) (byteAddress : Nat) (pdata : List Byte) (length : Byte)
    (bus : Bus) : Bool × Ntag × Bus :=
  let data := pdata.take length.toNat
  let blockNr := byteAddress / ntagBlockSize % 256
  let offset := byteAddress % ntagBlockSize
  if offset ≠ 0 then
    let block := readBlock works ntag.dt bt blockNr ntagBlockSize bus
    match block.1 with
    | none => (false, ntag, block.2)
    | some bytes =>
        -- What a copy past the end of `readbuffer` or of `pdata` does is not looked at.
        let writeLength := max (ntagBlockSize - offset) length.toNat
        let merged := bytes.take offset ++ data.take writeLength ++ bytes.drop (offset + data.length)
        let written := writeBlock works ntag.dt bt blockNr (merged.take ntagBlockSize) block.2
        if written.1 then writeRest works ntag bt (blockNr + 1) (data.drop writeLength) written.2
        else (false, ntag, written.2)
  else writeRest works ntag bt blockNr data bus

def writeEeprom (ntag : Ntag) (address : Nat) (pdata : List Byte) (length : Byte) (bus : Bus) :
    Bool × Ntag × Bus :=
  write works ntag .usermem ((address + eepromBaseAddr) % 65536) pdata length bus

def writeSram (ntag : Ntag) (address : Nat) (pdata : List Byte) (length : Byte) (bus : Bus) :
    Bool × Ntag × Bus :=
  write works ntag .sram ((address + sramBaseAddr) % 65536) pdata length bus

/-! Reading. What is read is given as the bytes that `pdata` gets, from its front on. -/

def readLoop (dt : DeviceType) (bt : BlockType) (eb : Nat) :
    Nat → Nat → Nat → Nat → Bus → Bool × List Byte × Bus
  | 0, _, _, _, bus => (true, [], bus)
  | left + 1, i, byteAddress, length, bus =>
      let block := readBlock works dt bt i ntagBlockSize bus
      match block.1 with
      | none => (false, [], block.2)
      | some readbuffer =>
          let offset := if i = eb ∨ i + 1 = eb then byteAddress % ntagBlockSize else 0
          let readLength := if i = eb then length else ntagBlockSize - offset
          let rest := readLoop dt bt eb left (i + 1) (byteAddress + readLength) (length - readLength)
            block.2
          (rest.1, (readbuffer.drop offset).take readLength ++ rest.2.1, rest.2.2)

/-- The blocks `sb` to `eb`, of which there are none where the length is zero at the start of
a block. -/
def read (ntag : Ntag) (bt : BlockType) (byteAddress : Nat) (length : Byte) (bus : Bus) :
    Bool × List Byte × Bus :=
  let sb := byteAddress / ntagBlockSize
  let eb := (byteAddress + length.toNat - 1) / ntagBlockSize
  readLoop works ntag.dt bt eb (eb + 1 - sb % 256) (sb % 256) byteAddress length.toNat bus

def readEeprom (ntag : Ntag) (address : Nat) (length : Byte) (bus : Bus) : Bool × List Byte × Bus :=
  read works ntag .usermem ((address + eepromBaseAddr) % 65536) length bus

def readSram (ntag : Ntag) (address : Nat) (length : Byte) (bus : Bus) : Bool × List Byte × Bus :=
  read works ntag .sram ((address + sramBaseAddr) % 65536) length bus

def getCapabilityContainer (ntag : Ntag) (bus : Bus) : Option (List Byte) × Bus :=
  let block := readBlock works ntag.dt .config 0 16 bus
  (block.1.map fun data => (data.drop 12).take 4, block.2)

/-- The block that the reader is to take for the last one: of the memory that the reader
sees, also where the SRAM was written. -/
def lastNdef (ntag : Ntag) : Nat :=
  if isAddressValid ntag.dt .sram ntag.lastMemBlockWritten then
    ntag.lastMemBlockWritten - (sramBaseAddr >>> 4) + ntag.mirrorBaseBlockNr
  else ntag.lastMemBlockWritten

def setLastNdefBlock (ntag : Ntag) (bus : Bus) : Bool × Bus :=
  writeRegister works ntag.dt lastNdefBlock 0xFF (BitVec.ofNat 8 (lastNdef ntag)) bus

def releaseI2c (ntag : Ntag) (bus : Bus) : Bus :=
  (writeRegister works ntag.dt nsReg 0x40 0 bus).2

/-- One poll of the status register: the time that the loop finds, what the register
answers, and the time that is noted. -/
structure Poll where
  now : Nat
  answer : Option Byte
  noted : Nat
deriving DecidableEq

def rfLocked : Nat := 5

def isRfBusy (poll : Poll) (ntag : Ntag) : Bool × Ntag :=
  let regVal := (readRegister poll.answer).2
  if regVal.getLsbD rfLocked then
    (true, { ntag with rfBusyStartTime := poll.noted, triggered := true })
  else (ntag.triggered && poll.noted < ntag.rfBusyStartTime + 30, ntag)

end MangOH.Nfc
