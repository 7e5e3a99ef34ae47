import MangOH.PolledDevice
import MangOH.QueueMemory

/-!
The SPI protocol of `mt7697q/io.c` and the bridge of the slave that it talks
to. A frame is four bytes; the two halves of an address or of a word go in
frames of their own, and a command moves one word. The bridge samples its
registers when it carries the command out, at any moment until it is idle, and
what it answers outside its registers and the busy bit is noise.
-/

namespace MangOH.SpiBridge

open BitFields QueueMemory PolledDevice

abbrev Octet := BitVec 8

def cmdWrite : Octet := 0x80
def cmdRead : Octet := 0x00

def readDataLow : Octet := 0x00
def readDataHigh : Octet := 0x02
def writeDataLow : Octet := 0x04
def writeDataHigh : Octet := 0x06
def busAddrLow : Octet := 0x08
def busAddrHigh : Octet := 0x0A
def regCommand : Octet := 0x0C
def regStatus : Octet := 0x10
def regIrq : Octet := 0x14
def regMailboxS2m : Octet := 0x18
def regMailboxM2s : Octet := 0x1C

def lowHalf (word : Word) : BitVec 16 := word.setWidth 16

def highHalf (word : Word) : BitVec 16 := (word >>> 16).setWidth 16

inductive Command where
  | read
  | write
  deriving DecidableEq

/-- `command` is what the bridge is busy with. -/
structure Bridge where
  busAddr : Word
  writeData : Word
  readData : Word
  command : Option Command
  memory : Word → Word

/-- How a transfer ends, whether one that fails has reached the bridge, and the
bits that the bridge leaves open. -/
structure Noise where
  ret : Int
  arrives : Bool
  bits : BitVec 16

/-- A command for another size than a word is not taken. -/
def Bridge.setReg (bridge : Bridge) (reg : Octet) (value : BitVec 16) : Bridge :=
  if reg = writeDataLow then { bridge with writeData := highHalf bridge.writeData ++ value }
  else if reg = writeDataHigh then { bridge with writeData := value ++ lowHalf bridge.writeData }
  else if reg = busAddrLow then { bridge with busAddr := highHalf bridge.busAddr ++ value }
  else if reg = busAddrHigh then { bridge with busAddr := value ++ lowHalf bridge.busAddr }
  else if reg = regCommand ∧ (value >>> 1) &&& 3 = 2 then
    { bridge with command := some (if value.getLsbD 0 = true then .write else .read) }
  else bridge

def Bridge.status (bridge : Bridge) (bits : BitVec 16) : BitVec 16 :=
  bits &&& ~~~ 1 ||| if bridge.command = none then 0 else 1

/-- The data register says nothing while the bridge is busy. -/
def Bridge.reg (bridge : Bridge) (reg : Octet) (bits : BitVec 16) : BitVec 16 :=
  if reg = regStatus then bridge.status bits
  else if bridge.command = none ∧ reg = readDataLow then lowHalf bridge.readData
  else if bridge.command = none ∧ reg = readDataHigh then highHalf bridge.readData
  else bits

def Bridge.carryOut (bridge : Bridge) : Bridge :=
  match bridge.command with
  | none => bridge
  | some .write =>
      { bridge with
        memory := fun place => if place = bridge.busAddr then bridge.writeData else bridge.memory place
        busAddr := bridge.busAddr + 4
        command := none }
  | some .read =>
      { bridge with
        readData := bridge.memory bridge.busAddr
        busAddr := bridge.busAddr + 4
        command := none }

def Bridge.receive (bridge : Bridge) : List Octet → Bridge
  | [cmd, reg, high, low] => if cmd = cmdWrite then bridge.setReg reg (high ++ low) else bridge
  | _ => bridge

def Bridge.answer (bridge : Bridge) (bits : BitVec 16) : List Octet → List Octet
  | [cmd, reg, high, low] =>
      if cmd = cmdRead then
        let value := bridge.reg reg bits
        [0, 0, (value >>> 8).setWidth 8, value.setWidth 8]
      else [0, 0, high, low]
  | frame => frame

theorem carryOut_idle {bridge : Bridge} (idle : bridge.command = none) : bridge.carryOut = bridge := by
  simp only [Bridge.carryOut, idle]

theorem carryOut_command (bridge : Bridge) : bridge.carryOut.command = none := by
  unfold Bridge.carryOut
  split
  · assumption
  · rfl
  · rfl

def port : Port Bridge (List Octet) Noise where
  write bridge frame noise :=
    (if 0 ≤ noise.ret ∨ noise.arrives = true then bridge.receive frame else bridge, noise.ret)
  read bridge frame noise := (noise.ret, bridge.answer noise.bits frame)
  settle := Bridge.carryOut
  settled bridge := carryOut_idle (carryOut_command bridge)

/-! `io.c`; each function goes on with what it returns. -/

variable {Result : Type}

abbrev Io (Result : Type) := Program (List Octet) Result

def mt7697ioBusy (value : BitVec 16) : Bool := bfGet (value.setWidth 32) 0 1 == 1

def mt7697ioWrite16 (reg : Octet) (value : BitVec 16) (next : Int → Io Result) : Io Result :=
  .write [cmdWrite, reg, (value >>> 8).setWidth 8, value.setWidth 8] next

def mt7697ioWrite32 (reg : Octet) (value : Word) (next : Int → Io Result) : Io Result :=
  mt7697ioWrite16 reg ((bfGet value 0 16).setWidth 16) fun ret =>
    if ret < 0 then next ret
    else mt7697ioWrite16 (reg + 2) ((bfGet value 16 16).setWidth 16) next

/-- The last two bytes that came in. -/
def received : List Octet → BitVec 16
  | _ :: _ :: high :: low :: _ => high ++ low
  | _ => 0

def mt7697ioRead16 (reg : Octet) (next : Int → BitVec 16 → Io Result) : Io Result :=
  .read [cmdRead, reg, 0, 0] fun ret frame => next ret (received frame)

def mt7697ioRead32 (reg : Octet) (next : Int → Word → Io Result) : Io Result :=
  mt7697ioRead16 reg fun ret low =>
    if ret < 0 then next ret 0
    else mt7697ioRead16 (reg + 2) fun ret high =>
      if ret < 0 then next ret 0
      else next ret (low.setWidth 32 ||| high.setWidth 32 <<< 16)

/-- The loop around `mt7697io_chk_slave_busy`. -/
def mt7697ioSlaveWait (next : Int → Io Result) : Io Result :=
  .poll [cmdRead, regStatus, 0, 0] (fun frame => mt7697ioBusy (received frame)) next

def wordCommand (rw : Word) : BitVec 16 := (bfDefine 2 1 2 ||| bfDefine rw 0 1).setWidth 16

/-- The return code, and the words or the mailbox that a call reads. -/
abbrev Outcome := Int × List Word

/-- The loop of `mt7697io_wr`, with the code that the last round left. -/
def wrLoop : List Word → Int → Io Outcome
  | [], ret => .done (ret, [])
  | word :: rest, _ =>
      mt7697ioWrite32 writeDataLow word fun ret =>
        if ret < 0 then .done (ret, [])
        else mt7697ioWrite16 regCommand (wordCommand 1) fun ret =>
          if ret < 0 then .done (ret, [])
          else mt7697ioSlaveWait fun ret =>
            if ret < 0 then .done (ret, []) else wrLoop rest ret

def mt7697ioWr (addr : Word) (data : List Word) : Io Outcome :=
  mt7697ioWrite32 busAddrLow addr fun ret => if ret < 0 then .done (ret, []) else wrLoop data ret

/-- The loop of `mt7697io_rd`, with the words that are there already. -/
def rdLoop : Nat → List Word → Int → Io Outcome
  | 0, words, ret => .done (ret, words)
  | num + 1, words, _ =>
      mt7697ioWrite16 regCommand (wordCommand 0) fun ret =>
        if ret < 0 then .done (ret, words)
        else mt7697ioSlaveWait fun ret =>
          if ret < 0 then .done (ret, words)
          else mt7697ioRead32 readDataLow fun ret word =>
            if ret < 0 then .done (ret, words) else rdLoop num (words ++ [word]) ret

def mt7697ioRd (addr : Word) (num : Nat) : Io Outcome :=
  mt7697ioWrite32 busAddrLow addr fun ret => if ret < 0 then .done (ret, []) else rdLoop num [] ret

def mt7697ioWrM2sMbx (bits : Word) : Io Outcome :=
  mt7697ioWrite16 regMailboxM2s ((bfDefine bits 0 7).setWidth 16) fun ret => .done (ret, [])

def mt7697ioRdS2mMbx : Io Outcome :=
  mt7697ioRead16 regMailboxS2m fun ret value =>
    .done (ret, if ret < 0 then [] else [bfGet (value.setWidth 32) 0 6])

def mt7697ioClrS2mMbx (bits : Word) : Io Outcome :=
  mt7697ioWrite16 regMailboxS2m ((bfDefine bits 0 6).setWidth 16) fun ret => .done (ret, [])

def mt7697ioTriggerIntr : Io Outcome :=
  mt7697ioWrite16 regIrq ((bfDefine 1 0 1).setWidth 16) fun ret => .done (ret, [])

/-- The calls of `io.h`. -/
inductive Call where
  | wr (addr : Word) (data : List Word)
  | rd (addr : Word) (num : Nat)
  | wrM2sMbx (bits : Word)
  | rdS2mMbx
  | clrS2mMbx (bits : Word)
  | triggerIntr

def Call.program : Call → Io Outcome
  | .wr addr data => mt7697ioWr addr data
  | .rd addr num => mt7697ioRd addr num
  | .wrM2sMbx bits => mt7697ioWrM2sMbx bits
  | .rdS2mMbx => mt7697ioRdS2mMbx
  | .clrS2mMbx bits => mt7697ioClrS2mMbx bits
  | .triggerIntr => mt7697ioTriggerIntr

/-- A call that succeeds has done to the memory what its name says, and nothing
else; `begun` is the bridge before its first frame. -/
def Call.Refines : Call → Bridge → Outcome → Bridge → Prop
  | .wr addr data, begun, outcome, bridge =>
      0 ≤ outcome.1 → bridge.memory = storeWords begun.memory addr data
  | .rd addr num, begun, outcome, bridge =>
      0 ≤ outcome.1 → outcome.2 = loadWords begun.memory addr num ∧ bridge.memory = begun.memory
  | _, _, _, _ => True

/-- A word transfer that gets its first frame through finds the bridge idle. -/
def Call.Begins : Call → Bridge → Noise → Prop
  | .wr _ _, bridge, noise => 0 ≤ noise.ret → bridge.command = none
  | .rd _ _, bridge, noise => 0 ≤ noise.ret → bridge.command = none
  | _, _, _ => True

/-! Halves, bytes and the busy test. -/

theorem bytes_join (value : BitVec 16) :
    ((value >>> 8).setWidth 8 ++ value.setWidth 8 : BitVec (8 + 8)) = value := by
  apply BitVec.eq_of_getLsbD_eq
  intro bit inside
  rw [BitVec.getLsbD_append, BitVec.getLsbD_setWidth, BitVec.getLsbD_setWidth,
    BitVec.getLsbD_ushiftRight]
  by_cases low : bit < 8
  · simp [low]
  · simp [low, show bit - 8 < 8 by omega, show 8 + (bit - 8) = bit by omega]

theorem halves_join (word : Word) : (highHalf word ++ lowHalf word : BitVec (16 + 16)) = word := by
  apply BitVec.eq_of_getLsbD_eq
  intro bit inside
  rw [BitVec.getLsbD_append, highHalf, lowHalf, BitVec.getLsbD_setWidth, BitVec.getLsbD_setWidth,
    BitVec.getLsbD_ushiftRight]
  by_cases low : bit < 16
  · simp [low]
  · simp [low, show bit - 16 < 16 by omega, show 16 + (bit - 16) = bit by omega]

theorem lowHalf_join (high low : BitVec 16) : lowHalf (high ++ low) = low := by
  apply BitVec.eq_of_getLsbD_eq
  intro bit inside
  rw [lowHalf, BitVec.getLsbD_setWidth, BitVec.getLsbD_append]
  simp [inside]

theorem halves_or (word : Word) :
    (lowHalf word).setWidth 32 ||| (highHalf word).setWidth 32 <<< 16 = word := by
  apply BitVec.eq_of_getLsbD_eq
  intro bit inside
  rw [BitVec.getLsbD_or, BitVec.getLsbD_shiftLeft, BitVec.getLsbD_setWidth, BitVec.getLsbD_setWidth,
    highHalf, lowHalf, BitVec.getLsbD_setWidth, BitVec.getLsbD_setWidth, BitVec.getLsbD_ushiftRight]
  by_cases low : bit < 16
  · simp [low, inside]
  · simp [low, inside, show bit - 16 < 16 by omega, show bit - 16 < 32 by omega,
      show 16 + (bit - 16) = bit by omega]

theorem bfGet_lowHalf (word : Word) : (bfGet word 0 16).setWidth 16 = lowHalf word := by
  apply BitVec.eq_of_getLsbD_eq
  intro bit inside
  rw [lowHalf, BitVec.getLsbD_setWidth, BitVec.getLsbD_setWidth, getLsbD_bfGet]
  simp [inside, Nat.le_of_lt inside]

theorem bfGet_highHalf (word : Word) : (bfGet word 16 16).setWidth 16 = highHalf word := by
  apply BitVec.eq_of_getLsbD_eq
  intro bit inside
  rw [highHalf, BitVec.getLsbD_setWidth, BitVec.getLsbD_setWidth, getLsbD_bfGet,
    BitVec.getLsbD_ushiftRight]
  simp [inside, Nat.le_of_lt inside]

theorem busy_iff (value : BitVec 16) :
    mt7697ioBusy value = true ↔ value.getLsbD 0 = true ∧ value.getLsbD 1 = false := by
  rw [mt7697ioBusy, beq_iff_eq, bfGet_bit_iff getLsbD_one_beyond, BitVec.getLsbD_setWidth,
    BitVec.getLsbD_setWidth]
  exact Iff.rfl

/-! What a call meets from an idle bridge. -/

/-- A status that arrives while the bridge is busy has the bit above the busy
bit clear. -/
def fair (bridge : Bridge) (noise : Noise) : Prop :=
  0 ≤ noise.ret → bridge.command ≠ none → noise.bits.getLsbD 1 = false

/-- A call that fails promises nothing. -/
def Sound (post : Outcome → Bridge → Prop) : Prop :=
  ∀ ret words bridge, ret < 0 → post (ret, words) bridge

abbrev Meets (post : Outcome → Bridge → Prop) (program : Io Outcome) (bridge : Bridge) : Prop :=
  Program.Meets port fair post program bridge

section
variable {post : Outcome → Bridge → Prop} {bridge : Bridge} {next : Int → Io Outcome}

theorem meets_failed (sound : Sound post) {ret : Int} (failed : ret < 0) (words : List Word)
    (bridge : Bridge) : Meets post (.done (ret, words)) bridge :=
  fun after _ => sound ret words after failed

theorem settles_idle {after : Bridge} (idle : bridge.command = none)
    (settles : Program.Settles port bridge after) : after = bridge := by
  rcases settles with rfl | rfl
  · rfl
  · exact carryOut_idle idle

/-- The frame brings the register its value, unless the transfer fails. -/
theorem write16_meets {reg : Octet} {value : BitVec 16} (idle : bridge.command = none)
    (failed : ∀ ret, ret < 0 → ∀ after, Meets post (next ret) after)
    (success : ∀ ret, 0 ≤ ret → Meets post (next ret) (bridge.setReg reg value)) :
    Meets post (mt7697ioWrite16 reg value next) bridge := by
  intro after settles noise
  obtain rfl := settles_idle idle settles
  by_cases fine : 0 ≤ noise.ret
  · have done := success noise.ret fine
    simp only [port, if_pos (Or.inl fine), Bridge.receive, if_true, bytes_join]
    exact done
  · exact failed noise.ret (by omega) _

theorem write32_meets {reg : Octet} {value : Word} (idle : bridge.command = none)
    (other : ∀ half, (bridge.setReg reg half).command = none)
    (failed : ∀ ret, ret < 0 → ∀ after, Meets post (next ret) after)
    (success : ∀ ret, 0 ≤ ret → Meets post (next ret)
      ((bridge.setReg reg (lowHalf value)).setReg (reg + 2) (highHalf value))) :
    Meets post (mt7697ioWrite32 reg value next) bridge := by
  rw [mt7697ioWrite32, bfGet_lowHalf, bfGet_highHalf]
  apply write16_meets idle
  · intro ret negative after
    simpa only [if_pos negative] using failed ret negative after
  · intro ret fine
    rw [if_neg (by omega)]
    exact write16_meets (other _) failed success

/-- The halves of an address arrive one after the other. -/
theorem setReg_addr (bridge : Bridge) (addr : Word) :
    (bridge.setReg busAddrLow (lowHalf addr)).setReg (busAddrLow + 2) (highHalf addr) =
      { bridge with busAddr := addr } := by
  have low : ∀ half, bridge.setReg busAddrLow half =
      { bridge with busAddr := highHalf bridge.busAddr ++ half } := fun _ => rfl
  have high : ∀ (before : Bridge) half, before.setReg (busAddrLow + 2) half =
      { before with busAddr := half ++ lowHalf before.busAddr } := fun _ _ => rfl
  rw [low, high, lowHalf_join, halves_join]

theorem setReg_data (bridge : Bridge) (word : Word) :
    (bridge.setReg writeDataLow (lowHalf word)).setReg (writeDataLow + 2) (highHalf word) =
      { bridge with writeData := word } := by
  have low : ∀ half, bridge.setReg writeDataLow half =
      { bridge with writeData := highHalf bridge.writeData ++ half } := fun _ => rfl
  have high : ∀ (before : Bridge) half, before.setReg (writeDataLow + 2) half =
      { before with writeData := half ++ lowHalf before.writeData } := fun _ _ => rfl
  rw [low, high, lowHalf_join, halves_join]

theorem addr_meets {addr : Word} (idle : bridge.command = none)
    (failed : ∀ ret, ret < 0 → ∀ after, Meets post (next ret) after)
    (success : ∀ ret, 0 ≤ ret → Meets post (next ret) { bridge with busAddr := addr }) :
    Meets post (mt7697ioWrite32 busAddrLow addr next) bridge := by
  have other : ∀ half, (bridge.setReg busAddrLow half).command = none := fun _ => idle
  apply write32_meets idle other failed
  rw [setReg_addr]
  exact success

theorem data_meets {word : Word} (idle : bridge.command = none)
    (failed : ∀ ret, ret < 0 → ∀ after, Meets post (next ret) after)
    (success : ∀ ret, 0 ≤ ret → Meets post (next ret) { bridge with writeData := word }) :
    Meets post (mt7697ioWrite32 writeDataLow word next) bridge := by
  have other : ∀ half, (bridge.setReg writeDataLow half).command = none := fun _ => idle
  apply write32_meets idle other failed
  rw [setReg_data]
  exact success

/-- The poll ends when the bridge has carried the command out, and not before. -/
theorem wait_meets (busy : bridge.command ≠ none)
    (failed : ∀ ret, ret < 0 → ∀ after, Meets post (next ret) after)
    (success : ∀ ret, 0 ≤ ret → Meets post (next ret) bridge.carryOut) :
    Meets post (mt7697ioSlaveWait next) bridge := by
  intro after settles noise answered stops
  by_cases fine : 0 ≤ noise.ret
  · rcases settles with rfl | rfl
    · have value : received (after.answer noise.bits [cmdRead, regStatus, 0, 0]) =
          after.status noise.bits := bytes_join _
      have set : mt7697ioBusy (after.status noise.bits) = true := by
        have clear := answered fine busy
        apply (busy_iff _).mpr
        constructor
        · simp [Bridge.status, busy]
        · simpa [Bridge.status, busy] using clear
      have stop : mt7697ioBusy (received (after.answer noise.bits [cmdRead, regStatus, 0, 0])) =
          false := stops fine
      rw [value, set] at stop
      exact absurd stop (by decide)
    · exact success noise.ret fine
  · exact failed noise.ret (by omega) after

theorem read16_meets {reg : Octet} {next : Int → BitVec 16 → Io Outcome} {value : BitVec 16}
    (idle : bridge.command = none) (holds : ∀ bits, bridge.reg reg bits = value)
    (failed : ∀ ret, ret < 0 → ∀ word after, Meets post (next ret word) after)
    (success : ∀ ret, 0 ≤ ret → Meets post (next ret value) bridge) :
    Meets post (mt7697ioRead16 reg next) bridge := by
  intro after settles noise
  obtain rfl := settles_idle idle settles
  by_cases fine : 0 ≤ noise.ret
  · have answer : received (after.answer noise.bits [cmdRead, reg, 0, 0]) =
        after.reg reg noise.bits := bytes_join _
    have done := success noise.ret fine
    simp only [port, answer, holds]
    exact done
  · exact failed noise.ret (by omega) _ _

theorem data_read {next : Int → Word → Io Outcome} (idle : bridge.command = none)
    (failed : ∀ ret, ret < 0 → ∀ word after, Meets post (next ret word) after)
    (success : ∀ ret, 0 ≤ ret → Meets post (next ret bridge.readData) bridge) :
    Meets post (mt7697ioRead32 readDataLow next) bridge := by
  have low : ∀ bits, bridge.reg readDataLow bits = lowHalf bridge.readData := by
    intro bits
    simp [Bridge.reg, idle, regStatus, readDataLow]
  have high : ∀ bits, bridge.reg (readDataLow + 2) bits = highHalf bridge.readData := by
    intro bits
    simp [Bridge.reg, idle, regStatus, readDataLow, readDataHigh]
  apply read16_meets idle low
  · intro ret negative word after
    simpa only [if_pos negative] using failed ret negative 0 after
  · intro ret fine
    rw [if_neg (by omega)]
    apply read16_meets idle high
    · intro ret negative word after
      simpa only [if_pos negative] using failed ret negative 0 after
    · intro ret fine
      rw [if_neg (by omega), halves_or]
      exact success ret fine

/-- What a call does after a transfer that failed. -/
theorem cleanup_meets (sound : Sound post) (words : List Word) (ret : Int) (failed : ret < 0)
    (after : Bridge) :
    Meets post (if ret < 0 then .done (ret, words) else next ret) after := by
  rw [if_pos failed]
  exact meets_failed sound failed words after

/-- The command stands until the bridge has carried it out. -/
theorem command_meets {rw : Word} {command : Command} {words : List Word} (sound : Sound post)
    (idle : bridge.command = none)
    (taken : bridge.setReg regCommand (wordCommand rw) = { bridge with command := some command })
    (success : ∀ ret, 0 ≤ ret →
      Meets post (next ret) (Bridge.carryOut { bridge with command := some command })) :
    Meets post (mt7697ioWrite16 regCommand (wordCommand rw) fun ret =>
      if ret < 0 then .done (ret, words)
      else mt7697ioSlaveWait fun ret => if ret < 0 then .done (ret, words) else next ret) bridge := by
  apply write16_meets idle (cleanup_meets sound words)
  intro ret fine
  rw [if_neg (by omega), taken]
  apply wait_meets (by simp) (cleanup_meets sound words)
  intro ret fine
  rw [if_neg (by omega)]
  exact success ret fine

theorem setReg_write (bridge : Bridge) :
    bridge.setReg regCommand (wordCommand 1) = { bridge with command := some .write } := rfl

theorem setReg_read (bridge : Bridge) :
    bridge.setReg regCommand (wordCommand 0) = { bridge with command := some .read } := rfl

theorem wrLoop_meets (sound : Sound post) {data : List Word} {ret : Int}
    (stored : ∀ ret after, after.memory = storeWords bridge.memory bridge.busAddr data →
      post (ret, []) after)
    (idle : bridge.command = none) : Meets post (wrLoop data ret) bridge := by
  induction data generalizing bridge ret with
  | nil =>
      intro after settles
      rw [settles_idle idle settles]
      exact stored ret bridge rfl
  | cons word rest ih =>
      apply data_meets idle (cleanup_meets sound [])
      intro ret fine
      rw [if_neg (by omega)]
      have ready : ({ bridge with writeData := word } : Bridge).command = none := idle
      apply command_meets sound ready (setReg_write _)
      intro ret fine
      exact ih stored rfl

theorem rdLoop_meets (sound : Sound post) {num : Nat} {words : List Word} {ret : Int}
    (loaded : ∀ ret after, after.memory = bridge.memory →
      post (ret, words ++ loadWords bridge.memory bridge.busAddr num) after)
    (idle : bridge.command = none) : Meets post (rdLoop num words ret) bridge := by
  induction num generalizing bridge words ret with
  | zero =>
      intro after settles
      rw [settles_idle idle settles]
      have all := loaded ret bridge rfl
      rwa [loadWords, List.append_nil] at all
  | succ num ih =>
      apply command_meets sound idle (setReg_read _)
      intro ret fine
      apply data_read rfl
      · intro ret negative word after
        exact cleanup_meets sound words ret negative after
      · intro ret fine
        rw [if_neg (by omega)]
        apply ih _ rfl
        intro ret after same
        have all := loaded ret after same
        rwa [loadWords, List.append_cons] at all

end

theorem refines_sound (call : Call) (begun : Bridge) : Sound (call.Refines begun) := by
  intro ret words bridge failed
  cases call with
  | wr addr data => exact fun success => absurd success (by omega)
  | rd addr num => exact fun success => absurd success (by omega)
  | wrM2sMbx bits => trivial
  | rdS2mMbx => trivial
  | clrS2mMbx bits => trivial
  | triggerIntr => trivial

theorem wr_meets {bridge : Bridge} (idle : bridge.command = none) (addr : Word)
    (data : List Word) : Meets (Call.Refines (.wr addr data) bridge) (mt7697ioWr addr data) bridge := by
  have sound := refines_sound (.wr addr data) bridge
  apply addr_meets idle (cleanup_meets sound [])
  intro ret fine
  rw [if_neg (by omega)]
  exact wrLoop_meets sound (fun _ _ memory _ => memory) idle

theorem rd_meets {bridge : Bridge} (idle : bridge.command = none) (addr : Word) (num : Nat) :
    Meets (Call.Refines (.rd addr num) bridge) (mt7697ioRd addr num) bridge := by
  have sound := refines_sound (.rd addr num) bridge
  apply addr_meets idle (cleanup_meets sound [])
  intro ret fine
  rw [if_neg (by omega)]
  exact rdLoop_meets sound (fun _ _ memory _ => ⟨rfl, memory⟩) idle

/-- A call whose first frame fails ends there. -/
theorem opening_meets {bridge : Bridge} {noise : Noise} {post : Outcome → Bridge → Prop}
    {reg : Octet} {value : Word} {next : Int → Io Outcome} (sound : Sound post)
    (begins : 0 ≤ noise.ret → bridge.command = none)
    (meets : bridge.command = none → Meets post
      (mt7697ioWrite32 reg value fun ret => if ret < 0 then .done (ret, []) else next ret) bridge) :
    let moved := (mt7697ioWrite32 reg value fun ret =>
      if ret < 0 then .done (ret, []) else next ret).step port noise bridge
    Meets post moved.1 moved.2 := by
  by_cases fine : 0 ≤ noise.ret
  · exact Program.meets_step (meets (begins fine)) trivial
  · have failed : noise.ret < 0 := by omega
    change Meets post (if noise.ret < 0 then
      if noise.ret < 0 then .done (noise.ret, []) else next noise.ret else _) _
    rw [if_pos failed]
    exact cleanup_meets sound [] noise.ret failed _

theorem call_opens {call : Call} {bridge : Bridge} {noise : Noise}
    (begins : call.Begins bridge noise) :
    Meets (call.Refines bridge) (call.program.step port noise bridge).1
      (call.program.step port noise bridge).2 := by
  have sound := refines_sound call bridge
  cases call with
  | wr addr data => exact opening_meets sound begins (fun idle => wr_meets idle addr data)
  | rd addr num => exact opening_meets sound begins (fun idle => rd_meets idle addr num)
  | wrM2sMbx bits => exact Program.meets_always (fun _ _ => trivial) _ _
  | rdS2mMbx => exact Program.meets_always (fun _ _ => trivial) _ _
  | clrS2mMbx bits => exact Program.meets_always (fun _ _ => trivial) _ _
  | triggerIntr => exact Program.meets_always (fun _ _ => trivial) _ _

end MangOH.SpiBridge
