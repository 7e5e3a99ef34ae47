import MangOH.Masks
import Mathlib.Data.Nat.Bitwise

/-!
The operations of the light sensor, on what the driver caches and on the registers of
the device. An operation makes its transfers one after the other; each may fail. The
lock and the flags that the interrupt handler shares with a reading are not looked at
here: what a reading gets from the handler is an input.
-/

namespace MangOH.LightSensor

open Masks

abbrev Word := BitVec 16

inductive Register where
  | result
  | configuration
  | lowLimit
  | highLimit
deriving DecidableEq

/-! The fields of the configuration register. -/

def ctBit : Word := 1 <<< 11
def mMask : Word := 3 <<< 9
def crfBit : Word := 1 <<< 7
def rnMask : Word := 0xf <<< 12
def lBit : Word := 1 <<< 4
def polBit : Word := 1 <<< 3
def meBit : Word := 1 <<< 2
def fcMask : Word := 3 <<< 0

/-- Automatic full-scale setting mode. -/
def rnAuto : Word := 0xc <<< 12

def shutdown : Word := 0 <<< 9
def single : Word := 1 <<< 9
def continuous : Word := 2 <<< 9

/-- The end-of-conversion enable is located in the low-limit register. -/
def eocEnable : Word := 0xc000

def intTimeLong : Nat := 800000
def intTimeShort : Nat := 100000

structure Threshold where
  mantissa : Word
  exponent : BitVec 8
deriving DecidableEq

def regExponent (n : Word) : BitVec 8 := (n >>> 12).setWidth 8
def regMantissa (n : Word) : Word := n &&& 0xfff

def Threshold.ofWord (n : Word) : Threshold := ⟨regMantissa n, regExponent n⟩

def Threshold.toWord (threshold : Threshold) : Word :=
  threshold.exponent.setWidth 16 <<< 12 ||| threshold.mantissa

/-- The scales are whole parts with millionths. -/
structure Chip where
  scalerNumerator : Nat
  scalerDenominator : Nat
  table : List (Int × Int)

def opt3001 : Chip where
  scalerNumerator := 1
  scalerDenominator := 100
  table := [(40, 950000), (81, 900000), (163, 800000), (327, 600000), (655, 200000), (1310, 400000),
    (2620, 800000), (5241, 600000), (10483, 200000), (20966, 400000), (41932, 800000), (83865, 600000)]

def opt3002 : Chip where
  scalerNumerator := 6
  scalerDenominator := 5
  table := [(4914, 0), (9828, 0), (19656, 0), (39312, 0), (78624, 0), (157248, 0), (314496, 0),
    (628992, 0), (1257984, 0), (2515968, 0), (5031936, 0), (10063872, 0)]

/-- Whole and micro parts combined in milli precision, in an `int`. -/
def milli (val val2 : Int) : Int := (BitVec.ofInt 32 (val * 1000 + val2.tdiv 1000)).toInt

/-- The first scale that is not below the value, by its place in the table. -/
def findScale (val val2 : Int) : List (Int × Int) → Option Nat
  | [] => none
  | scale :: rest =>
      if milli val val2 ≤ milli scale.1 scale.2 then some 0 else (findScale val val2 rest).map (· + 1)

/-- `do_div` of the scaled value, which is a `u64`. -/
def Chip.scaled (chip : Chip) (val val2 : Int) : Nat :=
  (BitVec.ofInt 64 ((val * 1000000 + val2) * chip.scalerDenominator)).toNat /
    (chip.scalerNumerator * 1000000)

/-- A threshold as it is cached. -/
def Chip.threshold (chip : Chip) (val val2 : Int) : Option Threshold :=
  (findScale val val2 chip.table).map fun exponent =>
    ⟨BitVec.ofNat 16 (chip.scaled val val2 >>> exponent), BitVec.ofNat 8 exponent⟩

/-- The whole part of a value, and its millionths. -/
def Chip.toIioRet (chip : Chip) (threshold : Threshold) : Nat × Nat :=
  let res := 1000000 / chip.scalerDenominator *
    (threshold.mantissa.toNat <<< threshold.exponent.toNat) * chip.scalerNumerator
  (res / 1000000, res - 1000000 * (res / 1000000))

structure Cache where
  intTime : Nat
  mode : Word
  lowThresh : Threshold
  highThresh : Threshold
  result : Word

structure Device where
  configuration : Word
  lowLimit : Word
  highLimit : Word
  result : Word

structure Sensor where
  cache : Cache
  device : Device

/-- A write to the configuration register starts over: no conversion is ready. -/
def Device.write (register : Register) (word : Word) (device : Device) : Device :=
  match register with
  | .result => device
  | .configuration => { device with configuration := clear word crfBit }
  | .lowLimit => { device with lowLimit := word }
  | .highLimit => { device with highLimit := word }

/-- The end of a conversion. A device that shuts down then says so in its mode. -/
def Device.complete (shutsDown : Bool) (completed : Option Word) (device : Device) : Device :=
  match completed with
  | none => device
  | some result =>
      { device with
        result := result
        configuration :=
          (if shutsDown then clear device.configuration mMask else device.configuration) ||| crfBit }

/-- `use_irq`, the chip, and whether the device shuts down after a single conversion. -/
structure Settings where
  chip : Chip
  useIrq : Bool
  shutsDown : Bool

/-- Whether each transfer succeeds that is made in turn. -/
abbrev Bus := Nat → Bool

inductive Errno where
  | io
  | timedOut
  | inval
deriving DecidableEq

/-- What an operation leaves: how many transfers it made, the register whose write
failed, and what it returned, with the value of a reading. -/
structure Done where
  sensor : Sensor
  transfers : Nat
  failed : Option Register
  ret : Except Errno (Option (Nat × Nat))

/-- An operation whose last transfer is a write. -/
def writeLast (register : Register) (word : Word) (index : Nat) (bus : Bus) (sensor : Sensor)
    (value : Option (Nat × Nat)) : Done :=
  if bus index then
    ⟨{ sensor with device := sensor.device.write register word }, index + 1, none, .ok value⟩
  else ⟨sensor, index + 1, some register, .error .io⟩

/-- A conversion during a reading: its result, and whether the handler delivers it in time. -/
structure Shot where
  completed : Option Word
  delivered : Bool

/-- The end of a reading that waits for the interrupt, which takes the result from the
device. A reading that succeeded restores the low limit. -/
def awaitIrq (chip : Chip) (shot : Shot) (bus : Bus) (sensor : Sensor) : Done :=
  match shot.completed, shot.delivered with
  | some result, true =>
      let sensor := { sensor with cache := { sensor.cache with result := result } }
      writeLast .lowLimit sensor.cache.lowThresh.toWord 3 bus sensor
        (some (chip.toIioRet (.ofWord result)))
  | _, _ => ⟨sensor, 3, none, .error .timedOut⟩

/-- The end of a reading that sleeps instead. What `ret` holds at the end is the result. -/
def poll (chip : Chip) (bus : Bus) (sensor : Sensor) : Done :=
  if bus 2 = false then ⟨sensor, 3, none, .error .io⟩
  else if sensor.device.configuration &&& crfBit = 0 then ⟨sensor, 3, none, .error .timedOut⟩
  else if bus 3 = false then ⟨sensor, 4, none, .error .io⟩
  else
    let ret := sensor.device.result
    let sensor := { sensor with cache := { sensor.cache with result := ret } }
    if ret = 0 then ⟨sensor, 4, none, .error .timedOut⟩
    else ⟨sensor, 4, none, .ok (some (chip.toIioRet (.ofWord ret)))⟩

/-- `opt300x_set_mode`: the word that is to be written, and the cache. -/
def setMode (mode : Word) (cache : Cache) : Cache := { cache with mode := mode }

/-- The part of a reading from the configuration on; `first` transfers were made. -/
def startConversion (settings : Settings) (shot : Shot) (first : Nat) (bus : Bus) (sensor : Sensor) :
    Done :=
  if bus first = false then ⟨sensor, first + 1, none, .error .io⟩
  else
    let reg := replace sensor.device.configuration mMask single
    let sensor := { sensor with cache := setMode single sensor.cache }
    if bus (first + 1) = false then ⟨sensor, first + 2, some .configuration, .error .io⟩
    else
      let device := (sensor.device.write .configuration reg).complete settings.shutsDown shot.completed
      let sensor := { sensor with device := device }
      if settings.useIrq then awaitIrq settings.chip shot bus sensor else poll settings.chip bus sensor

def getReading (settings : Settings) (shot : Shot) (bus : Bus) (sensor : Sensor) : Done :=
  if settings.useIrq then
    if bus 0 = false then ⟨sensor, 1, some .lowLimit, .error .io⟩
    else
      startConversion settings shot 1 bus
        { sensor with device := sensor.device.write .lowLimit eocEnable }
  else startConversion settings shot 0 bus sensor

def setIntTime (time : Int) (bus : Bus) (sensor : Sensor) : Done :=
  if bus 0 = false then ⟨sensor, 1, none, .error .io⟩
  else
    let reg := sensor.device.configuration
    if time = intTimeShort then
      writeLast .configuration (clear reg ctBit) 1 bus
        { sensor with cache := { sensor.cache with intTime := intTimeShort } } none
    else if time = intTimeLong then
      writeLast .configuration (reg ||| ctBit) 1 bus
        { sensor with cache := { sensor.cache with intTime := intTimeLong } } none
    else ⟨sensor, 1, none, .error .inval⟩

inductive Direction where
  | rising
  | falling
  | other
deriving DecidableEq

def writeEventValue (chip : Chip) (dir : Direction) (val val2 : Int) (bus : Bus) (sensor : Sensor) :
    Done :=
  if val < 0 then ⟨sensor, 0, none, .error .inval⟩
  else
    match chip.threshold val val2 with
    | none => ⟨sensor, 0, none, .error .inval⟩
    | some threshold =>
        match dir with
        | .rising =>
            writeLast .highLimit threshold.toWord 0 bus
              { sensor with cache := { sensor.cache with highThresh := threshold } } none
        | .falling =>
            writeLast .lowLimit threshold.toWord 0 bus
              { sensor with cache := { sensor.cache with lowThresh := threshold } } none
        | .other => ⟨sensor, 0, none, .error .inval⟩

def writeEventConfig (state : Bool) (bus : Bus) (sensor : Sensor) : Done :=
  let mode := if state then continuous else shutdown
  if sensor.cache.mode = mode then ⟨sensor, 0, none, .ok none⟩
  else if bus 0 = false then ⟨sensor, 1, none, .error .io⟩
  else
    let reg := replace sensor.device.configuration mMask mode
    writeLast .configuration reg 1 bus { sensor with cache := setMode mode sensor.cache } none

/-- `opt300x_configure`, with `none` where it fails. -/
def configure (bus : Bus) (sensor : Sensor) : Option Sensor :=
  if bus 0 = false then none
  else
    let reg := replace sensor.device.configuration rnMask rnAuto
    let intTime := if reg &&& ctBit = 0 then intTimeShort else intTimeLong
    let reg := replace reg mMask shutdown ||| lBit
    let reg := clear (clear (clear reg polBit) meBit) fcMask
    if bus 1 = false ∨ bus 2 = false ∨ bus 3 = false then none
    else
      let device := sensor.device.write .configuration reg
      some ⟨⟨intTime, shutdown, .ofWord device.lowLimit, .ofWord device.highLimit, sensor.cache.result⟩,
        device⟩

inductive Operation where
  | getReading (shot : Shot)
  | setIntTime (time : Int)
  | writeEventValue (dir : Direction) (val val2 : Int)
  | writeEventConfig (state : Bool)

def Operation.perform (settings : Settings) (bus : Bus) (sensor : Sensor) : Operation → Done
  | .getReading shot => LightSensor.getReading settings shot bus sensor
  | .setIntTime time => LightSensor.setIntTime time bus sensor
  | .writeEventValue dir val val2 => LightSensor.writeEventValue settings.chip dir val val2 bus sensor
  | .writeEventConfig state => LightSensor.writeEventConfig state bus sensor

end MangOH.LightSensor
