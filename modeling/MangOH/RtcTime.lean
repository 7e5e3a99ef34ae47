import MangOH.Bcd
import MangOH.I2c
import Mathlib.Tactic.IntervalCases

/-!
Setting and reading the time of the PCF85063. What `pcf85063_stop_clock` hands on as the
content of the control register is what its write returned.
-/

namespace MangOH.RtcTime

open I2c

def regCtrl1 : Byte := 0x00
def ctrl1Stop : Byte := 0x20
def regSc : Byte := 0x04
def scOs : Byte := 0x80

def eio : Int := 5
def einval : Int := 22

/-- What `struct rtc_time` has of a time and both functions use. -/
structure Time where
  tmSec : Int
  tmMin : Int
  tmHour : Int
  tmMday : Int
  tmWday : Int
  tmMon : Int
  tmYear : Int
deriving DecidableEq

/-- The value as `unsigned int`, in two digits. -/
def bin2bcd (val : Int) : Byte := BitVec.ofNat 8 (Bcd.encode (BitVec.ofInt 32 val).toNat)

def bcd2bin (val : Byte) : Int := Bcd.decode val.toNat

/-- A function's result, the registers, and how many transfers there were. -/
structure Outcome where
  ret : Int
  registers : Registers
  transfers : Nat

variable (bus : Nat → Transfer)

/-- The outcome, and what is left in `ctrl1`. -/
def pcf85063StopClock (ctrl1 : Byte) (registers : Registers) : Outcome × Byte :=
  match read (bus 0) registers regCtrl1 with
  | .error _ => (⟨-eio, registers, 1⟩, ctrl1)
  | .ok content =>
      let written := write (bus 1) regCtrl1 [content ||| ctrl1Stop] registers
      if written.1 < 0 then (⟨-eio, written.2, 2⟩, ctrl1)
      else (⟨0, written.2, 2⟩, BitVec.ofInt 8 written.1)

def pcf85063StartClock (transfer : Transfer) (ctrl1 : Byte) (registers : Registers) :
    Int × Registers :=
  let written := write transfer regCtrl1 [ctrl1 &&& ~~~ctrl1Stop] registers
  if written.1 < 0 then (-eio, written.2) else (0, written.2)

/-- The registers from `regSc` on for this time. -/
def timeRegs (tm : Time) : List Byte :=
  [bin2bcd tm.tmSec &&& 0x7F, bin2bcd tm.tmMin, bin2bcd tm.tmHour, bin2bcd tm.tmMday,
    BitVec.ofInt 8 tm.tmWday &&& 0x07, bin2bcd (tm.tmMon + 1), bin2bcd (tm.tmYear - 100)]

/-- `stale` is what is in `ctrl1` before anything is put there. -/
def pcf85063RtcSetTime (stale : Byte) (tm : Time) (registers : Registers) : Outcome :=
  if tm.tmYear < 100 ∨ 199 < tm.tmYear then ⟨-einval, registers, 0⟩
  else
    let stopped := pcf85063StopClock bus stale registers
    if stopped.1.ret ≠ 0 then stopped.1
    else
      let written := write (bus 2) regSc (timeRegs tm) stopped.1.registers
      if written.1 < 0 then ⟨written.1, written.2, 3⟩
      else
        let started := pcf85063StartClock (bus 3) stopped.2 written.2
        ⟨started.1, started.2, 4⟩

/-- All seven registers are read at once. -/
def pcf85063RtcReadTime (transfer : Transfer) (registers : Registers) : Except Int Time :=
  match transfer with
  | .failed .. => .error (-eio)
  | .done =>
      let regs (place : Nat) : Byte := registers (regSc + BitVec.ofNat 8 place)
      if regs 0 &&& scOs ≠ 0 then .error (-einval)
      else .ok {
        tmSec := bcd2bin (regs 0 &&& 0x7F)
        tmMin := bcd2bin (regs 1 &&& 0x7F)
        tmHour := bcd2bin (regs 2 &&& 0x3F)
        tmMday := bcd2bin (regs 3 &&& 0x3F)
        tmWday := (regs 4 &&& 0x07).toNat
        tmMon := bcd2bin (regs 5 &&& 0x1F) - 1
        tmYear := bcd2bin (regs 6) + 100 }

/-! Times and what holds of a call. -/

/-- The days of a month, counted from zero, of a year from 1900 on. -/
def monthDays (mon year : Int) : Int :=
  let year := year + 1900
  if mon = 1 then if year % 4 = 0 ∧ (year % 100 ≠ 0 ∨ year % 400 = 0) then 29 else 28
  else if mon = 3 ∨ mon = 5 ∨ mon = 8 ∨ mon = 10 then 30 else 31

/-- A calendar time from 2000 to 2099. -/
structure Valid (tm : Time) : Prop where
  sec : 0 ≤ tm.tmSec ∧ tm.tmSec < 60
  min : 0 ≤ tm.tmMin ∧ tm.tmMin < 60
  hour : 0 ≤ tm.tmHour ∧ tm.tmHour < 24
  mon : 0 ≤ tm.tmMon ∧ tm.tmMon < 12
  mday : 1 ≤ tm.tmMday ∧ tm.tmMday ≤ monthDays tm.tmMon tm.tmYear
  wday : 0 ≤ tm.tmWday ∧ tm.tmWday < 7
  year : 100 ≤ tm.tmYear ∧ tm.tmYear ≤ 199

def Runs (registers : Registers) : Prop := registers regCtrl1 &&& ctrl1Stop = 0

instance (registers : Registers) : Decidable (Runs registers) :=
  inferInstanceAs (Decidable (_ = _))

def otherBits (registers : Registers) : Byte := registers regCtrl1 &&& ~~~ctrl1Stop

/-- What a call keeps. `works` is whether the transfer after the call's last one works. -/
structure Kept (tm : Time) (before : Registers) (after : Outcome) (works : Prop) : Prop where
  others : otherBits after.registers = otherBits before
  sets : after.ret = 0 → pcf85063RtcReadTime .done after.registers = .ok tm ∧ Runs after.registers
  fails : after.ret ≠ 0 → works → Runs after.registers

/-- What the call meets: where its first failing transfer is, what is known of the next one, and
what the control register holds. -/
def Safe (before : Registers) : Prop :=
  match bus 0, bus 1, bus 2, bus 3 with
  | .failed .., next, _, _ => next = .done → Runs before
  | .done, .failed _ taken, next, _ => next = .done → taken = 0 ∧ Runs before
  | .done, .done, .failed .., next => next ≠ .done
  | .done, .done, .done, .failed _ taken =>
      if taken = 0 then bus 4 ≠ .done else otherBits before = 0
  | .done, .done, .done, .done => otherBits before = 0

variable {bus} {tm : Time} {stale ctrl1 : Byte} {before registers : Registers}

/-! What is set is read back. -/

theorem bcd2bin_masked {val : Int} {bits : Nat} (wide : bits ≤ 8) (least : 0 ≤ val)
    (small : val < 100) (fits : Bcd.encode val.toNat < 2 ^ bits) :
    bcd2bin (bin2bcd val &&& BitVec.ofNat 8 (2 ^ bits - 1)) = val := by
  have unsigned : (BitVec.ofInt 32 val).toNat = val.toNat := by
    rw [BitVec.toNat_ofInt]
    omega
  rw [bcd2bin, bin2bcd, unsigned, Bcd.decode_masked wide fits]
  omega

/-- A number below so many tens is read back under the mask of that many sixteens. -/
theorem bcd_round_trip {val : Int} (bits tens : Nat) (wide : bits ≤ 8) (least : 0 ≤ val)
    (most : val < tens * 10) (few : tens ≤ 10) (mask : tens * 16 ≤ 2 ^ bits) :
    bcd2bin (bin2bcd val &&& BitVec.ofNat 8 (2 ^ bits - 1)) = val := by
  have encoded : Bcd.encode val.toNat < tens * 16 := Bcd.encode_lt (by omega)
  exact bcd2bin_masked wide least (by omega) (Nat.lt_of_lt_of_le encoded mask)

theorem wday_round_trip {val : Int} (least : 0 ≤ val) (most : val < 7) :
    (((BitVec.ofInt 8 val &&& 0x07) &&& 0x07 : Byte).toNat : Int) = val := by
  rw [BitVec.and_assoc, BitVec.and_self]
  have seven : (0x07 : Byte).toNat = 2 ^ 3 - 1 := rfl
  rw [BitVec.toNat_and, seven, Nat.and_two_pow_sub_one_eq_mod, BitVec.toNat_ofInt]
  omega

theorem monthDays_le (mon year : Int) : monthDays mon year ≤ 31 := by
  simp only [monthDays]
  omega

theorem bcd2bin_round_trip {val : Int} (least : 0 ≤ val) (most : val < 100) :
    bcd2bin (bin2bcd val) = val := by
  have whole : bin2bcd val &&& BitVec.ofNat 8 (2 ^ 8 - 1) = bin2bcd val := BitVec.and_allOnes
  rw [← whole]
  exact bcd_round_trip 8 10 (by decide) least most (Nat.le_refl 10) (by decide)

/-- The registers that hold this time. -/
def Holds (registers : Registers) (tm : Time) : Prop :=
  ∀ place, place < 7 → registers (regSc + BitVec.ofNat 8 place) = (timeRegs tm).getD place 0

theorem readTime_holds (valid : Valid tm) (holds : Holds registers tm) :
    pcf85063RtcReadTime .done registers = .ok tm := by
  have regs : ∀ place, place < 7 →
      registers (regSc + BitVec.ofNat 8 place) = (timeRegs tm).getD place 0 := holds
  obtain ⟨sec, min, hour, mon, mday, wday, year⟩ := valid
  have days := monthDays_le tm.tmMon tm.tmYear
  have clear : (bin2bcd tm.tmSec &&& 0x7F) &&& scOs = 0 := by
    rw [BitVec.and_assoc]
    exact BitVec.and_zero
  simp only [pcf85063RtcReadTime, regs 0 (by decide), regs 1 (by decide), regs 2 (by decide),
    regs 3 (by decide), regs 4 (by decide), regs 5 (by decide), regs 6 (by decide), timeRegs,
    List.getD_cons_zero, List.getD_cons_succ, clear, ne_eq, not_true_eq_false, ↓reduceIte]
  have again : (bin2bcd tm.tmSec &&& 0x7F) &&& 0x7F = bin2bcd tm.tmSec &&& 0x7F := by
    rw [BitVec.and_assoc, BitVec.and_self]
  have secs : bcd2bin (bin2bcd tm.tmSec &&& 0x7F) = tm.tmSec :=
    bcd_round_trip 7 6 (by decide) sec.1 sec.2 (by decide) (by decide)
  have mins : bcd2bin (bin2bcd tm.tmMin &&& 0x7F) = tm.tmMin :=
    bcd_round_trip 7 6 (by decide) min.1 min.2 (by decide) (by decide)
  have hours : bcd2bin (bin2bcd tm.tmHour &&& 0x3F) = tm.tmHour :=
    bcd_round_trip 6 3 (by decide) hour.1 (by omega) (by decide) (by decide)
  have mdays : bcd2bin (bin2bcd tm.tmMday &&& 0x3F) = tm.tmMday :=
    bcd_round_trip 6 4 (by decide) (by omega) (by omega) (by decide) (by decide)
  have mons : bcd2bin (bin2bcd (tm.tmMon + 1) &&& 0x1F) = tm.tmMon + 1 :=
    bcd_round_trip 5 2 (by decide) (by omega) (by omega) (by decide) (by decide)
  have years : bcd2bin (bin2bcd (tm.tmYear - 100)) = tm.tmYear - 100 :=
    bcd2bin_round_trip (by omega) (by omega)
  rw [again, wday_round_trip wday.1 wday.2, secs, mins, hours, mdays, mons, years,
    Int.add_sub_cancel, Int.sub_add_cancel]

/-- The seven bytes are left where they are by what is written to the control register. -/
theorem holds_set (content : Byte) (registers : Registers) :
    Holds (Function.update (store regSc (timeRegs tm) registers) regCtrl1 content) tm := by
  intro place small
  have apart : regSc + BitVec.ofNat 8 place ≠ regCtrl1 := by
    interval_cases place <;> decide
  rw [Function.update_of_ne apart]
  interval_cases place <;> simp [timeRegs, store, regSc, Function.update]

/-! One transfer after the other. -/

def stoppedAt (before : Registers) : Registers :=
  Function.update before regCtrl1 (before regCtrl1 ||| ctrl1Stop)

/-- What a failed transfer of one byte leaves. -/
theorem write_failed (errno taken : Nat) (reg byte : Byte) (registers : Registers) :
    write (.failed errno taken) reg [byte] registers =
      ((Transfer.failed errno taken).ret,
        if taken = 0 then registers else Function.update registers reg byte) := by
  cases taken with
  | zero => rfl
  | succ taken => simp [write, store]

theorem stopClock_done (read : bus 0 = .done) (stop : bus 1 = .done) :
    pcf85063StopClock bus ctrl1 before = (⟨0, stoppedAt before, 2⟩, 0) := by
  simp [pcf85063StopClock, I2c.read, write, read, stop, store, stoppedAt]

theorem stopClock_read_failed {errno taken : Nat} (read : bus 0 = .failed errno taken) :
    pcf85063StopClock bus ctrl1 before = (⟨-eio, before, 1⟩, ctrl1) := by
  simp [pcf85063StopClock, I2c.read, read]

theorem stopClock_write_failed {errno taken : Nat} (read : bus 0 = .done)
    (stop : bus 1 = .failed errno taken) :
    pcf85063StopClock bus ctrl1 before =
      (⟨-eio, if taken = 0 then before else stoppedAt before, 2⟩, ctrl1) := by
  have fails : (Transfer.failed errno taken).ret < 0 := ret_neg nofun
  simp only [pcf85063StopClock, I2c.read, read, stop, write_failed, fails, ↓reduceIte, stoppedAt]

theorem startClock_failed {errno taken : Nat} :
    pcf85063StartClock (.failed errno taken) ctrl1 registers =
      (-eio, if taken = 0 then registers
        else Function.update registers regCtrl1 (ctrl1 &&& ~~~ctrl1Stop)) := by
  have fails : (Transfer.failed errno taken).ret < 0 := ret_neg nofun
  simp only [pcf85063StartClock, write_failed, fails, ↓reduceIte]

/-- The time's bytes leave the control register alone, however many are taken. -/
theorem store_ctrl1 (bytes : List Byte) (few : bytes.length ≤ 7) :
    store regSc bytes registers regCtrl1 = registers regCtrl1 :=
  store_before bytes (by rw [regSc]; simp; omega) (by decide)

/-- The registers once the time is written. -/
def timed (tm : Time) (before : Registers) : Registers :=
  store regSc (timeRegs tm) (stoppedAt before)

theorem setTime_read_failed (year : ¬ (tm.tmYear < 100 ∨ 199 < tm.tmYear)) {errno taken : Nat}
    (read : bus 0 = .failed errno taken) :
    pcf85063RtcSetTime bus stale tm before = ⟨-eio, before, 1⟩ := by
  simp [pcf85063RtcSetTime, year, stopClock_read_failed read, eio]

theorem setTime_stop_failed (year : ¬ (tm.tmYear < 100 ∨ 199 < tm.tmYear)) {errno taken : Nat}
    (read : bus 0 = .done) (stop : bus 1 = .failed errno taken) :
    pcf85063RtcSetTime bus stale tm before =
      ⟨-eio, if taken = 0 then before else stoppedAt before, 2⟩ := by
  simp [pcf85063RtcSetTime, year, stopClock_write_failed read stop, eio]

theorem setTime_write_failed (year : ¬ (tm.tmYear < 100 ∨ 199 < tm.tmYear)) {errno taken : Nat}
    (read : bus 0 = .done) (stop : bus 1 = .done) (time : bus 2 = .failed errno taken) :
    pcf85063RtcSetTime bus stale tm before =
      ⟨(Transfer.failed errno taken).ret,
        store regSc ((timeRegs tm).take taken) (stoppedAt before), 3⟩ := by
  have fails : (Transfer.failed errno taken).ret < 0 := ret_neg nofun
  simp [pcf85063RtcSetTime, year, stopClock_done read stop, time, write, fails]

/-- What `pcf85063_start_clock` gets is zero. -/
theorem setTime_started (year : ¬ (tm.tmYear < 100 ∨ 199 < tm.tmYear)) (read : bus 0 = .done)
    (stop : bus 1 = .done) (time : bus 2 = .done) :
    pcf85063RtcSetTime bus stale tm before =
      ⟨(pcf85063StartClock (bus 3) 0 (timed tm before)).1,
        (pcf85063StartClock (bus 3) 0 (timed tm before)).2, 4⟩ := by
  simp [pcf85063RtcSetTime, year, stopClock_done read stop, time, write, timed]

theorem otherBits_congr (same : registers regCtrl1 = before regCtrl1) :
    otherBits registers = otherBits before := by
  rw [otherBits, otherBits, same]

theorem runs_congr (same : registers regCtrl1 = before regCtrl1) : Runs registers ↔ Runs before := by
  rw [Runs, Runs, same]

theorem otherBits_stoppedAt (before : Registers) : otherBits (stoppedAt before) = otherBits before := by
  rw [otherBits, stoppedAt, Function.update_self, BitVec.and_or_distrib_right, BitVec.and_not_self]
  exact BitVec.or_zero

theorem not_runs_stoppedAt (before : Registers) : ¬ Runs (stoppedAt before) := by
  have set : stoppedAt before regCtrl1 &&& ctrl1Stop = ctrl1Stop := by
    rw [stoppedAt, Function.update_self]
    ext bit
    simpa using Or.inr
  rw [Runs, set]
  decide

theorem kept_error {after : Outcome} {works : Prop} (fails : after.ret ≠ 0) :
    Kept tm before after works ↔
      otherBits after.registers = otherBits before ∧ (works → Runs after.registers) := by
  constructor
  · exact fun kept => ⟨kept.others, kept.fails fails⟩
  · exact fun kept => ⟨kept.1, fun same => absurd same fails, fun _ => kept.2⟩

/-- Where the clock is started the control register holds zero. -/
def startedAt (tm : Time) (before : Registers) : Registers :=
  Function.update (timed tm before) regCtrl1 0

theorem runs_startedAt (tm : Time) (before : Registers) : Runs (startedAt tm before) := by
  rw [Runs, startedAt, Function.update_self]
  exact BitVec.zero_and

theorem otherBits_startedAt (tm : Time) (before : Registers) : otherBits (startedAt tm before) = 0 := by
  rw [otherBits, startedAt, Function.update_self]
  exact BitVec.zero_and

theorem Valid.not_refused (valid : Valid tm) : ¬ (tm.tmYear < 100 ∨ 199 < tm.tmYear) := by
  have := valid.year
  omega

/-- The call against what it is to keep. -/
def KeptBy (bus : Nat → Transfer) (stale : Byte) (tm : Time) (before : Registers) : Prop :=
  Kept tm before (pcf85063RtcSetTime bus stale tm before)
    (bus (pcf85063RtcSetTime bus stale tm before).transfers = .done)

/-- With the time not written, the clock stays stopped. -/
theorem keptBy_write_failed (valid : Valid tm) {errno taken : Nat} (read : bus 0 = .done)
    (stop : bus 1 = .done) (time : bus 2 = .failed errno taken) :
    KeptBy bus stale tm before ↔ bus 3 ≠ .done := by
  have fails : (Transfer.failed errno taken).ret ≠ 0 := Int.ne_of_lt (ret_neg nofun)
  have few : ((timeRegs tm).take taken).length ≤ 7 := List.length_take_le' taken (timeRegs tm)
  have same : store regSc ((timeRegs tm).take taken) (stoppedAt before) regCtrl1 =
      stoppedAt before regCtrl1 := store_ctrl1 _ few
  rw [KeptBy, setTime_write_failed valid.not_refused read stop time, kept_error fails]
  simp [otherBits_congr same, runs_congr same, otherBits_stoppedAt, not_runs_stoppedAt]

theorem cleared_timed (tm : Time) (before : Registers) :
    Function.update (timed tm before) regCtrl1 (0 &&& ~~~ctrl1Stop) = startedAt tm before :=
  congrArg _ BitVec.zero_and

/-- A start that takes effect loses the other bits, and one that does not the clock. -/
theorem keptBy_start_failed (valid : Valid tm) {errno taken : Nat} (read : bus 0 = .done)
    (stop : bus 1 = .done) (time : bus 2 = .done) (start : bus 3 = .failed errno taken) :
    KeptBy bus stale tm before ↔ if taken = 0 then bus 4 ≠ .done else otherBits before = 0 := by
  have refused : -eio ≠ 0 := by decide
  have same : timed tm before regCtrl1 = stoppedAt before regCtrl1 :=
    store_ctrl1 (timeRegs tm) (Nat.le_refl 7)
  rw [KeptBy, setTime_started valid.not_refused read stop time, start, startClock_failed, cleared_timed,
    kept_error refused]
  cases taken with
  | zero => simp [otherBits_congr same, runs_congr same, otherBits_stoppedAt, not_runs_stoppedAt]
  | succ taken => simp [otherBits_startedAt, runs_startedAt, eq_comm]

theorem keptBy_started (valid : Valid tm) (read : bus 0 = .done) (stop : bus 1 = .done)
    (time : bus 2 = .done) (start : bus 3 = .done) :
    KeptBy bus stale tm before ↔ otherBits before = 0 := by
  have started : pcf85063StartClock .done 0 (timed tm before) = (0, startedAt tm before) := by
    simp [pcf85063StartClock, write, store, startedAt]
  have again : pcf85063RtcReadTime .done (startedAt tm before) = .ok tm :=
    readTime_holds valid (holds_set 0 (stoppedAt before))
  rw [KeptBy, setTime_started valid.not_refused read stop time, start, started]
  constructor
  · intro kept
    rw [← kept.others, otherBits_startedAt]
  · intro none
    refine ⟨?_, fun _ => ⟨again, runs_startedAt tm before⟩, fun fails => absurd rfl fails⟩
    rw [otherBits_startedAt, none]

theorem setTime_kept_iff (valid : Valid tm) : KeptBy bus stale tm before ↔ Safe bus before := by
  have refused : -eio ≠ 0 := by decide
  cases read : bus 0 with
  | failed errno taken =>
      rw [KeptBy, setTime_read_failed valid.not_refused read, kept_error refused]
      simp [Safe, read]
  | done =>
      cases stop : bus 1 with
      | failed errno taken =>
          rw [KeptBy, setTime_stop_failed valid.not_refused read stop, kept_error refused]
          cases taken with
          | zero => simp [Safe, read, stop]
          | succ taken => simp [Safe, read, stop, otherBits_stoppedAt, not_runs_stoppedAt]
      | done =>
          cases time : bus 2 with
          | failed errno taken =>
              rw [keptBy_write_failed valid read stop time]
              simp [Safe, read, stop, time]
          | done =>
              cases start : bus 3 with
              | failed errno taken =>
                  rw [keptBy_start_failed valid read stop time start]
                  simp [Safe, read, stop, time, start]
              | done =>
                  rw [keptBy_started valid read stop time start]
                  simp [Safe, read, stop, time, start]

/-- When a call keeps what it is to keep. A year that the chip has no room for is refused. -/
theorem rtc_set_time_iff (bus : Nat → Transfer) (stale : Byte) (tm : Time) (before : Registers) :
    (Valid tm →
      (Kept tm before (pcf85063RtcSetTime bus stale tm before)
          (bus (pcf85063RtcSetTime bus stale tm before).transfers = .done) ↔
        Safe bus before)) ∧
      (tm.tmYear < 100 ∨ 199 < tm.tmYear →
        pcf85063RtcSetTime bus stale tm before = ⟨-einval, before, 0⟩) := by
  refine ⟨setTime_kept_iff, fun outside => ?_⟩
  rw [pcf85063RtcSetTime, if_pos outside]

/-- 2024-02-29 at 12:34:56, a Thursday. -/
def leapDay : Time := ⟨56, 34, 12, 29, 4, 1, 124⟩

theorem leapDay_valid : Valid leapDay := by
  constructor <;> decide

theorem leapDay_kept :
    Kept leapDay (fun _ => 0) (pcf85063RtcSetTime (fun _ => .done) 0 leapDay fun _ => 0)
        (Transfer.done = .done) ∧
      pcf85063RtcSetTime (fun _ => .done) 0 { leapDay with tmYear := 99 } (fun _ => 0) =
        ⟨-einval, fun _ => 0, 0⟩ := by
  have none : otherBits (fun _ => 0) = 0 := by decide
  refine ⟨((rtc_set_time_iff (fun _ => .done) 0 leapDay fun _ => 0).1 leapDay_valid).mpr none, ?_⟩
  exact (rtc_set_time_iff (fun _ => .done) 0 { leapDay with tmYear := 99 } fun _ => 0).2 (by decide)

/-- The crystal's load capacitance is selected before the call and not after it, and a failed
write of the time leaves the clock stopped. -/
theorem set_time_loses :
    (pcf85063RtcSetTime (fun _ => .done) 0 leapDay fun _ => 1).ret = 0 ∧
      otherBits (pcf85063RtcSetTime (fun _ => .done) 0 leapDay fun _ => 1).registers = 0 ∧
      otherBits (fun _ => 1) = 1 ∧
      ¬ Runs (pcf85063RtcSetTime (fun place => if place = 2 then .failed 4 0 else .done) 0 leapDay
        fun _ => 0).registers := by
  decide

end MangOH.RtcTime
