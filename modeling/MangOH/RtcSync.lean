import MangOH.Trace
import Mathlib.Algebra.BigOperators.Group.List.Basic
import Mathlib.Algebra.Ring.Int.Defs

/-!
The thread that saves the system clock in the RTC when the clock was changed. A check
reads the clock at both ends of a sleep of ten seconds; what happens to the clock between
two sleeps, and the net of earlier checks, is nowhere kept. The clock is in nanoseconds
since the epoch.
-/

namespace MangOH.RtcSync

open Trace

def nsecPerSec : Int := 1000000000
def hz : Int := 100

structure Timespec where
  tvSec : Int
  tvNsec : Int
  nsec_nonneg : 0 ≤ tvNsec
  nsec_lt : tvNsec < nsecPerSec

def timespecToNs (time : Timespec) : Int := time.tvSec * nsecPerSec + time.tvNsec

def ktimeGetRealTs (clock : Int) : Timespec where
  tvSec := clock / nsecPerSec
  tvNsec := clock % nsecPerSec
  nsec_nonneg := Int.emod_nonneg clock (by decide)
  nsec_lt := Int.emod_lt_of_pos clock (by decide)

@[simp] theorem timespecToNs_ktimeGetRealTs (clock : Int) :
    timespecToNs (ktimeGetRealTs clock) = clock :=
  Int.ediv_mul_add_emod clock nsecPerSec

def abs64 (x : Int) : Int := if x < 0 then -x else x

/-! The RTC stores whole seconds. -/

structure RtcOps where
  setTime : Bool
  setMmss : Bool
deriving DecidableEq

/-- The device as a check finds it; `setResult` is what `rtc_set_time` returns. -/
structure RtcDevice where
  ops : Option RtcOps
  setResult : Int
deriving DecidableEq

def RtcDevice.hasSet (rtc : RtcDevice) : Bool :=
  match rtc.ops with
  | none => false
  | some ops => ops.setTime || ops.setMmss

def enodev : Int := 19

/-- The second that is set, to the closest one. -/
def rounded (now : Timespec) : Int :=
  if now.tvNsec < nsecPerSec / 2 then now.tvSec else now.tvSec + 1

/-- What is returned and, where the RTC was set, the second it got; `none` is a device
that does not open. -/
def systohc (now : Timespec) : Option RtcDevice → Int × Option Int
  | none => (-enodev, none)
  | some rtc =>
      if rtc.hasSet then (rtc.setResult, if rtc.setResult = 0 then some (rounded now) else none)
      else (-enodev, none)

/-- What reading the RTC gives: the error, or the second and whether it is valid. -/
abbrev Reading := Except Int (Int × Bool)

/-- The system clock after the RTC was read at startup, where it could be. -/
def rtcHctosys (clock : Int) : Option Reading → Int × Int
  | none => (-enodev, clock)
  | some (.error _) => (0, clock)
  | some (.ok (seconds, valid)) =>
      (0, if valid then seconds * nsecPerSec + nsecPerSec / 2 else clock)

/-! The sleep, with all that can happen to the clock during it. -/

/-- Time that passes, and how far the clock is set forward in it. -/
structure Move where
  elapsed : Int
  adjusted : Int
deriving DecidableEq

def Move.total (move : Move) : Int := move.elapsed + move.adjusted

/-- One `schedule_timeout`, with the jiffies it returns. -/
structure Nap extends Move where
  remaining : Int
deriving DecidableEq

/-- The timeout that is left and the clock, after the loop around them. -/
def sleep (timeout : Int) : List Nap → Int → Int × Int
  | [], clock => (timeout, clock)
  | nap :: rest, clock =>
      if 0 < timeout then sleep nap.remaining rest (clock + nap.total) else (timeout, clock)

/-- From the end of one sleep to the end of the next: the way to the first reading of the
clock, the sleep, and the way from the second reading to the setting of the RTC. -/
structure Period where
  gap : Move
  early : List Nap
  last : Nap
  delay : Move
  rtc : Option RtcDevice
  early_left : ∀ nap ∈ early, 0 < nap.remaining
  last_done : last.remaining ≤ 0

namespace Period

variable (period : Period)

def naps : List Nap := period.early ++ [period.last]
def slept : Int := (period.naps.map fun nap => nap.elapsed).sum
def adjusted : Int := (period.naps.map fun nap => nap.adjusted).sum

def writable : Bool :=
  match period.rtc with
  | none => false
  | some rtc => rtc.hasSet && rtc.setResult = 0

end Period

/-- `net` is how far the clock was set since the RTC was last written, and `writes` counts
these; neither is a variable of the thread. -/
structure World where
  clock : Int
  rtc : Int
  net : Int
  writes : Nat
deriving DecidableEq

def expectedDeltaNs : Int := 10 * nsecPerSec

def timeCheck (world : World) (period : Period) : World :=
  let start := world.clock + period.gap.total
  let before := ktimeGetRealTs start
  let clock := (sleep (10 * hz) period.naps start).2
  let after := ktimeGetRealTs clock
  let deltaNs := timespecToNs after - timespecToNs before
  let net := world.net + period.gap.adjusted + period.adjusted
  if abs64 (deltaNs - expectedDeltaNs) > nsecPerSec then
    -- The result of the write is dropped, so a failed one is not made again.
    match (systohc after period.rtc).2 with
    | some seconds =>
        { clock := clock + period.delay.total, rtc := seconds, net := 0, writes := world.writes + 1 }
    | none => { world with clock := clock + period.delay.total, net := net + period.delay.adjusted }
  else { world with clock, net }

/-- The thread starts when the clock was set from a valid RTC. -/
def booted (seconds : Int) : World where
  clock := (rtcHctosys 0 (some (.ok (seconds, true)))).2
  rtc := seconds
  net := 0
  writes := 0

/-- Off by the rounding only. -/
def Close (seconds clock : Int) : Prop := 2 * abs64 (seconds * nsecPerSec - clock) ≤ nsecPerSec

theorem close_iff {seconds clock : Int} :
    Close seconds clock ↔ 2 * (seconds * nsecPerSec - clock) ≤ nsecPerSec ∧
      -(2 * (seconds * nsecPerSec - clock)) ≤ nsecPerSec := by
  rw [Close, abs64]
  split <;> omega

theorem booted_close (seconds : Int) : Close (booted seconds).rtc (booted seconds).clock := by
  simp only [close_iff, booted, rtcHctosys, nsecPerSec, if_true]
  omega

/-! What a check reads. -/

theorem sleep_early (early : List Nap) (left : ∀ nap ∈ early, 0 < nap.remaining)
    (last : Nap) (timeout clock : Int) (waits : 0 < timeout) :
    sleep timeout (early ++ [last]) clock =
      (last.remaining, clock + ((early ++ [last]).map fun nap => nap.elapsed).sum +
        ((early ++ [last]).map fun nap => nap.adjusted).sum) := by
  induction early generalizing timeout clock with
  | nil =>
      simp [sleep, waits, Move.total, Int.add_assoc]
  | cons nap rest ih =>
      have again : 0 < nap.remaining := left nap (by simp)
      have others : ∀ nap ∈ rest, 0 < nap.remaining :=
        fun other member => left other (List.mem_cons_of_mem nap member)
      rw [List.cons_append, sleep, if_pos waits, ih others nap.remaining _ again, Move.total,
        List.map_cons, List.map_cons, List.sum_cons, List.sum_cons, Prod.mk.injEq]
      omega

theorem sleep_naps (period : Period) (start : Int) :
    sleep (10 * hz) period.naps start =
      (period.last.remaining, start + period.slept + period.adjusted) :=
  sleep_early period.early period.early_left period.last (10 * hz) start (by decide)

/-- The loop is left after the last of a period's naps. -/
theorem sleep_ends (period : Period) (start : Int) : (sleep (10 * hz) period.naps start).1 ≤ 0 := by
  rw [sleep_naps]
  exact period.last_done

theorem rounded_close (now : Timespec) : Close (rounded now) (timespecToNs now) := by
  have low := now.nsec_nonneg
  have high := now.nsec_lt
  rw [close_iff, timespecToNs, rounded]
  by_cases half : now.tvNsec < nsecPerSec / 2
  · rw [if_pos half]
    simp only [nsecPerSec] at *
    omega
  · rw [if_neg half]
    simp only [nsecPerSec] at *
    omega

theorem systohc_writable (now : Timespec) (period : Period) (can : period.writable = true) :
    (systohc now period.rtc).2 = some (rounded now) := by
  cases device : period.rtc with
  | none => simp [Period.writable, device] at can
  | some rtc =>
      simp only [Period.writable, device, Bool.and_eq_true, decide_eq_true_eq] at can
      simp [systohc, can.1, can.2]

theorem systohc_rounded {now : Timespec} {rtc : Option RtcDevice} {seconds : Int}
    (set : (systohc now rtc).2 = some seconds) : seconds = rounded now := by
  cases rtc with
  | none => simp [systohc] at set
  | some rtc =>
      simp only [systohc] at set
      split at set
      · split at set
        · simpa using set.symm
        · simp at set
      · simp at set

/-! The condition of a check is about its own sleep alone. -/

namespace Period

/-- How much longer than its ten seconds the sleep took. -/
def lateness (period : Period) : Int := period.slept - expectedDeltaNs

end Period

def Rewritten (before after : World) : Prop := after.writes = before.writes + 1

/-- A net change of the clock since the RTC was written that a whole period finds and
leaves is in the RTC at its end, when it can be written and the sleep is less than a
second late. -/
def Followed (world : World) (period : Period) : Prop :=
  nsecPerSec < abs64 (world.net + period.gap.adjusted) →
    nsecPerSec < abs64 (world.net + period.gap.adjusted + period.adjusted) →
      0 ≤ period.lateness → period.lateness < nsecPerSec → period.writable = true →
        Rewritten world (timeCheck world period)

/-- The same for what the clock is off within the sleep; and what is written is the
clock as it was read, but for the rounding. -/
def Detected (world : World) (period : Period) : Prop :=
  (nsecPerSec < abs64 (period.lateness + period.adjusted) → period.writable = true →
    Rewritten world (timeCheck world period)) ∧
  (Rewritten world (timeCheck world period) →
    Close (timeCheck world period).rtc ((timeCheck world period).clock - period.delay.total))

/-- What a check does, by the sleep that it measured. -/
theorem timeCheck_eq (world : World) (period : Period) :
    let clock := world.clock + period.gap.total + period.slept + period.adjusted
    let net := world.net + period.gap.adjusted + period.adjusted
    timeCheck world period =
      if nsecPerSec < abs64 (period.lateness + period.adjusted) then
        match (systohc (ktimeGetRealTs clock) period.rtc).2 with
        | some seconds => ⟨clock + period.delay.total, seconds, 0, world.writes + 1⟩
        | none =>
            ⟨clock + period.delay.total, world.rtc, net + period.delay.adjusted, world.writes⟩
      else ⟨clock, world.rtc, net, world.writes⟩ := by
  have measured (start : Int) : start + period.slept + period.adjusted - start - expectedDeltaNs =
      period.lateness + period.adjusted := by
    simp only [Period.lateness]
    omega
  simp only [timeCheck, sleep_naps, timespecToNs_ktimeGetRealTs, measured, gt_iff_lt]

theorem timeCheck_detected (world : World) (period : Period) : Detected world period := by
  simp only [Detected, timeCheck_eq]
  by_cases off : nsecPerSec < abs64 (period.lateness + period.adjusted)
  · simp only [if_pos off]
    constructor
    · intro _ can
      simp only [systohc_writable _ period can, Rewritten]
    · split
      · rename_i seconds set
        intro _
        rw [systohc_rounded set, Int.add_sub_cancel]
        simpa using rounded_close (ktimeGetRealTs _)
      · simp [Rewritten]
  · simp [off, Rewritten]

/-- Whatever happens to the clock and to the RTC, in any number of periods. -/
theorem checks_detected (start : World) (periods : List Period) :
    Along timeCheck Detected start periods := by
  induction periods generalizing start with
  | nil => trivial
  | cons period rest ih => exact ⟨timeCheck_detected start period, ih (timeCheck start period)⟩

/-- A sleep of ten seconds, after a way to it in which the clock is set. -/
def quiet (adjusted : Int) : Period where
  gap := ⟨0, adjusted⟩
  early := []
  last := { elapsed := expectedDeltaNs, adjusted := 0, remaining := 0 }
  delay := ⟨0, 0⟩
  rtc := some ⟨some ⟨true, false⟩, 0⟩
  early_left := by simp
  last_done := by decide

/-- The clock is set forward by two seconds between two sleeps: the checks around it
measure ten seconds each, and so does every later one. -/
theorem adjustment_missed :
    ¬ ∀ (seconds : Int) (periods : List Period), Along timeCheck Followed (booted seconds) periods := by
  intro followed
  have run := followed 1500000000 [quiet 0, quiet (2 * nsecPerSec), quiet 0]
  have written := run.2.2.1 (by decide) (by decide) (by decide) (by decide) (by decide)
  simp only [Rewritten] at written
  exact absurd written (by decide)

end MangOH.RtcSync
