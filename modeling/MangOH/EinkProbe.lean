import MangOH.EinkPanel
import MangOH.Ledger

/-!
Setting up the e-ink framebuffer and taking it down. The labels at the end of
`ws_eink_spi_probe` fall through into each other; what they read of the framebuffer is a
use of it.
-/

namespace MangOH.EinkProbe

open Eink

/-- The structure of the framebuffer holds the driver's own data. -/
inductive Resource where
  | info
  | screenBase
  | ssbuf
  | registration
  | deferredIo
deriving DecidableEq

/-- What the probe is given, and how what it calls ends. -/
structure Outcomes where
  pdata : Bool
  spiId : Bool
  driverData : Bool
  framebufferAlloc : Bool
  screenBaseAlloc : Bool
  ssbufAlloc : Bool
  registerFramebuffer : Int
  rst : Int
  dc : Int
  busy : Int
  /-- What each transfer of the display's initialisation returns. -/
  spiWrite : Nat → Int

/-- The framebuffer with the pointers in it, which are null or not. -/
structure Probe where
  ledger : Ledger Resource
  screenBase : Bool
  ssbuf : Bool

def enomem : Int := 12
def einval : Int := 22

namespace Probe

def use (probe : Probe) : Probe := { probe with ledger := probe.ledger.use .info }

def acquire (resource : Resource) (probe : Probe) : Probe :=
  { probe with ledger := probe.ledger.acquire resource }

def release (resource : Resource) (probe : Probe) : Probe :=
  { probe with ledger := probe.ledger.release resource }

/-- Nothing is done with a null pointer. -/
def vfreeScreenBase (probe : Probe) : Probe :=
  if probe.use.screenBase then probe.use.release .screenBase else probe.use

def vfreeSsbuf (probe : Probe) : Probe :=
  if probe.use.ssbuf then probe.use.release .ssbuf else probe.use

end Probe

/-! The transfers. -/

/-- What a command returns, sent from this transfer on, and the number of the next one. -/
def wsEinkSendCmd (spiWrite : Nat → Int) (next : Nat) : Int × Nat :=
  if spiWrite next ≠ 0 then (spiWrite next, next + 1) else (spiWrite (next + 1), next + 2)

def sendSignals (spiWrite : Nat → Int) : List Signal → Nat → Int
  | [], _ => 0
  | .reset :: rest, next => sendSignals spiWrite rest next
  | .command .. :: rest, next =>
      let sent := wsEinkSendCmd spiWrite next
      if sent.1 ≠ 0 then sent.1 else sendSignals spiWrite rest sent.2

/-- A command is two transfers, and a reset none. -/
def transfers : List Signal → Nat
  | [] => 0
  | .reset :: rest => transfers rest
  | .command .. :: rest => transfers rest + 2

variable (props : DeviceProperties) (outcomes : Outcomes)

def wsEinkInitDisplayRet : Int :=
  if outcomes.rst ≠ 0 then outcomes.rst
  else if outcomes.dc ≠ 0 then outcomes.dc
  else if outcomes.busy ≠ 0 then outcomes.busy
  else sendSignals outcomes.spiWrite (wsEinkInitDisplay props) 0

/-! The labels, each with what follows it. -/

def screenBaseFail (probe : Probe) : Probe := probe.vfreeScreenBase

def ssbufAllocFail (probe : Probe) : Probe := screenBaseFail probe.vfreeScreenBase

def fbregFail (probe : Probe) : Probe := ssbufAllocFail probe.vfreeSsbuf

def dispInitFail (probe : Probe) : Probe := fbregFail (probe.release .info)

/-- The result, and what is held then. -/
def wsEinkSpiProbe : Int × Probe :=
  let none : Probe := ⟨.empty, false, false⟩
  if !outcomes.pdata then (-einval, none)
  else if !outcomes.spiId then (-einval, none)
  else if !outcomes.driverData then (-einval, none)
  else if !outcomes.framebufferAlloc then (-enomem, none)
  else
    let info := none.acquire .info
    if !outcomes.screenBaseAlloc then (-enomem, screenBaseFail info)
    else
      let base := { info.acquire .screenBase with screenBase := true }
      let deferred := base.use.acquire .deferredIo
      if !outcomes.ssbufAlloc then (-enomem, ssbufAllocFail deferred)
      else
        let buffers := { deferred.use.acquire .ssbuf with ssbuf := true }
        if outcomes.registerFramebuffer < 0 then
          (outcomes.registerFramebuffer, fbregFail buffers.use)
        else
          let registered := buffers.use.acquire .registration
          let retval := wsEinkInitDisplayRet props outcomes
          if retval ≠ 0 then (retval, dispInitFail registered.use) else (0, registered.use)

def wsEinkSpiRemove (probe : Probe) : Probe :=
  let cleaned := probe.use.use.release .deferredIo
  let unregistered := cleaned.use.release .registration
  unregistered.vfreeScreenBase.vfreeSsbuf.release .info

/-- What is held in the end: after a probe that fails, or after the remove that follows one
that does not. -/
def leftover : Ledger Resource :=
  let probed := wsEinkSpiProbe props outcomes
  if probed.1 = 0 then (wsEinkSpiRemove probed.2).ledger else probed.2.ledger

/-- The probe has nothing yet when something is missing. -/
def Outcomes.Early : Prop :=
  outcomes.pdata = false ∨ outcomes.spiId = false ∨ outcomes.driverData = false ∨
    outcomes.framebufferAlloc = false

/-- Nothing fails. -/
structure Outcomes.Works : Prop where
  screenBase : outcomes.screenBaseAlloc = true
  ssbuf : outcomes.ssbufAlloc = true
  register : 0 ≤ outcomes.registerFramebuffer
  gpios : outcomes.rst = 0 ∧ outcomes.dc = 0 ∧ outcomes.busy = 0
  spi : ∀ place, place < transfers (wsEinkInitDisplay props) → outcomes.spiWrite place = 0

variable {props outcomes}

theorem sendCmd_zero_iff {spiWrite : Nat → Int} {next : Nat} :
    (wsEinkSendCmd spiWrite next).1 = 0 ↔ spiWrite next = 0 ∧ spiWrite (next + 1) = 0 := by
  unfold wsEinkSendCmd
  by_cases first : spiWrite next = 0
  · simp [first]
  · simp [first]

theorem sendCmd_next {spiWrite : Nat → Int} {next : Nat} (sent : (wsEinkSendCmd spiWrite next).1 = 0) :
    (wsEinkSendCmd spiWrite next).2 = next + 2 := by
  have first := (sendCmd_zero_iff.mp sent).1
  rw [wsEinkSendCmd, if_neg (not_not_intro first)]

/-- The commands go through just where each of their transfers does. -/
theorem sendSignals_zero_iff (spiWrite : Nat → Int) (signals : List Signal) : ∀ next : Nat,
    sendSignals spiWrite signals next = 0 ↔
      ∀ place, place < transfers signals → spiWrite (next + place) = 0 := by
  induction signals with
  | nil => exact fun next => ⟨fun _ place below => absurd below (Nat.not_lt_zero _), fun _ => rfl⟩
  | cons signal rest ih =>
      intro next
      cases signal with
      | reset => exact ih next
      | command cmd data =>
          rw [sendSignals, transfers]
          by_cases sent : (wsEinkSendCmd spiWrite next).1 = 0
          · have both := sendCmd_zero_iff.mp sent
            rw [if_neg (not_not_intro sent), sendCmd_next sent, ih]
            constructor
            · intro all place below
              match place with
              | 0 => exact both.1
              | 1 => exact both.2
              | place + 2 =>
                  have := all place (by omega)
                  rwa [Nat.add_assoc, Nat.add_comm 2] at this
            · intro all place below
              have := all (place + 2) (by omega)
              rwa [Nat.add_assoc, Nat.add_comm 2]
          · rw [if_pos sent]
            refine ⟨fun same => absurd same sent, fun all => absurd ?_ sent⟩
            exact sendCmd_zero_iff.mpr ⟨all 0 (by omega), all 1 (by omega)⟩

theorem initDisplay_zero_iff : wsEinkInitDisplayRet props outcomes = 0 ↔
    (outcomes.rst = 0 ∧ outcomes.dc = 0 ∧ outcomes.busy = 0) ∧
      ∀ place, place < transfers (wsEinkInitDisplay props) → outcomes.spiWrite place = 0 := by
  rw [wsEinkInitDisplayRet]
  by_cases rst : outcomes.rst = 0 <;> by_cases dc : outcomes.dc = 0 <;>
    by_cases busy : outcomes.busy = 0 <;> simp [rst, dc, busy, sendSignals_zero_iff]

/-! What each way out leaves, from the first allocation on. -/

def allocated : Probe := Probe.acquire .info ⟨.empty, false, false⟩

def deferred : Probe := Probe.acquire .deferredIo
  (Probe.use { allocated.acquire .screenBase with screenBase := true })

def buffered : Probe := { deferred.use.acquire .ssbuf with ssbuf := true }

def registered : Probe := (buffered.use.acquire .registration).use

instance (ledger : Ledger Resource) : Decidable ledger.Settled :=
  inferInstanceAs (Decidable (_ ∧ _))

/-- The structure is never released. -/
theorem screenBaseFail_leaks : (screenBaseFail allocated).ledger.held = {.info} := by decide

/-- The memory is freed twice, and two things are never undone. -/
theorem ssbufAllocFail_leaks : (ssbufAllocFail deferred).ledger.held = {.deferredIo, .info} ∧
    (ssbufAllocFail deferred).ledger.misuses = [.released .screenBase] := by decide

theorem fbregFail_leaks : (fbregFail buffered.use).ledger.held = {.deferredIo, .info} ∧
    (fbregFail buffered.use).ledger.misuses = [.released .screenBase] := by decide

/-- The structure is read three times after it is released. -/
theorem dispInitFail_leaks :
    (dispInitFail registered).ledger.held = {.registration, .deferredIo} ∧
      (dispInitFail registered).ledger.misuses =
        [.released .screenBase, .used .info, .used .info, .used .info] := by decide

theorem remove_settles : (wsEinkSpiRemove registered).ledger.Settled := by decide

theorem not_settled_of_misuse {ledger : Ledger Resource} {misuse : Misuse Resource}
    {rest : List (Misuse Resource)} (misused : ledger.misuses = misuse :: rest) : ¬ ledger.Settled := by
  intro settled
  rw [settled.2] at misused
  exact absurd misused (List.cons_ne_nil _ _).symm

/-- A probe that has what it needs ends in one of these ways. -/
theorem wsEinkSpiProbe_eq (late : ¬ outcomes.Early) : wsEinkSpiProbe props outcomes =
    if outcomes.screenBaseAlloc = false then (-enomem, screenBaseFail allocated)
    else if outcomes.ssbufAlloc = false then (-enomem, ssbufAllocFail deferred)
    else if outcomes.registerFramebuffer < 0 then
      (outcomes.registerFramebuffer, fbregFail buffered.use)
    else if wsEinkInitDisplayRet props outcomes ≠ 0 then
      (wsEinkInitDisplayRet props outcomes, dispInitFail registered)
    else (0, registered) := by
  simp only [Outcomes.Early, not_or, Bool.not_eq_false] at late
  obtain ⟨pdata, spiId, driverData, alloc⟩ := late
  simp only [wsEinkSpiProbe, pdata, spiId, driverData, alloc, Bool.not_true, Bool.false_eq_true,
    ↓reduceIte, Bool.not_eq_true', allocated, deferred, buffered, registered]

theorem early_settled (early : outcomes.Early) : (leftover props outcomes).Settled := by
  have none : leftover props outcomes = .empty := by
    rw [leftover, wsEinkSpiProbe]
    cases pdata : outcomes.pdata with
    | false => simp [einval]
    | true =>
        cases spiId : outcomes.spiId with
        | false => simp [einval]
        | true =>
            cases driverData : outcomes.driverData with
            | false => simp [einval]
            | true =>
                have alloc : outcomes.framebufferAlloc = false := by
                  simpa [Outcomes.Early, pdata, spiId, driverData] using early
                simp [alloc, enomem]
  rw [none]
  exact ⟨rfl, rfl⟩

/-- All is given back once, and nothing is used after that, just where the probe gets nothing or
all. -/
theorem leftover_settled_iff (props : DeviceProperties) (outcomes : Outcomes) :
    (leftover props outcomes).Settled ↔ outcomes.Early ∨ outcomes.Works props := by
  by_cases early : outcomes.Early
  · exact iff_of_true (early_settled early) (.inl early)
  · rw [or_iff_right early, leftover, wsEinkSpiProbe_eq early]
    by_cases base : outcomes.screenBaseAlloc = false
    · rw [if_pos base, if_neg (by decide)]
      refine iff_of_false (fun settled => ?_) (fun works => ?_)
      · rw [Ledger.Settled, screenBaseFail_leaks] at settled
        exact absurd settled.1 (by decide)
      · rw [works.screenBase] at base
        cases base
    rw [if_neg base]
    by_cases buffer : outcomes.ssbufAlloc = false
    · rw [if_pos buffer, if_neg (by decide)]
      refine iff_of_false (not_settled_of_misuse ssbufAllocFail_leaks.2) (fun works => ?_)
      rw [works.ssbuf] at buffer
      cases buffer
    rw [if_neg buffer]
    by_cases register : outcomes.registerFramebuffer < 0
    · rw [if_pos register, if_neg (Int.ne_of_lt register)]
      refine iff_of_false (not_settled_of_misuse fbregFail_leaks.2) (fun works => ?_)
      exact absurd works.register (Int.not_le.mpr register)
    rw [if_neg register]
    by_cases display : wsEinkInitDisplayRet props outcomes ≠ 0
    · rw [if_pos display, if_neg display]
      refine iff_of_false (not_settled_of_misuse dispInitFail_leaks.2) (fun works => ?_)
      exact display (initDisplay_zero_iff.mpr ⟨works.gpios, works.spi⟩)
    · rw [if_neg display, if_pos rfl]
      obtain ⟨gpios, spi⟩ := initDisplay_zero_iff.mp (not_not.mp display)
      exact iff_of_true remove_settles ⟨eq_true_of_ne_false base,
        eq_true_of_ne_false buffer, Int.not_lt.mp register, gpios, spi⟩

/-- The second buffer cannot be had: the first one is freed twice, and the rest is kept. -/
theorem ssbuf_missing_leaks : ¬ (leftover devWs213
    ⟨true, true, true, true, true, false, 0, 0, 0, 0, fun _ => 0⟩).Settled := by
  decide

end MangOH.EinkProbe
