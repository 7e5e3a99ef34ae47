import MangOH.Ledger
import MangOH.Trace
import Mathlib.Algebra.Order.Group.Multiset
import Mathlib.Data.List.Basic
import Mathlib.Logic.Function.Basic

/-!
The probes of mangOH Red and of mangOH Yellow. A board is the list of the calls
its probe makes, each with the way out that a failure of it takes, and the list
of what its remove function takes back. The driver data is static: what a probe
leaves in it, the next probe finds.
-/

namespace MangOH.BoardProbe

open Trace

def probeDefer : Int := 517

/-- `goto cleanup`, `goto done`, a return in the middle of the probe, and a NULL
pointer followed. -/
inductive Exit where
  | cleanup
  | done
  | returned
  | oops
deriving DecidableEq

/-- The content of the EEPROM up to its size, as characters. `unread` is also an
EEPROM whose driver is not bound, and memory that runs out. -/
inductive Eeprom where
  | unread
  | read (content : List Char)

variable {Slot Bus Device Rev : Type}

/-- What a probe registers: a client in a variable of the driver data, a platform
device, or the multiplexer. -/
inductive Entry (Slot Device : Type) where
  | client (slot : Slot)
  | device (device : Device)
  | mux
deriving DecidableEq

inductive Step (Slot Bus Device : Type) where
  | getAdapter (bus : Bus)
  | needAdapters (buses : List Bus) (exit : Exit)
  | newDevice (slot : Slot) (bus : Bus) (exit : Exit)
  | eepromSetup
  | boardRev (exit : Exit)
  | clientdata (slot : Slot) (exit : Exit)
  | mux (exit : Exit)
  | platformDevice (device : Device) (exit : Exit)
  | gpio (exit : Exit)

/-- `NULL` is no client: nothing acquires it. -/
inductive Resource (Bus Device : Type) where
  | adapter (bus : Bus)
  | client (client : Option Nat)
  | device (device : Device)
deriving DecidableEq

/-- What the calls of one probe return. -/
structure Outcomes (Slot Bus Device : Type) where
  adapter : Bus → Bool
  newDevice : Slot → Bool
  eeprom : Eeprom
  clientdata : Slot → Bool
  mux : Int
  platformDevice : Device → Int
  gpio : Int

/-- `adapters` are the adapter variables of the probe that are not NULL, and
`created` counts the clients there have been. The ledger is of the current probe. -/
structure Driver (Slot Bus Device Rev : Type) where
  client : Slot → Option Nat
  registered : Device → Bool
  muxInitialized : Bool
  rev : Rev
  adapters : Bus → Bool
  bound : Bool
  created : Nat
  ledger : Ledger (Resource Bus Device)

/-- `guarded` says whether the remove function checks a client for NULL. -/
structure Board (Slot Bus Device Rev : Type) where
  primary : Bus
  steps : List (Step Slot Bus Device)
  adapters : List Bus
  removal : List (Entry Slot Device)
  guarded : Bool
  setup : Eeprom → Rev → Rev
  supported : Rev → Bool

/-! The entries that steps fill and the adapters that they take. -/

def Step.entry : Step Slot Bus Device → Option (Entry Slot Device)
  | .newDevice slot _ _ => some (.client slot)
  | .mux _ => some .mux
  | .platformDevice device _ => some (.device device)
  | _ => none

def Step.bus : Step Slot Bus Device → Option Bus
  | .getAdapter bus => some bus
  | _ => none

def entries (steps : List (Step Slot Bus Device)) : List (Entry Slot Device) :=
  steps.filterMap Step.entry

def taken (outcomes : Outcomes Slot Bus Device) (steps : List (Step Slot Bus Device)) : List Bus :=
  (steps.filterMap Step.bus).filter outcomes.adapter

@[simp] theorem entries_append {past rest : List (Step Slot Bus Device)} :
    entries (past ++ rest) = entries past ++ entries rest :=
  List.filterMap_append

@[simp] theorem taken_append {outcomes : Outcomes Slot Bus Device}
    {past rest : List (Step Slot Bus Device)} :
    taken outcomes (past ++ rest) = taken outcomes past ++ taken outcomes rest := by
  rw [taken, List.filterMap_append, List.filter_append]
  rfl

variable [DecidableEq Slot] [DecidableEq Bus] [DecidableEq Device]

section Calls

variable (board : Board Slot Bus Device Rev) (outcomes : Outcomes Slot Bus Device)

/-- The way out that a failure of the call takes. -/
def Step.failure (rev : Rev) : Step Slot Bus Device → Option Exit
  | .getAdapter _ => none
  | .needAdapters buses exit => if buses.all outcomes.adapter then none else some exit
  | .newDevice slot _ exit => if outcomes.newDevice slot then none else some exit
  | .eepromSetup => none
  | .boardRev exit => if board.supported rev then none else some exit
  | .clientdata slot exit => if outcomes.clientdata slot then none else some exit
  | .mux exit => if outcomes.mux = 0 then none else some exit
  | .platformDevice device exit => if outcomes.platformDevice device = 0 then none else some exit
  | .gpio exit => if outcomes.gpio = 0 ∨ outcomes.gpio = -probeDefer then none else some exit

def Step.perform (driver : Driver Slot Bus Device Rev) :
    Step Slot Bus Device → Driver Slot Bus Device Rev
  | .getAdapter bus =>
      if outcomes.adapter bus then
        { driver with
          adapters := Function.update driver.adapters bus true
          ledger := driver.ledger.acquire (.adapter bus) }
      else driver
  | .newDevice slot _ _ =>
      if outcomes.newDevice slot then
        { driver with
          client := Function.update driver.client slot (some driver.created)
          created := driver.created + 1
          ledger := driver.ledger.acquire (.client (some driver.created)) }
      else { driver with client := Function.update driver.client slot none }
  | .eepromSetup => { driver with rev := board.setup outcomes.eeprom driver.rev }
  | .mux _ => if outcomes.mux = 0 then { driver with muxInitialized := true } else driver
  | .platformDevice device _ =>
      if outcomes.platformDevice device = 0 then
        { driver with
          registered := Function.update driver.registered device true
          ledger := driver.ledger.acquire (.device device) }
      else driver
  | .needAdapters _ _ | .boardRev _ | .clientdata _ _ | .gpio _ => driver

def runSteps : List (Step Slot Bus Device) → Driver Slot Bus Device Rev →
    Driver Slot Bus Device Rev × Option Exit
  | [], driver => (driver, none)
  | step :: rest, driver =>
      match step.failure board outcomes driver.rev with
      | some exit => (step.perform board outcomes driver, some exit)
      | none => runSteps rest (step.perform board outcomes driver)

/-- What the remove function gives back for an entry. Releasing the multiplexer
concerns its GPIOs only. -/
def Board.undo (driver : Driver Slot Bus Device Rev) : Entry Slot Device → List (Resource Bus Device)
  | .client slot =>
      if board.guarded ∧ driver.client slot = none then [] else [.client (driver.client slot)]
  | .device device => if driver.registered device then [.device device] else []
  | .mux => []

def Board.removeList (driver : Driver Slot Bus Device Rev) : List (Resource Bus Device) :=
  board.removal.flatMap (board.undo driver)

def Board.remove (driver : Driver Slot Bus Device Rev) : Driver Slot Bus Device Rev :=
  { driver with ledger := driver.ledger.releaseAll (board.removeList driver) }

/-- `i2c_put_adapter` does nothing for NULL. -/
def Board.putList (driver : Driver Slot Bus Device Rev) : List (Resource Bus Device) :=
  (board.adapters.filter driver.adapters).map .adapter

def Board.putAdapters (driver : Driver Slot Bus Device Rev) : Driver Slot Bus Device Rev :=
  { driver with ledger := driver.ledger.releaseAll (board.putList driver) }

/-- The variables of the probe at its start, with nothing acquired by it. -/
def begin (driver : Driver Slot Bus Device Rev) : Driver Slot Bus Device Rev :=
  { driver with adapters := fun _ => false, ledger := .empty }

/-- The driver core binds the device if the probe returns 0. A probe that goes
through all its calls continues at `cleanup`. -/
def Board.probe (driver : Driver Slot Bus Device Rev) : Driver Slot Bus Device Rev :=
  match runSteps board outcomes board.steps (begin driver) with
  | (driver, none) => { board.putAdapters driver with bound := true }
  | (driver, some .cleanup) => board.remove (board.putAdapters driver)
  | (driver, some _) => driver

end Calls

inductive Event (Slot Bus Device : Type) where
  | probe (outcomes : Outcomes Slot Bus Device)
  | remove

/-- A device that is bound is not probed, and only a bound one is removed. -/
def Board.step (board : Board Slot Bus Device Rev) (driver : Driver Slot Bus Device Rev) :
    Event Slot Bus Device → Driver Slot Bus Device Rev
  | .probe outcomes => if driver.bound then driver else board.probe outcomes driver
  | .remove => if driver.bound then { board.remove driver with bound := false } else driver

/-! Where a probe fails, and what it leaves behind. -/

section Conditions

variable (board : Board Slot Bus Device Rev) (outcomes : Outcomes Slot Bus Device)

/-- The revision that the calls after a step find. -/
def Step.revAfter (rev : Rev) : Step Slot Bus Device → Rev
  | .eepromSetup => board.setup outcomes.eeprom rev
  | _ => rev

/-- The first call that fails, its way out, and the calls that are not made. -/
def failing : Rev → List (Step Slot Bus Device) →
    Option (Exit × Step Slot Bus Device × List (Step Slot Bus Device))
  | _, [] => none
  | rev, step :: rest =>
      match step.failure board outcomes rev with
      | some exit => some (exit, step, rest)
      | none => failing (step.revAfter board outcomes rev) rest

/-- A call that fails leaves nothing that the remove function would give back. -/
def Step.LeavesNothing (driver : Driver Slot Bus Device Rev) : Step Slot Bus Device → Prop
  | .newDevice _ _ _ => board.guarded = true
  | .platformDevice device _ => driver.registered device = false
  | _ => True

/-- Without the first adapter nothing is taken. Else a failure leads to `cleanup`,
and the driver data has nothing of an earlier probe for what is not registered. -/
def ProbeSafe (driver : Driver Slot Bus Device Rev) : Prop :=
  outcomes.adapter board.primary = false ∨
    ∀ exit step rest, failing board outcomes driver.rev board.steps = some (exit, step, rest) →
      exit = .cleanup ∧ step.LeavesNothing board driver ∧
        ∀ entry ∈ entries rest, board.undo driver entry = []

/-- What the calls of a list hold once they have succeeded. -/
def holdings (driver : Driver Slot Bus Device Rev) (steps : List (Step Slot Bus Device)) :
    List (Resource Bus Device) :=
  (taken outcomes steps).map .adapter ++ (entries steps).flatMap (board.undo driver)

def Safe (driver : Driver Slot Bus Device Rev) : Event Slot Bus Device → Prop
  | .probe outcomes => driver.bound = false → ProbeSafe board outcomes driver
  | .remove => True

/-- Nothing was given back that the current probe did not register or take, or
gave back before. A board that is not bound holds nothing, and one that is bound
holds what its remove function gives back. -/
structure AllOrNothing (driver : Driver Slot Bus Device Rev) : Prop where
  sound : driver.ledger.misuses = []
  unbound : driver.bound = false → driver.ledger.held = 0
  bound : driver.bound = true →
    driver.ledger.held = (board.removeList driver : Multiset (Resource Bus Device))

def Kept (driver : Driver Slot Bus Device Rev) (event : Event Slot Bus Device) : Prop :=
  AllOrNothing board (board.step driver event)

/-- Each variable is filled by one call and taken back by one, and the probe
begins with the primary adapter. -/
structure WellFormed : Prop where
  removal : (entries board.steps).Perm board.removal
  distinct : board.removal.Nodup
  adapters : (board.steps.filterMap Step.bus).Perm board.adapters
  single : board.adapters.Nodup
  first : board.steps.take 2 = [.getAdapter board.primary, .needAdapters [board.primary] .done]

end Conditions

variable {board : Board Slot Bus Device Rev} {outcomes : Outcomes Slot Bus Device}
  {driver before start : Driver Slot Bus Device Rev} {step : Step Slot Bus Device}
  {steps past passed rest : List (Step Slot Bus Device)} {entry : Entry Slot Device} {exit : Exit}

/-! One call. -/

theorem perform_rev : (step.perform board outcomes driver).rev =
    step.revAfter board outcomes driver.rev := by
  cases step with
  | getAdapter | newDevice | mux | platformDevice =>
      simp only [Step.perform]
      split <;> rfl
  | needAdapters | eepromSetup | boardRev | clientdata | gpio => rfl

/-- A call changes what is given back for its own entry only. -/
theorem undo_other (other : step.entry ≠ some entry) :
    board.undo (step.perform board outcomes driver) entry = board.undo driver entry := by
  cases step with
  | newDevice slot bus exit =>
      cases entry with
      | client target =>
          have different : target ≠ slot := fun same => other (same ▸ rfl)
          simp only [Step.perform]
          split <;> simp only [Board.undo, Function.update_of_ne different]
      | device | mux =>
          simp only [Step.perform]
          split <;> rfl
  | platformDevice device exit =>
      cases entry with
      | device target =>
          have different : target ≠ device := fun same => other (same ▸ rfl)
          simp only [Step.perform]
          split
          · simp only [Board.undo, Function.update_of_ne different]
          · rfl
      | client | mux =>
          simp only [Step.perform]
          split <;> rfl
  | getAdapter | mux =>
      simp only [Step.perform]
      split <;> cases entry <;> rfl
  | needAdapters | eepromSetup | boardRev | clientdata | gpio => cases entry <;> rfl

omit [DecidableEq Slot] [DecidableEq Bus] [DecidableEq Device] in
theorem holdings_singleton : holdings board outcomes driver [step] =
    (step.bus.toList.filter outcomes.adapter).map .adapter ++
      step.entry.toList.flatMap (board.undo driver) := by
  rw [holdings, taken, entries, List.filterMap_cons, List.filterMap_cons]
  cases step.bus <;> cases step.entry <;> rfl

/-- What a call that succeeds adds to the ledger. -/
theorem perform_ledger (fine : step.failure board outcomes driver.rev = none) :
    (step.perform board outcomes driver).ledger.misuses = driver.ledger.misuses ∧
      (step.perform board outcomes driver).ledger.held =
        ↑(holdings board outcomes (step.perform board outcomes driver) [step]) +
          driver.ledger.held := by
  cases step with
  | getAdapter bus =>
      cases got : outcomes.adapter bus <;>
        simp [Step.perform, holdings_singleton, Step.bus, Step.entry, got]
  | newDevice slot bus exit =>
      cases made : outcomes.newDevice slot with
      | false => simp [Step.failure, made] at fine
      | true => simp [Step.perform, holdings_singleton, Step.bus, Step.entry, Board.undo, made]
  | platformDevice device exit =>
      by_cases made : outcomes.platformDevice device = 0
      · simp [Step.perform, holdings_singleton, Step.bus, Step.entry, Board.undo, made]
      · simp [Step.failure, made] at fine
  | mux exit =>
      simp only [Step.perform]
      split <;> simp [holdings_singleton, Step.bus, Step.entry, Board.undo]
  | needAdapters | eepromSetup | boardRev | clientdata | gpio =>
      simp [Step.perform, holdings_singleton, Step.bus, Step.entry]

theorem perform_adapters {bus : Bus} : (step.perform board outcomes driver).adapters bus = true ↔
    driver.adapters bus = true ∨ bus ∈ taken outcomes [step] := by
  cases step with
  | getAdapter target =>
      have list : taken outcomes [(.getAdapter target : Step Slot Bus Device)] =
          [target].filter outcomes.adapter := rfl
      rw [list]
      cases got : outcomes.adapter target with
      | false => simp [Step.perform, got]
      | true =>
          by_cases same : bus = target
          · subst same
            simp [Step.perform, got]
          · simp [Step.perform, got, same]
  | newDevice | mux | platformDevice =>
      simp only [Step.perform]
      split <;> exact (or_iff_left List.not_mem_nil).symm
  | needAdapters | eepromSetup | boardRev | clientdata | gpio =>
      exact (or_iff_left List.not_mem_nil).symm

/-- A call that fails takes nothing. -/
theorem perform_failed (fails : step.failure board outcomes driver.rev = some exit) :
    (step.perform board outcomes driver).ledger = driver.ledger ∧ taken outcomes [step] = [] := by
  cases step with
  | getAdapter bus => cases fails
  | newDevice slot bus way =>
      cases made : outcomes.newDevice slot with
      | false =>
          simp only [Step.perform, made, Bool.false_eq_true, if_false, true_and]
          rfl
      | true => simp [Step.failure, made] at fails
  | platformDevice device way =>
      by_cases made : outcomes.platformDevice device = 0
      · simp [Step.failure, made] at fails
      · simp only [Step.perform, made, if_false, true_and]
        rfl
  | mux way =>
      simp only [Step.perform]
      split <;> exact ⟨rfl, rfl⟩
  | needAdapters | eepromSetup | boardRev | clientdata | gpio => exact ⟨rfl, rfl⟩

/-- What the remove function would give back for a call that failed. -/
theorem undo_failed (fails : step.failure board outcomes driver.rev = some exit) :
    (∀ entry ∈ entries [step], board.undo (step.perform board outcomes driver) entry = []) ↔
      step.LeavesNothing board driver := by
  cases step with
  | newDevice slot bus way =>
      have list : entries [(.newDevice slot bus way : Step Slot Bus Device)] = [.client slot] := rfl
      cases made : outcomes.newDevice slot with
      | false => simp [list, Step.perform, Board.undo, Step.LeavesNothing, made]
      | true => simp [Step.failure, made] at fails
  | platformDevice device way =>
      have list : entries [(.platformDevice device way : Step Slot Bus Device)] = [.device device] := rfl
      by_cases made : outcomes.platformDevice device = 0
      · simp [Step.failure, made] at fails
      · simp [list, Step.perform, Board.undo, Step.LeavesNothing, made]
  | mux way =>
      have list : entries [(.mux way : Step Slot Bus Device)] = [.mux] := rfl
      simp [list, Board.undo, Step.LeavesNothing]
  | getAdapter | needAdapters | eepromSetup | boardRev | clientdata | gpio =>
      exact iff_of_true (fun _ listed => absurd listed List.not_mem_nil) trivial

/-! The calls of a probe up to the first that fails. -/

/-- The probe holds what the calls of `past` took. -/
structure Accounts (board : Board Slot Bus Device Rev) (outcomes : Outcomes Slot Bus Device)
    (past : List (Step Slot Bus Device)) (driver : Driver Slot Bus Device Rev) : Prop where
  clean : driver.ledger.misuses = []
  held : driver.ledger.held = (holdings board outcomes driver past : Multiset (Resource Bus Device))
  adapters : ∀ bus, driver.adapters bus = true ↔ bus ∈ taken outcomes past

/-- The driver data after calls that all succeeded. -/
structure Books (board : Board Slot Bus Device Rev) (outcomes : Outcomes Slot Bus Device)
    (start : Driver Slot Bus Device Rev) (past : List (Step Slot Bus Device))
    (driver : Driver Slot Bus Device Rev) : Prop extends Accounts board outcomes past driver where
  others : ∀ entry ∉ entries past, board.undo driver entry = board.undo start entry

omit [DecidableEq Slot] [DecidableEq Bus] [DecidableEq Device] in
theorem begin_books : Books board outcomes driver [] (begin driver) where
  clean := rfl
  held := rfl
  adapters bus := iff_of_false Bool.noConfusion List.not_mem_nil
  others entry _ := by cases entry <;> rfl

omit [DecidableEq Slot] [DecidableEq Bus] [DecidableEq Device] in
theorem mem_entries : entry ∈ entries [step] ↔ step.entry = some entry := by
  simp [entries]

omit [DecidableEq Slot] [DecidableEq Bus] [DecidableEq Device] in
theorem holdings_append :
    (holdings board outcomes driver (past ++ rest) : Multiset (Resource Bus Device)) =
      holdings board outcomes driver past + holdings board outcomes driver rest := by
  simp only [holdings, taken_append, entries_append, List.map_append, List.flatMap_append,
    ← Multiset.coe_add]
  exact add_add_add_comm _ _ _ _

theorem holdings_kept (fresh : ∀ entry ∈ entries [step], entry ∉ entries past) :
    holdings board outcomes (step.perform board outcomes driver) past =
      holdings board outcomes driver past := by
  apply congrArg (List.append _)
  apply List.flatMap_congr
  intro entry filled
  exact undo_other fun own => fresh entry (mem_entries.mpr own) filled

theorem perform_books (books : Books board outcomes start past driver)
    (fine : step.failure board outcomes driver.rev = none)
    (fresh : ∀ entry ∈ entries [step], entry ∉ entries past) :
    Books board outcomes start (past ++ [step]) (step.perform board outcomes driver) := by
  obtain ⟨misuses, held⟩ := perform_ledger fine
  constructor
  · constructor
    · rw [misuses, books.clean]
    · rw [held, books.held, ← holdings_kept fresh, holdings_append]
      exact add_comm _ _
    · intro bus
      rw [perform_adapters, books.adapters, taken_append, List.mem_append]
  · intro entry absent
    rw [entries_append, List.mem_append, not_or] at absent
    rw [undo_other fun own => absent.2 (mem_entries.mpr own), books.others entry absent.1]

/-- Where the first call fails, and the driver data that it meets. -/
structure Stops (board : Board Slot Bus Device Rev) (outcomes : Outcomes Slot Bus Device)
    (start : Driver Slot Bus Device Rev) (past : List (Step Slot Bus Device)) (exit : Exit)
    (step : Step Slot Bus Device) (before : Driver Slot Bus Device Rev) : Prop where
  books : Books board outcomes start past before
  fails : step.failure board outcomes before.rev = some exit

omit [DecidableEq Slot] [DecidableEq Bus] [DecidableEq Device] in
theorem entries_fresh (distinct : (entries (past ++ step :: rest)).Nodup) :
    ∀ entry ∈ entries [step], entry ∉ entries past := by
  intro entry filled earlier
  have split : past ++ step :: rest = past ++ ([step] ++ rest) := rfl
  rw [split, entries_append, entries_append] at distinct
  exact (List.nodup_append.mp distinct).2.2 entry earlier entry (List.mem_append_left _ filled) rfl

/-- By induction on the calls that are left, with those made as `past`. -/
theorem runSteps_books (distinct : (entries (past ++ steps)).Nodup)
    (books : Books board outcomes start past driver) :
    match failing board outcomes driver.rev steps with
    | none => ∃ after, runSteps board outcomes steps driver = (after, none) ∧
        Books board outcomes start (past ++ steps) after
    | some (exit, step, rest) => ∃ passed before, steps = passed ++ step :: rest ∧
        runSteps board outcomes steps driver = (step.perform board outcomes before, some exit) ∧
        Stops board outcomes start (past ++ passed) exit step before := by
  induction steps generalizing past driver with
  | nil => exact ⟨driver, rfl, by rwa [List.append_nil]⟩
  | cons step rest ih =>
      cases fails : step.failure board outcomes driver.rev with
      | some exit =>
          simp only [failing, runSteps, fails]
          exact ⟨[], driver, rfl, rfl, by rwa [List.append_nil], fails⟩
      | none =>
          have split : past ++ step :: rest = (past ++ [step]) ++ rest := by simp
          have next := perform_books books fails (entries_fresh distinct)
          have turn := ih (split ▸ distinct) next
          rw [perform_rev] at turn
          simp only [failing, runSteps, fails]
          rw [split]
          cases later : failing board outcomes (step.revAfter board outcomes driver.rev) rest with
          | none => simpa only [later] using turn
          | some failure =>
              obtain ⟨exit, stop, others⟩ := failure
              simp only [later] at turn
              obtain ⟨passed, before, list, run, stops⟩ := turn
              refine ⟨step :: passed, before, ?_, run, ?_⟩
              · rw [list]
                rfl
              · simpa using stops

/-- The call that fails leaves what the probe holds. -/
theorem stops_accounts (stops : Stops board outcomes start past exit step before)
    (fresh : ∀ entry ∈ entries [step], entry ∉ entries past) :
    Accounts board outcomes past (step.perform board outcomes before) := by
  obtain ⟨ledger, none⟩ := perform_failed stops.fails
  constructor
  · rw [ledger, stops.books.clean]
  · rw [ledger, stops.books.held, holdings_kept fresh]
  · intro bus
    rw [perform_adapters, stops.books.adapters, none]
    exact or_iff_left List.not_mem_nil

omit [DecidableEq Slot] [DecidableEq Bus] [DecidableEq Device] in
theorem failing_suffix {rev : Rev}
    (found : failing board outcomes rev steps = some (exit, step, rest)) : step :: rest <:+ steps := by
  induction steps generalizing rev with
  | nil => cases found
  | cons head others ih =>
      rw [failing] at found
      split at found
      · cases found
        exact List.suffix_refl _
      · exact (ih found).trans (List.suffix_cons _ _)

/-! What the cleanup and the remove function give back. -/

omit [DecidableEq Slot] [DecidableEq Bus] [DecidableEq Device] in
theorem putList_perm (wf : WellFormed board) (list : board.steps = past ++ rest)
    (accounts : Accounts board outcomes past driver) :
    (board.putList driver).Perm ((taken outcomes past).map .adapter) := by
  apply List.Perm.map
  have gotten : (past.filterMap Step.bus).Sublist (board.steps.filterMap Step.bus) := by
    rw [list, List.filterMap_append]
    exact List.sublist_append_left _ _
  have nodup : (taken outcomes past).Nodup :=
    ((wf.adapters.nodup_iff.mpr wf.single).sublist gotten).filter _
  rw [List.perm_ext_iff_of_nodup (wf.single.filter _) nodup]
  intro bus
  rw [List.mem_filter, accounts.adapters]
  apply and_iff_right_of_imp
  intro held
  exact wf.adapters.mem_iff.mp (gotten.mem (List.mem_filter.mp held).1)

omit [DecidableEq Slot] [DecidableEq Bus] [DecidableEq Device] in
theorem removeList_perm (driver : Driver Slot Bus Device Rev) (wf : WellFormed board) (list : board.steps = past ++ rest) :
    (board.removeList driver).Perm
      ((entries past).flatMap (board.undo driver) ++ (entries rest).flatMap (board.undo driver)) := by
  rw [← List.flatMap_append, ← entries_append, ← list]
  exact wf.removal.symm.flatMap_right _

omit [DecidableEq Slot] in
/-- Everything is given back if nothing is found of the calls that failed or were
not made. -/
theorem cleanup_settled_iff (wf : WellFormed board) (list : board.steps = past ++ rest)
    (accounts : Accounts board outcomes past driver) :
    (board.remove (board.putAdapters driver)).ledger.Settled ↔
      ∀ entry ∈ entries rest, board.undo driver entry = [] := by
  have puts := Multiset.coe_eq_coe.mpr (putList_perm wf list accounts)
  have removes := Multiset.coe_eq_coe.mpr (removeList_perm driver wf list)
  have put : driver.ledger.held =
      ↑(board.putList driver) + ↑((entries past).flatMap (board.undo driver)) := by
    rw [accounts.held, holdings, ← Multiset.coe_add, puts]
  change (Ledger.releaseAll (board.removeList driver)
    (driver.ledger.releaseAll (board.putList driver))).Settled ↔ _
  rw [Ledger.releaseAll_held put, Ledger.releaseAll_settled, removes, ← Multiset.coe_add,
    and_iff_right accounts.clean, left_eq_add, Multiset.coe_eq_zero, List.flatMap_eq_nil_iff]

omit [DecidableEq Slot] in
/-- A probe that makes all its calls holds what the remove function gives back. -/
theorem putAdapters_held (wf : WellFormed board)
    (accounts : Accounts board outcomes board.steps driver) :
    (board.putAdapters driver).ledger = ⟨↑(board.removeList driver), []⟩ := by
  have list : board.steps = board.steps ++ [] := (List.append_nil _).symm
  have puts := Multiset.coe_eq_coe.mpr (putList_perm wf list accounts)
  have removes := Multiset.coe_eq_coe.mpr (removeList_perm driver wf list)
  rw [← Multiset.coe_add] at removes
  rw [← accounts.clean]
  apply Ledger.releaseAll_held
  rw [accounts.held, holdings, ← Multiset.coe_add, puts, removes]
  exact congrArg _ (add_zero _).symm

/-! The whole probe. -/

theorem runSteps_bound : (runSteps board outcomes steps driver).1.bound = driver.bound := by
  induction steps generalizing driver with
  | nil => rfl
  | cons step rest ih =>
      have one : (step.perform board outcomes driver).bound = driver.bound := by
        cases step with
        | getAdapter | newDevice | mux | platformDevice =>
            simp only [Step.perform]
            split <;> rfl
        | needAdapters | eepromSetup | boardRev | clientdata | gpio => rfl
      rw [runSteps]
      split
      · exact one
      · exact ih.trans one

omit [DecidableEq Slot] [DecidableEq Bus] [DecidableEq Device] in
/-- The first two calls of a probe. -/
theorem steps_first (wf : WellFormed board) : ∃ rest, board.steps =
    .getAdapter board.primary :: .needAdapters [board.primary] .done :: rest := by
  have whole := List.take_append_drop 2 board.steps
  rw [wf.first] at whole
  exact ⟨board.steps.drop 2, whole.symm⟩

theorem probe_missing (wf : WellFormed board) (missing : outcomes.adapter board.primary = false) :
    board.probe outcomes driver = begin driver := by
  obtain ⟨rest, list⟩ := steps_first wf
  simp [Board.probe, list, runSteps, Step.failure, Step.perform, missing]

omit [DecidableEq Slot] [DecidableEq Bus] [DecidableEq Device] in
/-- Once the primary adapter is there, every failing call finds it taken. -/
theorem primary_taken (wf : WellFormed board) (present : outcomes.adapter board.primary = true)
    (list : board.steps = past ++ step :: rest)
    (fails : step.failure board outcomes before.rev = some exit) :
    board.primary ∈ taken outcomes past := by
  obtain ⟨tail, first⟩ := steps_first wf
  rw [first] at list
  cases past with
  | nil =>
      cases list
      cases fails
  | cons head others =>
      obtain ⟨rfl, -⟩ := List.cons.inj list
      exact List.mem_filter.mpr ⟨List.mem_cons_self, present⟩

omit [DecidableEq Slot] [DecidableEq Bus] [DecidableEq Device] in
theorem stops_held (accounts : Accounts board outcomes past driver)
    (took : board.primary ∈ taken outcomes past) : driver.ledger.held ≠ 0 := by
  intro none
  rw [accounts.held, Multiset.coe_eq_zero] at none
  have listed : Resource.adapter board.primary ∈ holdings board outcomes driver past :=
    List.mem_append_left _ (List.mem_map_of_mem took)
  rw [none] at listed
  exact List.not_mem_nil listed

omit [DecidableEq Slot] [DecidableEq Bus] [DecidableEq Device] in
theorem leavesNothing_iff
    (same : ∀ entry ∈ entries [step], board.undo before entry = board.undo driver entry) :
    step.LeavesNothing board before ↔ step.LeavesNothing board driver := by
  cases step with
  | platformDevice device way =>
      have own := same (.device device) (mem_entries.mpr rfl)
      simp only [Board.undo] at own
      cases old : driver.registered device <;> cases now : before.registered device <;>
        simp [Step.LeavesNothing, old, now] at own ⊢
  | getAdapter | needAdapters | newDevice | eepromSetup | boardRev | clientdata | mux | gpio =>
      exact Iff.rfl

/-- What the remove function finds of the calls from the failing one on is what
it would have found before the probe. -/
theorem stops_leftover_iff (wf : WellFormed board) (list : board.steps = passed ++ step :: rest)
    (stops : Stops board outcomes driver passed exit step before) :
    (∀ entry ∈ entries (step :: rest),
        board.undo (step.perform board outcomes before) entry = []) ↔
      step.LeavesNothing board driver ∧ ∀ entry ∈ entries rest, board.undo driver entry = [] := by
  have distinct : (entries passed ++ (entries [step] ++ entries rest)).Nodup := by
    rw [← entries_append, ← entries_append]
    exact list ▸ wf.removal.nodup_iff.mpr wf.distinct
  obtain ⟨-, tail, apart⟩ := List.nodup_append.mp distinct
  have later : ∀ entry ∈ entries rest,
      board.undo (step.perform board outcomes before) entry = board.undo driver entry := by
    intro entry filled
    have other : step.entry ≠ some entry := fun own =>
      (List.nodup_append.mp tail).2.2 entry (mem_entries.mpr own) entry filled rfl
    have fresh : entry ∉ entries passed := fun earlier =>
      apart entry earlier entry (List.mem_append_right _ filled) rfl
    rw [undo_other other, stops.books.others entry fresh]
  rw [show step :: rest = [step] ++ rest from rfl, entries_append, List.forall_mem_append,
    undo_failed stops.fails]
  apply and_congr
  · apply leavesNothing_iff
    intro entry filled
    exact stops.books.others entry fun earlier =>
      apart entry earlier entry (List.mem_append_left _ filled) rfl
  · constructor
    · exact fun none entry filled => (later entry filled).symm.trans (none entry filled)
    · exact fun none entry filled => (later entry filled).trans (none entry filled)

omit [DecidableEq Slot] [DecidableEq Bus] [DecidableEq Device] in
theorem unbound_iff (unbound : driver.bound = false) : AllOrNothing board driver ↔
    driver.ledger.Settled := by
  constructor
  · exact fun all => ⟨all.unbound unbound, all.sound⟩
  · rintro ⟨held, sound⟩
    exact ⟨sound, fun _ => held, fun bound => absurd (unbound.symm.trans bound) Bool.noConfusion⟩

theorem probe_kept_iff (wf : WellFormed board) (unbound : driver.bound = false) :
    AllOrNothing board (board.probe outcomes driver) ↔ ProbeSafe board outcomes driver := by
  cases present : outcomes.adapter board.primary with
  | false =>
      rw [probe_missing wf present]
      have still : (begin driver).bound = false := unbound
      exact iff_of_true ((unbound_iff still).mpr ⟨rfl, rfl⟩) (.inl present)
  | true =>
      rw [ProbeSafe, present, or_iff_right Bool.noConfusion]
      have distinct : (entries ([] ++ board.steps)).Nodup := wf.removal.nodup_iff.mpr wf.distinct
      have run := runSteps_books distinct (@begin_books _ _ _ _ board outcomes driver)
      have still : (runSteps board outcomes board.steps (begin driver)).1.bound = false :=
        runSteps_bound.trans unbound
      have rev : (begin driver).rev = driver.rev := rfl
      rw [rev] at run
      -- What the steps have taken is known from the books, to the end or up to the failing step.
      cases stop : failing board outcomes driver.rev board.steps with
      | none =>
          simp only [stop] at run
          obtain ⟨after, result, books⟩ := run
          rw [Board.probe, result]
          have held := putAdapters_held wf books.toAccounts
          apply iff_of_true
          · constructor
            · exact congrArg Ledger.misuses held
            · exact Bool.noConfusion
            · exact fun _ => congrArg Ledger.held held
          · exact fun _ _ _ found => absurd found nofun
      | some failure =>
          obtain ⟨exit, step, rest⟩ := failure
          simp only [stop] at run
          obtain ⟨passed, before, list, result, stops⟩ := run
          rw [result] at still
          have fresh := entries_fresh (list ▸ distinct)
          have accounts := stops_accounts stops fresh
          have cleaned := cleanup_settled_iff wf list accounts
          rw [stops_leftover_iff wf list stops] at cleaned
          have unsettled : ¬(step.perform board outcomes before).ledger.Settled := fun settled =>
            stops_held accounts (primary_taken wf present list stops.fails) settled.1
          rw [Board.probe, result]
          simp only [Option.some.injEq, Prod.mk.injEq]
          -- Only the clean-up gives anything back; by the other exits the adapter is still held.
          cases exit with
          | cleanup =>
              have undone : AllOrNothing board (board.remove (board.putAdapters
                  (step.perform board outcomes before))) ↔ _ := unbound_iff still
              apply (undone.trans cleaned).trans
              constructor
              · rintro leftover exit step rest ⟨rfl, rfl, rfl⟩
                exact ⟨rfl, leftover⟩
              · exact fun safe => (safe _ _ _ ⟨rfl, rfl, rfl⟩).2
          | done | returned | oops =>
              have undone : AllOrNothing board (step.perform board outcomes before) ↔ _ :=
                unbound_iff still
              apply iff_of_false fun all => unsettled (undone.mp all)
              intro safe
              exact absurd (safe _ _ _ ⟨rfl, rfl, rfl⟩).1 nofun

omit [DecidableEq Slot] in
theorem remove_kept (all : AllOrNothing board driver) (bound : driver.bound = true) :
    AllOrNothing board { board.remove driver with bound := false } := by
  have settled : (board.remove driver).ledger.Settled :=
    Ledger.releaseAll_settled.mpr ⟨all.sound, all.bound bound⟩
  exact ⟨settled.2, fun _ => settled.1, Bool.noConfusion⟩

theorem step_kept_iff {event : Event Slot Bus Device} (wf : WellFormed board)
    (all : AllOrNothing board driver) : Kept board driver event ↔ Safe board driver event := by
  cases event with
  | probe outcomes =>
      cases bound : driver.bound with
      | false =>
          simp only [Kept, Board.step, Safe, bound, Bool.false_eq_true, if_false, forall_const]
          exact probe_kept_iff wf bound
      | true =>
          simp only [Kept, Board.step, Safe, bound, if_true]
          exact iff_of_true all Bool.noConfusion
  | remove =>
      apply iff_of_true _ trivial
      cases bound : driver.bound with
      | false => simpa only [Kept, Board.step, bound, Bool.false_eq_true, if_false] using all
      | true =>
          simp only [Kept, Board.step, bound, if_true]
          exact remove_kept all bound

/-- A run undoes all it should just when each of its probes meets the condition. -/
theorem along_kept_iff (wf : WellFormed board) (all : AllOrNothing board start)
    (events : List (Event Slot Bus Device)) :
    Along board.step (Kept board) start events ↔ Along board.step (Safe board) start events :=
  @along_iff _ _ board.step (Kept board) (Safe board) (AllOrNothing board) (step_kept_iff wf)
    (fun _ kept => kept) events start all

/-! Driver data as the module is loaded with it. -/

def loaded (rev : Rev) : Driver Slot Bus Device Rev where
  client _ := none
  registered _ := false
  muxInitialized := false
  rev := rev
  adapters _ := false
  bound := false
  created := 0
  ledger := .empty

omit [DecidableEq Slot] [DecidableEq Bus] [DecidableEq Device] in
theorem loaded_kept {rev : Rev} : AllOrNothing board (loaded rev) where
  sound := rfl
  unbound _ := rfl
  bound := Bool.noConfusion

end MangOH.BoardProbe
