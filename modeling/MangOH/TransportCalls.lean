import Mathlib.Logic.Function.Basic
import MangOH.Station
import MangOH.Trace

/-!
The calls that the driver makes through `hif_ops`. A transport sets some of
the members and leaves the others NULL; the handles it gives out are NULL
before it is opened and after a stop.
-/

namespace MangOH.TransportCalls

open Station Trace

inductive Transport where
  | spi
  | uart
  deriving DecidableEq

/-- `struct mt7697_if_ops`. -/
inductive Member where
  | init
  | shutdown
  | unblockWriter
  | openDevice
  | close
  | read
  | write
  deriving DecidableEq

/-- What `mt7697_probe` puts into `if_ops`. -/
def Transport.sets : Transport → Member → Bool
  | .spi, .init => true
  | .spi, .shutdown => true
  | .spi, .unblockWriter => true
  | .uart, .openDevice => true
  | .uart, .close => true
  | _, .read => true
  | _, .write => true
  | _, _ => false

/-- A member and the handles that it gets. -/
structure HifCall where
  member : Member
  handles : List (Option Nat)
  deriving DecidableEq

/-- The members that may not get NULL for a handle. -/
def Member.strict : Member → Bool
  | .read => true
  | .write => true
  | .close => true
  | .shutdown => true
  | _ => false

def Legal (transport : Transport) (call : HifCall) : Prop :=
  transport.sets call.member = true ∧ (call.member.strict = true → none ∉ call.handles)

/-- A registered network device; `up` is the kernel's flag. -/
structure Device where
  iftype : IfType
  staList : List Mac
  up : Bool

structure Driver where
  transport : Transport
  txqHdl : Option Nat
  rxqHdl : Option Nat
  notifyTx : Bool
  device : Nat → Option Device
  vifList : List Nat
  txSkbList : Nat
  calls : List HifCall

def Driver.call (member : Member) (handles : List (Option Nat)) (driver : Driver) : Driver :=
  { driver with calls := driver.calls ++ [⟨member, handles⟩] }

def Driver.setDevice (self : Nat) (device : Option Device) (driver : Driver) : Driver :=
  { driver with device := Function.update driver.device self device }

def Driver.dropHandles (driver : Driver) : Driver := { driver with txqHdl := none, rxqHdl := none }

/-- Requests one after the other until one fails; the codes are what `write` returns. -/
def writeAll : List Int → Driver → Driver × Int
  | [], driver => (driver, 0)
  | ret :: rest, driver =>
      let driver := driver.call .write [driver.txqHdl]
      if ret < 0 then (driver, ret) else writeAll rest driver

attribute [local simp] writeAll

/-- What `mt7697q_init` comes to. The handles are set before the state of the
queues is read. -/
inductive InitOutcome where
  | early
  | late (txq rxq : Nat)
  | done (txq rxq : Nat)

/-- `mt7697_init_hw_start`, with what `init` or `open` and the last request return. -/
def mt7697InitHwStart (init : InitOutcome) (opened : Option Nat) (wrCfg : Int) (driver : Driver) :
    Driver :=
  match driver.transport with
  | .spi =>
      let driver := driver.call .init [driver.txqHdl, driver.rxqHdl]
      match init with
      | .early => driver
      | .late txq rxq => { driver with txqHdl := some txq, rxqHdl := some rxq, notifyTx := true }
      | .done txq rxq =>
          (writeAll [wrCfg]
            { driver with txqHdl := some txq, rxqHdl := some rxq, notifyTx := true }).1
  | .uart =>
      let driver := { driver.call .openDevice [] with txqHdl := opened }
      match opened with
      | none => driver
      | some handle => (writeAll [wrCfg] { driver with rxqHdl := some handle }).1

/-- `mt7697_open`, which returns zero also when the transport does not open. -/
def mt7697Open (opened : Option Nat) (driver : Driver) : Driver :=
  if driver.rxqHdl = none ∧ driver.txqHdl = none then
    let driver := { driver.call .openDevice [] with txqHdl := opened }
    match opened with
    | none => driver
    | some handle => { driver with rxqHdl := some handle }
  else driver

/-- The disconnects that a stop asks for. -/
def peerWrites (writes : StopWrites) (device : Device) : List Int :=
  match device.iftype with
  | .station => [writes.disconnect]
  | .ap => device.staList.map writes.station
  | .other => []

/-- A device whose peers are gone, or the stations from the first that was not. -/
def dropPeers (writes : StopWrites) (device : Device) : Device :=
  { device with staList := device.staList.dropWhile fun mac => 0 ≤ writes.station mac }

/-- The end of a stop: the code of `close` is returned, and the handles are gone
whatever it is. -/
def closeTransport (writes : StopWrites) (driver : Driver) : Driver × Int :=
  let (driver, ret) := writeAll [writes.setOpMode] driver
  if ret < 0 then (driver, ret)
  else
    ((driver.call .close [driver.txqHdl]).dropHandles, writes.close)

def mt7697Cfg80211Stop (self : Nat) (writes : StopWrites) (device : Device) (driver : Driver) :
    Driver × Int :=
  let (driver, ret) := writeAll (peerWrites writes device) { driver with txSkbList := 0 }
  let device := if device.iftype = .ap then dropPeers writes device else device
  if ret < 0 then (driver.setDevice self (some device), ret)
  else closeTransport writes (driver.setDevice self (some { device with iftype := .station }))

/-- The kernel stops a device that is up before it takes it away. -/
def unregisterNetdev (self : Nat) (writes : StopWrites) (driver : Driver) : Driver :=
  match driver.device self with
  | none => driver
  | some device =>
      let driver := if device.up = true then (mt7697Cfg80211Stop self writes device driver).1 else driver
      driver.setDevice self none

/-- The second stop of a device is the one of `unregister_netdev`. -/
def mt7697Cfg80211DelIface (self : Nat) (writes again : StopWrites) (device : Device)
    (driver : Driver) : Driver :=
  let driver := { driver with vifList := driver.vifList.erase self }
  let (driver, ret) := mt7697Cfg80211Stop self writes device driver
  if ret < 0 then driver else unregisterNetdev self again driver

/-- What `shutdown` returns and the writes of the stop in `unregister_netdev`. -/
structure Removal where
  shutdown : Int
  writes : StopWrites

def shutTransport (ret : Int) (driver : Driver) : Driver :=
  if driver.transport.sets .shutdown = true then
    let driver := driver.call .shutdown [driver.txqHdl, driver.rxqHdl]
    if ret < 0 then driver else driver.dropHandles
  else driver

def mt7697CleanupVif (removal : Nat → Removal) : List Nat → Driver → Driver
  | [], driver => driver
  | self :: rest, driver =>
      let driver := shutTransport (removal self).shutdown driver
      let driver := { driver with vifList := driver.vifList.erase self }
      mt7697CleanupVif removal rest (unregisterNetdev self (removal self).writes driver)

/-- `mt7697_notify_tx`, which only `init` makes known to the transport. -/
def mt7697NotifyTx (waits : Bool) (driver : Driver) : Driver :=
  if 0 < driver.txSkbList ∧ waits = true then driver.call .unblockWriter [driver.txqHdl] else driver

/-- One request for each packet; what it returns is only counted. -/
def mt7697TxWork (driver : Driver) : Driver :=
  { (writeAll (List.replicate driver.txSkbList 0) driver).1 with txSkbList := 0 }

/-- A frame that `mt7697_proc_80211cmd` takes in so many reads. -/
def mt7697Proc80211cmd : Nat → Driver → Driver
  | 0, driver => driver
  | reads + 1, driver => mt7697Proc80211cmd reads (driver.call .read [driver.rxqHdl])

inductive Event where
  | initHwStart (init : InitOutcome) (opened : Option Nat) (wrCfg : Int)
  | addInterface (self : Nat) (iftype : IfType)
  | openDevice (self : Nat) (opened : Option Nat)
  | stop (self : Nat) (writes : StopWrites)
  | delIface (self : Nat) (writes again : StopWrites)
  | cleanup (removal : Nat → Removal)
  | dataTx (accepted : Bool)
  | txWork
  | notifyTx (waits : Bool)
  | receive (reads : Nat)

/-- The kernel opens a device that is down and stops one that is up. -/
def step (driver : Driver) : Event → Driver
  | .initHwStart init opened wrCfg => mt7697InitHwStart init opened wrCfg driver
  | .addInterface self iftype =>
      if driver.vifList = [] then
        { driver with vifList := [self] }.setDevice self (some ⟨iftype, [], false⟩)
      else driver
  | .openDevice self opened =>
      match driver.device self with
      | some device =>
          if device.up = false then
            (mt7697Open opened driver).setDevice self (some { device with up := true })
          else driver
      | none => driver
  | .stop self writes =>
      match driver.device self with
      | some device =>
          if device.up = true then
            let driver := (mt7697Cfg80211Stop self writes device driver).1
            driver.setDevice self ((driver.device self).map fun device => { device with up := false })
          else driver
      | none => driver
  | .delIface self writes again =>
      match driver.device self with
      | some device => mt7697Cfg80211DelIface self writes again device driver
      | none => driver
  | .cleanup removal => mt7697CleanupVif removal driver.vifList driver
  | .dataTx accepted =>
      if accepted = true then { driver with txSkbList := driver.txSkbList + 1 } else driver
  | .txWork => mt7697TxWork driver
  | .notifyTx waits => if driver.notifyTx = true then mt7697NotifyTx waits driver else driver
  | .receive reads => mt7697Proc80211cmd reads driver

attribute [local simp] step

/-- Every call is to a member that the transport has, with the handles it needs. -/
def Sound (driver : Driver) : Prop := ∀ call ∈ driver.calls, Legal driver.transport call

/-- Whether a stop gets as far as `close`. -/
def Closes (writes : StopWrites) (device : Device) : Prop :=
  (∀ ret ∈ peerWrites writes device, 0 ≤ ret) ∧ 0 ≤ writes.setOpMode

/-- A stop finds an open transport, and one that can be closed if it gets to that. -/
structure StopSafe (driver : Driver) (writes : StopWrites) (device : Device) : Prop where
  txqHdl : driver.txqHdl ≠ none
  uart : Closes writes device → driver.transport = .uart

/-- What removing an interface asks of a transport with a shutdown, and of one
that is closed. -/
def RemovalSafe (driver : Driver) (removal : Removal) (device : Option Device) : Prop :=
  match driver.transport with
  | .spi => driver.txqHdl ≠ none ∧ driver.rxqHdl ≠ none ∧ ∀ here ∈ device, here.up = true →
      removal.shutdown < 0 ∧ ¬Closes removal.writes here
  | .uart => ∀ here ∈ device, here.up = true → driver.txqHdl ≠ none

def TransportSafe (driver : Driver) : Event → Prop
  | .openDevice self _ => ∀ device ∈ driver.device self, device.up = false →
      driver.rxqHdl = none → driver.txqHdl = none → driver.transport = .uart
  | .stop self writes => ∀ device ∈ driver.device self, device.up = true →
      StopSafe driver writes device
  | .delIface self writes _ => ∀ device ∈ driver.device self, StopSafe driver writes device ∧
      (Closes writes device → 0 ≤ writes.close → device.up = false)
  | .cleanup removal => ∀ self ∈ driver.vifList, RemovalSafe driver (removal self) (driver.device self)
  | .txWork => 0 < driver.txSkbList → driver.txqHdl ≠ none
  | .receive reads => 0 < reads → driver.rxqHdl ≠ none
  | _ => True

/-! Single calls. -/

variable {driver after : Driver} {self : Nat} {writes : StopWrites} {device : Device}

/-- What calls leave alone. -/
structure SameDriver (before after : Driver) : Prop where
  transport : after.transport = before.transport
  txqHdl : after.txqHdl = before.txqHdl
  rxqHdl : after.rxqHdl = before.rxqHdl
  notifyTx : after.notifyTx = before.notifyTx
  device : after.device = before.device
  vifList : after.vifList = before.vifList

theorem sound_call {member : Member} {handles : List (Option Nat)} :
    Sound (driver.call member handles) ↔ Sound driver ∧ Legal driver.transport ⟨member, handles⟩ := by
  simp only [Sound, Driver.call, List.forall_mem_append, List.forall_mem_singleton]

theorem legal_write {handle : Option Nat} :
    Legal driver.transport ⟨.write, [handle]⟩ ↔ handle ≠ none := by
  have sets : driver.transport.sets .write = true := by cases driver.transport <;> rfl
  simp only [Legal, sets, Member.strict, List.mem_singleton, true_and, forall_const, ne_eq]
  exact not_congr eq_comm

theorem legal_read {handle : Option Nat} :
    Legal driver.transport ⟨.read, [handle]⟩ ↔ handle ≠ none := by
  have sets : driver.transport.sets .read = true := by cases driver.transport <;> rfl
  simp only [Legal, sets, Member.strict, List.mem_singleton, true_and, forall_const, ne_eq]
  exact not_congr eq_comm

theorem legal_close {handle : Option Nat} (some : handle ≠ none) :
    Legal driver.transport ⟨.close, [handle]⟩ ↔ driver.transport = .uart := by
  cases transport : driver.transport with
  | spi => simp [Legal, Transport.sets]
  | uart =>
      simp only [Legal, Transport.sets, Member.strict, List.mem_singleton, true_and, forall_const,
        iff_true]
      exact fun same => some same.symm

theorem writeAll_same {codes : List Int} : SameDriver driver (writeAll codes driver).1 := by
  induction codes generalizing driver with
  | nil => exact ⟨rfl, rfl, rfl, rfl, rfl, rfl⟩
  | cons ret rest ih =>
      simp only [writeAll]
      split
      · exact ⟨rfl, rfl, rfl, rfl, rfl, rfl⟩
      · have later := @ih (driver.call .write [driver.txqHdl])
        exact ⟨later.transport, later.txqHdl, later.rxqHdl, later.notifyTx, later.device, later.vifList⟩

theorem writeAll_sound {codes : List Int} :
    Sound (writeAll codes driver).1 ↔ Sound driver ∧ (codes ≠ [] → driver.txqHdl ≠ none) := by
  induction codes generalizing driver with
  | nil => simp
  | cons ret rest ih =>
      have first : Sound (driver.call .write [driver.txqHdl]) ↔ Sound driver ∧ driver.txqHdl ≠ none :=
        sound_call.trans (and_congr_right fun _ => legal_write)
      simp only [writeAll]
      split
      · simpa using first
      · rw [ih, first]
        simp only [ne_eq, List.cons_ne_nil, not_false_eq_true, forall_const]
        exact and_iff_left_of_imp fun both _ => both.2

theorem writeAll_ret {codes : List Int} :
    (writeAll codes driver).2 < 0 ↔ ¬∀ ret ∈ codes, 0 ≤ ret := by
  induction codes generalizing driver with
  | nil => simp
  | cons ret rest ih =>
      simp only [writeAll, List.forall_mem_cons]
      split
      · rename_i failed
        simp only [failed, true_iff]
        omega
      · rename_i passed
        rw [ih]
        have zero : 0 ≤ ret := by omega
        simp only [zero, true_and]

/-! A stop. -/

/-- What the end of a stop leaves of the driver, and what it returns. -/
structure Ended (driver : Driver) (writes : StopWrites) (closes : Prop) (after : Driver) (ret : Int) :
    Prop where
  transport : after.transport = driver.transport
  notifyTx : after.notifyTx = driver.notifyTx
  vifList : after.vifList = driver.vifList
  closed : closes → after.txqHdl = none ∧ ret = writes.close
  kept : ¬closes → after.txqHdl = driver.txqHdl ∧ after.rxqHdl = driver.rxqHdl ∧ ret < 0
  sound : Sound after ↔
    Sound driver ∧ driver.txqHdl ≠ none ∧ (closes → driver.transport = .uart)

theorem closeTransport_ended : Ended driver writes (0 ≤ writes.setOpMode)
    (closeTransport writes driver).1 (closeTransport writes driver).2 := by
  have asked : Sound (driver.call .write [driver.txqHdl]) ↔ Sound driver ∧ driver.txqHdl ≠ none :=
    sound_call.trans (and_congr_right fun _ => legal_write)
  by_cases failed : writes.setOpMode < 0
  · have ends : ¬0 ≤ writes.setOpMode := by omega
    have steps : closeTransport writes driver =
        (driver.call .write [driver.txqHdl], writes.setOpMode) := by
      simp only [closeTransport, writeAll, failed, if_true]
    rw [steps]
    constructor
    · rfl
    · rfl
    · rfl
    · exact fun closes => absurd closes ends
    · exact fun _ => ⟨rfl, rfl, failed⟩
    · rw [asked]
      exact and_congr_right fun _ => (and_iff_left fun closes => absurd closes ends).symm
  · have closes : 0 ≤ writes.setOpMode := by omega
    let asking := driver.call .write [driver.txqHdl]
    have steps : closeTransport writes driver =
        ((asking.call .close [asking.txqHdl]).dropHandles, writes.close) := by
      simp only [closeTransport, writeAll, failed, if_false]
      rfl
    have closing : Sound (asking.call .close [asking.txqHdl]).dropHandles ↔
        Sound asking ∧ Legal driver.transport ⟨.close, [driver.txqHdl]⟩ := sound_call
    rw [steps]
    constructor
    · rfl
    · rfl
    · rfl
    · exact fun _ => ⟨rfl, rfl⟩
    · exact fun ends => absurd closes ends
    · rw [closing, asked, and_assoc]
      apply and_congr_right
      intro _
      apply and_congr_right
      intro some
      rw [legal_close some]
      exact ⟨fun uart _ => uart, fun uart => uart closes⟩

theorem sound_setDevice {device : Option Device} : Sound (driver.setDevice self device) ↔ Sound driver :=
  Iff.rfl

/-- A stop whose peers are all told goes on to `close`. -/
theorem stop_passed (peers : ∀ ret ∈ peerWrites writes device, 0 ≤ ret) :
    ∃ left, mt7697Cfg80211Stop self writes device driver = closeTransport writes
      ((writeAll (peerWrites writes device) { driver with txSkbList := 0 }).1.setDevice self
        (some left)) := by
  have passed : ¬(writeAll (peerWrites writes device) { driver with txSkbList := 0 }).2 < 0 :=
    fun failed => writeAll_ret.mp failed peers
  simp only [mt7697Cfg80211Stop]
  rw [if_neg passed]
  exact ⟨_, rfl⟩

theorem stop_refused (peers : ¬∀ ret ∈ peerWrites writes device, 0 ≤ ret) :
    ∃ left, mt7697Cfg80211Stop self writes device driver =
      ((writeAll (peerWrites writes device) { driver with txSkbList := 0 }).1.setDevice self
        (some left),
        (writeAll (peerWrites writes device) { driver with txSkbList := 0 }).2) := by
  simp only [mt7697Cfg80211Stop]
  rw [if_pos (writeAll_ret.mpr peers)]
  exact ⟨_, rfl⟩

theorem stop_ended : Ended driver writes (Closes writes device)
    (mt7697Cfg80211Stop self writes device driver).1
    (mt7697Cfg80211Stop self writes device driver).2 := by
  let quiet : Driver := { driver with txSkbList := 0 }
  have first := @writeAll_same quiet (peerWrites writes device)
  have sent : Sound (writeAll (peerWrites writes device) quiet).1 ↔
      Sound driver ∧ (peerWrites writes device ≠ [] → driver.txqHdl ≠ none) := writeAll_sound
  -- Every peer hears of the stop, or the first that does not ends it before the transport closes.
  by_cases peers : ∀ ret ∈ peerWrites writes device, 0 ≤ ret
  · obtain ⟨left, steps⟩ := @stop_passed driver self writes device peers
    let reset := (writeAll (peerWrites writes device) quiet).1.setDevice self (some left)
    have ended := @closeTransport_ended reset writes
    have txq : reset.txqHdl = driver.txqHdl := first.txqHdl
    have whole : Closes writes device ↔ 0 ≤ writes.setOpMode := and_iff_right peers
    rw [steps, whole]
    constructor
    · exact ended.transport.trans first.transport
    · exact ended.notifyTx.trans first.notifyTx
    · exact ended.vifList.trans first.vifList
    · exact ended.closed
    · intro ends
      have kept := ended.kept ends
      exact ⟨kept.1.trans first.txqHdl, kept.2.1.trans first.rxqHdl, kept.2.2⟩
    · have transport : reset.transport = driver.transport := first.transport
      rw [ended.sound, sound_setDevice, sent, txq, transport, and_assoc]
      apply and_congr_right
      intro _
      exact and_iff_right_of_imp fun both _ => both.1
  · have some : peerWrites writes device ≠ [] := by
      intro none
      rw [none] at peers
      exact peers fun ret member => absurd member List.not_mem_nil
    have ends : ¬Closes writes device := fun closes => peers closes.1
    have failed := (@writeAll_ret quiet (peerWrites writes device)).mpr peers
    obtain ⟨left, steps⟩ := @stop_refused driver self writes device peers
    rw [steps]
    constructor
    · exact first.transport
    · exact first.notifyTx
    · exact first.vifList
    · exact fun closes => absurd closes ends
    · exact fun _ => ⟨first.txqHdl, first.rxqHdl, failed⟩
    · rw [sound_setDevice, sent]
      apply and_congr_right
      intro _
      exact ⟨fun write => ⟨write some, fun closes => absurd closes ends⟩, fun safe _ => safe.1⟩

theorem stop_sound : Sound (mt7697Cfg80211Stop self writes device driver).1 ↔
    Sound driver ∧ StopSafe driver writes device := by
  have ended := @stop_ended driver self writes device
  rw [ended.sound]
  apply and_congr_right
  intro _
  exact ⟨fun both => ⟨both.1, both.2⟩, fun safe => ⟨safe.txqHdl, safe.uart⟩⟩

theorem closeTransport_device : (closeTransport writes driver).1.device = driver.device := by
  by_cases failed : writes.setOpMode < 0
  · simp only [closeTransport, writeAll, failed, if_true]
    rfl
  · simp only [closeTransport, writeAll, failed, if_false]
    rfl

/-- A stop leaves the device to the kernel, and its flag. -/
theorem stop_up : ∃ left, (mt7697Cfg80211Stop self writes device driver).1.device self = some left ∧
    left.up = device.up := by
  have dropped : (dropPeers writes device).up = device.up := rfl
  simp only [mt7697Cfg80211Stop]
  split
  · apply Exists.intro
    constructor
    · exact Function.update_self ..
    · split
      · exact dropped
      · rfl
  · rw [closeTransport_device]
    apply Exists.intro
    constructor
    · exact Function.update_self ..
    · simp only
      split
      · exact dropped
      · rfl

/-! Removals. -/

theorem unregister_sound : Sound (unregisterNetdev self writes driver) ↔ Sound driver ∧
    ∀ device ∈ driver.device self, device.up = true → StopSafe driver writes device := by
  unfold unregisterNetdev
  cases here : driver.device self with
  | none => simp
  | some device =>
      cases up : device.up with
      | false => simp [sound_setDevice, up]
      | true => simp [sound_setDevice, stop_sound, up]

theorem delIface_sound {again : StopWrites} :
    Sound (mt7697Cfg80211DelIface self writes again device driver) ↔ Sound driver ∧
      StopSafe driver writes device ∧
        (Closes writes device → 0 ≤ writes.close → device.up = false) := by
  let unlisted : Driver := { driver with vifList := driver.vifList.erase self }
  have ended := @stop_ended unlisted self writes device
  have stopped : Sound (mt7697Cfg80211Stop self writes device unlisted).1 ↔
      Sound driver ∧ StopSafe driver writes device := by
    have safe : StopSafe unlisted writes device ↔ StopSafe driver writes device :=
      ⟨fun safe => ⟨safe.txqHdl, safe.uart⟩, fun safe => ⟨safe.txqHdl, safe.uart⟩⟩
    exact stop_sound.trans (and_congr_right fun _ => safe)
  have steps : mt7697Cfg80211DelIface self writes again device driver =
      if (mt7697Cfg80211Stop self writes device unlisted).2 < 0 then
        (mt7697Cfg80211Stop self writes device unlisted).1
      else unregisterNetdev self again (mt7697Cfg80211Stop self writes device unlisted).1 := rfl
  rw [steps]
  split
  · rename_i failed
    have quiet : Closes writes device → 0 ≤ writes.close → device.up = false := by
      intro closes done
      have code := (ended.closed closes).2
      omega
    rw [stopped]
    exact and_congr_right fun _ => (and_iff_left quiet).symm
  · rename_i passed
    have closes : Closes writes device := by
      by_contra ends
      exact passed (ended.kept ends).2.2
    have closed := ended.closed closes
    have done : 0 ≤ writes.close := by omega
    obtain ⟨left, here, up⟩ := @stop_up unlisted self writes device
    -- The handles are gone when the kernel stops the device again.
    have shut : ¬StopSafe (mt7697Cfg80211Stop self writes device unlisted).1 again left :=
      fun safe => safe.txqHdl closed.1
    rw [unregister_sound, stopped, here, and_assoc]
    apply and_congr_right
    intro _
    apply and_congr_right
    intro _
    simp only [Option.mem_def, Option.some.injEq, forall_eq', up, closes, done, forall_const]
    cases device.up with
    | false => simp
    | true => simp [shut]

theorem legal_shutdown (spi : driver.transport = .spi) {txq rxq : Option Nat} :
    Legal driver.transport ⟨.shutdown, [txq, rxq]⟩ ↔ txq ≠ none ∧ rxq ≠ none := by
  simp only [Legal, spi, Transport.sets, Member.strict, List.mem_cons, List.not_mem_nil, or_false,
    true_and, forall_const, not_or]
  exact and_congr (not_congr eq_comm) (not_congr eq_comm)

theorem shut_uart {ret : Int} (uart : driver.transport = .uart) : shutTransport ret driver = driver := by
  simp [shutTransport, uart, Transport.sets]

theorem shut_spi {ret : Int} (spi : driver.transport = .spi) : shutTransport ret driver =
    if ret < 0 then driver.call .shutdown [driver.txqHdl, driver.rxqHdl]
    else (driver.call .shutdown [driver.txqHdl, driver.rxqHdl]).dropHandles := by
  simp [shutTransport, spi, Transport.sets]

theorem shut_sound {ret : Int} (spi : driver.transport = .spi) :
    Sound (shutTransport ret driver) ↔
      Sound driver ∧ driver.txqHdl ≠ none ∧ driver.rxqHdl ≠ none := by
  have asked : Sound (driver.call .shutdown [driver.txqHdl, driver.rxqHdl]) ↔
      Sound driver ∧ driver.txqHdl ≠ none ∧ driver.rxqHdl ≠ none :=
    sound_call.trans (and_congr_right fun _ => legal_shutdown spi)
  rw [shut_spi spi]
  split
  · exact asked
  · exact asked

/-- After a shutdown only a transport that refused it can be written to. -/
theorem shut_stopSafe {ret : Int} (spi : driver.transport = .spi) (some : driver.txqHdl ≠ none) :
    StopSafe (shutTransport ret driver) writes device ↔ ret < 0 ∧ ¬Closes writes device := by
  rw [shut_spi spi]
  split
  · rename_i failed
    constructor
    · intro safe
      exact ⟨failed, fun closes => absurd (spi.symm.trans (safe.uart closes)) Transport.noConfusion⟩
    · intro both
      exact ⟨some, fun closes => absurd closes both.2⟩
  · rename_i passed
    exact ⟨fun safe => absurd rfl safe.txqHdl, fun both => absurd both.1 passed⟩

theorem shut_device {ret : Int} : (shutTransport ret driver).device = driver.device := by
  unfold shutTransport
  split
  · split <;> rfl
  · rfl

theorem removal_sound {removal : Removal} {vifList : List Nat} :
    Sound (unregisterNetdev self removal.writes
      { shutTransport removal.shutdown driver with vifList := vifList }) ↔
      Sound driver ∧ RemovalSafe driver removal (driver.device self) := by
  have unregistered : Sound (unregisterNetdev self removal.writes
      { shutTransport removal.shutdown driver with vifList := vifList }) ↔
      Sound (shutTransport removal.shutdown driver) ∧ ∀ here ∈ driver.device self, here.up = true →
        StopSafe (shutTransport removal.shutdown driver) removal.writes here := by
    rw [unregister_sound, shut_device]
    exact and_congr Iff.rfl (forall₃_congr fun _ _ _ =>
      ⟨fun safe => ⟨safe.1, safe.2⟩, fun safe => ⟨safe.1, safe.2⟩⟩)
  rw [unregistered]
  cases transport : driver.transport with
  | uart =>
      rw [shut_uart transport]
      apply and_congr_right
      intro _
      simp only [RemovalSafe, transport]
      exact forall₃_congr fun _ _ _ =>
        ⟨fun safe => safe.txqHdl, fun some => ⟨some, fun _ => transport⟩⟩
  | spi =>
      rw [shut_sound transport, and_assoc, and_assoc]
      apply and_congr_right
      intro _
      simp only [RemovalSafe, transport]
      apply and_congr_right
      intro some
      apply and_congr_right
      intro _
      exact forall₃_congr fun _ _ _ => shut_stopSafe transport some

/-- The list has one interface at most. -/
theorem cleanup_sound {removal : Nat → Removal} (single : driver.vifList.length ≤ 1) :
    Sound (mt7697CleanupVif removal driver.vifList driver) ↔ Sound driver ∧
      ∀ self ∈ driver.vifList, RemovalSafe driver (removal self) (driver.device self) := by
  cases list : driver.vifList with
  | nil => simp [mt7697CleanupVif]
  | cons self rest =>
      have none : rest = [] := by
        rw [list, List.length_cons] at single
        exact List.length_eq_zero_iff.mp (by omega)
      subst none
      simp only [mt7697CleanupVif, removal_sound, List.forall_mem_singleton]

/-! Requests and frames. -/

theorem txWork_sound : Sound (mt7697TxWork driver) ↔
    Sound driver ∧ (0 < driver.txSkbList → driver.txqHdl ≠ none) := by
  have sent := @writeAll_sound driver (List.replicate driver.txSkbList 0)
  have some : List.replicate driver.txSkbList (0 : Int) ≠ [] ↔ 0 < driver.txSkbList := by
    rw [ne_eq, List.replicate_eq_nil_iff]
    omega
  rw [some] at sent
  exact sent

theorem proc80211cmd_sound {reads : Nat} : Sound (mt7697Proc80211cmd reads driver) ↔
    Sound driver ∧ (0 < reads → driver.rxqHdl ≠ none) := by
  induction reads generalizing driver with
  | zero => simp [mt7697Proc80211cmd]
  | succ reads ih =>
      have first : Sound (driver.call .read [driver.rxqHdl]) ↔ Sound driver ∧ driver.rxqHdl ≠ none :=
        sound_call.trans (and_congr_right fun _ => legal_read)
      rw [mt7697Proc80211cmd, ih, first]
      simp only [Nat.zero_lt_succ, forall_const]
      exact and_iff_left_of_imp fun both _ => both.2

/-! Runs. -/

/-- What every step keeps. -/
structure Kept (driver : Driver) : Prop where
  single : driver.vifList.length ≤ 1
  notifyTx : driver.notifyTx = true → driver.transport = .spi

theorem initHwStart_sound {init : InitOutcome} {opened : Option Nat} {wrCfg : Int} :
    Sound (mt7697InitHwStart init opened wrCfg driver) ↔ Sound driver := by
  unfold mt7697InitHwStart
  cases transport : driver.transport with
  | spi =>
      have called : Sound (driver.call .init [driver.txqHdl, driver.rxqHdl]) ↔ Sound driver := by
        rw [sound_call]
        exact and_iff_left (by simp [Legal, transport, Transport.sets, Member.strict])
      cases init with
      | early => exact called
      | late txq rxq => exact called
      | done txq rxq =>
          rw [writeAll_sound]
          exact (and_iff_left fun _ => Option.some_ne_none txq).trans called
  | uart =>
      have called : Sound (driver.call .openDevice []) ↔ Sound driver := by
        rw [sound_call]
        exact and_iff_left (by simp [Legal, transport, Transport.sets, Member.strict])
      cases opened with
      | none => exact called
      | some handle =>
          rw [writeAll_sound]
          exact (and_iff_left fun _ => Option.some_ne_none handle).trans called

theorem open_sound {opened : Option Nat} : Sound (mt7697Open opened driver) ↔ Sound driver ∧
    (driver.rxqHdl = none → driver.txqHdl = none → driver.transport = .uart) := by
  have called : Sound (driver.call .openDevice []) ↔ Sound driver ∧ driver.transport = .uart := by
    rw [sound_call]
    apply and_congr_right
    intro _
    cases driver.transport <;> simp [Legal, Transport.sets, Member.strict]
  by_cases closed : driver.rxqHdl = none ∧ driver.txqHdl = none
  · have asked : Sound (mt7697Open opened driver) ↔ Sound (driver.call .openDevice []) := by
      rw [mt7697Open, if_pos closed]
      cases opened <;> exact Iff.rfl
    rw [asked, called]
    exact and_congr_right fun _ => ⟨fun uart _ _ => uart, fun uart => uart closed.1 closed.2⟩
  · rw [mt7697Open, if_neg closed]
    exact (and_iff_left fun rxq txq => absurd ⟨rxq, txq⟩ closed).symm

theorem notifyTx_sound {waits : Bool} (spi : driver.transport = .spi) :
    Sound (mt7697NotifyTx waits driver) ↔ Sound driver := by
  unfold mt7697NotifyTx
  split
  · rw [sound_call]
    exact and_iff_left (by simp [Legal, spi, Transport.sets, Member.strict])
  · exact Iff.rfl

theorem step_sound {event : Event} (kept : Kept driver) :
    Sound (step driver event) ↔ Sound driver ∧ TransportSafe driver event := by
  cases event with
  | initHwStart init opened wrCfg => simp only [step, TransportSafe, initHwStart_sound, and_true]
  | addInterface self iftype =>
      simp only [step, TransportSafe, and_true]
      split <;> exact Iff.rfl
  | openDevice self opened =>
      cases here : driver.device self with
      | none => simp [TransportSafe, here]
      | some device =>
          cases up : device.up <;>
            simp [TransportSafe, here, up, sound_setDevice, open_sound]
  | stop self writes =>
      cases here : driver.device self with
      | none => simp [TransportSafe, here]
      | some device =>
          cases up : device.up <;>
            simp [TransportSafe, here, up, sound_setDevice, stop_sound]
  | delIface self writes again =>
      cases here : driver.device self with
      | none => simp [TransportSafe, here]
      | some device => simp [TransportSafe, here, delIface_sound]
  | cleanup removal => exact cleanup_sound kept.single
  | dataTx accepted =>
      simp only [step, TransportSafe, and_true]
      split <;> exact Iff.rfl
  | txWork => exact txWork_sound
  | notifyTx waits =>
      simp only [step, TransportSafe, and_true]
      split
      · rename_i registered
        exact notifyTx_sound (kept.notifyTx registered)
      · exact Iff.rfl
  | receive reads => exact proc80211cmd_sound

/-! The list and the callback over a step. -/

structure Shrunk (before after : Driver) : Prop where
  transport : after.transport = before.transport
  notifyTx : after.notifyTx = before.notifyTx
  vifList : after.vifList.length ≤ before.vifList.length

theorem shrunk_refl : Shrunk driver driver := ⟨rfl, rfl, Nat.le_refl _⟩

theorem Shrunk.trans {before middle after : Driver} (first : Shrunk before middle)
    (second : Shrunk middle after) : Shrunk before after where
  transport := second.transport.trans first.transport
  notifyTx := second.notifyTx.trans first.notifyTx
  vifList := Nat.le_trans second.vifList first.vifList

theorem shrunk_kept (kept : Kept driver) (shrunk : Shrunk driver after) : Kept after where
  single := Nat.le_trans shrunk.vifList kept.single
  notifyTx registered := shrunk.transport.trans (kept.notifyTx (shrunk.notifyTx.symm.trans registered))

theorem writeAll_shrunk {codes : List Int} : Shrunk driver (writeAll codes driver).1 := by
  have same := @writeAll_same driver codes
  exact ⟨same.transport, same.notifyTx, Nat.le_of_eq (congrArg List.length same.vifList)⟩

theorem stop_shrunk : Shrunk driver (mt7697Cfg80211Stop self writes device driver).1 := by
  have ended := @stop_ended driver self writes device
  exact ⟨ended.transport, ended.notifyTx, Nat.le_of_eq (congrArg List.length ended.vifList)⟩

theorem setDevice_shrunk {device : Option Device} : Shrunk driver (driver.setDevice self device) :=
  ⟨rfl, rfl, Nat.le_refl _⟩

theorem erase_shrunk : Shrunk driver { driver with vifList := driver.vifList.erase self } :=
  ⟨rfl, rfl, List.length_erase_le⟩

theorem unregister_shrunk : Shrunk driver (unregisterNetdev self writes driver) := by
  unfold unregisterNetdev
  split
  · exact shrunk_refl
  · split
    · exact stop_shrunk.trans setDevice_shrunk
    · exact setDevice_shrunk

theorem delIface_shrunk {again : StopWrites} :
    Shrunk driver (mt7697Cfg80211DelIface self writes again device driver) := by
  simp only [mt7697Cfg80211DelIface]
  split
  · exact erase_shrunk.trans stop_shrunk
  · exact erase_shrunk.trans (stop_shrunk.trans unregister_shrunk)

theorem shutTransport_shrunk {ret : Int} : Shrunk driver (shutTransport ret driver) := by
  unfold shutTransport
  split
  · split <;> exact ⟨rfl, rfl, Nat.le_refl _⟩
  · exact shrunk_refl

theorem cleanup_shrunk {removal : Nat → Removal} {vifs : List Nat} :
    Shrunk driver (mt7697CleanupVif removal vifs driver) := by
  induction vifs generalizing driver with
  | nil => exact shrunk_refl
  | cons self rest ih =>
      exact shutTransport_shrunk.trans (erase_shrunk.trans (unregister_shrunk.trans ih))

theorem proc80211cmd_shrunk {reads : Nat} : Shrunk driver (mt7697Proc80211cmd reads driver) := by
  induction reads generalizing driver with
  | zero => exact shrunk_refl
  | succ reads ih =>
      have one : Shrunk driver (driver.call .read [driver.rxqHdl]) := ⟨rfl, rfl, Nat.le_refl _⟩
      exact one.trans ih

theorem open_shrunk {opened : Option Nat} : Shrunk driver (mt7697Open opened driver) := by
  unfold mt7697Open
  split
  · cases opened <;> exact ⟨rfl, rfl, Nat.le_refl _⟩
  · exact shrunk_refl

theorem initHwStart_kept {init : InitOutcome} {opened : Option Nat} {wrCfg : Int} (kept : Kept driver) :
    Kept (mt7697InitHwStart init opened wrCfg driver) := by
  unfold mt7697InitHwStart
  cases transport : driver.transport with
  | spi =>
      cases init with
      | early => exact shrunk_kept kept ⟨rfl, rfl, Nat.le_refl _⟩
      | late txq rxq => exact ⟨kept.single, fun _ => transport⟩
      | done txq rxq =>
          let opened := driver.call .init [driver.txqHdl, driver.rxqHdl]
          apply shrunk_kept _ (@writeAll_shrunk
            { opened with txqHdl := some txq, rxqHdl := some rxq, notifyTx := true } [wrCfg])
          exact ⟨kept.single, fun _ => transport⟩
  | uart =>
      cases opened with
      | none => exact shrunk_kept kept ⟨rfl, rfl, Nat.le_refl _⟩
      | some handle =>
          apply shrunk_kept _ (@writeAll_shrunk
            { driver.call .openDevice [] with txqHdl := some handle, rxqHdl := some handle } [wrCfg])
          exact ⟨kept.single, kept.notifyTx⟩

theorem step_kept {event : Event} (kept : Kept driver) : Kept (step driver event) := by
  cases event with
  | initHwStart init opened wrCfg => exact initHwStart_kept kept
  | addInterface self iftype =>
      simp only [step]
      split
      · exact ⟨Nat.le_refl 1, kept.notifyTx⟩
      · exact kept
  | openDevice self opened =>
      apply shrunk_kept kept
      simp only [step]
      split
      · split
        · exact open_shrunk.trans setDevice_shrunk
        · exact shrunk_refl
      · exact shrunk_refl
  | stop self writes =>
      apply shrunk_kept kept
      simp only [step]
      split
      · split
        · exact stop_shrunk.trans setDevice_shrunk
        · exact shrunk_refl
      · exact shrunk_refl
  | delIface self writes again =>
      apply shrunk_kept kept
      simp only [step]
      split
      · exact delIface_shrunk
      · exact shrunk_refl
  | cleanup removal => exact shrunk_kept kept cleanup_shrunk
  | dataTx accepted =>
      apply shrunk_kept kept
      simp only [step]
      split <;> exact ⟨rfl, rfl, Nat.le_refl _⟩
  | txWork =>
      have sent := @writeAll_shrunk driver (List.replicate driver.txSkbList 0)
      exact shrunk_kept kept ⟨sent.transport, sent.notifyTx, sent.vifList⟩
  | notifyTx waits =>
      apply shrunk_kept kept
      simp only [step, mt7697NotifyTx]
      split
      · split <;> exact ⟨rfl, rfl, Nat.le_refl _⟩
      · exact shrunk_refl
  | receive reads => exact shrunk_kept kept proc80211cmd_shrunk

/-- The driver after its probe for a transport. -/
structure Probed (driver : Driver) : Prop where
  calls : driver.calls = []
  vifList : driver.vifList = []
  notifyTx : driver.notifyTx = false

def probed (transport : Transport) : Driver where
  transport := transport
  txqHdl := none
  rxqHdl := none
  notifyTx := false
  device := fun _ => none
  vifList := []
  txSkbList := 0
  calls := []

/-- A device that comes up and goes down again. -/
def upAndDown : List Event :=
  [.initHwStart (.done 4 5) (some 6) 0, .addInterface 1 .station, .openDevice 1 none,
    .stop 1 ⟨0, fun _ => 0, 0, 0⟩]

end MangOH.TransportCalls
