import MangOH.Ledger
import MangOH.StationFrame

/-!
The interfaces of `cfg80211.c` and the locks their calls take. A call on one
interface works on the configuration with that interface, as in `Station`; here
are the locks around that work, and the calls that make and remove interfaces.
A lock taken twice is noted and gone through, as on a kernel for one processor.
-/

namespace MangOH.Interfaces

open Station

/-- An interface is known by its address. -/
inductive Lock where
  | vifListLock
  | staListLock (vif : Nat)
  | ifLock (vif : Nat)
  deriving DecidableEq

/-- The configuration, the interfaces in memory, what the kernel has registered
and what the call holds. The one interface in `cfg` is that of the last call. -/
structure Host where
  cfg : Cfg
  vif : Nat → Vif
  vifList : List Nat
  numVif : BitVec 8
  registered : List Nat
  locks : Ledger Lock
  sem : Int

namespace Host

variable (self : Nat) (lock : Lock) (host : Host)

def spinLock : Host := { host with locks := host.locks.lock lock }

def spinUnlock : Host := { host with locks := host.locks.release lock }

def up : Host := { host with sem := host.sem + 1 }

/-- `down_interruptible` that was not interrupted. -/
def down : Host := { host with sem := host.sem - 1 }

/-- The configuration with one interface, and back. -/
def load : Cfg := { host.cfg with vif := host.vif self, listed := decide (self ∈ host.vifList) }

def store (cfg : Cfg) : Host := { host with cfg := cfg, vif := Function.update host.vif self cfg.vif }

def listDel : Host := { host with vifList := host.vifList.erase self }

end Host

/-- `goto cleanup` with a return code is the error side. -/
abbrev Run := Except (Host × Int) Host

def Run.leave : Run → Host × Int
  | .ok host => (host, 0)
  | .error exit => exit

/-- Work on one interface that takes no lock. -/
def on (self : Nat) (op : Cfg → Op) (host : Host) : Run :=
  match op (host.load self) with
  | .ok cfg => .ok (host.store self cfg)
  | .error (cfg, ret) => .error (host.store self cfg, ret)

/-! `mt7697_cfg80211_stop`. -/

/-- The lock is given back for each write, and stays so when the write fails. -/
def dropStations (self : Nat) (station : Mac → Int) : List Mac → Host → Run
  | [], host =>
      on self (fun cfg => .ok { cfg with vif := { cfg.vif with staList := [], staCount := 0 } }) host
  | mac :: rest, host => do
      let host ← on self (fun cfg => write (station mac) (.disconnect (some mac))
        { cfg with vif := { cfg.vif with staList := mac :: rest } })
        (host.spinUnlock (.staListLock self))
      dropStations self station rest (host.spinLock (.staListLock self))

def dropPeers (self : Nat) (writes : StopWrites) (host : Host) : Run :=
  match (host.vif self).iftype with
  | .ap => do
      let host ← dropStations self writes.station (host.vif self).staList
        (host.spinLock (.staListLock self))
      .ok (host.spinUnlock (.staListLock self))
  | _ => on self (Station.dropPeers writes) host

def mt7697Cfg80211Stop (self : Nat) (writes : StopWrites) (host : Host) : Host × Int :=
  Run.leave do
    let host ← dropPeers self writes host
    on self (fun cfg => shutDown writes (resetLink cfg)) host

/-- `ndo_stop` of `main.c`. -/
def mt7697Stop (self : Nat) (writes : StopWrites) (host : Host) : Host × Int :=
  mt7697Cfg80211Stop self writes host

/-- The kernel stops a device that is up, and `up` has what the writes of that
stop return. -/
def unregisterNetdev (self : Nat) (up : Option StopWrites) (host : Host) : Host :=
  let host :=
    match up with
    | some writes => (mt7697Stop self writes host).1
    | none => host
  { host with registered := host.registered.erase self }

/-! Interfaces made and removed. -/

/-- The outcomes of the calls of `mt7697_interface_add`, and the address of the
new interface. `mt7697_cfg80211_vif_init` returns zero. -/
structure Allocation where
  addr : Nat
  memory : Bool
  name : Int
  register : Int

def mt7697MaxSta : Nat := 10

/-- What `mt7697_interface_add` puts into zeroed memory. -/
def newVif (type : IfType) (fwVifIdx : BitVec 8) : Vif where
  connected := false
  connectPend := false
  smeState := .disconnected
  iftype := type
  fwVifIdx := fwVifIdx.toNat
  ssid := []
  ssidLen := 0
  bssid := 0
  reqBssid := 0
  pmk := 0
  chHint := 0
  scanReq := none
  locallyGenerated := false
  reconnectFlag := false
  staList := []
  staCount := 0
  staMax := mt7697MaxSta
  queueAwake := true
  carrier := false

/-- `cfg->vif_max - 1` is computed in 32 bits. -/
def mt7697GetVifByIdx (ifIdx : Nat) (host : Host) : Host × Option Nat :=
  if (host.cfg.vifMax + 4294967295) % 4294967296 < ifIdx then (host, none)
  else
    let host := host.spinLock .vifListLock
    let found := host.vifList.find? fun vif => (host.vif vif).fwVifIdx = ifIdx
    (host.spinUnlock .vifListLock, found)

/-- What is returned is NULL, or `&vif->wdev` for a `vif` that the lookup may
have left NULL. -/
def mt7697InterfaceAdd (type : IfType) (fwVifIdx : BitVec 8) (new : Allocation) (host : Host) :
    Host × Option (Option Nat) :=
  if host.vifList = [] then
    if new.memory = false then (host, none)
    else if new.name < 0 then (host, none)
    else if new.register ≠ 0 then (host, none)
    else
      let host := { host with
        vif := Function.update host.vif new.addr (newVif type fwVifIdx)
        registered := new.addr :: host.registered }
      let host := host.spinLock .vifListLock
      let host := { host with vifList := host.vifList ++ [new.addr] }
      (host.spinUnlock .vifListLock, some (some new.addr))
  else
    let (host, vif) := mt7697GetVifByIdx 0 host
    (host, some vif)

/-- `ifIdx` is a local that is never set. The list is looked at under the lock,
which a new interface is added without giving back. -/
def mt7697Cfg80211AddIface (type : IfType) (ifIdx : BitVec 8) (new : Allocation) (host : Host) :
    Host × Option (Option Nat) :=
  let host := host.spinLock .vifListLock
  match host.vifList with
  | vif :: _ => (host.spinUnlock .vifListLock, some (some vif))
  | [] =>
      match mt7697InterfaceAdd type ifIdx new host with
      | (host, none) => (host, none)
      | (host, some wdev) => ({ host with numVif := host.numVif + 1 }, some wdev)

def mt7697Cfg80211DelIface (self : Nat) (writes : StopWrites) (up : Option StopWrites) (host : Host) :
    Host × Int :=
  let host := ((host.spinLock .vifListLock).listDel self).spinUnlock .vifListLock
  let (host, ret) := mt7697Cfg80211Stop self writes host
  if ret < 0 then (host, ret) else (unregisterNetdev self up host, ret)

/-- What `shutdown` returns where the transport has it, and the stop of the device. -/
structure Removal where
  shutdown : Option Int
  up : Option StopWrites

def shutTransport (shutdown : Option Int) (host : Host) : Host :=
  match shutdown with
  | some ret => if ret < 0 then host else { host with cfg := { host.cfg with opened := false } }
  | none => host

def cleanupLoop (removal : Nat → Removal) : List Nat → Host → Host
  | [], host => host
  | self :: rest, host =>
      let host := (shutTransport (removal self).shutdown host).listDel self
      let host := unregisterNetdev self (removal self).up (host.spinUnlock .vifListLock)
      cleanupLoop removal rest (host.spinLock .vifListLock)

def mt7697CleanupVif (removal : Nat → Removal) (host : Host) : Host :=
  let host := host.spinLock .vifListLock
  (cleanupLoop removal host.vifList host).spinUnlock .vifListLock

/-! Calls on one interface. -/

/-- By which a station table looks an address up. -/
local instance lawfulMac : LawfulBEq Mac := inferInstance

/-- A match is written to without the lock, and a failed write goes to the
unlock of the loop's end. -/
def mt7697Cfg80211DelSta (self : Nat) (bssid : Mac) (disconnect : Int) (host : Host) : Host × Int :=
  let host := host.spinLock (.staListLock self)
  if bssid ∈ (host.vif self).staList then
    let host := host.spinUnlock (.staListLock self)
    match on self (write disconnect (.disconnect (some bssid))) host with
    | .error (host, ret) => (host.spinUnlock (.staListLock self), ret)
    | .ok host =>
        let host := host.spinLock (.staListLock self)
        let vif := { host.vif self with
          staList := (host.vif self).staList.erase bssid, staCount := (host.vif self).staCount - 1 }
        ({ host with vif := Function.update host.vif self vif }.spinUnlock (.staListLock self), 0)
  else (host.spinUnlock (.staListLock self), -einval)

def mt7697Cfg80211NewSta (self : Nat) (bssid : Mac) (memory : Bool) (host : Host) : Host × Int :=
  if (host.vif self).staMax < (host.vif self).staCount then (host, -einval)
  else if memory = false then (host, -enomem)
  else
    let host := host.spinLock (.staListLock self)
    let vif := { host.vif self with
      staList := (host.vif self).staList ++ [bssid], staCount := (host.vif self).staCount + 1 }
    ({ host with vif := Function.update host.vif self vif }.spinUnlock (.staListLock self), 0)

/-- Every exit goes through the unlock. -/
def mt7697Cfg80211ConnectEvent (self : Nat) (bssid : Mac) (channel : Nat) (lookups : Lookups)
    (host : Host) : Host × Int :=
  let event := on self (Station.mt7697Cfg80211ConnectEvent bssid channel lookups)
    (host.spinLock (.ifLock self))
  (event.leave.1.spinUnlock (.ifLock self), event.leave.2)

/-- Every exit goes through `up`. -/
def mt7697Cfg80211Disconnect (self : Nat) (interrupted : Bool) (disconnect : Int) (host : Host) :
    Host × Int :=
  let host := if interrupted = true then host else host.down
  let (cfg, ret) := Station.mt7697Cfg80211Disconnect interrupted disconnect (host.load self)
  ((host.store self cfg).up, ret)

/-! What work on an interface leaves alone. -/

structure SameRegistry (before after : Host) : Prop where
  sem : after.sem = before.sem
  vifList : after.vifList = before.vifList
  numVif : after.numVif = before.numVif
  registered : after.registered = before.registered

variable {self : Nat} {host base before middle after : Host} {op : Cfg → Op} {lock : Lock}

namespace SameRegistry

theorem refl (host : Host) : SameRegistry host host := ⟨rfl, rfl, rfl, rfl⟩

theorem trans (first : SameRegistry before middle) (second : SameRegistry middle after) :
    SameRegistry before after where
  sem := second.sem.trans first.sem
  vifList := second.vifList.trans first.vifList
  numVif := second.numVif.trans first.numVif
  registered := second.registered.trans first.registered

theorem store {cfg : Cfg} : SameRegistry host (host.store self cfg) := ⟨rfl, rfl, rfl, rfl⟩

theorem spinLock : SameRegistry host (host.spinLock lock) := ⟨rfl, rfl, rfl, rfl⟩

theorem spinUnlock : SameRegistry host (host.spinUnlock lock) := ⟨rfl, rfl, rfl, rfl⟩

theorem on : SameRegistry host (on self op host).leave.1 := by
  unfold Interfaces.on
  split
  · exact store
  · exact store

theorem bind {run : Run} {next : Host → Run} (first : SameRegistry base run.leave.1)
    (second : ∀ host, SameRegistry host (next host).leave.1) :
    SameRegistry base (Run.leave (run >>= next)).1 := by
  cases run with
  | ok host => exact first.trans (second host)
  | error exit => exact first

theorem dropStations {station : Mac → Int} {stations : List Mac} :
    SameRegistry host (dropStations self station stations host).leave.1 := by
  induction stations generalizing host with
  | nil => exact on
  | cons mac rest ih => exact bind (spinUnlock.trans on) fun _ => spinLock.trans ih

theorem stop {writes : StopWrites} : SameRegistry host (mt7697Cfg80211Stop self writes host).1 := by
  apply bind
  · unfold dropPeers
    split
    · exact bind (spinLock.trans dropStations) fun _ => spinUnlock
    · exact on
  · exact fun _ => on

end SameRegistry

/-- The locks are those of before as well. -/
structure Quiet (before after : Host) : Prop extends SameRegistry before after where
  locks : after.locks = before.locks

namespace Quiet

theorem refl (host : Host) : Quiet host host := ⟨.refl host, rfl⟩

/-- A lock that was free is taken and given back. -/
theorem locked (free : lock ∉ before.locks.held) (quiet : Quiet (before.spinLock lock) after) :
    Quiet before (after.spinUnlock lock) where
  toSameRegistry := SameRegistry.spinLock.trans (quiet.toSameRegistry.trans SameRegistry.spinUnlock)
  locks := (congrArg (Ledger.release lock) quiet.locks).trans (Ledger.lock_release free)

end Quiet

theorem locks_on : (on self op host).leave.1.locks = host.locks := by
  unfold on
  split <;> rfl

theorem quiet_on : Quiet host (on self op host).leave.1 := ⟨.on, locks_on⟩

/-- The locks where a loop under the lock of the stations is left. -/
def StationsLeft (self : Nat) (base : Host) : Run → Prop
  | .ok after => after.locks = base.locks.lock (.staListLock self)
  | .error (after, _) => after.locks = base.locks

theorem dropStations_left {station : Mac → Int} {stations : List Mac}
    (free : .staListLock self ∉ base.locks.held)
    (locked : host.locks = base.locks.lock (.staListLock self)) :
    StationsLeft self base (dropStations self station stations host) := by
  induction stations generalizing host with
  | nil => exact locked
  | cons mac rest ih =>
      let unlocked := host.spinUnlock (.staListLock self)
      have given : unlocked.locks = base.locks := by
        have release : unlocked.locks = host.locks.release (.staListLock self) := rfl
        rw [release, locked, Ledger.lock_release free]
      let request := fun cfg : Cfg => write (station mac) (.disconnect (some mac))
        { cfg with vif := { cfg.vif with staList := mac :: rest } }
      have written := @locks_on self unlocked request
      -- The lock is given back for the request and taken again behind it.
      have steps : dropStations self station (mac :: rest) host = on self request unlocked >>=
          fun host => dropStations self station rest (host.spinLock (.staListLock self)) := rfl
      rw [steps]
      cases result : on self request unlocked with
      | ok after =>
          rw [result] at written
          apply ih
          rw [← given, ← written]
          rfl
      | error exit =>
          rw [result] at written
          exact written.trans given

theorem dropPeers_locks {writes : StopWrites} (free : .staListLock self ∉ host.locks.held) :
    (dropPeers self writes host).leave.1.locks = host.locks := by
  unfold dropPeers
  split
  · have left := @dropStations_left self (host.spinLock (.staListLock self)) host writes.station
      (host.vif self).staList free rfl
    cases loop : dropStations self writes.station (host.vif self).staList
        (host.spinLock (.staListLock self)) with
    | ok after =>
        rw [loop] at left
        exact (congrArg (Ledger.release (.staListLock self)) left).trans (Ledger.lock_release free)
    | error exit =>
        rw [loop] at left
        exact left
  · exact locks_on

theorem quiet_stop {writes : StopWrites} (free : .staListLock self ∉ host.locks.held) :
    Quiet host (mt7697Cfg80211Stop self writes host).1 where
  toSameRegistry := SameRegistry.stop
  locks := by
    have peers := @dropPeers_locks self host writes free
    unfold mt7697Cfg80211Stop
    cases result : dropPeers self writes host with
    | ok after =>
        rw [result] at peers
        exact (@locks_on self after fun cfg => shutDown writes (resetLink cfg)).trans peers
    | error exit =>
        rw [result] at peers
        exact peers

theorem quiet_connectEvent {bssid : Mac} {channel : Nat} {lookups : Lookups}
    (free : .ifLock self ∉ host.locks.held) :
    Quiet host (mt7697Cfg80211ConnectEvent self bssid channel lookups host).1 :=
  quiet_on.locked free

theorem quiet_newSta {bssid : Mac} {memory : Bool} (free : .staListLock self ∉ host.locks.held) :
    Quiet host (mt7697Cfg80211NewSta self bssid memory host).1 := by
  unfold mt7697Cfg80211NewSta
  split
  · exact .refl host
  · split
    · exact .refl host
    · exact @Quiet.locked host { host.spinLock (.staListLock self) with vif := _ } _ free
        ⟨⟨rfl, rfl, rfl, rfl⟩, rfl⟩

/-- The stop inside takes only the lock of the stations. -/
theorem unregisterNetdev_registry {up : Option StopWrites} :
    SameRegistry { host with registered := host.registered.erase self } (unregisterNetdev self up host) := by
  cases up with
  | none => exact .refl _
  | some writes =>
      have stopped : SameRegistry host (mt7697Stop self writes host).1 := .stop
      exact ⟨stopped.sem, stopped.vifList, stopped.numVif,
        congrArg (fun devices => devices.erase self) stopped.registered⟩

/-- What a stop of the unlisted interface meets, and what taking its device away
then meets, the removal meets. -/
theorem delIface_meets {writes : StopWrites} {up : Option StopWrites} {meets : Host → Prop}
    (stopped : meets (mt7697Cfg80211Stop self writes
      (((host.spinLock .vifListLock).listDel self).spinUnlock .vifListLock)).1)
    (taken : meets (unregisterNetdev self up (mt7697Cfg80211Stop self writes
      (((host.spinLock .vifListLock).listDel self).spinUnlock .vifListLock)).1)) :
    meets (mt7697Cfg80211DelIface self writes up host).1 := by
  simp only [mt7697Cfg80211DelIface]
  split
  · exact stopped
  · exact taken

theorem unregisterNetdev_locks {up : Option StopWrites} (free : .staListLock self ∉ host.locks.held) :
    (unregisterNetdev self up host).locks = host.locks := by
  cases up with
  | none => rfl
  | some writes => exact (quiet_stop free).locks

/-! What is done between the locks is what `Station` says. -/

def Follows (self : Nat) : Run → Op → Prop
  | .ok host, .ok cfg => host.load self = cfg
  | .error (host, ret), .error (cfg, ret') => host.load self = cfg ∧ ret = ret'
  | _, _ => False

theorem load_store {cfg : Cfg} (listed : cfg.listed = (host.load self).listed) :
    (host.store self cfg).load self = cfg := by
  cases cfg
  simp only [Host.load, Host.store, Function.update_self] at listed ⊢
  subst listed
  rfl

theorem on_follows (listed : (finish (op (host.load self))).1.listed = (host.load self).listed) :
    Follows self (on self op host) (op (host.load self)) := by
  unfold on
  cases result : op (host.load self) with
  | ok cfg =>
      rw [result] at listed
      exact load_store listed
  | error exit =>
      rw [result] at listed
      exact ⟨load_store listed, rfl⟩

theorem bind_follows {run : Run} {first : Op} {next : Host → Run} {second : Cfg → Op}
    (follows : Follows self run first)
    (onward : ∀ host, run = .ok host → Follows self (next host) (second (host.load self))) :
    Follows self (run >>= next) (first >>= second) := by
  cases run with
  | ok host =>
      cases first with
      | ok cfg =>
          have same : host.load self = cfg := follows
          rw [← same]
          exact onward host rfl
      | error exit => exact follows.elim
  | error exit =>
      cases first with
      | ok cfg => exact follows.elim
      | error exit' => exact follows

theorem leave_follows {run : Run} {first : Op} (follows : Follows self run first) :
    (run.leave.1.load self, run.leave.2) = finish first := by
  cases run with
  | ok host =>
      cases first with
      | ok cfg => exact congrArg (fun cfg => (cfg, (0 : Int))) follows
      | error exit => exact follows.elim
  | error exit =>
      cases first with
      | ok cfg => exact follows.elim
      | error exit' => exact Prod.ext follows.1 follows.2

/-- A lock is no part of the configuration. -/
theorem unlock_follows {run : Run} {first : Op} {lock : Lock} (follows : Follows self run first) :
    Follows self (run >>= fun host => .ok (host.spinUnlock lock)) first := by
  cases run with
  | ok host =>
      cases first with
      | ok cfg => exact follows
      | error exit => exact follows.elim
  | error exit => exact follows

theorem write_listed {ret : Int} {request : Request} {cfg : Cfg} :
    (finish (write ret request cfg)).1.listed = cfg.listed :=
  leaves_write (fun _ _ => rfl) ret request cfg

theorem shutDown_listed {writes : StopWrites} {cfg : Cfg} :
    (finish (shutDown writes cfg)).1.listed = cfg.listed := by
  have kept := congrArg Kept.listed (shutDown_kept writes cfg).1
  have same : (finish (shutDown writes cfg)).1.listed =
      (if writes.setOpMode < 0 then cfg.kept else cfg.kept.close).listed := kept
  rw [same]
  split <;> rfl

theorem dropStations_follows {station : Mac → Int} {stations : List Mac} :
    Follows self (dropStations self station stations host)
      (Station.dropStations station stations (host.load self)) := by
  induction stations generalizing host with
  | nil => exact on_follows rfl
  | cons mac rest ih =>
      apply bind_follows
      · exact @on_follows self (host.spinUnlock (.staListLock self)) _ write_listed
      · intro after written
        exact ih

theorem dropPeers_follows {writes : StopWrites} :
    Follows self (dropPeers self writes host) (Station.dropPeers writes (host.load self)) := by
  unfold dropPeers
  have type : (host.load self).vif.iftype = (host.vif self).iftype := rfl
  split
  · rename_i ap
    have stations : Station.dropPeers writes (host.load self) =
        Station.dropStations writes.station (host.vif self).staList (host.load self) := by
      rw [Station.dropPeers, type, ap]
      rfl
    rw [stations]
    exact unlock_follows (@dropStations_follows self (host.spinLock (.staListLock self)) _ _)
  · apply on_follows
    rw [Station.dropPeers, type]
    cases mode : (host.vif self).iftype with
    | station =>
        apply leaves_bind write_listed
        intro cfg same
        exact (congrArg Kept.listed (reportLoss_kept cfg)).trans same
    | ap => contradiction
    | other => rfl

theorem stop_follows {writes : StopWrites} :
    ((mt7697Cfg80211Stop self writes host).1.load self, (mt7697Cfg80211Stop self writes host).2) =
      Station.mt7697Cfg80211Stop writes (host.load self) :=
  leave_follows (bind_follows dropPeers_follows fun _ _ => on_follows shutDown_listed)

theorem connectEvent_follows {bssid : Mac} {channel : Nat} {lookups : Lookups} :
    ((mt7697Cfg80211ConnectEvent self bssid channel lookups host).1.load self,
        (mt7697Cfg80211ConnectEvent self bssid channel lookups host).2) =
      finish (Station.mt7697Cfg80211ConnectEvent bssid channel lookups (host.load self)) :=
  leave_follows (on_follows (congrArg Kept.listed (connectEvent_kept bssid channel lookups _)))

theorem disconnect_follows {interrupted : Bool} {disconnect : Int} :
    ((mt7697Cfg80211Disconnect self interrupted disconnect host).1.load self,
        (mt7697Cfg80211Disconnect self interrupted disconnect host).2) =
      Station.mt7697Cfg80211Disconnect interrupted disconnect (host.load self) := by
  have listed := congrArg Kept.listed (cfg80211Disconnect_kept interrupted disconnect (host.load self))
  cases interrupted with
  | false => exact Prod.ext (load_store listed) rfl
  | true => exact Prod.ext (load_store listed) rfl

theorem newSta_follows {bssid : Mac} {memory : Bool} :
    (mt7697Cfg80211NewSta self bssid memory host).1.vif self =
        (finish (Station.mt7697Cfg80211NewSta bssid memory (host.load self))).1.vif ∧
      (mt7697Cfg80211NewSta self bssid memory host).2 =
        (finish (Station.mt7697Cfg80211NewSta bssid memory (host.load self))).2 := by
  simp only [mt7697Cfg80211NewSta, Station.mt7697Cfg80211NewSta, Host.load]
  by_cases full : (host.vif self).staMax < (host.vif self).staCount
  · simp only [full, if_true, finish, and_self]
  · cases memory with
    | false => simp only [full, if_true, if_false, finish, and_self]
    | true =>
        simp only [full, if_false, Bool.true_eq_false]
        exact ⟨Function.update_self .., rfl⟩

theorem delSta_follows {bssid : Mac} {disconnect : Int} :
    (mt7697Cfg80211DelSta self bssid disconnect host).1.vif self =
        (finish (Station.mt7697Cfg80211DelSta bssid disconnect (host.load self))).1.vif ∧
      (mt7697Cfg80211DelSta self bssid disconnect host).2 =
        (finish (Station.mt7697Cfg80211DelSta bssid disconnect (host.load self))).2 := by
  have same : (host.load self).vif = host.vif self := rfl
  by_cases listed : bssid ∈ (host.vif self).staList
  · have member : bssid ∈ ((host.spinLock (.staListLock self)).vif self).staList := listed
    simp only [mt7697Cfg80211DelSta, Station.mt7697Cfg80211DelSta, member, same, listed, if_true, on]
    by_cases failed : disconnect < 0
    · simp only [write, failed, if_true]
      exact ⟨Function.update_self .., rfl⟩
    · simp only [write, failed, if_false]
      simp only [Host.store, Host.spinLock, Host.spinUnlock, Function.update_self]
      exact ⟨rfl, rfl⟩
  · have absent : bssid ∉ ((host.spinLock (.staListLock self)).vif self).staList := listed
    simp only [mt7697Cfg80211DelSta, Station.mt7697Cfg80211DelSta, absent, same, listed, if_false]
    exact ⟨rfl, rfl⟩

end MangOH.Interfaces
