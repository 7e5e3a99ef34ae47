import MangOH.Interfaces
import MangOH.Trace

/-!
The list of interfaces, its count and the devices the kernel has registered.
The address of the firmware, the user's commands and the removal of the driver
change them, each in its own way.
-/

namespace MangOH.Interfaces

open Station Trace

def eio : Int := 5

/-- `sizeof(struct mt7697_mac_addr_rsp)`, and the words of its address. -/
def macAddrRspLen : Nat := 16
def macAddrWords : Int := 2

/-- `len` is that of the response, and `read` what the read of the address returns. -/
def mt7697ProcMacAddr (len : Nat) (read : Int) (new : Allocation) (host : Host) : Host × Int :=
  if len ≠ macAddrRspLen then (host, -einval)
  else if read ≠ macAddrWords then (host, if read < 0 then read else -eio)
  else
    let type := if host.cfg.opmode = .staOnly then IfType.station else .ap
    match mt7697InterfaceAdd type 0 new host with
    | (host, none) => (host, -enomem)
    | (host, some _) => (host, 0)

/-- What `mt7697_cfg80211_cleanup` and `mt7697_cfg80211_destroy` do besides has
nothing to do with interfaces. -/
def mt7697Remove (removal : Nat → Removal) (host : Host) : Host := mt7697CleanupVif removal host

inductive Change where
  | macAddr (len : Nat) (read : Int) (new : Allocation)
  | addIface (type : IfType) (ifIdx : BitVec 8) (new : Allocation)
  | delIface (self : Nat) (writes : StopWrites) (up : Option StopWrites)
  | cleanupVif (removal : Nat → Removal)
  | remove (removal : Nat → Removal)

/-- The state after a call, and whether the call fails. A device that is not
registered cannot be named in a call. -/
def change (host : Host) : Change → Host × Bool
  | .macAddr len read new =>
      let (host, ret) := mt7697ProcMacAddr len read new host
      (host, decide (ret < 0))
  | .addIface type ifIdx new =>
      let (host, wdev) := mt7697Cfg80211AddIface type ifIdx new host
      (host, wdev.isNone)
  | .delIface self writes up =>
      if self ∈ host.registered then
        let (host, ret) := mt7697Cfg80211DelIface self writes up host
        (host, decide (ret < 0))
      else (host, true)
  | .cleanupVif removal => (mt7697CleanupVif removal host, false)
  | .remove removal => (mt7697Remove removal host, false)

-- Its equations are made here, and not by whichever proof comes to them first.
attribute [local simp] change

def changed (host : Host) (event : Change) : Host := (change host event).1

structure Registry (host : Host) : Prop where
  single : host.vifList.length ≤ 1
  registered : ∀ vif, vif ∈ host.registered ↔ vif ∈ host.vifList
  counted : host.numVif.toNat = host.vifList.length
  index : ∀ vif ∈ host.vifList, (host.vif vif).fwVifIdx = 0

structure RegistryKept (host : Host) (event : Change) : Prop where
  sound : Registry (changed host event)
  failed : (change host event).2 = true → SameRegistry host (changed host event)

/-- Whether the calls of `mt7697_interface_add` succeed. -/
structure Allocation.Succeeds (new : Allocation) : Prop where
  memory : new.memory = true
  name : 0 ≤ new.name
  register : new.register = 0

/-- A step that adds no interface for the firmware's address, gives an interface
of the user the index zero, and removes none. -/
def RegistrySafe (host : Host) : Change → Prop
  | .macAddr len read new =>
      host.vifList = [] → len = macAddrRspLen → read = macAddrWords → ¬new.Succeeds
  | .addIface _ ifIdx new => host.vifList = [] → new.Succeeds → ifIdx = 0
  | .delIface self _ _ => self ∉ host.registered
  | .cleanupVif _ => host.vifList = []
  | .remove _ => host.vifList = []

variable {host after : Host}

theorem sameRegistry_sound (registry : Registry host) (same : SameRegistry host after)
    (vif : after.vif = host.vif) : Registry after := by
  constructor
  · rw [same.vifList]
    exact registry.single
  · rw [same.registered, same.vifList]
    exact registry.registered
  · rw [same.numVif, same.vifList]
    exact registry.counted
  · rw [same.vifList, vif]
    exact registry.index

theorem registered_nil (registry : Registry host) (none : host.vifList = []) : host.registered = [] := by
  apply List.eq_nil_iff_forall_not_mem.mpr
  intro vif member
  have listed := (registry.registered vif).mp member
  rw [none] at listed
  exact List.not_mem_nil listed

/-- The only interface there is. -/
theorem vifList_singleton (registry : Registry host) (some : host.vifList ≠ []) :
    ∃ vif, host.vifList = [vif] := by
  obtain ⟨vif, rest, list⟩ := List.exists_cons_of_ne_nil some
  have single := registry.single
  rw [list, List.length_cons] at single
  have none : rest = [] := List.length_eq_zero_iff.mp (by omega)
  exact ⟨vif, by rw [list, none]⟩

/-! What an interface added leaves behind. -/

/-- An interface that is registered and put on the list, which was empty. -/
structure Added (host : Host) (fwVifIdx : BitVec 8) (addr : Nat) (after : Host) : Prop where
  vifList : after.vifList = [addr]
  numVif : after.numVif = host.numVif
  registered : after.registered = addr :: host.registered
  index : (after.vif addr).fwVifIdx = fwVifIdx.toNat

theorem interfaceAdd_refused {type : IfType} {fwVifIdx : BitVec 8} {new : Allocation}
    (none : host.vifList = []) (refused : ¬new.Succeeds) :
    mt7697InterfaceAdd type fwVifIdx new host = (host, .none) := by
  unfold mt7697InterfaceAdd
  rw [if_pos none]
  split
  · rfl
  · split
    · rfl
    · split
      · rfl
      · rename_i memory name register
        exact absurd ⟨by simpa using memory, by omega, by simpa using register⟩ refused

theorem interfaceAdd_added {type : IfType} {fwVifIdx : BitVec 8} {new : Allocation}
    (none : host.vifList = []) (succeeds : new.Succeeds) :
    ∃ after, mt7697InterfaceAdd type fwVifIdx new host = (after, some (some new.addr)) ∧
      Added host fwVifIdx new.addr after := by
  have name : ¬new.name < 0 := by
    have := succeeds.name
    omega
  have steps := succeeds.register
  unfold mt7697InterfaceAdd
  rw [if_pos none, if_neg (by simp [succeeds.memory]), if_neg name, if_neg (by simp [steps])]
  apply Exists.intro
  constructor
  · rfl
  · constructor
    · exact congrArg (fun list => list ++ [new.addr]) none
    · rfl
    · rfl
    · simp only [Host.spinUnlock, Host.spinLock, Function.update_self, newVif]

theorem getVifByIdx_same {ifIdx : Nat} : SameRegistry host (mt7697GetVifByIdx ifIdx host).1 ∧
    (mt7697GetVifByIdx ifIdx host).1.vif = host.vif := by
  unfold mt7697GetVifByIdx
  split
  · exact ⟨.refl host, rfl⟩
  · exact ⟨⟨rfl, rfl, rfl, rfl⟩, rfl⟩

/-- With an interface on the list nothing is added. -/
theorem interfaceAdd_listed {type : IfType} {fwVifIdx : BitVec 8} {new : Allocation}
    (some : host.vifList ≠ []) :
    ∃ after wdev, mt7697InterfaceAdd type fwVifIdx new host = (after, .some wdev) ∧
      SameRegistry host after ∧ after.vif = host.vif := by
  have same := @getVifByIdx_same host 0
  rw [mt7697InterfaceAdd, if_neg some]
  cases lookup : mt7697GetVifByIdx 0 host with
  | mk after wdev =>
      rw [lookup] at same
      exact ⟨after, wdev, rfl, same⟩

/-! The address of the firmware. -/

theorem macAddr_refused {len : Nat} {read : Int} {new : Allocation} (none : host.vifList = [])
    (safe : RegistrySafe host (.macAddr len read new)) :
    changed host (.macAddr len read new) = host := by
  simp only [changed, change, mt7697ProcMacAddr]
  split
  · rfl
  · split
    · rfl
    · rename_i long whole
      rw [interfaceAdd_refused none (safe none (not_not.mp long) (not_not.mp whole))]

theorem macAddr_listed {len : Nat} {read : Int} {new : Allocation} (some : host.vifList ≠ []) :
    SameRegistry host (changed host (.macAddr len read new)) ∧
      (changed host (.macAddr len read new)).vif = host.vif := by
  simp only [changed, change, mt7697ProcMacAddr]
  split
  · exact ⟨.refl host, rfl⟩
  · split
    · exact ⟨.refl host, rfl⟩
    · obtain ⟨after, wdev, result, same⟩ := @interfaceAdd_listed host
        (if host.cfg.opmode = .staOnly then IfType.station else .ap) 0 new some
      rw [result]
      exact same

theorem macAddr_added {len : Nat} {read : Int} {new : Allocation} (none : host.vifList = [])
    (adds : ¬RegistrySafe host (.macAddr len read new)) :
    Added host 0 new.addr (changed host (.macAddr len read new)) := by
  have succeeds : len = macAddrRspLen ∧ read = macAddrWords ∧ new.Succeeds := by
    by_contra fails
    exact adds fun _ long whole succeeds => fails ⟨long, whole, succeeds⟩
  obtain ⟨after, result, added⟩ := @interfaceAdd_added host
    (if host.cfg.opmode = .staOnly then IfType.station else .ap) 0 new none succeeds.2.2
  simp only [changed, change, mt7697ProcMacAddr, succeeds.1, succeeds.2.1, ne_eq, not_true_eq_false,
    if_false, result]
  exact added

/-! What leaves the registry as it was keeps it. -/

theorem registryKept_same {event : Change} (registry : Registry host)
    (same : SameRegistry host (changed host event)) (vif : (changed host event).vif = host.vif) :
    RegistryKept host event where
  sound := sameRegistry_sound registry same vif
  failed _ := same

theorem macAddr_kept_iff {len : Nat} {read : Int} {new : Allocation} (registry : Registry host) :
    RegistryKept host (.macAddr len read new) ↔ RegistrySafe host (.macAddr len read new) := by
  by_cases none : host.vifList = []
  · constructor
    · intro kept
      by_contra adds
      have added := macAddr_added none adds
      have counted := kept.sound.counted
      rw [added.vifList, added.numVif, registry.counted, none] at counted
      exact Nat.zero_ne_one counted
    · intro safe
      have same := macAddr_refused none safe
      apply registryKept_same registry
      · rw [same]
        exact .refl host
      · rw [same]
  · have same := @macAddr_listed host len read new none
    exact iff_of_true (registryKept_same registry same.1 same.2) fun list => absurd list none

/-! The user's interfaces. -/

theorem addIface_listed {type : IfType} {ifIdx : BitVec 8} {new : Allocation}
    (some : host.vifList ≠ []) :
    SameRegistry host (changed host (.addIface type ifIdx new)) ∧
      (changed host (.addIface type ifIdx new)).vif = host.vif := by
  obtain ⟨vif, rest, list⟩ := List.exists_cons_of_ne_nil some
  have locked : (host.spinLock .vifListLock).vifList = vif :: rest := list
  simp only [changed, change, mt7697Cfg80211AddIface, locked]
  exact ⟨⟨rfl, rfl, rfl, rfl⟩, rfl⟩

theorem addIface_refused {type : IfType} {ifIdx : BitVec 8} {new : Allocation}
    (none : host.vifList = []) (refused : ¬new.Succeeds) :
    changed host (.addIface type ifIdx new) = host.spinLock .vifListLock := by
  have locked : (host.spinLock .vifListLock).vifList = [] := none
  simp only [changed, change, mt7697Cfg80211AddIface, locked, interfaceAdd_refused locked refused]

theorem addIface_added {type : IfType} {ifIdx : BitVec 8} {new : Allocation}
    (none : host.vifList = []) (succeeds : new.Succeeds) :
    ∃ added, Added (host.spinLock .vifListLock) ifIdx new.addr added ∧
      change host (.addIface type ifIdx new) = ({ added with numVif := added.numVif + 1 }, false) := by
  have locked : (host.spinLock .vifListLock).vifList = [] := none
  obtain ⟨added, result, made⟩ := @interfaceAdd_added _ type ifIdx new locked succeeds
  apply Exists.intro added
  constructor
  · exact made
  · simp only [change, mt7697Cfg80211AddIface, locked, result, Option.isNone_some]

/-- The interface counts as one, and is found if its index is zero. -/
theorem addIface_added_kept_iff {type : IfType} {ifIdx : BitVec 8} {new : Allocation}
    (registry : Registry host) (none : host.vifList = []) (succeeds : new.Succeeds) :
    RegistryKept host (.addIface type ifIdx new) ↔ ifIdx = 0 := by
  obtain ⟨added, made, result⟩ := @addIface_added host type ifIdx new none succeeds
  have after : changed host (.addIface type ifIdx new) = { added with numVif := added.numVif + 1 } :=
    congrArg Prod.fst result
  constructor
  · intro kept
    -- The list has one interface, whose place is zero.
    have index := kept.sound.index new.addr (by simp [after, made.vifList])
    rw [after] at index
    have zero : ifIdx.toNat = 0 := made.index.symm.trans index
    exact BitVec.eq_of_toNat_eq zero
  · rintro rfl
    constructor
    · rw [after]
      constructor
      · simp [made.vifList]
      · intro vif
        have devices : added.registered = [new.addr] := by
          rw [made.registered]
          have empty : host.registered = [] := registered_nil registry none
          exact congrArg (List.cons new.addr) empty
        rw [devices, made.vifList]
      · have zero : host.numVif = 0 := by
          have counted := registry.counted
          rw [none] at counted
          exact BitVec.eq_of_toNat_eq counted
        have count : added.numVif = 0 := made.numVif.trans zero
        rw [count, made.vifList]
        rfl
      · intro vif listed
        rw [made.vifList, List.mem_singleton] at listed
        rw [listed]
        exact made.index
    · intro failed
      rw [result] at failed
      exact absurd failed Bool.noConfusion

theorem addIface_kept_iff {type : IfType} {ifIdx : BitVec 8} {new : Allocation}
    (registry : Registry host) : RegistryKept host (.addIface type ifIdx new) ↔
      RegistrySafe host (.addIface type ifIdx new) := by
  by_cases none : host.vifList = []
  · by_cases succeeds : new.Succeeds
    · rw [addIface_added_kept_iff registry none succeeds]
      exact ⟨fun zero _ _ => zero, fun safe => safe none succeeds⟩
    · have same := @addIface_refused host type ifIdx new none succeeds
      apply iff_of_true
      · apply registryKept_same registry
        · rw [same]
          exact .spinLock
        · rw [same]
          rfl
      · exact fun _ made => absurd made succeeds
  · have same := @addIface_listed host type ifIdx new none
    exact iff_of_true (registryKept_same registry same.1 same.2) fun list => absurd list none

/-! Removals, none of which counts the interface off. -/

theorem emptied_unsound (registry : Registry host) (some : host.vifList ≠ [])
    (emptied : after.vifList = []) (count : after.numVif = host.numVif) : ¬Registry after := by
  intro sound
  have counted := sound.counted
  rw [count, registry.counted, emptied] at counted
  exact some (List.length_eq_zero_iff.mp counted)

structure Emptied (host after : Host) : Prop where
  vifList : after.vifList = []
  numVif : after.numVif = host.numVif

theorem delIface_emptied {self : Nat} {writes : StopWrites} {up : Option StopWrites}
    (list : host.vifList = [self]) :
    Emptied host (mt7697Cfg80211DelIface self writes up host).1 := by
  let unlisted := ((host.spinLock .vifListLock).listDel self).spinUnlock .vifListLock
  have none : unlisted.vifList = [] := by
    have erased : unlisted.vifList = host.vifList.erase self := rfl
    rw [erased, list, List.erase_cons_head]
  have stopped : SameRegistry unlisted (mt7697Cfg80211Stop self writes unlisted).1 := .stop
  apply delIface_meets
  · exact ⟨stopped.vifList.trans none, stopped.numVif⟩
  · have removed := @unregisterNetdev_registry self (mt7697Cfg80211Stop self writes unlisted).1 up
    exact ⟨removed.vifList.trans (stopped.vifList.trans none), removed.numVif.trans stopped.numVif⟩

theorem shutTransport_registry {shutdown : Option Int} :
    SameRegistry host (shutTransport shutdown host) := by
  unfold shutTransport
  split
  · split
    · exact .refl host
    · exact ⟨rfl, rfl, rfl, rfl⟩
  · exact .refl host

theorem cleanupLoop_emptied {removal : Nat → Removal} {vifs : List Nat} (list : host.vifList = vifs) :
    Emptied host (cleanupLoop removal vifs host) := by
  induction vifs generalizing host with
  | nil => exact ⟨list, rfl⟩
  | cons self rest ih =>
      have shut := @shutTransport_registry host (removal self).shutdown
      let unlisted := ((shutTransport (removal self).shutdown host).listDel self).spinUnlock .vifListLock
      have erased : unlisted.vifList = rest := by
        have removed : unlisted.vifList =
            (shutTransport (removal self).shutdown host).vifList.erase self := rfl
        rw [removed, shut.vifList, list, List.erase_cons_head]
      have removed := @unregisterNetdev_registry self unlisted (removal self).up
      have turn := @ih ((unregisterNetdev self (removal self).up unlisted).spinLock .vifListLock)
        (removed.vifList.trans erased)
      exact ⟨turn.vifList, turn.numVif.trans (removed.numVif.trans shut.numVif)⟩

theorem cleanupVif_emptied {removal : Nat → Removal} :
    Emptied host (mt7697CleanupVif removal host) := by
  have loop := @cleanupLoop_emptied (host.spinLock .vifListLock) removal _ rfl
  exact ⟨loop.vifList, loop.numVif⟩

theorem cleanup_kept_iff {event : Change} {removal : Nat → Removal} (registry : Registry host)
    (removes : change host event = (mt7697CleanupVif removal host, false)) :
    RegistryKept host event ↔ host.vifList = [] := by
  have after : changed host event = mt7697CleanupVif removal host := congrArg Prod.fst removes
  constructor
  · intro kept
    by_contra some
    have sound := kept.sound
    rw [after] at sound
    exact emptied_unsound registry some cleanupVif_emptied.vifList cleanupVif_emptied.numVif sound
  · intro none
    have quiet : mt7697CleanupVif removal host =
        (host.spinLock .vifListLock).spinUnlock .vifListLock := by
      have locked : (host.spinLock .vifListLock).vifList = [] := none
      simp only [mt7697CleanupVif, locked, cleanupLoop]
    apply registryKept_same registry
    · rw [after, quiet]
      exact .trans .spinLock .spinUnlock
    · rw [after, quiet]
      rfl

theorem delIface_kept_iff {self : Nat} {writes : StopWrites} {up : Option StopWrites}
    (registry : Registry host) :
    RegistryKept host (.delIface self writes up) ↔ self ∉ host.registered := by
  constructor
  · intro kept device
    have listed := (registry.registered self).mp device
    obtain ⟨vif, list⟩ := vifList_singleton registry (List.ne_nil_of_mem listed)
    rw [list, List.mem_singleton] at listed
    subst listed
    have emptied := @delIface_emptied host self writes up list
    have after : changed host (.delIface self writes up) =
        (mt7697Cfg80211DelIface self writes up host).1 := by
      simp only [changed, change, device, if_true]
    have sound := kept.sound
    rw [after] at sound
    exact emptied_unsound registry (by simp [list]) emptied.vifList emptied.numVif sound
  · intro absent
    have same : changed host (.delIface self writes up) = host := by
      simp only [changed, change, absent, if_false]
    apply registryKept_same registry
    · rw [same]
      exact .refl host
    · rw [same]

theorem registryKept_iff {event : Change} (registry : Registry host) :
    RegistryKept host event ↔ RegistrySafe host event := by
  cases event with
  | macAddr len read new => exact macAddr_kept_iff registry
  | addIface type ifIdx new => exact addIface_kept_iff registry
  | delIface self writes up => exact delIface_kept_iff registry
  | cleanupVif removal => exact cleanup_kept_iff registry rfl
  | remove removal => exact cleanup_kept_iff registry rfl

/-- A run of calls keeps the registry after each of them just when each meets
the condition. -/
theorem registry_kept_iff {start : Host} (registry : Registry start) (events : List Change) :
    Along changed RegistryKept start events ↔ Along changed RegistrySafe start events :=
  @along_iff _ _ changed RegistryKept RegistrySafe Registry registryKept_iff
    (fun _ kept => kept.sound) events start registry

/-- The driver after its probe. -/
def probed : Host where
  cfg := idle
  vif := fun _ => newVif .station 0
  vifList := []
  numVif := 0
  registered := []
  locks := .empty
  sem := 1

theorem probed_registry : Registry probed where
  single := by decide
  registered _ := Iff.rfl
  counted := rfl
  index _ listed := absurd listed List.not_mem_nil

/-- An interface of the user, and then the address of the firmware. -/
def userFirst : List Change :=
  [.addIface .station 0 ⟨1, true, 0, 0⟩, .macAddr 16 2 ⟨2, true, 0, 0⟩]

theorem registry_kept_userFirst :
    Along changed RegistryKept probed userFirst ↔ Along changed RegistrySafe probed userFirst :=
  registry_kept_iff probed_registry userFirst

/-- The interface for the address of the firmware is not counted. -/
theorem macAddr_uncounted : ¬∀ events, Along changed RegistryKept probed events := by
  intro always
  have kept := (always [.macAddr 16 2 ⟨1, true, 0, 0⟩]).1
  exact absurd kept.sound.counted (by decide)

end MangOH.Interfaces
