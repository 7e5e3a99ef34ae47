import MangOH.Interfaces

/-!
Whether a call on the control path gives back the locks it takes. It starts
with any interfaces and stations, and any fallible call in it can fail.
-/

namespace MangOH.Interfaces

open Station

inductive Call where
  | addIface (type : IfType) (ifIdx : BitVec 8) (new : Allocation)
  | delIface (self : Nat) (writes : StopWrites) (up : Option StopWrites)
  | disconnect (self : Nat) (interrupted : Bool) (disconnect : Int)
  | stop (self : Nat) (writes : StopWrites)
  | delSta (self : Nat) (bssid : Mac) (disconnect : Int)
  | newSta (self : Nat) (bssid : Mac) (memory : Bool)
  | cleanupVif (removal : Nat → Removal)
  | connectEvent (self : Nat) (bssid : Mac) (channel : Nat) (lookups : Lookups)

def Call.run (host : Host) : Call → Host
  | .addIface type ifIdx new => (mt7697Cfg80211AddIface type ifIdx new host).1
  | .delIface self writes up => (mt7697Cfg80211DelIface self writes up host).1
  | .disconnect self interrupted written =>
      (mt7697Cfg80211Disconnect self interrupted written host).1
  | .stop self writes => (mt7697Cfg80211Stop self writes host).1
  | .delSta self bssid written => (mt7697Cfg80211DelSta self bssid written host).1
  | .newSta self bssid memory => (mt7697Cfg80211NewSta self bssid memory host).1
  | .cleanupVif removal => mt7697CleanupVif removal host
  | .connectEvent self bssid channel lookups =>
      (mt7697Cfg80211ConnectEvent self bssid channel lookups host).1

/-- The locks a call may take. Its callers hold none of them. -/
def Call.Takes (host : Host) : Call → Lock → Prop
  | .addIface .., lock => lock = .vifListLock
  | .delIface self .., lock => lock = .vifListLock ∨ lock = .staListLock self
  | .disconnect .., _ => False
  | .stop self _, lock => lock = .staListLock self
  | .delSta self .., lock => lock = .staListLock self
  | .newSta self .., lock => lock = .staListLock self
  | .cleanupVif _, lock => lock = .vifListLock ∨ ∃ vif ∈ host.vifList, lock = .staListLock vif
  | .connectEvent self .., lock => lock = .ifLock self

/-- The locks held and the semaphore are those of the entry, and no lock was
taken twice or given back without being held. -/
structure Balanced (before after : Host) : Prop where
  held : after.locks.held = before.locks.held
  misuses : after.locks.misuses = before.locks.misuses
  sem : after.sem = before.sem

/-- Whether a call stays off the three paths that lose count. -/
def Call.Regular (host : Host) : Call → Prop
  | .addIface .. => host.vifList ≠ []
  | .disconnect _ interrupted _ => interrupted = false
  | .delSta self bssid written => bssid ∈ (host.vif self).staList → 0 ≤ written
  | _ => True

variable {self : Nat} {host base before after : Host}

theorem balanced_of_locks (locks : after.locks = before.locks) (sem : after.sem = before.sem) :
    Balanced before after := by
  constructor
  · rw [locks]
  · rw [locks]
  · exact sem

theorem balanced_of_quiet (quiet : Quiet before after) : Balanced before after :=
  balanced_of_locks quiet.locks quiet.sem

/-! Interfaces added. -/

theorem balanced_addIface {type : IfType} {ifIdx : BitVec 8} {new : Allocation}
    (free : .vifListLock ∉ host.locks.held) (listed : host.vifList ≠ []) :
    Balanced host (mt7697Cfg80211AddIface type ifIdx new host).1 := by
  obtain ⟨vif, rest, found⟩ := List.exists_cons_of_ne_nil listed
  have locked : (host.spinLock .vifListLock).vifList = vif :: rest := found
  simp only [mt7697Cfg80211AddIface, locked]
  exact balanced_of_quiet ((Quiet.refl _).locked free)

theorem interfaceAdd_locks {type : IfType} {ifIdx : BitVec 8} {new : Allocation}
    (none : host.vifList = []) :
    mt7697InterfaceAdd type ifIdx new host = (host, .none) ∨
      ∃ wdev, (mt7697InterfaceAdd type ifIdx new host).2 = some wdev ∧
        (mt7697InterfaceAdd type ifIdx new host).1.locks =
          (host.locks.lock .vifListLock).release .vifListLock := by
  unfold mt7697InterfaceAdd
  rw [if_pos none]
  split
  · exact .inl rfl
  · split
    · exact .inl rfl
    · split
      · exact .inl rfl
      · exact .inr ⟨_, rfl, rfl⟩

theorem held_ne_cons {lock : Lock} {held : Multiset Lock} : lock ::ₘ held ≠ held := by
  intro same
  have size := congrArg Multiset.card same
  rw [Multiset.card_cons] at size
  omega

theorem misuses_ne {misuse : Misuse Lock} {before after : List (Misuse Lock)}
    (grown : misuse :: before <:+ after) : after ≠ before := by
  rintro rfl
  have size := grown.length_le
  rw [List.length_cons] at size
  omega

/-- With an empty list the lock stays held when the interface cannot be added,
and is taken again when it can. -/
theorem addIface_unbalanced {type : IfType} {ifIdx : BitVec 8} {new : Allocation}
    (free : .vifListLock ∉ host.locks.held) (none : host.vifList = []) :
    ¬Balanced host (mt7697Cfg80211AddIface type ifIdx new host).1 := by
  intro balanced
  have locked : (host.spinLock .vifListLock).vifList = [] := none
  have once : (host.spinLock .vifListLock).locks = host.locks.acquire .vifListLock :=
    Ledger.lock_absent free
  -- The call ends with the lock, or has taken the lock that it holds.
  rcases @interfaceAdd_locks (host.spinLock .vifListLock) type ifIdx new locked with
    failed | ⟨wdev, added, locks⟩
  · have held := balanced.held
    simp only [mt7697Cfg80211AddIface, locked, failed, once, Ledger.acquire_held] at held
    exact held_ne_cons held
  · have misuses := balanced.misuses
    have again : .vifListLock ∈ (host.spinLock .vifListLock).locks.held := by
      rw [once]
      exact Multiset.mem_cons_self _ _
    cases result : mt7697InterfaceAdd type ifIdx new (host.spinLock .vifListLock) with
    | mk next vif =>
        rw [result] at added locks
        subst added
        simp only [mt7697Cfg80211AddIface, locked, result] at misuses
        rw [locks, once] at misuses
        have grown := @Ledger.misuses_release _ _ .vifListLock
          ((host.spinLock .vifListLock).locks.lock .vifListLock)
        rw [Ledger.lock_held again, once, Ledger.acquire_misuses] at grown
        exact misuses_ne grown misuses

/-! Interfaces removed. -/

theorem balanced_delIface {writes : StopWrites} {up : Option StopWrites}
    (list : .vifListLock ∉ host.locks.held) (stations : .staListLock self ∉ host.locks.held) :
    Balanced host (mt7697Cfg80211DelIface self writes up host).1 := by
  let unlisted := ((host.spinLock .vifListLock).listDel self).spinUnlock .vifListLock
  have locks : unlisted.locks = host.locks := Ledger.lock_release list
  have stopped : Quiet unlisted (mt7697Cfg80211Stop self writes unlisted).1 := by
    apply quiet_stop
    rw [locks]
    exact stations
  apply delIface_meets
  · exact balanced_of_locks (stopped.locks.trans locks) stopped.sem
  · have free : .staListLock self ∉ (mt7697Cfg80211Stop self writes unlisted).1.locks.held := by
      rw [stopped.locks, locks]
      exact stations
    exact balanced_of_locks ((unregisterNetdev_locks free).trans (stopped.locks.trans locks))
      (unregisterNetdev_registry.sem.trans stopped.sem)

theorem shutTransport_balanced {shutdown : Option Int} :
    (shutTransport shutdown host).locks = host.locks ∧ (shutTransport shutdown host).sem = host.sem := by
  unfold shutTransport
  split
  · split <;> exact ⟨rfl, rfl⟩
  · exact ⟨rfl, rfl⟩

/-- Each turn starts and ends with the lock of the list. -/
theorem cleanupLoop_balanced {removal : Nat → Removal} {vifs : List Nat}
    (list : .vifListLock ∉ base.locks.held)
    (stations : ∀ vif ∈ vifs, .staListLock vif ∉ base.locks.held)
    (locked : host.locks = base.locks.lock .vifListLock) :
    (cleanupLoop removal vifs host).locks = base.locks.lock .vifListLock ∧
      (cleanupLoop removal vifs host).sem = host.sem := by
  induction vifs generalizing host with
  | nil => exact ⟨locked, rfl⟩
  | cons self rest ih =>
      -- Shut down with the lock, unregistered without, and the lock again for the next one.
      have shut := @shutTransport_balanced host (removal self).shutdown
      let unlisted := ((shutTransport (removal self).shutdown host).listDel self).spinUnlock .vifListLock
      have free : unlisted.locks = base.locks := by
        have given : unlisted.locks = (shutTransport (removal self).shutdown host).locks.release
          .vifListLock := rfl
        rw [given, shut.1, locked, Ledger.lock_release list]
      have removed : (unregisterNetdev self (removal self).up unlisted).locks = unlisted.locks := by
        apply unregisterNetdev_locks
        rw [free]
        exact stations self (List.mem_cons_self ..)
      have again : ((unregisterNetdev self (removal self).up unlisted).spinLock .vifListLock).locks =
          base.locks.lock .vifListLock := by
        rw [← free, ← removed]
        rfl
      have turn := ih (fun vif member => stations vif (List.mem_cons_of_mem _ member)) again
      exact ⟨turn.1, turn.2.trans (unregisterNetdev_registry.sem.trans shut.2)⟩

theorem balanced_cleanupVif {removal : Nat → Removal} (list : .vifListLock ∉ host.locks.held)
    (stations : ∀ vif ∈ host.vifList, .staListLock vif ∉ host.locks.held) :
    Balanced host (mt7697CleanupVif removal host) := by
  have loop := @cleanupLoop_balanced (host.spinLock .vifListLock) host removal host.vifList list
    stations rfl
  apply balanced_of_locks
  · exact (congrArg (Ledger.release .vifListLock) loop.1).trans (Ledger.lock_release list)
  · exact loop.2

/-! The calls on one interface that lose count. -/

theorem balanced_disconnect_iff {interrupted : Bool} {disconnect : Int} :
    Balanced host (mt7697Cfg80211Disconnect self interrupted disconnect host).1 ↔
      interrupted = false := by
  cases interrupted with
  | false =>
      apply iff_of_true _ rfl
      exact @balanced_of_locks host _ rfl (Int.sub_add_cancel host.sem 1)
  | true =>
      apply iff_of_false _ Bool.noConfusion
      intro balanced
      have sem : host.sem + 1 = host.sem := balanced.sem
      omega

theorem delSta_section (free : .staListLock self ∉ host.locks.held) :
    ((host.spinLock (.staListLock self)).spinUnlock (.staListLock self)).locks = host.locks :=
  Ledger.lock_release free

theorem delSta_unbalanced {bssid : Mac} {disconnect : Int}
    (free : .staListLock self ∉ host.locks.held) (listed : bssid ∈ (host.vif self).staList)
    (failed : disconnect < 0) :
    ¬Balanced host (mt7697Cfg80211DelSta self bssid disconnect host).1 := by
  intro balanced
  have misuses := balanced.misuses
  have member : bssid ∈ ((host.spinLock (.staListLock self)).vif self).staList := listed
  simp only [mt7697Cfg80211DelSta, member, if_true, on, write, failed] at misuses
  have twice : (((host.spinLock (.staListLock self)).spinUnlock (.staListLock self)).locks.release
      (.staListLock self)).misuses = host.locks.misuses := misuses
  rw [delSta_section free, Ledger.release_absent free] at twice
  exact misuses_ne (List.suffix_refl _) twice

theorem balanced_delSta {bssid : Mac} {disconnect : Int}
    (free : .staListLock self ∉ host.locks.held)
    (written : bssid ∈ (host.vif self).staList → 0 ≤ disconnect) :
    Balanced host (mt7697Cfg80211DelSta self bssid disconnect host).1 := by
  by_cases listed : bssid ∈ (host.vif self).staList
  · have member : bssid ∈ ((host.spinLock (.staListLock self)).vif self).staList := listed
    have success : ¬disconnect < 0 := by
      have := written listed
      omega
    simp only [mt7697Cfg80211DelSta, member, if_true, on, write, success, if_false]
    apply balanced_of_locks
    · have inner : (((host.spinLock (.staListLock self)).spinUnlock (.staListLock self)).locks.lock
          (.staListLock self)).release (.staListLock self) = host.locks := by
        rw [delSta_section free]
        exact Ledger.lock_release free
      exact inner
    · rfl
  · have absent : bssid ∉ ((host.spinLock (.staListLock self)).vif self).staList := listed
    simp only [mt7697Cfg80211DelSta, absent, if_false]
    exact balanced_of_quiet ((Quiet.refl _).locked free)

/-- A call gives back what it takes if and only if it stays off the three paths. -/
theorem locks_balanced (call : Call) (host : Host)
    (free : ∀ lock, call.Takes host lock → lock ∉ host.locks.held) :
    Balanced host (call.run host) ↔ call.Regular host := by
  cases call with
  | addIface type ifIdx new =>
      constructor
      · intro balanced none
        exact addIface_unbalanced (free _ rfl) none balanced
      · exact balanced_addIface (free _ rfl)
  | delIface self writes up =>
      exact iff_of_true (balanced_delIface (free _ (.inl rfl)) (free _ (.inr rfl))) trivial
  | disconnect self interrupted written => exact balanced_disconnect_iff
  | stop self writes => exact iff_of_true (balanced_of_quiet (quiet_stop (free _ rfl))) trivial
  | delSta self bssid written =>
      constructor
      · intro balanced listed
        by_contra failed
        exact delSta_unbalanced (free _ rfl) listed (Int.not_le.mp failed) balanced
      · exact balanced_delSta (free _ rfl)
  | newSta self bssid memory =>
      exact iff_of_true (balanced_of_quiet (quiet_newSta (free _ rfl))) trivial
  | cleanupVif removal =>
      apply iff_of_true _ trivial
      apply balanced_cleanupVif (free _ (.inl rfl))
      intro vif member
      exact free _ (.inr ⟨vif, member, rfl⟩)
  | connectEvent self bssid channel lookups =>
      exact iff_of_true (balanced_of_quiet (quiet_connectEvent (free _ rfl))) trivial

/-- An access point with one station on a fresh driver. -/
def oneStation : Host where
  cfg := idle
  vif := fun _ => { newVif .ap 0 with staList := [5], staCount := 1 }
  vifList := [1]
  numVif := 1
  registered := [1]
  locks := .empty
  sem := 1

theorem locks_balanced_station : Balanced oneStation ((Call.delSta 1 5 0).run oneStation) ↔
    (Call.delSta 1 5 0).Regular oneStation :=
  locks_balanced (.delSta 1 5 0) oneStation (fun _ _ => Multiset.notMem_zero _)

/-- A write that fails for a listed station. -/
theorem failed_write_unlocks_twice : ¬∀ (call : Call) (host : Host),
    (∀ lock, call.Takes host lock → lock ∉ host.locks.held) → Balanced host (call.run host) := by
  intro always
  have balanced := always (.delSta 1 5 (-5)) oneStation (fun _ _ => Multiset.notMem_zero _)
  exact absurd balanced.misuses (by decide)

end MangOH.Interfaces
