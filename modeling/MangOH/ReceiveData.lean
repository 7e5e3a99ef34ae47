import Mathlib.Data.List.Basic
import Mathlib.Tactic.SplitIfs

/-!
`mt7697_rx_data`: one received packet on its way to the network stack. Its exits
share a clean-up that counts a failure through the interface, which is missing
when the index is not found. The stack takes a buffer whatever it returns.
-/

namespace MangOH.ReceiveData

abbrev Byte := BitVec 8

def einval : Int := 22
def enomem : Int := 12

/-- `sizeof(struct ieee80211_hdr)`. -/
def ieee80211Hdr : Nat := 30

/-- `IEEE80211_MAX_FRAME_LEN`, also the size of `cfg->rx_data`. -/
def maxFrameLen : Nat := 2352

structure Stats where
  rxPackets : Nat
  rxBytes : Nat
  rxDropped : Nat
  rxErrors : Nat
  rxLengthErrors : Nat

structure Vif where
  fwVifIdx : BitVec 8
  up : Bool
  netStats : Stats

structure Cfg where
  vifMax : BitVec 32
  vifList : List Vif
  rxData : List Byte
  rxSize : rxData.length = maxFrameLen

/-- What `netif_rx_ni` returns. -/
inductive NetRx where
  | success
  | drop
deriving DecidableEq

inductive Fault where
  | missingVif
  | pastRxData
deriving DecidableEq

/-- What a call leaves: the buffers handed to the stack, and those it has freed. -/
structure Done where
  cfg : Cfg
  ret : Int
  handed : List (List Byte)
  freed : List (List Byte)

/-- The place of the interface in the list. -/
def mt7697GetVifByIdx (cfg : Cfg) (ifIdx : BitVec 32) : Option Nat :=
  if cfg.vifMax - 1 < ifIdx then none
  else cfg.vifList.findIdx? fun vif => vif.fwVifIdx.setWidth 32 == ifIdx

def Cfg.isUp (cfg : Cfg) (place : Nat) : Bool := (cfg.vifList[place]?.map Vif.up).getD false

def Cfg.count (update : Stats → Stats) (place : Nat) (cfg : Cfg) : Cfg :=
  { cfg with
    vifList := cfg.vifList.modify place fun vif => { vif with netStats := update vif.netStats } }

def countLength (stats : Stats) : Stats := { stats with rxLengthErrors := stats.rxLengthErrors + 1 }

def countPacket (len : Nat) (stats : Stats) : Stats :=
  { stats with rxPackets := stats.rxPackets + 1, rxBytes := stats.rxBytes + len }

def countDrop (stats : Stats) : Stats := { stats with rxDropped := stats.rxDropped + 1 }

def countFailure (stats : Stats) : Stats :=
  { stats with rxDropped := stats.rxDropped + 1, rxErrors := stats.rxErrors + 1 }

def cleanup (vif : Option Nat) (skb : Option (List Byte)) (done : Done) : Except Fault Done :=
  if done.ret < 0 then
    match vif with
    | none => .error .missingVif
    | some place =>
        .ok { done with
          cfg := done.cfg.count countFailure place
          freed := done.freed ++ skb.toList }
  else .ok done

/-- The copy out of `cfg->rx_data`. -/
def frame (cfg : Cfg) (len : Nat) : Except Fault (List Byte) :=
  if len ≤ cfg.rxData.length then .ok (cfg.rxData.take len) else .error .pastRxData

/-- `memory` is the outcome of `dev_alloc_skb`. A packet that the stack drops is
counted as received, too, and reported as a success. -/
def mt7697RxData (cfg : Cfg) (len ifIdx : BitVec 32) (memory : Bool) (netRx : NetRx) :
    Except Fault Done :=
  match mt7697GetVifByIdx cfg ifIdx with
  | none => cleanup none none ⟨cfg, -einval, [], []⟩
  | some place =>
      if cfg.isUp place = false then cleanup (some place) none ⟨cfg, -einval, [], []⟩
      else if len.toNat < ieee80211Hdr ∨ maxFrameLen < len.toNat then
        cleanup (some place) none ⟨cfg.count countLength place, -einval, [], []⟩
      else if memory = false then cleanup (some place) none ⟨cfg, -enomem, [], []⟩
      else do
        let skb ← frame cfg len.toNat
        let cfg := cfg.count (countPacket len.toNat) place
        match netRx with
        | .drop => cleanup (some place) (some skb) ⟨cfg.count countDrop place, 0, [skb], []⟩
        | .success => cleanup (some place) (some skb) ⟨cfg, 0, [skb], []⟩

/-! What is owed for a packet. -/

def Found (cfg : Cfg) (ifIdx : BitVec 32) : Prop := mt7697GetVifByIdx cfg ifIdx ≠ none

/-- The packet gets as far as the stack. -/
def Accepted (cfg : Cfg) (len ifIdx : BitVec 32) (memory : Bool) : Prop :=
  ∃ place, mt7697GetVifByIdx cfg ifIdx = some place ∧ cfg.isUp place = true ∧
    ieee80211Hdr ≤ len.toNat ∧ len.toNat ≤ maxFrameLen ∧ memory = true

/-- A packet counts once, as received with its length or as dropped. -/
structure Counted (len : Nat) (delivered : Prop) (before after : Stats) : Prop where
  received : delivered → after.rxPackets = before.rxPackets + 1 ∧
    after.rxBytes = before.rxBytes + len ∧ after.rxDropped = before.rxDropped
  dropped : ¬delivered → after.rxPackets = before.rxPackets ∧
    after.rxBytes = before.rxBytes ∧ after.rxDropped = before.rxDropped + 1

structure Handled (cfg : Cfg) (len ifIdx : BitVec 32) (memory : Bool) (netRx : NetRx) (done : Done) :
    Prop where
  handed : Accepted cfg len ifIdx memory → done.handed = [cfg.rxData.take len.toNat]
  kept : ¬Accepted cfg len ifIdx memory → done.handed = []
  freed : done.freed ≠ [] → done.handed = []
  counted : ∃ place vif after, mt7697GetVifByIdx cfg ifIdx = some place ∧
    cfg.vifList[place]? = some vif ∧
    done.cfg.vifList = cfg.vifList.set place { vif with netStats := after } ∧
    Counted len.toNat (Accepted cfg len ifIdx memory ∧ netRx = .success) vif.netStats after

variable {cfg : Cfg} {len ifIdx : BitVec 32} {memory : Bool} {netRx : NetRx} {place : Nat} {vif : Vif}

theorem listed_of_found (found : mt7697GetVifByIdx cfg ifIdx = some place) :
    ∃ vif, cfg.vifList[place]? = some vif := by
  unfold mt7697GetVifByIdx at found
  split_ifs at found
  obtain ⟨inside, _⟩ := List.findIdx?_eq_some_iff_getElem.mp found
  exact ⟨_, List.getElem?_eq_getElem inside⟩

/-- Counting changes the statistics of one interface. -/
theorem count_vifList (listed : cfg.vifList[place]? = some vif) (update : Stats → Stats) :
    (cfg.count update place).vifList =
      cfg.vifList.set place { vif with netStats := update vif.netStats } := by
  rw [Cfg.count, List.modify_eq_set_getElem?, listed]
  rfl

theorem count_getElem? (listed : cfg.vifList[place]? = some vif) (update : Stats → Stats) :
    (cfg.count update place).vifList[place]? = some { vif with netStats := update vif.netStats } := by
  obtain ⟨inside, _⟩ := List.getElem?_eq_some_iff.mp listed
  rw [count_vifList listed, List.getElem?_set_self inside]

theorem count_count_vifList (listed : cfg.vifList[place]? = some vif) (first second : Stats → Stats) :
    ((cfg.count first place).count second place).vifList =
      cfg.vifList.set place { vif with netStats := second (first vif.netStats) } := by
  rw [count_vifList (count_getElem? listed first), count_vifList listed, List.set_set]

/-- What the exits with a failure leave, when nothing else was counted. -/
theorem handled_failure (found : mt7697GetVifByIdx cfg ifIdx = some place)
    (refused : ¬Accepted cfg len ifIdx memory) {ret : Int} {counted : Cfg}
    (update : Stats → Stats)
    (neutral : ∀ stats, Counted len.toNat False stats (countFailure (update stats)))
    (same : ∀ {vif}, cfg.vifList[place]? = some vif → counted.vifList =
      cfg.vifList.set place { vif with netStats := countFailure (update vif.netStats) }) :
    Handled cfg len ifIdx memory netRx ⟨counted, ret, [], []⟩ := by
  obtain ⟨vif, listed⟩ := listed_of_found found
  constructor
  · exact fun accepted => absurd accepted refused
  · exact fun _ => rfl
  · exact fun some => absurd rfl some
  · refine ⟨place, vif, _, found, listed, same listed, ?_⟩
    constructor
    · exact fun delivered => absurd delivered.1 refused
    · exact fun _ => (neutral vif.netStats).dropped id

theorem not_accepted (found : mt7697GetVifByIdx cfg ifIdx = some place)
    (why : cfg.isUp place = false ∨ len.toNat < ieee80211Hdr ∨ maxFrameLen < len.toNat ∨
      memory = false) : ¬Accepted cfg len ifIdx memory := by
  rintro ⟨other, found', up, long, short, allocated⟩
  obtain rfl := Option.some.inj (found.symm.trans found')
  rcases why with down | tiny | large | none
  · rw [up] at down
    cases down
  · omega
  · omega
  · rw [allocated] at none
    cases none

theorem handled_of_found (found : mt7697GetVifByIdx cfg ifIdx = some place)
    (kept : ¬(Accepted cfg len ifIdx memory ∧ netRx = .drop)) :
    ∃ done, mt7697RxData cfg len ifIdx memory netRx = .ok done ∧
      Handled cfg len ifIdx memory netRx done := by
  have negative : -einval < 0 ∧ -enomem < 0 := by decide
  unfold mt7697RxData
  rw [found]
  dsimp only
  split_ifs with down size memoryOut
  -- The interface is down, the length is out of its range, there is no buffer.
  · refine ⟨_, by rw [cleanup, if_pos negative.1], ?_⟩
    exact handled_failure found (not_accepted found (.inl down)) id
      (fun stats => ⟨False.elim, fun _ => ⟨rfl, rfl, rfl⟩⟩) fun listed => count_vifList listed _
  · refine ⟨_, by rw [cleanup, if_pos negative.1], ?_⟩
    exact handled_failure found (not_accepted found (by tauto)) countLength
      (fun stats => ⟨False.elim, fun _ => ⟨rfl, rfl, rfl⟩⟩) fun listed => count_count_vifList listed _ _
  · refine ⟨_, by rw [cleanup, if_pos negative.2], ?_⟩
    exact handled_failure found (not_accepted found (by tauto)) id
      (fun stats => ⟨False.elim, fun _ => ⟨rfl, rfl, rfl⟩⟩) fun listed => count_vifList listed _
  · have up : cfg.isUp place = true := by simpa using down
    have allocated : memory = true := by simpa using memoryOut
    have accepted : Accepted cfg len ifIdx memory :=
      ⟨place, found, up, by omega, by omega, allocated⟩
    have inside : len.toNat ≤ cfg.rxData.length := by
      rw [cfg.rxSize]
      omega
    have copied : frame cfg len.toNat = .ok (cfg.rxData.take len.toNat) := if_pos inside
    cases netRx with
    | drop => exact absurd ⟨accepted, rfl⟩ kept
    | success =>
        obtain ⟨vif, listed⟩ := listed_of_found found
        refine ⟨⟨cfg.count (countPacket len.toNat) place, 0, [cfg.rxData.take len.toNat], []⟩, ?_, ?_⟩
        · rw [copied]
          rfl
        · constructor
          · exact fun _ => rfl
          · exact fun refused => absurd accepted refused
          · exact fun some => absurd rfl some
          · refine ⟨place, vif, _, found, listed, count_vifList listed _, ?_⟩
            constructor
            · exact fun _ => ⟨rfl, rfl, rfl⟩
            · exact fun refused => absurd ⟨accepted, rfl⟩ refused

/-- A packet that the stack drops is counted both ways. -/
theorem not_handled_drop (accepted : Accepted cfg len ifIdx memory) {done : Done}
    (ran : mt7697RxData cfg len ifIdx memory .drop = .ok done) :
    ¬Handled cfg len ifIdx memory .drop done := by
  obtain ⟨place, found, up, long, short, allocated⟩ := accepted
  have inside : len.toNat ≤ cfg.rxData.length := by
    rw [cfg.rxSize]
    exact short
  have copied : frame cfg len.toNat = .ok (cfg.rxData.take len.toNat) := if_pos inside
  have size : ¬(len.toNat < ieee80211Hdr ∨ maxFrameLen < len.toNat) := by omega
  obtain ⟨vif, listed⟩ := listed_of_found found
  unfold mt7697RxData at ran
  simp only [found, up, allocated, size, if_false, Bool.true_eq_false, copied] at ran
  obtain rfl := Except.ok.inj ran
  rintro ⟨_, _, _, place', vif', after, found', listed', counts, counted⟩
  obtain rfl := Option.some.inj (found.symm.trans found')
  obtain rfl := Option.some.inj (listed.symm.trans listed')
  rw [count_count_vifList listed] at counts
  obtain ⟨placed, _⟩ := List.getElem?_eq_some_iff.mp listed
  have same := congrArg (fun vifs => (vifs[place]?).map fun vif : Vif => vif.netStats.rxPackets) counts
  simp only [List.getElem?_set_self placed, Option.map_some, Option.some.injEq] at same
  have once := (counted.dropped (by simp)).1
  simp only [countDrop, countPacket] at same
  omega

/-- A packet is handled well exactly when its interface exists and the stack takes
what it is given. -/
theorem handled_iff (cfg : Cfg) (len ifIdx : BitVec 32) (memory : Bool) (netRx : NetRx) :
    (∃ done, mt7697RxData cfg len ifIdx memory netRx = .ok done ∧
      Handled cfg len ifIdx memory netRx done) ↔
      Found cfg ifIdx ∧ ¬(Accepted cfg len ifIdx memory ∧ netRx = .drop) := by
  constructor
  · rintro ⟨done, ran, handled⟩
    constructor
    · intro missing
      rw [mt7697RxData, missing] at ran
      cases ran
    · rintro ⟨accepted, rfl⟩
      exact not_handled_drop accepted ran handled
  · rintro ⟨found, kept⟩
    obtain ⟨place, here⟩ := Option.ne_none_iff_exists'.mp found
    exact handled_of_found here kept

/-- One interface, with index 1, and a packet for index 0. -/
def secondOnly : Cfg :=
  ⟨2, [⟨1, true, ⟨0, 0, 0, 0, 0⟩⟩], List.replicate maxFrameLen 0, List.length_replicate⟩

theorem missing_interface_faults :
    ¬∀ (cfg : Cfg) (len ifIdx : BitVec 32) (memory : Bool) (netRx : NetRx),
      ∃ done, mt7697RxData cfg len ifIdx memory netRx = .ok done ∧
        Handled cfg len ifIdx memory netRx done := by
  intro handled
  obtain ⟨done, ran, _⟩ := handled secondOnly 100 0 true .success
  cases ran

end MangOH.ReceiveData
