import MangOH.StationFrame

/-!
The life of a scan request: `scan_req` from the call that stores it to the
event that reports its end. A refusal by the firmware is never noticed, because
the result of a response is an unsigned wire field; and a second call to scan
replaces the first request or, when it fails, forgets it.
-/

namespace MangOH.Station

open Trace

def eio : Int := 5

/-- The result as `rsp->result < 0` compares it: `__be32` is unsigned. -/
def wireNegative (result : BitVec 32) : Prop := (result.toNat : Int) < 0

instance (result : BitVec 32) : Decidable (wireNegative result) :=
  inferInstanceAs (Decidable ((result.toNat : Int) < 0))

/-- The error of a `read` that did not return one word. -/
def readError (read : Int) : Int := if read < 0 then read else -eio

/-- `none` is a use of the local `vif` before it is set: the handler tests
`vif->scan_req` ahead of its lookup. -/
def mt7697ProcScanRsp (read : Int) (ifIdx : Nat) (result : BitVec 32) (cfg : Cfg) :
    Option (Cfg × Int) :=
  let vif : Option Vif := none
  if read ≠ 1 then some (cfg, readError read)
  else if wireNegative result then
    vif.bind fun vif =>
      if vif.scanReq = none then some (cfg, 0)
      else if mt7697GetVifByIdx cfg ifIdx = false then some (cfg, -einval)
      else
        let done := cfg.vif.scanReq.toList.map fun request => Report.scanDone request true
        some ({ cfg with
          vif := { cfg.vif with scanReq := none }, reports := cfg.reports ++ done }, 0)
  else some (cfg, 0)

def mt7697ProcScanCompleteInd (read : Int) (ifIdx : Nat) (cfg : Cfg) : Cfg × Int :=
  if read ≠ 1 then (cfg, readError read)
  else if mt7697GetVifByIdx cfg ifIdx = false then (cfg, -einval)
  else
    let done := cfg.vif.scanReq.toList.map fun request => Report.scanDone request false
    ({ cfg with vif := { cfg.vif with scanReq := none }, reports := cfg.reports ++ done }, 0)

inductive ScanEvent where
  | call (event : Event)
  | scanRsp (read : Int) (ifIdx : Nat) (result : BitVec 32)
  | scanCompleteInd (read : Int) (ifIdx : Nat)

def scanCall (cfg : Cfg) : ScanEvent → Option (Cfg × Int)
  | .call event => some (Station.call cfg event)
  | .scanRsp read ifIdx result => mt7697ProcScanRsp read ifIdx result cfg
  | .scanCompleteInd read ifIdx => some (mt7697ProcScanCompleteInd read ifIdx cfg)

/-- The state of the driver and the requests that it has accepted and that no
event has ended. -/
structure Scanning where
  cfg : Cfg
  outstanding : List Nat

/-- The interface that a message about a scan is for. -/
def Addressed (read : Int) (ifIdx : Nat) (cfg : Cfg) : Prop :=
  read = 1 ∧ mt7697GetVifByIdx cfg ifIdx = true

instance (read : Int) (ifIdx : Nat) (cfg : Cfg) : Decidable (Addressed read ifIdx cfg) :=
  inferInstanceAs (Decidable (_ ∧ _))

-- The quantifier runs over the list: the default instance tries every address.
instance (writes : StopWrites) (cfg : Cfg) : Decidable (PeersAccept writes cfg) :=
  match kind : cfg.vif.iftype with
  | .station => decidable_of_iff (0 ≤ writes.disconnect) (by simp [PeersAccept, kind])
  | .ap =>
      @decidable_of_iff _ (∀ mac ∈ cfg.vif.staList, 0 ≤ writes.station mac)
        (by simp [PeersAccept, kind]) (List.decidableBAll _ _)
  | .other => .isTrue (by simp [PeersAccept, kind])

/-- The events that end an outstanding request, and whether they abort it. -/
def ends (cfg : Cfg) : ScanEvent → Option Bool
  | .scanRsp read ifIdx result =>
      if Addressed read ifIdx cfg ∧ result.toInt < 0 then some true else none
  | .scanCompleteInd read ifIdx => if Addressed read ifIdx cfg then some false else none
  | .call (.stop writes) =>
      if PeersAccept writes cfg ∧ 0 ≤ writes.setOpMode then some true else none
  | .call _ => none

/-- The request that the event adds when its call succeeds. -/
def accepted (cfg : Cfg) : ScanEvent → List Nat
  | .call (.scan request scan) =>
      if (Station.call cfg (.scan request scan)).2 < 0 then [] else [request]
  | _ => []

def outstandingAfter (state : Scanning) (event : ScanEvent) : List Nat :=
  match ends state.cfg event with
  | some _ => []
  | none => state.outstanding ++ accepted state.cfg event

/-- The reports that the event owes. -/
def owed (state : Scanning) (event : ScanEvent) : List (Nat × Bool) :=
  match ends state.cfg event with
  | some aborted => state.outstanding.map fun request => (request, aborted)
  | none => []

def scanStep (state : Scanning) (event : ScanEvent) : Scanning where
  cfg := ((scanCall state.cfg event).getD (state.cfg, 0)).1
  outstanding := outstandingAfter state event

structure ScanKept (state : Scanning) (event : ScanEvent) : Prop where
  lookedUp : (scanCall state.cfg event).isSome = true
  reported : scanEnds (scanStep state event).cfg.reports =
    scanEnds state.cfg.reports ++ owed state event
  tracked : (scanStep state event).cfg.vif.scanReq.toList = (scanStep state event).outstanding

/-- No call to scan and no refusal meets a request that is outstanding. -/
def ScanSafe (state : Scanning) : ScanEvent → Prop
  | .call (.scan _ _) => state.cfg.vif.scanReq = none
  | .scanRsp read ifIdx result =>
      Addressed read ifIdx state.cfg → result.toInt < 0 → state.cfg.vif.scanReq = none
  | _ => True

/-- `scan_req` is the outstanding request. -/
def Tracked (state : Scanning) : Prop := state.cfg.vif.scanReq.toList = state.outstanding

theorem not_wireNegative (result : BitVec 32) : ¬ wireNegative result := by
  simp [wireNegative]

theorem scanRsp_rests (read : Int) (ifIdx : Nat) (result : BitVec 32) (cfg : Cfg) :
    ∃ ret, mt7697ProcScanRsp read ifIdx result cfg = some (cfg, ret) := by
  unfold mt7697ProcScanRsp
  dsimp only
  rw [if_neg (not_wireNegative result)]
  by_cases one : read = 1
  · exact ⟨0, if_neg (not_not_intro one)⟩
  · exact ⟨readError read, if_pos one⟩

theorem scanCompleteInd_kept (read : Int) (ifIdx : Nat) (cfg : Cfg) :
    (mt7697ProcScanCompleteInd read ifIdx cfg).1.kept =
      if Addressed read ifIdx cfg then
        { cfg.kept with
          scanReq := none
          scanEnds := scanEnds cfg.reports ++
            cfg.vif.scanReq.toList.map fun request => (request, false) }
      else cfg.kept := by
  unfold mt7697ProcScanCompleteInd Addressed
  by_cases one : read = 1
  · by_cases found : mt7697GetVifByIdx cfg ifIdx = true
    · cases scan : cfg.vif.scanReq <;>
        simp [one, found, scan, Cfg.kept, Station.scanEnds, scanEnd]
    · simp [one, found]
  · simp [one]

/-- The part of the state that a scan is about. -/
structure ScanView where
  scanReq : Option Nat
  scanEnds : List (Nat × Bool)

def Kept.scanView (kept : Kept) : ScanView := ⟨kept.scanReq, kept.scanEnds⟩

section Outcomes

variable {state : Scanning} {event : ScanEvent} {after : Cfg} {ret : Int}

theorem scanStep_cfg (result : scanCall state.cfg event = some (after, ret)) :
    (scanStep state event).cfg = after := by
  simp [scanStep, result]

/-- An event that ends nothing and accepts nothing has only to leave the
request alone. -/
theorem scanKept_quiet (tracked : Tracked state) (result : scanCall state.cfg event = some (after, ret))
    (goes : ends state.cfg event = none) (nothing : accepted state.cfg event = [])
    (same : after.kept.scanView = state.cfg.kept.scanView) : ScanKept state event where
  lookedUp := by simp [result]
  reported := by
    rw [scanStep_cfg result, owed, goes, List.append_nil]
    exact congrArg ScanView.scanEnds same
  tracked := by
    have request : after.vif.scanReq = state.cfg.vif.scanReq := congrArg ScanView.scanReq same
    simp only [scanStep, result, outstandingAfter, goes, nothing, List.append_nil,
      Option.getD_some, request]
    exact tracked

theorem scanKept_ended {aborted : Bool} (tracked : Tracked state)
    (result : scanCall state.cfg event = some (after, ret))
    (ended : ends state.cfg event = some aborted)
    (view : after.kept.scanView = ⟨none, scanEnds state.cfg.reports ++
      state.cfg.vif.scanReq.toList.map fun request => (request, aborted)⟩) :
    ScanKept state event where
  lookedUp := by simp [result]
  reported := by
    rw [scanStep_cfg result, owed, ended, ← tracked]
    exact congrArg ScanView.scanEnds view
  tracked := by
    have request : after.vif.scanReq = none := congrArg ScanView.scanReq view
    simp [scanStep, result, outstandingAfter, ended, request]

end Outcomes

theorem scanKept_scan_iff {state : Scanning} (tracked : Tracked state) (request : Nat) (scan : Int) :
    ScanKept state (.call (.scan request scan)) ↔ state.cfg.vif.scanReq = none := by
  let event : ScanEvent := .call (.scan request scan)
  have kept := scan_kept request scan state.cfg
  have result : (scanStep state event).cfg = (mt7697Cfg80211Scan request scan state.cfg).1 := rfl
  have now : (scanStep state event).cfg.vif.scanReq =
      if state.cfg.vif.connected = true ∨ scan < 0 then none else some request :=
    congrArg Kept.scanReq kept
  have told : scanEnds (scanStep state event).cfg.reports = scanEnds state.cfg.reports :=
    congrArg Kept.scanEnds kept
  have outstanding : (scanStep state event).outstanding = state.cfg.vif.scanReq.toList ++
      if state.cfg.vif.connected = true ∨ scan < 0 then [] else [request] := by
    simp only [← scan_fails request scan state.cfg]
    rw [tracked]
    rfl
  constructor
  · intro kept
    have same := kept.tracked
    rw [now, outstanding] at same
    -- Either the request is forgotten or the call's own takes its place.
    split_ifs at same
    · simpa using same.symm
    · simpa using same.symm
  · intro free
    refine ⟨rfl, ?_, ?_⟩
    · rw [told]
      simp [owed, ends]
    · rw [now, outstanding, free]
      split_ifs <;> rfl

theorem scanKept_rsp_iff {state : Scanning} (tracked : Tracked state) (read : Int) (ifIdx : Nat)
    (result : BitVec 32) :
    ScanKept state (.scanRsp read ifIdx result) ↔ ScanSafe state (.scanRsp read ifIdx result) := by
  obtain ⟨ret, rests⟩ := scanRsp_rests read ifIdx result state.cfg
  by_cases refused : Addressed read ifIdx state.cfg ∧ result.toInt < 0
  · have ended : ends state.cfg (.scanRsp read ifIdx result) = some true := if_pos refused
    constructor
    · intro kept _ _
      have same := kept.tracked
      have now : (scanStep state (.scanRsp read ifIdx result)).cfg = state.cfg := scanStep_cfg rests
      rw [now] at same
      simpa [scanStep, outstandingAfter, ended] using same
    · intro safe
      have free := safe refused.1 refused.2
      refine scanKept_ended tracked rests ended ?_
      simp [Kept.scanView, Cfg.kept, free]
  · refine iff_of_true (scanKept_quiet tracked rests (if_neg refused) rfl rfl) ?_
    exact fun addressed negative => absurd ⟨addressed, negative⟩ refused

theorem scanKept_complete {state : Scanning} (tracked : Tracked state) (read : Int) (ifIdx : Nat) :
    ScanKept state (.scanCompleteInd read ifIdx) := by
  have kept := scanCompleteInd_kept read ifIdx state.cfg
  have result : scanCall state.cfg (.scanCompleteInd read ifIdx) =
      some (mt7697ProcScanCompleteInd read ifIdx state.cfg) := rfl
  by_cases addressed : Addressed read ifIdx state.cfg
  · rw [if_pos addressed] at kept
    have view := congrArg Kept.scanView kept
    exact scanKept_ended tracked result (if_pos addressed) view
  · rw [if_neg addressed] at kept
    have view := congrArg Kept.scanView kept
    exact scanKept_quiet tracked result (if_neg addressed) rfl view

theorem scanKept_stop {state : Scanning} (tracked : Tracked state) (writes : StopWrites) :
    ScanKept state (.call (.stop writes)) := by
  have result : scanCall state.cfg (.call (.stop writes)) =
      some (mt7697Cfg80211Stop writes state.cfg) := rfl
  have reach := stop_reach writes state.cfg
  -- The stop reports the request just when all of its writes are accepted.
  generalize kept : (mt7697Cfg80211Stop writes state.cfg).1.kept = after at reach
  generalize (mt7697Cfg80211Stop writes state.cfg).2 = ret at reach
  cases reach with
  | peers refuse _ =>
      have view := congrArg Kept.scanView kept
      exact scanKept_quiet tracked result (if_neg fun both => refuse both.1) rfl view
  | reset _ failed _ =>
      have refused : ¬ (PeersAccept writes state.cfg ∧ 0 ≤ writes.setOpMode) := by
        rintro ⟨_, written⟩
        omega
      have view := congrArg Kept.scanView kept
      exact scanKept_quiet tracked result (if_neg refused) rfl view
  | closed accept written _ =>
      have view := congrArg Kept.scanView kept
      exact scanKept_ended tracked result (if_pos ⟨accept, written⟩) view

theorem scanKept_iff {state : Scanning} {event : ScanEvent} (tracked : Tracked state) :
    ScanKept state event ↔ ScanSafe state event := by
  cases event with
  | scanRsp read ifIdx result => exact scanKept_rsp_iff tracked read ifIdx result
  | scanCompleteInd read ifIdx => exact iff_of_true (scanKept_complete tracked read ifIdx) trivial
  | call event =>
      -- The other operations of the interface leave the request alone.
      have rests : ∀ {event : Event} {after : Cfg} {ret : Int}, call state.cfg event = (after, ret) →
          ends state.cfg (.call event) = none → accepted state.cfg (.call event) = [] →
          after.kept.scanView = state.cfg.kept.scanView → ScanKept state (.call event) :=
        fun result => scanKept_quiet tracked (congrArg some result)
      cases event with
      | scan request scan => exact scanKept_scan_iff tracked request scan
      | stop writes => exact iff_of_true (scanKept_stop tracked writes) trivial
      | siwessid flags essid writes =>
          have kept := siwessid_kept flags essid writes state.cfg
          have view := congrArg Kept.scanView kept
          exact iff_of_true (rests rfl rfl rfl view) trivial
      | disconnect interrupted disconnect =>
          have kept := cfg80211Disconnect_kept interrupted disconnect state.cfg
          have view := congrArg Kept.scanView kept
          exact iff_of_true (rests rfl rfl rfl view) trivial
      | disconnectWork disconnect =>
          have kept := disconnectWork_kept disconnect state.cfg
          have view := congrArg Kept.scanView kept
          exact iff_of_true (rests rfl rfl rfl view) trivial
      | connectInd ifIdx channel bssid lookups memory =>
          obtain ⟨_, _, kept⟩ := connectInd_kept ifIdx channel bssid lookups memory state.cfg
          have view := congrArg Kept.scanView kept
          exact iff_of_true (rests rfl rfl rfl view) trivial
      | disconnectInd ifIdx bssid disconnect =>
          obtain ⟨_, _, kept⟩ := disconnectInd_kept ifIdx bssid disconnect state.cfg
          have view := congrArg Kept.scanView kept
          exact iff_of_true (rests rfl rfl rfl view) trivial

def quietRadio : Scanning := ⟨idle, []⟩

def asks (request : Nat) : ScanEvent := .call (.scan request 0)

theorem quietRadio_tracked : Tracked quietRadio := rfl

end MangOH.Station
