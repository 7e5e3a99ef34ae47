import MangOH.StationLink

/-!
What the operations on a connection leave alone: the modes, the station table,
the credentials and the requests for a scan. The operations that do change one
of these have their equations in the modules about it, or here when several of
them need it.
-/

namespace MangOH.Station

def eopnotsupp : Int := 95

section Leaves

variable {α : Type} {view : Cfg → α} {value : α}

/-- Two operations in a row leave alone what each of them does. -/
theorem leaves_bind {op : Op} {next : Cfg → Op} (left : view (finish op).1 = value)
    (right : ∀ cfg, view cfg = value → view (finish (next cfg)).1 = value) :
    view (finish (op >>= next)).1 = value := by
  cases op with
  | ok cfg => exact right cfg left
  | error exit => exact left

/-- A write only adds to what was sent. -/
theorem leaves_write (same : ∀ cfg sent, view { cfg with sent := sent } = view cfg) (ret : Int)
    (request : Request) (cfg : Cfg) : view (finish (write ret request cfg)).1 = view cfg := by
  unfold write
  split_ifs
  · rfl
  · exact same cfg _

theorem leaves_writeIf (same : ∀ cfg sent, view { cfg with sent := sent } = view cfg) (cond : Prop)
    [Decidable cond] (ret : Int) (request : Request) (cfg : Cfg) :
    view (finish (writeIf cond ret request cfg)).1 = view cfg := by
  unfold writeIf
  split_ifs
  · exact leaves_write same ret request cfg
  · rfl

theorem leaves_configureEssid (same : ∀ cfg sent, view { cfg with sent := sent } = view cfg)
    (essid : List Octet) (writes : EssidWrites) (cfg : Cfg) :
    view (finish (configureEssid essid writes cfg)).1 = view cfg := by
  unfold configureEssid
  apply leaves_bind (leaves_writeIf same _ _ _ _)
  intro first one
  apply leaves_bind ((leaves_write same _ _ _).trans one)
  intro second two
  split_ifs
  · apply leaves_bind ((leaves_writeIf same _ _ _ _).trans two)
    intro third three
    apply leaves_bind ((leaves_writeIf same _ _ _ _).trans three)
    intro fourth four
    unfold writeKey
    split_ifs
    · exact (leaves_write same _ _ _).trans four
    · exact (leaves_write same _ _ _).trans four
  · exact two

end Leaves

/-- The request of a report that ends a scan, and whether it was aborted. -/
def scanEnd : Report → Option (Nat × Bool)
  | .scanDone request aborted => some (request, aborted)
  | _ => none

def scanEnds (reports : List Report) : List (Nat × Bool) := reports.filterMap scanEnd

/-- The state without the link. -/
structure Kept where
  iftype : IfType
  fwVifIdx : Nat
  reqBssid : Mac
  pmk : Pmk
  chHint : Nat
  scanReq : Option Nat
  staList : List Mac
  staCount : Nat
  staMax : Nat
  listed : Bool
  vifMax : Nat
  opmode : OpMode
  portType : PortType
  opened : Bool
  scanEnds : List (Nat × Bool)

def Cfg.kept (cfg : Cfg) : Kept :=
  { iftype := cfg.vif.iftype, fwVifIdx := cfg.vif.fwVifIdx, reqBssid := cfg.vif.reqBssid
    pmk := cfg.vif.pmk, chHint := cfg.vif.chHint, scanReq := cfg.vif.scanReq
    staList := cfg.vif.staList, staCount := cfg.vif.staCount, staMax := cfg.vif.staMax
    listed := cfg.listed, vifMax := cfg.vifMax, opmode := cfg.opmode, portType := cfg.portType
    opened := cfg.opened, scanEnds := Station.scanEnds cfg.reports }

theorem kept_sent (cfg : Cfg) (sent : List Request) : { cfg with sent := sent }.kept = cfg.kept := rfl

@[simp] theorem report_kept {report : Report} (other : scanEnd report = none) (cfg : Cfg) :
    (cfg.report report).kept = cfg.kept := by
  simp [Cfg.kept, Cfg.report, Station.scanEnds, other]

@[simp] theorem reportLoss_kept (cfg : Cfg) : (reportLoss cfg).kept = cfg.kept := by
  unfold reportLoss
  cases cfg.vif.smeState with
  | disconnected => rfl
  | connecting => exact report_kept rfl cfg
  | connected => exact report_kept rfl cfg

theorem startConnect_kept (reload : Int) (cfg : Cfg) :
    (finish (startConnect reload cfg)).1.kept = cfg.kept := by
  have started : ∀ vif : Vif, ({ cfg with vif := vif }.report .attempt).kept =
      { cfg with vif := vif }.kept := fun vif => report_kept rfl _
  unfold startConnect
  dsimp only
  split_ifs
  · exact started _
  · exact (leaves_write kept_sent _ _ _).trans (started _)

theorem siwessid_kept (flags : Bool) (essid : List Octet) (writes : EssidWrites) (cfg : Cfg) :
    (mt7697WextSiwessid flags essid writes cfg).1.kept = cfg.kept := by
  unfold mt7697WextSiwessid applyEssid
  split_ifs
  · rfl
  · apply leaves_bind (leaves_configureEssid kept_sent _ _ _)
    intro configured same
    split_ifs
    · exact same
    · exact (startConnect_kept _ _).trans same
    · exact (leaves_writeIf kept_sent _ _ _ _).trans same

theorem disconnect_kept (disconnect : Int) (cfg : Cfg) :
    (finish (mt7697Disconnect disconnect cfg)).1.kept = cfg.kept := by
  unfold mt7697Disconnect
  split_ifs
  · have lost : (reportLoss (markLocal cfg)).kept = cfg.kept := reportLoss_kept (markLocal cfg)
    exact leaves_bind ((leaves_write kept_sent _ _ _).trans lost) fun _ same => same
  · rfl

theorem cfg80211Disconnect_kept (interrupted : Bool) (disconnect : Int) (cfg : Cfg) :
    (mt7697Cfg80211Disconnect interrupted disconnect cfg).1.kept = cfg.kept := by
  unfold mt7697Cfg80211Disconnect
  split_ifs
  · rfl
  · rfl
  · exact leaves_bind (disconnect_kept disconnect _) fun _ same => same

theorem disconnectWork_kept (disconnect : Int) (cfg : Cfg) :
    (mt7697Cfg80211DisconnectWork disconnect cfg).kept = cfg.kept := by
  have one := disconnect_kept disconnect cfg
  unfold mt7697Cfg80211DisconnectWork
  cases result : mt7697Disconnect disconnect cfg with
  | ok after =>
      rw [result] at one
      exact one
  | error exit =>
      rw [result] at one
      exact one

theorem connectEvent_kept (bssid : Mac) (channel : Nat) (lookups : Lookups) (cfg : Cfg) :
    (finish (mt7697Cfg80211ConnectEvent bssid channel lookups cfg)).1.kept = cfg.kept := by
  have told : ∀ (vif : Vif) (report : Report), scanEnd report = none →
      ({ cfg with vif := vif }.report report).kept = { cfg with vif := vif }.kept :=
    fun vif report other => report_kept other _
  unfold mt7697Cfg80211ConnectEvent
  dsimp only
  split_ifs
  · rfl
  · rfl
  · rfl
  · cases cfg.vif.smeState with
    | disconnected => exact told _ (.connectResult bssid true) rfl
    | connecting => exact told _ (.connectResult bssid true) rfl
    | connected => exact told _ .roamed rfl
  · rfl

/-- What a call to scan makes of the outstanding request. -/
theorem scan_kept (request : Nat) (scan : Int) (cfg : Cfg) :
    (mt7697Cfg80211Scan request scan cfg).1.kept =
      { cfg.kept with
        scanReq := if cfg.vif.connected = true ∨ scan < 0 then none else some request } := by
  unfold mt7697Cfg80211Scan
  by_cases connected : cfg.vif.connected = true
  · simp [connected, Cfg.kept]
  · by_cases pend : cfg.vif.connectPend = true <;> by_cases failed : scan < 0 <;>
      simp [connected, pend, write, failed, Cfg.kept, Cfg.report, Station.scanEnds, scanEnd]

theorem scan_fails (request : Nat) (scan : Int) (cfg : Cfg) :
    (mt7697Cfg80211Scan request scan cfg).2 < 0 ↔ cfg.vif.connected = true ∨ scan < 0 := by
  unfold mt7697Cfg80211Scan
  by_cases connected : cfg.vif.connected = true
  · simp [connected, einval]
  · by_cases pend : cfg.vif.connectPend = true <;> by_cases failed : scan < 0 <;>
      simp [connected, pend, write, failed]

theorem connectInd_station {ifIdx channel : Nat} {bssid : Mac} {lookups : Lookups} {memory : Bool}
    {cfg : Cfg} (mode : cfg.opmode = .staOnly) :
    (mt7697ProcConnectInd ifIdx channel bssid lookups memory cfg).1.kept = cfg.kept := by
  unfold mt7697ProcConnectInd
  split_ifs
  · rfl
  · rfl
  · exact connectEvent_kept _ _ _ _
  · rfl

theorem disconnectInd_station {ifIdx : Nat} {bssid : Mac} {disconnect : Int} {cfg : Cfg}
    (mode : cfg.opmode = .staOnly) :
    (mt7697ProcDisconnectInd ifIdx bssid disconnect cfg).1.kept = cfg.kept := by
  unfold mt7697ProcDisconnectInd losePeer
  split_ifs
  · rfl
  · rfl
  · refine leaves_bind (leaves_bind (leaves_write kept_sent _ _ _) ?_) fun _ same => same
    exact fun lost same => (reportLoss_kept lost).trans same

/-! The two indications of an access point, each in one equation. -/

/-- `new_sta` takes the station. -/
structure Admits (memory : Bool) (cfg : Cfg) : Prop where
  listed : cfg.listed = true
  found : mt7697GetVifByIdx cfg 0 = true
  room : cfg.vif.staCount ≤ cfg.vif.staMax
  memory : memory = true

def enlist (bssid : Mac) (cfg : Cfg) : Cfg :=
  { cfg with
    reports := cfg.reports ++ [.newSta bssid]
    vif := { cfg.vif with
      staList := cfg.vif.staList ++ [bssid], staCount := cfg.vif.staCount + 1
      connected := true, queueAwake := true, carrier := true } }

theorem connectInd_admits {ifIdx channel : Nat} {bssid : Mac} {lookups : Lookups} {memory : Bool}
    {cfg : Cfg} (mode : cfg.opmode ≠ .staOnly) (admits : Admits memory cfg) :
    mt7697ProcConnectInd ifIdx channel bssid lookups memory cfg = (enlist bssid cfg, 0) := by
  obtain ⟨listed, found, room, rfl⟩ := admits
  have full : ¬ cfg.vif.staMax < cfg.vif.staCount := by omega
  have taken : ¬ (true : Bool) = false := by simp
  rw [mt7697ProcConnectInd, if_neg (by simp [listed]), if_neg mode, if_neg (by simp [found]),
    mt7697Cfg80211NewSta, if_neg full, if_neg taken]
  rfl

theorem connectInd_refuses {ifIdx channel : Nat} {bssid : Mac} {lookups : Lookups} {memory : Bool}
    {cfg : Cfg} (mode : cfg.opmode ≠ .staOnly) (refuses : ¬ Admits memory cfg) :
    (mt7697ProcConnectInd ifIdx channel bssid lookups memory cfg).1 = cfg := by
  unfold mt7697ProcConnectInd mt7697Cfg80211NewSta
  split_ifs with listed found room memory
  · rfl
  · rfl
  · rfl
  · rfl
  · exact absurd ⟨by simpa using listed, by simpa using found, by omega, by simpa using memory⟩ refuses

/-- `del_sta` finds the station, and its disconnect request is written. -/
structure Removes (bssid : Mac) (disconnect : Int) (cfg : Cfg) : Prop where
  listed : cfg.listed = true
  found : mt7697GetVifByIdx cfg 0 = true
  member : bssid ∈ cfg.vif.staList
  written : 0 ≤ disconnect

/-- The handler's tail is that of a station interface that has lost its peer. -/
def remove (bssid : Mac) (cfg : Cfg) : Cfg :=
  { cfg with
    sent := cfg.sent ++ [.disconnect (some bssid)]
    vif := { cfg.vif with
      staList := cfg.vif.staList.erase bssid, staCount := cfg.vif.staCount - 1
      queueAwake := false, smeState := .disconnected, connectPend := false, connected := false } }

theorem disconnectInd_removes {ifIdx : Nat} {bssid : Mac} {disconnect : Int} {cfg : Cfg}
    (mode : cfg.opmode ≠ .staOnly) (removes : Removes bssid disconnect cfg) :
    mt7697ProcDisconnectInd ifIdx bssid disconnect cfg = (remove bssid cfg, 0) := by
  obtain ⟨listed, found, member, written⟩ := removes
  have accepted : ¬ disconnect < 0 := by omega
  rw [mt7697ProcDisconnectInd, if_neg (by simp [listed]), losePeer, if_neg mode,
    if_neg (by simp [found]), mt7697Cfg80211DelSta, if_pos member, write, if_neg accepted]
  rfl

theorem disconnectInd_refuses {ifIdx : Nat} {bssid : Mac} {disconnect : Int} {cfg : Cfg}
    (mode : cfg.opmode ≠ .staOnly) (refuses : ¬ Removes bssid disconnect cfg) :
    (mt7697ProcDisconnectInd ifIdx bssid disconnect cfg).1 = cfg := by
  unfold mt7697ProcDisconnectInd losePeer mt7697Cfg80211DelSta write
  split_ifs with listed found member failed
  · rfl
  · rfl
  · rfl
  · exact absurd ⟨by simpa using listed, by simpa using found, member, by omega⟩ refuses
  · rfl

/-- An indication changes no more than the station table. -/
theorem connectInd_kept (ifIdx channel : Nat) (bssid : Mac) (lookups : Lookups) (memory : Bool)
    (cfg : Cfg) :
    ∃ staList staCount, (mt7697ProcConnectInd ifIdx channel bssid lookups memory cfg).1.kept =
      { cfg.kept with staList := staList, staCount := staCount } := by
  by_cases mode : cfg.opmode = .staOnly
  · exact ⟨_, _, connectInd_station mode⟩
  · by_cases admits : Admits memory cfg
    · rw [connectInd_admits mode admits]
      refine ⟨cfg.vif.staList ++ [bssid], cfg.vif.staCount + 1, ?_⟩
      simp [Cfg.kept, enlist, Station.scanEnds, scanEnd]
    · rw [connectInd_refuses mode admits]
      exact ⟨_, _, rfl⟩

theorem disconnectInd_kept (ifIdx : Nat) (bssid : Mac) (disconnect : Int) (cfg : Cfg) :
    ∃ staList staCount, (mt7697ProcDisconnectInd ifIdx bssid disconnect cfg).1.kept =
      { cfg.kept with staList := staList, staCount := staCount } := by
  by_cases mode : cfg.opmode = .staOnly
  · exact ⟨_, _, disconnectInd_station mode⟩
  · by_cases removes : Removes bssid disconnect cfg
    · rw [disconnectInd_removes mode removes]
      exact ⟨cfg.vif.staList.erase bssid, cfg.vif.staCount - 1, rfl⟩
    · rw [disconnectInd_refuses mode removes]
      exact ⟨_, _, rfl⟩

/-! A stop, which disconnects the listed stations first. -/

/-- Every listed station accepts its disconnect, or the one at the head of
`rest` is the first that does not. -/
theorem dropStations_cases (station : Mac → Int) (stations : List Mac) :
    ∀ cfg : Cfg,
      ((∀ mac ∈ stations, 0 ≤ station mac) ∧ ∃ sent, dropStations station stations cfg =
        .ok { cfg with sent := sent, vif := { cfg.vif with staList := [], staCount := 0 } }) ∨
      ∃ dropped mac rest sent, stations = dropped ++ mac :: rest ∧
        (∀ gone ∈ dropped, 0 ≤ station gone) ∧ station mac < 0 ∧
        dropStations station stations cfg =
          .error ({ cfg with sent := sent, vif := { cfg.vif with staList := mac :: rest } },
            station mac) := by
  induction stations with
  | nil => exact fun cfg => Or.inl ⟨by simp, cfg.sent, rfl⟩
  | cons first others ih =>
      intro cfg
      by_cases failed : station first < 0
      · refine Or.inr ⟨[], first, others, cfg.sent, rfl, by simp, failed, ?_⟩
        simp [dropStations, write, failed]
      · have accepted : 0 ≤ station first := by omega
        simp only [dropStations, write, if_neg failed, ok_bind]
        rcases ih _ with ⟨all, sent, result⟩ | ⟨dropped, mac, rest, sent, rfl, before, negative, result⟩
        · exact Or.inl ⟨by simpa [accepted] using all, sent, result⟩
        · refine Or.inr ⟨first :: dropped, mac, rest, sent, rfl, ?_, negative, result⟩
          simpa [accepted] using before

/-- Every peer that a stop asks to leave does. -/
def PeersAccept (writes : StopWrites) (cfg : Cfg) : Prop :=
  match cfg.vif.iftype with
  | .station => 0 ≤ writes.disconnect
  | .ap => ∀ mac ∈ cfg.vif.staList, 0 ≤ writes.station mac
  | .other => True

theorem dropPeers_cases (writes : StopWrites) (cfg : Cfg) :
    (PeersAccept writes cfg ∧ ∃ after staList staCount, dropPeers writes cfg = .ok after ∧
        after.kept = { cfg.kept with staList := staList, staCount := staCount }) ∨
      (¬ PeersAccept writes cfg ∧ ∃ after ret staList, dropPeers writes cfg = .error (after, ret) ∧
        after.kept = { cfg.kept with staList := staList } ∧ ret < 0) := by
  unfold dropPeers PeersAccept
  cases cfg.vif.iftype with
  | station =>
      by_cases failed : writes.disconnect < 0
      · refine Or.inr ⟨by omega, cfg, writes.disconnect, cfg.vif.staList, ?_, rfl, failed⟩
        simp [write, failed]
      · refine Or.inl ⟨by omega, reportLoss { cfg with sent := cfg.sent ++ [.disconnect none] },
          cfg.vif.staList, cfg.vif.staCount, ?_, ?_⟩
        · simp [write, failed]
        · exact reportLoss_kept _
  | ap =>
      rcases dropStations_cases writes.station cfg.vif.staList cfg with
        ⟨all, sent, dropped⟩ | ⟨before, mac, rest, sent, split, _, failed, dropped⟩
      · exact Or.inl ⟨all, _, [], 0, dropped, rfl⟩
      · refine Or.inr ⟨fun all => ?_, _, _, mac :: rest, dropped, rfl, failed⟩
        have accepted := all mac (by simp [split])
        omega
  | other => exact Or.inl ⟨trivial, cfg, _, _, rfl, rfl⟩

def Kept.reset (kept : Kept) : Kept :=
  { kept with iftype := .station, opmode := .staOnly, portType := .sta }

/-- The end of a stop that gets past its last write. -/
def Kept.close (kept : Kept) : Kept :=
  { kept with
    reqBssid := 0, pmk := 0, scanReq := none, opened := false
    scanEnds := kept.scanEnds ++ kept.scanReq.toList.map fun request => (request, true) }

theorem shutDown_kept (writes : StopWrites) (cfg : Cfg) :
    (finish (shutDown writes cfg)).1.kept =
        (if writes.setOpMode < 0 then cfg.kept else cfg.kept.close) ∧
      ((finish (shutDown writes cfg)).2 < 0 ↔ writes.setOpMode < 0 ∨ writes.close < 0) := by
  by_cases failed : writes.setOpMode < 0
  · simp [shutDown, write, failed, finish]
  · by_cases refused : writes.close < 0 <;> cases scan : cfg.vif.scanReq <;>
      simp [shutDown, write, failed, refused, scan, finish, Kept.close, Cfg.kept, Cfg.report,
        Station.scanEnds, scanEnd]

/-- How far a stop gets, and what it has done by then. -/
inductive StopReach (writes : StopWrites) (cfg : Cfg) : Kept → Int → Prop where
  | peers {staList : List Mac} {ret : Int} : ¬ PeersAccept writes cfg → ret < 0 →
      StopReach writes cfg { cfg.kept with staList := staList } ret
  | reset {staList : List Mac} {staCount : Nat} {ret : Int} : PeersAccept writes cfg →
      writes.setOpMode < 0 → ret < 0 →
      StopReach writes cfg { cfg.kept with staList := staList, staCount := staCount }.reset ret
  | closed {staList : List Mac} {staCount : Nat} {ret : Int} : PeersAccept writes cfg →
      0 ≤ writes.setOpMode → (ret < 0 ↔ writes.close < 0) →
      StopReach writes cfg { cfg.kept with staList := staList, staCount := staCount }.reset.close ret

theorem stop_reach (writes : StopWrites) (cfg : Cfg) :
    StopReach writes cfg (mt7697Cfg80211Stop writes cfg).1.kept
      (mt7697Cfg80211Stop writes cfg).2 := by
  unfold mt7697Cfg80211Stop
  rcases dropPeers_cases writes cfg with
    ⟨accept, after, staList, staCount, dropped, kept⟩ | ⟨refuse, after, ret, staList, dropped, kept, negative⟩
  · obtain ⟨shut, sign⟩ := shutDown_kept writes (resetLink after)
    have reset : (resetLink after).kept =
        { cfg.kept with staList := staList, staCount := staCount }.reset := by
      rw [← kept]
      rfl
    rw [dropped, ok_bind, shut, reset]
    by_cases failed : writes.setOpMode < 0
    · rw [if_pos failed]
      exact .reset accept failed (sign.mpr (Or.inl failed))
    · rw [if_neg failed]
      exact .closed accept (by omega) (by simpa [failed] using sign)
  · rw [dropped, error_bind, finish, kept]
    exact .peers refuse negative

end MangOH.Station
