import MangOH.Station
import Mathlib.Tactic.SplitIfs

/-!
What each operation does to the link of an interface in station mode: the two
flags, `sme_state` and the reports. Everything else that an operation changes
is forgotten here, and every later argument starts from these equations.
-/

namespace MangOH.Station

structure Link where
  connected : Bool
  connectPend : Bool
  smeState : SmeState
  reports : List Report
  iftype : IfType
  opmode : OpMode

def Cfg.link (cfg : Cfg) : Link :=
  ⟨cfg.vif.connected, cfg.vif.connectPend, cfg.vif.smeState, cfg.reports, cfg.vif.iftype, cfg.opmode⟩

namespace Link

def report (link : Link) (report : Report) : Link := { link with reports := link.reports ++ [report] }

def start (link : Link) : Link :=
  { link with connectPend := true, smeState := .connecting }.report .attempt

def lose (link : Link) (bssid : Mac) (locallyGenerated : Bool) : Link :=
  match link.smeState with
  | .disconnected => link
  | .connecting => link.report (.connectResult bssid false)
  | .connected => link.report (.disconnected locallyGenerated)

def disconnect (link : Link) (bssid : Mac) (disconnect : Int) : Link :=
  if disconnect < 0 then link.lose bssid true
  else { link.lose bssid true with connectPend := false }

def down (link : Link) : Link :=
  { link with smeState := .disconnected, connected := false, connectPend := false }

def flag (link : Link) : Link := { link with connected := true, connectPend := false }

def connect (link : Link) (bssid : Mac) : Link :=
  match link.smeState with
  | .connected => link.flag.report .roamed
  | _ => { link.flag with smeState := .connected }.report (.connectResult bssid true)

/-- The kind of interface that the connection operations are for. -/
structure StationMode (link : Link) : Prop where
  iftype : link.iftype = .station
  opmode : link.opmode = .staOnly

end Link

@[simp] theorem reportLoss_link (cfg : Cfg) :
    (reportLoss cfg).link = cfg.link.lose cfg.vif.bssid cfg.vif.locallyGenerated := by
  unfold reportLoss Link.lose
  cases state : cfg.vif.smeState <;> simp [Cfg.link, state, Cfg.report, Link.report]

@[simp] theorem ok_bind (cfg : Cfg) (next : Cfg → Op) : ((.ok cfg : Op) >>= next) = next cfg := rfl

@[simp] theorem error_bind (exit : Cfg × Int) (next : Cfg → Op) :
    ((.error exit : Op) >>= next) = .error exit := rfl

/-- `op` only sends requests, and succeeds under `ok`. -/
def Sends (cfg : Cfg) (ok : Prop) (op : Op) : Prop :=
  ok ∧ (∃ sent, op = .ok { cfg with sent := sent }) ∨
    ¬ ok ∧ ∃ sent ret, op = .error ({ cfg with sent := sent }, ret) ∧ ret < 0

theorem sends_ok (cfg : Cfg) : Sends cfg True (.ok cfg) := Or.inl ⟨trivial, cfg.sent, rfl⟩

theorem sends_write (ret : Int) (request : Request) (cfg : Cfg) :
    Sends cfg (0 ≤ ret) (write ret request cfg) := by
  unfold write
  split_ifs with failed
  · exact Or.inr ⟨by omega, cfg.sent, ret, rfl, failed⟩
  · exact Or.inl ⟨by omega, _, rfl⟩

theorem sends_writeIf (cond : Prop) [Decidable cond] (ret : Int) (request : Request) (cfg : Cfg) :
    Sends cfg (cond → 0 ≤ ret) (writeIf cond ret request cfg) := by
  unfold writeIf
  split_ifs with holds
  · simpa [holds] using sends_write ret request cfg
  · simpa [holds] using sends_ok cfg

theorem sends_writeKey (ret : Int) (cfg : Cfg) : Sends cfg (0 ≤ ret) (writeKey ret cfg) := by
  unfold writeKey
  split_ifs
  · exact sends_write ret _ cfg
  · exact sends_write ret _ cfg

theorem sends_bind {cfg : Cfg} {first second : Prop} {op : Op} {next : Cfg → Op}
    (left : Sends cfg first op)
    (right : ∀ sent, Sends { cfg with sent := sent } second (next { cfg with sent := sent })) :
    Sends cfg (first ∧ second) (op >>= next) := by
  rcases left with ⟨holds, sent, rfl⟩ | ⟨fails, sent, ret, rfl, negative⟩
  · rcases right sent with ⟨also, more, result⟩ | ⟨not, more, ret, result, negative⟩
    · exact Or.inl ⟨⟨holds, also⟩, more, result⟩
    · exact Or.inr ⟨fun both => not both.2, more, ret, result, negative⟩
  · exact Or.inr ⟨fun both => fails both.1, sent, ret, rfl, negative⟩

/-- The writes that `siwessid` makes before it starts an attempt succeed. -/
structure Accepted (writes : EssidWrites) (cfg : Cfg) : Prop where
  setOpMode : 0 ≤ writes.setOpMode
  setSsid : 0 ≤ writes.setSsid
  setBssid : cfg.opmode = .staOnly → 0 ≤ writes.setBssid
  setChannel : 0 < cfg.vif.chHint → 0 ≤ writes.setChannel
  setKey : 0 ≤ writes.setKey

/-- `siwessid` gets as far as setting `CONNECT_PEND`. -/
structure Starts (flags : Bool) (essid : List Octet) (writes : EssidWrites) (cfg : Cfg) : Prop where
  named : trimEssid flags essid ≠ []
  accepted : Accepted writes cfg
  idle : cfg.vif.connected = false

theorem configureEssid_sends {essid : List Octet} (writes : EssidWrites) (cfg : Cfg)
    (named : essid ≠ []) :
    Sends cfg (Accepted writes cfg) (configureEssid essid writes cfg) := by
  have sends : Sends cfg ((essid ≠ [] → 0 ≤ writes.setOpMode) ∧ 0 ≤ writes.setSsid ∧
      (cfg.opmode = .staOnly → 0 ≤ writes.setBssid) ∧
      (0 < cfg.vif.chHint → 0 ≤ writes.setChannel) ∧ 0 ≤ writes.setKey)
      (configureEssid essid writes cfg) := by
    simp only [configureEssid, if_pos named]
    refine sends_bind (sends_writeIf _ _ _ _) fun sent => ?_
    refine sends_bind (sends_write _ _ _) fun sent => ?_
    refine sends_bind (sends_writeIf _ _ _ _) fun sent => ?_
    exact sends_bind (sends_writeIf _ _ _ _) fun sent => sends_writeKey _ _
  have same : Accepted writes cfg ↔ (essid ≠ [] → 0 ≤ writes.setOpMode) ∧ 0 ≤ writes.setSsid ∧
      (cfg.opmode = .staOnly → 0 ≤ writes.setBssid) ∧
      (0 < cfg.vif.chHint → 0 ≤ writes.setChannel) ∧ 0 ≤ writes.setKey :=
    ⟨fun ok => ⟨fun _ => ok.setOpMode, ok.setSsid, ok.setBssid, ok.setChannel, ok.setKey⟩,
      fun ok => ⟨ok.1 named, ok.2.1, ok.2.2.1, ok.2.2.2.1, ok.2.2.2.2⟩⟩
  rw [same]
  exact sends

theorem configureEssid_nil (writes : EssidWrites) (cfg : Cfg) :
    Sends cfg (0 ≤ writes.setSsid) (configureEssid [] writes cfg) := by
  have sends : Sends cfg (True ∧ 0 ≤ writes.setSsid ∧ True) (configureEssid [] writes cfg) := by
    simp only [configureEssid, writeIf, ne_eq, not_true_eq_false, if_false]
    refine sends_bind (sends_ok cfg) fun sent => ?_
    exact sends_bind (sends_write _ _ _) fun sent => sends_ok _
  simpa only [true_and, and_true] using sends

theorem startConnect_link (reload : Int) (cfg : Cfg) :
    (finish (startConnect reload cfg)).1.link = cfg.link.start ∧
      ((finish (startConnect reload cfg)).2 < 0 ↔ cfg.destroyInProgress = true ∨ reload < 0) := by
  by_cases destroy : cfg.destroyInProgress = true
  · simp [startConnect, destroy, finish, Cfg.report, Cfg.link, Link.start, Link.report, ebusy]
  · by_cases failed : reload < 0 <;>
      simp [startConnect, destroy, write, failed, finish, Cfg.report, Cfg.link, Link.start,
        Link.report]

/-- A request for the link that only sends leaves the link alone. -/
theorem sends_link {cfg : Cfg} {ok : Prop} {op : Op} (sends : Sends cfg ok op) :
    (finish op).1.link = cfg.link := by
  rcases sends with ⟨_, sent, rfl⟩ | ⟨_, sent, ret, rfl, _⟩ <;> rfl

@[simp] theorem recordEssid_link (essid : List Octet) (cfg : Cfg) :
    (recordEssid essid cfg).link = cfg.link := rfl

theorem siwessid_eq {flags : Bool} {essid : List Octet} {writes : EssidWrites} {cfg : Cfg}
    (mode : cfg.link.StationMode) :
    mt7697WextSiwessid flags essid writes cfg =
      finish (applyEssid (trimEssid flags essid) writes
        (recordEssid (trimEssid flags essid) cfg)) := by
  have station : cfg.vif.iftype = .station := mode.iftype
  simp [mt7697WextSiwessid, station]

theorem accepted_record {essid : List Octet} {writes : EssidWrites} {cfg : Cfg} :
    Accepted writes (recordEssid essid cfg) ↔ Accepted writes cfg :=
  ⟨fun ok => ⟨ok.1, ok.2, ok.3, ok.4, ok.5⟩, fun ok => ⟨ok.1, ok.2, ok.3, ok.4, ok.5⟩⟩

/-- Without a name `siwessid` asks for a disconnect at most. -/
theorem applyEssid_nil (writes : EssidWrites) (cfg : Cfg) :
    Sends cfg (0 ≤ writes.setSsid ∧
        (cfg.opmode = .staOnly ∧ cfg.vif.connected = true → 0 ≤ writes.disconnect))
      (applyEssid [] writes cfg) := by
  simp only [applyEssid, ne_eq, not_true_eq_false, if_false]
  exact sends_bind (configureEssid_nil writes cfg) fun sent => sends_writeIf _ _ _ _

theorem siwessid_starts {flags : Bool} {essid : List Octet} {writes : EssidWrites} {cfg : Cfg}
    (mode : cfg.link.StationMode) (starts : Starts flags essid writes cfg) :
    (mt7697WextSiwessid flags essid writes cfg).1.link = cfg.link.start ∧
      ((mt7697WextSiwessid flags essid writes cfg).2 < 0 ↔
        cfg.destroyInProgress = true ∨ writes.reload < 0) := by
  obtain ⟨named, accepted, idle⟩ := starts
  rw [siwessid_eq mode]
  rcases configureEssid_sends writes (recordEssid (trimEssid flags essid) cfg) named with
    ⟨_, sent, configured⟩ | ⟨fails, _⟩
  · have idle : (recordEssid (trimEssid flags essid) cfg).vif.connected = false := idle
    simp only [applyEssid, configured, ok_bind, if_pos named, idle, Bool.false_eq_true, if_false]
    exact startConnect_link _ _
  · exact absurd (accepted_record.mpr accepted) fails

theorem siwessid_rests {flags : Bool} {essid : List Octet} {writes : EssidWrites} {cfg : Cfg}
    (mode : cfg.link.StationMode) (rests : ¬ Starts flags essid writes cfg) :
    (mt7697WextSiwessid flags essid writes cfg).1.link = cfg.link := by
  rw [siwessid_eq mode, ← recordEssid_link (trimEssid flags essid) cfg]
  by_cases empty : trimEssid flags essid = []
  · rw [empty]
    exact sends_link (applyEssid_nil writes _)
  · rcases configureEssid_sends writes (recordEssid (trimEssid flags essid) cfg) empty with
      ⟨accepted, sent, configured⟩ | ⟨_, sent, ret, configured, _⟩
    -- With a name and every request accepted, only a standing connection prevents the start.
    · have connected : (recordEssid (trimEssid flags essid) cfg).vif.connected = true := by
        cases idle : cfg.vif.connected with
        | true => exact idle
        | false => exact absurd ⟨empty, accepted_record.mp accepted, idle⟩ rests
      simp only [applyEssid, configured, ok_bind, ne_eq, empty, not_false_eq_true, if_true, connected]
      rfl
    · simp only [applyEssid, configured, error_bind]
      rfl

theorem scan_link (request : Nat) (scan : Int) (cfg : Cfg) :
    (mt7697Cfg80211Scan request scan cfg).1.link =
      if cfg.vif.connected = false ∧ cfg.vif.connectPend = true then
        cfg.link.report (.connectResult cfg.vif.reqBssid false)
      else cfg.link := by
  unfold mt7697Cfg80211Scan
  by_cases connected : cfg.vif.connected = true
  · simp [connected, Cfg.link]
  · by_cases pend : cfg.vif.connectPend = true <;> by_cases failed : scan < 0 <;>
      simp [connected, pend, write, failed, Cfg.link, Cfg.report, Link.report]

/-- `mt7697_disconnect` reports and writes. -/
def Flagged (cfg : Cfg) : Prop := cfg.vif.connected = true ∨ cfg.vif.connectPend = true

theorem disconnect_unflagged {cfg : Cfg} (unflagged : ¬ Flagged cfg) (disconnect : Int) :
    (finish (mt7697Disconnect disconnect cfg)).1.link = cfg.link := by
  rw [Flagged] at unflagged
  simp only [mt7697Disconnect, if_neg unflagged]
  rfl

theorem disconnect_flagged {cfg : Cfg} (flagged : Flagged cfg) (disconnect : Int) :
    (finish (mt7697Disconnect disconnect cfg)).1.link =
      cfg.link.disconnect cfg.vif.bssid disconnect := by
  have lost : (reportLoss (markLocal cfg)).link = cfg.link.lose cfg.vif.bssid true :=
    reportLoss_link (markLocal cfg)
  rw [Flagged] at flagged
  by_cases failed : disconnect < 0
  · simp only [mt7697Disconnect, if_pos flagged, write, if_pos failed, error_bind, finish,
      Link.disconnect]
    exact lost
  · simp only [mt7697Disconnect, if_pos flagged, write, if_neg failed, ok_bind, finish,
      Link.disconnect]
    rw [← lost]
    rfl

theorem disconnect_bind_clear (op : Op) :
    (finish (op >>= fun cfg => .ok (clearSsid cfg))).1.link = (finish op).1.link := by
  cases op with
  | ok cfg => rfl
  | error exit => rfl

theorem cfg80211Disconnect_rests {interrupted : Bool} {cfg : Cfg} (disconnect : Int)
    (early : interrupted = true ∨ cfg.destroyInProgress = true) :
    (mt7697Cfg80211Disconnect interrupted disconnect cfg).1.link = cfg.link := by
  unfold mt7697Cfg80211Disconnect
  split_ifs with interrupted destroy
  · rfl
  · rfl
  · exact absurd early (by simp [interrupted, destroy])

theorem cfg80211Disconnect_runs {interrupted : Bool} {cfg : Cfg} (disconnect : Int)
    (runs : ¬ (interrupted = true ∨ cfg.destroyInProgress = true)) :
    (mt7697Cfg80211Disconnect interrupted disconnect cfg).1.link =
      (finish (mt7697Disconnect disconnect cfg)).1.link := by
  obtain ⟨early, destroy⟩ := not_or.mp runs
  rw [mt7697Cfg80211Disconnect, if_neg early, if_neg destroy, disconnect_bind_clear]
  -- The reconnect flag is cleared first, and the link does not include it.
  let manual : Cfg := { cfg with vif := { cfg.vif with reconnectFlag := false } }
  by_cases flagged : Flagged cfg
  · have also : Flagged manual := flagged
    exact (disconnect_flagged also disconnect).trans (disconnect_flagged flagged disconnect).symm
  · have also : ¬ Flagged manual := flagged
    exact (disconnect_unflagged also disconnect).trans
      (disconnect_unflagged flagged disconnect).symm

theorem disconnectWork_link (disconnect : Int) (cfg : Cfg) :
    (mt7697Cfg80211DisconnectWork disconnect cfg).link =
      (finish (mt7697Disconnect disconnect cfg)).1.link := by
  unfold mt7697Cfg80211DisconnectWork
  cases mt7697Disconnect disconnect cfg with
  | ok cfg => rfl
  | error exit => rfl

theorem stop_fails {writes : StopWrites} {cfg : Cfg} (mode : cfg.link.StationMode)
    (failed : writes.disconnect < 0) : (mt7697Cfg80211Stop writes cfg).1.link = cfg.link := by
  have station : cfg.vif.iftype = .station := mode.iftype
  simp [mt7697Cfg80211Stop, dropPeers, station, write, failed, finish]

theorem resetLink_link {cfg : Cfg} (mode : cfg.link.StationMode) :
    (resetLink cfg).link = cfg.link.down := by
  have station : cfg.vif.iftype = .station := mode.iftype
  have staOnly : cfg.opmode = .staOnly := mode.opmode
  simp [resetLink, Cfg.link, Link.down, station, staOnly]

/-- The end of `mt7697_cfg80211_stop` may still report an aborted scan. -/
theorem shutDown_link (writes : StopWrites) (cfg : Cfg) :
    ∃ tail : List Report, (∀ report ∈ tail, ∃ request, report = .scanDone request true) ∧
      (finish (shutDown writes cfg)).1.link =
        { cfg.link with reports := cfg.link.reports ++ tail } ∧
      ((finish (shutDown writes cfg)).2 < 0 ↔ writes.setOpMode < 0 ∨ writes.close < 0) := by
  by_cases failed : writes.setOpMode < 0
  · exact ⟨[], by simp, by simp [shutDown, write, failed, finish, Cfg.link]⟩
  · cases scan : cfg.vif.scanReq with
    | none =>
        refine ⟨[], by simp, ?_⟩
        by_cases close : writes.close < 0 <;>
          simp [shutDown, write, failed, scan, close, finish, Cfg.link]
    | some request =>
        refine ⟨[.scanDone request true], by simp, ?_⟩
        by_cases close : writes.close < 0 <;>
          simp [shutDown, write, failed, scan, close, finish, Cfg.link, Cfg.report]

theorem lose_mode {link : Link} (mode : link.StationMode) (bssid : Mac) (locallyGenerated : Bool) :
    (link.lose bssid locallyGenerated).StationMode := by
  unfold Link.lose
  cases link.smeState <;> exact ⟨mode.iftype, mode.opmode⟩

theorem stop_runs {writes : StopWrites} {cfg : Cfg} (mode : cfg.link.StationMode)
    (accepted : 0 ≤ writes.disconnect) :
    ∃ tail : List Report, (∀ report ∈ tail, ∃ request, report = .scanDone request true) ∧
      (mt7697Cfg80211Stop writes cfg).1.link =
        { (cfg.link.lose cfg.vif.bssid cfg.vif.locallyGenerated).down with
          reports := (cfg.link.lose cfg.vif.bssid cfg.vif.locallyGenerated).reports ++ tail } ∧
      ((mt7697Cfg80211Stop writes cfg).2 < 0 ↔ writes.setOpMode < 0 ∨ writes.close < 0) := by
  have station : cfg.vif.iftype = .station := mode.iftype
  let sent : Cfg := { cfg with sent := cfg.sent ++ [.disconnect none] }
  have lost : (reportLoss sent).link =
      cfg.link.lose cfg.vif.bssid cfg.vif.locallyGenerated := reportLoss_link sent
  have runs : mt7697Cfg80211Stop writes cfg =
      finish (shutDown writes (resetLink (reportLoss sent))) := by
    have kept : ¬ writes.disconnect < 0 := by omega
    simp [mt7697Cfg80211Stop, dropPeers, station, write, kept, sent]
  -- The loss is reported from the old `sme_state`, before the reset.
  have reset : (resetLink (reportLoss sent)).link =
      (cfg.link.lose cfg.vif.bssid cfg.vif.locallyGenerated).down := by
    rw [resetLink_link (lost ▸ lose_mode mode _ _), lost]
  obtain ⟨tail, scans, same, ret⟩ := shutDown_link writes (resetLink (reportLoss sent))
  exact ⟨tail, scans, by rw [runs, same, reset]; rfl, by rw [runs, ret]⟩

/-- The indication finds the interface and a pending attempt. -/
structure Awaited (ifIdx : Nat) (cfg : Cfg) : Prop where
  listed : cfg.listed = true
  found : mt7697GetVifByIdx cfg ifIdx = true
  pending : cfg.vif.connectPend = true

structure Found (channel : Nat) (lookups : Lookups) : Prop where
  inBand : inBand channel
  band : lookups.band = true
  freq : lookups.freq = true
  bss : lookups.bss = true

theorem connectInd_rests {ifIdx : Nat} {cfg : Cfg} (channel : Nat) (bssid : Mac) (lookups : Lookups)
    (memory : Bool) (mode : cfg.link.StationMode) (rests : ¬ Awaited ifIdx cfg) :
    (mt7697ProcConnectInd ifIdx channel bssid lookups memory cfg).1.link = cfg.link := by
  have staOnly : cfg.opmode = .staOnly := mode.opmode
  unfold mt7697ProcConnectInd
  split_ifs with unlisted missing pending
  · rfl
  · rfl
  · exact absurd ⟨by simpa using unlisted, by simpa using missing, pending⟩ rests
  · rfl

theorem connectInd_awaited {ifIdx : Nat} {cfg : Cfg} (channel : Nat) (bssid : Mac)
    (lookups : Lookups) (memory : Bool) (mode : cfg.link.StationMode) (awaited : Awaited ifIdx cfg) :
    mt7697ProcConnectInd ifIdx channel bssid lookups memory cfg =
      finish (mt7697Cfg80211ConnectEvent bssid channel lookups cfg) := by
  have staOnly : cfg.opmode = .staOnly := mode.opmode
  simp [mt7697ProcConnectInd, awaited.listed, staOnly, awaited.found, awaited.pending]

theorem connectEvent_found {channel : Nat} {lookups : Lookups} (found : Found channel lookups)
    (bssid : Mac) (cfg : Cfg) :
    (finish (mt7697Cfg80211ConnectEvent bssid channel lookups cfg)).1.link =
        cfg.link.connect bssid ∧
      (finish (mt7697Cfg80211ConnectEvent bssid channel lookups cfg)).2 = 0 := by
  cases state : cfg.vif.smeState <;>
    simp [mt7697Cfg80211ConnectEvent, found.inBand, found.band, found.freq, found.bss, state,
      finish, Cfg.link, Cfg.report, Link.connect, Link.flag, Link.report]

theorem connectEvent_missing {channel : Nat} {lookups : Lookups}
    (missing : ¬ Found channel lookups) (bssid : Mac) (cfg : Cfg) :
    (finish (mt7697Cfg80211ConnectEvent bssid channel lookups cfg)).1.link = cfg.link.flag := by
  unfold mt7697Cfg80211ConnectEvent
  split_ifs with inside band freq bss
  · rfl
  · rfl
  · rfl
  · exact absurd ⟨inside, by simpa using band, by simpa using freq, by simpa using bss⟩ missing
  · rfl

theorem losePeer_station {ifIdx : Nat} {disconnect : Int} {cfg : Cfg} (bssid : Mac)
    (mode : cfg.link.StationMode) :
    (∃ ret, losePeer ifIdx bssid disconnect cfg = .error (cfg, ret)) ∨
      losePeer ifIdx bssid disconnect cfg =
        .ok (reportLoss { cfg with sent := cfg.sent ++ [.disconnect none] }) := by
  have staOnly : cfg.opmode = .staOnly := mode.opmode
  by_cases missing : mt7697GetVifByIdx cfg ifIdx = false
  · exact Or.inl ⟨-einval, by simp [losePeer, staOnly, missing]⟩
  · by_cases failed : disconnect < 0
    · exact Or.inl ⟨disconnect, by simp [losePeer, staOnly, missing, write, failed]⟩
    · exact Or.inr (by simp [losePeer, staOnly, missing, write, failed])

theorem disconnectInd_link {cfg : Cfg} (ifIdx : Nat) (bssid : Mac) (disconnect : Int)
    (mode : cfg.link.StationMode) :
    (mt7697ProcDisconnectInd ifIdx bssid disconnect cfg).1.link = cfg.link ∨
      (mt7697ProcDisconnectInd ifIdx bssid disconnect cfg).1.link =
          (cfg.link.lose cfg.vif.bssid cfg.vif.locallyGenerated).down ∧
        (mt7697ProcDisconnectInd ifIdx bssid disconnect cfg).2 = 0 := by
  unfold mt7697ProcDisconnectInd
  split_ifs with unlisted
  · exact Or.inl rfl
  -- The reset stands behind the branches that fail.
  · rcases losePeer_station bssid mode with ⟨ret, lost⟩ | lost
    · rw [lost]
      exact Or.inl rfl
    · rw [lost]
      have same := reportLoss_link { cfg with sent := cfg.sent ++ [.disconnect none] }
      exact Or.inr ⟨congrArg Link.down same, rfl⟩

/-- The events that leave the link alone; an indication of a loss may. -/
def Rests (cfg : Cfg) : Event → Prop
  | .siwessid flags essid writes => ¬ Starts flags essid writes cfg
  | .scan _ _ => ¬ (cfg.vif.connected = false ∧ cfg.vif.connectPend = true)
  | .disconnect interrupted _ => interrupted = true ∨ cfg.destroyInProgress = true ∨ ¬ Flagged cfg
  | .disconnectWork _ => ¬ Flagged cfg
  | .stop writes => writes.disconnect < 0
  | .connectInd ifIdx _ _ _ _ => ¬ Awaited ifIdx cfg
  | .disconnectInd _ _ _ => True

/-- Every way that an operation changes the link, with its return code. -/
inductive Effect (cfg : Cfg) : Event → Link → Int → Prop where
  | rest {event : Event} {ret : Int} : Rests cfg event → Effect cfg event cfg.link ret
  | start {flags : Bool} {essid : List Octet} {writes : EssidWrites} {ret : Int} :
      Starts flags essid writes cfg →
      (ret < 0 ↔ cfg.destroyInProgress = true ∨ writes.reload < 0) →
      Effect cfg (.siwessid flags essid writes) cfg.link.start ret
  | scan {request : Nat} {scan ret : Int} :
      cfg.vif.connected = false → cfg.vif.connectPend = true →
      Effect cfg (.scan request scan)
        (cfg.link.report (.connectResult cfg.vif.reqBssid false)) ret
  | disconnect {interrupted : Bool} {disconnect ret : Int} :
      interrupted = false → cfg.destroyInProgress = false → Flagged cfg →
      Effect cfg (.disconnect interrupted disconnect)
        (cfg.link.disconnect cfg.vif.bssid disconnect) ret
  | disconnectWork {disconnect ret : Int} : Flagged cfg →
      Effect cfg (.disconnectWork disconnect) (cfg.link.disconnect cfg.vif.bssid disconnect) ret
  | stop {writes : StopWrites} {tail : List Report} {ret : Int} : 0 ≤ writes.disconnect →
      (∀ report ∈ tail, ∃ request, report = .scanDone request true) →
      (ret < 0 ↔ writes.setOpMode < 0 ∨ writes.close < 0) →
      Effect cfg (.stop writes)
        { (cfg.link.lose cfg.vif.bssid cfg.vif.locallyGenerated).down with
          reports := (cfg.link.lose cfg.vif.bssid cfg.vif.locallyGenerated).reports ++ tail } ret
  | connect {ifIdx channel : Nat} {bssid : Mac} {lookups : Lookups} {memory : Bool} :
      Awaited ifIdx cfg → Found channel lookups →
      Effect cfg (.connectInd ifIdx channel bssid lookups memory) (cfg.link.connect bssid) 0
  | flag {ifIdx channel : Nat} {bssid : Mac} {lookups : Lookups} {memory : Bool} {ret : Int} :
      Awaited ifIdx cfg → ¬ Found channel lookups →
      Effect cfg (.connectInd ifIdx channel bssid lookups memory) cfg.link.flag ret
  | lose {ifIdx : Nat} {bssid : Mac} {disconnect : Int} :
      Effect cfg (.disconnectInd ifIdx bssid disconnect)
        (cfg.link.lose cfg.vif.bssid cfg.vif.locallyGenerated).down 0

theorem call_effect {cfg : Cfg} (mode : cfg.link.StationMode) (event : Event) :
    Effect cfg event (call cfg event).1.link (call cfg event).2 := by
  cases event with
  | siwessid flags essid writes =>
      simp only [call]
      by_cases starts : Starts flags essid writes cfg
      · rw [(siwessid_starts mode starts).1]
        exact .start starts (siwessid_starts mode starts).2
      · rw [siwessid_rests mode starts]
        exact .rest starts
  | scan request scan =>
      simp only [call]
      rw [scan_link]
      split_ifs with pending
      · exact .scan pending.1 pending.2
      · exact .rest pending
  | disconnect interrupted disconnect =>
      simp only [call]
      by_cases early : interrupted = true ∨ cfg.destroyInProgress = true
      · rw [cfg80211Disconnect_rests disconnect early]
        exact .rest (early.imp_right Or.inl)
      · rw [cfg80211Disconnect_runs disconnect early]
        by_cases flagged : Flagged cfg
        · rw [disconnect_flagged flagged]
          obtain ⟨now, destroy⟩ := not_or.mp early
          exact .disconnect (by simpa using now) (by simpa using destroy) flagged
        · rw [disconnect_unflagged flagged]
          exact .rest (Or.inr (Or.inr flagged))
  | disconnectWork disconnect =>
      simp only [call]
      rw [disconnectWork_link]
      by_cases flagged : Flagged cfg
      · rw [disconnect_flagged flagged]
        exact .disconnectWork flagged
      · rw [disconnect_unflagged flagged]
        exact .rest flagged
  | stop writes =>
      simp only [call]
      by_cases failed : writes.disconnect < 0
      · rw [stop_fails mode failed]
        exact .rest failed
      · have accepted : 0 ≤ writes.disconnect := by omega
        obtain ⟨tail, scans, same, ret⟩ := stop_runs mode accepted
        rw [same]
        exact .stop accepted scans ret
  | connectInd ifIdx channel bssid lookups memory =>
      simp only [call]
      by_cases awaited : Awaited ifIdx cfg
      · rw [connectInd_awaited channel bssid lookups memory mode awaited]
        by_cases found : Found channel lookups
        · obtain ⟨same, ret⟩ := connectEvent_found found bssid cfg
          rw [same, ret]
          exact .connect awaited found
        · rw [connectEvent_missing found bssid cfg]
          exact .flag awaited found
      · rw [connectInd_rests channel bssid lookups memory mode awaited]
        exact .rest awaited
  | disconnectInd ifIdx bssid disconnect =>
      simp only [call]
      rcases disconnectInd_link ifIdx bssid disconnect mode with same | ⟨same, ret⟩
      · rw [same]
        exact .rest trivial
      · rw [same, ret]
        exact .lose

theorem Link.disconnect_mode {link : Link} (mode : link.StationMode) (bssid : Mac)
    (disconnect : Int) : (link.disconnect bssid disconnect).StationMode := by
  have lost := lose_mode mode bssid true
  unfold Link.disconnect
  split_ifs
  · exact lost
  · exact ⟨lost.iftype, lost.opmode⟩

theorem Effect.mode {cfg : Cfg} {event : Event} {link : Link} {ret : Int}
    (effect : Effect cfg event link ret) (mode : cfg.link.StationMode) : link.StationMode := by
  have lost := lose_mode mode cfg.vif.bssid cfg.vif.locallyGenerated
  cases effect with
  | rest _ => exact mode
  | start _ _ => exact ⟨mode.iftype, mode.opmode⟩
  | scan _ _ => exact ⟨mode.iftype, mode.opmode⟩
  | disconnect _ _ _ => exact Link.disconnect_mode mode _ _
  | disconnectWork _ => exact Link.disconnect_mode mode _ _
  | stop _ _ _ => exact ⟨lost.iftype, lost.opmode⟩
  | connect _ _ =>
      unfold Link.connect
      cases cfg.link.smeState <;> exact ⟨mode.iftype, mode.opmode⟩
  | flag _ _ => exact ⟨mode.iftype, mode.opmode⟩
  | lose => exact ⟨lost.iftype, lost.opmode⟩

/-- The interface stays in station mode. -/
theorem step_mode {cfg : Cfg} (mode : cfg.link.StationMode) (event : Event) :
    (step cfg event).link.StationMode :=
  (call_effect mode event).mode mode

end MangOH.Station
