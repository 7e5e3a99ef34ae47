import MangOH.Trace

/-!
The connection paths of the WiFi driver: the wireless-extension and cfg80211
operations and the firmware indications that move `flags` and `sme_state` of
one interface. Each operation runs to its end; the outcome of every firmware
write and kernel lookup that it makes is part of its event. `reports` lists
what the driver tells cfg80211, with a mark where `siwessid` starts an attempt.
The transmit list that `mt7697_cfg80211_stop` empties first is not part of
this state.
-/

namespace MangOH.Station

def einval : Int := 22
def ebusy : Int := 16
def enomem : Int := 12
def erestartsys : Int := 512

abbrev Mac := BitVec 48
abbrev Pmk := BitVec 256
abbrev Octet := BitVec 8

inductive SmeState where
  | disconnected
  | connecting
  | connected
  deriving DecidableEq

inductive IfType where
  | station
  | ap
  | other
  deriving DecidableEq

/-- The modes of `wifi_api.h`, and the zero of a configuration that has not
come yet. -/
inductive OpMode where
  | unset
  | staOnly
  | apOnly
  | repeater
  | monitor
  deriving DecidableEq

inductive PortType where
  | sta
  | ap
  deriving DecidableEq

/-- What the driver writes to the firmware. -/
inductive Request where
  | setOpMode (opmode : OpMode)
  | setSsid (ssid : List Octet)
  | setBssid (bssid : Mac)
  | setChannel (channel : Nat)
  | setPmk (pmk : Pmk)
  | setSecurityMode
  | reloadSettings (ifIdx : Nat)
  | disconnect (station : Option Mac)
  | scan (ifIdx request : Nat)

inductive Report where
  | attempt
  | connectResult (bssid : Mac) (success : Bool)
  | disconnected (locallyGenerated : Bool)
  | roamed
  | scanDone (request : Nat) (aborted : Bool)
  | newSta (bssid : Mac)
  deriving DecidableEq

/-- `struct mt7697_vif`. -/
structure Vif where
  connected : Bool
  connectPend : Bool
  smeState : SmeState
  iftype : IfType
  fwVifIdx : Nat
  ssid : List Octet
  ssidLen : Nat
  bssid : Mac
  reqBssid : Mac
  pmk : Pmk
  chHint : Nat
  scanReq : Option Nat
  locallyGenerated : Bool
  reconnectFlag : Bool
  staList : List Mac
  staCount : Nat
  staMax : Nat
  queueAwake : Bool
  carrier : Bool

/-- `struct mt7697_cfg80211_info` with its one interface, which `listed` says
to be on `vif_list`. -/
structure Cfg where
  vif : Vif
  listed : Bool
  vifMax : Nat
  opmode : OpMode
  portType : PortType
  destroyInProgress : Bool
  opened : Bool
  sent : List Request
  reports : List Report

/-- `goto cleanup` with a return code is the error side. -/
abbrev Op := Except (Cfg × Int) Cfg

def finish : Op → Cfg × Int
  | .ok cfg => (cfg, 0)
  | .error exit => exit

def Cfg.report (cfg : Cfg) (report : Report) : Cfg :=
  { cfg with reports := cfg.reports ++ [report] }

def write (ret : Int) (request : Request) (cfg : Cfg) : Op :=
  if ret < 0 then .error (cfg, ret) else .ok { cfg with sent := cfg.sent ++ [request] }

def writeIf (cond : Prop) [Decidable cond] (ret : Int) (request : Request) (cfg : Cfg) : Op :=
  if cond then write ret request cfg else .ok cfg

/-- The report that ends what `sme_state` says is going on. -/
def reportLoss (cfg : Cfg) : Cfg :=
  match cfg.vif.smeState with
  | .disconnected => cfg
  | .connecting => cfg.report (.connectResult cfg.vif.bssid false)
  | .connected => cfg.report (.disconnected cfg.vif.locallyGenerated)

structure EssidWrites where
  setOpMode : Int
  setSsid : Int
  setBssid : Int
  setChannel : Int
  setKey : Int
  reload : Int
  disconnect : Int

/-- The string without the terminator that iwconfig sends. -/
def trimEssid (flags : Bool) (essid : List Octet) : List Octet :=
  let essid := if flags then essid else []
  if essid.getLast? = some 0 then essid.dropLast else essid

/-- A key request with the PMK, or open security without one. -/
def writeKey (ret : Int) (cfg : Cfg) : Op :=
  if cfg.vif.pmk ≠ 0 then write ret (.setPmk cfg.vif.pmk) cfg
  else write ret .setSecurityMode cfg

/-- The writes of `siwessid` up to the test of the connected flag. The channel
request takes `ch_hint` as one byte. -/
def configureEssid (essid : List Octet) (writes : EssidWrites) (cfg : Cfg) : Op := do
  let cfg ← writeIf (essid ≠ []) writes.setOpMode (.setOpMode cfg.opmode) cfg
  let cfg ← write writes.setSsid (.setSsid essid) cfg
  if essid ≠ [] then
    let cfg ← writeIf (cfg.opmode = .staOnly) writes.setBssid (.setBssid cfg.vif.reqBssid) cfg
    let cfg ← writeIf (0 < cfg.vif.chHint) writes.setChannel
      (.setChannel (cfg.vif.chHint % 256)) cfg
    writeKey writes.setKey cfg
  else .ok cfg

/-- The attempt itself: the flag and the state are set before the last checks. -/
def startConnect (reload : Int) (cfg : Cfg) : Op :=
  let vif := { cfg.vif with connectPend := true, smeState := .connecting }
  let cfg := { cfg with vif := vif }.report .attempt
  if cfg.destroyInProgress = true then .error (cfg, -ebusy)
  else write reload (.reloadSettings cfg.vif.fwVifIdx) cfg

def recordEssid (essid : List Octet) (cfg : Cfg) : Cfg :=
  { cfg with vif := { cfg.vif with ssid := essid, ssidLen := essid.length } }

def applyEssid (essid : List Octet) (writes : EssidWrites) (cfg : Cfg) : Op := do
  let cfg ← configureEssid essid writes cfg
  if essid ≠ [] then
    if cfg.vif.connected = true then .ok cfg else startConnect writes.reload cfg
  else
    writeIf (cfg.opmode = .staOnly ∧ cfg.vif.connected = true) writes.disconnect
      (.disconnect none) cfg

def mt7697WextSiwessid (flags : Bool) (essid : List Octet) (writes : EssidWrites) (cfg : Cfg) :
    Cfg × Int :=
  if cfg.vif.iftype ≠ .station ∧ cfg.vif.iftype ≠ .ap then (cfg, -einval)
  else
    let essid := trimEssid flags essid
    finish (applyEssid essid writes (recordEssid essid cfg))

/-- A pending connection is reported as failed, and stays pending. -/
def mt7697Cfg80211Scan (request : Nat) (scan : Int) (cfg : Cfg) : Cfg × Int :=
  if cfg.vif.connected = true then
    ({ cfg with vif := { cfg.vif with scanReq := none } }, -einval)
  else
    let cfg :=
      if cfg.vif.connectPend = true then cfg.report (.connectResult cfg.vif.reqBssid false)
      else cfg
    let cfg := { cfg with vif := { cfg.vif with scanReq := some request } }
    match write scan (.scan cfg.vif.fwVifIdx request) cfg with
    | .ok cfg => (cfg, 0)
    | .error (cfg, ret) => ({ cfg with vif := { cfg.vif with scanReq := none } }, ret)

def markLocal (cfg : Cfg) : Cfg := { cfg with vif := { cfg.vif with locallyGenerated := true } }

/-- The report is made here, and `sme_state` is left for the firmware's
indication to change. -/
def mt7697Disconnect (disconnect : Int) (cfg : Cfg) : Op :=
  if cfg.vif.connected = true ∨ cfg.vif.connectPend = true then do
    let cfg ← write disconnect (.disconnect none) (reportLoss (markLocal cfg))
    .ok { cfg with vif := { cfg.vif with connectPend := false } }
  else .ok (markLocal cfg)

def clearSsid (cfg : Cfg) : Cfg := { cfg with vif := { cfg.vif with ssid := [], ssidLen := 0 } }

/-- `interrupted` is the outcome of `down_interruptible`. -/
def mt7697Cfg80211Disconnect (interrupted : Bool) (disconnect : Int) (cfg : Cfg) : Cfg × Int :=
  if interrupted = true then (cfg, -erestartsys)
  else if cfg.destroyInProgress = true then (cfg, -ebusy)
  else
    finish do
      let cfg ← mt7697Disconnect disconnect
        { cfg with vif := { cfg.vif with reconnectFlag := false } }
      .ok (clearSsid cfg)

/-- The work has no return code; a failed disconnect is only logged. -/
def mt7697Cfg80211DisconnectWork (disconnect : Int) (cfg : Cfg) : Cfg :=
  match mt7697Disconnect disconnect cfg with
  | .ok cfg => clearSsid cfg
  | .error exit => exit.1

structure StopWrites where
  disconnect : Int
  station : Mac → Int
  setOpMode : Int
  close : Int

/-- Disconnects the listed stations one by one; the rest stay listed when a
write fails. -/
def dropStations (station : Mac → Int) : List Mac → Cfg → Op
  | [], cfg => .ok { cfg with vif := { cfg.vif with staList := [], staCount := 0 } }
  | mac :: rest, cfg => do
      let cfg ← write (station mac) (.disconnect (some mac))
        { cfg with vif := { cfg.vif with staList := mac :: rest } }
      dropStations station rest cfg

/-- What `mt7697_cfg80211_stop` resets when the peers are gone. -/
def resetLink (cfg : Cfg) : Cfg :=
  { cfg with
    vif := { cfg.vif with
      smeState := .disconnected, connected := false, connectPend := false, iftype := .station }
    opmode := .staOnly
    portType := .sta }

def shutDown (writes : StopWrites) (cfg : Cfg) : Op := do
  let cfg ← write writes.setOpMode (.setOpMode cfg.opmode) cfg
  let vif := { cfg.vif with
    ssid := [], reqBssid := 0, pmk := 0, queueAwake := false, carrier := false, scanReq := none }
  let cfg :=
    match cfg.vif.scanReq with
    | some request => cfg.report (.scanDone request true)
    | none => cfg
  let cfg := { cfg with vif := vif, opened := false }
  if writes.close < 0 then .error (cfg, writes.close) else .ok cfg

def dropPeers (writes : StopWrites) (cfg : Cfg) : Op :=
  match cfg.vif.iftype with
  | .station => do
      let cfg ← write writes.disconnect (.disconnect none) cfg
      .ok (reportLoss cfg)
  | .ap => dropStations writes.station cfg.vif.staList cfg
  | .other => .ok cfg

def mt7697Cfg80211Stop (writes : StopWrites) (cfg : Cfg) : Cfg × Int :=
  finish do
    let cfg ← dropPeers writes cfg
    shutDown writes (resetLink cfg)

/-- What `mt7697_cfg80211_connect_event` finds: the band of the channel, its
frequency and the BSS. -/
structure Lookups where
  band : Bool
  freq : Bool
  bss : Bool

def inBand (channel : Nat) : Prop := 0 < channel ∧ channel ≤ 14 ∨ 34 ≤ channel ∧ channel ≤ 216

instance (channel : Nat) : Decidable (inBand channel) := by unfold inBand; infer_instance

/-- The flags change before the lookups that can fail. -/
def mt7697Cfg80211ConnectEvent (bssid : Mac) (channel : Nat) (lookups : Lookups) (cfg : Cfg) : Op :=
  let cfg := { cfg with vif := { cfg.vif with connected := true, connectPend := false } }
  if ¬ inBand channel then .error (cfg, -einval)
  else if lookups.band = false then .error (cfg, -einval)
  else if lookups.freq = false then .error (cfg, -einval)
  else if lookups.bss = false then .error (cfg, -einval)
  else
    let cfg :=
      match cfg.vif.smeState with
      | .connecting | .disconnected =>
          { cfg with vif := { cfg.vif with smeState := .connected, bssid := bssid } }.report
            (.connectResult bssid true)
      | .connected => cfg.report .roamed
    .ok { cfg with vif := { cfg.vif with queueAwake := true, carrier := true } }

/-- `mt7697_get_vif_by_idx`, with `vif_max - 1` in 32 bits. -/
def mt7697GetVifByIdx (cfg : Cfg) (ifIdx : Nat) : Bool :=
  if (cfg.vifMax + 4294967295) % 4294967296 < ifIdx then false
  else cfg.listed && cfg.vif.fwVifIdx == ifIdx

/-- `memory` is the outcome of `kmalloc`. -/
def mt7697Cfg80211NewSta (bssid : Mac) (memory : Bool) (cfg : Cfg) : Op :=
  if cfg.vif.staMax < cfg.vif.staCount then .error (cfg, -einval)
  else if memory = false then .error (cfg, -enomem)
  else
    let vif := { cfg.vif with
      staList := cfg.vif.staList ++ [bssid], staCount := cfg.vif.staCount + 1 }
    .ok { cfg with vif := vif }

def mt7697Cfg80211DelSta (bssid : Mac) (disconnect : Int) (cfg : Cfg) : Op :=
  if bssid ∈ cfg.vif.staList then do
    let cfg ← write disconnect (.disconnect (some bssid)) cfg
    let vif := { cfg.vif with
      staList := cfg.vif.staList.erase bssid, staCount := cfg.vif.staCount - 1 }
    .ok { cfg with vif := vif }
  else .error (cfg, -einval)

/-- The handler's work once the three reads have filled its locals. Without an
interface it returns the word count of the last one. -/
def mt7697ProcConnectInd (ifIdx channel : Nat) (bssid : Mac) (lookups : Lookups) (memory : Bool)
    (cfg : Cfg) : Cfg × Int :=
  if cfg.listed = false then (cfg, 2)
  else if cfg.opmode = .staOnly then
    if mt7697GetVifByIdx cfg ifIdx = false then (cfg, -einval)
    else if cfg.vif.connectPend = true then
      finish (mt7697Cfg80211ConnectEvent bssid channel lookups cfg)
    else (cfg, 0)
  else if mt7697GetVifByIdx cfg 0 = false then (cfg, -einval)
  else
    finish do
      let cfg ← mt7697Cfg80211NewSta bssid memory cfg
      let cfg := cfg.report (.newSta bssid)
      .ok { cfg with vif := { cfg.vif with connected := true, queueAwake := true, carrier := true } }

/-- The branches of the handler up to the reset of flags and state. -/
def losePeer (ifIdx : Nat) (bssid : Mac) (disconnect : Int) (cfg : Cfg) : Op :=
  if cfg.opmode = .staOnly then
    if mt7697GetVifByIdx cfg ifIdx = false then .error (cfg, -einval)
    else do
      let cfg ← write disconnect (.disconnect none) cfg
      .ok (reportLoss cfg)
  else if mt7697GetVifByIdx cfg 0 = false then .error (cfg, -einval)
  else mt7697Cfg80211DelSta bssid disconnect cfg

def mt7697ProcDisconnectInd (ifIdx : Nat) (bssid : Mac) (disconnect : Int) (cfg : Cfg) :
    Cfg × Int :=
  if cfg.listed = false then (cfg, 2)
  else
    finish do
      let cfg ← losePeer ifIdx bssid disconnect cfg
      .ok { cfg with vif := { cfg.vif with
        queueAwake := false, smeState := .disconnected, connectPend := false, connected := false } }

inductive Event where
  | siwessid (flags : Bool) (essid : List Octet) (writes : EssidWrites)
  | scan (request : Nat) (scan : Int)
  | disconnect (interrupted : Bool) (disconnect : Int)
  | disconnectWork (disconnect : Int)
  | stop (writes : StopWrites)
  | connectInd (ifIdx channel : Nat) (bssid : Mac) (lookups : Lookups) (memory : Bool)
  | disconnectInd (ifIdx : Nat) (bssid : Mac) (disconnect : Int)

def call (cfg : Cfg) : Event → Cfg × Int
  | .siwessid flags essid writes => mt7697WextSiwessid flags essid writes cfg
  | .scan request scan => mt7697Cfg80211Scan request scan cfg
  | .disconnect interrupted disconnect => mt7697Cfg80211Disconnect interrupted disconnect cfg
  | .disconnectWork disconnect => (mt7697Cfg80211DisconnectWork disconnect cfg, 0)
  | .stop writes => mt7697Cfg80211Stop writes cfg
  | .connectInd ifIdx channel bssid lookups memory =>
      mt7697ProcConnectInd ifIdx channel bssid lookups memory cfg
  | .disconnectInd ifIdx bssid disconnect => mt7697ProcDisconnectInd ifIdx bssid disconnect cfg

def step (cfg : Cfg) (event : Event) : Cfg := (call cfg event).1

/-- An idle station with one access point in reach. -/
def idle : Cfg where
  vif :=
    { connected := false, connectPend := false, smeState := .disconnected, iftype := .station
      fwVifIdx := 0, ssid := [], ssidLen := 0, bssid := 0, reqBssid := 0, pmk := 0, chHint := 0
      scanReq := none, locallyGenerated := false, reconnectFlag := true, staList := []
      staCount := 0, staMax := 1, queueAwake := false, carrier := false }
  listed := true
  vifMax := 1
  opmode := .staOnly
  portType := .sta
  destroyInProgress := false
  opened := true
  sent := []
  reports := []

def join : Event := .siwessid true [109] ⟨0, 0, 0, 0, 0, 0, 0⟩

def joined (channel : Nat) : Event := .connectInd 0 channel 5 ⟨true, true, true⟩ true

def left : Event := .disconnectInd 0 5 0

end MangOH.Station
