import MangOH.StationFrame
import MangOH.ResponseDispatch
import Mathlib.Tactic.ByContra

/-!
The three copies of the operating mode: `opmode` of the configuration, the port
that requests are sent to and the type of the interface. The firmware's
configuration sets the first two, and the port before it is checked. User space
sets all three, in `change_iface` and `stop` before a write that can fail.
-/

namespace MangOH.Station

open Trace QueueMemory

structure Modes where
  opmode : OpMode
  portType : PortType
  iftype : Option IfType

/-- An interface that is not listed has no type. -/
def Kept.modes (kept : Kept) : Modes :=
  ⟨kept.opmode, kept.portType, if kept.listed = true then some kept.iftype else none⟩

def Cfg.modes (cfg : Cfg) : Modes := cfg.kept.modes

structure ModesAgree (modes : Modes) : Prop where
  port : modes.portType = .ap ↔ modes.opmode = .apOnly
  iftype : ∀ iftype, modes.iftype = some iftype → (iftype = .ap ↔ modes.opmode = .apOnly)

/-! The response to GET_CFG, whose handler is that of the dispatcher. -/

def OpMode.byte : OpMode → BitVec 8
  | .unset => 0
  | .staOnly => 1
  | .apOnly => 2
  | .repeater => 3
  | .monitor => 4

/-- A configuration with any other mode is refused. -/
def modeOf (byte : BitVec 8) : OpMode :=
  match byte.toNat with
  | 1 => .staOnly
  | 2 => .apOnly
  | 3 => .repeater
  | 4 => .monitor
  | _ => .unset

/-- The fields that the handler of GET_CFG works on. -/
def Cfg.info (cfg : Cfg) : ResponseDispatch.Cfg Unit where
  macAddr := []
  hwWirelessMode := 0
  portType := match cfg.portType with | .sta => .sta | .ap => .ap
  wifiCfg := [cfg.opmode.byte]
  listenInterval := 0
  probeData := []
  rxData := []
  rest := ()

def Cfg.inform (cfg : Cfg) (info : ResponseDispatch.Cfg Unit) : Cfg :=
  { cfg with
    portType := match info.portType with | .sta => .sta | .ap => .ap
    opmode := modeOf (info.wifiCfg.getD 0 0) }

/-- A message, what `kzalloc` and `read` make of it, and the three requests of
`mt7697_cfg80211_get_params`. -/
structure CfgResponse where
  rsp : RspHdr
  memory : Bool
  read : Int
  words : List (BitVec 32)
  listenInterval : Int
  wirelessMode : Int
  macAddr : Int

def mt7697Cfg80211GetParams (response : CfgResponse) : Int :=
  if response.listenInterval < 0 then response.listenInterval
  else if response.wirelessMode < 0 then response.wirelessMode
  else response.macAddr

def mt7697ProcGetCfg (response : CfgResponse) (cfg : Cfg) : Cfg × Int :=
  let follow : ResponseDispatch.Follow Unit := fun _ info =>
    let err := mt7697Cfg80211GetParams response
    (info, if err < 0 then err else 0)
  let program := ResponseDispatch.mt7697ProcGetCfg follow response.memory response.rsp cfg.info
  let outcome := (program.run (fun _ _ => ((), response.read, response.words)) ()).2.2
  (cfg.inform outcome.1, outcome.2)

/-! The requests of user space. -/

def setModes (opmode : OpMode) (portType : PortType) (iftype : IfType) (cfg : Cfg) : Cfg :=
  { cfg with opmode := opmode, portType := portType, vif := { cfg.vif with iftype := iftype } }

/-- The modes change ahead of the request, and only when the mode is another. -/
def switchMode (opmode : OpMode) (portType : PortType) (iftype : IfType) (setOpMode : Int)
    (cfg : Cfg) : Op :=
  if cfg.opmode ≠ opmode then
    write setOpMode (.setOpMode opmode) (setModes opmode portType iftype cfg)
  else .ok cfg

def mt7697Cfg80211ChangeIface (type : IfType) (setOpMode : Int) (cfg : Cfg) : Cfg × Int :=
  finish do
    let cfg ←
      match type with
      | .station => switchMode .staOnly .sta .station setOpMode cfg
      | .ap => switchMode .apOnly .ap .ap setOpMode cfg
      | .other => .error (cfg, -eopnotsupp)
    .ok { cfg with vif := { cfg.vif with iftype := type } }

inductive IwMode where
  | master
  | infra
  | other

/-- It makes no request, and the mode is sent when `siwessid` comes. -/
def mt7697WextSiwmode (mode : IwMode) (cfg : Cfg) : Cfg × Int :=
  match mode with
  | .master =>
      if cfg.opmode ≠ .apOnly then
        if cfg.opmode = .staOnly ∧ (cfg.vif.connected = true ∨ cfg.vif.connectPend = true) then
          (cfg, -ebusy)
        else (setModes .apOnly .ap .ap cfg, 0)
      else (cfg, 0)
  | .infra =>
      if cfg.opmode ≠ .staOnly then
        if cfg.opmode = .apOnly ∧ cfg.listed = true then (cfg, -ebusy)
        else (setModes .staOnly .sta .station cfg, 0)
      else (cfg, 0)
  | .other => (cfg, -einval)

inductive ModeEvent where
  | getCfg (response : CfgResponse)
  | changeIface (type : IfType) (setOpMode : Int)
  | siwmode (mode : IwMode)
  | call (event : Event)

def modeCall (cfg : Cfg) : ModeEvent → Cfg × Int
  | .getCfg response => mt7697ProcGetCfg response cfg
  | .changeIface type setOpMode => mt7697Cfg80211ChangeIface type setOpMode cfg
  | .siwmode mode => mt7697WextSiwmode mode cfg
  | .call event => Station.call cfg event

def modeStep (cfg : Cfg) (event : ModeEvent) : Cfg := (modeCall cfg event).1

structure ModeKept (cfg : Cfg) (event : ModeEvent) : Prop where
  agrees : ModesAgree (modeStep cfg event).modes
  unchanged : (modeCall cfg event).2 < 0 → (modeStep cfg event).modes = cfg.modes

/-! When a step keeps the modes in agreement. -/

def CfgResponse.config (response : CfgResponse) : List Octet :=
  (ResponseDispatch.bytes response.words).take 209

def CfgResponse.field (response : CfgResponse) (place : Nat) : Nat :=
  (response.config.getD place 0).toNat

/-- The handler gets as far as the configuration. -/
structure CfgResponse.Arrives (response : CfgResponse) : Prop where
  size : sub32 response.rsp.len.toNat 8 = 212
  memory : response.memory = true
  read : response.read = 53

/-- A configuration that is not refused for its mode. -/
def CfgResponse.Names (response : CfgResponse) (opmode : OpMode) : Prop :=
  response.field 0 = 1 ∧ opmode = .staOnly ∨ response.field 0 = 2 ∧ opmode = .apOnly

/-- The strings of the half that the mode selects are not too long. -/
def CfgResponse.Fits (response : CfgResponse) (opmode : OpMode) : Prop :=
  match opmode with
  | .staOnly => response.field 33 ≤ 32 ∧ response.field 105 ≤ 64
  | _ => response.field 138 ≤ 32 ∧ response.field 203 ≤ 64

def portOf (opmode : OpMode) : PortType := if opmode = .apOnly then .ap else .sta

/-- One mode in all three places. -/
def uniform (opmode : OpMode) (iftype : IfType) (listed : Bool) : Modes :=
  ⟨opmode, portOf opmode, if listed = true then some iftype else none⟩

/-- A response whose mode is not the present one is refused before it switches
the port, or accepted while there is no interface; and what fails at a write
had nothing to switch. -/
def ModeSafe (cfg : Cfg) : ModeEvent → Prop
  | .getCfg response => response.Arrives → ∀ opmode, response.Names opmode →
      (¬ response.Fits opmode ∨ cfg.listed = true → (opmode = .apOnly ↔ cfg.opmode = .apOnly)) ∧
      (response.Fits opmode → mt7697Cfg80211GetParams response < 0 → opmode = cfg.opmode)
  | .changeIface .station setOpMode => cfg.opmode ≠ .staOnly → 0 ≤ setOpMode
  | .changeIface .ap setOpMode => cfg.opmode ≠ .apOnly → 0 ≤ setOpMode
  | .call (.stop writes) => PeersAccept writes cfg →
      0 ≤ writes.setOpMode ∧ 0 ≤ writes.close ∨ cfg.modes = uniform .staOnly .station cfg.listed
  | _ => True

theorem modeOf_byte (opmode : OpMode) : modeOf opmode.byte = opmode := by
  cases opmode <;> rfl

theorem inform_info (cfg : Cfg) : cfg.inform cfg.info = cfg := by
  have port : (match cfg.info.portType with | .sta => PortType.sta | .ap => .ap) = cfg.portType := by
    unfold Cfg.info
    cases cfg.portType <;> rfl
  have mode : modeOf (cfg.info.wifiCfg.getD 0 0) = cfg.opmode := modeOf_byte cfg.opmode
  rw [Cfg.inform, port, mode]

section GetCfg

variable {response : CfgResponse} {cfg : Cfg}

/-- What the handler makes of a configuration that it has read. -/
theorem getCfg_arrives (arrives : response.Arrives) :
    mt7697ProcGetCfg response cfg =
      let outcome := ResponseDispatch.acceptCfg
        (fun _ info => (info, if mt7697Cfg80211GetParams response < 0 then
          mt7697Cfg80211GetParams response else 0)) cfg.info response.config
      (cfg.inform outcome.1, outcome.2) := by
  obtain ⟨size, memory, read⟩ := arrives
  have aligned : len32Aligned 209 = 212 := by decide
  have words : ((lenToWord 209 : Nat) : Int) = 53 := by decide
  simp [mt7697ProcGetCfg, ResponseDispatch.mt7697ProcGetCfg, ResponseDispatch.readExact, Reader.run,
    size, memory, read, aligned, words, CfgResponse.config]

theorem getCfg_absent (absent : ¬ response.Arrives) :
    (mt7697ProcGetCfg response cfg).1 = cfg := by
  have aligned : len32Aligned 209 = 212 := by decide
  have words : ((lenToWord 209 : Nat) : Int) = 53 := by decide
  rw [mt7697ProcGetCfg, ResponseDispatch.mt7697ProcGetCfg, aligned]
  by_cases size : sub32 response.rsp.len.toNat 8 = 212
  · cases memory : response.memory with
    | false => simp [size, Reader.run, inform_info]
    | true =>
        have short : response.read ≠ 53 := fun read => absent ⟨size, memory, read⟩
        simp [size, Reader.run, ResponseDispatch.readExact, words, short, inform_info]
  · simp [size, Reader.run, inform_info]

theorem getCfg_unnamed (arrives : response.Arrives) (unnamed : ∀ opmode, ¬ response.Names opmode) :
    (mt7697ProcGetCfg response cfg).1 = cfg := by
  have station : ¬ (response.config.getD 0 0).toNat = 1 := fun mode =>
    unnamed .staOnly (Or.inl ⟨mode, rfl⟩)
  have ap : ¬ (response.config.getD 0 0).toNat = 2 := fun mode =>
    unnamed .apOnly (Or.inr ⟨mode, rfl⟩)
  rw [getCfg_arrives arrives]
  simp only [ResponseDispatch.acceptCfg, if_neg station, if_neg ap]
  exact inform_info cfg

/-- The dispatcher's port of a mode. -/
def dispatchPort (opmode : OpMode) : ResponseDispatch.PortType :=
  if opmode = .apOnly then .ap else .sta

variable (follow : ResponseDispatch.Follow Unit) (info : ResponseDispatch.Cfg Unit)

/-- The port is that of the mode before any string is checked. -/
theorem acceptCfg_refuses {opmode : OpMode} (names : response.Names opmode)
    (long : ¬ response.Fits opmode) :
    ResponseDispatch.acceptCfg follow info response.config =
      ({ info with portType := dispatchPort opmode }, -QueueMemory.einval) := by
  unfold ResponseDispatch.acceptCfg
  rcases names with ⟨mode, rfl⟩ | ⟨mode, rfl⟩
  · have mode : (response.config.getD 0 0).toNat = 1 := mode
    rw [if_pos mode]
    by_cases ssid : 32 < (response.config.getD 33 0).toNat
    · rw [if_pos ssid]
      rfl
    · have password : 64 < (response.config.getD 105 0).toNat := by
        by_contra short
        exact long ⟨Nat.not_lt.mp ssid, Nat.not_lt.mp short⟩
      rw [if_neg ssid, if_pos password]
      rfl
  · have mode : (response.config.getD 0 0).toNat = 2 := mode
    have other : ¬ (response.config.getD 0 0).toNat = 1 := by omega
    rw [if_neg other, if_pos mode]
    by_cases ssid : 32 < (response.config.getD 138 0).toNat
    · rw [if_pos ssid]
      rfl
    · have password : 64 < (response.config.getD 203 0).toNat := by
        by_contra short
        exact long ⟨Nat.not_lt.mp ssid, Nat.not_lt.mp short⟩
      rw [if_neg ssid, if_pos password]
      rfl

theorem acceptCfg_accepts {opmode : OpMode} (names : response.Names opmode)
    (fits : response.Fits opmode) :
    ResponseDispatch.acceptCfg follow info response.config =
      follow .getParams
        { info with portType := dispatchPort opmode, wifiCfg := response.config } := by
  unfold ResponseDispatch.acceptCfg
  rcases names with ⟨mode, rfl⟩ | ⟨mode, rfl⟩
  · have mode : (response.config.getD 0 0).toNat = 1 := mode
    have ssid : ¬ 32 < (response.config.getD 33 0).toNat := Nat.not_lt.mpr fits.1
    have password : ¬ 64 < (response.config.getD 105 0).toNat := Nat.not_lt.mpr fits.2
    rw [if_pos mode]
    exact (if_neg ssid).trans (if_neg password)
  · have mode : (response.config.getD 0 0).toNat = 2 := mode
    have other : ¬ (response.config.getD 0 0).toNat = 1 := by omega
    have ssid : ¬ 32 < (response.config.getD 138 0).toNat := Nat.not_lt.mpr fits.1
    have password : ¬ 64 < (response.config.getD 203 0).toNat := Nat.not_lt.mpr fits.2
    rw [if_neg other, if_pos mode]
    exact (if_neg ssid).trans (if_neg password)

theorem names_modeOf {opmode : OpMode} (names : response.Names opmode) :
    modeOf (response.config.getD 0 0) = opmode := by
  rcases names with ⟨mode, rfl⟩ | ⟨mode, rfl⟩
  · have mode : (response.config.getD 0 0).toNat = 1 := mode
    rw [modeOf, mode]
    rfl
  · have mode : (response.config.getD 0 0).toNat = 2 := mode
    rw [modeOf, mode]
    rfl

theorem dispatchPort_station (opmode : OpMode) :
    (match dispatchPort opmode with | .sta => PortType.sta | .ap => .ap) = portOf opmode := by
  cases opmode <;> rfl

theorem getCfg_refuses {opmode : OpMode} (arrives : response.Arrives)
    (names : response.Names opmode) (long : ¬ response.Fits opmode) :
    mt7697ProcGetCfg response cfg = ({ cfg with portType := portOf opmode }, -einval) := by
  have kept : modeOf (cfg.info.wifiCfg.getD 0 0) = cfg.opmode := modeOf_byte cfg.opmode
  simp only [getCfg_arrives arrives, acceptCfg_refuses _ _ names long, Cfg.inform, kept,
    dispatchPort_station]
  rfl

theorem getCfg_accepts {opmode : OpMode} (arrives : response.Arrives)
    (names : response.Names opmode) (fits : response.Fits opmode) :
    mt7697ProcGetCfg response cfg =
      ({ cfg with portType := portOf opmode, opmode := opmode },
        if mt7697Cfg80211GetParams response < 0 then mt7697Cfg80211GetParams response else 0) := by
  simp only [getCfg_arrives arrives, acceptCfg_accepts _ _ names fits, Cfg.inform,
    names_modeOf names, dispatchPort_station]

end GetCfg

/-! The condition of each kind of step is exact. -/

section Steps

variable {cfg : Cfg}

/-- A step that changes no mode is fine, whatever it returns. -/
theorem modeKept_same {event : ModeEvent} (agrees : ModesAgree cfg.modes)
    (same : (modeStep cfg event).modes = cfg.modes) : ModeKept cfg event :=
  ⟨same ▸ agrees, fun _ => same⟩

/-- A step that leaves other modes has to succeed, and they have to agree. -/
theorem modeKept_set {event : ModeEvent} {modes : Modes} (result : (modeStep cfg event).modes = modes)
    (agrees : ModesAgree modes) (success : ¬ (modeCall cfg event).2 < 0) : ModeKept cfg event :=
  ⟨result ▸ agrees, fun failed => absurd failed success⟩

theorem portOf_ap (opmode : OpMode) : portOf opmode = .ap ↔ opmode = .apOnly := by
  cases opmode <;> simp [portOf]

theorem listed_iftype (cfg : Cfg) (listed : cfg.listed = true) :
    cfg.modes.iftype = some cfg.vif.iftype := if_pos listed

theorem port_same {opmode : OpMode} (agrees : ModesAgree cfg.modes)
    (also : opmode = .apOnly ↔ cfg.opmode = .apOnly) : portOf opmode = cfg.portType := by
  have port : cfg.portType = .ap ↔ cfg.opmode = .apOnly := agrees.port
  have both : portOf opmode = .ap ↔ cfg.portType = .ap := by rw [portOf_ap, also, port]
  cases left : portOf opmode <;> cases right : cfg.portType <;> simp_all

/-- The port of a refused configuration stays, so it has to be the present one. -/
theorem modeKept_refused {response : CfgResponse} {opmode : OpMode} (agrees : ModesAgree cfg.modes)
    (arrives : response.Arrives) (names : response.Names opmode) (long : ¬ response.Fits opmode) :
    ModeKept cfg (.getCfg response) ↔ (opmode = .apOnly ↔ cfg.opmode = .apOnly) := by
  have result : modeCall cfg (.getCfg response) = ({ cfg with portType := portOf opmode }, -einval) :=
    getCfg_refuses arrives names long
  have port : cfg.portType = .ap ↔ cfg.opmode = .apOnly := agrees.port
  constructor
  · intro kept
    have negative : (modeCall cfg (.getCfg response)).2 < 0 := by
      rw [result]
      exact Int.negSucc_lt_zero 21
    have same : portOf opmode = cfg.portType := by
      have modes := kept.unchanged negative
      rw [modeStep, result] at modes
      exact congrArg Modes.portType modes
    rw [← portOf_ap, same, port]
  · intro also
    have same := port_same agrees also
    apply modeKept_same agrees
    rw [modeStep, result, same]

theorem modeKept_accepted {response : CfgResponse} {opmode : OpMode} (agrees : ModesAgree cfg.modes)
    (arrives : response.Arrives) (names : response.Names opmode) (fits : response.Fits opmode) :
    ModeKept cfg (.getCfg response) ↔
      (cfg.listed = true → (opmode = .apOnly ↔ cfg.opmode = .apOnly)) ∧
        (mt7697Cfg80211GetParams response < 0 → opmode = cfg.opmode) := by
  have result : modeCall cfg (.getCfg response) =
      ({ cfg with portType := portOf opmode, opmode := opmode },
        if mt7697Cfg80211GetParams response < 0 then mt7697Cfg80211GetParams response else 0) :=
    getCfg_accepts arrives names fits
  have after : (modeStep cfg (.getCfg response)).modes = ⟨opmode, portOf opmode, cfg.modes.iftype⟩ := by
    rw [modeStep, result]
    rfl
  constructor
  · intro kept
    constructor
    · intro listed
      have now := kept.agrees.iftype cfg.vif.iftype
      rw [after] at now
      have before := agrees.iftype cfg.vif.iftype (listed_iftype cfg listed)
      exact (now (listed_iftype cfg listed)).symm.trans before
    · intro failed
      have negative : (modeCall cfg (.getCfg response)).2 < 0 := by
        rw [result, if_pos failed]
        exact failed
      have modes := kept.unchanged negative
      rw [after] at modes
      exact congrArg Modes.opmode modes
  · rintro ⟨present, stays⟩
    have agreed : ModesAgree (modeStep cfg (.getCfg response)).modes := by
      rw [after]
      refine ⟨portOf_ap opmode, fun iftype some => ?_⟩
      have listed : cfg.listed = true := by
        cases unlisted : cfg.listed with
        | true => rfl
        | false => simp [Cfg.modes, Kept.modes, Cfg.kept, unlisted] at some
      exact (agrees.iftype iftype some).trans (present listed).symm
    refine ⟨agreed, fun negative => ?_⟩
    -- An error after the modes are set has to leave them as they were.
    have failed : mt7697Cfg80211GetParams response < 0 := by
      rw [result] at negative
      by_contra success
      simp [success] at negative
    have same := stays failed
    have port : portOf opmode = cfg.portType := port_same agrees (same ▸ Iff.rfl)
    rw [after, port, same]
    rfl

theorem modeKept_getCfg_iff {response : CfgResponse} (agrees : ModesAgree cfg.modes) :
    ModeKept cfg (.getCfg response) ↔ ModeSafe cfg (.getCfg response) := by
  by_cases arrives : response.Arrives
  · by_cases named : ∃ opmode, response.Names opmode
    · obtain ⟨opmode, names⟩ := named
      have only : ∀ other, response.Names other → other = opmode := fun other also =>
        (names_modeOf also).symm.trans (names_modeOf names)
      by_cases fits : response.Fits opmode
      · rw [modeKept_accepted agrees arrives names fits]
        constructor
        · rintro ⟨present, stays⟩ _ other also
          obtain rfl := only other also
          exact ⟨fun either => present (either.resolve_left (not_not_intro fits)), fun _ => stays⟩
        · intro safe
          have both := safe arrives opmode names
          exact ⟨fun listed => both.1 (Or.inr listed), both.2 fits⟩
      · rw [modeKept_refused agrees arrives names fits]
        constructor
        · intro present _ other also
          obtain rfl := only other also
          exact ⟨fun _ => present, fun short => absurd short fits⟩
        · intro safe
          exact (safe arrives opmode names).1 (Or.inl fits)
    -- Any other mode is refused before the port is touched.
    · have unnamed : ∀ opmode, ¬ response.Names opmode := fun opmode names => named ⟨opmode, names⟩
      have same : modeStep cfg (.getCfg response) = cfg := getCfg_unnamed arrives unnamed
      refine iff_of_true (modeKept_same agrees (by rw [same])) ?_
      exact fun _ opmode names => absurd names (unnamed opmode)
  · have same : modeStep cfg (.getCfg response) = cfg := getCfg_absent arrives
    exact iff_of_true (modeKept_same agrees (by rw [same])) fun arrived => absurd arrived arrives

theorem modesAgree_uniform {opmode : OpMode} {iftype : IfType} (same : iftype = .ap ↔ opmode = .apOnly)
    (listed : Bool) : ModesAgree (uniform opmode iftype listed) := by
  refine ⟨portOf_ap opmode, fun found some => ?_⟩
  cases listed with
  | true =>
      obtain rfl : iftype = found := Option.some.inj some
      exact same
  | false => simp [uniform] at some

/-- A change of the interface's type fails only after it has set the modes. -/
theorem modeKept_switch {event : ModeEvent} {opmode : OpMode} {iftype : IfType} {setOpMode : Int}
    (agrees : ModesAgree cfg.modes) (pair : iftype = .ap ↔ opmode = .apOnly)
    (result : modeCall cfg event = finish do
      let cfg ← switchMode opmode (portOf opmode) iftype setOpMode cfg
      .ok { cfg with vif := { cfg.vif with iftype := iftype } }) :
    ModeKept cfg event ↔ (cfg.opmode ≠ opmode → 0 ≤ setOpMode) := by
  by_cases other : cfg.opmode = opmode
  · have port : portOf opmode = cfg.portType := port_same agrees (by rw [other])
    have outcome : modeCall cfg event = ({ cfg with vif := { cfg.vif with iftype := iftype } }, 0) := by
      rw [result, switchMode, if_neg (not_not_intro other)]
      rfl
    have after : (modeStep cfg event).modes = uniform opmode iftype cfg.listed := by
      rw [modeStep, outcome, uniform, port, ← other]
      rfl
    refine iff_of_true (modeKept_set after (modesAgree_uniform pair _) ?_) (fun differs => absurd other differs)
    simp [outcome]
  · by_cases failed : setOpMode < 0
    · have outcome : modeCall cfg event = (setModes opmode (portOf opmode) iftype cfg, setOpMode) := by
        rw [result, switchMode, if_pos other, write, if_pos failed]
        rfl
      refine iff_of_false (fun kept => ?_) (fun written => ?_)
      · have modes := kept.unchanged (by rw [outcome]; exact failed)
        rw [modeStep, outcome] at modes
        exact other (congrArg Modes.opmode modes).symm
      · have accepted := written other
        omega
    · have outcome : (modeStep cfg event).modes = uniform opmode iftype cfg.listed ∧
          (modeCall cfg event).2 = 0 := by
        rw [modeStep, result, switchMode, if_pos other, write, if_neg failed]
        exact ⟨rfl, rfl⟩
      refine iff_of_true (modeKept_set outcome.1 (modesAgree_uniform pair _) ?_) (fun _ => by omega)
      simp [outcome.2]

theorem modeKept_changeIface_iff {type : IfType} {setOpMode : Int} (agrees : ModesAgree cfg.modes) :
    ModeKept cfg (.changeIface type setOpMode) ↔ ModeSafe cfg (.changeIface type setOpMode) := by
  cases type with
  | station => exact modeKept_switch agrees (by simp) rfl
  | ap => exact modeKept_switch agrees (by simp) rfl
  | other => exact iff_of_true (modeKept_same agrees rfl) trivial

theorem modeKept_siwmode (mode : IwMode) (agrees : ModesAgree cfg.modes) :
    ModeKept cfg (.siwmode mode) := by
  have master : ModesAgree (setModes .apOnly .ap .ap cfg).modes :=
    modesAgree_uniform (show IfType.ap = .ap ↔ OpMode.apOnly = .apOnly by simp) cfg.listed
  have infra : ModesAgree (setModes .staOnly .sta .station cfg).modes :=
    modesAgree_uniform (show IfType.station = .ap ↔ OpMode.staOnly = .apOnly by simp) cfg.listed
  constructor
  · unfold modeStep modeCall mt7697WextSiwmode
    cases mode with
    | master =>
        dsimp only
        split_ifs
        · exact agrees
        · exact master
        · exact agrees
    | infra =>
        dsimp only
        split_ifs
        · exact agrees
        · exact infra
        · exact agrees
    | other => exact agrees
  · unfold modeStep modeCall mt7697WextSiwmode
    cases mode with
    | master =>
        dsimp only
        split_ifs <;> simp
    | infra =>
        dsimp only
        split_ifs <;> simp
    | other => exact fun _ => rfl

/-- A stop that has reset the modes may still fail, twice. -/
theorem modeKept_reset {event : ModeEvent}
    (after : (modeStep cfg event).modes = uniform .staOnly .station cfg.listed) :
    ModeKept cfg event ↔
      ((modeCall cfg event).2 < 0 → cfg.modes = uniform .staOnly .station cfg.listed) := by
  constructor
  · intro kept failed
    rw [← kept.unchanged failed, after]
  · intro same
    refine ⟨?_, fun failed => after.trans (same failed).symm⟩
    rw [after]
    exact modesAgree_uniform (by simp) _

theorem modeKept_stop_iff {writes : StopWrites} (agrees : ModesAgree cfg.modes) :
    ModeKept cfg (.call (.stop writes)) ↔ ModeSafe cfg (.call (.stop writes)) := by
  have reach := stop_reach writes cfg
  generalize kept : (mt7697Cfg80211Stop writes cfg).1.kept = after at reach
  generalize result : (mt7697Cfg80211Stop writes cfg).2 = ret at reach
  have code : (modeCall cfg (.call (.stop writes))).2 = ret := result
  -- The stop ends before the modes are touched, or resets them and then fails or not.
  cases reach with
  | peers refuse _ =>
      have modes := congrArg Kept.modes kept
      exact iff_of_true (modeKept_same agrees modes) fun accept => absurd accept refuse
  | reset accept failed negative =>
      have modes : (modeStep cfg (.call (.stop writes))).modes =
          uniform .staOnly .station cfg.listed := congrArg Kept.modes kept
      rw [modeKept_reset modes, code]
      constructor
      · exact fun same _ => Or.inr (same negative)
      · rintro safe _
        rcases safe accept with ⟨written, _⟩ | same
        · omega
        · exact same
  | closed accept written negative =>
      have modes : (modeStep cfg (.call (.stop writes))).modes =
          uniform .staOnly .station cfg.listed := congrArg Kept.modes kept
      rw [modeKept_reset modes, code, negative]
      constructor
      · intro same _
        by_cases failed : writes.close < 0
        · exact Or.inr (same failed)
        · exact Or.inl ⟨written, by omega⟩
      · rintro safe failed
        rcases safe accept with ⟨_, closed⟩ | same
        · omega
        · exact same

theorem modeKept_iff {event : ModeEvent} (agrees : ModesAgree cfg.modes) :
    ModeKept cfg event ↔ ModeSafe cfg event := by
  cases event with
  | getCfg response => exact modeKept_getCfg_iff agrees
  | changeIface type setOpMode => exact modeKept_changeIface_iff agrees
  | siwmode mode => exact iff_of_true (modeKept_siwmode mode agrees) trivial
  | call event =>
      cases event with
      | stop writes => exact modeKept_stop_iff agrees
      | siwessid flags essid writes =>
          have modes := congrArg Kept.modes (siwessid_kept flags essid writes cfg)
          exact iff_of_true (modeKept_same agrees modes) trivial
      | scan request scan =>
          have modes := congrArg Kept.modes (scan_kept request scan cfg)
          exact iff_of_true (modeKept_same agrees modes) trivial
      | disconnect interrupted disconnect =>
          have modes := congrArg Kept.modes (cfg80211Disconnect_kept interrupted disconnect cfg)
          exact iff_of_true (modeKept_same agrees modes) trivial
      | disconnectWork disconnect =>
          have modes := congrArg Kept.modes (disconnectWork_kept disconnect cfg)
          exact iff_of_true (modeKept_same agrees modes) trivial
      | connectInd ifIdx channel bssid lookups memory =>
          obtain ⟨_, _, kept⟩ := connectInd_kept ifIdx channel bssid lookups memory cfg
          have modes := congrArg Kept.modes kept
          exact iff_of_true (modeKept_same agrees modes) trivial
      | disconnectInd ifIdx bssid disconnect =>
          obtain ⟨_, _, kept⟩ := disconnectInd_kept ifIdx bssid disconnect cfg
          have modes := congrArg Kept.modes kept
          exact iff_of_true (modeKept_same agrees modes) trivial

end Steps

/-- From modes that agree, every step keeps them in agreement and changes none
when it fails, just when every step meets the condition. -/
theorem operatingMode_kept_iff {start : Cfg} (agrees : ModesAgree start.modes) (events : List ModeEvent) :
    Along modeStep ModeKept start events ↔ Along modeStep ModeSafe start events :=
  @along_iff _ _ modeStep ModeKept ModeSafe (fun cfg => ModesAgree cfg.modes) modeKept_iff
    (fun _ kept => kept.agrees) events start agrees

theorem idle_agrees : ModesAgree idle.modes := by
  have pair : IfType.station = .ap ↔ OpMode.staOnly = .apOnly := by simp
  exact modesAgree_uniform pair true

def configured (words : List (BitVec 32)) : ModeEvent :=
  .getCfg ⟨⟨220, 0, 0, 0⟩, true, 53, words, 0, 0, 0⟩

/-- An access point's configuration with an SSID of 33 bytes. -/
def longSsid : List (BitVec 32) :=
  [2] ++ List.replicate 33 0 ++ [2162688] ++ List.replicate 18 0

theorem operatingMode_kept_tour :
    Along modeStep ModeKept idle
      [configured (1 :: List.replicate 52 0), .changeIface .ap 0, .siwmode .infra,
        .changeIface .other 0, .call (.stop ⟨0, fun _ => 0, 0, 0⟩), .siwmode .master] := by
  refine (operatingMode_kept_iff idle_agrees _).mpr
    ⟨fun _ opmode names => ?_, fun _ => Int.le_refl 0, trivial, trivial, fun _ => ?_, trivial, trivial⟩
  · rcases names with ⟨_, rfl⟩ | ⟨mode, _⟩
    · exact ⟨fun _ => by decide, fun _ _ => rfl⟩
    · exact absurd mode (by decide)
  · exact Or.inl ⟨Int.le_refl 0, Int.le_refl 0⟩

/-- A refused configuration has switched the port, an accepted one leaves the
interface behind, and a failed write comes after the modes are set. -/
theorem operatingMode_torn :
    ModesAgree idle.modes ∧
      ¬ Along modeStep ModeKept idle [configured longSsid] ∧
      ¬ Along modeStep ModeKept idle [configured (2 :: List.replicate 52 0)] ∧
      ¬ Along modeStep ModeKept idle [.changeIface .ap (-5)] ∧
      ¬ Along modeStep ModeKept idle
        [.changeIface .ap 0, .call (.stop ⟨0, fun _ => 0, 0, -5⟩)] := by
  refine ⟨idle_agrees, fun along => ?_, fun along => ?_, fun along => ?_, fun along => ?_⟩
  · have modes := along.1.unchanged (by decide)
    exact absurd (congrArg Modes.portType modes) (by decide)
  · have ap := along.1.agrees.iftype .station (by decide)
    exact absurd ap (by decide)
  · have modes := along.1.unchanged (by decide)
    exact absurd (congrArg Modes.opmode modes) (by decide)
  · have modes := along.2.1.unchanged (by decide)
    exact absurd (congrArg Modes.opmode modes) (by decide)

end MangOH.Station
