import Mathlib.Algebra.Group.Nat.Defs
import MangOH.StationFrame

/-!
The credentials of a station: the BSSID, the channel and the key that user
space supplies, each in a call of its own, and `siwessid` sends. A history of
the calls says what should be current. The fields of the interface can differ
from it: the channel survives a stop and is sent as one byte, a key leaves the
tail of a longer one in place, and nothing ties it to its network.
-/

namespace MangOH.Station

open Trace

/-! The calls that supply credentials. -/

def freqList : List Int :=
  [2412, 2417, 2422, 2427, 2432, 2437, 2442, 2447, 2452, 2457, 2462, 2467, 2472, 2484]

/-- The channel of `struct iw_freq`, by number or by a frequency of the list. -/
def siwfreqChannel (m e : Int) : Option Int :=
  if e = 0 ∧ m ≤ 1000 then some m
  else if e = 1 ∧ 2412 ≤ m.tdiv 100000 ∧ m.tdiv 100000 ≤ 2484 then
    (freqList.idxOf? (m.tdiv 100000)).map fun ch => (ch : Int) + 1
  else none

/-- `ch_hint` has 16 bits. -/
def mt7697WextSiwfreq (m e : Int) (cfg : Cfg) : Cfg × Int :=
  match siwfreqChannel m e with
  | some chan => ({ cfg with vif := { cfg.vif with chHint := (chan % 65536).toNat } }, 0)
  | none => (cfg, -einval)

def mt7697WextSiwap (bssid : Mac) (cfg : Cfg) : Cfg × Int :=
  ({ cfg with vif := { cfg.vif with reqBssid := bssid } }, 0)

/-- Bytes in memory order as one number, as in `Pmk`. -/
def keyValue : List Octet → Nat
  | [] => 0
  | byte :: rest => byte.toNat + 256 * keyValue rest

/-- What `memcpy` leaves of the 32 bytes of `vif->pmk`. -/
def overwrite (key : List Octet) (pmk : Pmk) : Pmk :=
  BitVec.ofNat 256 (keyValue key + pmk.toNat / 256 ^ key.length * 256 ^ key.length)

/-- Only a key of the kind `IW_ENCODE_ALG_PMK` is stored. -/
def mt7697WextSiwencodeext (algPmk : Bool) (key : List Octet) (cfg : Cfg) : Cfg × Int :=
  if cfg.vif.iftype ≠ .station ∧ cfg.vif.iftype ≠ .ap then (cfg, -eopnotsupp)
  else if algPmk = true then
    ({ cfg with vif := { cfg.vif with pmk := overwrite key cfg.vif.pmk } }, 0)
  else (cfg, 0)

/-- `handle` is whether the queue's `open` gives one. -/
def mt7697Open (handle : Bool) (cfg : Cfg) : Cfg × Int :=
  if cfg.opened = false ∧ handle = false then (cfg, 0)
  else
    let vif := { cfg.vif with
      carrier := true, queueAwake := cfg.vif.connected || cfg.vif.queueAwake }
    ({ cfg with opened := true, vif := vif }, 0)

/-- A key of any length that the field holds. -/
abbrev Key := { key : List Octet // key.length ≤ 32 }

/-- The calls on a station interface whose requests the firmware accepts, and
the two indications. -/
inductive Call where
  | siwfreq (m e : Int)
  | siwap (bssid : Mac)
  | siwencodeext (algPmk : Bool) (key : Key)
  | siwessid (flags : Bool) (essid : List Octet)
  | disconnect (interrupted : Bool)
  | stop (close : Int)
  | open (handle : Bool)
  | connectInd (ifIdx channel : Nat) (bssid : Mac) (lookups : Lookups) (memory : Bool)
  | disconnectInd (ifIdx : Nat) (bssid : Mac)

def answer (cfg : Cfg) : Call → Cfg
  | .siwfreq m e => (mt7697WextSiwfreq m e cfg).1
  | .siwap bssid => (mt7697WextSiwap bssid cfg).1
  | .siwencodeext algPmk key => (mt7697WextSiwencodeext algPmk key cfg).1
  | .siwessid flags essid => step cfg (.siwessid flags essid ⟨0, 0, 0, 0, 0, 0, 0⟩)
  | .disconnect interrupted => step cfg (.disconnect interrupted 0)
  | .stop close => step cfg (.stop ⟨0, fun _ => 0, 0, close⟩)
  | .open handle => (mt7697Open handle cfg).1
  | .connectInd ifIdx channel bssid lookups memory =>
      step cfg (.connectInd ifIdx channel bssid lookups memory)
  | .disconnectInd ifIdx bssid => step cfg (.disconnectInd ifIdx bssid 0)

attribute [local simp] answer

/-! What the calls since the last stop have supplied. -/

structure SuppliedKey where
  key : List Octet
  ssid : Option (List Octet)

structure History where
  bssid : Mac
  channel : Option Int
  key : Option SuppliedKey

def History.empty : History := ⟨0, none, none⟩

/-- A key belongs to the first network that is named after it. -/
def SuppliedKey.bind (ssid : List Octet) (supplied : SuppliedKey) : SuppliedKey :=
  { supplied with ssid := supplied.ssid.orElse fun _ => some ssid }

def History.add (history : History) : Call → History
  | .siwfreq m e => { history with channel := (siwfreqChannel m e).orElse fun _ => history.channel }
  | .siwap bssid => { history with bssid := bssid }
  | .siwencodeext algPmk key =>
      if algPmk = true then { history with key := some ⟨key.1, none⟩ } else history
  | .siwessid flags essid =>
      if trimEssid flags essid = [] then history
      else { history with key := history.key.map (SuppliedKey.bind (trimEssid flags essid)) }
  | .stop _ => .empty
  | _ => history

attribute [local simp] History.add

/-- The key for a network: the last one, if it is for no other. -/
def History.keyFor (history : History) (ssid : List Octet) : Option (List Octet) :=
  history.key.bind fun supplied =>
    if (supplied.bind ssid).ssid = some ssid then some supplied.key else none

structure Session where
  cfg : Cfg
  history : History

def sessionStep (session : Session) (call : Call) : Session :=
  ⟨answer session.cfg call, session.history.add call⟩

attribute [local simp] sessionStep

def SendsChannel (channel : Option Int) (requests : List Request) : Prop :=
  match channel with
  | some chan => ∃ ch : Nat, (ch : Int) = chan ∧ requests = [.setChannel ch]
  | none => requests = []

def keyRequest : Option (List Octet) → Request
  | some key => .setPmk (BitVec.ofNat 256 (keyValue key))
  | none => .setSecurityMode

/-- The request that ends an association, unless there is one already. -/
def reloads (cfg : Cfg) : List Request :=
  if cfg.vif.connected = true ∨ cfg.destroyInProgress = true then []
  else [.reloadSettings cfg.vif.fwVifIdx]

/-- The requests of an association with what the history says is current. -/
def Associates (session : Session) (ssid : List Octet) (sent : List Request) : Prop :=
  ∃ channel, SendsChannel session.history.channel channel ∧
    sent = session.cfg.sent ++ ([.setOpMode session.cfg.opmode, .setSsid ssid,
      .setBssid session.history.bssid] ++ channel ++ [keyRequest (session.history.keyFor ssid)]) ++
      reloads session.cfg

def CurrentSent (session : Session) : Call → Prop
  | .siwessid flags essid => trimEssid flags essid ≠ [] →
      Associates session (trimEssid flags essid)
        (sessionStep session (.siwessid flags essid)).cfg.sent
  | _ => True

/-- The channel fits the request, and without one none is left over. -/
def ChannelCurrent (session : Session) : Prop :=
  match session.history.channel with
  | some chan => 1 ≤ chan ∧ chan ≤ 255
  | none => session.cfg.vif.chHint = 0

attribute [local simp] ChannelCurrent

/-- The key is not all zeros and nothing of a longer one is left behind it, or
there is no key for the network and none in the field. -/
def KeyCurrent (session : Session) (ssid : List Octet) : Prop :=
  match session.history.keyFor ssid with
  | some key => keyValue key ≠ 0 ∧ session.cfg.vif.pmk.toNat < 256 ^ key.length
  | none => session.cfg.vif.pmk = 0

attribute [local simp] KeyCurrent

instance (session : Session) : Decidable (ChannelCurrent session) :=
  match found : session.history.channel with
  | some chan => decidable_of_iff (1 ≤ chan ∧ chan ≤ 255) (by simp [found])
  | none => decidable_of_iff (session.cfg.vif.chHint = 0) (by simp [found])

instance (session : Session) (ssid : List Octet) : Decidable (KeyCurrent session ssid) :=
  match found : session.history.keyFor ssid with
  | some key =>
      decidable_of_iff (keyValue key ≠ 0 ∧ session.cfg.vif.pmk.toNat < 256 ^ key.length)
        (by simp [found])
  | none => decidable_of_iff (session.cfg.vif.pmk = 0) (by simp [found])

def CurrentSafe (session : Session) : Call → Prop
  | .siwessid flags essid => trimEssid flags essid ≠ [] →
      ChannelCurrent session ∧ KeyCurrent session (trimEssid flags essid)
  | _ => True

/-! The key field as a number. -/

theorem keyValue_lt (key : List Octet) : keyValue key < 256 ^ key.length := by
  induction key with
  | nil => simp [keyValue]
  | cons byte rest ih =>
      have low : byte.toNat < 256 := byte.isLt
      simp only [keyValue, List.length_cons, Nat.pow_succ]
      omega

theorem overwrite_toNat (key : Key) (pmk : Pmk) :
    (overwrite key.1 pmk).toNat =
      keyValue key.1 + pmk.toNat / 256 ^ key.1.length * 256 ^ key.1.length := by
  have low := keyValue_lt key.1
  have positive : 0 < 256 ^ key.1.length := Nat.pow_pos (by decide)
  have bytes : 256 ^ 32 = 2 ^ 256 := by decide
  have whole : 256 ^ key.1.length * 256 ^ (32 - key.1.length) = 2 ^ 256 := by
    rw [← Nat.pow_add, Nat.add_sub_cancel' key.2, bytes]
  have high : pmk.toNat / 256 ^ key.1.length < 256 ^ (32 - key.1.length) := by
    apply Nat.div_lt_of_lt_mul
    rw [whole]
    exact pmk.isLt
  have room : (pmk.toNat / 256 ^ key.1.length + 1) * 256 ^ key.1.length ≤ 2 ^ 256 := by
    rw [← whole, Nat.mul_comm (256 ^ key.1.length)]
    exact Nat.mul_le_mul_right _ high
  rw [Nat.add_mul, Nat.one_mul] at room
  rw [overwrite, BitVec.toNat_ofNat, Nat.mod_eq_of_lt (by omega)]

theorem overwrite_low (key : Key) (pmk : Pmk) :
    (overwrite key.1 pmk).toNat % 256 ^ key.1.length = keyValue key.1 := by
  rw [overwrite_toNat, Nat.add_mul_mod_self_right, Nat.mod_eq_of_lt (keyValue_lt key.1)]

/-- The field holds the key alone when it has no byte past the key's end. -/
theorem pmk_exact_iff {key : List Octet} {pmk : Pmk} (short : key.length ≤ 32)
    (low : pmk.toNat % 256 ^ key.length = keyValue key) :
    pmk = BitVec.ofNat 256 (keyValue key) ↔ pmk.toNat < 256 ^ key.length := by
  have small := keyValue_lt key
  have fits : 256 ^ key.length ≤ 2 ^ 256 := by
    have all : 256 ^ key.length ≤ 256 ^ 32 := Nat.pow_le_pow_right (by decide) short
    exact all
  constructor
  · rintro rfl
    rw [BitVec.toNat_ofNat, Nat.mod_eq_of_lt (by omega)]
    exact small
  · intro bounded
    apply BitVec.eq_of_toNat_eq
    rw [BitVec.toNat_ofNat, Nat.mod_eq_of_lt (by omega), ← low, Nat.mod_eq_of_lt bounded]

/-! What the fields keep of the history. -/

structure Remembers (session : Session) : Prop where
  iftype : session.cfg.vif.iftype = .station
  opmode : session.cfg.opmode = .staOnly
  bssid : session.cfg.vif.reqBssid = session.history.bssid
  channel : ∀ chan, session.history.channel = some chan →
    session.cfg.vif.chHint = (chan % 65536).toNat
  noKey : session.history.key = none → session.cfg.vif.pmk = 0
  key : ∀ supplied, session.history.key = some supplied → supplied.key.length ≤ 32 ∧
    session.cfg.vif.pmk.toNat % 256 ^ supplied.key.length = keyValue supplied.key

/-- An operation that leaves the fields alone needs a history with the same key. -/
theorem remembers_kept {session : Session} {after : Cfg} (remembers : Remembers session)
    (kept : after.kept = session.cfg.kept) : Remembers ⟨after, session.history⟩ where
  iftype := (congrArg Kept.iftype kept).trans remembers.iftype
  opmode := (congrArg Kept.opmode kept).trans remembers.opmode
  bssid := (congrArg Kept.reqBssid kept).trans remembers.bssid
  channel chan found := (congrArg Kept.chHint kept).trans (remembers.channel chan found)
  noKey none := (congrArg Kept.pmk kept).trans (remembers.noKey none)
  key supplied found := by
    have same : after.vif.pmk = session.cfg.vif.pmk := congrArg Kept.pmk kept
    rw [same]
    exact remembers.key supplied found

theorem remembers_bind {cfg : Cfg} {history : History} (remembers : Remembers ⟨cfg, history⟩)
    (ssid : List Octet) :
    Remembers ⟨cfg, { history with key := history.key.map (SuppliedKey.bind ssid) }⟩ where
  iftype := remembers.iftype
  opmode := remembers.opmode
  bssid := remembers.bssid
  channel := remembers.channel
  noKey none := remembers.noKey (Option.map_eq_none_iff.mp none)
  key supplied found := by
    obtain ⟨before, present, rfl⟩ := Option.map_eq_some_iff.mp found
    exact remembers.key before present

theorem siwfreq_remembers {session : Session} (remembers : Remembers session) (m e : Int) :
    Remembers (sessionStep session (.siwfreq m e)) := by
  cases chosen : siwfreqChannel m e with
  | none =>
      have same : sessionStep session (.siwfreq m e) = session := by
        simp only [sessionStep, answer, mt7697WextSiwfreq, History.add, chosen]
        rfl
      rw [same]
      exact remembers
  | some chan =>
      have after : sessionStep session (.siwfreq m e) =
          ⟨{ session.cfg with
              vif := { session.cfg.vif with chHint := (chan % 65536).toNat } },
            { session.history with channel := some chan }⟩ := by
        simp only [sessionStep, answer, mt7697WextSiwfreq, History.add, chosen]
        rfl
      rw [after]
      refine { remembers with channel := fun other found => ?_ }
      obtain rfl : chan = other := Option.some.inj found
      rfl

theorem siwencodeext_remembers {session : Session} (remembers : Remembers session) (algPmk : Bool)
    (key : Key) : Remembers (sessionStep session (.siwencodeext algPmk key)) := by
  have supported : ¬ (session.cfg.vif.iftype ≠ .station ∧ session.cfg.vif.iftype ≠ .ap) :=
    fun both => both.1 remembers.iftype
  cases algPmk with
  | false =>
      have same : sessionStep session (.siwencodeext false key) = session := by
        simp only [sessionStep, answer, mt7697WextSiwencodeext, if_neg supported, History.add]
        rfl
      rw [same]
      exact remembers
  | true =>
      have after : sessionStep session (.siwencodeext true key) =
          ⟨{ session.cfg with
              vif := { session.cfg.vif with pmk := overwrite key.1 session.cfg.vif.pmk } },
            { session.history with key := some ⟨key.1, none⟩ }⟩ := by
        simp only [sessionStep, answer, mt7697WextSiwencodeext, if_neg supported, if_true,
          History.add]
      rw [after]
      refine { remembers with noKey := fun none => ?_, key := fun supplied found => ?_ }
      · exact absurd none (by simp)
      · obtain rfl : (⟨key.1, none⟩ : SuppliedKey) = supplied := Option.some.inj found
        exact ⟨key.2, overwrite_low key session.cfg.vif.pmk⟩

/-- A stop forgets the BSSID and the key with the history. -/
theorem stop_remembers {session : Session} (remembers : Remembers session) (close : Int) :
    Remembers (sessionStep session (.stop close)) := by
  have accept : PeersAccept ⟨0, fun _ => 0, 0, close⟩ session.cfg := by
    simp [PeersAccept, remembers.iftype]
  have reach := stop_reach ⟨0, fun _ => 0, 0, close⟩ session.cfg
  generalize kept : (mt7697Cfg80211Stop ⟨0, fun _ => 0, 0, close⟩ session.cfg).1.kept = after at reach
  cases reach with
  | peers refuse _ => exact absurd accept refuse
  | reset _ failed _ => exact absurd failed (by simp)
  | closed _ _ _ =>
      exact
        { iftype := congrArg Kept.iftype kept
          opmode := congrArg Kept.opmode kept
          bssid := congrArg Kept.reqBssid kept
          channel := fun _ found => absurd found (by simp [History.empty])
          noKey := fun _ => congrArg Kept.pmk kept
          key := fun _ found => absurd found (by simp [History.empty]) }

theorem sessionStep_remembers {session : Session} (remembers : Remembers session) (call : Call) :
    Remembers (sessionStep session call) := by
  cases call with
  | siwfreq m e => exact siwfreq_remembers remembers m e
  | siwap bssid => exact { remembers with bssid := rfl }
  | siwencodeext algPmk key => exact siwencodeext_remembers remembers algPmk key
  | siwessid flags essid =>
      have left := remembers_kept remembers
        (siwessid_kept flags essid ⟨0, 0, 0, 0, 0, 0, 0⟩ session.cfg)
      by_cases named : trimEssid flags essid = []
      · simp only [sessionStep, History.add, if_pos named]
        exact left
      · simp only [sessionStep, History.add, if_neg named]
        exact remembers_bind left _
  | disconnect interrupted =>
      exact remembers_kept remembers (cfg80211Disconnect_kept interrupted 0 session.cfg)
  | stop close => exact stop_remembers remembers close
  | «open» handle =>
      -- An open of a closed driver begins a new session; otherwise nothing is called.
      by_cases shut : session.cfg.opened = false ∧ handle = false
      · simp only [sessionStep, answer, mt7697Open, if_pos shut]
        exact remembers
      · simp only [sessionStep, answer, mt7697Open, if_neg shut]
        exact { remembers with }
  | connectInd ifIdx channel bssid lookups memory =>
      exact remembers_kept remembers (connectInd_station remembers.opmode)
  | disconnectInd ifIdx bssid =>
      exact remembers_kept remembers (disconnectInd_station remembers.opmode)

/-! What `siwessid` sends. -/

/-- The requests of `configureEssid` when none fails. -/
def configureRequests (cfg : Cfg) (essid : List Octet) : List Request :=
  [.setOpMode cfg.opmode, .setSsid essid, .setBssid cfg.vif.reqBssid] ++
    (if 0 < cfg.vif.chHint then [.setChannel (cfg.vif.chHint % 256)] else []) ++
    [if cfg.vif.pmk ≠ 0 then .setPmk cfg.vif.pmk else .setSecurityMode]

theorem configureEssid_accepted {essid : List Octet} {cfg : Cfg} (opmode : cfg.opmode = .staOnly)
    (named : essid ≠ []) :
    configureEssid essid ⟨0, 0, 0, 0, 0, 0, 0⟩ cfg =
      .ok { cfg with sent := cfg.sent ++ configureRequests cfg essid } := by
  by_cases hint : 0 < cfg.vif.chHint <;> by_cases key : cfg.vif.pmk = 0#256 <;>
    simp [configureEssid, configureRequests, writeIf, write, writeKey, named, opmode, hint, key]

theorem siwessid_sent {flags : Bool} {essid : List Octet} {cfg : Cfg} (iftype : cfg.vif.iftype = .station)
    (opmode : cfg.opmode = .staOnly) (named : trimEssid flags essid ≠ []) :
    (mt7697WextSiwessid flags essid ⟨0, 0, 0, 0, 0, 0, 0⟩ cfg).1.sent =
      cfg.sent ++ configureRequests cfg (trimEssid flags essid) ++ reloads cfg := by
  have supported : ¬ (cfg.vif.iftype ≠ .station ∧ cfg.vif.iftype ≠ .ap) := fun both => both.1 iftype
  rw [mt7697WextSiwessid, if_neg supported]
  change (finish (applyEssid _ _ (recordEssid (trimEssid flags essid) cfg))).1.sent = _
  have recorded : (recordEssid (trimEssid flags essid) cfg).opmode = .staOnly := opmode
  rw [applyEssid, configureEssid_accepted recorded named, ok_bind, if_pos named]
  by_cases connected : cfg.vif.connected = true <;>
    by_cases destroy : cfg.destroyInProgress = true <;>
    simp [recordEssid, configureRequests, startConnect, write, finish, reloads, Cfg.report,
      connected, destroy]

/-- The request for `ch_hint` is that of the channel when nothing is cut off. -/
theorem channelRequest_iff {session : Session} (remembers : Remembers session) :
    SendsChannel session.history.channel
        (if 0 < session.cfg.vif.chHint then [.setChannel (session.cfg.vif.chHint % 256)] else []) ↔
      ChannelCurrent session := by
  unfold SendsChannel ChannelCurrent
  cases last : session.history.channel with
  | none =>
      by_cases hint : 0 < session.cfg.vif.chHint
      · simp [hint, Nat.ne_of_gt hint]
      · simp [Nat.eq_zero_of_not_pos hint]
  | some chan =>
      -- The field has two bytes of the channel, the request one.
      have field : session.cfg.vif.chHint = (chan % 65536).toNat := remembers.channel chan last
      constructor
      · rintro ⟨ch, rfl, sent⟩
        by_cases hint : 0 < session.cfg.vif.chHint
        · rw [if_pos hint] at sent
          obtain whole : session.cfg.vif.chHint % 256 = ch := by simpa using sent
          omega
        · rw [if_neg hint] at sent
          exact absurd sent (by simp)
      · rintro ⟨positive, byte⟩
        have exact : session.cfg.vif.chHint = chan.toNat := by omega
        refine ⟨chan.toNat, Int.toNat_of_nonneg (by omega), ?_⟩
        rw [if_pos (by omega), exact, Nat.mod_eq_of_lt (by omega)]

theorem keyFor_supplied {history : History} {ssid key : List Octet}
    (found : history.keyFor ssid = some key) :
    ∃ supplied, history.key = some supplied ∧ supplied.key = key := by
  obtain ⟨supplied, last, own⟩ := Option.bind_eq_some_iff.mp found
  refine ⟨supplied, last, ?_⟩
  split_ifs at own
  exact Option.some.inj own

/-- The request for `pmk` is that of the key when the field holds it alone. -/
theorem keyRequest_iff {session : Session} (remembers : Remembers session) (ssid : List Octet) :
    (if session.cfg.vif.pmk ≠ 0 then .setPmk session.cfg.vif.pmk else .setSecurityMode) =
        keyRequest (session.history.keyFor ssid) ↔ KeyCurrent session ssid := by
  unfold KeyCurrent
  cases current : session.history.keyFor ssid with
  | none =>
      by_cases empty : session.cfg.vif.pmk = 0
      · simp [empty, keyRequest]
      · rw [if_pos empty]
        simp only [keyRequest, reduceCtorEq, empty]
  | some key =>
      obtain ⟨supplied, last, rfl⟩ := keyFor_supplied current
      obtain ⟨short, low⟩ := remembers.key supplied last
      by_cases empty : session.cfg.vif.pmk = 0
      · -- An empty field agrees with no key but the zero one.
        have zero : keyValue supplied.key = 0 := by simpa [empty] using low.symm
        simp [empty, keyRequest, zero]
      · simp only [if_pos empty, ← pmk_exact_iff short low]
        constructor
        · intro sent
          obtain same : session.cfg.vif.pmk = BitVec.ofNat 256 (keyValue supplied.key) := by
            simpa [keyRequest] using sent
          exact ⟨fun zero => empty (by rw [same, zero]; rfl), same⟩
        · rintro ⟨_, same⟩
          exact congrArg Request.setPmk same

theorem associates_iff {session : Session} (remembers : Remembers session) {flags : Bool}
    {essid : List Octet} (named : trimEssid flags essid ≠ []) :
    Associates session (trimEssid flags essid)
        (sessionStep session (.siwessid flags essid)).cfg.sent ↔
      ChannelCurrent session ∧ KeyCurrent session (trimEssid flags essid) := by
  have sent := siwessid_sent remembers.iftype remembers.opmode named
  unfold configureRequests at sent
  rw [remembers.bssid] at sent
  rw [← channelRequest_iff remembers, ← keyRequest_iff remembers]
  constructor
  · rintro ⟨channel, sends, same⟩
    have both := List.append_cancel_left (List.append_cancel_right (sent.symm.trans same))
    obtain ⟨requests, key⟩ := List.append_inj' both rfl
    obtain rfl := List.append_cancel_left requests
    exact ⟨sends, (List.cons.inj key).1⟩
  · rintro ⟨sends, key⟩
    refine ⟨_, sends, ?_⟩
    rw [← key]
    exact sent

theorem currentSent_iff {session : Session} (remembers : Remembers session) (call : Call) :
    CurrentSent session call ↔ CurrentSafe session call := by
  cases call with
  | siwessid flags essid =>
      constructor
      · exact fun current named => (associates_iff remembers named).mp (current named)
      · exact fun safe named => (associates_iff remembers named).mpr (safe named)
  | _ => exact Iff.rfl

theorem currentSent_along {session : Session} (remembers : Remembers session) (calls : List Call) :
    Along sessionStep CurrentSent session calls ↔ Along sessionStep CurrentSafe session calls :=
  along_iff (fun before => currentSent_iff before _)
    (fun before _ => sessionStep_remembers before _) remembers

/-- A station for which nothing has been supplied, as it starts and as every
stop leaves it. Its channel may be an old one. -/
structure Unsupplied (cfg : Cfg) : Prop where
  iftype : cfg.vif.iftype = .station
  opmode : cfg.opmode = .staOnly
  bssid : cfg.vif.reqBssid = 0
  pmk : cfg.vif.pmk = 0

theorem Unsupplied.remembers {cfg : Cfg} (unsupplied : Unsupplied cfg) :
    Remembers ⟨cfg, .empty⟩ where
  iftype := unsupplied.iftype
  opmode := unsupplied.opmode
  bssid := unsupplied.bssid
  channel _ found := absurd found (by simp [History.empty])
  noKey _ := unsupplied.pmk
  key _ found := absurd found (by simp [History.empty])

/-- Every association of a run uses what is current exactly when every channel
fits its byte and ends with a stop, and every key is set, fills the field up to
the longest one before it and is asked for by its own network alone. -/
theorem credentials_current_iff {cfg : Cfg} (unsupplied : Unsupplied cfg) (calls : List Call) :
    Along sessionStep CurrentSent ⟨cfg, .empty⟩ calls ↔
      Along sessionStep CurrentSafe ⟨cfg, .empty⟩ calls :=
  currentSent_along unsupplied.remembers calls

theorem idle_unsupplied : Unsupplied idle := ⟨rfl, rfl, rfl, rfl⟩

/-- The key, the channel and the access point of one network, twice. -/
theorem credentials_current_home :
    Along sessionStep CurrentSent ⟨idle, .empty⟩
      [.siwfreq 6 0, .siwap 5, .siwencodeext true ⟨[1, 2], by decide⟩, .siwessid true [109],
        .connectInd 0 6 5 ⟨true, true, true⟩ true, .disconnectInd 0 5, .siwessid true [109]] := by
  apply (credentials_current_iff idle_unsupplied _).mpr
  refine ⟨trivial, trivial, trivial, ?_, trivial, trivial, ?_, trivial⟩ <;>
    exact fun _ => ⟨by decide, by decide⟩

/-- A channel outlives a stop, a key its longer predecessor's end, and a key
goes to a second network. -/
theorem credentials_stale :
    ¬ Along sessionStep CurrentSent ⟨idle, .empty⟩
        [.siwfreq 6 0, .stop 0, .open true, .siwessid true [109]] ∧
      ¬ Along sessionStep CurrentSent ⟨idle, .empty⟩
        [.siwencodeext true ⟨[1, 2], by decide⟩, .siwencodeext true ⟨[3], by decide⟩,
          .siwessid true [109]] ∧
      ¬ Along sessionStep CurrentSent ⟨idle, .empty⟩
        [.siwencodeext true ⟨[1, 2], by decide⟩, .siwessid true [109], .siwessid true [110]] := by
  refine ⟨?_, ?_, ?_⟩ <;> rw [currentSent_along idle_unsupplied.remembers]
  · rintro ⟨-, -, -, last, -⟩
    exact absurd (last (by decide)).1 (by decide)
  · rintro ⟨-, -, last, -⟩
    exact absurd (last (by decide)).2 (by decide)
  · rintro ⟨-, -, last, -⟩
    exact absurd (last (by decide)).2 (by decide)

end MangOH.Station
