import Mathlib.Tactic.ByContra
import Mathlib.Tactic.SplitIfs

/-!
What `start_ap` asks the firmware for in place of the security that user space
requested. The mode is chosen from the version, and then rewritten by the key
management; both look at the first element of a list only. An unknown version
or cipher is an error, while an unknown key management makes the network open.
-/

namespace MangOH.AccessPoint

def einval : Int := 22
def enotsupp : Int := 524

abbrev Octet := BitVec 8
abbrev Suite := BitVec 32

def wlanCipherSuiteTkip : Suite := 0x000FAC02
def wlanCipherSuiteCcmp : Suite := 0x000FAC04
def wlanAkmSuite8021x : Suite := 0x000FAC01
def wlanAkmSuitePsk : Suite := 0x000FAC02

/-- The one key management that the driver knows and does not support. -/
def refusedSuite : Suite := 0x00409600

/-- `enum mt7697_wifi_auth_mode_t`. -/
inductive AuthMode where
  | open
  | shared
  | autoWep
  | wpa
  | wpaPsk
  | wpaNone
  | wpa2
  | wpa2Psk
  | wpaWpa2
  | wpaPskWpa2Psk
  deriving DecidableEq

/-- The values of `enum mt7697_wifi_encrypt_type_t` under one name each. -/
inductive EncryptType where
  | wepEnabled
  | encryptDisabled
  | encryptKeyAbsent
  | encryptNotSupported
  | tkipEnabled
  | aesEnabled
  | aesKeyAbsent
  | tkipAesMix
  | tkipAesKeyAbsent
  | groupWep40Enabled
  | groupWep104Enabled
  deriving DecidableEq

inductive Request where
  | setSsid (ssid : List Octet)
  | setChannel (ch : Nat)
  | setSecurityMode (authMode : AuthMode) (encryptType : EncryptType)
  | reloadSettings (ifIdx : Nat)
  deriving DecidableEq

/-- The fields of the interface and of `wifi_cfg.ap` that `start_ap` works on. -/
structure Ap where
  authMode : AuthMode
  prwiseCrypto : EncryptType
  prwiseCryptoLen : Nat
  grpCrypto : EncryptType
  grpCryptoLen : Nat
  chHint : Nat
  ssid : List Octet
  ch : Nat
  fwVifIdx : Nat
  sent : List Request

/-- `struct cfg80211_ap_settings`, with the channel that the kernel finds for
its frequency. -/
structure ApSettings where
  ssid : List Octet
  channel : Nat
  wpaVersions : BitVec 32
  akmSuites : List Suite
  ciphersPairwise : List Suite
  cipherGroup : Suite

/-- The cipher that `start_ap` looks at. -/
def ApSettings.pairwise (settings : ApSettings) : Suite := settings.ciphersPairwise.headD 0

structure ApWrites where
  setSsid : Int
  setChannel : Int
  setSecurityMode : Int
  reload : Int

abbrev Op := Except (Ap × Int) Ap

def finish : Op → Ap × Int
  | .ok ap => (ap, 0)
  | .error exit => exit

def write (ret : Int) (request : Request) (ap : Ap) : Op :=
  if ret < 0 then .error (ap, ret) else .ok { ap with sent := ap.sent ++ [request] }

/-- A mask that names both versions is taken for the second. -/
def versionMode (wpaVersion : BitVec 32) : Option AuthMode :=
  if wpaVersion = 0 then some .open
  else if wpaVersion &&& 2 ≠ 0 then some .wpa2
  else if wpaVersion &&& 1 ≠ 0 then some .wpa
  else none

def mt7697SetWpaVersion (wpaVersion : BitVec 32) (ap : Ap) : Op :=
  match versionMode wpaVersion with
  | some mode => .ok { ap with authMode := mode }
  | none => .error (ap, -enotsupp)

def cipherType (cipher : Suite) : Option EncryptType :=
  if cipher = 0 then some .encryptDisabled
  else if cipher = wlanCipherSuiteTkip then some .tkipEnabled
  else if cipher = wlanCipherSuiteCcmp then some .aesEnabled
  else none

def mt7697SetCipher (cipher : Suite) (ucast : Bool) (ap : Ap) : Op :=
  match cipherType cipher with
  | some type =>
      if ucast = true then .ok { ap with prwiseCrypto := type, prwiseCryptoLen := 0 }
      else .ok { ap with grpCrypto := type, grpCryptoLen := 0 }
  | none => .error (ap, -enotsupp)

/-- What the key management makes of the mode. One suite is refused, and the
rest of those that are not known open the network. -/
def keyMgmtMode (keyMgmt : Suite) (mode : AuthMode) : Option AuthMode :=
  if keyMgmt = wlanAkmSuitePsk then
    match mode with
    | .wpa => some .wpaPsk
    | .wpa2 => some .wpa2Psk
    | _ => some mode
  else if keyMgmt = refusedSuite then none
  else if keyMgmt ≠ wlanAkmSuite8021x then some .open
  else some mode

def mt7697SetKeyMgmt (keyMgmt : Suite) (ap : Ap) : Op :=
  match keyMgmtMode keyMgmt ap.authMode with
  | some mode => .ok { ap with authMode := mode }
  | none => .error (ap, -enotsupp)

/-- The fields are set one after the other, and a later one may be refused. -/
def setSecurity (settings : ApSettings) (ap : Ap) : Op := do
  let ap ← mt7697SetWpaVersion settings.wpaVersions ap
  let ap ← mt7697SetCipher settings.pairwise true ap
  let ap ← mt7697SetCipher settings.cipherGroup false ap
  match settings.akmSuites with
  | [] => .ok ap
  | akmSuite :: _ => mt7697SetKeyMgmt akmSuite ap

def mt7697Cfg80211StartAp (settings : ApSettings) (writes : ApWrites) (ap : Ap) : Ap × Int :=
  finish do
    let ap ← write writes.setSsid (.setSsid settings.ssid) ap
    let ap := { ap with ssid := settings.ssid, chHint := settings.channel % 65536 }
    if ap.chHint = 0 then .error (ap, -einval)
    else
      -- The request and the configuration take the channel as one byte.
      let ap ← write writes.setChannel (.setChannel (ap.chHint % 256)) ap
      let ap ← setSecurity settings { ap with ch := ap.chHint % 256 }
      let ap ← write writes.setSecurityMode (.setSecurityMode ap.authMode ap.prwiseCrypto) ap
      write writes.reload (.reloadSettings ap.fwVifIdx) ap

/-! What is requested of an access point, and what it may be given. -/

/-- The bit of a mode's version in the mask. -/
def AuthMode.version : AuthMode → BitVec 32
  | .wpa | .wpaPsk => 1
  | .wpa2 | .wpa2Psk => 2
  | _ => 0

def AuthMode.keyMgmt : AuthMode → Option Suite
  | .wpa | .wpa2 => some wlanAkmSuite8021x
  | .wpaPsk | .wpa2Psk => some wlanAkmSuitePsk
  | _ => none

def EncryptType.cipher : EncryptType → Option Suite
  | .tkipEnabled => some wlanCipherSuiteTkip
  | .aesEnabled => some wlanCipherSuiteCcmp
  | _ => none

structure MeetsMode (settings : ApSettings) (authMode : AuthMode) : Prop where
  unprotected : authMode = .open → settings.wpaVersions = 0
  version : authMode ≠ .open → settings.wpaVersions &&& authMode.version ≠ 0
  keyMgmt : authMode ≠ .open → ∃ suite ∈ settings.akmSuites, authMode.keyMgmt = some suite

structure Meets (settings : ApSettings) (authMode : AuthMode) (encryptType : EncryptType) : Prop
    extends MeetsMode settings authMode where
  disabled : encryptType = .encryptDisabled → settings.ciphersPairwise = []
  cipher : encryptType ≠ .encryptDisabled →
    ∃ suite ∈ settings.ciphersPairwise, encryptType.cipher = some suite

/-- The requests that the call adds meet what was asked for, or stop short of
the reload, and no earlier state of the access point shows in them. -/
def NeverWeaker (settings : ApSettings) (writes : ApWrites) (ap : Ap) : Prop :=
  ∃ new, (mt7697Cfg80211StartAp settings writes ap).1.sent = ap.sent ++ new ∧
    ((mt7697Cfg80211StartAp settings writes ap).2 < 0 ∧ (∀ ifIdx, .reloadSettings ifIdx ∉ new) ∨
      (∃ mode type, .setSecurityMode mode type ∈ new) ∧
        ∀ mode type, .setSecurityMode mode type ∈ new → Meets settings mode type) ∧
    ∀ other : Ap, other.fwVifIdx = ap.fwVifIdx →
      (mt7697Cfg80211StartAp settings writes other).1.sent = other.sent ++ new

/-- The call gets as far as the reload. -/
structure Completes (settings : ApSettings) (writes : ApWrites) : Prop where
  setSsid : 0 ≤ writes.setSsid
  channel : settings.channel % 65536 ≠ 0
  setChannel : 0 ≤ writes.setChannel
  version : versionMode settings.wpaVersions ≠ none
  pairwise : cipherType settings.pairwise ≠ none
  group : cipherType settings.cipherGroup ≠ none
  keyMgmt : settings.akmSuites.head? ≠ some refusedSuite
  setSecurityMode : 0 ≤ writes.setSecurityMode
  reload : 0 ≤ writes.reload

/-- A protected network names a key management that is known, and a list of
ciphers does not begin with none. -/
structure Recognised (settings : ApSettings) : Prop where
  keyMgmt : settings.wpaVersions ≠ 0 → settings.akmSuites.head? = some wlanAkmSuitePsk ∨
    settings.akmSuites.head? = some wlanAkmSuite8021x
  cipher : settings.ciphersPairwise.head? ≠ some 0

/-! The choice is a function of the settings alone. -/

def akmMode (akmSuites : List Suite) (mode : AuthMode) : Option AuthMode :=
  match akmSuites with
  | [] => some mode
  | akmSuite :: _ => keyMgmtMode akmSuite mode

def chosen (settings : ApSettings) : Option (AuthMode × EncryptType) :=
  (versionMode settings.wpaVersions).bind fun version =>
    (cipherType settings.pairwise).bind fun type =>
      (cipherType settings.cipherGroup).bind fun _ =>
        (akmMode settings.akmSuites version).map fun mode => (mode, type)

@[simp] theorem ok_bind (ap : Ap) (next : Ap → Op) : ((.ok ap : Op) >>= next) = next ap := rfl

@[simp] theorem error_bind (exit : Ap × Int) (next : Ap → Op) :
    ((.error exit : Op) >>= next) = .error exit := rfl

/-- The outcome of `setSecurity`: the chosen pair, or an error. -/
def Secures (chosen : Option (AuthMode × EncryptType)) (ap : Ap) (op : Op) : Prop :=
  match chosen with
  | some (mode, type) => ∃ after, op = .ok after ∧ after.authMode = mode ∧
      after.prwiseCrypto = type ∧ after.sent = ap.sent ∧ after.fwVifIdx = ap.fwVifIdx
  | none => ∃ after, op = .error (after, -enotsupp) ∧ after.sent = ap.sent

theorem setSecurity_secures (settings : ApSettings) (ap : Ap) :
    Secures (chosen settings) ap (setSecurity settings ap) := by
  unfold setSecurity mt7697SetWpaVersion mt7697SetCipher chosen
  cases version : versionMode settings.wpaVersions with
  | none => exact ⟨ap, rfl, rfl⟩
  | some mode =>
      simp only [Option.bind_some, ok_bind]
      cases pairwise : cipherType settings.pairwise with
      | none => exact ⟨_, rfl, rfl⟩
      | some type =>
          simp only [Option.bind_some, if_true, ok_bind]
          cases group : cipherType settings.cipherGroup with
          | none => exact ⟨_, rfl, rfl⟩
          | some other =>
              simp only [Option.bind_some, Bool.false_eq_true, if_false, ok_bind]
              cases suites : settings.akmSuites with
              | nil => exact ⟨_, rfl, rfl, rfl, rfl, rfl⟩
              | cons akmSuite rest =>
                  simp only [akmMode, mt7697SetKeyMgmt]
                  cases keyMgmtMode akmSuite mode with
                  | none => exact ⟨_, rfl, rfl⟩
                  | some final => exact ⟨_, rfl, rfl, rfl, rfl, rfl⟩

/-- The end of the call, from the choice on. -/
def ask (settings : ApSettings) (writes : ApWrites) (ap : Ap) : Op := do
  let ap ← setSecurity settings ap
  let ap ← write writes.setSecurityMode (.setSecurityMode ap.authMode ap.prwiseCrypto) ap
  write writes.reload (.reloadSettings ap.fwVifIdx) ap

def asked (settings : ApSettings) (writes : ApWrites) (ifIdx : Nat) : List Request :=
  match chosen settings with
  | none => []
  | some (mode, type) =>
      if writes.setSecurityMode < 0 then []
      else .setSecurityMode mode type :: if writes.reload < 0 then [] else [.reloadSettings ifIdx]

theorem ask_sent (settings : ApSettings) (writes : ApWrites) (ap : Ap) :
    (finish (ask settings writes ap)).1.sent = ap.sent ++ asked settings writes ap.fwVifIdx ∧
      ((finish (ask settings writes ap)).2 < 0 ↔
        (chosen settings = none ∨ writes.setSecurityMode < 0) ∨ writes.reload < 0) := by
  have secures := setSecurity_secures settings ap
  unfold ask asked
  cases choice : chosen settings with
  | none =>
      rw [choice] at secures
      obtain ⟨after, result, sent⟩ := secures
      simp [result, finish, sent, enotsupp]
  | some pair =>
      obtain ⟨mode, type⟩ := pair
      rw [choice] at secures
      obtain ⟨after, result, rfl, rfl, sent, ifIdx⟩ := secures
      by_cases mode : writes.setSecurityMode < 0
      · simp [result, write, mode, finish, sent]
      · by_cases reload : writes.reload < 0 <;>
          simp [result, write, mode, reload, finish, sent, ifIdx]

def requests (settings : ApSettings) (writes : ApWrites) (ifIdx : Nat) : List Request :=
  if writes.setSsid < 0 then []
  else
    .setSsid settings.ssid ::
      if settings.channel % 65536 = 0 ∨ writes.setChannel < 0 then []
      else
        .setChannel (settings.channel % 65536 % 256) :: asked settings writes ifIdx

theorem startAp_sent (settings : ApSettings) (writes : ApWrites) (ap : Ap) :
    (mt7697Cfg80211StartAp settings writes ap).1.sent =
        ap.sent ++ requests settings writes ap.fwVifIdx ∧
      ((mt7697Cfg80211StartAp settings writes ap).2 < 0 ↔
        writes.setSsid < 0 ∨ settings.channel % 65536 = 0 ∨ writes.setChannel < 0 ∨
          (chosen settings = none ∨ writes.setSecurityMode < 0) ∨ writes.reload < 0) := by
  unfold mt7697Cfg80211StartAp requests
  by_cases ssid : writes.setSsid < 0
  · simp [write, ssid, finish]
  by_cases channel : settings.channel % 65536 = 0
  · simp [write, ssid, channel, finish, einval]
  by_cases setChannel : writes.setChannel < 0
  · simp [write, ssid, channel, setChannel, finish]
  let before : Ap := { ap with
    ssid := settings.ssid, chHint := settings.channel % 65536, ch := settings.channel % 65536 % 256
    sent := ap.sent ++ [.setSsid settings.ssid] ++ [.setChannel (settings.channel % 65536 % 256)] }
  obtain ⟨sent, sign⟩ := ask_sent settings writes before
  simp only [write, ok_bind, ssid, channel, setChannel, false_or, or_self, if_false]
  refine ⟨sent.trans ?_, sign⟩
  simp [before]

/-! The choice meets the settings just when both lists begin with what is known. -/

theorem cipher_meets_iff {ciphers : List Suite} {type : EncryptType}
    (choice : cipherType (ciphers.headD 0) = some type) :
    ((type = .encryptDisabled → ciphers = []) ∧
        (type ≠ .encryptDisabled → ∃ suite ∈ ciphers, type.cipher = some suite)) ↔
      ciphers.head? ≠ some 0 := by
  cases ciphers with
  | nil =>
      obtain rfl : EncryptType.encryptDisabled = type := Option.some.inj choice
      simp
  | cons cipher rest =>
      have choice : cipherType cipher = some type := choice
      unfold cipherType at choice
      split_ifs at choice with zero tkip ccmp
      · obtain rfl := Option.some.inj choice
        simp [zero]
      · obtain rfl := Option.some.inj choice
        simp [tkip, EncryptType.cipher, wlanCipherSuiteTkip]
      · obtain rfl := Option.some.inj choice
        simp [ccmp, EncryptType.cipher, wlanCipherSuiteCcmp]

/-- A network without a version is open, and no key management changes that. -/
theorem akmMode_open {akmSuites : List Suite} {mode : AuthMode}
    (choice : akmMode akmSuites .open = some mode) : mode = .open := by
  cases akmSuites with
  | nil => exact (Option.some.inj choice).symm
  | cons akmSuite rest =>
      simp only [akmMode, keyMgmtMode] at choice
      split_ifs at choice <;> exact (Option.some.inj choice).symm

theorem versionMode_protected {wpaVersions : BitVec 32} {version : AuthMode}
    (choice : versionMode wpaVersions = some version) (versioned : wpaVersions ≠ 0) :
    version = .wpa2 ∧ wpaVersions &&& 2 ≠ 0 ∨ version = .wpa ∧ wpaVersions &&& 1 ≠ 0 := by
  unfold versionMode at choice
  split_ifs at choice with unversioned second first
  · exact absurd unversioned versioned
  · exact Or.inl ⟨(Option.some.inj choice).symm, second⟩
  · exact Or.inr ⟨(Option.some.inj choice).symm, first⟩

theorem keyMgmt_known {mode : AuthMode} {suite : Suite} (named : mode.keyMgmt = some suite) :
    mode ≠ .open ∧ (suite = wlanAkmSuitePsk ∨ suite = wlanAkmSuite8021x) := by
  cases mode <;> simp_all [AuthMode.keyMgmt, eq_comm]

/-- The mode has the suite's key management, or the suite is unknown. -/
theorem keyMgmtMode_cases {akmSuite : Suite} {version mode : AuthMode}
    (wpa : version = .wpa2 ∨ version = .wpa)
    (choice : keyMgmtMode akmSuite version = some mode) :
    mode.keyMgmt = some akmSuite ∧ mode.version = version.version ∨
      akmSuite ≠ wlanAkmSuitePsk ∧ akmSuite ≠ wlanAkmSuite8021x ∧ mode = .open := by
  unfold keyMgmtMode at choice
  split_ifs at choice with psk refused other
  · rcases wpa with rfl | rfl
    · obtain rfl : AuthMode.wpa2Psk = mode := Option.some.inj choice
      exact Or.inl ⟨by rw [psk]; rfl, rfl⟩
    · obtain rfl : AuthMode.wpaPsk = mode := Option.some.inj choice
      exact Or.inl ⟨by rw [psk]; rfl, rfl⟩
  · obtain rfl := Option.some.inj choice
    exact Or.inr ⟨psk, other, rfl⟩
  · obtain rfl := Option.some.inj choice
    have eap : akmSuite = wlanAkmSuite8021x := Decidable.not_not.mp other
    rcases wpa with rfl | rfl
    · exact Or.inl ⟨by rw [eap]; rfl, rfl⟩
    · exact Or.inl ⟨by rw [eap]; rfl, rfl⟩

theorem mode_meets_iff {settings : ApSettings} {version mode : AuthMode}
    (first : versionMode settings.wpaVersions = some version)
    (second : akmMode settings.akmSuites version = some mode) :
    MeetsMode settings mode ↔
      (settings.wpaVersions ≠ 0 → settings.akmSuites.head? = some wlanAkmSuitePsk ∨
        settings.akmSuites.head? = some wlanAkmSuite8021x) := by
  by_cases unversioned : settings.wpaVersions = 0
  · have start : version = .open := by
      rw [unversioned] at first
      exact (Option.some.inj first).symm
    obtain rfl := akmMode_open (start ▸ second)
    refine iff_of_true ⟨fun _ => unversioned, ?_, ?_⟩ (fun versioned => absurd unversioned versioned)
    · exact fun other => absurd rfl other
    · exact fun other => absurd rfl other
  · have known := versionMode_protected first unversioned
    have bit : settings.wpaVersions &&& version.version ≠ 0 := by
      rcases known with ⟨rfl, bit⟩ | ⟨rfl, bit⟩
      · exact bit
      · exact bit
    have either : version = .wpa2 ∨ version = .wpa := known.imp And.left And.left
    cases suites : settings.akmSuites with
    | nil =>
        -- The mode stays an enterprise mode that nobody asked for.
        have same : version = mode := by
          rw [suites] at second
          exact Option.some.inj second
        have closed : mode ≠ .open := by
          rcases either with rfl | rfl <;> simp [← same]
        refine iff_of_false (fun meets => ?_) (fun named => ?_)
        · obtain ⟨suite, member, _⟩ := meets.keyMgmt closed
          simp [suites] at member
        · simpa using named unversioned
    | cons akmSuite rest =>
        have choice : keyMgmtMode akmSuite version = some mode := by
          rw [suites] at second
          exact second
        rcases keyMgmtMode_cases either choice with ⟨named, same⟩ | ⟨psk, eap, rfl⟩
        · obtain ⟨closed, known⟩ := keyMgmt_known named
          refine iff_of_true ⟨fun unprotected => absurd unprotected closed, ?_, ?_⟩ (fun _ => ?_)
          · exact fun _ => same ▸ bit
          · exact fun _ => ⟨akmSuite, by simp [suites], named⟩
          · exact known.imp (congrArg some) (congrArg some)
        · refine iff_of_false (fun meets => unversioned (meets.unprotected rfl)) (fun named => ?_)
          rcases named unversioned with first | second
          · exact psk (Option.some.inj first)
          · exact eap (Option.some.inj second)

theorem chosen_some {settings : ApSettings} {mode : AuthMode} {type : EncryptType}
    (choice : chosen settings = some (mode, type)) :
    ∃ version, versionMode settings.wpaVersions = some version ∧
      cipherType settings.pairwise = some type ∧
      akmMode settings.akmSuites version = some mode := by
  simp only [chosen, Option.bind_eq_some_iff, Option.map_eq_some_iff] at choice
  obtain ⟨version, first, _, pairwise, _, _, _, second, pair⟩ := choice
  obtain ⟨rfl, rfl⟩ := Prod.mk.inj pair
  exact ⟨version, first, pairwise, second⟩

theorem meets_iff {settings : ApSettings} {mode : AuthMode} {type : EncryptType}
    (choice : chosen settings = some (mode, type)) :
    Meets settings mode type ↔ Recognised settings := by
  obtain ⟨version, first, pairwise, second⟩ := chosen_some choice
  have modes := mode_meets_iff first second
  have ciphers := cipher_meets_iff pairwise
  constructor
  · intro meets
    exact ⟨modes.mp meets.toMeetsMode, ciphers.mp ⟨meets.disabled, meets.cipher⟩⟩
  · intro recognised
    have both := ciphers.mpr recognised.cipher
    exact { toMeetsMode := modes.mpr recognised.keyMgmt, disabled := both.1, cipher := both.2 }

theorem akmMode_none {akmSuites : List Suite} {version : AuthMode} :
    akmMode akmSuites version = none ↔ akmSuites.head? = some refusedSuite := by
  cases akmSuites with
  | nil => simp [akmMode]
  | cons akmSuite rest =>
      simp only [akmMode, keyMgmtMode, List.head?_cons, Option.some.injEq]
      split_ifs with psk refused other
      · have other : wlanAkmSuitePsk ≠ refusedSuite := by decide
        cases version <;> simp [psk, other]
      · simp [refused]
      · simp [refused]
      · simp [refused]

theorem chosen_none {settings : ApSettings} :
    chosen settings = none ↔ versionMode settings.wpaVersions = none ∨
      cipherType settings.pairwise = none ∨
      cipherType settings.cipherGroup = none ∨ settings.akmSuites.head? = some refusedSuite := by
  unfold chosen
  cases versionMode settings.wpaVersions with
  | none => simp
  | some version =>
      cases cipherType settings.pairwise with
      | none => simp
      | some type =>
          cases cipherType settings.cipherGroup with
          | none => simp
          | some other => simp [akmMode_none]

theorem startAp_fails_iff (settings : ApSettings) (writes : ApWrites) (ap : Ap) :
    (mt7697Cfg80211StartAp settings writes ap).2 < 0 ↔ ¬ Completes settings writes := by
  rw [(startAp_sent settings writes ap).2, chosen_none]
  constructor
  · rintro failed ⟨ssid, channel, setChannel, version, pairwise, group, keyMgmt, mode, reload⟩
    simp only [channel, version, pairwise, group, keyMgmt, or_self, false_or] at failed
    omega
  · intro stops
    by_contra passes
    simp only [not_or, Int.not_lt] at passes
    obtain ⟨ssid, channel, setChannel, ⟨⟨version, pairwise, group, keyMgmt⟩, mode⟩, reload⟩ := passes
    exact stops ⟨ssid, channel, setChannel, version, pairwise, group, keyMgmt, mode, reload⟩

theorem requests_complete {settings : ApSettings} {writes : ApWrites}
    (completes : Completes settings writes) (ifIdx : Nat) :
    ∃ mode type, chosen settings = some (mode, type) ∧
      requests settings writes ifIdx =
        [.setSsid settings.ssid, .setChannel (settings.channel % 65536 % 256),
          .setSecurityMode mode type, .reloadSettings ifIdx] := by
  obtain ⟨ssid, channel, setChannel, version, pairwise, group, keyMgmt, mode, reload⟩ := completes
  have choice : chosen settings ≠ none := by
    rw [Ne, chosen_none]
    simp only [version, pairwise, group, keyMgmt, or_self, not_false_eq_true]
  cases pair : chosen settings with
  | none => exact absurd pair choice
  | some chosen =>
      refine ⟨chosen.1, chosen.2, rfl, ?_⟩
      simp only [requests, asked, pair, if_neg (Int.not_lt.mpr ssid), channel,
        Int.not_lt.mpr setChannel, or_self, if_false, if_neg (Int.not_lt.mpr mode),
        if_neg (Int.not_lt.mpr reload)]

theorem requests_stop {settings : ApSettings} {writes : ApWrites}
    (stops : ¬ Completes settings writes) (ifIdx other : Nat) :
    .reloadSettings other ∉ requests settings writes ifIdx := by
  intro member
  by_cases ssid : writes.setSsid < 0
  · simp [requests, ssid] at member
  by_cases early : settings.channel % 65536 = 0 ∨ writes.setChannel < 0
  · simp [requests, ssid, early] at member
  cases choice : chosen settings with
  | none => simp [requests, ssid, early, asked, choice] at member
  | some pair =>
      by_cases mode : writes.setSecurityMode < 0
      · simp [requests, ssid, early, asked, choice, mode] at member
      by_cases reload : writes.reload < 0
      · simp [requests, ssid, early, asked, choice, mode, reload] at member
      have parts : chosen settings ≠ none := by simp [choice]
      rw [Ne, chosen_none] at parts
      simp only [not_or] at parts
      obtain ⟨version, pairwise, group, keyMgmt⟩ := parts
      obtain ⟨channel, setChannel⟩ := not_or.mp early
      exact stops ⟨Int.not_lt.mp ssid, channel, Int.not_lt.mp setChannel, version, pairwise, group,
        keyMgmt, Int.not_lt.mp mode, Int.not_lt.mp reload⟩

/-- A call that gets as far as the reload asks for no less than was requested
just when it knows what it is given; all others stop before the reload. -/
theorem startAp_neverWeaker_iff (settings : ApSettings) (writes : ApWrites) (ap : Ap) :
    NeverWeaker settings writes ap ↔ (Completes settings writes → Recognised settings) := by
  have sent := (startAp_sent settings writes ap).1
  constructor
  · rintro ⟨new, added, outcome, _⟩ completes
    obtain ⟨mode, type, choice, whole⟩ := requests_complete completes ap.fwVifIdx
    have same : new = requests settings writes ap.fwVifIdx :=
      List.append_cancel_left (added.symm.trans sent)
    rw [same, whole] at outcome
    rcases outcome with ⟨failed, _⟩ | ⟨_, meets⟩
    · exact absurd completes ((startAp_fails_iff settings writes ap).mp failed)
    · exact (meets_iff choice).mp (meets mode type (by simp))
  · intro recognised
    refine ⟨requests settings writes ap.fwVifIdx, sent, ?_, fun other same => ?_⟩
    · by_cases completes : Completes settings writes
      · obtain ⟨mode, type, choice, whole⟩ := requests_complete completes ap.fwVifIdx
        have meets : Meets settings mode type := (meets_iff choice).mpr (recognised completes)
        rw [whole]
        refine Or.inr ⟨⟨mode, type, by simp⟩, fun otherMode otherType member => ?_⟩
        obtain ⟨rfl, rfl⟩ : otherMode = mode ∧ otherType = type := by simpa using member
        exact meets
      · exact Or.inl ⟨(startAp_fails_iff settings writes ap).mpr completes,
          fun other => requests_stop completes ap.fwVifIdx other⟩
    · rw [(startAp_sent settings writes other).1, same]

/-- An access point that has never been started. -/
def unstarted : Ap where
  authMode := .open
  prwiseCrypto := .wepEnabled
  prwiseCryptoLen := 0
  grpCrypto := .wepEnabled
  grpCryptoLen := 0
  chHint := 0
  ssid := []
  ch := 0
  fwVifIdx := 0
  sent := []

/-- WPA2 with CCMP on channel 6, and the key managements to choose from. -/
def guarded (akmSuites : List Suite) : ApSettings where
  ssid := [109]
  channel := 6
  wpaVersions := 2
  akmSuites := akmSuites
  ciphersPairwise := [wlanCipherSuiteCcmp]
  cipherGroup := wlanCipherSuiteCcmp

example : (mt7697Cfg80211StartAp (guarded [wlanAkmSuitePsk]) ⟨0, 0, 0, 0⟩ unstarted).1.sent =
    [.setSsid [109], .setChannel 6, .setSecurityMode .wpa2Psk .aesEnabled, .reloadSettings 0] := by
  decide

/-- A PSK network with SHA-256 first in its list is started open, one that
names no key management as an enterprise network. -/
theorem startAp_weaker :
    (mt7697Cfg80211StartAp (guarded [0x000FAC06, wlanAkmSuitePsk]) ⟨0, 0, 0, 0⟩ unstarted).1.sent =
        [.setSsid [109], .setChannel 6, .setSecurityMode .open .aesEnabled, .reloadSettings 0] ∧
      ¬ NeverWeaker (guarded [0x000FAC06, wlanAkmSuitePsk]) ⟨0, 0, 0, 0⟩ unstarted ∧
      ¬ NeverWeaker (guarded []) ⟨0, 0, 0, 0⟩ unstarted := by
  refine ⟨by decide, ?_, ?_⟩
  · rintro ⟨new, added, ⟨failed, _⟩ | ⟨_, meets⟩, _⟩
    · exact absurd failed (by decide)
    · have member : Request.setSecurityMode .open .aesEnabled ∈ new := by
        have sent : [.setSsid [109], .setChannel 6, .setSecurityMode .open .aesEnabled,
            .reloadSettings 0] = new := added
        simp [← sent]
      exact absurd ((meets _ _ member).unprotected rfl) (by decide)
  · rintro ⟨new, added, ⟨failed, _⟩ | ⟨_, meets⟩, _⟩
    · exact absurd failed (by decide)
    · have member : Request.setSecurityMode .wpa2 .aesEnabled ∈ new := by
        have sent : [.setSsid [109], .setChannel 6, .setSecurityMode .wpa2 .aesEnabled,
            .reloadSettings 0] = new := added
        simp [← sent]
      obtain ⟨suite, none, _⟩ := (meets _ _ member).keyMgmt (by decide)
      simp [guarded] at none

end MangOH.AccessPoint
