import MangOH.QueueMemory

/-!
The bytes of the requests to the firmware. A sender stores the fields of a
packed structure into memory that holds something else, the stack or the packet
sent before, and hands the words of the structure to `write`.
-/

namespace MangOH.RequestBytes

open QueueMemory

/-- The memory from the start of a structure on. -/
def Bytes : Type := Nat → BitVec 8

def Bytes.put (offset : Nat) (values : List (BitVec 8)) (bytes : Bytes) : Bytes := fun index =>
  if offset ≤ index ∧ index < offset + values.length then values.getD (index - offset) 0
  else bytes index

/-- The values of a little-endian host. -/
def le16 (value : BitVec 16) : List (BitVec 8) := [value.setWidth 8, (value >>> 8).setWidth 8]

def le32 (value : BitVec 32) : List (BitVec 8) :=
  [value.setWidth 8, (value >>> 8).setWidth 8, (value >>> 16).setWidth 8, (value >>> 24).setWidth 8]

def Bytes.put32 (offset : Nat) (value : BitVec 32) : Bytes → Bytes := .put offset (le32 value)

/-- `source` is the memory at the pointer that `memcpy` is given. -/
def memcpy (offset : Nat) (source : Nat → BitVec 8) (count : Nat) : Bytes → Bytes :=
  .put offset ((List.range count).map source)

def memset (count : Nat) : Bytes → Bytes := .put 0 (List.replicate count 0)

def Bytes.word (bytes : Bytes) (index : Nat) : BitVec 32 :=
  bytes (4 * index + 3) ++ bytes (4 * index + 2) ++ bytes (4 * index + 1) ++ bytes (4 * index)

def Bytes.words (count : Nat) (bytes : Bytes) : List (BitVec 32) := (List.range count).map bytes.word

inductive CmdType where
  | macAddrReq
  | getCfgReq
  | getWirelessModeReq
  | setWirelessModeReq
  | setOpModeReq
  | getListenIntervalReq
  | setListenIntervalReq
  | setSecurityModeReq
  | getSecurityModeReq
  | scanReq
  | scanStop
  | setPmkReq
  | setChannelReq
  | setBssidReq
  | setSsidReq
  | reloadSettingsReq
  | disconnectReq
  | txRaw

def CmdType.code : CmdType → BitVec 8
  | .macAddrReq => 0
  | .getCfgReq => 2
  | .getWirelessModeReq => 4
  | .setWirelessModeReq => 6
  | .setOpModeReq => 8
  | .getListenIntervalReq => 10
  | .setListenIntervalReq => 12
  | .setSecurityModeReq => 14
  | .getSecurityModeReq => 16
  | .scanReq => 19
  | .scanStop => 22
  | .setPmkReq => 24
  | .setChannelReq => 26
  | .setBssidReq => 28
  | .setSsidReq => 30
  | .reloadSettingsReq => 32
  | .disconnectReq => 36
  | .txRaw => 38

def cmdGrp80211 : BitVec 8 := 2

/-- `struct mt7697_cmd_hdr`. -/
def cmdHdr (len : Nat) (type : CmdType) : Bytes → Bytes :=
  .put 0 (le16 (BitVec.ofNat 16 len) ++ [cmdGrp80211, type.code])

def ethAlen : Nat := 6

def maxSsidLen : Nat := 32

/-- The fields of the configuration that requests are made from. -/
structure Cfg where
  portType : BitVec 32
  opmode : BitVec 8

def portSta : BitVec 32 := 0
def portAp : BitVec 32 := 1

/-! The senders, on the memory of their structure. What they return are the
words that `write` gets. -/

/-- A command header and fields of one word each. -/
def putFields : Nat → List (BitVec 32) → Bytes → Bytes
  | _, [], bytes => bytes
  | offset, field :: rest, bytes => putFields (offset + 4) rest (bytes.put32 offset field)

def fixedReq (type : CmdType) (fields : List (BitVec 32)) (req : Bytes) : List (BitVec 32) :=
  (putFields 4 fields (cmdHdr (4 + 4 * fields.length) type req)).words
    (lenToWord (4 + 4 * fields.length))

def mt7697WrGetWirelessModeReq (cfg : Cfg) : Bytes → List (BitVec 32) :=
  fixedReq .getWirelessModeReq [cfg.portType]

def mt7697WrSetWirelessModeReq (cfg : Cfg) (mode : BitVec 8) : Bytes → List (BitVec 32) :=
  fixedReq .setWirelessModeReq [cfg.portType, mode.setWidth 32]

def mt7697WrSetChannelReq (cfg : Cfg) (ch : BitVec 8) : Bytes → List (BitVec 32) :=
  fixedReq .setChannelReq [cfg.portType, ch.setWidth 32]

def mt7697WrReloadSettingsReq (ifIdx : BitVec 8) : Bytes → List (BitVec 32) :=
  fixedReq .reloadSettingsReq [ifIdx.setWidth 32]

def mt7697WrMacAddrReq (cfg : Cfg) : Bytes → List (BitVec 32) := fixedReq .macAddrReq [cfg.portType]

def mt7697WrSetOpModeReq (cfg : Cfg) : Bytes → List (BitVec 32) :=
  fixedReq .setOpModeReq [cfg.opmode.setWidth 32]

def mt7697WrCfgReq : Bytes → List (BitVec 32) := fixedReq .getCfgReq []

def mt7697WrGetListenIntervalReq : Bytes → List (BitVec 32) := fixedReq .getListenIntervalReq []

def mt7697WrSetListenIntervalReq (interval : BitVec 32) : Bytes → List (BitVec 32) :=
  fixedReq .setListenIntervalReq [interval]

def mt7697WrSetSecurityModeReq (cfg : Cfg) (authMode encryptType : BitVec 8) :
    Bytes → List (BitVec 32) :=
  fixedReq .setSecurityModeReq [cfg.portType, authMode.setWidth 32, encryptType.setWidth 32]

def mt7697WrGetSecurityModeReq (cfg : Cfg) (ifIdx : BitVec 32) : Bytes → List (BitVec 32) :=
  fixedReq .getSecurityModeReq [ifIdx, cfg.portType]

def mt7697WrScanStopReq : Bytes → List (BitVec 32) := fixedReq .scanStop []

def hexDigit (value : Nat) : BitVec 8 := BitVec.ofNat 8 (if value < 10 then 48 + value else 87 + value)

/-- "%02x" of each byte of the key. -/
def hexOf (byte : BitVec 8) : List (BitVec 8) := [hexDigit (byte.toNat / 16), hexDigit (byte.toNat % 16)]

def lengthPmk : Nat := 32

def mt7697WrSetPmkReq (cfg : Cfg) (pmk : Nat → BitVec 8) (req : Bytes) : List (BitVec 32) :=
  let req := (cmdHdr 72 .setPmkReq req).put32 4 cfg.portType
  let req := req.put 8 ((List.range lengthPmk).flatMap fun index => hexOf (pmk index))
  req.words (lenToWord 72)

/-- The field has eight bytes, and six of them are copied. -/
def mt7697WrSetBssidReq (bssid : Nat → BitVec 8) (req : Bytes) : List (BitVec 32) :=
  (memcpy 4 bssid ethAlen (cmdHdr 12 .setBssidReq req)).words (lenToWord 12)

/-- The field has 32 bytes. What `memcpy` writes after it is not in the request. -/
def mt7697WrSetSsidReq (cfg : Cfg) (len : BitVec 8) (ssid : Nat → BitVec 8) (req : Bytes) :
    List (BitVec 32) :=
  let req := ((cmdHdr 44 .setSsidReq req).put32 4 cfg.portType).put32 8 (len.setWidth 32)
  (memcpy 12 ssid len.toNat req).words (lenToWord 44)

/-- The first SSID of the request of user space, when it has one. -/
def mt7697WrScanReq (ifIdx : BitVec 32) (ssid : Option (BitVec 8 × (Nat → BitVec 8))) (req : Bytes) :
    List (BitVec 32) :=
  let req := (cmdHdr 64 .scanReq (memset 64 req)).put32 4 ifIdx
  let req := (req.put32 8 0).put32 12 2
  let req := match ssid with
    | none => req
    | some (len, bytes) => memcpy 32 bytes len.toNat (req.put32 28 (len.setWidth 32))
  req.words (lenToWord 64)

def mt7697WrDisconnectReq (addr : Option (Nat → BitVec 8)) (req : Bytes) : List (BitVec 32) :=
  let req := cmdHdr 16 .disconnectReq (memset 16 req)
  let req := match addr with
    | some addr => memcpy 8 addr ethAlen (req.put32 4 portAp)
    | none => req.put32 4 portSta
  req.words (lenToWord 16)

/-- `mt7697_probe` and its callees set the group and the type of `cfg->tx_req` for good. -/
def prepared (txReq : Bytes) : Bytes := txReq.put 2 [cmdGrp80211, CmdType.txRaw.code]

def mt7697WrTxRawPacket (data : Nat → BitVec 8) (len : BitVec 32) (txReq : Bytes) :
    List (BitVec 32) :=
  let cmdLen := BitVec.ofNat 16 (8 + len.toNat)
  let txReq := memcpy 8 data len.toNat ((txReq.put 0 (le16 cmdLen)).put32 4 len)
  txReq.words (lenToWord (len32Aligned cmdLen.toNat))

/-! All senders, with their arguments. -/

inductive Request where
  | getWirelessMode
  | setWirelessMode (mode : BitVec 8)
  | setPmk (pmk : Nat → BitVec 8)
  | setChannel (ch : BitVec 8)
  | setBssid (bssid : Nat → BitVec 8)
  | setSsid (len : BitVec 8) (ssid : Nat → BitVec 8)
  | reloadSettings (ifIdx : BitVec 8)
  | macAddr
  | setOpMode
  | cfg
  | getListenInterval
  | setListenInterval (interval : BitVec 32)
  | setSecurityMode (authMode encryptType : BitVec 8)
  | getSecurityMode (ifIdx : BitVec 32)
  | scan (ifIdx : BitVec 32) (ssid : Option (BitVec 8 × (Nat → BitVec 8)))
  | scanStop
  | disconnect (addr : Option (Nat → BitVec 8))
  | txRaw (data : Nat → BitVec 8) (len : BitVec 32)

/-- What the memory held before the call. -/
structure Prior where
  stack : Bytes
  txReq : Bytes

def sent (cfg : Cfg) (request : Request) (prior : Prior) : List (BitVec 32) :=
  match request with
  | .getWirelessMode => mt7697WrGetWirelessModeReq cfg prior.stack
  | .setWirelessMode mode => mt7697WrSetWirelessModeReq cfg mode prior.stack
  | .setPmk pmk => mt7697WrSetPmkReq cfg pmk prior.stack
  | .setChannel ch => mt7697WrSetChannelReq cfg ch prior.stack
  | .setBssid bssid => mt7697WrSetBssidReq bssid prior.stack
  | .setSsid len ssid => mt7697WrSetSsidReq cfg len ssid prior.stack
  | .reloadSettings ifIdx => mt7697WrReloadSettingsReq ifIdx prior.stack
  | .macAddr => mt7697WrMacAddrReq cfg prior.stack
  | .setOpMode => mt7697WrSetOpModeReq cfg prior.stack
  | .cfg => mt7697WrCfgReq prior.stack
  | .getListenInterval => mt7697WrGetListenIntervalReq prior.stack
  | .setListenInterval interval => mt7697WrSetListenIntervalReq interval prior.stack
  | .setSecurityMode authMode encryptType =>
      mt7697WrSetSecurityModeReq cfg authMode encryptType prior.stack
  | .getSecurityMode ifIdx => mt7697WrGetSecurityModeReq cfg ifIdx prior.stack
  | .scan ifIdx ssid => mt7697WrScanReq ifIdx ssid prior.stack
  | .scanStop => mt7697WrScanStopReq prior.stack
  | .disconnect addr => mt7697WrDisconnectReq addr prior.stack
  | .txRaw data len => mt7697WrTxRawPacket data len (prepared prior.txReq)

/-- `cmd.len` of the words of a request. -/
def cmdLen (words : List (BitVec 32)) : Nat := ((words.headD 0).setWidth 16).toNat

/-- The words depend on nothing that was in the memory, and are as many as the header says. -/
structure OnlyRequest (cfg : Cfg) (request : Request) : Prop where
  determined : ∀ prior prior', sent cfg request prior = sent cfg request prior'
  counted : ∀ prior, (sent cfg request prior).length = lenToWord (cmdLen (sent cfg request prior))

/-- `IEEE80211_MAX_FRAME_LEN` bounds a packet. -/
def maxFrameLen : Nat := 2352

def Request.Fits : Request → Prop
  | .txRaw _ len => len.toNat ≤ maxFrameLen
  | _ => True

/-- Whether the fields of the structure and the copied bytes fill its words. -/
def Request.Fills : Request → Prop
  | .setBssid _ => False
  | .setSsid len _ => maxSsidLen ≤ len.toNat
  | .txRaw _ len => len.toNat % 4 = 0
  | _ => True

/-! What is the same in two memories, and what a store adds to it. -/

def AgreeUpTo (count : Nat) (left right : Bytes) : Prop :=
  ∀ index, index < count → left index = right index

variable {left right bytes : Bytes} {count offset len : Nat} {values : List (BitVec 8)}

theorem agreeUpTo_zero : AgreeUpTo 0 left right := by
  intro index below
  omega

theorem agreeUpTo_mono {less : Nat} (agree : AgreeUpTo count left right) (fewer : less ≤ count) :
    AgreeUpTo less left right := by
  intro index below
  exact agree index (by omega)

@[simp]
theorem put_apply_lt {index : Nat} (before : index < offset) :
    Bytes.put offset values bytes index = bytes index := by
  have outside : ¬(offset ≤ index ∧ index < offset + values.length) := by omega
  simp only [Bytes.put, outside, if_false]

theorem put_apply_ge {index : Nat} (after : offset + values.length ≤ index) :
    Bytes.put offset values bytes index = bytes index := by
  have outside : ¬(offset ≤ index ∧ index < offset + values.length) := by omega
  simp only [Bytes.put, outside, if_false]

theorem agreeUpTo_put (agree : AgreeUpTo count left right) (reached : offset ≤ count) :
    AgreeUpTo (max count (offset + values.length)) (left.put offset values)
      (right.put offset values) := by
  intro index below
  by_cases inside : offset ≤ index ∧ index < offset + values.length
  · simp only [Bytes.put, inside, and_self, if_true]
  · simp only [Bytes.put, inside, if_false]
    exact agree index (by omega)

theorem agreeUpTo_put32 {value : BitVec 32} (agree : AgreeUpTo count left right)
    (reached : offset ≤ count) :
    AgreeUpTo (max count (offset + 4)) (left.put32 offset value) (right.put32 offset value) :=
  @agreeUpTo_put _ _ _ _ (le32 value) agree reached

theorem agreeUpTo_memcpy {source : Nat → BitVec 8} {copied : Nat}
    (agree : AgreeUpTo count left right) (reached : offset ≤ count) :
    AgreeUpTo (max count (offset + copied)) (memcpy offset source copied left)
      (memcpy offset source copied right) := by
  have stored := @agreeUpTo_put _ _ _ _ ((List.range copied).map source) agree reached
  rwa [List.length_map, List.length_range] at stored

theorem agreeUpTo_memset : AgreeUpTo count (memset count left) (memset count right) := by
  have stored := @agreeUpTo_put left right 0 0 (List.replicate count 0) agreeUpTo_zero (by omega)
  rwa [List.length_replicate, Nat.zero_add, Nat.zero_max] at stored

theorem agreeUpTo_cmdHdr {type : CmdType} (agree : AgreeUpTo count left right) :
    AgreeUpTo (max count 4) (cmdHdr len type left) (cmdHdr len type right) :=
  @agreeUpTo_put _ _ _ _ (le16 (BitVec.ofNat 16 len) ++ [cmdGrp80211, type.code]) agree (Nat.zero_le _)

theorem agreeUpTo_putFields {fields : List (BitVec 32)} (agree : AgreeUpTo offset left right) :
    AgreeUpTo (offset + 4 * fields.length) (putFields offset fields left)
      (putFields offset fields right) := by
  induction fields generalizing offset left right with
  | nil => exact agree
  | cons field rest ih =>
      apply agreeUpTo_mono (ih (agreeUpTo_mono (agreeUpTo_put32 agree (by omega)) (by omega)))
      simp only [List.length_cons]
      omega

/-! The words of a memory are the same exactly when its bytes are. -/

theorem append_inj {m n : Nat} {high high' : BitVec m} {low low' : BitVec n}
    (same : high ++ low = high' ++ low') : high = high' ∧ low = low' := by
  constructor
  · have upper := congrArg (BitVec.extractLsb' n m) same
    simpa only [BitVec.extractLsb'_append_eq_left] using upper
  · have lower := congrArg (BitVec.extractLsb' 0 n) same
    simpa only [BitVec.extractLsb'_append_eq_right] using lower

theorem word_eq_iff {index : Nat} :
    left.word index = right.word index ↔
      ∀ byte, byte < 4 → left (4 * index + byte) = right (4 * index + byte) := by
  constructor
  · intro same byte below
    obtain ⟨upper, byte0⟩ := append_inj same
    obtain ⟨upper, byte1⟩ := append_inj upper
    obtain ⟨byte3, byte2⟩ := append_inj upper
    have which : byte = 0 ∨ byte = 1 ∨ byte = 2 ∨ byte = 3 := by omega
    rcases which with rfl | rfl | rfl | rfl <;> assumption
  · intro same
    have byte0 : left (4 * index) = right (4 * index) := same 0 (by omega)
    simp only [Bytes.word, same 3 (by omega), same 2 (by omega), same 1 (by omega), byte0]

theorem words_eq_iff :
    left.words count = right.words count ↔ AgreeUpTo (4 * count) left right := by
  constructor
  · intro same index below
    have word : left.word (index / 4) = right.word (index / 4) := by
      have entry := congrArg (fun words => words[index / 4]?) same
      have inside : index / 4 < count := by omega
      simpa [Bytes.words, inside] using entry
    have byte := word_eq_iff.mp word (index % 4) (by omega)
    rwa [Nat.div_add_mod] at byte
  · intro agree
    apply List.map_congr_left
    intro index member
    apply word_eq_iff.mpr
    intro byte below
    have := List.mem_range.mp member
    exact agree _ (by omega)

/-! The length in the header of a memory. -/

structure Headed (len : Nat) (bytes : Bytes) : Prop where
  low : bytes 0 = (BitVec.ofNat 16 len).setWidth 8
  high : bytes 1 = (BitVec.ofNat 16 len >>> 8).setWidth 8

theorem headed_le16 : Headed len (bytes.put 0 (le16 (BitVec.ofNat 16 len))) := by
  constructor <;> rfl

theorem headed_cmdHdr {type : CmdType} : Headed len (cmdHdr len type bytes) := by
  constructor <;> rfl

theorem headed_put (headed : Headed len bytes) (after : 2 ≤ offset) :
    Headed len (bytes.put offset values) := by
  constructor
  · rw [put_apply_lt (by omega), headed.low]
  · rw [put_apply_lt (by omega), headed.high]

theorem headed_putFields {fields : List (BitVec 32)} (headed : Headed len bytes)
    (after : 2 ≤ offset) : Headed len (putFields offset fields bytes) := by
  induction fields generalizing offset bytes with
  | nil => exact headed
  | cons field rest ih =>
      have stored : Headed len (bytes.put32 offset field) := headed_put headed after
      exact ih stored (by omega)

theorem cmdLen_words (headed : Headed len bytes) (fits : len < 65536) (some : 0 < count) :
    cmdLen (bytes.words count) = len := by
  have first : (bytes.words count).headD 0 = bytes.word 0 := by
    obtain ⟨more, rfl⟩ := Nat.exists_eq_succ_of_ne_zero (by omega : count ≠ 0)
    simp [Bytes.words, List.range_succ_eq_map]
  have halves : (bytes.word 0).setWidth 16 = BitVec.ofNat 16 len := by
    apply BitVec.eq_of_getLsbD_eq
    intro index below
    simp only [Bytes.word, Nat.mul_zero, Nat.zero_add, headed.low, headed.high]
    simp only [BitVec.getLsbD_setWidth, BitVec.getLsbD_append, BitVec.getLsbD_ushiftRight]
    grind
  rw [cmdLen, first, halves, BitVec.toNat_ofNat, Nat.mod_eq_of_lt fits]

theorem counted_words (headed : Headed len bytes) (fits : len < 65536) (some : 0 < lenToWord len) :
    (bytes.words (lenToWord len)).length = lenToWord (cmdLen (bytes.words (lenToWord len))) := by
  rw [cmdLen_words headed fits some]
  simp only [Bytes.words, List.length_map, List.length_range]

/-! The senders. -/

variable {cfg : Cfg}

theorem determined_words (agree : AgreeUpTo count left right) (covered : 4 * lenToWord len ≤ count) :
    left.words (lenToWord len) = right.words (lenToWord len) :=
  words_eq_iff.mpr (agreeUpTo_mono agree covered)

theorem fixedReq_determined {type : CmdType} {fields : List (BitVec 32)} :
    fixedReq type fields left = fixedReq type fields right := by
  have header : AgreeUpTo 4 (cmdHdr (4 + 4 * fields.length) type left)
      (cmdHdr (4 + 4 * fields.length) type right) :=
    agreeUpTo_cmdHdr agreeUpTo_zero
  apply determined_words (agreeUpTo_putFields header)
  rw [show 4 + 4 * fields.length = 4 * (1 + fields.length) by omega, lenToWord_four_mul]

theorem fixedReq_counted {type : CmdType} {fields : List (BitVec 32)} (few : fields.length < 16000) :
    (fixedReq type fields bytes).length = lenToWord (cmdLen (fixedReq type fields bytes)) := by
  apply counted_words (headed_putFields headed_cmdHdr (by omega)) (by omega)
  rw [show 4 + 4 * fields.length = 4 * (1 + fields.length) by omega, lenToWord_four_mul]
  omega

theorem onlyRequest_fixed {request : Request} {type : CmdType} {fields : List (BitVec 32)}
    (sender : ∀ prior, sent cfg request prior = fixedReq type fields prior.stack)
    (few : fields.length < 16000) : OnlyRequest cfg request := by
  constructor
  · intro prior prior'
    rw [sender, sender]
    exact fixedReq_determined
  · intro prior
    rw [sender]
    exact fixedReq_counted few

theorem length_hexOf_flatMap (key : Nat → BitVec 8) :
    ((List.range count).flatMap fun index => hexOf (key index)).length = 2 * count := by
  induction count with
  | zero => rfl
  | succ count ih =>
      rw [List.range_succ, List.flatMap_append, List.length_append, ih]
      simp only [List.flatMap_singleton, hexOf, List.length_cons, List.length_nil]
      omega

theorem onlyRequest_setPmk (pmk : Nat → BitVec 8) : OnlyRequest cfg (.setPmk pmk) := by
  constructor
  · intro prior prior'
    apply determined_words
    · apply agreeUpTo_put (agreeUpTo_put32 (agreeUpTo_cmdHdr agreeUpTo_zero) (by omega)) (by omega)
    · rw [length_hexOf_flatMap]
      decide
  · intro prior
    apply counted_words (headed_put (headed_put headed_cmdHdr (by omega)) (by omega)) <;> decide

theorem onlyRequest_setSsid {length : BitVec 8} {ssid : Nat → BitVec 8}
    (long : maxSsidLen ≤ length.toNat) : OnlyRequest cfg (.setSsid length ssid) := by
  constructor
  · intro prior prior'
    apply determined_words
    · apply agreeUpTo_memcpy (agreeUpTo_put32 (agreeUpTo_put32 (agreeUpTo_cmdHdr agreeUpTo_zero)
        (by omega)) (by omega)) (by omega)
    · have words : 4 * lenToWord 44 = 44 := rfl
      have : 32 ≤ length.toNat := long
      omega
  · intro prior
    apply counted_words (headed_put (headed_put (headed_put headed_cmdHdr (by omega)) (by omega))
      (by omega)) <;> decide

theorem onlyRequest_scan (ifIdx : BitVec 32) (ssid : Option (BitVec 8 × (Nat → BitVec 8))) :
    OnlyRequest cfg (.scan ifIdx ssid) := by
  constructor
  · intro prior prior'
    have cleared : AgreeUpTo 64 (memset 64 prior.stack) (memset 64 prior'.stack) := agreeUpTo_memset
    rcases ssid with _ | ⟨length, name⟩ <;> apply determined_words
    · apply agreeUpTo_put32 (agreeUpTo_put32 (agreeUpTo_put32 (agreeUpTo_cmdHdr cleared)
        (by omega)) (by omega)) (by omega)
    · decide
    · apply agreeUpTo_memcpy (agreeUpTo_put32 (agreeUpTo_put32 (agreeUpTo_put32 (agreeUpTo_put32
        (agreeUpTo_cmdHdr cleared) (by omega)) (by omega)) (by omega)) (by omega)) (by omega)
    · have words : 4 * lenToWord 64 = 64 := rfl
      omega
  · intro prior
    rcases ssid with _ | ⟨length, name⟩ <;> apply counted_words
    · apply headed_put (headed_put (headed_put headed_cmdHdr (by omega)) (by omega)) (by omega)
    · decide
    · decide
    · apply headed_put (headed_put (headed_put (headed_put (headed_put headed_cmdHdr
        (by omega)) (by omega)) (by omega)) (by omega)) (by omega)
    · decide
    · decide

theorem onlyRequest_disconnect (addr : Option (Nat → BitVec 8)) :
    OnlyRequest cfg (.disconnect addr) := by
  constructor
  · intro prior prior'
    have cleared : AgreeUpTo 16 (memset 16 prior.stack) (memset 16 prior'.stack) := agreeUpTo_memset
    rcases addr with _ | addr <;> apply determined_words
    · apply agreeUpTo_put32 (agreeUpTo_cmdHdr cleared) (by omega)
    · decide
    · apply agreeUpTo_memcpy (agreeUpTo_put32 (agreeUpTo_cmdHdr cleared) (by omega)) (by omega)
    · decide
  · intro prior
    rcases addr with _ | addr <;> apply counted_words
    · apply headed_put headed_cmdHdr (by omega)
    · decide
    · decide
    · apply headed_put (headed_put headed_cmdHdr (by omega)) (by omega)
    · decide
    · decide

/-- The group and the type stay, and the length is stored before them. -/
theorem agreeUpTo_prepared {length : BitVec 16} :
    AgreeUpTo 4 ((prepared left).put 0 (le16 length)) ((prepared right).put 0 (le16 length)) := by
  intro index below
  have which : index = 0 ∨ index = 1 ∨ index = 2 ∨ index = 3 := by omega
  rcases which with rfl | rfl | rfl | rfl <;> rfl

theorem lenToWord_len32Aligned : lenToWord (len32Aligned len) = lenToWord len := by
  rw [len32Aligned, Nat.mul_comm, lenToWord_four_mul]

theorem txRaw_words {data : Nat → BitVec 8} {length : BitVec 32} (fits : length.toNat ≤ maxFrameLen) :
    mt7697WrTxRawPacket data length bytes =
      (memcpy 8 data length.toNat ((bytes.put 0 (le16 (BitVec.ofNat 16 (8 + length.toNat)))).put32 4
        length)).words (lenToWord (8 + length.toNat)) := by
  have short : length.toNat ≤ 2352 := fits
  have whole : (BitVec.ofNat 16 (8 + length.toNat)).toNat = 8 + length.toNat := by
    rw [BitVec.toNat_ofNat, Nat.mod_eq_of_lt (by omega)]
  rw [mt7697WrTxRawPacket, whole, lenToWord_len32Aligned]

theorem txRaw_counted {data : Nat → BitVec 8} {length : BitVec 32} (fits : length.toNat ≤ maxFrameLen) :
    (mt7697WrTxRawPacket data length bytes).length =
      lenToWord (cmdLen (mt7697WrTxRawPacket data length bytes)) := by
  have short : length.toNat ≤ 2352 := fits
  rw [txRaw_words fits]
  apply counted_words (headed_put (headed_put headed_le16 (by omega)) (by omega)) (by omega)
  simp only [lenToWord]
  omega

theorem onlyRequest_txRaw {data : Nat → BitVec 8} {length : BitVec 32}
    (fits : length.toNat ≤ maxFrameLen) (aligned : length.toNat % 4 = 0) :
    OnlyRequest cfg (.txRaw data length) := by
  constructor
  · intro prior prior'
    simp only [sent]
    rw [txRaw_words fits, txRaw_words fits]
    apply determined_words
    · apply agreeUpTo_memcpy (agreeUpTo_put32 agreeUpTo_prepared (by omega)) (by omega)
    · have whole : (8 + length.toNat) % 4 = 0 := by omega
      simp only [lenToWord, whole, if_true]
      omega
  · intro prior
    exact txRaw_counted fits

/-! A request with a byte that nothing was stored to. -/

def zeros : Prior := ⟨fun _ => 0, fun _ => 0⟩
def ones : Prior := ⟨fun _ => 255, fun _ => 255⟩

theorem apply_of_onlyRequest {request : Request} {index : Nat} (only : OnlyRequest cfg request)
    (zero : sent cfg request zeros = left.words count)
    (one : sent cfg request ones = right.words count) (inside : index < 4 * count) :
    left index = right index := by
  have same : left.words count = right.words count := by rw [← zero, ← one, only.determined zeros ones]
  exact words_eq_iff.mp same index inside

theorem memcpy_apply_ge {source : Nat → BitVec 8} {copied index : Nat}
    (after : offset + copied ≤ index) : memcpy offset source copied bytes index = bytes index :=
  put_apply_ge (by simpa using after)

theorem put32_apply_ge {value : BitVec 32} {index : Nat} (after : offset + 4 ≤ index) :
    bytes.put32 offset value index = bytes index :=
  put_apply_ge after

theorem cmdHdr_apply_ge {type : CmdType} {index : Nat} (after : 4 ≤ index) :
    cmdHdr len type bytes index = bytes index :=
  put_apply_ge (by simpa [le16] using after)

theorem not_onlyRequest_setBssid (bssid : Nat → BitVec 8) : ¬OnlyRequest cfg (.setBssid bssid) := by
  intro only
  have last := @apply_of_onlyRequest _ _ _ _ _ 10 only rfl rfl (by decide)
  rw [memcpy_apply_ge (by decide), memcpy_apply_ge (by decide)] at last
  rw [cmdHdr_apply_ge (by decide), cmdHdr_apply_ge (by decide)] at last
  exact absurd last (by decide)

theorem not_onlyRequest_setSsid {length : BitVec 8} {ssid : Nat → BitVec 8}
    (short : length.toNat < maxSsidLen) : ¬OnlyRequest cfg (.setSsid length ssid) := by
  intro only
  have last := @apply_of_onlyRequest _ _ _ _ _ 43 only rfl rfl (by decide)
  have after : 12 + length.toNat ≤ 43 := by
    have : length.toNat < 32 := short
    omega
  simp only [memcpy_apply_ge after] at last
  simp only [put32_apply_ge (show 8 + 4 ≤ 43 by decide), put32_apply_ge (show 4 + 4 ≤ 43 by decide),
    cmdHdr_apply_ge (show 4 ≤ 43 by decide)] at last
  exact absurd last (by decide)

theorem not_onlyRequest_txRaw {data : Nat → BitVec 8} {length : BitVec 32}
    (fits : length.toNat ≤ maxFrameLen) (unaligned : length.toNat % 4 ≠ 0) :
    ¬OnlyRequest cfg (.txRaw data length) := by
  intro only
  have tail : 8 + length.toNat < 4 * lenToWord (8 + length.toNat) := by
    have partly : (8 + length.toNat) % 4 ≠ 0 := by omega
    simp only [lenToWord, partly, if_false]
    omega
  have last := apply_of_onlyRequest only (txRaw_words fits) (txRaw_words fits) tail
  have after : 4 ≤ 8 + length.toNat := by omega
  have header : 0 + 2 ≤ 8 + length.toNat := by omega
  simp only [memcpy_apply_ge (Nat.le_refl _), put32_apply_ge (show 4 + 4 ≤ 8 + length.toNat by omega)]
    at last
  rw [put_apply_ge header, put_apply_ge header, prepared, prepared, put_apply_ge after,
    put_apply_ge after] at last
  exact absurd last (by simp [zeros, ones])

/-- A request holds nothing but the request if and only if its fields fill its words. -/
theorem requests_only (cfg : Cfg) (request : Request) (fits : request.Fits) :
    OnlyRequest cfg request ↔ request.Fills := by
  cases request with
  | setPmk pmk => exact iff_of_true (onlyRequest_setPmk pmk) trivial
  | scan ifIdx ssid => exact iff_of_true (onlyRequest_scan ifIdx ssid) trivial
  | disconnect addr => exact iff_of_true (onlyRequest_disconnect addr) trivial
  | setBssid bssid => exact iff_of_false (not_onlyRequest_setBssid bssid) id
  | setSsid length ssid =>
      constructor
      · intro only
        by_contra short
        exact not_onlyRequest_setSsid (Nat.lt_of_not_le short) only
      · exact onlyRequest_setSsid
  | txRaw data length =>
      constructor
      · intro only
        by_contra unaligned
        exact not_onlyRequest_txRaw fits unaligned only
      · exact onlyRequest_txRaw fits
  | _ => exact iff_of_true (onlyRequest_fixed (fun _ => rfl) (by simp)) trivial

theorem requests_only_packet :
    OnlyRequest ⟨0, 0⟩ (.txRaw (fun _ => 7) 4) ↔ Request.Fills (.txRaw (fun _ => 7) 4) :=
  requests_only ⟨0, 0⟩ (.txRaw (fun _ => 7) 4) (show 4 ≤ 2352 by decide)

/-- The last two bytes of a BSSID field are those of the stack. -/
theorem bssid_carries_stack : ¬∀ (cfg : Cfg) (request : Request), request.Fits →
    OnlyRequest cfg request := by
  intro always
  have words := (always ⟨0, 0⟩ (.setBssid fun _ => 0) trivial).determined zeros ones
  exact absurd words (by decide)

end MangOH.RequestBytes
