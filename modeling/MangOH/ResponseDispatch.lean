import MangOH.QueueReceive

/-!
`mt7697_proc_80211cmd`, the `rx_fcn` of the WiFi driver, as a program that
reads the body of a response from the queue. What a handler calls once its
words are in hand (`Followup`) is a parameter: none of it reads the queue.

`result` is unsigned in `struct mt7697_rsp_hdr`, so no test `result < 0` of the
source ever holds.
-/

namespace MangOH.ResponseDispatch

open BitFields CyclicWindow QueueMemory QueueRead QueueReceive

def eio : Int := 5
def enomem : Int := 12

/-- The responses and indications among `enum mt7697_wifi_cmd_types`. -/
inductive CmdType where
  | macAddrRsp
  | getCfgRsp
  | getWirelessModeRsp
  | setWirelessModeRsp
  | setOpModeRsp
  | getListenIntervalRsp
  | setListenIntervalRsp
  | setSecurityModeRsp
  | scanInd
  | scanRsp
  | scanCompleteInd
  | scanStopRsp
  | setPmkRsp
  | setChannelRsp
  | setBssidRsp
  | setSsidRsp
  | reloadSettingsRsp
  | connectInd
  | disconnectInd
  | disconnectRsp
  | rxRaw
  | unsupported

def cmdType (type : BitVec 8) : CmdType :=
  match type.toNat with
  | 1 => .macAddrRsp
  | 3 => .getCfgRsp
  | 5 => .getWirelessModeRsp
  | 7 => .setWirelessModeRsp
  | 9 => .setOpModeRsp
  | 11 => .getListenIntervalRsp
  | 13 => .setListenIntervalRsp
  | 15 => .setSecurityModeRsp
  | 18 => .scanInd
  | 20 => .scanRsp
  | 21 => .scanCompleteInd
  | 23 => .scanStopRsp
  | 25 => .setPmkRsp
  | 27 => .setChannelRsp
  | 29 => .setBssidRsp
  | 31 => .setSsidRsp
  | 33 => .reloadSettingsRsp
  | 34 => .connectInd
  | 35 => .disconnectInd
  | 37 => .disconnectRsp
  | 39 => .rxRaw
  | _ => .unsupported

inductive PortType where
  | sta
  | ap

/-- The fields of `mt7697_cfg80211_info` that the handlers fill in themselves. -/
structure Cfg (State : Type) where
  macAddr : List (BitVec 8)
  hwWirelessMode : Word
  portType : PortType
  wifiCfg : List (BitVec 8)
  listenInterval : Word
  probeData : List Word
  rxData : List Word
  rest : State

/-- The work a handler hands its words to. -/
inductive Followup where
  | interfaceAdd
  | getParams
  | informBss (rssi ch probeRspLen : Word)
  | scanDone (ifIdx : Word)
  | connect (ifIdx channel : Word) (bssid : List Word)
  | disconnect (ifIdx : Word) (bssid : List Word)
  | rxData (len : Word)

variable {State : Type}

abbrev Program (State : Type) := Reader Word (Cfg State × Int)
abbrev Follow (State : Type) := Followup → Cfg State → Cfg State × Int

/-- The bytes of little-endian words in memory order. -/
def bytes (words : List Word) : List (BitVec 8) :=
  words.flatMap fun word : Word => [word.setWidth 8, (word >>> 8).setWidth 8,
    (word >>> 16).setWidth 8, (word >>> 24).setWidth 8]

/-- `read()` into a buffer and the check of its return code against `num`. -/
def readExact (num : Nat) (store : List Word → Cfg State)
    (next : Cfg State → List Word → Program State) : Program State :=
  .read num fun ret words =>
    if ret ≠ (num : Int) then .done (store words, if ret < 0 then ret else -eio)
    else next (store words) words

def readWord (cfg : Cfg State) (next : Word → Program State) : Program State :=
  readExact (lenToWord 4) (fun _ => cfg) fun _ words => next (words.headD 0)

def mt7697ProcMacAddr (follow : Follow State) (rsp : RspHdr) (cfg : Cfg State) : Program State :=
  if rsp.len.toNat ≠ 16 then .done (cfg, -einval)
  else readExact (lenToWord (len32Aligned 6)) (fun _ => cfg) fun cfg addr =>
    .done (follow .interfaceAdd { cfg with macAddr := (bytes addr).take 6 })

def mt7697ProcGetWirelessMode (rsp : RspHdr) (cfg : Cfg State) : Program State :=
  if sub32 rsp.len.toNat 8 ≠ 4 then .done (cfg, -einval)
  else readWord cfg fun mode => .done ({ cfg with hwWirelessMode := mode }, 0)

/-- The checks of `mt7697_proc_get_cfg` on the packed configuration. A station
or access point is accepted by its mode, and only the strings of its own half
are checked. -/
def acceptCfg (follow : Follow State) (cfg : Cfg State) (config : List (BitVec 8)) :
    Cfg State × Int :=
  let field := fun place => (config.getD place 0).toNat
  if field 0 = 1 then
    let cfg := { cfg with portType := .sta }
    if 32 < field 33 then (cfg, -einval)
    else if 64 < field 105 then (cfg, -einval)
    else follow .getParams { cfg with wifiCfg := config }
  else if field 0 = 2 then
    let cfg := { cfg with portType := .ap }
    if 32 < field 138 then (cfg, -einval)
    else if 64 < field 203 then (cfg, -einval)
    else follow .getParams { cfg with wifiCfg := config }
  else (cfg, -einval)

/-- `memory` is the outcome of `kzalloc`. -/
def mt7697ProcGetCfg (follow : Follow State) (memory : Bool) (rsp : RspHdr) (cfg : Cfg State) :
    Program State :=
  if sub32 rsp.len.toNat 8 ≠ len32Aligned 209 then .done (cfg, -einval)
  else if memory = false then .done (cfg, -enomem)
  else readExact (lenToWord 209) (fun _ => cfg) fun cfg config =>
    .done (acceptCfg follow cfg ((bytes config).take 209))

def mt7697ProcGetListenInterval (rsp : RspHdr) (cfg : Cfg State) : Program State :=
  if sub32 rsp.len.toNat 8 ≠ 4 then .done (cfg, -einval)
  else readWord cfg fun interval => .done ({ cfg with listenInterval := interval }, 0)

def mt7697ProcScanInd (follow : Follow State) (rsp : RspHdr) (cfg : Cfg State) : Program State :=
  if rsp.len.toNat ≤ 16 then .done (cfg, -einval)
  else readWord cfg fun rssi => readWord cfg fun ch =>
    let probeRspLen := rsp.result
    if 2304 < probeRspLen.toNat then .done (cfg, -einval)
    else if probeRspLen.toNat = 0 then .done (cfg, -einval)
    else readExact (lenToWord (len32Aligned probeRspLen.toNat))
      (fun words => { cfg with probeData := words }) fun cfg _ =>
        .done (follow (.informBss rssi ch probeRspLen) cfg)

/-- The length is not checked. -/
def mt7697ProcScanRsp (cfg : Cfg State) : Program State :=
  readWord cfg fun _ => .done (cfg, 0)

/-- The length is not checked. -/
def mt7697ProcScanCompleteInd (follow : Follow State) (cfg : Cfg State) : Program State :=
  readWord cfg fun ifIdx => .done (follow (.scanDone ifIdx) cfg)

def mt7697ProcConnectInd (follow : Follow State) (rsp : RspHdr) (cfg : Cfg State) :
    Program State :=
  if rsp.len.toNat ≠ 24 then .done (cfg, -einval)
  else readWord cfg fun ifIdx => readWord cfg fun channel =>
    readExact (lenToWord (len32Aligned 6)) (fun _ => cfg) fun cfg bssid =>
      .done (follow (.connect ifIdx channel bssid) cfg)

/-- The length is not checked. -/
def mt7697ProcDisconnectInd (follow : Follow State) (cfg : Cfg State) : Program State :=
  readWord cfg fun ifIdx =>
    readExact (lenToWord (len32Aligned 6)) (fun _ => cfg) fun cfg bssid =>
      .done (follow (.disconnect ifIdx bssid) cfg)

def mt7697RxRaw (follow : Follow State) (rsp : RspHdr) (cfg : Cfg State) : Program State :=
  if rsp.len.toNat ≤ 8 then .done (cfg, -einval)
  else if 2352 < rsp.result.toNat then .done (cfg, -einval)
  else readExact (lenToWord (len32Aligned rsp.result.toNat))
    (fun words => { cfg with rxData := words }) fun cfg _ =>
      .done (follow (.rxData rsp.result) cfg)

def mt7697Proc80211cmd (follow : Follow State) (memory : Bool) (rsp : RspHdr) (cfg : Cfg State) :
    Program State :=
  match cmdType rsp.type with
  | .macAddrRsp => mt7697ProcMacAddr follow rsp cfg
  | .getWirelessModeRsp => mt7697ProcGetWirelessMode rsp cfg
  | .getCfgRsp => mt7697ProcGetCfg follow memory rsp cfg
  | .getListenIntervalRsp => mt7697ProcGetListenInterval rsp cfg
  | .scanRsp => mt7697ProcScanRsp cfg
  | .scanInd => mt7697ProcScanInd follow rsp cfg
  | .scanCompleteInd => mt7697ProcScanCompleteInd follow cfg
  | .connectInd => mt7697ProcConnectInd follow rsp cfg
  | .disconnectInd => mt7697ProcDisconnectInd follow cfg
  | .rxRaw => mt7697RxRaw follow rsp cfg
  | .setOpModeRsp | .setPmkRsp | .setChannelRsp | .setBssidRsp | .setSsidRsp
  | .reloadSettingsRsp | .setListenIntervalRsp | .setWirelessModeRsp | .setSecurityModeRsp
  | .scanStopRsp | .disconnectRsp => .done (cfg, 0)
  | .unsupported => .done (cfg, -einval)

/-- When the handler of a response stops at the end of its body, with `avail`
words in the queue. A handler that reads too much stops there only because the
queue ends there, too. -/
def KeepsBoundary (memory : Bool) (rsp : RspHdr) (avail : Nat) : Prop :=
  let len := rsp.len.toNat
  let body := lenToWord (len - 8)
  let size := rsp.result.toNat
  match cmdType rsp.type with
  | .macAddrRsp => len = 8 ∨ len = 16
  | .getWirelessModeRsp | .getListenIntervalRsp => len = 8 ∨ len = 12
  | .getCfgRsp => len = 8 ∨ len = 220 ∧ memory = true
  | .scanRsp | .scanCompleteInd => body = 1 ∨ body = 0 ∧ avail = 0
  | .scanInd => len = 8 ∨ 16 < len ∧ 0 < size ∧ size ≤ 2304 ∧
      (lenToWord size + 2 = body ∨ body < lenToWord size + 2 ∧ avail = body)
  | .connectInd => len = 8 ∨ len = 24
  | .disconnectInd => body = 3 ∨ body < 3 ∧ avail = body
  | .rxRaw => len = 8 ∨ size ≤ 2352 ∧
      (lenToWord size = body ∨ body < lenToWord size ∧ avail = body)
  | _ => len = 8

section Counting

theorem lenToWord_eq (length : Nat) : lenToWord length = (length + 3) / 4 := by
  unfold lenToWord; split_ifs <;> omega

theorem len32Aligned_words (length : Nat) : lenToWord (len32Aligned length) = lenToWord length := by
  rw [len32Aligned, Nat.mul_comm, lenToWord_four_mul]

theorem consumed_readExact (num : Nat) (store : List Word → Cfg State)
    (next : Cfg State → List Word → Program State) (source : List Word) :
    (readExact num store next).consumed source =
      if num ≤ source.length then
        num + (next (store (source.take num)) (source.take num)).consumed (source.drop num)
      else source.length := by
  rw [readExact, Reader.consumed_read, List.length_take]
  by_cases enough : num ≤ source.length
  · rw [if_pos enough, Nat.min_eq_left enough, if_neg (not_not_intro rfl)]
  -- A short read ends the handler, but it has emptied the queue.
  · have short : ((source.length : Nat) : Int) ≠ (num : Int) := by omega
    rw [if_neg enough, Nat.min_eq_right (by omega), if_pos short, Reader.consumed_done,
      Nat.add_zero]

theorem consumed_lastRead (num : Nat) (store : List Word → Cfg State)
    (finish : Cfg State → List Word → Cfg State × Int) (source : List Word) :
    (readExact num store fun cfg words => .done (finish cfg words)).consumed source =
      min num source.length := by
  rw [consumed_readExact, Reader.consumed_done]
  split_ifs <;> omega

/-- One word and then up to `count` more. -/
theorem consumed_readWord {cfg : Cfg State} {next : Word → Program State} {count : Nat}
    {source : List Word} (rest : ∀ word, (next word).consumed (source.drop 1) =
      min count (source.drop 1).length) :
    (readWord cfg next).consumed source = min (1 + count) source.length := by
  have word : lenToWord 4 = 1 := rfl
  rw [readWord, word, consumed_readExact, rest, List.length_drop]
  split_ifs <;> omega

theorem consumed_oneWord (cfg : Cfg State) (finish : Word → Cfg State × Int)
    (source : List Word) :
    (readWord cfg fun word => .done (finish word)).consumed source = min 1 source.length :=
  consumed_lastRead 1 _ _ source

variable (follow : Follow State) (memory : Bool) (rsp : RspHdr) (cfg : Cfg State)
  (source : List Word)

theorem consumed_mt7697ProcMacAddr : (mt7697ProcMacAddr follow rsp cfg).consumed source =
    if rsp.len.toNat = 16 then min 2 source.length else 0 := by
  rw [mt7697ProcMacAddr, ite_not]
  split_ifs
  · exact consumed_lastRead 2 _ _ source
  · rfl

theorem consumed_mt7697ProcGetWirelessMode :
    (mt7697ProcGetWirelessMode rsp cfg).consumed source =
      if sub32 rsp.len.toNat 8 = 4 then min 1 source.length else 0 := by
  rw [mt7697ProcGetWirelessMode, ite_not]
  split_ifs
  · exact consumed_lastRead 1 _ _ source
  · rfl

theorem consumed_mt7697ProcGetListenInterval :
    (mt7697ProcGetListenInterval rsp cfg).consumed source =
      if sub32 rsp.len.toNat 8 = 4 then min 1 source.length else 0 := by
  rw [mt7697ProcGetListenInterval, ite_not]
  split_ifs
  · exact consumed_lastRead 1 _ _ source
  · rfl

theorem consumed_mt7697ProcGetCfg : (mt7697ProcGetCfg follow memory rsp cfg).consumed source =
    if sub32 rsp.len.toNat 8 = 212 ∧ memory = true then min 53 source.length else 0 := by
  have aligned : len32Aligned 209 = 212 := by decide
  rw [mt7697ProcGetCfg, aligned, ite_not]
  by_cases size : sub32 rsp.len.toNat 8 = 212
  · rw [if_pos size]
    cases memory
    · simp [size, Reader.consumed_done]
    · rw [if_neg (by decide), if_pos ⟨size, rfl⟩]
      exact consumed_lastRead 53 _ _ source
  · rw [if_neg size, if_neg fun both => size both.1]
    rfl

theorem consumed_mt7697ProcScanInd : (mt7697ProcScanInd follow rsp cfg).consumed source =
    if rsp.len.toNat ≤ 16 then 0
    else if 2304 < rsp.result.toNat ∨ rsp.result.toNat = 0 then min 2 source.length
    else min (2 + lenToWord rsp.result.toNat) source.length := by
  rw [mt7697ProcScanInd]
  split_ifs with short large
  · rfl
  -- Both words are read before the size is checked.
  · have split : 2 = 1 + (1 + 0) := rfl
    rw [split]
    refine consumed_readWord fun _ => consumed_readWord fun _ => ?_
    dsimp only
    rw [Nat.zero_min]
    split_ifs with high zero
    · rfl
    · rfl
    · exact absurd large (by omega)
  · have split : 2 + lenToWord rsp.result.toNat = 1 + (1 + lenToWord rsp.result.toNat) := by omega
    rw [split]
    refine consumed_readWord fun _ => consumed_readWord fun _ => ?_
    dsimp only
    rw [if_neg (by omega), if_neg (by omega), len32Aligned_words]
    exact consumed_lastRead _ _ _ _

theorem consumed_mt7697ProcScanRsp :
    (mt7697ProcScanRsp cfg).consumed source = min 1 source.length :=
  consumed_oneWord cfg _ source

theorem consumed_mt7697ProcScanCompleteInd :
    (mt7697ProcScanCompleteInd follow cfg).consumed source = min 1 source.length :=
  consumed_oneWord cfg _ source

theorem consumed_mt7697ProcConnectInd : (mt7697ProcConnectInd follow rsp cfg).consumed source =
    if rsp.len.toNat = 24 then min 4 source.length else 0 := by
  rw [mt7697ProcConnectInd, ite_not]
  split_ifs
  · exact consumed_readWord fun _ => consumed_readWord fun _ => consumed_lastRead 2 _ _ _
  · rfl

theorem consumed_mt7697ProcDisconnectInd :
    (mt7697ProcDisconnectInd follow cfg).consumed source = min 3 source.length :=
  consumed_readWord fun _ => consumed_lastRead 2 _ _ _

theorem consumed_mt7697RxRaw : (mt7697RxRaw follow rsp cfg).consumed source =
    if rsp.len.toNat ≤ 8 ∨ 2352 < rsp.result.toNat then 0
    else min (lenToWord rsp.result.toNat) source.length := by
  rw [mt7697RxRaw]
  by_cases short : rsp.len.toNat ≤ 8
  · rw [if_pos short, if_pos (Or.inl short)]
    rfl
  · by_cases large : 2352 < rsp.result.toNat
    · rw [if_neg short, if_pos large, if_pos (Or.inr large)]
      rfl
    · rw [if_neg short, if_neg large, if_neg (by omega), len32Aligned_words]
      exact consumed_lastRead _ _ _ _

/-- The words that a response's handler takes out of the queue end with its
body exactly under `KeepsBoundary`. -/
theorem consumed_mt7697Proc80211cmd (covers : 8 ≤ rsp.len.toNat)
    (whole : lenToWord (rsp.len.toNat - 8) ≤ source.length) :
    (mt7697Proc80211cmd follow memory rsp cfg).consumed source = lenToWord (rsp.len.toNat - 8) ↔
      KeepsBoundary memory rsp source.length := by
  have small : rsp.len.toNat < 65536 := rsp.len.isLt
  have body : sub32 rsp.len.toNat 8 = rsp.len.toNat - 8 := sub32_of_le covers (by omega)
  rw [lenToWord_eq] at whole ⊢
  -- For each type the reads are a bounded sum; only arithmetic on the lengths is left.
  cases kind : cmdType rsp.type <;>
    simp only [mt7697Proc80211cmd, KeepsBoundary, kind, lenToWord_eq, Reader.consumed_done,
      consumed_mt7697ProcMacAddr, consumed_mt7697ProcGetWirelessMode, consumed_mt7697ProcGetCfg,
      consumed_mt7697ProcGetListenInterval, consumed_mt7697ProcScanInd,
      consumed_mt7697ProcScanRsp, consumed_mt7697ProcScanCompleteInd,
      consumed_mt7697ProcConnectInd, consumed_mt7697ProcDisconnectInd, consumed_mt7697RxRaw,
      body] <;>
    grind

end Counting

/-- A program takes as many words out of a queue as out of a list of the words
that the host sees in it. -/
theorem run_words {α : Type} (program : Reader Word α) {qs : QueueSpec}
    {held seen unseen : List Word} (feed : Feed qs held seen unseen) :
    (program.run mt7697qRead qs).2.1.length = program.consumed seen := by
  -- The queue and the list of its visible words answer every read alike.
  have agree : ∀ {qs : QueueSpec} {source : List Word},
      (∃ held unseen, Feed qs held source unseen) → ∀ num,
        (∃ held unseen, Feed (mt7697qRead qs num).1 held (Reader.fetchList source num).1 unseen) ∧
          (mt7697qRead qs num).2 = (Reader.fetchList source num).2 := by
    rintro qs source ⟨held, unseen, feed⟩ num
    obtain ⟨after, result, kept, -⟩ := mt7697qRead_feed num feed
    rw [result]
    exact ⟨⟨_, _, kept⟩, rfl⟩
  have same := (Reader.run_related
    (fun qs source => ∃ held unseen, Feed qs held source unseen) agree program
    ⟨held, unseen, feed⟩).2
  rw [Reader.consumed, same]

/-- For any response and any queue contents that include its body, the handler
reads the body and nothing else exactly under `KeepsBoundary`. -/
theorem mt7697Proc80211cmd_reads_body_iff (follow : Follow State) (memory : Bool) (rsp : RspHdr)
    (cfg : Cfg State) {qs : QueueSpec} {held seen unseen : List Word}
    (feed : Feed qs held seen unseen) (covers : 8 ≤ rsp.len.toNat)
    (whole : bodyWords rsp.len ≤ seen.length) :
    ((mt7697Proc80211cmd follow memory rsp cfg).run mt7697qRead qs).2.1.length =
        bodyWords rsp.len ↔ KeepsBoundary memory rsp seen.length := by
  have small : rsp.len.toNat < 65536 := rsp.len.isLt
  have body : bodyWords rsp.len = lenToWord (rsp.len.toNat - 8) := by
    rw [bodyWords, sub32_of_le covers (by omega)]
  rw [body] at whole ⊢
  rw [run_words _ feed]
  exact consumed_mt7697Proc80211cmd follow memory rsp cfg seen covers whole

/-- Four published words in a ring of eight. -/
def fourWords : QueueSpec where
  data := ⟨0x80000, 0x20001000, 0, 4⟩
  ch := 0
  qinfo := ⟨.cleared, false⟩
  slave :=
    { memory := fun _ => 7, entry := ⟨0x80000, 0x20001000, 0, 4⟩, todo := [], agenda := []
      faults := [], m2sMailbox := 0, irq := false }

def fresh : Cfg Unit := ⟨[], 0, .sta, [], 0, [], [], ()⟩

theorem fourWords_feed : Feed fourWords [] [7, 7, 7, 7] [] :=
  ⟨rfl, rfl, rfl, ⟨by decide, by decide, by decide⟩, by decide, by decide⟩

theorem mt7697Proc80211cmd_reads_body_iff_connect :
    ((mt7697Proc80211cmd (fun _ cfg => (cfg, 0)) true ⟨24, 1, 34, 0⟩ fresh).run
      mt7697qRead fourWords).2.1.length = 4 :=
  (mt7697Proc80211cmd_reads_body_iff _ true ⟨24, 1, 34, 0⟩ fresh fourWords_feed (by decide)
    (by decide)).mpr (Or.inr rfl)

/-- An unsupported response of one body word leaves that word to be taken for
the next header. -/
theorem unsupported_response_leaves_body :
    Feed fourWords [] [7, 7, 7, 7] [] ∧ bodyWords 12 = 1 ∧
      ((mt7697Proc80211cmd (fun _ cfg => (cfg, 0)) true ⟨12, 1, 0, 0⟩ fresh).run
        mt7697qRead fourWords).2.1.length = 0 :=
  ⟨fourWords_feed, by decide, rfl⟩

end MangOH.ResponseDispatch
