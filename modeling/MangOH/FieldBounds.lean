import MangOH.RequestBytes
import MangOH.ResponseDispatch
import MangOH.Station

/-!
The fields of fixed size that the WiFi driver fills from outside: by the
responses of the firmware, the packets of the network stack and the requests of
user space. An access covers the first `count` bytes of its field.

The receive side tests its lengths. `mt7697_wr_tx_raw_packet` only warns about
its own, and `siwencodeext` takes any key length for its 32 bytes.
-/

namespace MangOH.FieldBounds

open BitFields CyclicWindow QueueMemory QueueRead ResponseDispatch
open Station (IfType trimEssid)

inductive Field where
  | word
  | addr
  | wifiCfg
  | bssid
  | probeData
  | rxData
  | txReq
  | txReqData
  | setSsidReqSsid
  | scanReqSsid
  | vifSsid
  | wdevSsid
  | apSsid
  | vifPmk
  | nowhere

def maxDataLen : Nat := 2304

/-- The size of each declaration, in bytes. -/
def Field.size : Field → Nat
  | .word => 4
  | .addr | .bssid => len32Aligned RequestBytes.ethAlen
  | .wifiCfg => len32Aligned 209
  | .probeData => len32Aligned maxDataLen
  | .rxData | .txReqData => len32Aligned RequestBytes.maxFrameLen
  | .txReq => 8 + len32Aligned RequestBytes.maxFrameLen
  | .setSsidReqSsid | .scanReqSsid => len32Aligned RequestBytes.maxSsidLen
  | .vifSsid | .wdevSsid | .apSsid => RequestBytes.maxSsidLen
  | .vifPmk => RequestBytes.lengthPmk
  | .nowhere => 0

structure Access where
  field : Field
  count : Nat

def Access.Inside (access : Access) : Prop := access.count ≤ access.field.size

instance (access : Access) : Decidable access.Inside := Nat.decLe _ _

/-- Where the handler of a response reads to, in the order of its reads. -/
def destinations : CmdType → List Field
  | .macAddrRsp => [.addr]
  | .getCfgRsp => [.wifiCfg]
  | .getWirelessModeRsp | .getListenIntervalRsp | .scanRsp | .scanCompleteInd => [.word]
  | .scanInd => [.word, .word, .probeData]
  | .connectInd => [.word, .word, .bssid]
  | .disconnectInd => [.word, .bssid]
  | .rxRaw => [.rxData]
  | _ => []

variable {State : Type}

def received (follow : Follow State) (memory : Bool) (rsp : RspHdr) (cfg : Cfg State)
    (qs : QueueSpec) : List Access :=
  ((mt7697Proc80211cmd follow memory rsp cfg).served mt7697qRead qs).mapIdx fun index count =>
    ⟨(destinations (cmdType rsp.type)).getD index .nowhere, 4 * count⟩

/-- `cmd.len` of the packet, whose words are handed to `write`, has 16 bits. -/
def mt7697WrTxRawPacket (len : BitVec 32) : List Access :=
  let cmdLen := BitVec.ofNat 16 (8 + len.toNat)
  [⟨.txReqData, len.toNat⟩, ⟨.txReq, 4 * lenToWord (len32Aligned cmdLen.toNat)⟩]

/-- A packet of any length is sent; a short one is only counted. -/
def mt7697TxWork (packets : List (BitVec 32)) : List Access := packets.flatMap mt7697WrTxRawPacket

/-- The length of the request has eight bits. -/
def mt7697WrSetSsidReq (len : Nat) : List Access := [⟨.setSsidReqSsid, (BitVec.ofNat 8 len).toNat⟩]

/-- The first SSID of the request of user space, when it has one. -/
def mt7697WrScanReq (ssids : List (List (BitVec 8))) : List Access :=
  (ssids.head?.map fun ssid => ⟨.scanReqSsid, (BitVec.ofNat 8 ssid.length).toNat⟩).toList

def mt7697WextSiwessid (iftype : IfType) (flags : Bool) (essid : List (BitVec 8)) (setOpMode : Int) :
    List Access :=
  if iftype ≠ .station ∧ iftype ≠ .ap then []
  else
    let len := (trimEssid flags essid).length
    let stored : List Access := [⟨.vifSsid, len⟩, ⟨.wdevSsid, len⟩]
    if 0 < len ∧ setOpMode < 0 then stored else stored ++ mt7697WrSetSsidReq len

def mt7697Cfg80211StartAp (ssid : List (BitVec 8)) (setSsid : Int) : List Access :=
  if setSsid < 0 then mt7697WrSetSsidReq ssid.length
  else mt7697WrSetSsidReq ssid.length ++ [⟨.apSsid, ssid.length⟩]

def mt7697Cfg80211JoinIbss (ssid : List (BitVec 8)) : List Access := [⟨.vifSsid, ssid.length⟩]

def mt7697WextSiwencodeext (iftype : IfType) (algPmk : Bool) (key : List (BitVec 8)) : List Access :=
  if iftype ≠ .station ∧ iftype ≠ .ap then []
  else if algPmk = true then [⟨.vifPmk, key.length⟩]
  else []

inductive Entry (State : Type) where
  | response (follow : Follow State) (memory : Bool) (rsp : RspHdr) (cfg : Cfg State)
      (qs : QueueSpec)
  | txWork (packets : List (BitVec 32))
  | siwessid (iftype : IfType) (flags : Bool) (essid : List (BitVec 8)) (setOpMode : Int)
  | startAp (ssid : List (BitVec 8)) (setSsid : Int)
  | joinIbss (ssid : List (BitVec 8))
  | scan (ssids : List (List (BitVec 8)))
  | siwencodeext (iftype : IfType) (algPmk : Bool) (key : List (BitVec 8))

def accesses : Entry State → List Access
  | .response follow memory rsp cfg qs => received follow memory rsp cfg qs
  | .txWork packets => mt7697TxWork packets
  | .siwessid iftype flags essid setOpMode => mt7697WextSiwessid iftype flags essid setOpMode
  | .startAp ssid setSsid => mt7697Cfg80211StartAp ssid setSsid
  | .joinIbss ssid => mt7697Cfg80211JoinIbss ssid
  | .scan ssids => mt7697WrScanReq ssids
  | .siwencodeext iftype algPmk key => mt7697WextSiwencodeext iftype algPmk key

/-- `IW_ENCODING_TOKEN_MAX`. -/
def encodingTokenMax : Nat := 64

/-- The lengths that the wireless extensions and cfg80211 let through. -/
def Entry.Admitted : Entry State → Prop
  | .response .. | .txWork _ => True
  | .siwessid _ _ ssid _ | .startAp ssid _ | .joinIbss ssid =>
      ssid.length ≤ RequestBytes.maxSsidLen
  | .scan ssids => ∀ ssid ∈ ssids, ssid.length ≤ RequestBytes.maxSsidLen
  | .siwencodeext _ _ key => key.length ≤ encodingTokenMax

/-- The lengths that nothing tests. -/
def Entry.Fits : Entry State → Prop
  | .txWork packets => ∀ len ∈ packets, len.toNat ≤ RequestBytes.maxFrameLen
  | .siwencodeext iftype algPmk key =>
      (iftype = .station ∨ iftype = .ap) → algPmk = true → key.length ≤ RequestBytes.lengthPmk
  | _ => True

/-! The receive side. -/

theorem loadWords_length (memory : Word → Word) (addr : Word) (num : Nat) :
    (loadWords memory addr num).length = num := by
  induction num generalizing addr with
  | zero => rfl
  | succ num ih => exact congrArg Nat.succ (ih _)

theorem mt7697ioRd_length (qs : QueueSpec) (addr : Word) (num : Nat) :
    (mt7697ioRd qs addr num).2.2.length ≤ num := by
  unfold mt7697ioRd
  rcases qs.slave.transfer with ⟨_ | fault, slave⟩
  · exact Nat.le_of_eq (loadWords_length _ _ _)
  · exact Nat.le_trans (Nat.le_of_eq (loadWords_length _ _ _)) (Nat.min_le_right _ _)

theorem readChunk_length {qs : QueueSpec} {readOffset rdNum num : Nat} (most : rdNum ≤ num) :
    (readChunk qs readOffset rdNum).2.2.1.length ≤ num :=
  Nat.le_trans (mt7697ioRd_length qs (wordAddr qs readOffset) rdNum) most

theorem readToEnd_length (qs : QueueSpec) (readOffset writeOffset num : Nat) :
    (readToEnd qs readOffset writeOffset num).2.2.1.length ≤ num := by
  unfold readToEnd
  by_cases wraps : writeOffset < readOffset
  · simp only [wraps, if_true]
    exact readChunk_length (by split_ifs <;> omega)
  · simp only [wraps, if_false, List.length_nil, Nat.zero_le]

theorem readBelow_length (qs : QueueSpec) (readOffset writeOffset num : Nat) :
    (readBelow qs readOffset writeOffset num).2.2.1.length ≤ num := by
  unfold readBelow
  by_cases some : 0 < num
  · simp only [some, if_true]
    exact readChunk_length (by split_ifs <;> omega)
  · simp only [some, if_false, List.length_nil, Nat.zero_le]

/-- The second chunk asks for what the first one left. -/
theorem mt7697qRead_length (qs : QueueSpec) (num : Nat) : (mt7697qRead qs num).2.2.length ≤ num := by
  have first := readToEnd_length qs qs.data.rdOffset.toNat qs.data.wrOffset.toNat num
  simp only [mt7697qRead]
  generalize readToEnd qs qs.data.rdOffset.toNat qs.data.wrOffset.toNat num = chunk at first ⊢
  have second := readBelow_length chunk.1 chunk.2.2.2 qs.data.wrOffset.toNat
    (num - chunk.2.2.1.length)
  generalize readBelow chunk.1 chunk.2.2.2 qs.data.wrOffset.toNat (num - chunk.2.2.1.length) = rest
    at second ⊢
  have both : (chunk.2.2.1 ++ rest.2.2.1).length ≤ num := by
    rw [List.length_append]
    omega
  split_ifs
  · exact first
  · exact both
  · exact both
  · exact both

/-! What each handler asks for. -/

def Field.words (field : Field) : Nat := field.size / 4

theorem within_ite {cond : Prop} {_ : Decidable cond} {left right : Program State} {capacities : List Nat}
    (first : cond → left.Within capacities) (second : ¬cond → right.Within capacities) :
    (if cond then left else right).Within capacities := by
  split_ifs with holds
  · exact first holds
  · exact second holds

theorem within_readExact {num capacity : Nat} {rest : List Nat} {store : List Word → Cfg State}
    {next : Cfg State → List Word → Program State} (fits : num ≤ capacity)
    (onward : ∀ cfg words, (next cfg words).Within rest) :
    (readExact num store next).Within (capacity :: rest) := by
  rw [readExact, Reader.within_read]
  constructor
  · exact fits
  · intro ret words
    exact within_ite (fun _ => Reader.within_done) fun _ => onward _ _

theorem within_readWord {cfg : Cfg State} {rest : List Nat} {next : Word → Program State}
    (onward : ∀ word, (next word).Within rest) :
    (readWord cfg next).Within (Field.words .word :: rest) :=
  within_readExact (by decide) fun _ words => onward (words.headD 0)

theorem lenToWord_aligned_le {size limit : Nat} (most : size ≤ limit) :
    lenToWord (len32Aligned size) ≤ (len32Aligned limit) / 4 := by
  rw [len32Aligned_words, lenToWord_eq, len32Aligned, lenToWord_eq]
  omega

variable (follow : Follow State) (memory : Bool) (rsp : RspHdr) (cfg : Cfg State)

theorem within_mt7697ProcScanInd :
    (mt7697ProcScanInd follow rsp cfg).Within ((destinations .scanInd).map Field.words) := by
  unfold mt7697ProcScanInd
  apply within_ite (fun _ => Reader.within_done)
  intro long
  apply within_readWord
  intro rssi
  apply within_readWord
  intro ch
  apply within_ite (fun _ => Reader.within_done)
  intro small
  apply within_ite (fun _ => Reader.within_done)
  intro some
  exact within_readExact (lenToWord_aligned_le (Nat.le_of_not_lt small)) fun _ _ => Reader.within_done

theorem within_mt7697RxRaw :
    (mt7697RxRaw follow rsp cfg).Within ((destinations .rxRaw).map Field.words) := by
  unfold mt7697RxRaw
  apply within_ite (fun _ => Reader.within_done)
  intro long
  apply within_ite (fun _ => Reader.within_done)
  intro small
  exact within_readExact (lenToWord_aligned_le (Nat.le_of_not_lt small)) fun _ _ => Reader.within_done

theorem within_mt7697Proc80211cmd : (mt7697Proc80211cmd follow memory rsp cfg).Within
    ((destinations (cmdType rsp.type)).map Field.words) := by
  -- Each handler refuses without a read, or makes the reads that are listed for it.
  cases kind : cmdType rsp.type <;> simp only [mt7697Proc80211cmd, kind]
  case macAddrRsp =>
    unfold mt7697ProcMacAddr
    split_ifs
    · exact Reader.within_done
    · exact within_readExact (by decide) fun _ _ => Reader.within_done
  case getCfgRsp =>
    unfold mt7697ProcGetCfg
    split_ifs
    · exact Reader.within_done
    · exact Reader.within_done
    · exact within_readExact (by decide) fun _ _ => Reader.within_done
  case getWirelessModeRsp =>
    unfold mt7697ProcGetWirelessMode
    split_ifs
    · exact Reader.within_done
    · exact within_readWord fun _ => Reader.within_done
  case getListenIntervalRsp =>
    unfold mt7697ProcGetListenInterval
    split_ifs
    · exact Reader.within_done
    · exact within_readWord fun _ => Reader.within_done
  case scanRsp => exact within_readWord fun _ => Reader.within_done
  case scanCompleteInd => exact within_readWord fun _ => Reader.within_done
  case scanInd => exact within_mt7697ProcScanInd follow rsp cfg
  case connectInd =>
    unfold mt7697ProcConnectInd
    split_ifs
    · exact Reader.within_done
    · exact within_readWord fun _ => within_readWord fun _ =>
        within_readExact (by decide) fun _ _ => Reader.within_done
  case disconnectInd =>
    exact within_readWord fun _ => within_readExact (by decide) fun _ _ => Reader.within_done
  case rxRaw => exact within_mt7697RxRaw follow rsp cfg
  all_goals exact Reader.within_done

/-- Whatever the firmware sends, its words end up in their fields. -/
theorem received_inside (qs : QueueSpec) :
    ∀ access ∈ received follow memory rsp cfg qs, access.Inside := by
  intro access member
  obtain ⟨index, inside, rfl⟩ := List.mem_mapIdx.mp member
  obtain ⟨capacity, found, fits⟩ := Reader.served_within mt7697qRead_length
    (within_mt7697Proc80211cmd follow memory rsp cfg) (List.getElem?_eq_getElem inside)
  rw [List.getElem?_map, Option.map_eq_some_iff] at found
  obtain ⟨field, here, rfl⟩ := found
  have size : (destinations (cmdType rsp.type)).getD index .nowhere = field := by
    rw [List.getD_eq_getElem?_getD, here, Option.getD_some]
  simp only [Access.Inside, size]
  have words : 4 * field.words ≤ field.size := Nat.mul_div_le _ _
  omega

/-! The send side. -/

/-- A copy into a field leaves what is behind it alone exactly when it is inside. -/
theorem memcpy_behind_iff (offset : Nat) (source : Nat → BitVec 8) (access : Access) :
    (∀ bytes index, offset + access.field.size ≤ index →
      RequestBytes.memcpy offset source access.count bytes index = bytes index) ↔
      access.Inside := by
  constructor
  · intro kept
    by_contra large
    have beyond : access.field.size < access.count := Nat.lt_of_not_le large
    -- The first byte behind the field, when it holds anything else before the copy.
    have first := kept (fun _ => ~~~source access.field.size) (offset + access.field.size)
      (Nat.le_refl _)
    have copied : offset + access.field.size < offset + access.count := by omega
    simp [RequestBytes.memcpy, RequestBytes.Bytes.put, copied, beyond] at first
  · intro inside bytes index behind
    have small : access.count ≤ access.field.size := inside
    exact RequestBytes.memcpy_apply_ge (by omega)

theorem trimEssid_length_le (flags : Bool) (essid : List (BitVec 8)) :
    (trimEssid flags essid).length ≤ essid.length := by
  unfold trimEssid
  cases flags <;> dsimp only <;> split_ifs <;> simp

theorem wrSetSsidReq_inside {len : Nat} (short : len ≤ RequestBytes.maxSsidLen) :
    ∀ access ∈ mt7697WrSetSsidReq len, access.Inside := by
  intro access member
  obtain rfl := List.mem_singleton.mp member
  have low : (BitVec.ofNat 8 len).toNat ≤ len := by
    rw [BitVec.toNat_ofNat]
    exact Nat.mod_le _ _
  exact Nat.le_trans low short

theorem siwessid_inside {iftype : IfType} {flags : Bool} {essid : List (BitVec 8)} {setOpMode : Int}
    (short : essid.length ≤ RequestBytes.maxSsidLen) :
    ∀ access ∈ mt7697WextSiwessid iftype flags essid setOpMode, access.Inside := by
  have trimmed := Nat.le_trans (trimEssid_length_le flags essid) short
  have request := wrSetSsidReq_inside trimmed
  have both : ∀ access ∈ [⟨.vifSsid, (trimEssid flags essid).length⟩,
      ⟨.wdevSsid, (trimEssid flags essid).length⟩], Access.Inside access := by
    intro access member
    simp only [List.mem_cons, List.not_mem_nil, or_false] at member
    rcases member with rfl | rfl
    · exact trimmed
    · exact trimmed
  unfold mt7697WextSiwessid
  dsimp only
  split_ifs
  · simp
  · exact both
  · intro access member
    rcases List.mem_append.mp member with stored | sent
    · exact both access stored
    · exact request access sent

theorem startAp_inside {ssid : List (BitVec 8)} {setSsid : Int}
    (short : ssid.length ≤ RequestBytes.maxSsidLen) :
    ∀ access ∈ mt7697Cfg80211StartAp ssid setSsid, access.Inside := by
  have request := wrSetSsidReq_inside short
  unfold mt7697Cfg80211StartAp
  split_ifs
  · exact request
  · intro access member
    rcases List.mem_append.mp member with sent | stored
    · exact request access sent
    · obtain rfl := List.mem_singleton.mp stored
      exact short

theorem wrScanReq_inside {ssids : List (List (BitVec 8))}
    (short : ∀ ssid ∈ ssids, ssid.length ≤ RequestBytes.maxSsidLen) :
    ∀ access ∈ mt7697WrScanReq ssids, access.Inside := by
  cases ssids with
  | nil => simp [mt7697WrScanReq]
  | cons ssid rest =>
      intro access member
      obtain rfl : access = ⟨.scanReqSsid, (BitVec.ofNat 8 ssid.length).toNat⟩ := by
        simpa [mt7697WrScanReq] using member
      have low : (BitVec.ofNat 8 ssid.length).toNat ≤ ssid.length := by
        rw [BitVec.toNat_ofNat]
        exact Nat.mod_le _ _
      exact Nat.le_trans low (short ssid List.mem_cons_self)

/-- The header is in front of the data, so its words end where the data ends. -/
theorem wrTxRawPacket_inside_iff (len : BitVec 32) :
    (∀ access ∈ mt7697WrTxRawPacket len, access.Inside) ↔ len.toNat ≤ RequestBytes.maxFrameLen := by
  constructor
  · intro inside
    exact inside _ List.mem_cons_self
  · intro short access member
    have small : len.toNat ≤ 2352 := short
    have whole : (BitVec.ofNat 16 (8 + len.toNat)).toNat = 8 + len.toNat := by
      rw [BitVec.toNat_ofNat, Nat.mod_eq_of_lt (by omega)]
    simp only [mt7697WrTxRawPacket, whole, len32Aligned_words, List.mem_cons, List.not_mem_nil,
      or_false] at member
    rcases member with rfl | rfl
    · exact short
    · have size : len32Aligned RequestBytes.maxFrameLen = 2352 := by decide
      simp only [Access.Inside, Field.size, size, lenToWord_eq]
      omega

/-- The words counted are those of the request. -/
theorem txReq_words (data : Nat → BitVec 8) (len : BitVec 32) (txReq : RequestBytes.Bytes) :
    ⟨.txReq, 4 * (RequestBytes.mt7697WrTxRawPacket data len txReq).length⟩ ∈
      mt7697WrTxRawPacket len := by
  simp [mt7697WrTxRawPacket, RequestBytes.mt7697WrTxRawPacket, RequestBytes.Bytes.words]

theorem siwencodeext_inside_iff {iftype : IfType} {algPmk : Bool} {key : List (BitVec 8)} :
    (∀ access ∈ mt7697WextSiwencodeext iftype algPmk key, access.Inside) ↔
      ((iftype = .station ∨ iftype = .ap) → algPmk = true → key.length ≤ RequestBytes.lengthPmk) := by
  unfold mt7697WextSiwencodeext
  split_ifs with other pmk
  · simp only [List.not_mem_nil, false_implies, implies_true, true_iff]
    exact fun supported => absurd supported (by tauto)
  · simp only [List.mem_singleton, forall_eq, pmk, true_implies]
    exact ⟨fun inside _ => inside, fun fits => fits (by tauto)⟩
  · simp [pmk]

/-- A field is overrun only by a long packet or a long key. -/
theorem fields_held_iff (entry : Entry State) (admitted : entry.Admitted) :
    (∀ access ∈ accesses entry, access.Inside) ↔ entry.Fits := by
  cases entry with
  | response follow memory rsp cfg qs =>
      exact iff_of_true (received_inside follow memory rsp cfg qs) trivial
  | txWork packets =>
      simp only [accesses, mt7697TxWork, Entry.Fits, ← wrTxRawPacket_inside_iff]
      constructor
      · intro inside len listed access member
        exact inside access (List.mem_flatMap.mpr ⟨len, listed, member⟩)
      · intro inside access member
        obtain ⟨len, listed, here⟩ := List.mem_flatMap.mp member
        exact inside len listed access here
  | siwessid iftype flags essid setOpMode => exact iff_of_true (siwessid_inside admitted) trivial
  | startAp ssid setSsid => exact iff_of_true (startAp_inside admitted) trivial
  | joinIbss ssid =>
      refine iff_of_true ?_ trivial
      intro access member
      obtain rfl := List.mem_singleton.mp member
      exact admitted
  | scan ssids => exact iff_of_true (wrScanReq_inside admitted) trivial
  | siwencodeext iftype algPmk key => exact siwencodeext_inside_iff

/-- A key of 32 bytes is stored. -/
theorem fields_held_iff_key :
    (.siwencodeext .ap true (List.replicate 32 7) : Entry Unit).Admitted ∧
      ((∀ access ∈ accesses (.siwencodeext .ap true (List.replicate 32 7) : Entry Unit),
        access.Inside) ↔ (.siwencodeext .ap true (List.replicate 32 7) : Entry Unit).Fits) :=
  have admitted : (.siwencodeext .ap true (List.replicate 32 7) : Entry Unit).Admitted :=
    show 32 ≤ 64 by decide
  ⟨admitted, fields_held_iff (.siwencodeext .ap true (List.replicate 32 7)) admitted⟩

/-- A key of 33 bytes is admitted and goes one byte behind `vif->pmk`; a frame of
2353 bytes goes behind the request. -/
theorem fields_overrun :
    ¬∀ entry : Entry Unit, entry.Admitted → ∀ access ∈ accesses entry, access.Inside := by
  intro held
  have stored := held (.siwencodeext .station true (List.replicate 33 7)) (show 33 ≤ 64 by decide)
    ⟨.vifPmk, 33⟩ List.mem_cons_self
  exact absurd stored (by decide)

end MangOH.FieldBounds
