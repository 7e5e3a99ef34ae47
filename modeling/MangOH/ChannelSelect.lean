import Mathlib.Algebra.Ring.Int.Defs
import MangOH.Credentials

/-!
Channel selection. `siwfreq` takes a channel number or a frequency as a mantissa
and an exponent of ten, in two variants of the code by kernel version; `siwessid`
later sends the channel it stored. A frequency is what `m * 10^e` hertz says,
whichever way it is written. The recent variant reads one exponent only and cuts
off the rest below a hundred kilohertz; the older one accepts everything, and its
power of ten wraps.
-/

namespace MangOH.Station

/-- `struct iw_freq`. -/
structure IwFreq where
  m : Int
  e : Int
  mantissa : -2147483648 ≤ m ∧ m < 2147483648
  exponent : -32768 ≤ e ∧ e < 32768

/-- The sides of `LINUX_VERSION_CODE >= KERNEL_VERSION(3,18,44)`. -/
inductive Kernel where
  | recent
  | older

/-- The channel of a frequency in MHz. -/
def channelOf (mhz : Int) : Option Nat := (freqList.idxOf? mhz).map (· + 1)

/-- `ieee80211_freq_to_dsss_chan` of the kernel. -/
structure DsssChan where
  chan : Int → Int
  documented : ∀ mhz, chan mhz = ((channelOf mhz).map Int.ofNat).getD (-1)

/-- `denom` after so many rounds of its loop, an `int`. -/
def denomAfter : Nat → Int
  | 0 => 1
  | rounds + 1 => (denomAfter rounds * 10).bmod 4294967296

def IwFreq.rounds (freq : IwFreq) : Nat := (6 - freq.e).toNat

/-- Setting by channel number. -/
def IwFreq.Number (freq : IwFreq) : Prop := freq.e = 0 ∧ freq.m ≤ 1000

instance (freq : IwFreq) : Decidable freq.Number := inferInstanceAs (Decidable (_ ∧ _))

/-- The store into `ch_hint`, which has 16 bits. -/
def Cfg.hint (cfg : Cfg) (chan : Int) : Cfg :=
  { cfg with vif := { cfg.vif with chHint := (chan % 65536).toNat } }

/-- The other side of the conditional; a division by zero gives nothing. -/
def mt7697WextSiwfreqOlder (dsss : DsssChan) (freq : IwFreq) (cfg : Cfg) : Option (Cfg × Int) :=
  if freq.Number then some (cfg.hint freq.m, 0)
  else if denomAfter freq.rounds = 0 then none
  else some (cfg.hint (dsss.chan (freq.m.tdiv (denomAfter freq.rounds))), 0)

def siwfreq (dsss : DsssChan) (freq : IwFreq) (cfg : Cfg) : Kernel → Option (Cfg × Int)
  | .recent => some (mt7697WextSiwfreq freq.m freq.e cfg)
  | .older => mt7697WextSiwfreqOlder dsss freq cfg

/-! What a setting denotes. -/

/-- `m * 10^e` is `mhz` megahertz. -/
def IwFreq.Megahertz (freq : IwFreq) (mhz : Int) : Prop :=
  freq.m * 10 ^ freq.e.toNat = mhz * 10 ^ 6 * 10 ^ (-freq.e).toNat

def IwFreq.Centre (freq : IwFreq) (ch : Nat) : Prop :=
  ∃ mhz, channelOf mhz = some ch ∧ freq.Megahertz mhz

/-- A channel number of 1 or more, or a centre frequency. -/
def IwFreq.Denotes (freq : IwFreq) (ch : Nat) : Prop :=
  freq.Number ∧ 1 ≤ ch ∧ freq.m = ch ∨ freq.Centre ch

def IwFreq.SameFrequency (freq other : IwFreq) : Prop :=
  freq.m * 10 ^ freq.e.toNat * 10 ^ (-other.e).toNat =
    other.m * 10 ^ other.e.toNat * 10 ^ (-freq.e).toNat

def Request.channel? : Request → Option Nat
  | .setChannel channel => some channel
  | _ => none

/-- The channels that one `siwessid` asks the firmware for. -/
def channelRequests (flags : Bool) (essid : List Octet) (writes : EssidWrites) (cfg : Cfg) :
    List Nat :=
  (mt7697WextSiwessid flags essid writes { cfg with sent := [] }).1.sent.filterMap Request.channel?

/-- Every channel request is for `ch`, and one is made when nothing fails. -/
structure Carries (cfg : Cfg) (ch : Nat) : Prop where
  only : ∀ flags essid writes, ∀ number ∈ channelRequests flags essid writes cfg, number = ch
  made : ∀ flags essid, trimEssid flags essid ≠ [] →
    cfg.vif.iftype = .station ∨ cfg.vif.iftype = .ap →
      ch ∈ channelRequests flags essid ⟨0, 0, 0, 0, 0, 0, 0⟩ cfg

/-- No product of the older loop leaves its `int`. -/
def NoOverflow (freq : IwFreq) : Kernel → Prop
  | .recent => True
  | .older => ¬ freq.Number → ∀ round < freq.rounds,
      -2147483648 ≤ denomAfter round * 10 ∧ denomAfter round * 10 < 2147483648

/-- A call on `cfg` that left `after` and returned `ret` chose the channel. -/
structure Chosen (freq : IwFreq) (cfg after : Cfg) (ret : Int) : Prop where
  accepted : ret = 0 ↔ ∃ ch, freq.Denotes ch
  refused : ret ≠ 0 → after.vif.chHint = cfg.vif.chHint
  stored : ∀ ch, freq.Denotes ch → after.vif.chHint = ch
  carried : ∀ ch, freq.Denotes ch → ∀ later : Cfg, later.vif.chHint = after.vif.chHint →
    Carries later ch

/-- Every accepted encoding of the same frequency gives the same channel. -/
def SameChannel (dsss : DsssChan) (freq : IwFreq) (cfg after : Cfg) (kernel : Kernel) : Prop :=
  ¬ freq.Number → ∀ other : IwFreq, ¬ other.Number → freq.SameFrequency other →
    ∀ again, siwfreq dsss other cfg kernel = some (again, 0) →
      again.vif.chHint = after.vif.chHint

def Selected (dsss : DsssChan) (freq : IwFreq) (cfg : Cfg) (kernel : Kernel) : Prop :=
  NoOverflow freq kernel ∧ ∃ after ret, siwfreq dsss freq cfg kernel = some (after, ret) ∧
    Chosen freq cfg after ret ∧ (ret = 0 → SameChannel dsss freq cfg after kernel)

/-- The channel numbers of a byte; of the frequencies, what the variant's own
reading of them gets right. -/
def Exact (freq : IwFreq) : Kernel → Prop
  | .recent =>
      if freq.Number then 1 ≤ freq.m ∧ freq.m ≤ 255
      else if freq.e = 1 then ∀ mhz ∈ freqList, freq.m.tdiv 100000 = mhz → freq.m = mhz * 100000
      else 2 ≤ freq.e ∧ freq.e ≤ 6 → ∀ mhz ∈ freqList, freq.m ≠ mhz * 10 ^ freq.rounds
  | .older =>
      if freq.Number then 1 ≤ freq.m ∧ freq.m ≤ 255
      else 1 ≤ freq.e ∧ freq.e ≤ 6 ∧ ∃ mhz ∈ freqList, freq.m = mhz * 10 ^ freq.rounds

/-! Frequencies. -/

theorem channelOf_isSome {mhz : Int} : (channelOf mhz).isSome = true ↔ mhz ∈ freqList := by
  rw [channelOf, Option.isSome_map, List.isSome_idxOf?]

theorem channelOf_mem {mhz : Int} {ch : Nat} (found : channelOf mhz = some ch) :
    mhz ∈ freqList :=
  channelOf_isSome.mp (Option.isSome_of_eq_some found)

theorem channelOf_range {mhz : Int} {ch : Nat} (found : channelOf mhz = some ch) :
    1 ≤ ch ∧ ch ≤ 14 := by
  obtain ⟨place, present, rfl⟩ := Option.map_eq_some_iff.mp found
  have inside : place < freqList.length := (List.idxOf?_eq_some_iff.mp present).1
  have entries : freqList.length = 14 := rfl
  omega

theorem freqList_range : ∀ mhz ∈ freqList, 2412 ≤ mhz ∧ mhz ≤ 2484 ∧ mhz % 10 ≠ 0 := by
  decide

theorem pow_ten_pos (k : Nat) : (0 : Int) < 10 ^ k := Int.pow_pos (by decide)

theorem pow_ten_ne (k : Nat) : (10 : Int) ^ k ≠ 0 := Int.ne_of_gt (pow_ten_pos k)

/-- A frequency below the range of the exponent has a mantissa of its own size. -/
theorem centre_nonpos {freq : IwFreq} {mhz : Int} (listed : mhz ∈ freqList) (low : freq.e ≤ 0) :
    ¬ freq.Megahertz mhz := by
  intro same
  have range := freqList_range mhz listed
  have one : (1 : Int) ≤ 10 ^ (-freq.e).toNat := pow_ten_pos _
  have whole : freq.m = mhz * 1000000 * 10 ^ (-freq.e).toNat := by
    have zero : freq.e.toNat = 0 := by omega
    simpa [IwFreq.Megahertz, zero] using same
  have large : mhz * 1000000 * 1 ≤ mhz * 1000000 * 10 ^ (-freq.e).toNat :=
    Int.mul_le_mul_of_nonneg_left one (by omega)
  have bound := freq.mantissa.2
  omega

/-- No listed frequency is a multiple of ten megahertz. -/
theorem centre_above {freq : IwFreq} {mhz : Int} (listed : mhz ∈ freqList) (high : 7 ≤ freq.e) :
    ¬ freq.Megahertz mhz := by
  intro same
  have range := freqList_range mhz listed
  obtain ⟨more, split⟩ : ∃ more, freq.e.toNat = more + 1 + 6 := ⟨freq.e.toNat - 7, by omega⟩
  have nothing : (-freq.e).toNat = 0 := by omega
  have tens : freq.m * 10 ^ more * 10 = mhz := by
    apply Int.eq_of_mul_eq_mul_right (pow_ten_ne 6)
    rw [IwFreq.Megahertz, split, nothing, Int.pow_zero, Int.mul_one, Int.pow_add, Int.pow_succ] at same
    rw [← same, Int.mul_assoc, Int.mul_assoc, Int.mul_assoc]
  omega

theorem megahertz_iff {freq : IwFreq} {mhz : Int} (low : 1 ≤ freq.e) (high : freq.e ≤ 6) :
    freq.Megahertz mhz ↔ freq.m = mhz * 10 ^ freq.rounds := by
  have six : freq.rounds + freq.e.toNat = 6 := by
    unfold IwFreq.rounds
    omega
  have nothing : (-freq.e).toNat = 0 := by omega
  rw [IwFreq.Megahertz, nothing, Int.pow_zero, Int.mul_one, ← six, Int.pow_add, ← Int.mul_assoc]
  exact Int.mul_eq_mul_right_iff (pow_ten_ne _)

theorem centre_iff {freq : IwFreq} {ch : Nat} :
    freq.Centre ch ↔ 1 ≤ freq.e ∧ freq.e ≤ 6 ∧
      ∃ mhz, channelOf mhz = some ch ∧ freq.m = mhz * 10 ^ freq.rounds := by
  constructor
  · rintro ⟨mhz, found, same⟩
    have low : 1 ≤ freq.e := Int.not_lt.mp fun below =>
      centre_nonpos (channelOf_mem found) (Int.lt_add_one_iff.mp below) same
    have high : freq.e ≤ 6 := Int.not_lt.mp fun above =>
      centre_above (channelOf_mem found) above same
    exact ⟨low, high, mhz, found, (megahertz_iff low high).mp same⟩
  · rintro ⟨low, high, mhz, found, same⟩
    exact ⟨mhz, found, (megahertz_iff low high).mpr same⟩

theorem denotes_number {freq : IwFreq} (number : freq.Number) {ch : Nat} :
    freq.Denotes ch ↔ 1 ≤ ch ∧ freq.m = ch := by
  constructor
  · rintro (⟨_, denoted⟩ | centre)
    · exact denoted
    · have positive := (centre_iff.mp centre).1
      have zero := number.1
      omega
  · exact fun denoted => .inl ⟨number, denoted⟩

theorem denotes_centre {freq : IwFreq} (frequency : ¬ freq.Number) {ch : Nat} :
    freq.Denotes ch ↔ freq.Centre ch :=
  ⟨fun denoted => denoted.resolve_left fun number => frequency number.1, .inr⟩

theorem megahertz_same {freq other : IwFreq} {mhz : Int} (same : freq.SameFrequency other)
    (centre : freq.Megahertz mhz) : other.Megahertz mhz := by
  apply Int.eq_of_mul_eq_mul_right (pow_ten_ne (-freq.e).toNat)
  rw [IwFreq.SameFrequency, centre] at same
  rw [← same, Int.mul_right_comm]

/-! The channel requests of `siwessid`. -/

/-- The stored channel, and no request for another. -/
def Tuned (hint : Nat) (cfg : Cfg) : Prop :=
  cfg.vif.chHint = hint ∧ ∀ number, Request.setChannel number ∈ cfg.sent → number = hint % 256

section Tuned

variable {hint : Nat} {cfg : Cfg}

theorem tuned_bind {op : Op} {next : Cfg → Op} (first : Tuned hint (finish op).1)
    (rest : ∀ cfg, Tuned hint cfg → Tuned hint (finish (next cfg)).1) :
    Tuned hint (finish (op >>= next)).1 := by
  cases op with
  | ok cfg => exact rest cfg first
  | error exit => exact first

theorem tuned_write (ret : Int) {request : Request} (tuned : Tuned hint cfg)
    (fits : ∀ number, request = .setChannel number → number = hint % 256) :
    Tuned hint (finish (write ret request cfg)).1 := by
  unfold write
  split_ifs
  · exact tuned
  · refine ⟨tuned.1, fun number member => ?_⟩
    rcases List.mem_append.mp member with before | new
    · exact tuned.2 number before
    · exact fits number (List.mem_singleton.mp new).symm

theorem tuned_writeIf (cond : Prop) [Decidable cond] (ret : Int) {request : Request}
    (tuned : Tuned hint cfg)
    (fits : ∀ number, request = .setChannel number → number = hint % 256) :
    Tuned hint (finish (writeIf cond ret request cfg)).1 := by
  unfold writeIf
  split_ifs
  · exact tuned_write ret tuned fits
  · exact tuned

theorem tuned_configure (essid : List Octet) (writes : EssidWrites) (tuned : Tuned hint cfg) :
    Tuned hint (finish (configureEssid essid writes cfg)).1 := by
  unfold configureEssid
  refine tuned_bind (tuned_writeIf _ _ tuned (by simp)) fun first one => ?_
  refine tuned_bind (tuned_write _ one (by simp)) fun second two => ?_
  split_ifs
  · refine tuned_bind (tuned_writeIf _ _ two (by simp)) fun third three => ?_
    -- The request takes the hint as it is here.
    have own : ∀ number, Request.setChannel (third.vif.chHint % 256) = .setChannel number →
        number = hint % 256 := by
      rintro _ ⟨rfl⟩
      rw [three.1]
    refine tuned_bind (tuned_writeIf _ _ three own) fun fourth four => ?_
    unfold writeKey
    split_ifs
    · exact tuned_write _ four (by simp)
    · exact tuned_write _ four (by simp)
  · exact two

theorem tuned_start (reload : Int) (tuned : Tuned hint cfg) :
    Tuned hint (finish (startConnect reload cfg)).1 := by
  unfold startConnect
  dsimp only
  split_ifs
  · exact tuned
  · exact tuned_write reload tuned (by simp)

theorem tuned_apply (essid : List Octet) (writes : EssidWrites) (tuned : Tuned hint cfg) :
    Tuned hint (finish (applyEssid essid writes cfg)).1 := by
  unfold applyEssid
  refine tuned_bind (tuned_configure essid writes tuned) fun configured same => ?_
  split_ifs
  · exact same
  · exact tuned_start _ same
  · exact tuned_writeIf _ _ same (by simp)

end Tuned

theorem channelRequests_only {flags : Bool} {essid : List Octet} {writes : EssidWrites} {cfg : Cfg}
    {number : Nat} (asked : number ∈ channelRequests flags essid writes cfg) :
    number = cfg.vif.chHint % 256 := by
  obtain ⟨request, sent, own⟩ := List.mem_filterMap.mp asked
  have tuned : Tuned cfg.vif.chHint (mt7697WextSiwessid flags essid writes { cfg with sent := [] }).1 := by
    unfold mt7697WextSiwessid
    split_ifs
    · exact ⟨rfl, by simp⟩
    · exact tuned_apply _ writes ⟨rfl, by simp [recordEssid]⟩
  cases request with
  | setChannel channel =>
      obtain rfl : channel = number := Option.some.inj own
      exact tuned.2 channel sent
  | _ => simp [Request.channel?] at own

theorem channelRequests_made {flags : Bool} {essid : List Octet} {cfg : Cfg}
    (named : trimEssid flags essid ≠ [])
    (supported : cfg.vif.iftype = .station ∨ cfg.vif.iftype = .ap) (hint : 0 < cfg.vif.chHint) :
    cfg.vif.chHint % 256 ∈ channelRequests flags essid ⟨0, 0, 0, 0, 0, 0, 0⟩ cfg := by
  have known : ¬ (cfg.vif.iftype ≠ .station ∧ cfg.vif.iftype ≠ .ap) := by
    rintro ⟨station, ap⟩
    exact supported.elim station ap
  have configured : ∃ sent, configureEssid (trimEssid flags essid) ⟨0, 0, 0, 0, 0, 0, 0⟩
      (recordEssid (trimEssid flags essid) { cfg with sent := [] }) =
        .ok { recordEssid (trimEssid flags essid) cfg with sent := sent } ∧
      Request.setChannel (cfg.vif.chHint % 256) ∈ sent := by
    by_cases alone : cfg.opmode = .staOnly <;> by_cases key : cfg.vif.pmk = 0#256 <;>
      simp [configureEssid, recordEssid, writeIf, write, writeKey, named, alone, key, hint]
  obtain ⟨sent, done, member⟩ := configured
  refine List.mem_filterMap.mpr ⟨.setChannel (cfg.vif.chHint % 256), ?_, rfl⟩
  simp only [mt7697WextSiwessid, known, if_false, applyEssid, done, ok_bind, named, ne_eq,
    not_false_eq_true, if_true]
  by_cases connected : cfg.vif.connected = true <;>
    by_cases destroy : cfg.destroyInProgress = true <;>
    simp [recordEssid, startConnect, write, finish, Cfg.report, connected, destroy, member]

/-- The byte of the request has to hold the channel. -/
theorem carries_iff {hint ch : Nat} (positive : 0 < hint) :
    (∀ later : Cfg, later.vif.chHint = hint → Carries later ch) ↔ hint % 256 = ch := by
  constructor
  · intro carries
    let later : Cfg := { idle with vif := { idle.vif with chHint := hint } }
    have made : hint % 256 ∈ channelRequests true [109] ⟨0, 0, 0, 0, 0, 0, 0⟩ later :=
      channelRequests_made (by decide) (.inl rfl) positive
    exact (carries later rfl).only _ _ _ _ made
  · rintro rfl later rfl
    exact ⟨fun _ _ _ _ asked => channelRequests_only asked,
      fun _ _ named supported => channelRequests_made named supported positive⟩

/-! One call. -/

section Chosen

variable {freq : IwFreq} {cfg after : Cfg} {ret : Int} {ch : Nat}

theorem Chosen.byte (chosen : Chosen freq cfg after ret) (denoted : freq.Denotes ch)
    (positive : 1 ≤ ch) : ch ≤ 255 := by
  have stored := chosen.stored ch denoted
  have cut := (carries_iff (by omega)).mp (chosen.carried ch denoted)
  omega

theorem chosen_hint (denoted : ∀ other, freq.Denotes other ↔ other = ch) (positive : 1 ≤ ch)
    (byte : ch ≤ 255) : Chosen freq cfg (cfg.hint ch) 0 := by
  have stored : (cfg.hint ch).vif.chHint = ch := by
    change ((ch : Int) % 65536).toNat = ch
    omega
  refine ⟨⟨fun _ => ⟨ch, (denoted ch).mpr rfl⟩, fun _ => rfl⟩, fun failed => absurd rfl failed, ?_, ?_⟩
  · intro other own
    rw [stored, (denoted other).mp own]
  · intro other own
    rw [(denoted other).mp own, stored]
    exact (carries_iff positive).mpr (Nat.mod_eq_of_lt (by omega))

theorem chosen_refused (nothing : ∀ other, ¬ freq.Denotes other) (failed : ret ≠ 0) :
    Chosen freq cfg cfg ret where
  accepted := ⟨fun zero => absurd zero failed, fun ⟨other, own⟩ => absurd own (nothing other)⟩
  refused _ := rfl
  stored other own := absurd own (nothing other)
  carried other own := absurd own (nothing other)

end Chosen

section Kernel

variable {dsss : DsssChan} {freq : IwFreq} {cfg : Cfg}

theorem siwfreq_number (number : freq.Number) (kernel : Kernel) :
    siwfreq dsss freq cfg kernel = some (cfg.hint freq.m, 0) := by
  cases kernel with
  | recent =>
      have direct : siwfreqChannel freq.m freq.e = some freq.m := if_pos number
      simp only [siwfreq, mt7697WextSiwfreq, direct]
      rfl
  | older => exact if_pos number

/-- By number both variants take whatever is at most 1000. -/
theorem number_selected_iff (number : freq.Number) (kernel : Kernel) :
    Selected dsss freq cfg kernel ↔ 1 ≤ freq.m ∧ freq.m ≤ 255 := by
  constructor
  · rintro ⟨_, after, ret, called, chosen, _⟩
    rw [siwfreq_number number] at called
    obtain ⟨rfl, rfl⟩ := Prod.mk.inj (Option.some.inj called)
    obtain ⟨ch, denoted⟩ := chosen.accepted.mp rfl
    obtain ⟨positive, same⟩ := (denotes_number number).mp denoted
    have byte := chosen.byte denoted positive
    omega
  · rintro ⟨positive, byte⟩
    obtain ⟨ch, whole⟩ : ∃ ch : Nat, freq.m = ch := ⟨freq.m.toNat, by omega⟩
    refine ⟨?_, _, _, siwfreq_number number kernel, ?_, fun _ frequency => absurd number frequency⟩
    · cases kernel with
      | recent => trivial
      | older => exact fun frequency => absurd number frequency
    · rw [whole]
      refine chosen_hint (fun other => ?_) (by omega) (by omega)
      rw [denotes_number number]
      omega

/-! The recent variant. -/

theorem recent_channel (frequency : ¬ freq.Number) {chan : Int} :
    siwfreqChannel freq.m freq.e = some chan ↔
      freq.e = 1 ∧ ∃ ch, channelOf (freq.m.tdiv 100000) = some ch ∧ chan = ch := by
  have plain : ¬ (freq.e = 0 ∧ freq.m ≤ 1000) := frequency
  rw [siwfreqChannel, if_neg plain]
  split_ifs with window
  · cases place : freqList.idxOf? (freq.m.tdiv 100000) with
    | none => simp [channelOf, place]
    | some index => simp [window.1, channelOf, place, eq_comm]
  · -- The frequencies of the list are inside the window.
    refine ⟨fun none => absurd none (by simp), ?_⟩
    rintro ⟨one, ch, found, _⟩
    obtain ⟨low, high, _⟩ := freqList_range _ (channelOf_mem found)
    exact absurd ⟨one, low, high⟩ window

theorem siwfreq_recent {chan : Int} (chosen : siwfreqChannel freq.m freq.e = some chan) :
    siwfreq dsss freq cfg .recent = some (cfg.hint chan, 0) := by
  simp only [siwfreq, mt7697WextSiwfreq, chosen]
  rfl

theorem siwfreq_recent_none (refused : siwfreqChannel freq.m freq.e = none) :
    siwfreq dsss freq cfg .recent = some (cfg, -einval) := by
  simp only [siwfreq, mt7697WextSiwfreq, refused]

theorem recent_accepts {after : Cfg} (called : siwfreq dsss freq cfg .recent = some (after, 0)) :
    ∃ chan, siwfreqChannel freq.m freq.e = some chan ∧ after = cfg.hint chan := by
  cases chosen : siwfreqChannel freq.m freq.e with
  | none =>
      rw [siwfreq_recent_none chosen] at called
      exact absurd (Prod.mk.inj (Option.some.inj called)).2 (by decide)
  | some chan =>
      rw [siwfreq_recent chosen] at called
      exact ⟨chan, rfl, (Prod.mk.inj (Option.some.inj called)).1.symm⟩

/-- Only the exponent one is read, so there is one mantissa to a frequency. -/
theorem recent_sameChannel {chan : Int} (chosen : siwfreqChannel freq.m freq.e = some chan) :
    SameChannel dsss freq cfg (cfg.hint chan) .recent := by
  intro frequency other another same again called
  obtain ⟨found, own, rfl⟩ := recent_accepts called
  obtain ⟨one, ch, first, rfl⟩ := (recent_channel frequency).mp chosen
  obtain ⟨only, number, second, rfl⟩ := (recent_channel another).mp own
  have mantissa : freq.m = other.m := by
    have scaled : freq.m * 10 = other.m * 10 := by simpa [IwFreq.SameFrequency, one, only] using same
    omega
  rw [mantissa, second] at first
  rw [Option.some.inj first]

theorem recent_refused_iff (refused : siwfreqChannel freq.m freq.e = none) :
    Selected dsss freq cfg .recent ↔ ∀ ch, ¬ freq.Denotes ch := by
  have called : siwfreq dsss freq cfg .recent = some (cfg, -einval) := siwfreq_recent_none refused
  constructor
  · rintro ⟨_, after, ret, returned, chosen, _⟩ ch denoted
    rw [called] at returned
    obtain ⟨rfl, rfl⟩ := Prod.mk.inj (Option.some.inj returned)
    exact absurd (chosen.accepted.mpr ⟨ch, denoted⟩) (by decide)
  · intro nothing
    exact ⟨trivial, cfg, _, called, chosen_refused nothing (by decide),
      fun accepted => absurd accepted (by decide)⟩

theorem centre_unique {mhz : Int} {ch : Nat} (found : channelOf mhz = some ch) (low : 1 ≤ freq.e)
    (high : freq.e ≤ 6) (mantissa : freq.m = mhz * 10 ^ freq.rounds) (other : Nat) :
    freq.Centre other ↔ other = ch := by
  constructor
  · intro centre
    obtain ⟨_, _, same, own, again⟩ := centre_iff.mp centre
    obtain rfl : mhz = same :=
      Int.eq_of_mul_eq_mul_right (pow_ten_ne freq.rounds) (mantissa.symm.trans again)
    exact Option.some.inj (own.symm.trans found)
  · rintro rfl
    exact centre_iff.mpr ⟨low, high, mhz, found, mantissa⟩

theorem rounds_one (one : freq.e = 1) : (10 : Int) ^ freq.rounds = 100000 := by
  rw [IwFreq.rounds, one]
  rfl

/-- The one exponent that is read: nothing may be cut off. -/
theorem recent_first_iff (frequency : ¬ freq.Number) (one : freq.e = 1) :
    Selected dsss freq cfg .recent ↔
      ∀ mhz ∈ freqList, freq.m.tdiv 100000 = mhz → freq.m = mhz * 100000 := by
  have scale := rounds_one one
  cases chosen : siwfreqChannel freq.m freq.e with
  | none =>
      -- Nothing is stored, which is right unless a channel is denoted.
      have unlisted : freq.m.tdiv 100000 ∉ freqList := by
        intro listed
        obtain ⟨ch, found⟩ := Option.isSome_iff_exists.mp (channelOf_isSome.mpr listed)
        rw [(recent_channel frequency).mpr ⟨one, ch, found, rfl⟩] at chosen
        exact absurd chosen (by simp)
      rw [recent_refused_iff chosen]
      constructor
      · rintro _ mhz listed rfl
        exact absurd listed unlisted
      · intro _ ch denoted
        obtain ⟨_, _, mhz, found, mantissa⟩ := centre_iff.mp ((denotes_centre frequency).mp denoted)
        rw [mantissa, scale, Int.mul_tdiv_cancel _ (by decide)] at unlisted
        exact unlisted (channelOf_mem found)
  | some chan =>
      -- A channel is stored, and what the quotient has lost decides whether it is denoted.
      obtain ⟨_, ch, found, rfl⟩ := (recent_channel frequency).mp chosen
      constructor
      · rintro ⟨_, after, ret, called, answer, _⟩ mhz _ cut
        rw [siwfreq_recent chosen] at called
        obtain ⟨rfl, rfl⟩ := Prod.mk.inj (Option.some.inj called)
        obtain ⟨other, denoted⟩ := answer.accepted.mp rfl
        obtain ⟨_, _, own, _, mantissa⟩ := centre_iff.mp ((denotes_centre frequency).mp denoted)
        rw [scale] at mantissa
        rw [mantissa, Int.mul_tdiv_cancel _ (by decide)] at cut
        rw [mantissa, cut]
      · intro whole
        have mantissa : freq.m = freq.m.tdiv 100000 * 10 ^ freq.rounds := by
          rw [scale]
          exact whole _ (channelOf_mem found) rfl
        have range := channelOf_range found
        refine ⟨trivial, _, _, siwfreq_recent chosen, ?_, fun _ => recent_sameChannel chosen⟩
        refine chosen_hint (fun other => ?_) range.1 (by omega)
        rw [denotes_centre frequency]
        exact centre_unique found (by omega) (by omega) mantissa other

theorem recent_rest_iff (frequency : ¬ freq.Number) (rest : freq.e ≠ 1) :
    Selected dsss freq cfg .recent ↔
      (2 ≤ freq.e ∧ freq.e ≤ 6 → ∀ mhz ∈ freqList, freq.m ≠ mhz * 10 ^ freq.rounds) := by
  have refused : siwfreqChannel freq.m freq.e = none := by
    cases chosen : siwfreqChannel freq.m freq.e with
    | none => rfl
    | some chan => exact absurd ((recent_channel frequency).mp chosen).1 rest
  rw [recent_refused_iff refused]
  constructor
  · rintro nothing ⟨low, high⟩ mhz listed mantissa
    obtain ⟨ch, found⟩ := Option.isSome_iff_exists.mp (channelOf_isSome.mpr listed)
    exact nothing ch (.inr (centre_iff.mpr ⟨by omega, high, mhz, found, mantissa⟩))
  · intro different ch denoted
    obtain ⟨low, high, mhz, found, mantissa⟩ := centre_iff.mp ((denotes_centre frequency).mp denoted)
    exact different ⟨by omega, high⟩ mhz (channelOf_mem found) mantissa

/-! The older variant. -/

theorem denomAfter_small : ∀ rounds < 6, denomAfter rounds = 10 ^ rounds := by decide

theorem siwfreq_older_centre (frequency : ¬ freq.Number) {ch : Nat} (centre : freq.Centre ch) :
    siwfreq dsss freq cfg .older = some (cfg.hint ch, 0) := by
  obtain ⟨low, high, mhz, found, mantissa⟩ := centre_iff.mp centre
  have few : freq.rounds < 6 := by
    unfold IwFreq.rounds
    omega
  have denom := denomAfter_small freq.rounds few
  have channel : dsss.chan mhz = ch := by
    rw [dsss.documented, found]
    rfl
  rw [siwfreq, mt7697WextSiwfreqOlder, if_neg frequency, denom, if_neg (pow_ten_ne _), mantissa,
    Int.mul_tdiv_cancel _ (pow_ten_ne _), channel]

/-- A frequency that is no channel's is stored all the same. -/
theorem older_returns (frequency : ¬ freq.Number) {after : Cfg} {ret : Int}
    (called : siwfreq dsss freq cfg .older = some (after, ret)) : ret = 0 := by
  rw [siwfreq, mt7697WextSiwfreqOlder, if_neg frequency] at called
  split_ifs at called
  exact (Prod.mk.inj (Option.some.inj called)).2.symm

theorem older_frequency_iff (frequency : ¬ freq.Number) :
    Selected dsss freq cfg .older ↔
      1 ≤ freq.e ∧ freq.e ≤ 6 ∧ ∃ mhz ∈ freqList, freq.m = mhz * 10 ^ freq.rounds := by
  constructor
  · rintro ⟨_, after, ret, called, chosen, _⟩
    obtain rfl := older_returns frequency called
    obtain ⟨ch, denoted⟩ := chosen.accepted.mp rfl
    obtain ⟨low, high, mhz, found, mantissa⟩ := centre_iff.mp ((denotes_centre frequency).mp denoted)
    exact ⟨low, high, mhz, channelOf_mem found, mantissa⟩
  · rintro ⟨low, high, mhz, listed, mantissa⟩
    obtain ⟨ch, found⟩ := Option.isSome_iff_exists.mp (channelOf_isSome.mpr listed)
    have range := channelOf_range found
    have centre := centre_iff.mpr ⟨low, high, mhz, found, mantissa⟩
    refine ⟨fun _ round below => ?_, _, _, siwfreq_older_centre frequency centre, ?_, fun _ => ?_⟩
    · -- With an exponent up to six the loop has at most five rounds.
      have few : round < 5 := by
        unfold IwFreq.rounds at below
        omega
      have inside : ∀ round < 5, -2147483648 ≤ denomAfter round * 10 ∧
          denomAfter round * 10 < 2147483648 := by decide
      exact inside round few
    · refine chosen_hint (fun other => ?_) range.1 (by omega)
      rw [denotes_centre frequency]
      exact centre_unique found low high mantissa other
    · intro _ other another same again called
      have also : other.Centre ch := ⟨mhz, found, megahertz_same same ((megahertz_iff low high).mpr mantissa)⟩
      rw [siwfreq_older_centre another also] at called
      rw [(Prod.mk.inj (Option.some.inj called)).1]

end Kernel

/-- A channel is chosen as it should be in both variants exactly for the numbers
of a byte and the encodings that the variant reads without a remainder. -/
theorem siwfreq_selected_iff (dsss : DsssChan) (freq : IwFreq) (cfg : Cfg) (kernel : Kernel) :
    Selected dsss freq cfg kernel ↔ Exact freq kernel := by
  by_cases number : freq.Number
  · rw [number_selected_iff number]
    cases kernel with
    | recent => simp only [Exact, number, if_true]
    | older => simp only [Exact, number, if_true]
  · cases kernel with
    | recent =>
        by_cases one : freq.e = 1
        · simp only [Exact, number, if_false, one, if_true, recent_first_iff number one]
        · simp only [Exact, number, if_false, one, recent_rest_iff number one]
    | older => simp only [Exact, number, if_false, older_frequency_iff number]

/-- The table of the kernel. -/
def ieee80211FreqToDsssChan : DsssChan where
  chan mhz := ((channelOf mhz).map Int.ofNat).getD (-1)
  documented _ := rfl

/-- 2413 MHz is no channel's; the older variant stores 65535 for it and returns 0. -/
theorem siwfreq_stores_unknown :
    ¬ ∀ (dsss : DsssChan) (freq : IwFreq) (cfg : Cfg) (kernel : Kernel),
      Selected dsss freq cfg kernel := by
  intro selected
  obtain ⟨_, after, ret, called, chosen, _⟩ :=
    selected ieee80211FreqToDsssChan ⟨2413, 6, by decide, by decide⟩ idle .older
  have returned : siwfreq ieee80211FreqToDsssChan ⟨2413, 6, by decide, by decide⟩ idle .older =
      some (idle.hint (-1), 0) := rfl
  rw [returned] at called
  obtain ⟨_, rfl⟩ := Prod.mk.inj (Option.some.inj called)
  obtain ⟨ch, number | centre⟩ := chosen.accepted.mp rfl
  · exact absurd number.1 (by decide)
  · obtain ⟨_, _, mhz, found, same⟩ := centre_iff.mp centre
    have unlisted : ∀ mhz ∈ freqList, (2413 : Int) ≠ mhz * 10 ^ 0 := by decide
    exact unlisted mhz (channelOf_mem found) same

end MangOH.Station
