import Mathlib.Data.List.Basic

/-!
The range report of the WiFi driver. `giwrange` copies the channels and the rates
of two bands into two arrays of the report and counts them beside the copying. A
loop is the list of its stores, so that a store outside an array or over another
one can be seen.
-/

namespace MangOH.RangeReport

/-! Stores into an array. -/

section Stores

variable {α β : Type}

abbrev Store (β : Type) := Nat × β

/-- The loop over a table, from an index on. -/
def fill (entry : α → β) : Nat → List α → List (Store β)
  | _, [] => []
  | index, item :: rest => (index, entry item) :: fill entry (index + 1) rest

attribute [local simp] fill

def apply (stores : List (Store β)) (array : List β) : List β :=
  stores.foldl (fun array store => array.set store.1 store.2) array

/-- An array of `limit` entries, zero before the stores, has what fits of
`wanted` and nothing else was stored; `count` says how many there are. -/
structure Filled (limit : Nat) (zero : β) (stores : List (Store β)) (wanted : List β)
    (count : Nat) : Prop where
  inside : ∀ store ∈ stores, store.1 < limit
  once : (stores.map Prod.fst).Nodup
  entries : (apply stores (List.replicate limit zero)).take count = wanted.take limit
  counted : count = stores.length

@[simp] theorem fill_length (entry : α → β) (index : Nat) (table : List α) :
    (fill entry index table).length = table.length := by
  induction table generalizing index with
  | nil => rfl
  | cons item rest ih => rw [fill, List.length_cons, List.length_cons, ih]

theorem fill_indices (entry : α → β) (index : Nat) (table : List α) :
    (fill entry index table).map Prod.fst = List.range' index table.length := by
  induction table generalizing index with
  | nil => rfl
  | cons item rest ih => rw [fill, List.map_cons, ih, List.length_cons, List.range'_succ]

/-- The stores of one loop replace a prefix of the rest of the array. -/
theorem apply_fill (entry : α → β) (table : List α) (done rest : List β)
    (fits : table.length ≤ rest.length) :
    apply (fill entry done.length table) (done ++ rest) =
      done ++ table.map entry ++ rest.drop table.length := by
  induction table generalizing done rest with
  | nil => simp [apply]
  | cons item table ih =>
      cases rest with
      | nil => exact absurd fits (by simp)
      | cons first rest =>
          have step : apply (fill entry done.length (item :: table)) (done ++ first :: rest) =
              apply (fill entry (done ++ [entry item]).length table) (done ++ [entry item] ++ rest) := by
            simp [apply]
          rw [step, ih _ _ (by simpa using fits)]
          simp

/-- One table that fits is filled in exactly if its entries are right. -/
theorem filled_one_iff {limit : Nat} {zero : β} {entry wanted : α → β} {table : List α}
    (modulus : limit < 256) :
    Filled limit zero (fill entry 0 table) (table.map wanted) (table.length % 256) ↔
      table.length ≤ limit ∧ ∀ item ∈ table, entry item = wanted item := by
  have stored (fits : table.length ≤ limit) :
      (apply (fill entry 0 table) (List.replicate limit zero)).take table.length =
        table.map entry := by
    have all := apply_fill entry table [] (List.replicate limit zero) (by simpa using fits)
    rw [List.length_nil, List.nil_append, List.nil_append] at all
    rw [all, List.take_left' (List.length_map entry)]
  constructor
  · intro filled
    have fits : table.length ≤ limit := by
      cases table with
      | nil => exact Nat.zero_le limit
      | cons item rest =>
          -- The last store of the loop is the one to look at.
          have last : rest.length ∈ (fill entry 0 (item :: rest)).map Prod.fst := by
            rw [fill_indices]
            simp
          obtain ⟨store, member, same⟩ := List.mem_map.mp last
          have bound := filled.inside store member
          simp only [List.length_cons]
          omega
    refine ⟨fits, ?_⟩
    have same := filled.entries
    rw [Nat.mod_eq_of_lt (by omega), stored fits, List.take_of_length_le (by simpa using fits)] at same
    exact List.map_inj_left.mp same
  · rintro ⟨fits, right⟩
    refine ⟨fun store member => ?_, ?_, ?_, ?_⟩
    · have index : store.1 ∈ (fill entry 0 table).map Prod.fst := List.mem_map_of_mem member
      rw [fill_indices] at index
      have bound := (List.mem_range'_1.mp index).2
      omega
    · rw [fill_indices]
      exact List.nodup_range'
    · rw [Nat.mod_eq_of_lt (by omega), stored fits, List.take_of_length_le (by simpa using fits)]
      exact List.map_inj_left.mpr right
    · rw [Nat.mod_eq_of_lt (by omega), fill_length]

/-- Two loops that both start at zero fill an array when one has nothing to do. -/
theorem filled_iff {limit : Nat} {zero : β} {entry wanted : α → β} {first second : List α}
    (modulus : limit < 256) :
    Filled limit zero (fill entry 0 first ++ fill entry 0 second) ((first ++ second).map wanted)
        ((first.length + second.length) % 256) ↔
      (first = [] ∨ second = []) ∧ first.length + second.length ≤ limit ∧
        ∀ item ∈ first ++ second, entry item = wanted item := by
  cases first with
  | nil => simpa using filled_one_iff modulus
  | cons one first =>
      cases second with
      | nil => simpa using @filled_one_iff _ _ limit zero entry wanted (one :: first) modulus
      | cons two second =>
          simp only [reduceCtorEq, or_self, false_and, iff_false]
          intro filled
          have twice := filled.once
          simp at twice

end Stores

/-! The driver. -/

/-- `struct ieee80211_channel`. -/
structure Channel where
  centerFreq : BitVec 16
  hwValue : BitVec 16

/-- `struct ieee80211_rate`, in units of 100 kbps. -/
structure Rate where
  bitrate : BitVec 16

/-- `struct ieee80211_supported_band`, its counts being those of its tables. -/
structure Band where
  channels : List Channel
  bitrates : List Rate

/-- The bands of the wiphy; one that the module was told to leave out is `NULL`. -/
structure Wiphy where
  band2ghz : Option Band
  band5ghz : Option Band

/-- `struct iw_freq` of the report. -/
structure IwFreq where
  m : Int
  e : Int
  i : Nat
  deriving DecidableEq

/-- `struct iw_range` as the two bands decide it. -/
structure IwRange where
  numChannels : Nat
  numFrequency : Nat
  freq : List (Store IwFreq)
  numBitrates : Nat
  bitrate : List (Store Int)

def iwMaxFrequencies : Nat := 32
def iwMaxBitrates : Nat := 32

/-- `i` is a byte. -/
def freqEntry (channel : Channel) : IwFreq :=
  ⟨channel.centerFreq.toNat, 6, channel.hwValue.toNat % 256⟩

/-- The product of an `int`. -/
def rateEntry (rate : Rate) : Int := ((rate.bitrate.toNat : Int) * 100000).bmod 4294967296

/-- Nothing when a band is missing, which the function does not test. -/
def mt7697WextGiwrange (wiphy : Wiphy) : Option IwRange := do
  let two ← wiphy.band2ghz
  let five ← wiphy.band5ghz
  some
    { numChannels := (two.channels.length + five.channels.length) % 65536
      numFrequency := (two.channels.length + five.channels.length) % 256
      freq := fill freqEntry 0 two.channels ++ fill freqEntry 0 five.channels
      numBitrates := (two.bitrates.length + five.bitrates.length) % 256
      bitrate := fill rateEntry 0 two.bitrates ++ fill rateEntry 0 five.bitrates }

/-- The tables of `cfg80211.c`. -/
def mt7697Rates : List Rate :=
  [⟨10⟩, ⟨20⟩, ⟨55⟩, ⟨110⟩, ⟨60⟩, ⟨90⟩, ⟨120⟩, ⟨180⟩, ⟨240⟩, ⟨360⟩, ⟨480⟩, ⟨540⟩]

def mt7697Band2ghz : Band where
  channels :=
    [⟨2412, 1⟩, ⟨2417, 2⟩, ⟨2422, 3⟩, ⟨2427, 4⟩, ⟨2432, 5⟩, ⟨2437, 6⟩, ⟨2442, 7⟩, ⟨2447, 8⟩,
      ⟨2452, 9⟩, ⟨2457, 10⟩, ⟨2462, 11⟩, ⟨2467, 12⟩, ⟨2472, 13⟩, ⟨2484, 14⟩]
  bitrates := mt7697Rates

def mt7697Band5ghz : Band where
  channels :=
    [⟨5180, 36⟩, ⟨5200, 40⟩, ⟨5220, 44⟩, ⟨5240, 48⟩, ⟨5260, 52⟩, ⟨5280, 56⟩, ⟨5300, 60⟩,
      ⟨5320, 64⟩, ⟨5500, 100⟩, ⟨5520, 104⟩, ⟨5540, 108⟩, ⟨5560, 112⟩, ⟨5580, 116⟩, ⟨5600, 120⟩,
      ⟨5620, 124⟩, ⟨5640, 128⟩, ⟨5660, 132⟩, ⟨5680, 136⟩, ⟨5700, 140⟩, ⟨5745, 149⟩, ⟨5765, 153⟩,
      ⟨5785, 157⟩, ⟨5805, 161⟩, ⟨5825, 165⟩]
  bitrates := mt7697Rates.drop 4

/-! What a report has to say. -/

/-- The centre frequency in MHz and the whole hardware value. -/
def channelEntry (channel : Channel) : IwFreq :=
  ⟨channel.centerFreq.toNat, 6, channel.hwValue.toNat⟩

/-- Bits per second. -/
def bitsPerSecond (rate : Rate) : Int := (rate.bitrate.toNat : Int) * 100000

structure Complete (two five : Band) (range : IwRange) : Prop where
  channels : range.numChannels = (two.channels ++ five.channels).length
  frequencies : Filled iwMaxFrequencies ⟨0, 0, 0⟩ range.freq
    ((two.channels ++ five.channels).map channelEntry) range.numFrequency
  rates : Filled iwMaxBitrates 0 range.bitrate
    ((two.bitrates ++ five.bitrates).map bitsPerSecond) range.numBitrates

/-- Only one of two tables has entries, and they fit. -/
def OneTable {α : Type} (limit : Nat) (first second : List α) : Prop :=
  (first = [] ∨ second = []) ∧ first.length + second.length ≤ limit

theorem freqEntry_iff (channel : Channel) :
    freqEntry channel = channelEntry channel ↔ channel.hwValue.toNat < 256 := by
  rw [freqEntry, channelEntry, IwFreq.mk.injEq]
  omega

theorem rateEntry_iff (rate : Rate) :
    rateEntry rate = bitsPerSecond rate ↔ rate.bitrate.toNat ≤ 21474 := by
  have bound : rate.bitrate.toNat < 65536 := rate.bitrate.isLt
  unfold rateEntry bitsPerSecond
  generalize rate.bitrate.toNat = units at bound
  rw [Int.bmod_def]
  constructor
  · intro same
    split at same <;> omega
  · intro small
    split <;> omega

/-- The report is complete exactly when no array has entries of both bands, which
fit into it and its types. -/
theorem giwrange_complete_iff (two five : Band) :
    (∃ range, mt7697WextGiwrange ⟨some two, some five⟩ = some range ∧ Complete two five range) ↔
      OneTable iwMaxFrequencies two.channels five.channels ∧
      (∀ channel ∈ two.channels ++ five.channels, channel.hwValue.toNat < 256) ∧
      OneTable iwMaxBitrates two.bitrates five.bitrates ∧
      ∀ rate ∈ two.bitrates ++ five.bitrates, rate.bitrate.toNat ≤ 21474 := by
  constructor
  · rintro ⟨range, returned, complete⟩
    obtain rfl := Option.some.inj returned
    obtain ⟨oneChannels, fewChannels, hardware⟩ := (filled_iff (by decide)).mp complete.frequencies
    obtain ⟨oneRates, fewRates, rates⟩ := (filled_iff (by decide)).mp complete.rates
    exact ⟨⟨oneChannels, fewChannels⟩, fun channel member => (freqEntry_iff channel).mp (hardware channel member),
      ⟨oneRates, fewRates⟩, fun rate member => (rateEntry_iff rate).mp (rates rate member)⟩
  · rintro ⟨⟨oneChannels, fewChannels⟩, hardware, ⟨oneRates, fewRates⟩, rates⟩
    refine ⟨_, rfl, ?_, ?_, ?_⟩
    · have limit : iwMaxFrequencies = 32 := rfl
      simp only [List.length_append]
      omega
    · exact (filled_iff (by decide)).mpr ⟨oneChannels, fewChannels,
        fun channel member => (freqEntry_iff channel).mpr (hardware channel member)⟩
    · exact (filled_iff (by decide)).mpr ⟨oneRates, fewRates,
        fun rate member => (rateEntry_iff rate).mpr (rates rate member)⟩

/-- The driver's own bands: the channels of the first are stored over. -/
theorem giwrange_overwrites :
    ¬ ∀ two five : Band, ∃ range,
      mt7697WextGiwrange ⟨some two, some five⟩ = some range ∧ Complete two five range := by
  intro complete
  obtain ⟨range, returned, complete⟩ := complete mt7697Band2ghz mt7697Band5ghz
  obtain rfl := Option.some.inj returned
  have first := ((filled_iff (by decide)).mp complete.frequencies).1
  simp [mt7697Band2ghz, mt7697Band5ghz] at first

end MangOH.RangeReport
