import MangOH.StationFrame

/-!
The station table of an access point: `sta_list` and `sta_count`. Only the two
indications and the interface stop change it. An indicated station is added
without a look at the list, `new_sta` compares the count with `>`, and a stop
that fails half way keeps the count. Away from these the table stays sound.
-/

namespace MangOH.Station

open Trace

def mt7697MaxSta : Nat := 10

/-- What the table consists of, and the two modes that decide who changes it. -/
structure Table where
  staList : List Mac
  staCount : Nat
  staMax : Nat
  iftype : IfType
  opmode : OpMode

def Cfg.table (cfg : Cfg) : Table :=
  ⟨cfg.vif.staList, cfg.vif.staCount, cfg.vif.staMax, cfg.vif.iftype, cfg.opmode⟩

def Kept.table (kept : Kept) : Table :=
  ⟨kept.staList, kept.staCount, kept.staMax, kept.iftype, kept.opmode⟩

theorem table_of_kept {before after : Cfg} (same : after.kept = before.kept) :
    after.table = before.table := congrArg Kept.table same

@[simp] theorem shutDown_table (writes : StopWrites) (cfg : Cfg) :
    (finish (shutDown writes cfg)).1.table = cfg.table := by
  have closed := congrArg Kept.table (shutDown_kept writes cfg).1
  split_ifs at closed
  · exact closed
  · exact closed

def Table.closed (table : Table) : Table := { table with iftype := .station, opmode := .staOnly }

/-- What a stop leaves of the table, with the sign of its result. -/
inductive StopEffect (writes : StopWrites) (table : Table) : Table → Int → Prop where
  | refused {ret : Int} : table.iftype ≠ .ap → ret < 0 → StopEffect writes table table ret
  | other {ret : Int} : table.iftype ≠ .ap → StopEffect writes table table.closed ret
  | partway {dropped rest : List Mac} {mac : Mac} : table.iftype = .ap →
      table.staList = dropped ++ mac :: rest → (∀ gone ∈ dropped, 0 ≤ writes.station gone) →
      writes.station mac < 0 →
      StopEffect writes table { table with staList := mac :: rest } (writes.station mac)
  | emptied {ret : Int} : table.iftype = .ap → (∀ mac ∈ table.staList, 0 ≤ writes.station mac) →
      StopEffect writes table { table with staList := [], staCount := 0 }.closed ret

theorem stop_effect (writes : StopWrites) (cfg : Cfg) :
    StopEffect writes cfg.table (mt7697Cfg80211Stop writes cfg).1.table
      (mt7697Cfg80211Stop writes cfg).2 := by
  unfold mt7697Cfg80211Stop dropPeers
  cases iftype : cfg.vif.iftype with
  | station =>
      have kind : cfg.table.iftype ≠ .ap := by simp [Cfg.table, iftype]
      by_cases failed : writes.disconnect < 0
      · simp only [write, if_pos failed, error_bind, finish]
        exact .refused kind failed
      · simp only [write, if_neg failed, ok_bind, shutDown_table]
        have lost := table_of_kept (reportLoss_kept { cfg with sent := cfg.sent ++ [.disconnect none] })
        have result : (resetLink (reportLoss { cfg with
            sent := cfg.sent ++ [.disconnect none] })).table = cfg.table.closed := by
          exact congrArg Table.closed lost
        rw [result]
        exact .other kind
  | ap =>
      rcases dropStations_cases writes.station cfg.vif.staList cfg with
        ⟨all, sent, dropped⟩ | ⟨before, mac, rest, sent, split, accepted, failed, dropped⟩
      · simp only [dropped, ok_bind, shutDown_table]
        exact .emptied iftype all
      · simp only [dropped, error_bind, finish]
        exact .partway iftype split accepted failed
  | other =>
      simp only [ok_bind, shutDown_table]
      exact .other (by simp [Cfg.table, iftype])

/-! The table along a run. -/

structure TableSound (table : Table) : Prop where
  counted : table.staCount = table.staList.length
  bounded : table.staCount ≤ table.staMax
  distinct : table.staList.Nodup

/-- What a step has to leave behind. -/
structure TableKept (cfg : Cfg) (event : Event) : Prop where
  sound : TableSound (step cfg event).table
  capacity : (step cfg event).vif.staMax = mt7697MaxSta
  stopped : ∀ writes, event = .stop writes → 0 ≤ (call cfg event).2 →
    (step cfg event).vif.staList = [] ∧ (step cfg event).vif.staCount = 0

/-- A station that is taken is new and finds a place, and a stop that drops one
station drops them all. -/
def TableSafe (cfg : Cfg) : Event → Prop
  | .connectInd _ _ bssid _ memory =>
      cfg.opmode ≠ .staOnly → Admits memory cfg →
        cfg.vif.staCount < cfg.vif.staMax ∧ bssid ∉ cfg.vif.staList
  | .stop writes =>
      cfg.vif.iftype = .ap → ∀ first rest, cfg.vif.staList = first :: rest →
        0 ≤ writes.station first → ∀ mac ∈ rest, 0 ≤ writes.station mac
  | _ => True

/-- An access point, or an interface that is none, before its first station. -/
structure FreshTable (cfg : Cfg) : Prop where
  empty : cfg.vif.staList = []
  zero : cfg.vif.staCount = 0
  capacity : cfg.vif.staMax = mt7697MaxSta
  mode : cfg.opmode ≠ .staOnly → cfg.vif.iftype = .ap

/-- What the steps keep between them. -/
structure TableReached (table : Table) : Prop where
  sound : TableSound table
  capacity : table.staMax = mt7697MaxSta
  mode : table.opmode ≠ .staOnly → table.iftype = .ap
  peers : table.staList ≠ [] → table.iftype = .ap

theorem freshTable_reached {cfg : Cfg} (fresh : FreshTable cfg) : TableReached cfg.table where
  sound := by
    constructor <;> simp [Cfg.table, fresh.empty, fresh.zero]
  capacity := fresh.capacity
  mode := fresh.mode
  peers listed := absurd fresh.empty listed

theorem enlist_sound_iff {bssid : Mac} {cfg : Cfg} (sound : TableSound cfg.table) :
    TableSound (enlist bssid cfg).table ↔
      cfg.vif.staCount < cfg.vif.staMax ∧ bssid ∉ cfg.vif.staList := by
  have counted : cfg.vif.staCount = cfg.vif.staList.length := sound.counted
  have distinct : cfg.vif.staList.Nodup := sound.distinct
  constructor
  · intro admitted
    have bounded : cfg.vif.staCount + 1 ≤ cfg.vif.staMax := admitted.bounded
    have fresh : (cfg.vif.staList ++ [bssid]).Nodup := admitted.distinct
    refine ⟨by omega, fun member => ?_⟩
    exact (List.nodup_append.mp fresh).2.2 bssid member bssid (by simp) rfl
  · rintro ⟨room, fresh⟩
    constructor
    · simp [Cfg.table, enlist, counted]
    · exact room
    · have apart : ∀ mac ∈ cfg.vif.staList, mac ≠ bssid := by
        rintro mac member rfl
        exact fresh member
      simpa [Cfg.table, enlist, List.nodup_append, distinct] using apart

theorem remove_sound {bssid : Mac} {cfg : Cfg} (sound : TableSound cfg.table)
    (member : bssid ∈ cfg.vif.staList) : TableSound (remove bssid cfg).table := by
  have counted : cfg.vif.staCount = cfg.vif.staList.length := sound.counted
  have bounded : cfg.vif.staCount ≤ cfg.vif.staMax := sound.bounded
  have distinct : cfg.vif.staList.Nodup := sound.distinct
  constructor
  · simp [Cfg.table, remove, counted, List.length_erase_of_mem member]
  · simp only [Cfg.table, remove]
    omega
  · exact distinct.erase bssid

theorem enlist_reached {bssid : Mac} {cfg : Cfg} (reached : TableReached cfg.table)
    (mode : cfg.opmode ≠ .staOnly) (sound : TableSound (enlist bssid cfg).table) :
    TableReached (enlist bssid cfg).table :=
  ⟨sound, reached.capacity, reached.mode, fun _ => reached.mode mode⟩

theorem remove_reached {bssid : Mac} {cfg : Cfg} (reached : TableReached cfg.table)
    (member : bssid ∈ cfg.vif.staList) : TableReached (remove bssid cfg).table :=
  ⟨remove_sound reached.sound member, reached.capacity, reached.mode,
    fun _ => reached.peers (List.ne_nil_of_mem member)⟩

/-- The three kinds of step, of which only two change the table. -/
inductive TableEffect (cfg : Cfg) : Event → Cfg → Prop where
  | rest {event : Event} {after : Cfg} : TableSafe cfg event → (∀ writes, event ≠ .stop writes) →
      after.table = cfg.table → TableEffect cfg event after
  | admits {ifIdx channel : Nat} {bssid : Mac} {lookups : Lookups} {memory : Bool} :
      cfg.opmode ≠ .staOnly → Admits memory cfg →
      TableEffect cfg (.connectInd ifIdx channel bssid lookups memory) (enlist bssid cfg)
  | removes {ifIdx : Nat} {bssid : Mac} {disconnect : Int} :
      bssid ∈ cfg.vif.staList →
      TableEffect cfg (.disconnectInd ifIdx bssid disconnect) (remove bssid cfg)
  | stop {writes : StopWrites} {after : Cfg} :
      StopEffect writes cfg.table after.table (call cfg (.stop writes)).2 →
      TableEffect cfg (.stop writes) after

theorem step_tableEffect (cfg : Cfg) (event : Event) : TableEffect cfg event (step cfg event) := by
  cases event with
  | siwessid flags essid writes => exact .rest trivial (by simp) (table_of_kept (siwessid_kept flags essid writes cfg))
  | scan request scan => exact .rest trivial (by simp) (congrArg Kept.table (scan_kept request scan cfg))
  | disconnect interrupted disconnect =>
      exact .rest trivial (by simp) (table_of_kept (cfg80211Disconnect_kept interrupted disconnect cfg))
  | disconnectWork disconnect =>
      exact .rest trivial (by simp) (table_of_kept (disconnectWork_kept disconnect cfg))
  | stop writes => exact .stop (stop_effect writes cfg)
  | connectInd ifIdx channel bssid lookups memory =>
      by_cases mode : cfg.opmode = .staOnly
      · exact .rest (fun other => absurd mode other) (by simp) (table_of_kept (connectInd_station mode))
      · by_cases admits : Admits memory cfg
        · have result : step cfg (.connectInd ifIdx channel bssid lookups memory) = enlist bssid cfg := by
            rw [step, call, connectInd_admits mode admits]
          rw [result]
          exact .admits mode admits
        · have result : step cfg (.connectInd ifIdx channel bssid lookups memory) = cfg :=
            connectInd_refuses mode admits
          rw [result]
          exact .rest (fun _ also => absurd also admits) (by simp) rfl
  | disconnectInd ifIdx bssid disconnect =>
      by_cases mode : cfg.opmode = .staOnly
      · exact .rest trivial (by simp) (table_of_kept (disconnectInd_station mode))
      · by_cases removes : Removes bssid disconnect cfg
        · have result : step cfg (.disconnectInd ifIdx bssid disconnect) = remove bssid cfg := by
            rw [step, call, disconnectInd_removes mode removes]
          rw [result]
          exact .removes removes.member
        · have result : step cfg (.disconnectInd ifIdx bssid disconnect) = cfg :=
            disconnectInd_refuses mode removes
          rw [result]
          exact .rest trivial (by simp) rfl

/-- A stop that fails half way is told apart by what it has dropped before. -/
theorem stopSafe_partway {writes : StopWrites} {cfg : Cfg} {dropped rest : List Mac} {mac : Mac}
    (kind : cfg.vif.iftype = .ap) (split : cfg.vif.staList = dropped ++ mac :: rest)
    (accepted : ∀ gone ∈ dropped, 0 ≤ writes.station gone) (failed : writes.station mac < 0) :
    TableSafe cfg (.stop writes) ↔ dropped = [] := by
  constructor
  · intro safe
    cases dropped with
    | nil => rfl
    | cons first others =>
        have all := safe kind first (others ++ mac :: rest) split (accepted first (by simp))
        have also := all mac (by simp)
        omega
  · rintro rfl _ first others same written
    rw [split] at same
    obtain ⟨rfl, rfl⟩ := List.cons.inj same
    omega

theorem stop_kept_iff {writes : StopWrites} {cfg : Cfg} {table : Table} {ret : Int}
    (reached : TableReached cfg.table) (effect : StopEffect writes cfg.table table ret) :
    (TableSound table ∧ table.staMax = mt7697MaxSta ∧
        (0 ≤ ret → table.staList = [] ∧ table.staCount = 0)) ↔ TableSafe cfg (.stop writes) := by
  have counted : cfg.table.staCount = cfg.table.staList.length := reached.sound.counted
  cases effect with
  | refused kind negative =>
      have safe : TableSafe cfg (.stop writes) := fun also => absurd also kind
      have error : 0 ≤ ret → cfg.table.staList = [] ∧ cfg.table.staCount = 0 := by omega
      exact iff_of_true ⟨reached.sound, reached.capacity, error⟩ safe
  | other kind =>
      have safe : TableSafe cfg (.stop writes) := fun also => absurd also kind
      -- Only an access point has stations, so there were none to drop.
      have empty : cfg.table.staList = [] :=
        Classical.byContradiction fun listed => kind (reached.peers listed)
      have zero : cfg.table.staCount = 0 := by simp [counted, empty]
      have sound := reached.sound
      exact iff_of_true ⟨⟨sound.counted, sound.bounded, sound.distinct⟩, reached.capacity,
        fun _ => ⟨empty, zero⟩⟩ safe
  | @partway dropped rest mac kind split accepted failed =>
      rw [stopSafe_partway kind split accepted failed]
      have lengths : cfg.table.staCount = dropped.length + (rest.length + 1) := by
        rw [counted, split]
        simp
      constructor
      · rintro ⟨sound, _, _⟩
        have after : cfg.table.staCount = rest.length + 1 := sound.counted
        exact List.length_eq_zero_iff.mp (by omega)
      · rintro rfl
        have whole : cfg.table.staList = mac :: rest := split
        have distinct : (mac :: rest).Nodup := whole ▸ reached.sound.distinct
        have error : 0 ≤ writes.station mac → mac :: rest = [] ∧ cfg.table.staCount = 0 := by omega
        exact ⟨⟨by simpa using lengths, reached.sound.bounded, distinct⟩, reached.capacity, error⟩
  | emptied kind all =>
      have safe : TableSafe cfg (.stop writes) := by
        intro _ first rest split _ mac member
        have listed : cfg.table.staList = first :: rest := split
        exact all mac (by simp [listed, member])
      have sound : TableSound { cfg.table with staList := [], staCount := 0 }.closed := by
        constructor <;> simp [Table.closed]
      exact iff_of_true ⟨sound, reached.capacity, fun _ => ⟨rfl, rfl⟩⟩ safe

theorem tableKept_other {cfg : Cfg} {event : Event} (other : ∀ writes, event ≠ .stop writes) :
    TableKept cfg event ↔
      TableSound (step cfg event).table ∧ (step cfg event).table.staMax = mt7697MaxSta :=
  ⟨fun kept => ⟨kept.sound, kept.capacity⟩,
    fun both => ⟨both.1, both.2, fun writes same => absurd same (other writes)⟩⟩

theorem tableKept_stop {cfg : Cfg} {writes : StopWrites} :
    TableKept cfg (.stop writes) ↔
      TableSound (step cfg (.stop writes)).table ∧
        (step cfg (.stop writes)).table.staMax = mt7697MaxSta ∧
        (0 ≤ (call cfg (.stop writes)).2 → (step cfg (.stop writes)).table.staList = [] ∧
          (step cfg (.stop writes)).table.staCount = 0) :=
  ⟨fun kept => ⟨kept.sound, kept.capacity, kept.stopped writes rfl⟩,
    fun all => ⟨all.1, all.2.1, fun _ _ => all.2.2⟩⟩

theorem tableKept_iff {cfg : Cfg} {event : Event} (reached : TableReached cfg.table) :
    TableKept cfg event ↔ TableSafe cfg event := by
  have effect := step_tableEffect cfg event
  generalize result : step cfg event = after at effect
  cases effect with
  | rest safe other same =>
      rw [tableKept_other other, result, same]
      exact iff_of_true ⟨reached.sound, reached.capacity⟩ safe
  | admits mode admits =>
      rw [tableKept_other (by simp), result, enlist_sound_iff reached.sound]
      exact ⟨fun both _ _ => both.1, fun safe => ⟨safe mode admits, reached.capacity⟩⟩
  | removes member =>
      rw [tableKept_other (by simp), result]
      exact iff_of_true ⟨remove_sound reached.sound member, reached.capacity⟩ trivial
  | stop stopped =>
      rw [tableKept_stop, result]
      exact stop_kept_iff reached stopped

theorem stop_reached {writes : StopWrites} {cfg : Cfg} {table : Table} {ret : Int}
    (reached : TableReached cfg.table) (effect : StopEffect writes cfg.table table ret)
    (sound : TableSound table) : TableReached table := by
  cases effect with
  | refused _ _ => exact reached
  | other kind =>
      -- The stations of an access point would make this stop one of an access point.
      have none : cfg.table.staList ≠ [] → cfg.table.closed.iftype = .ap := fun listed =>
        absurd (reached.peers listed) kind
      exact ⟨sound, reached.capacity, by simp [Table.closed], none⟩
  | partway kind _ _ _ => exact ⟨sound, reached.capacity, reached.mode, fun _ => kind⟩
  | emptied _ _ => exact ⟨sound, reached.capacity, by simp [Table.closed], by simp [Table.closed]⟩

theorem step_reached_table {cfg : Cfg} {event : Event} (reached : TableReached cfg.table)
    (kept : TableKept cfg event) : TableReached (step cfg event).table := by
  have sound := kept.sound
  have effect := step_tableEffect cfg event
  generalize step cfg event = after at effect sound
  cases effect with
  | rest _ _ same => exact same ▸ reached
  | admits mode _ => exact enlist_reached reached mode sound
  | removes member => exact remove_reached reached member
  | stop stopped => exact stop_reached reached stopped sound

/-- In a run of any operations the table keeps its invariant after each step
just when each step meets the condition. -/
theorem stationTable_kept_iff {start : Cfg} (fresh : FreshTable start) (events : List Event) :
    Along step TableKept start events ↔ Along step TableSafe start events :=
  @along_iff _ _ step TableKept TableSafe (fun cfg => TableReached cfg.table) tableKept_iff
    step_reached_table events start (freshTable_reached fresh)

def accessPoint : Cfg :=
  { idle with
    vif := { idle.vif with iftype := .ap, staMax := mt7697MaxSta }
    opmode := .apOnly, portType := .ap }

def arrives (bssid : Mac) : Event := .connectInd 0 6 bssid ⟨true, true, true⟩ true

def leaves (bssid : Mac) : Event := .disconnectInd 0 bssid 0

def closes (station : Mac → Int) : Event := .stop ⟨0, station, 0, 0⟩

theorem accessPoint_fresh : FreshTable accessPoint := ⟨rfl, rfl, rfl, fun _ => rfl⟩

theorem stationTable_kept_visit :
    Along step TableSafe accessPoint [arrives 1, arrives 2, leaves 1, closes fun _ => 0] ∧
      Along step TableKept accessPoint [arrives 1, arrives 2, leaves 1, closes fun _ => 0] := by
  have safe : Along step TableSafe accessPoint
      [arrives 1, arrives 2, leaves 1, closes fun _ => 0] := by
    refine ⟨fun _ _ => by decide, fun _ _ => by decide, trivial, ?_, trivial⟩
    exact fun _ _ _ _ _ _ _ => Int.le_refl 0
  exact ⟨safe, (stationTable_kept_iff accessPoint_fresh _).mpr safe⟩

/-- Eleven stations for ten places, one station taken twice, and a stop that
fails at the second of two stations. -/
theorem stationTable_breaks :
    FreshTable accessPoint ∧
      ¬ Along step TableKept accessPoint
        ((List.range 10).map (fun n => arrives (BitVec.ofNat 48 n)) ++ [arrives 10]) ∧
      ¬ Along step TableKept accessPoint ([arrives 1] ++ [arrives 1]) ∧
      ¬ Along step TableKept accessPoint
        ([arrives 1, arrives 2] ++ [closes fun mac => if mac = 2 then -5 else 0]) := by
  refine ⟨accessPoint_fresh, fun along => ?_, fun along => ?_, fun along => ?_⟩
  · exact absurd (along_last along).sound.bounded (by decide)
  · exact absurd (along_last along).sound.distinct (by decide)
  · exact absurd (along_last along).sound.counted (by decide)

end MangOH.Station
