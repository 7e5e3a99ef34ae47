import MangOH.StationTable

/-!
The link of an access point under the two indications of its firmware. A
station that joins sets the flag, wakes the queue and is announced. One that
leaves takes all of this away from those that stay, and is not withdrawn: the
call of `cfg80211_del_sta` is commented out in the source.
-/

namespace MangOH.Station

open Trace

/-- What the firmware of an access point says about its stations. -/
inductive Indication where
  | joins (ifIdx channel : Nat) (bssid : Mac) (lookups : Lookups) (memory : Bool)
  | leaves (ifIdx : Nat) (bssid : Mac) (disconnect : Int)

def Indication.event : Indication → Event
  | .joins ifIdx channel bssid lookups memory => .connectInd ifIdx channel bssid lookups memory
  | .leaves ifIdx bssid disconnect => .disconnectInd ifIdx bssid disconnect

def receive (cfg : Cfg) (message : Indication) : Cfg := step cfg message.event

def arrival : Report → Option Mac
  | .newSta bssid => some bssid
  | _ => none

/-- The stations that user space has been told of. The driver withdraws none. -/
def announced (reports : List Report) : List Mac := reports.filterMap arrival

@[simp] theorem announced_append (reports : List Report) (bssid : Mac) :
    announced (reports ++ [.newSta bssid]) = announced reports ++ [bssid] := by
  simp [announced, arrival]

structure LinkFollows (cfg : Cfg) : Prop where
  link : cfg.vif.connected = true ∧ cfg.vif.queueAwake = true ↔ cfg.vif.staList ≠ []
  users : ∀ mac, mac ∈ announced cfg.reports ↔ mac ∈ cfg.vif.staList

/-- After the message the link and the announcements follow the list. -/
def Followed (cfg : Cfg) (message : Indication) : Prop := LinkFollows (receive cfg message)

/-- No station is taken off the list. -/
def Stays (cfg : Cfg) : Indication → Prop
  | .joins _ _ _ _ _ => True
  | .leaves _ bssid disconnect => ¬ Removes bssid disconnect cfg

/-- An access point before its first station. Its queue may be awake. -/
structure FreshLink (cfg : Cfg) : Prop where
  mode : cfg.opmode ≠ .staOnly
  connected : cfg.vif.connected = false
  empty : cfg.vif.staList = []
  users : announced cfg.reports = []

/-- What the messages keep between them. -/
structure LinkReached (cfg : Cfg) : Prop where
  mode : cfg.opmode ≠ .staOnly
  flag : cfg.vif.connected = true ↔ cfg.vif.staList ≠ []
  awake : cfg.vif.staList ≠ [] → cfg.vif.queueAwake = true
  users : ∀ mac, mac ∈ announced cfg.reports ↔ mac ∈ cfg.vif.staList

theorem freshLink_reached {cfg : Cfg} (fresh : FreshLink cfg) : LinkReached cfg :=
  ⟨fresh.mode, by simp [fresh.connected, fresh.empty], by simp [fresh.empty],
    by simp [fresh.users, fresh.empty]⟩

theorem LinkReached.follows {cfg : Cfg} (reached : LinkReached cfg) : LinkFollows cfg where
  link := ⟨fun both => reached.flag.mp both.1,
    fun listed => ⟨reached.flag.mpr listed, reached.awake listed⟩⟩
  users := reached.users

theorem enlist_linkReached {cfg : Cfg} (reached : LinkReached cfg) (bssid : Mac) :
    LinkReached (enlist bssid cfg) where
  mode := reached.mode
  flag := by simp [enlist]
  awake _ := rfl
  users mac := by
    simp [enlist, reached.users]

/-- Either stations stay behind a dead link, or the last one stays announced. -/
theorem remove_unfollowed {cfg : Cfg} (reached : LinkReached cfg) {bssid : Mac}
    (member : bssid ∈ cfg.vif.staList) : ¬ LinkFollows (remove bssid cfg) := by
  intro follows
  have gone : (remove bssid cfg).vif.staList = [] := by
    apply Classical.byContradiction
    intro listed
    have both := follows.link.mpr listed
    exact Bool.noConfusion both.1
  have known : bssid ∈ announced (remove bssid cfg).reports := (reached.users bssid).mpr member
  have kept := (follows.users bssid).mp known
  simp [gone] at kept

/-- A message of an access point admits a station, removes one or does nothing. -/
theorem receive_cases {cfg : Cfg} (mode : cfg.opmode ≠ .staOnly) (message : Indication) :
    (∃ bssid, Stays cfg message ∧ receive cfg message = enlist bssid cfg) ∨
      (∃ ifIdx bssid disconnect, message = .leaves ifIdx bssid disconnect ∧
        Removes bssid disconnect cfg ∧ receive cfg message = remove bssid cfg) ∨
      (Stays cfg message ∧ receive cfg message = cfg) := by
  cases message with
  | joins ifIdx channel bssid lookups memory =>
      by_cases admits : Admits memory cfg
      · refine Or.inl ⟨bssid, trivial, ?_⟩
        exact congrArg Prod.fst (connectInd_admits mode admits)
      · exact Or.inr (Or.inr ⟨trivial, connectInd_refuses mode admits⟩)
  | leaves ifIdx bssid disconnect =>
      by_cases removes : Removes bssid disconnect cfg
      · refine Or.inr (Or.inl ⟨ifIdx, bssid, disconnect, rfl, removes, ?_⟩)
        exact congrArg Prod.fst (disconnectInd_removes mode removes)
      · exact Or.inr (Or.inr ⟨removes, disconnectInd_refuses mode removes⟩)

theorem followed_iff {cfg : Cfg} {message : Indication} (reached : LinkReached cfg) :
    Followed cfg message ↔ Stays cfg message := by
  rw [Followed]
  rcases receive_cases reached.mode message with
    ⟨bssid, stays, result⟩ | ⟨ifIdx, bssid, disconnect, rfl, removes, result⟩ | ⟨stays, result⟩
  · rw [result]
    exact iff_of_true (enlist_linkReached reached bssid).follows stays
  · rw [result]
    exact iff_of_false (remove_unfollowed reached removes.member) (not_not_intro removes)
  · rw [result]
    exact iff_of_true reached.follows stays

theorem receive_reached {cfg : Cfg} {message : Indication} (reached : LinkReached cfg)
    (followed : Followed cfg message) : LinkReached (receive cfg message) := by
  have stays := (followed_iff reached).mp followed
  rcases receive_cases reached.mode message with
    ⟨bssid, _, result⟩ | ⟨ifIdx, bssid, disconnect, rfl, removes, _⟩ | ⟨_, result⟩
  · rw [result]
    exact enlist_linkReached reached bssid
  · exact absurd removes stays
  · rw [result]
    exact reached

/-- The link and the announcements follow the list after each message just when
no message takes a station off it. -/
theorem accessPoint_followed_iff {start : Cfg} (fresh : FreshLink start)
    (messages : List Indication) :
    Along receive Followed start messages ↔ Along receive Stays start messages :=
  @along_iff _ _ receive Followed Stays LinkReached followed_iff receive_reached messages start
    (freshLink_reached fresh)

/-! The flag and the queue alone survive the departure of the last station. -/

def LinkOnly (cfg : Cfg) (message : Indication) : Prop :=
  (receive cfg message).vif.connected = true ∧ (receive cfg message).vif.queueAwake = true ↔
    (receive cfg message).vif.staList ≠ []

/-- A station that is taken off the list is the only one on it. -/
def LastLeaves (cfg : Cfg) : Indication → Prop
  | .joins _ _ _ _ _ => True
  | .leaves _ bssid disconnect => Removes bssid disconnect cfg → cfg.vif.staList = [bssid]

/-- What the flag and the queue need of the state before a message. -/
structure FlagReached (cfg : Cfg) : Prop where
  mode : cfg.opmode ≠ .staOnly
  flag : cfg.vif.connected = true ↔ cfg.vif.staList ≠ []
  awake : cfg.vif.staList ≠ [] → cfg.vif.queueAwake = true

theorem erase_eq_nil {mac : Mac} {stations : List Mac} (member : mac ∈ stations) :
    stations.erase mac = [] ↔ stations = [mac] := by
  constructor
  · intro gone
    have one := List.perm_cons_erase member
    rw [gone] at one
    exact List.perm_singleton.mp one
  · rintro rfl
    simp

theorem linkOnly_iff {cfg : Cfg} {message : Indication} (reached : FlagReached cfg) :
    LinkOnly cfg message ↔ LastLeaves cfg message := by
  have held : cfg.vif.connected = true ∧ cfg.vif.queueAwake = true ↔ cfg.vif.staList ≠ [] :=
    ⟨fun both => reached.flag.mp both.1,
      fun listed => ⟨reached.flag.mpr listed, reached.awake listed⟩⟩
  have last : Stays cfg message → LastLeaves cfg message := by
    cases message with
    | joins ifIdx channel bssid lookups memory => exact fun _ => trivial
    | leaves ifIdx bssid disconnect => exact fun stays removes => absurd removes stays
  rw [LinkOnly]
  rcases receive_cases reached.mode message with
    ⟨bssid, stays, result⟩ | ⟨ifIdx, bssid, disconnect, rfl, removes, result⟩ | ⟨stays, result⟩
  · rw [result]
    exact iff_of_true (by simp [enlist]) (last stays)
  · rw [result]
    -- The flag is cleared, so the list has to be empty now.
    have dead : (remove bssid cfg).vif.connected = false := rfl
    have left : (remove bssid cfg).vif.staList = cfg.vif.staList.erase bssid := rfl
    constructor
    · intro follows _
      apply (erase_eq_nil removes.member).mp
      apply Classical.byContradiction
      intro listed
      simp [dead] at follows
      exact listed (left ▸ follows)
    · intro only
      have gone : cfg.vif.staList.erase bssid = [] := (erase_eq_nil removes.member).mpr (only removes)
      simp [dead, left, gone]
  · rw [result]
    exact iff_of_true held (last stays)

theorem receive_flagReached {cfg : Cfg} {message : Indication} (reached : FlagReached cfg)
    (follows : LinkOnly cfg message) : FlagReached (receive cfg message) := by
  rcases receive_cases reached.mode message with
    ⟨bssid, _, result⟩ | ⟨ifIdx, bssid, disconnect, rfl, removes, result⟩ | ⟨_, result⟩
  · rw [result]
    exact ⟨reached.mode, by simp [enlist], fun _ => rfl⟩
  · have only := (linkOnly_iff reached).mp follows removes
    have gone : (remove bssid cfg).vif.staList = [] := by
      simp [remove, only]
    rw [result]
    have dead : (remove bssid cfg).vif.connected = false := rfl
    exact ⟨reached.mode, by simp [dead, gone], fun listed => absurd gone listed⟩
  · rw [result]
    exact reached

/-- Traffic goes on just as long as nobody leaves before the last station. -/
theorem accessPoint_link_iff {start : Cfg} (fresh : FreshLink start) (messages : List Indication) :
    Along receive LinkOnly start messages ↔ Along receive LastLeaves start messages := by
  have base : FlagReached start := by
    refine ⟨fresh.mode, by simp [fresh.connected, fresh.empty], ?_⟩
    exact fun listed => absurd fresh.empty listed
  exact @along_iff _ _ receive LinkOnly LastLeaves FlagReached linkOnly_iff receive_flagReached
    messages start base

theorem accessPoint_freshLink : FreshLink accessPoint := ⟨by decide, rfl, rfl, rfl⟩

def joins (bssid : Mac) : Indication := .joins 0 6 bssid ⟨true, true, true⟩ true

/-- Two stations join, one twice, and a third that nobody knows leaves. -/
theorem accessPoint_followed_guests :
    Along receive Stays accessPoint [joins 1, joins 2, joins 1, .leaves 0 3 0, .leaves 0 2 (-5)] ∧
      Along receive Followed accessPoint
        [joins 1, joins 2, joins 1, .leaves 0 3 0, .leaves 0 2 (-5)] := by
  have stays : Along receive Stays accessPoint
      [joins 1, joins 2, joins 1, .leaves 0 3 0, .leaves 0 2 (-5)] := by
    refine ⟨trivial, trivial, trivial, fun removes => ?_, fun removes => ?_, trivial⟩
    · exact absurd removes.member (by decide)
    · exact absurd removes.written (by decide)
  exact ⟨stays, (accessPoint_followed_iff accessPoint_freshLink _).mpr stays⟩

/-- The first of two stations leaves and the other one is cut off; the only
station leaves and stays announced. -/
theorem accessPoint_unfollowed :
    FreshLink accessPoint ∧
      ¬ Along receive Followed accessPoint ([joins 1, joins 2] ++ [.leaves 0 1 0]) ∧
      ¬ Along receive Followed accessPoint ([joins 1] ++ [.leaves 0 1 0]) := by
  refine ⟨accessPoint_freshLink, fun along => ?_, fun along => ?_⟩
  · have follows : LinkFollows _ := along_last along
    exact absurd (follows.link.mpr (by decide)) (by decide)
  · have follows : LinkFollows _ := along_last along
    exact absurd ((follows.users 1).mp (by decide)) (by decide)

end MangOH.Station
