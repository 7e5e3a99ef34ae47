import MangOH.StationLink

/-!
The connection events that cfg80211 is told, read in order: every result has
an attempt of its own, and every loss a connection of its own. Two paths report
and leave the state to be reported again: a scan during an attempt, and
`mt7697_disconnect`, whose indication follows later. Without them every run
keeps the order, whatever fails.
-/

namespace MangOH.Station

open Trace

def openAfter (attempt : Bool) : Report → Bool
  | .attempt => true
  | .connectResult _ _ => false
  | _ => attempt

attribute [local simp] openAfter

/-- The last attempt has no result yet. -/
def attemptOpen (reports : List Report) : Bool := reports.foldl openAfter false

def upAfter (up : Bool) : Report → Bool
  | .connectResult _ success => success
  | .disconnected _ => false
  | _ => up

attribute [local simp] upAfter

/-- The last result was a success, and no loss has followed it. -/
def linkUp (reports : List Report) : Bool := reports.foldl upAfter false

structure WellFormed (reports : List Report) : Prop where
  oneResult : ∀ {past rest : List Report} {bssid : Mac} {success : Bool},
    reports = past ++ .connectResult bssid success :: rest → attemptOpen past = true
  oneLoss : ∀ {past rest : List Report} {locallyGenerated : Bool},
    reports = past ++ .disconnected locallyGenerated :: rest → linkUp past = true

@[simp] theorem attemptOpen_append (reports : List Report) (report : Report) :
    attemptOpen (reports ++ [report]) = openAfter (attemptOpen reports) report := by
  simp [attemptOpen]

@[simp] theorem linkUp_append (reports : List Report) (report : Report) :
    linkUp (reports ++ [report]) = upAfter (linkUp reports) report := by
  simp [linkUp]

theorem wellFormed_nil : WellFormed [] := by
  constructor <;> simp

theorem split_last {reports past rest : List Report} {last report : Report}
    (split : reports ++ [last] = past ++ report :: rest) :
    reports = past ∧ last = report ∨ ∃ before, reports = past ++ report :: before := by
  rcases List.eq_nil_or_concat rest with rfl | ⟨before, final, rfl⟩
  · obtain ⟨same, single⟩ := List.append_inj' split rfl
    exact Or.inl ⟨same, by simpa using single⟩
  · have grouped : reports ++ [last] = (past ++ report :: before) ++ [final] := by
      simpa using split
    exact Or.inr ⟨before, (List.append_inj' grouped rfl).1⟩

theorem wellFormed_append {reports : List Report} {report : Report} (wellFormed : WellFormed reports)
    (result : ∀ bssid success, report = .connectResult bssid success → attemptOpen reports = true)
    (loss : ∀ locallyGenerated, report = .disconnected locallyGenerated → linkUp reports = true) :
    WellFormed (reports ++ [report]) where
  oneResult split := by
    rcases split_last split with ⟨rfl, same⟩ | ⟨before, earlier⟩
    · exact result _ _ same
    · exact wellFormed.oneResult earlier
  oneLoss split := by
    rcases split_last split with ⟨rfl, same⟩ | ⟨before, earlier⟩
    · exact loss _ same
    · exact wellFormed.oneLoss earlier

/-- The reports so far and the state of the link tell the same story. -/
structure Sound (link : Link) : Prop where
  wellFormed : WellFormed link.reports
  up : linkUp link.reports = true ↔ link.smeState = .connected
  attempt : link.smeState = .connecting → attemptOpen link.reports = true
  pending : link.connectPend = true → link.smeState = .connecting
  flagged : link.smeState = .connected → link.connected = true

theorem sound_start {link : Link} (sound : Sound link) (idle : link.connected = false) :
    Sound link.start := by
  -- A link that is up has its flag set, and `siwessid` starts nothing then.
  have down : linkUp link.reports = false := by
    cases up : linkUp link.reports with
    | false => rfl
    | true => simp [sound.flagged (sound.up.mp up)] at idle
  refine ⟨wellFormed_append sound.wellFormed (by simp) (by simp), ?_, ?_, ?_, ?_⟩ <;>
    simp [Link.start, Link.report, down]

theorem sound_down {link : Link} (wellFormed : WellFormed link.reports)
    (lost : linkUp link.reports = false) : Sound link.down :=
  ⟨wellFormed, by simp [Link.down, lost], by simp [Link.down], by simp [Link.down],
    by simp [Link.down]⟩

theorem sound_lose {link : Link} (sound : Sound link) (bssid : Mac) (locallyGenerated : Bool) :
    Sound (link.lose bssid locallyGenerated).down := by
  cases state : link.smeState with
  | disconnected =>
      simp only [Link.lose, state]
      exact sound_down sound.wellFormed (by simpa [state] using sound.up)
  | connecting =>
      have attempt := sound.attempt state
      simp only [Link.lose, state]
      exact sound_down (wellFormed_append sound.wellFormed (fun _ _ _ => attempt) (by simp))
        (by simp [Link.report])
  | connected =>
      have up := sound.up.mpr state
      simp only [Link.lose, state]
      exact sound_down (wellFormed_append sound.wellFormed (by simp) fun _ _ => up)
        (by simp [Link.report])

theorem sound_flag {link : Link} (sound : Sound link) : Sound link.flag :=
  ⟨sound.wellFormed, sound.up, sound.attempt, by simp [Link.flag], fun _ => rfl⟩

theorem sound_connect {link : Link} (sound : Sound link) (pending : link.connectPend = true)
    (bssid : Mac) : Sound (link.connect bssid) := by
  have state := sound.pending pending
  have attempt := sound.attempt state
  simp only [Link.connect, state]
  exact ⟨wellFormed_append sound.wellFormed (fun _ _ _ => attempt) (by simp),
    by simp [Link.report, Link.flag], by simp [Link.report, Link.flag],
    by simp [Link.report, Link.flag], by simp [Link.report, Link.flag]⟩

theorem sound_unpend {link : Link} (sound : Sound link) :
    Sound { link with connectPend := false } :=
  ⟨sound.wellFormed, sound.up, sound.attempt, by simp, sound.flagged⟩

/-- The end of a scan is no news about the connection. -/
theorem sound_scans {tail : List Report}
    (scans : ∀ report ∈ tail, ∃ request, report = .scanDone request true) :
    ∀ {link : Link}, Sound link → Sound { link with reports := link.reports ++ tail } := by
  induction tail with
  | nil => exact fun sound => by simpa using sound
  | cons first rest ih =>
      intro link sound
      obtain ⟨request, rfl⟩ := scans first (by simp)
      have one : Sound (link.report (.scanDone request true)) :=
        ⟨wellFormed_append sound.wellFormed (by simp) (by simp),
          by simpa [Link.report] using sound.up,
          by simpa [Link.report] using sound.attempt, sound.pending, sound.flagged⟩
      have more := ih (fun report member => scans report (by simp [member])) one
      simpa [Link.report] using more

/-- `mt7697_disconnect` has nothing to report. -/
def Quiet (cfg : Cfg) : Prop := Flagged cfg → cfg.vif.smeState = .disconnected

/-- The step does not report what it leaves pending. -/
def Settles (cfg : Cfg) : Event → Prop
  | .scan _ _ => ¬ (cfg.vif.connected = false ∧ cfg.vif.connectPend = true)
  | .disconnect interrupted _ => interrupted = true ∨ cfg.destroyInProgress = true ∨ Quiet cfg
  | .disconnectWork _ => Quiet cfg
  | _ => True

theorem sound_disconnect {link : Link} (sound : Sound link) (quiet : link.smeState = .disconnected)
    (bssid : Mac) (disconnect : Int) : Sound (link.disconnect bssid disconnect) := by
  unfold Link.disconnect
  split_ifs
  · simpa [Link.lose, quiet] using sound
  · simpa [Link.lose, quiet] using sound_unpend sound

theorem Effect.sound {cfg : Cfg} {event : Event} {link : Link} {ret : Int}
    (effect : Effect cfg event link ret) (settles : Settles cfg event) (sound : Sound cfg.link) :
    Sound link := by
  cases effect with
  | rest _ => exact sound
  | start starts _ => exact sound_start sound starts.idle
  | scan idle pending => exact absurd ⟨idle, pending⟩ settles
  | disconnect now destroy flagged =>
      -- The call got past its early returns, so only a quiet link is left.
      rcases settles with early | destroying | quiet
      · simp [now] at early
      · simp [destroy] at destroying
      · exact sound_disconnect sound (quiet flagged) _ _
  | disconnectWork flagged => exact sound_disconnect sound (settles flagged) _ _
  | stop _ scans _ => exact sound_scans scans (sound_lose sound _ _)
  | connect awaited _ => exact sound_connect sound awaited.pending _
  | flag _ _ => exact sound_flag sound
  | lose => exact sound_lose sound _ _

theorem lose_twice {link reported : Link} (state : link.smeState ≠ .disconnected)
    {bssid : Mac} {locallyGenerated : Bool} (same : reported.smeState = link.smeState)
    (reports : reported.reports = (link.lose bssid locallyGenerated).reports) (again : Mac)
    (later : Bool) : ¬ WellFormed (reported.lose again later).reports := by
  intro wellFormed
  -- The second report is like the first, which has closed its attempt or its connection.
  cases before : link.smeState with
  | disconnected => exact state before
  | connecting =>
      simp only [Link.lose, before, Link.report] at reports
      simp only [Link.lose, same, before, Link.report, reports] at wellFormed
      have attempt := wellFormed.oneResult rfl
      simp at attempt
  | connected =>
      simp only [Link.lose, before, Link.report] at reports
      simp only [Link.lose, same, before, Link.report, reports] at wellFormed
      have up := wellFormed.oneLoss rfl
      simp at up

@[simp] theorem lose_smeState (link : Link) (bssid : Mac) (locallyGenerated : Bool) :
    (link.lose bssid locallyGenerated).smeState = link.smeState := by
  unfold Link.lose
  cases state : link.smeState <;> simp [state, Link.report]

theorem disconnect_again {link : Link} (state : link.smeState ≠ .disconnected) (bssid again : Mac)
    (disconnect : Int) (later : Bool) :
    ¬ WellFormed ((link.disconnect bssid disconnect).lose again later).reports := by
  have same : (link.disconnect bssid disconnect).smeState = link.smeState := by
    unfold Link.disconnect
    split_ifs <;> simp
  have reports : (link.disconnect bssid disconnect).reports = (link.lose bssid true).reports := by
    unfold Link.disconnect
    split_ifs <;> rfl
  exact lose_twice state same reports again later

/-- The other steps leave a link whose next loss breaks the order. -/
theorem Effect.unsettled {cfg : Cfg} {event : Event} {link : Link} {ret : Int}
    (effect : Effect cfg event link ret) (unsettled : ¬ Settles cfg event) (sound : Sound cfg.link)
    (bssid : Mac) (locallyGenerated : Bool) :
    ¬ WellFormed (link.lose bssid locallyGenerated).reports := by
  cases effect with
  | rest rests =>
      cases event with
      | scan _ _ => exact absurd rests unsettled
      | disconnect interrupted disconnect =>
          have quiet : ¬ Flagged cfg → Quiet cfg := fun unflagged flagged =>
            absurd flagged unflagged
          exact absurd (rests.imp_right (Or.imp_right quiet)) unsettled
      | disconnectWork disconnect => exact absurd (fun flagged => absurd flagged rests) unsettled
      | _ => exact absurd trivial unsettled
  | scan idle pending =>
      have state : cfg.link.smeState = .connecting := sound.pending pending
      -- The scan reports as a loss would, and leaves the attempt pending.
      have same : cfg.link.lose cfg.vif.reqBssid true =
          cfg.link.report (.connectResult cfg.vif.reqBssid false) := by simp [Link.lose, state]
      rw [← same]
      exact lose_twice (by simp [state]) (lose_smeState _ _ _) rfl bssid locallyGenerated
  | disconnect now destroy flagged =>
      have state : cfg.link.smeState ≠ .disconnected := fun quiet =>
        unsettled (Or.inr (Or.inr fun _ => quiet))
      exact disconnect_again state _ _ _ _
  | disconnectWork flagged =>
      have state : cfg.link.smeState ≠ .disconnected := fun quiet => unsettled fun _ => quiet
      exact disconnect_again state _ _ _ _
  | _ => exact absurd trivial unsettled

/-- An interface before its first connection attempt. -/
structure Fresh (cfg : Cfg) : Prop where
  mode : cfg.link.StationMode
  reports : cfg.reports = []
  connected : cfg.vif.connected = false
  connectPend : cfg.vif.connectPend = false
  smeState : cfg.vif.smeState = .disconnected

/-- What every run keeps. -/
structure Reported (cfg : Cfg) : Prop where
  mode : cfg.link.StationMode
  sound : Sound cfg.link

theorem fresh_reported {cfg : Cfg} (fresh : Fresh cfg) : Reported cfg := by
  refine ⟨fresh.mode, ?_⟩
  constructor <;>
    simp [Cfg.link, fresh.reports, fresh.connectPend, fresh.smeState, wellFormed_nil, linkUp]

theorem step_reported {cfg : Cfg} {event : Event} (reported : Reported cfg)
    (settles : Settles cfg event) : Reported (step cfg event) where
  mode := step_mode reported.mode event
  sound := (call_effect reported.mode event).sound settles reported.sound

/-- In every run whose steps settle what they report, each result answers an
attempt of its own and each loss a connection of its own. -/
theorem reports_wellFormed {start : Cfg} (fresh : Fresh start) {events : List Event}
    (settles : Along step Settles start events) : WellFormed (run step start events).reports := by
  have reached : Reported (run step start events) :=
    @along_invariant _ _ step Settles Reported step_reported _ _ (fresh_reported fresh) settles
  exact reached.sound.wellFormed

theorem fresh_idle : Fresh idle := ⟨⟨rfl, rfl⟩, rfl, rfl, rfl, rfl⟩

theorem reports_wellFormed_rejoin :
    (run step idle [.scan 1 0, join, joined 6, left, join, joined 6]).reports =
        [.attempt, .connectResult 5 true, .disconnected false, .attempt, .connectResult 5 true] ∧
      WellFormed (run step idle [.scan 1 0, join, joined 6, left, join, joined 6]).reports :=
  ⟨by decide, reports_wellFormed fresh_idle
    ⟨fun pending => Bool.noConfusion pending.2, trivial, trivial, trivial, trivial, trivial, trivial⟩⟩

/-- A disconnect and its indication report one loss twice; a scan answers an
attempt that then succeeds. -/
theorem disconnect_reported_twice :
    Fresh idle ∧
      ¬ WellFormed (run step idle [join, joined 6, .disconnect false 0, left]).reports ∧
      ¬ WellFormed (run step idle [join, .scan 1 0, joined 6]).reports := by
  refine ⟨fresh_idle, fun wellFormed => ?_, fun wellFormed => ?_⟩
  · have reports : (run step idle [join, joined 6, .disconnect false 0, left]).reports =
        [.attempt, .connectResult 5 true, .disconnected true] ++ .disconnected true :: [] := by
      decide
    exact absurd (wellFormed.oneLoss reports) (by decide)
  · have reports : (run step idle [join, .scan 1 0, joined 6]).reports =
        [.attempt, .connectResult 0 false] ++ .connectResult 5 true :: [] := by
      decide
    exact absurd (wellFormed.oneResult reports) (by decide)

end MangOH.Station
