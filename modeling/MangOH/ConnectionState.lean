import MangOH.StationLink

/-!
The two flags and `sme_state` are three records of one state. An operation
that sets some of them before its last check, or leaves one for a later
indication, makes them disagree; `Completes` is the exact condition on the
event and the state it meets.
-/

namespace MangOH.Station

open Trace

structure Agrees (link : Link) : Prop where
  connected : link.connected = true ↔ link.smeState = .connected
  connectPend : link.connectPend = true ↔ link.smeState = .connecting
  exclusive : ¬ (link.connected = true ∧ link.connectPend = true)

structure SameState (before after : Link) : Prop where
  connected : after.connected = before.connected
  connectPend : after.connectPend = before.connectPend
  smeState : after.smeState = before.smeState

/-- The records agree after the event, and a failed operation changed none. -/
structure Upheld (cfg : Cfg) (event : Event) : Prop where
  agrees : Agrees (step cfg event).link
  unchanged : (call cfg event).2 < 0 → SameState cfg.link (step cfg event).link

/-- The operation does not stop, or leave off, between its updates. -/
def Completes (cfg : Cfg) : Event → Prop
  | .siwessid flags essid writes =>
      Starts flags essid writes cfg → cfg.destroyInProgress = true ∨ writes.reload < 0 →
        cfg.vif.connectPend = true
  | .disconnect interrupted disconnect =>
      interrupted = false → cfg.destroyInProgress = false → 0 ≤ disconnect →
        cfg.vif.connectPend = false
  | .disconnectWork disconnect => 0 ≤ disconnect → cfg.vif.connectPend = false
  | .stop writes =>
      0 ≤ writes.disconnect → writes.setOpMode < 0 ∨ writes.close < 0 →
        cfg.vif.smeState = .disconnected
  | .connectInd ifIdx channel _ lookups _ => Awaited ifIdx cfg → Found channel lookups
  | .scan _ _ => True
  | .disconnectInd _ _ _ => True

theorem sameState_refl (link : Link) : SameState link link := ⟨rfl, rfl, rfl⟩

theorem agrees_of_same {before after : Link} (same : SameState before after)
    (agrees : Agrees before) : Agrees after := by
  obtain ⟨connected, connectPend, smeState⟩ := same
  exact ⟨by rw [connected, smeState, agrees.connected],
    by rw [connectPend, smeState, agrees.connectPend],
    by rw [connected, connectPend]; exact agrees.exclusive⟩

theorem report_same (link : Link) (report : Report) : SameState link (link.report report) :=
  ⟨rfl, rfl, rfl⟩

theorem lose_same (link : Link) (bssid : Mac) (locallyGenerated : Bool) :
    SameState link (link.lose bssid locallyGenerated) := by
  unfold Link.lose
  cases link.smeState with
  | disconnected => exact sameState_refl link
  | connecting => exact report_same link _
  | connected => exact report_same link _

theorem agrees_down (link : Link) : Agrees link.down :=
  ⟨by simp [Link.down], by simp [Link.down], by simp [Link.down]⟩

theorem down_same_iff {link : Link} (agrees : Agrees link) :
    SameState link link.down ↔ link.smeState = .disconnected := by
  constructor
  · exact fun same => same.smeState.symm
  · intro state
    have connected : link.connected = false := by simpa [state] using agrees.connected
    have connectPend : link.connectPend = false := by simpa [state] using agrees.connectPend
    exact ⟨connected.symm, connectPend.symm, state.symm⟩

theorem disconnect_same {link : Link} {disconnect : Int}
    (idle : 0 ≤ disconnect → link.connectPend = false) (bssid : Mac) :
    SameState link (link.disconnect bssid disconnect) := by
  have same := lose_same link bssid true
  unfold Link.disconnect
  split_ifs with failed
  · exact same
  · exact ⟨same.connected, (idle (by omega)).symm, same.smeState⟩

/-- A disconnect that is sent keeps `sme_state` and drops a pending attempt. -/
theorem disconnect_agrees_iff {link : Link} (agrees : Agrees link) (bssid : Mac)
    (disconnect : Int) :
    Agrees (link.disconnect bssid disconnect) ↔ (0 ≤ disconnect → link.connectPend = false) := by
  constructor
  · intro after sent
    have same := lose_same link bssid true
    -- A pending attempt loses its flag and keeps its `sme_state`.
    have cleared : ¬ (link.lose bssid true).smeState = .connecting := fun state => by
      rw [Link.disconnect, if_neg (by omega)] at after
      simpa using after.connectPend.mpr state
    rw [same.smeState, ← agrees.connectPend] at cleared
    simpa using cleared
  · exact fun idle => agrees_of_same (disconnect_same idle bssid) agrees

theorem start_agrees {link : Link} (idle : link.connected = false) : Agrees link.start :=
  ⟨by simp [Link.start, Link.report, idle], by simp [Link.start, Link.report],
    by simp [Link.start, Link.report, idle]⟩

theorem start_same_iff {link : Link} (agrees : Agrees link) :
    SameState link link.start ↔ link.connectPend = true := by
  constructor
  · exact fun same => same.connectPend.symm
  · intro pending
    have state := agrees.connectPend.mp pending
    exact ⟨rfl, pending.symm, state.symm⟩

theorem connect_agrees {link : Link} (bssid : Mac) : Agrees (link.connect bssid) := by
  unfold Link.connect
  cases state : link.smeState <;>
    exact ⟨by simp [Link.flag, Link.report, state], by simp [Link.flag, Link.report, state],
      by simp [Link.flag, Link.report]⟩

theorem flag_disagrees {link : Link} (agrees : Agrees link) (pending : link.connectPend = true) :
    ¬ Agrees link.flag := by
  intro after
  have state := agrees.connectPend.mp pending
  have connected := after.connected.mp rfl
  simp [Link.flag, state] at connected

theorem Effect.completes_iff {cfg : Cfg} {event : Event} {link : Link} {ret : Int}
    (effect : Effect cfg event link ret) (agrees : Agrees cfg.link) :
    Completes cfg event ↔ Agrees link ∧ (ret < 0 → SameState cfg.link link) := by
  cases effect with
  | rest rests =>
      refine ⟨fun _ => ⟨agrees, fun _ => sameState_refl _⟩, fun _ => ?_⟩
      -- The link is as it was, so each condition has to follow from the rest.
      cases event with
      | siwessid flags essid writes => exact fun starts => absurd starts rests
      | scan request scan => trivial
      | disconnect interrupted disconnect =>
          intro now destroy _
          have unflagged : ¬ Flagged cfg := by simpa [Rests, now, destroy] using rests
          simpa using fun pending => unflagged (Or.inr pending)
      | disconnectWork disconnect =>
          intro _
          simpa using fun pending => rests (Or.inr pending)
      | stop writes => exact fun accepted => absurd rests (Int.not_lt.mpr accepted)
      | connectInd ifIdx channel bssid lookups memory => exact fun awaited => absurd awaited rests
      | disconnectInd ifIdx bssid disconnect => trivial
  | start starts failed =>
      rw [failed, start_same_iff agrees]
      exact ⟨fun kept => ⟨start_agrees starts.idle, kept starts⟩, fun both _ => both.2⟩
  | scan _ _ =>
      have same := report_same cfg.link (.connectResult cfg.vif.reqBssid false)
      exact ⟨fun _ => ⟨agrees_of_same same agrees, fun _ => same⟩, fun _ => trivial⟩
  | @disconnect _ disconnect _ now destroy _ =>
      have iff := disconnect_agrees_iff agrees cfg.vif.bssid disconnect
      constructor
      · intro kept
        exact ⟨iff.mpr (kept now destroy), fun _ => disconnect_same (kept now destroy) _⟩
      · exact fun both _ _ => iff.mp both.1
  | @disconnectWork disconnect _ _ =>
      have iff := disconnect_agrees_iff agrees cfg.vif.bssid disconnect
      constructor
      · intro kept
        exact ⟨iff.mpr kept, fun _ => disconnect_same (iff.mp (iff.mpr kept)) _⟩
      · exact fun both => iff.mp both.1
  | stop accepted _ failed =>
      -- The reset always agrees; after a failure it must have had nothing to change.
      have iff := down_same_iff agrees
      rw [failed]
      constructor
      · intro kept
        refine ⟨⟨by simp [Link.down], by simp [Link.down], by simp [Link.down]⟩, fun ended => ?_⟩
        have same := iff.mpr (kept accepted ended)
        exact ⟨same.connected, same.connectPend, same.smeState⟩
      · intro both _ ended
        have same := both.2 ended
        exact iff.mp ⟨same.connected, same.connectPend, same.smeState⟩
  | connect _ found =>
      exact ⟨fun _ => ⟨connect_agrees _, fun failed => absurd failed (by omega)⟩,
        fun _ _ => found⟩
  | flag awaited missing =>
      -- The flags have moved and `sme_state` has not.
      exact ⟨fun found => absurd (found awaited) missing,
        fun both => absurd both.1 (flag_disagrees agrees awaited.pending)⟩
  | lose =>
      exact ⟨fun _ => ⟨agrees_down _, fun failed => absurd failed (by omega)⟩, fun _ => trivial⟩

/-- What every upheld run keeps. -/
structure Agreed (cfg : Cfg) : Prop where
  mode : cfg.link.StationMode
  agrees : Agrees cfg.link

theorem upheld_iff {cfg : Cfg} {event : Event} (agreed : Agreed cfg) :
    Upheld cfg event ↔ Completes cfg event := by
  rw [(call_effect agreed.mode event).completes_iff agreed.agrees]
  exact ⟨fun upheld => ⟨upheld.agrees, upheld.unchanged⟩, fun both => ⟨both.1, both.2⟩⟩

theorem upheld_agreed {cfg : Cfg} {event : Event} (agreed : Agreed cfg)
    (upheld : Upheld cfg event) : Agreed (step cfg event) :=
  ⟨step_mode agreed.mode event, upheld.agrees⟩

/-- A run keeps the flags and `sme_state` together exactly when every operation
of it completes. -/
theorem state_agrees_iff {start : Cfg} (agreed : Agreed start) (events : List Event) :
    Along step Upheld start events ↔ Along step Completes start events :=
  @along_iff _ _ step Upheld Completes Agreed upheld_iff upheld_agreed events start agreed

theorem agreed_idle : Agreed idle := by
  refine ⟨⟨rfl, rfl⟩, ?_, ?_, ?_⟩ <;> decide

theorem state_agrees_iff_rejoin :
    Along step Upheld idle [join, joined 6, left, join, .disconnect false (-1)] :=
  (state_agrees_iff agreed_idle _).mpr
    ⟨fun _ failed => absurd failed (by decide), fun _ => ⟨by decide, rfl, rfl, rfl⟩, trivial,
      fun _ failed => absurd failed (by decide), fun _ _ sent => absurd sent (by decide), trivial⟩

/-- An indication with a channel outside both bands fails after it has moved
the flags and before it would move `sme_state`. -/
theorem unknown_channel_disagrees :
    Agreed idle ∧ (call (step idle join) (joined 0)).2 = -einval ∧
      ¬ Along step Upheld idle [join, joined 0] := by
  refine ⟨agreed_idle, by decide, fun along => ?_⟩
  have connected := along.2.1.agrees.connected.mp rfl
  exact absurd connected (by decide)

end MangOH.Station
