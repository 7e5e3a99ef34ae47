import MangOH.TransmitPool

/-!
What the transport gets. A packet leaves the list after one write, whatever
the write returned, and both counters may take it; so delivery is exact just
when every write takes the whole of a packet that is long enough, and no packet
is lost to a failed copy. The other operations may come between any two steps
of the work.
-/

namespace MangOH.Transmit

open QueueMemory Trace

/-- The packets that the transport took whole. -/
def written (cfg : Cfg) : List Skb := (cfg.sent.filter fun sent => sent.ret = 0).map Sent.skb

/-- The packets that need no further write. -/
def finished (cfg : Cfg) : List Skb :=
  (cfg.sent.filter fun sent => sent.ret ≠ -eagain).map Sent.skb

/-- The steps of `mt7697_tx_work`. -/
def Event.Work : Event → Prop
  | .workBegin | .workPacket _ | .workAdvance => True
  | _ => False

/-- Accepted packets are finished in order or still pending, the counters
count what was written, and the work alone can write what is left. -/
structure Delivered (cfg : Cfg) : Prop where
  order : cfg.accepted.map Skb.data =
    (finished cfg).map Skb.data ++ (pending cfg).map Skb.data
  packets : cfg.txPackets = (written cfg).length
  bytes : cfg.txBytes = ((written cfg).map fun skb => skb.data.length).sum
  once : ∀ sent ∈ cfg.sent, sent.packets = 0 ∨ sent.errors = 0
  drained : cfg.worker = .idle → cfg.queued = false → pending cfg = []
  completes : ∃ more : List Event, (∀ event ∈ more, event.Work) ∧
    cfg.accepted.map Skb.data = (written (run step cfg more)).map Skb.data

/-- No copy fails, the transport takes every packet whole, and the interface
does not stop over a listed packet. -/
def Carries (cfg : Cfg) : Event → Prop
  | .dataTx skb copy => skb.headroom < cfg.neededHeadroom → copy.isSome = true
  | .workPacket write => ∀ slot next skb, cfg.worker = .visit slot next →
      cfg.pool slot = some skb → write = rawPacketWords skb.data.length
  | .txStop => cfg.worker = .idle → cfg.list = []
  | _ => True

/-- The packet that the work writes is no shorter than its header. -/
def LongEnough (cfg : Cfg) : Event → Prop
  | .workPacket _ => ∀ slot next skb, cfg.worker = .visit slot next →
      cfg.pool slot = some skb → ieee80211Hdr ≤ skb.data.length
  | _ => True

/-- What is kept while every write takes its whole packet. -/
structure Carried (cfg : Cfg) : Prop where
  sound : Sound cfg
  order : cfg.accepted.map Skb.data =
    cfg.sent.map (fun sent : Sent => sent.skb.data) ++ (pending cfg).map Skb.data
  success : ∀ sent ∈ cfg.sent, sent.ret = 0
  packets : cfg.txPackets = cfg.sent.length
  bytes : cfg.txBytes = (cfg.sent.map fun sent => sent.skb.data.length).sum

theorem filterMap_place {pool : Nat → Option Skb} {slot : Nat} {list : List Nat}
    (apart : slot ∉ list) (skb : Option Skb) :
    list.filterMap (place pool slot skb) = list.filterMap pool := by
  apply List.filterMap_congr
  intro key member
  have other : key ≠ slot := fun same => apart (same ▸ member)
  simp [place, other]

theorem pending_link {cfg : Cfg} (ring : Ring cfg.pool cfg.poolIdx cfg.list)
    (free : cfg.pool cfg.poolIdx = none) (skb : Skb) :
    pending (link skb cfg) = pending cfg ++ [skb] := by
  have apart : cfg.poolIdx ∉ cfg.list := by
    rw [← ring.linked, free]
    simp
  simp only [pending, link, List.filterMap_append, filterMap_place apart]
  simp [place]

theorem pending_cons {cfg : Cfg} {slot : Nat} {rest : List Nat} {skb : Skb}
    (split : cfg.list = slot :: rest) (held : cfg.pool slot = some skb) :
    pending cfg = skb :: rest.filterMap cfg.pool := by
  simp [pending, split, held]

theorem pending_packet {cfg : Cfg} {slot : Nat} {rest : List Nat}
    (ring : Ring cfg.pool cfg.poolIdx cfg.list) (split : cfg.list = slot :: rest) (skb : Skb)
    (write : Int) :
    pending (txPacket write slot skb cfg) = rest.filterMap cfg.pool := by
  rw [split] at ring
  have apart := (List.nodup_cons.mp (ring_nodup ring)).1
  simp [pending, txPacket, split, filterMap_place apart]

theorem pending_length {cfg : Cfg} (ring : Ring cfg.pool cfg.poolIdx cfg.list) :
    (pending cfg).length = cfg.list.length := by
  have occupied : ∀ slot ∈ cfg.list, (cfg.pool slot).isSome = true := fun slot =>
    (ring.linked slot).mpr
  unfold pending
  generalize cfg.list = list at occupied
  induction list with
  | nil => rfl
  | cons slot rest ih =>
      obtain ⟨skb, held⟩ := Option.isSome_iff_exists.mp (occupied slot (by simp))
      have tail := ih fun key member => occupied key (by simp [member])
      simp [held, tail]

theorem wrTxRawPacket_zero (length : Nat) :
    mt7697WrTxRawPacket length (rawPacketWords length) = 0 := by
  simp [mt7697WrTxRawPacket]

theorem wrTxRawPacket_of_nonneg {length : Nat} {write : Int}
    (nonneg : ¬ mt7697WrTxRawPacket length write < 0) : write = rawPacketWords length := by
  by_contra other
  apply nonneg
  rw [mt7697WrTxRawPacket, if_pos other]
  split_ifs with failed
  · exact failed
  · decide

theorem advance_frame (next : Option Nat) (cfg : Cfg) :
    ∃ worker queue freed, advance next cfg =
      { cfg with worker := worker, txSkbQueue := queue, freed := freed } := by
  cases next with
  | none => exact ⟨_, _, _, rfl⟩
  | some slot => exact ⟨_, _, _, rfl⟩

theorem ensured_data {skb taken : Skb} {cfg mid : Cfg} {copy : Option Nat}
    (ensured : Ensured skb cfg copy mid (some taken)) : taken.data = skb.data := by
  cases ensured <;> rfl

theorem Effect.carried {cfg after : Cfg} {event : Event} (effect : Effect cfg event after)
    (carries : Carries cfg event) (carried : Carried cfg) : Carried after := by
  have stops : StopsEmpty cfg event := by
    cases event with
    | txStop => exact carries
    | _ => trivial
  have sound := effect.sound stops carried.sound
  obtain ⟨before, order, success, packets, bytes⟩ := carried
  cases effect with
  | wait _ => exact ⟨sound, order, success, packets, bytes⟩
  | drop short => exact absurd (carries short) (by simp)
  | busy ensured _ =>
      obtain ⟨freed, copies, rfl⟩ := ensured_frame ensured
      exact ⟨sound, order, success, packets, bytes⟩
  | @queue skb taken copy mid ensured free =>
      have data := ensured_data ensured
      obtain ⟨freed, copies, rfl⟩ := ensured_frame ensured
      refine ⟨sound, ?_, success, packets, bytes⟩
      have linked := pending_link before.ring free taken
      have grown : (pending (link taken cfg)).map Skb.data =
          (pending cfg).map Skb.data ++ [skb.data] := by simp [linked, data]
      change (cfg.accepted ++ [skb]).map Skb.data =
        cfg.sent.map (fun sent : Sent => sent.skb.data) ++ (pending (link taken cfg)).map Skb.data
      rw [grown, ← List.append_assoc, ← order]
      simp
  | notify => exact ⟨sound, order, success, packets, bytes⟩
  | begin _ =>
      obtain ⟨worker, queue, freed, frame⟩ :=
        advance_frame cfg.list.head? { cfg with queued := false }
      rw [frame] at sound ⊢
      exact ⟨sound, order, success, packets, bytes⟩
  | @packet write slot next rest skb worker split resumes held =>
      -- The first of the pending packets becomes the last of those sent.
      have whole := carries slot next skb worker held
      have ret : mt7697WrTxRawPacket skb.data.length write = 0 := whole ▸ wrTxRawPacket_zero _
      refine ⟨sound, ?_, ?_, ?_, ?_⟩
      · change cfg.accepted.map Skb.data =
          (cfg.sent ++ [_]).map (fun sent : Sent => sent.skb.data) ++
            (pending (txPacket write slot skb cfg)).map Skb.data
        rw [pending_packet before.ring split, order, pending_cons split held]
        simp
      · intro sent member
        rcases List.mem_append.mp member with earlier | last
        · exact success sent earlier
        · rw [List.mem_singleton.mp last]
          exact ret
      · simp [txPacket, packets]
      · simp [txPacket, bytes]
  | @advance next _ _ =>
      obtain ⟨worker, queue, freed, frame⟩ := advance_frame next cfg
      rw [frame] at sound ⊢
      exact ⟨sound, order, success, packets, bytes⟩
  | stop idle =>
      have empty := carries idle
      refine ⟨sound, ?_, success, packets, bytes⟩
      rw [order]
      simp [pending, empty]

theorem step_carried {cfg : Cfg} {event : Event} (carried : Carried cfg)
    (carries : Carries cfg event) : Carried (step cfg event) :=
  (step_effect carried.sound event).carried carries carried

theorem written_carried {cfg : Cfg} (carried : Carried cfg) :
    written cfg = cfg.sent.map Sent.skb := by
  rw [written, List.filter_eq_self.mpr]
  exact fun sent member => by simp [carried.success sent member]

theorem finished_carried {cfg : Cfg} (carried : Carried cfg) :
    finished cfg = cfg.sent.map Sent.skb := by
  rw [finished, List.filter_eq_self.mpr]
  exact fun sent member => by simp [carried.success sent member, eagain]

/-- How far the work is from an empty list. -/
def remaining (cfg : Cfg) : Nat :=
  3 * cfg.list.length +
    match cfg.worker with
    | .idle => 2
    | .visit _ _ => 1
    | .passed _ => 3

theorem advance_remaining (next : Option Nat) (cfg : Cfg) :
    remaining (advance next cfg) ≤ 3 * cfg.list.length + 2 := by
  cases next <;> simp [remaining, advance]

/-- While a packet is listed, some step of the work brings the end nearer. -/
theorem work_proceeds {cfg : Cfg} (sound : Sound cfg) (left : cfg.list ≠ []) :
    ∃ event : Event, event.Work ∧ Carries cfg event ∧
      remaining (step cfg event) < remaining cfg ∧ (step cfg event).accepted = cfg.accepted := by
  obtain ⟨ring, working⟩ := sound
  cases worker : cfg.worker with
  | idle =>
      rw [worker] at working
      have queued : cfg.queued = true := working.resolve_left left
      obtain ⟨slot, rest, split⟩ := List.exists_cons_of_ne_nil left
      refine ⟨.workBegin, trivial, trivial, ?_, ?_⟩ <;>
        simp [step, workBegin, worker, queued, split, advance, remaining]
  | visit slot next =>
      rw [worker] at working
      obtain ⟨rest, split, _⟩ := working
      obtain ⟨skb, held⟩ := Option.isSome_iff_exists.mp ((ring.linked slot).mpr (by simp [split]))
      -- The write that takes the whole packet is one that the transport may report.
      refine ⟨.workPacket (rawPacketWords skb.data.length), trivial, ?_, ?_, ?_⟩
      · intro other after taken same occupied
        rw [worker] at same
        cases same
        rw [held] at occupied
        cases occupied
        rfl
      · simp [step, workPacket, worker, held, txPacket, split, remaining]
        omega
      · simp [step, workPacket, worker, held, txPacket]
  | passed next =>
      have bound := advance_remaining next cfg
      obtain ⟨_, _, _, frame⟩ := advance_frame next cfg
      refine ⟨.workAdvance, trivial, trivial, ?_, ?_⟩
      · simp only [step, workAdvance, worker]
        have whole : remaining cfg = 3 * cfg.list.length + 3 := by simp [remaining, worker]
        omega
      · simp [step, workAdvance, worker, frame]

theorem work_completes (bound : Nat) :
    ∀ {cfg : Cfg}, Carried cfg → remaining cfg ≤ bound →
      ∃ more : List Event, (∀ event ∈ more, event.Work) ∧
        cfg.accepted.map Skb.data = (written (run step cfg more)).map Skb.data := by
  -- Each step of the work is nearer to an empty list.
  induction bound with
  | zero =>
      intro cfg _ none
      cases worker : cfg.worker <;> simp [remaining, worker] at none
  | succ bound ih =>
      intro cfg carried small
      by_cases empty : cfg.list = []
      · refine ⟨[], by simp, ?_⟩
        rw [carried.order]
        simp [run, written_carried carried, pending, empty]
      · obtain ⟨event, work, carries, less, same⟩ := work_proceeds carried.sound empty
        obtain ⟨more, works, all⟩ := ih (step_carried carried carries) (by omega)
        refine ⟨event :: more, ?_, ?_⟩
        · simpa using ⟨work, works⟩
        · rw [← same]
          exact all

theorem carried_delivered {cfg : Cfg} (carried : Carried cfg)
    (clean : ∀ sent ∈ cfg.sent, sent.errors = 0) : Delivered cfg where
  order := by
    rw [finished_carried carried, carried.order]
    simp
  packets := by rw [written_carried carried, carried.packets, List.length_map]
  bytes := by
    rw [written_carried carried, carried.bytes]
    simp [Function.comp_def]
  once sent member := Or.inr (clean sent member)
  drained idle quiet := by
    have working := carried.sound.working
    rw [idle, quiet] at working
    have empty : cfg.list = [] := by simpa [Working, Resumes] using working
    simp [pending, empty]
  completes := work_completes (remaining cfg) carried (Nat.le_refl _)

/-- What every delivering run keeps. -/
structure Delivering (cfg : Cfg) : Prop where
  carried : Carried cfg
  clean : ∀ sent ∈ cfg.sent, sent.errors = 0

/-- The exact condition on a step. -/
structure Delivers (cfg : Cfg) (event : Event) : Prop where
  carries : Carries cfg event
  longEnough : LongEnough cfg event

theorem Effect.clean {cfg after : Cfg} {event : Event} (effect : Effect cfg event after)
    (delivers : Delivers cfg event) (delivering : Delivering cfg) :
    ∀ sent ∈ after.sent, sent.errors = 0 := by
  have clean := delivering.clean
  cases effect with
  | wait _ => exact clean
  | drop _ => exact clean
  | busy ensured _ =>
      obtain ⟨freed, copies, rfl⟩ := ensured_frame ensured
      exact clean
  | queue ensured _ =>
      obtain ⟨freed, copies, rfl⟩ := ensured_frame ensured
      exact clean
  | notify => exact clean
  | begin _ =>
      obtain ⟨worker, queue, freed, frame⟩ :=
        advance_frame cfg.list.head? { cfg with queued := false }
      rw [frame]
      exact clean
  | @packet write slot next rest skb worker split resumes held =>
      have whole := delivers.carries slot next skb worker held
      have long := delivers.longEnough slot next skb worker held
      intro sent member
      rcases List.mem_append.mp member with earlier | last
      · exact clean sent earlier
      · rw [List.mem_singleton.mp last, whole, wrTxRawPacket_zero]
        simp [Nat.not_lt.mpr long]
  | @advance next _ _ =>
      obtain ⟨worker, queue, freed, frame⟩ := advance_frame next cfg
      rw [frame]
      exact clean
  | stop _ => exact clean

theorem step_delivering {cfg : Cfg} {event : Event} (delivering : Delivering cfg)
    (delivers : Delivers cfg event) : Delivering (step cfg event) where
  carried := step_carried delivering.carried delivers.carries
  clean := (step_effect delivering.carried.sound event).clean delivers delivering

theorem order_length {cfg : Cfg} (delivered : Delivered cfg) :
    cfg.accepted.length = (finished cfg).length + (pending cfg).length := by
  simpa using congrArg List.length delivered.order

theorem carried_length {cfg : Cfg} (carried : Carried cfg) :
    cfg.accepted.length = (finished cfg).length + (pending cfg).length := by
  rw [finished_carried carried]
  simpa using congrArg List.length carried.order

/-- A step that loses a packet, or counts it twice, shows at once. -/
theorem Effect.delivers {cfg after : Cfg} {event : Event} (effect : Effect cfg event after)
    (carried : Carried cfg) (delivered : Delivered after) : Delivers cfg event := by
  have before := carried_length carried
  have length := order_length delivered
  cases effect with
  | @wait event waits =>
      cases event with
      | dataTx _ _ => exact waits.elim
      | workPacket _ =>
          exact ⟨fun slot next _ worker => absurd worker (waits slot next),
            fun slot next _ worker => absurd worker (waits slot next)⟩
      | txStop => exact ⟨fun idle => absurd idle waits, trivial⟩
      | _ => exact ⟨trivial, trivial⟩
  | drop _ =>
      -- The packet is accepted, and neither finished nor pending.
      have same : (cfg.accepted ++ [_]).length = (finished cfg).length + (pending cfg).length := length
      simp only [List.length_append, List.length_singleton] at same
      omega
  | busy ensured _ =>
      cases ensured with
      | enough room => exact ⟨fun short => absurd short (by omega), trivial⟩
      | copied _ => exact ⟨fun _ => rfl, trivial⟩
  | queue ensured _ =>
      cases ensured with
      | enough room => exact ⟨fun short => absurd short (by omega), trivial⟩
      | copied _ => exact ⟨fun _ => rfl, trivial⟩
  | notify => exact ⟨trivial, trivial⟩
  | begin _ => exact ⟨trivial, trivial⟩
  | @packet write slot next rest skb worker split resumes held =>
      -- The packet is in `tx_packets` whatever happened, so it must not be in `tx_errors`.
      have counted := delivered.once _ (List.mem_append_right _ (List.mem_singleton_self _))
      obtain ⟨short, failed⟩ := Nat.add_eq_zero_iff.mp (counted.resolve_left Nat.one_ne_zero)
      have long : ieee80211Hdr ≤ skb.data.length := by
        by_contra less
        simp [Nat.not_le.mp less] at short
      have whole : write = rawPacketWords skb.data.length :=
        wrTxRawPacket_of_nonneg fun negative => by simp [negative] at failed
      constructor <;>
      · intro other after taken same occupied
        rw [worker] at same
        cases same
        rw [held] at occupied
        cases occupied
        assumption
  | advance _ _ => exact ⟨trivial, trivial⟩
  | stop _ =>
      -- The stop leaves nothing pending and finishes nothing.
      refine ⟨fun _ => ?_, trivial⟩
      have ring := carried.sound.ring
      have same : cfg.accepted.length = (finished cfg).length + 0 := length
      have none : cfg.list.length = 0 := by
        rw [← pending_length ring]
        omega
      exact List.length_eq_zero_iff.mp none

theorem step_delivered_iff {cfg : Cfg} {event : Event} (delivering : Delivering cfg) :
    Delivered (step cfg event) ↔ Delivers cfg event := by
  constructor
  · exact (step_effect delivering.carried.sound event).delivers delivering.carried
  · intro delivers
    have next := step_delivering delivering delivers
    exact carried_delivered next.carried next.clean

theorem probed_delivering (neededHeadroom : Nat) : Delivering (probed neededHeadroom) :=
  ⟨⟨probed_sound neededHeadroom, rfl, by simp [probed], rfl, rfl⟩, by simp [probed]⟩

/-- A run delivers what it accepts, and counts it right, exactly when no copy
fails and every write takes the whole of a packet that is long enough. -/
theorem transmit_delivers_iff (neededHeadroom : Nat) (events : List Event) :
    Along step (fun cfg event => Delivered (step cfg event)) (probed neededHeadroom) events ↔
      Along step Delivers (probed neededHeadroom) events := by
  refine @along_iff _ _ step _ Delivers Delivering (fun kept => step_delivered_iff kept) ?_ events _
    (probed_delivering neededHeadroom)
  exact fun kept delivered => step_delivering kept ((step_delivered_iff kept).mp delivered)

/-- A full ring makes the transport refuse the packet, and the packet is gone,
counted as sent and as failed. -/
theorem refused_packet_lost :
    ¬ Along step (fun cfg event => Delivered (step cfg event)) (probed 38)
      [.dataTx (packet 1) none, .workBegin, .workPacket (-eagain)] := by
  intro along
  have order := along.2.2.1.order
  exact absurd order (by decide)

end MangOH.Transmit
