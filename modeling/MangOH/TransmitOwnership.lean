import MangOH.TransmitDelivery
import Mathlib.Data.List.Perm.Basic

/-!
Who owns a buffer. The driver owns the packets that it returned
`NETDEV_TX_OK` for and the copies that it made; it has freed them, or holds
them on the list or in the purge queue. A call that finds its slot occupied
frees a packet that the stack keeps, and a stop over a listed packet loses it;
nothing else upsets the balance.
-/

namespace MangOH.Transmit

open Trace

/-- The buffers that the driver can still reach. -/
def held (cfg : Cfg) : List Nat :=
  (pending cfg).map Skb.buffer ++ cfg.txSkbQueue.map Skb.buffer

/-- The buffers that became the driver's. -/
def owed (cfg : Cfg) : List Nat := cfg.accepted.map Skb.buffer ++ cfg.copies

/-- Each buffer is freed or held as often as it was taken over, and between
two runs of the work over an empty list all of them are freed. -/
structure Owned (cfg : Cfg) : Prop where
  balance : (cfg.freed ++ held cfg).Perm (owed cfg)
  once : (owed cfg).Nodup → ∀ skb ∈ cfg.accepted,
    cfg.freed.count skb.buffer + (held cfg).count skb.buffer = 1
  settled : cfg.worker = .idle → cfg.list = [] → cfg.freed.Perm (owed cfg)

structure Untouched (before after : Cfg) : Prop where
  freed : after.freed = before.freed
  copies : after.copies = before.copies
  held : held after = held before

/-- Ownership after the step; and a packet that is sent back was left alone. -/
structure Respected (cfg : Cfg) (event : Event) : Prop where
  owned : Owned (step cfg event)
  returned : ∀ skb copy, event = .dataTx skb copy →
    (mt7697DataTx skb copy cfg).2 = netdevTxBusy → Untouched cfg (mt7697DataTx skb copy cfg).1

/-- A packet that is not dropped finds its slot free, and the interface does
not stop over a listed packet. -/
def FindsRoom (cfg : Cfg) : Event → Prop
  | .dataTx skb copy =>
      skb.headroom < cfg.neededHeadroom ∧ copy = none ∨ cfg.pool cfg.poolIdx = none
  | .txStop => cfg.worker = .idle → cfg.list = []
  | _ => True

/-- What every respecting run keeps. -/
structure Owning (cfg : Cfg) : Prop where
  sound : Sound cfg
  balance : (cfg.freed ++ held cfg).Perm (owed cfg)
  purged : cfg.worker = .idle → cfg.txSkbQueue = []

theorem owning_owned {cfg : Cfg} (owning : Owning cfg) : Owned cfg where
  balance := owning.balance
  once distinct skb member := by
    rw [← List.count_append, owning.balance.count_eq]
    have owed : skb.buffer ∈ owed cfg :=
      List.mem_append_left _ (List.mem_map_of_mem member)
    exact List.count_eq_one_of_mem distinct owed
  settled idle empty := by
    have none : held cfg = [] := by simp [held, pending, empty, owning.purged idle]
    simpa [none] using owning.balance

theorem balance_iff_count {cfg : Cfg} :
    (cfg.freed ++ held cfg).Perm (owed cfg) ↔
      ∀ buffer, cfg.freed.count buffer + ((pending cfg).map Skb.buffer).count buffer +
          (cfg.txSkbQueue.map Skb.buffer).count buffer =
        (cfg.accepted.map Skb.buffer).count buffer + cfg.copies.count buffer := by
  rw [List.perm_iff_count]
  simp only [held, owed, List.count_append, Nat.add_assoc]

theorem advance_balance (next : Option Nat) {cfg : Cfg}
    (balance : (cfg.freed ++ held cfg).Perm (owed cfg)) :
    ((advance next cfg).freed ++ held (advance next cfg)).Perm (owed (advance next cfg)) := by
  cases next with
  | some slot => exact balance
  | none =>
      -- The purge moves the queue to the freed buffers.
      refine List.Perm.trans ?_ balance
      simp only [advance, held, pending, List.map_nil, List.append_nil, List.append_assoc]
      exact List.Perm.append_left _ List.perm_append_comm

theorem advance_purged (next : Option Nat) (cfg : Cfg) :
    (advance next cfg).worker = .idle → (advance next cfg).txSkbQueue = [] := by
  cases next with
  | some slot => exact fun idle => Worker.noConfusion idle
  | none => exact fun _ => rfl

theorem Effect.owning {cfg after : Cfg} {event : Event} (effect : Effect cfg event after)
    (room : FindsRoom cfg event) (owning : Owning cfg) : Owning after := by
  have stops : StopsEmpty cfg event := by
    cases event with
    | txStop => exact room
    | _ => trivial
  have sound := effect.sound stops owning.sound
  obtain ⟨before, balance, purged⟩ := owning
  cases effect with
  | wait _ => exact ⟨sound, balance, purged⟩
  | @drop skb _ =>
      refine ⟨sound, balance_iff_count.mpr fun buffer => ?_, purged⟩
      have same := balance_iff_count.mp balance buffer
      change (cfg.freed ++ [skb.buffer]).count buffer + ((pending cfg).map Skb.buffer).count buffer +
          (cfg.txSkbQueue.map Skb.buffer).count buffer =
        ((cfg.accepted ++ [skb]).map Skb.buffer).count buffer + cfg.copies.count buffer
      simp only [List.map_append, List.map_cons, List.map_nil, List.count_append]
      omega
  | @busy skb taken copy mid ensured occupied =>
      -- A packet that finds room is not sent back.
      rcases room with ⟨short, rfl⟩ | free
      · cases ensured with
        | enough room => omega
      · simp [free] at occupied
  | @queue skb taken copy mid ensured free =>
      have linked := pending_link before.ring free taken
      cases ensured with
      | enough _ =>
          refine ⟨sound, balance_iff_count.mpr fun buffer => ?_, purged⟩
          have same := balance_iff_count.mp balance buffer
          change cfg.freed.count buffer + ((pending (link skb cfg)).map Skb.buffer).count buffer +
              (cfg.txSkbQueue.map Skb.buffer).count buffer =
            ((cfg.accepted ++ [skb]).map Skb.buffer).count buffer + cfg.copies.count buffer
          rw [linked]
          simp only [List.map_append, List.map_cons, List.map_nil, List.count_append]
          omega
      | @copied copy _ =>
          refine ⟨sound, balance_iff_count.mpr fun buffer => ?_, purged⟩
          have same := balance_iff_count.mp balance buffer
          change (cfg.freed ++ [skb.buffer]).count buffer +
              ((pending (link { skb with buffer := copy, headroom := cfg.neededHeadroom } cfg)).map
                Skb.buffer).count buffer + (cfg.txSkbQueue.map Skb.buffer).count buffer =
            ((cfg.accepted ++ [skb]).map Skb.buffer).count buffer +
              (cfg.copies ++ [copy]).count buffer
          rw [linked]
          simp only [List.map_append, List.map_cons, List.map_nil, List.count_append]
          omega
  | notify => exact ⟨sound, balance, purged⟩
  | begin _ => exact ⟨sound, advance_balance _ balance, advance_purged _ _⟩
  | @packet write slot next rest skb worker split resumes occupied =>
      refine ⟨sound, balance_iff_count.mpr fun buffer => ?_, fun idle => Worker.noConfusion idle⟩
      have same := balance_iff_count.mp balance buffer
      -- From the list to the purge queue: freed later, and held until then.
      have fewer := pending_packet before.ring split skb write
      change cfg.freed.count buffer +
          ((pending (txPacket write slot skb cfg)).map Skb.buffer).count buffer +
          ((cfg.txSkbQueue ++ [skb]).map Skb.buffer).count buffer =
        (cfg.accepted.map Skb.buffer).count buffer + cfg.copies.count buffer
      rw [pending_cons split occupied] at same
      rw [fewer]
      simp only [List.map_append, List.map_cons, List.map_nil, List.count_append, List.count_cons,
        List.count_nil] at same ⊢
      omega
  | advance _ _ => exact ⟨sound, advance_balance _ balance, advance_purged _ _⟩
  | stop idle =>
      have empty := room idle
      refine ⟨sound, ?_, purged⟩
      simpa [held, owed, pending, empty] using balance

theorem step_owning {cfg : Cfg} {event : Event} (owning : Owning cfg)
    (room : FindsRoom cfg event) : Owning (step cfg event) :=
  (step_effect owning.sound event).owning room owning

theorem balance_length {cfg : Cfg} (balance : (cfg.freed ++ held cfg).Perm (owed cfg)) :
    cfg.freed.length + (pending cfg).length + cfg.txSkbQueue.length =
      cfg.accepted.length + cfg.copies.length := by
  have length := balance.length_eq
  simp only [held, owed, List.length_append, List.length_map] at length
  omega

/-- A step that frees what it does not own, or loses what it does, shows at once. -/
theorem Effect.findsRoom {cfg after : Cfg} {event : Event} (effect : Effect cfg event after)
    (owning : Owning cfg) (owned : Owned after) : FindsRoom cfg event := by
  have before := balance_length owning.balance
  have length := balance_length owned.balance
  cases effect with
  | @wait event waits =>
      cases event with
      | dataTx _ _ => exact waits.elim
      | txStop => exact fun idle => absurd idle waits
      | _ => trivial
  | drop short => exact Or.inl ⟨short, rfl⟩
  | @busy skb taken copy mid ensured _ =>
      -- One buffer more is freed than was taken over: the caller keeps the packet.
      exfalso
      cases ensured with
      | enough _ =>
          have more : (cfg.freed ++ [skb.buffer]).length + (pending cfg).length +
              cfg.txSkbQueue.length = cfg.accepted.length + cfg.copies.length := length
          simp only [List.length_append, List.length_singleton] at more
          omega
      | @copied copy _ =>
          have more : (cfg.freed ++ [skb.buffer] ++ [copy]).length + (pending cfg).length +
              cfg.txSkbQueue.length = cfg.accepted.length + (cfg.copies ++ [copy]).length := length
          simp only [List.length_append, List.length_singleton] at more
          omega
  | queue _ free => exact Or.inr free
  | stop _ =>
      intro _
      -- What was listed is neither freed nor held any more.
      have fewer : cfg.freed.length + 0 + cfg.txSkbQueue.length =
          cfg.accepted.length + cfg.copies.length := length
      have none : cfg.list.length = 0 := by
        rw [← pending_length owning.sound.ring]
        omega
      exact List.length_eq_zero_iff.mp none
  | _ => trivial

/-- With room for the packet nothing is sent back. -/
theorem not_busy {skb : Skb} {copy : Option Nat} {cfg : Cfg}
    (room : FindsRoom cfg (.dataTx skb copy)) : (mt7697DataTx skb copy cfg).2 ≠ netdevTxBusy := by
  intro busy
  rcases room with ⟨short, rfl⟩ | free
  · simp [mt7697DataTx, ensureHeadroom, short, netdevTxOk, netdevTxBusy] at busy
  · have occupied := dataTx_busy busy
    simp [free] at occupied

/-- A packet that is sent back, or the copy made of it, is freed. -/
theorem dataTx_busy_frees {skb : Skb} {copy : Option Nat} {cfg : Cfg}
    (busy : (mt7697DataTx skb copy cfg).2 = netdevTxBusy) :
    (mt7697DataTx skb copy cfg).1.freed ≠ cfg.freed := by
  by_cases short : skb.headroom < cfg.neededHeadroom
  · cases copy with
    | none => simp [mt7697DataTx, ensureHeadroom, short, netdevTxOk, netdevTxBusy] at busy
    | some buffer =>
        cases occupied : cfg.pool cfg.poolIdx with
        | none =>
            simp [mt7697DataTx, ensureHeadroom, short, occupied, netdevTxOk, netdevTxBusy] at busy
        | some _ => simp [mt7697DataTx, ensureHeadroom, short, occupied]
  · cases occupied : cfg.pool cfg.poolIdx with
    | none => simp [mt7697DataTx, ensureHeadroom, short, occupied, netdevTxOk, netdevTxBusy] at busy
    | some _ => simp [mt7697DataTx, ensureHeadroom, short, occupied]

theorem step_respected_iff {cfg : Cfg} {event : Event} (owning : Owning cfg) :
    Respected cfg event ↔ FindsRoom cfg event := by
  constructor
  · exact fun respected => (step_effect owning.sound event).findsRoom owning respected.owned
  · intro room
    refine ⟨owning_owned (step_owning owning room), ?_⟩
    rintro skb copy rfl busy
    exact absurd busy (not_busy room)

theorem probed_owning (neededHeadroom : Nat) : Owning (probed neededHeadroom) :=
  ⟨probed_sound neededHeadroom, List.Perm.refl _, fun _ => rfl⟩

/-- A run respects the ownership of every buffer exactly when each call finds
its slot free and the interface never stops over a listed packet. -/
theorem ownership_respected_iff (neededHeadroom : Nat) (events : List Event) :
    Along step Respected (probed neededHeadroom) events ↔
      Along step FindsRoom (probed neededHeadroom) events := by
  refine @along_iff _ _ step Respected FindsRoom Owning step_respected_iff ?_ events _
    (probed_owning neededHeadroom)
  exact fun owning respected => step_owning owning ((step_respected_iff owning).mp respected)

/-- Packets for every slot of the pool. -/
def fillPool : List Event := (List.range poolLen).map fun buffer => .dataTx (packet buffer) none

/-- A packet that finds its slot taken is sent back. -/
theorem dataTx_taken {cfg : Cfg} {skb other : Skb} (headroom : ¬ skb.headroom < cfg.neededHeadroom)
    (taken : cfg.pool cfg.poolIdx = some other) : (mt7697DataTx skb none cfg).2 = netdevTxBusy := by
  rw [mt7697DataTx, ensureHeadroom, if_neg headroom]
  dsimp only
  rw [taken]

theorem step_fill {cfg : Cfg} {skb : Skb} (headroom : ¬ skb.headroom < cfg.neededHeadroom)
    (free : cfg.pool cfg.poolIdx = none) :
    step cfg (.dataTx skb none) = { link skb cfg with accepted := cfg.accepted ++ [skb] } := by
  rw [step, mt7697DataTx, ensureHeadroom, if_neg headroom]
  dsimp only
  rw [free]
  rfl

/-- The packets take the slots one after the other. -/
theorem fill_slots : ∀ {count : Nat}, count ≤ poolLen →
    let cfg := ((List.range count).map fun buffer => Event.dataTx (packet buffer) none).foldl step (probed 38)
    cfg.neededHeadroom = 38 ∧ (cfg.poolIdx = if poolLen ≤ count then 0 else count) ∧
      ∀ slot, cfg.pool slot = if slot < count then some (packet slot) else none
  | 0, _ => ⟨rfl, rfl, fun _ => rfl⟩
  | count + 1, room => by
      obtain ⟨headroom, idx, pool⟩ := fill_slots (Nat.le_of_succ_le room)
      rw [if_neg (Nat.not_le_of_lt room)] at idx
      rw [List.range_succ, List.map_append, List.foldl_append, List.map_singleton, List.foldl_cons, List.foldl_nil,
        step_fill]
      · refine ⟨headroom, ?_, fun slot => ?_⟩
        · dsimp only [link]
          rw [idx]
        · dsimp only [link]
          rw [idx, place, pool]
          split_ifs <;> grind
      · rw [headroom]
        exact Nat.not_lt_of_le (by decide : 38 ≤ 64)
      · rw [idx, pool, if_neg (Nat.lt_irrefl count)]

/-- The call that finds the pool full frees the packet that it sends back, and
a stop leaves the listed packet neither freed nor held. -/
theorem returned_packet_freed :
    ¬ Respected (run step (probed 38) fillPool) (.dataTx (packet 256) none) ∧
      ¬ Along step Respected (probed 38) [.dataTx (packet 1) none, .txStop] := by
  constructor
  · intro respected
    obtain ⟨headroom, idx, pool⟩ := fill_slots (Nat.le_refl poolLen)
    have taken : (run step (probed 38) fillPool).pool (run step (probed 38) fillPool).poolIdx = some (packet 0) := by
      rw [run, fillPool, idx, pool]
      rfl
    have roomy : ¬ (packet 256).headroom < (run step (probed 38) fillPool).neededHeadroom := by
      rw [run, fillPool, headroom]
      exact Nat.not_lt_of_le (by decide : 38 ≤ 64)
    have busy := dataTx_taken roomy taken
    exact dataTx_busy_frees busy (respected.returned (packet 256) none rfl busy).freed
  · intro along
    have balance := along.2.1.owned.balance.length_eq
    exact absurd balance (by decide)

end MangOH.Transmit
