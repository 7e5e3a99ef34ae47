import MangOH.Transmit
import Mathlib.Data.List.Nodup

/-!
The pool, the list and the index of the transmit path agree: the occupied
slots are the listed ones, a cyclic range that ends just before the index. The
work always takes the head of the list. Stopping the interface over a listed
packet is the one operation that breaks this, and it breaks it at once.
-/

namespace MangOH.Transmit

open CyclicWindow Trace

/-- The occupied slots, oldest first, end just before `poolIdx`. -/
structure Ring (pool : Nat → Option Skb) (poolIdx : Nat) (list : List Nat) : Prop where
  linked : ∀ place, (pool place).isSome = true ↔ place ∈ list
  cyclic : ∃ origin, origin < poolLen ∧ list.length ≤ poolLen ∧
    slot poolLen origin list.length = poolIdx ∧ list = window poolLen id origin list.length

section Rings

variable {pool : Nat → Option Skb} {poolIdx : Nat} {list : List Nat}

theorem ring_nodup (ring : Ring pool poolIdx list) : list.Nodup := by
  obtain ⟨origin, _, bound, _, cells⟩ := ring.cyclic
  rw [cells, window]
  refine List.Nodup.map_on ?_ List.nodup_range
  intro first left second right same
  have left := List.mem_range.mp left
  have right := List.mem_range.mp right
  exact slot_injective (by omega) (by omega) same

theorem ring_mem_iff (ring : Ring pool poolIdx list) :
    poolIdx ∈ list ↔ list.length = poolLen := by
  obtain ⟨origin, inside, bound, finish, cells⟩ := ring.cyclic
  constructor
  · intro member
    rw [cells, window, List.mem_map] at member
    obtain ⟨count, small, same⟩ := member
    have small := List.mem_range.mp small
    -- The index follows the last listed slot, so a range that holds it has closed.
    by_contra short
    have equal := slot_injective (by omega) (by omega) (same.trans finish.symm)
    omega
  · intro whole
    rw [cells, window, List.mem_map]
    refine ⟨0, List.mem_range.mpr (by rw [whole]; decide), ?_⟩
    rw [← finish, whole]
    unfold slot
    split_ifs <;> simp only [id_eq] <;> omega

theorem ring_full (ring : Ring pool poolIdx list) (occupied : (pool poolIdx).isSome = true)
    {place : Nat} (inside : place < poolLen) : place ∈ list := by
  have whole := (ring_mem_iff ring).mp ((ring.linked _).mp occupied)
  obtain ⟨origin, small, _, _, cells⟩ := ring.cyclic
  obtain ⟨count, bound, same⟩ := slot_surjective small inside
  rw [cells, window, List.mem_map]
  exact ⟨count, List.mem_range.mpr (by omega), same⟩

theorem ring_nil (inside : poolIdx < poolLen) : Ring (fun _ => none) poolIdx [] :=
  ⟨by simp, poolIdx, inside, by simp, slot_zero inside, by simp⟩

theorem ring_link (ring : Ring pool poolIdx list) (free : pool poolIdx = none) (skb : Skb) :
    Ring (place pool poolIdx (some skb))
      (if poolLen ≤ poolIdx + 1 then 0 else poolIdx + 1) (list ++ [poolIdx]) := by
  have unlisted : poolIdx ∉ list := by
    rw [← ring.linked, free]
    simp
  -- With a free slot at the index the range has not closed.
  have room : list.length ≠ poolLen := fun whole => unlisted ((ring_mem_iff ring).mpr whole)
  obtain ⟨origin, inside, bound, finish, cells⟩ := ring.cyclic
  constructor
  · intro key
    by_cases same : key = poolIdx
    · simp [place, same]
    · simp [place, same, ring.linked]
  · have short : list.length + 1 ≤ poolLen := by omega
    have last : poolIdx < poolLen := finish ▸ slot_lt inside bound
    refine ⟨origin, inside, by simpa using short, ?_, ?_⟩
    · rw [List.length_append, List.length_singleton, ← slot_slot inside short, finish]
      unfold slot
      split_ifs <;> omega
    · rw [List.length_append, List.length_singleton, window_append _ _ inside short, finish, ← cells]
      simp [window, slot_zero last]

theorem ring_release {slot : Nat} {rest : List Nat} (ring : Ring pool poolIdx (slot :: rest)) :
    Ring (place pool slot none) poolIdx rest := by
  have apart := (List.nodup_cons.mp (ring_nodup ring)).1
  obtain ⟨origin, inside, bound, finish, cells⟩ := ring.cyclic
  simp only [List.length_cons] at bound finish cells
  have more : 1 + rest.length ≤ poolLen := by omega
  constructor
  · intro key
    by_cases same : key = slot
    · simp [place, same, apart]
    · simp [place, same, ring.linked]
  · refine ⟨CyclicWindow.slot poolLen origin 1, slot_lt inside (by decide), by omega, ?_, ?_⟩
    · rw [slot_slot inside more, Nat.add_comm]
      exact finish
    · rw [Nat.add_comm, window_append _ _ inside more] at cells
      exact (List.cons.inj cells).2

end Rings

/-- The loop finds the entry it goes on with, and work is queued for entries
that it will not reach. -/
def Resumes (list : List Nat) (queued : Bool) : Option Nat → Prop
  | none => list = [] ∨ queued = true
  | some slot => list.head? = some slot

def Working (list : List Nat) (queued : Bool) : Worker → Prop
  | .idle => Resumes list queued none
  | .visit slot next => ∃ rest, list = slot :: rest ∧ Resumes rest queued next
  | .passed next => Resumes list queued next

theorem resumes_link {list : List Nat} {queued : Bool} {next : Option Nat}
    (resumes : Resumes list queued next) (slot : Nat) : Resumes (list ++ [slot]) true next := by
  cases next with
  | none => exact Or.inr rfl
  | some _ => simp only [Resumes, List.head?_append] at *; simp [resumes]

theorem working_link {list : List Nat} {queued : Bool} {worker : Worker}
    (working : Working list queued worker) (slot : Nat) :
    Working (list ++ [slot]) true worker := by
  cases worker with
  | idle =>
      have resumes : Resumes list queued none := working
      exact resumes_link resumes slot
  | visit pos next =>
      obtain ⟨rest, split, resumes⟩ := working
      exact ⟨rest ++ [slot], by simp [split], resumes_link resumes slot⟩
  | passed next => exact resumes_link working slot

theorem resumes_queue {list : List Nat} {queued : Bool} {next : Option Nat}
    (resumes : Resumes list queued next) : Resumes list true next := by
  cases next with
  | none => exact Or.inr rfl
  | some _ => exact resumes

theorem working_queue {list : List Nat} {queued : Bool} {worker : Worker}
    (working : Working list queued worker) : Working list true worker := by
  cases worker with
  | idle =>
      have resumes : Resumes list queued none := working
      exact resumes_queue resumes
  | visit pos next =>
      obtain ⟨rest, split, resumes⟩ := working
      exact ⟨rest, split, resumes_queue resumes⟩
  | passed next => exact resumes_queue working

theorem resumes_head (list : List Nat) (queued : Bool) : Resumes list queued list.head? := by
  cases list with
  | nil => exact Or.inl rfl
  | cons _ _ => rfl

/-- What every step keeps as long as the interface is stopped over an empty list. -/
structure Sound (cfg : Cfg) : Prop where
  ring : Ring cfg.pool cfg.poolIdx cfg.list
  working : Working cfg.list cfg.queued cfg.worker

theorem advance_sound {cfg : Cfg} {next : Option Nat} (ring : Ring cfg.pool cfg.poolIdx cfg.list)
    (resumes : Resumes cfg.list cfg.queued next) : Sound (advance next cfg) := by
  cases next with
  | none => exact ⟨ring, resumes⟩
  | some slot =>
      refine ⟨ring, ?_⟩
      cases split : cfg.list with
      | nil => simp [Resumes, split] at resumes
      | cons first rest =>
          -- The entry read ahead heads the list: whatever was linked meanwhile is behind it.
          have same : first = slot := by simpa [Resumes, split] using resumes
          subst same
          have next : following first (first :: rest) = rest.head? := by simp [following]
          simp only [advance, split, next]
          exact ⟨rest, rfl, resumes_head rest cfg.queued⟩

/-- What `ensureHeadroom` leaves of the packet, if it is not dropped. -/
inductive Ensured (skb : Skb) (cfg : Cfg) : Option Nat → Cfg → Option Skb → Prop where
  | enough {copy : Option Nat} : cfg.neededHeadroom ≤ skb.headroom →
      Ensured skb cfg copy cfg (some skb)
  | copied {buffer : Nat} : skb.headroom < cfg.neededHeadroom →
      Ensured skb cfg (some buffer)
        { cfg with freed := cfg.freed ++ [skb.buffer], copies := cfg.copies ++ [buffer] }
        (some { skb with buffer := buffer, headroom := cfg.neededHeadroom })
  | failed : skb.headroom < cfg.neededHeadroom →
      Ensured skb cfg none { cfg with freed := cfg.freed ++ [skb.buffer] } none

theorem ensureHeadroom_ensured (skb : Skb) (copy : Option Nat) (cfg : Cfg) :
    Ensured skb cfg copy (ensureHeadroom skb copy cfg).1 (ensureHeadroom skb copy cfg).2 := by
  unfold ensureHeadroom
  split_ifs with short
  · cases copy with
    | none => exact .failed short
    | some buffer => exact .copied short
  · exact .enough (by omega)

theorem ensured_frame {skb : Skb} {cfg mid : Cfg} {copy : Option Nat} {taken : Option Skb}
    (ensured : Ensured skb cfg copy mid taken) :
    ∃ freed copies, mid = { cfg with freed := freed, copies := copies } := by
  cases ensured with
  | enough _ => exact ⟨_, _, rfl⟩
  | copied _ => exact ⟨_, _, rfl⟩
  | failed _ => exact ⟨_, _, rfl⟩

theorem txDrop_eq (list : List Nat) :
    ∀ cfg : Cfg, cfg.list = list →
      txDrop list cfg = { cfg with list := [], txDropped := cfg.txDropped + list.length } := by
  induction list with
  | nil =>
      intro cfg listed
      rw [txDrop, List.length_nil, Nat.add_zero, ← listed]
  | cons slot rest ih =>
      intro cfg listed
      rw [txDrop, ih _ (by simp [listed])]
      simp only [List.length_cons, Nat.add_assoc, Nat.add_comm 1]

theorem mt7697TxStop_eq (cfg : Cfg) :
    mt7697TxStop cfg =
      { cfg with list := [], txDropped := cfg.txDropped + cfg.list.length } :=
  txDrop_eq cfg.list cfg rfl

/-- The event finds nothing to do. -/
def Waits (cfg : Cfg) : Event → Prop
  | .dataTx _ _ => False
  | .workPacket _ => ∀ slot next, cfg.worker ≠ .visit slot next
  | .txStop => cfg.worker ≠ .idle
  | _ => True

/-- Everything that a step can do. -/
inductive Effect (cfg : Cfg) : Event → Cfg → Prop where
  | wait {event : Event} : Waits cfg event → Effect cfg event cfg
  | drop {skb : Skb} : skb.headroom < cfg.neededHeadroom →
      Effect cfg (.dataTx skb none)
        { countDrop { cfg with freed := cfg.freed ++ [skb.buffer] } with
          accepted := cfg.accepted ++ [skb] }
  | busy {skb taken : Skb} {copy : Option Nat} {mid : Cfg} :
      Ensured skb cfg copy mid (some taken) → (cfg.pool cfg.poolIdx).isSome = true →
      Effect cfg (.dataTx skb copy)
        { countDrop mid with freed := mid.freed ++ [taken.buffer] }
  | queue {skb taken : Skb} {copy : Option Nat} {mid : Cfg} :
      Ensured skb cfg copy mid (some taken) → cfg.pool cfg.poolIdx = none →
      Effect cfg (.dataTx skb copy)
        { link taken mid with accepted := mid.accepted ++ [skb] }
  | notify {large : Bool} :
      Effect cfg (.notifyTx large) { cfg with blockedWriter := false, queued := true }
  | begin : cfg.worker = .idle →
      Effect cfg .workBegin (advance cfg.list.head? { cfg with queued := false })
  | packet {write : Int} {slot : Nat} {next : Option Nat} {rest : List Nat} {skb : Skb} :
      cfg.worker = .visit slot next → cfg.list = slot :: rest → Resumes rest cfg.queued next →
      cfg.pool slot = some skb →
      Effect cfg (.workPacket write) { txPacket write slot skb cfg with worker := .passed next }
  | advance {next : Option Nat} : cfg.worker = .passed next → Resumes cfg.list cfg.queued next →
      Effect cfg .workAdvance (advance next cfg)
  | stop : cfg.worker = .idle →
      Effect cfg .txStop { cfg with list := [], txDropped := cfg.txDropped + cfg.list.length }

theorem dataTx_effect (skb : Skb) (copy : Option Nat) (cfg : Cfg) :
    Effect cfg (.dataTx skb copy) (handOver skb (mt7697DataTx skb copy cfg)) := by
  have ensured := ensureHeadroom_ensured skb copy cfg
  unfold mt7697DataTx
  generalize ensureHeadroom skb copy cfg = result at ensured
  obtain ⟨mid, taken⟩ := result
  dsimp only at ensured ⊢
  obtain ⟨freed, copies, frame⟩ := ensured_frame ensured
  cases taken with
  | none =>
      cases ensured with
      | failed short => exact .drop short
  | some taken =>
      have same : mid.pool mid.poolIdx = cfg.pool cfg.poolIdx := by rw [frame]
      cases occupied : cfg.pool cfg.poolIdx with
      | none =>
          simp only [same, occupied, handOver, if_true]
          exact .queue ensured occupied
      | some held =>
          have busy := Effect.busy ensured (by simp [occupied])
          simpa [same, occupied, handOver, netdevTxBusy, netdevTxOk] using busy

theorem step_effect {cfg : Cfg} (sound : Sound cfg) (event : Event) :
    Effect cfg event (step cfg event) := by
  obtain ⟨ring, working⟩ := sound
  cases event with
  | dataTx skb copy => exact dataTx_effect skb copy cfg
  | notifyTx large =>
      simp only [step, mt7697NotifyTx]
      split_ifs
      · exact .notify
      · exact .wait trivial
  | workBegin =>
      simp only [step, workBegin]
      split_ifs with ready
      · exact .begin ready.1
      · exact .wait trivial
  | workPacket write =>
      cases worker : cfg.worker with
      | visit slot next =>
          rw [worker] at working
          obtain ⟨rest, split, resumes⟩ := working
          -- A listed slot is occupied, so the branch for an empty one is not taken.
          obtain ⟨skb, held⟩ := Option.isSome_iff_exists.mp ((ring.linked slot).mpr (by simp [split]))
          have packet : Effect cfg (.workPacket write) _ := .packet worker split resumes held
          simpa [step, workPacket, worker, held] using packet
      | idle => simpa [step, workPacket, worker] using Effect.wait (by simp [Waits, worker])
      | passed next => simpa [step, workPacket, worker] using Effect.wait (by simp [Waits, worker])
  | workAdvance =>
      cases worker : cfg.worker with
      | passed next =>
          rw [worker] at working
          simpa [step, workAdvance, worker] using Effect.advance worker working
      | idle =>
          have wait : Effect cfg .workAdvance cfg := .wait trivial
          simpa [step, workAdvance, worker] using wait
      | visit slot next =>
          have wait : Effect cfg .workAdvance cfg := .wait trivial
          simpa [step, workAdvance, worker] using wait
  | txStop =>
      simp only [step]
      split_ifs with idle
      · rw [mt7697TxStop_eq]
        exact .stop idle
      · exact .wait idle

/-- The interface does not stop over a listed packet. -/
def StopsEmpty (cfg : Cfg) : Event → Prop
  | .txStop => cfg.worker = .idle → cfg.list = []
  | _ => True

theorem Effect.sound {cfg after : Cfg} {event : Event} (effect : Effect cfg event after)
    (stops : StopsEmpty cfg event) (sound : Sound cfg) : Sound after := by
  obtain ⟨ring, working⟩ := sound
  cases effect with
  | wait _ => exact ⟨ring, working⟩
  | drop _ => exact ⟨ring, working⟩
  | busy ensured _ =>
      obtain ⟨freed, copies, rfl⟩ := ensured_frame ensured
      exact ⟨ring, working⟩
  | queue ensured free =>
      obtain ⟨freed, copies, rfl⟩ := ensured_frame ensured
      exact ⟨ring_link ring free _, working_link working _⟩
  | notify => exact ⟨ring, working_queue working⟩
  | begin _ => exact advance_sound ring (resumes_head cfg.list false)
  | @packet write slot next rest skb _ split resumes _ =>
      rw [split] at ring
      have head : cfg.list.erase slot = rest := by simp [split]
      refine ⟨?_, ?_⟩
      · simpa only [txPacket, head] using ring_release ring
      · change Resumes (cfg.list.erase slot) cfg.queued next
        rw [head]
        exact resumes
  | advance _ resumes => exact advance_sound ring resumes
  | stop idle =>
      have empty := stops idle
      refine ⟨by simpa [empty] using ring, ?_⟩
      simp only [idle]
      exact Or.inl rfl

theorem step_sound {cfg : Cfg} {event : Event} (sound : Sound cfg)
    (stops : StopsEmpty cfg event) : Sound (step cfg event) :=
  (step_effect sound event).sound stops sound

theorem probed_sound (neededHeadroom : Nat) : Sound (probed neededHeadroom) :=
  ⟨ring_nil (by simp [probed, poolLen]), Or.inl rfl⟩

/-- A slot is occupied when it is listed, once and in the order of the pool,
and the pool is reported full when each of its slots is listed. -/
structure PoolAgrees (cfg : Cfg) : Prop where
  linked : ∀ place, (cfg.pool place).isSome = true ↔ place ∈ cfg.list
  once : cfg.list.Nodup
  cyclic : ∃ origin, origin < poolLen ∧ cfg.list.length ≤ poolLen ∧
    slot poolLen origin cfg.list.length = cfg.poolIdx ∧
    cfg.list = window poolLen id origin cfg.list.length
  full : ∀ skb copy, (mt7697DataTx skb copy cfg).2 = netdevTxBusy →
    ∀ place, place < poolLen → place ∈ cfg.list

theorem dataTx_busy {skb : Skb} {copy : Option Nat} {cfg : Cfg}
    (busy : (mt7697DataTx skb copy cfg).2 = netdevTxBusy) :
    (cfg.pool cfg.poolIdx).isSome = true := by
  obtain ⟨freed, copies, frame⟩ := ensured_frame (ensureHeadroom_ensured skb copy cfg)
  unfold mt7697DataTx at busy
  generalize ensureHeadroom skb copy cfg = result at busy frame
  obtain ⟨mid, taken⟩ := result
  dsimp only at frame busy
  subst frame
  cases taken with
  | none => simp [netdevTxOk, netdevTxBusy] at busy
  | some taken =>
      cases occupied : cfg.pool cfg.poolIdx with
      | none => simp [occupied, netdevTxOk, netdevTxBusy] at busy
      | some held => rfl

theorem ring_agrees {cfg : Cfg} (ring : Ring cfg.pool cfg.poolIdx cfg.list) : PoolAgrees cfg where
  linked := ring.linked
  once := ring_nodup ring
  cyclic := ring.cyclic
  full _ _ busy _ inside := ring_full ring (dataTx_busy busy) inside

/-- Over a listed packet the stop leaves an occupied slot behind. -/
theorem stop_agrees_iff {cfg : Cfg} {event : Event} (sound : Sound cfg) :
    PoolAgrees (step cfg event) ↔ StopsEmpty cfg event := by
  constructor
  · intro agrees
    cases event with
    | txStop =>
        intro idle
        -- The list is emptied, the slot of its first packet is not.
        by_contra listed
        obtain ⟨place, rest, split⟩ := List.exists_cons_of_ne_nil listed
        have occupied := (sound.ring.linked place).mpr (by simp [split])
        simp only [step, idle, if_true, mt7697TxStop_eq] at agrees
        exact absurd ((agrees.linked place).mp occupied) List.not_mem_nil
    | _ => trivial
  · exact fun stops => ring_agrees (step_sound sound stops).ring

/-- A run keeps pool, list and index in agreement exactly when the interface
never stops over a listed packet. -/
theorem pool_agrees_iff (neededHeadroom : Nat) (events : List Event) :
    Along step (fun cfg event => PoolAgrees (step cfg event)) (probed neededHeadroom) events ↔
      Along step StopsEmpty (probed neededHeadroom) events := by
  refine @along_iff _ _ step _ StopsEmpty Sound (fun sound => stop_agrees_iff sound) ?_ events _
    (probed_sound neededHeadroom)
  exact fun sound agrees => step_sound sound ((stop_agrees_iff sound).mp agrees)

def packet (buffer : Nat) : Skb := ⟨buffer, List.replicate 40 0, 64⟩

/-- A stop over one listed packet leaves its slot occupied and unlisted. -/
theorem stopped_slot_leaks :
    ¬ Along step (fun cfg event => PoolAgrees (step cfg event)) (probed 38)
      [.dataTx (packet 1) none, .txStop] := by
  intro along
  have linked := (along.2.1.linked 0).mp (by decide)
  exact absurd linked (by decide)

end MangOH.Transmit
