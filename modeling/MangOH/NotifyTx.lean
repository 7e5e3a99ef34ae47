import MangOH.QueueRefusals
import MangOH.Transmit

/-!
`mt7697_notify_tx` with what it reads. The packet that it looks at is the list head taken for a
packet: behind the head stands the pointer to `tx_workq`, so the length is a word of the work
queue, here `stray`.
-/

namespace MangOH.NotifyTx

open BitFields QueueMemory QueueWrite Transmit

/-- What a `next` link of the list leads to. -/
inductive Node where
  | head
  | slot (place : Nat)
  deriving DecidableEq

inductive Call where
  | unblockWriter
  | queueTxWork
  deriving DecidableEq

/-- `inspected` lists the packets whose length is read. -/
structure Notified where
  cfg : Cfg
  ret : Int
  calls : List Call
  inspected : List Node

/-- `tx_pkt->skb->len`. -/
def skbLen (stray : Nat) (cfg : Cfg) : Node → Nat
  | .head => stray
  | .slot place => ((cfg.pool place).map fun skb => skb.data.length).getD 0

def mt7697NotifyTx (stray free : Nat) (cfg : Cfg) : Notified :=
  if cfg.list ≠ [] then
    let txPkt : Node := .head
    if free ≤ skbLen stray cfg txPkt then
      { cfg := { cfg with blockedWriter := false, queued := true }
        ret := if cfg.queued = true then 0 else 1
        calls := [.unblockWriter, .queueTxWork]
        inspected := [txPkt] }
    else ⟨cfg, 0, [], [txPkt]⟩
  else ⟨cfg, 0, [], []⟩

attribute [local simp] mt7697NotifyTx

def Wakes (result : Notified) : Prop :=
  .unblockWriter ∈ result.calls ∧ .queueTxWork ∈ result.calls

/-- The list has a first packet whose request takes no more than these words. -/
def FirstFits (free : Nat) (cfg : Cfg) : Prop :=
  ∃ slot skb, cfg.list.head? = some slot ∧ cfg.pool slot = some skb ∧
    rawPacketWords skb.data.length ≤ free

/-- The writer is woken just for a first packet that fits. -/
def Decides (stray free : Nat) (cfg : Cfg) : Prop :=
  Wakes (mt7697NotifyTx stray free cfg) ↔ FirstFits free cfg

/-- Nothing is looked at but the first packet. -/
def Inspects (stray free : Nat) (cfg : Cfg) : Prop :=
  (mt7697NotifyTx stray free cfg).inspected = (cfg.list.head?.map Node.slot).toList

theorem notify_step (stray free : Nat) (cfg : Cfg) :
    (mt7697NotifyTx stray free cfg).cfg = step cfg (.notifyTx (decide (free ≤ stray))) := by
  by_cases some : cfg.list ≠ []
  · by_cases large : free ≤ stray
    · simp [step, Transmit.mt7697NotifyTx, some, skbLen, large]
    · simp [step, Transmit.mt7697NotifyTx, some, skbLen, large]
  · simp [step, Transmit.mt7697NotifyTx, some]

theorem wakes_iff (stray free : Nat) (cfg : Cfg) :
    Wakes (mt7697NotifyTx stray free cfg) ↔ cfg.list ≠ [] ∧ free ≤ stray := by
  by_cases some : cfg.list ≠ []
  · by_cases large : free ≤ stray
    · simp [Wakes, some, skbLen, large]
    · simp [Wakes, some, skbLen, large]
  · simp [Wakes, some]

theorem FirstFits.nonempty {free : Nat} {cfg : Cfg} (fits : FirstFits free cfg) : cfg.list ≠ [] := by
  obtain ⟨slot, _, first, _⟩ := fits
  rintro empty
  rw [empty] at first
  cases first

theorem decides_iff (stray free : Nat) (cfg : Cfg) :
    Decides stray free cfg ↔ cfg.list = [] ∨ (free ≤ stray ↔ FirstFits free cfg) := by
  rw [Decides, wakes_iff]
  by_cases empty : cfg.list = []
  · refine iff_of_true (iff_of_false ?_ ?_) (Or.inl empty)
    · exact fun wakes => wakes.1 empty
    · exact fun fits => fits.nonempty empty
  · rw [and_iff_right empty, or_iff_right empty]

theorem inspects_iff (stray free : Nat) (cfg : Cfg) : Inspects stray free cfg ↔ cfg.list = [] := by
  cases list : cfg.list with
  | nil => simp [Inspects, list]
  | cons slot rest =>
      by_cases large : free ≤ stray
      · simp [Inspects, list, skbLen, large]
      · simp [Inspects, list, skbLen, large]

/-- Where the ring's transfers go through, a request is turned away just for want of words. -/
theorem request_refused_iff {qs : QueueSpec} (through : Through qs.slave.faults) (request : List Word) :
    (mt7697qWrite qs request).2 = -eagain ↔ ¬ request.length ≤ mt7697qGetFreeWords qs := by
  rw [Nat.not_le]
  by_cases short : mt7697qGetFreeWords qs < request.length
  · rw [short_write short, through_head through]
    exact iff_of_true rfl short
  · have written : mt7697qWrite qs request = writeWords qs request := if_neg short
    rw [written]
    exact iff_of_false (writeWords_through through request) short

/-- A wake-up that decides by the first packet is for one that the ring takes. -/
theorem decides_ring {stray : Nat} {cfg : Cfg} {qs : QueueSpec} {slot : Nat} {skb : Skb}
    {request : List Word} (decides : Decides stray (mt7697qGetFreeWords qs) cfg)
    (through : Through qs.slave.faults) (first : cfg.list.head? = some slot)
    (packet : cfg.pool slot = some skb) (words : request.length = rawPacketWords skb.data.length) :
    Wakes (mt7697NotifyTx stray (mt7697qGetFreeWords qs) cfg) ↔
      (mt7697qWrite qs request).2 ≠ -eagain := by
  have decided : Wakes (mt7697NotifyTx stray (mt7697qGetFreeWords qs) cfg) ↔
      FirstFits (mt7697qGetFreeWords qs) cfg := decides
  rw [Ne, request_refused_iff through, not_not, words, decided]
  constructor
  · rintro ⟨other, found, same, held, fits⟩
    rw [first] at same
    cases same
    rw [packet] at held
    cases held
    exact fits
  · exact fun fits => ⟨slot, skb, first, packet, fits⟩

/-- The list head is looked at unless there is no packet at all; the decision may be right by
what stands there. -/
theorem mt7697NotifyTx_exact_iff (stray free : Nat) (cfg : Cfg) :
    (Decides stray free cfg ∧ Inspects stray free cfg ↔ cfg.list = []) ∧
      (Decides stray free cfg ↔ cfg.list = [] ∨ (free ≤ stray ↔ FirstFits free cfg)) := by
  have decides := decides_iff stray free cfg
  have inspects := inspects_iff stray free cfg
  refine ⟨⟨fun both => inspects.mp both.2, fun empty => ⟨?_, inspects.mpr empty⟩⟩, decides⟩
  exact decides.mpr (Or.inl empty)

/-- One packet of four bytes, a request of three words. -/
def waiting : Cfg :=
  { probed 64 with
    pool := fun slot => if slot = 0 then some ⟨1, [1, 2, 3, 4], 64⟩ else none
    poolIdx := 1
    list := [0]
    blockedWriter := true }

/-- Even with the packet's own length there, it is left asleep with eight words free. -/
theorem room_left_asleep : ¬ ∀ stray free cfg, Decides stray free cfg ∧ Inspects stray free cfg := by
  intro exact
  have asleep := (wakes_iff 4 8 waiting).mp ((exact 4 8 waiting).1.mpr
    ⟨0, ⟨1, [1, 2, 3, 4], 64⟩, rfl, rfl, by decide⟩)
  exact absurd asleep.2 (by decide)

end MangOH.NotifyTx
