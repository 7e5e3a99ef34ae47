import MangOH.QueueMemory
import MangOH.Trace

/-!
The transmit path of the WiFi driver: the pool of slots, the list of pending
slots and the work that drains it. The work takes its packets one by one, and
the other operations may come between two of them; the head of the list and
the packet after it are read when the loop reads them. `accepted`, `copies`,
`freed` and `sent` record what happened to the buffers. One interface sends,
and its counters are unbounded.

`queue_work` returns a truth value, so the branches for its failure never run.
-/

namespace MangOH.Transmit

open QueueMemory

def eio : Int := 5
def netdevTxOk : Int := 0
def netdevTxBusy : Int := 16

/-- `MT7697_TX_PKT_POOL_LEN`. -/
def poolLen : Nat := 256

/-- The size of `struct ieee80211_hdr`. -/
def ieee80211Hdr : Nat := 30

structure Skb where
  buffer : Nat
  data : List (BitVec 8)
  headroom : Nat
  deriving DecidableEq

/-- One call of `mt7697_wr_tx_raw_packet`, and how often each counter took it. -/
structure Sent where
  skb : Skb
  ret : Int
  packets : Nat
  errors : Nat

/-- Where `list_for_each_entry_safe` stands: before the body, with the packet
to follow already read, or behind it. -/
inductive Worker where
  | idle
  | visit (slot : Nat) (next : Option Nat)
  | passed (next : Option Nat)
  deriving DecidableEq

structure Cfg where
  pool : Nat → Option Skb
  poolIdx : Nat
  list : List Nat
  queued : Bool
  worker : Worker
  txSkbQueue : List Skb
  blockedWriter : Bool
  neededHeadroom : Nat
  txPackets : Nat
  txBytes : Nat
  txErrors : Nat
  txDropped : Nat
  txAbortedErrors : Nat
  accepted : List Skb
  copies : List Nat
  freed : List Nat
  sent : List Sent

def place (pool : Nat → Option Skb) (slot : Nat) (skb : Option Skb) : Nat → Option Skb :=
  fun key => if key = slot then skb else pool key

/-- The first entry that `mt7697_notify_tx` compares is the list head itself,
so `large` is what the comparison with `free` happens to give. -/
def mt7697NotifyTx (large : Bool) (cfg : Cfg) : Cfg :=
  if cfg.list ≠ [] ∧ large = true then { cfg with blockedWriter := false, queued := true } else cfg

/-- `copy` is the outcome of `skb_realloc_headroom`. -/
def ensureHeadroom (skb : Skb) (copy : Option Nat) (cfg : Cfg) : Cfg × Option Skb :=
  if skb.headroom < cfg.neededHeadroom then
    let cfg := { cfg with freed := cfg.freed ++ [skb.buffer] }
    match copy with
    | none => (cfg, none)
    | some buffer =>
        ({ cfg with copies := cfg.copies ++ [buffer] },
          some { skb with buffer := buffer, headroom := cfg.neededHeadroom })
  else (cfg, some skb)

def countDrop (cfg : Cfg) : Cfg :=
  { cfg with txDropped := cfg.txDropped + 1, txAbortedErrors := cfg.txAbortedErrors + 1 }

def link (skb : Skb) (cfg : Cfg) : Cfg :=
  { cfg with
    pool := place cfg.pool cfg.poolIdx (some skb)
    poolIdx := if poolLen ≤ cfg.poolIdx + 1 then 0 else cfg.poolIdx + 1
    list := cfg.list ++ [cfg.poolIdx]
    queued := true }

/-- The clean-up path frees the packet whatever is returned. -/
def mt7697DataTx (skb : Skb) (copy : Option Nat) (cfg : Cfg) : Cfg × Int :=
  match ensureHeadroom skb copy cfg with
  | (cfg, none) => (countDrop cfg, netdevTxOk)
  | (cfg, some skb) =>
      match cfg.pool cfg.poolIdx with
      | some _ => ({ countDrop cfg with freed := cfg.freed ++ [skb.buffer] }, netdevTxBusy)
      | none => (link skb cfg, netdevTxOk)

/-- The words of a raw packet request of `length` bytes. -/
def rawPacketWords (length : Nat) : Nat := lenToWord (len32Aligned (u16 (8 + length)))

/-- `write` is what the transport returns. -/
def mt7697WrTxRawPacket (length : Nat) (write : Int) : Int :=
  if write ≠ rawPacketWords length then if write < 0 then write else -eio else 0

/-- The body of the loop: a packet that fails either test is counted in
`tx_errors` and then treated like any other. -/
def txPacket (write : Int) (slot : Nat) (skb : Skb) (cfg : Cfg) : Cfg :=
  let ret := mt7697WrTxRawPacket skb.data.length write
  let errors := (if skb.data.length < ieee80211Hdr then 1 else 0) + if ret < 0 then 1 else 0
  { cfg with
    pool := place cfg.pool slot none
    list := cfg.list.erase slot
    txSkbQueue := cfg.txSkbQueue ++ [skb]
    blockedWriter := if write = -eagain then true else cfg.blockedWriter
    txPackets := cfg.txPackets + 1
    txBytes := cfg.txBytes + skb.data.length
    txErrors := cfg.txErrors + errors
    sent := cfg.sent ++ [⟨skb, ret, 1, errors⟩] }

/-- The entry behind `slot`. -/
def following (slot : Nat) : List Nat → Option Nat
  | [] => none
  | first :: rest => if first = slot then rest.head? else following slot rest

/-- The loop goes on, or ends with the purge of `tx_skb_queue`. -/
def advance (next : Option Nat) (cfg : Cfg) : Cfg :=
  match next with
  | some slot => { cfg with worker := .visit slot (following slot cfg.list) }
  | none =>
      { cfg with
        worker := .idle
        freed := cfg.freed ++ cfg.txSkbQueue.map Skb.buffer
        txSkbQueue := [] }

/-- `mt7697_tx_work` in three steps. -/
def workBegin (cfg : Cfg) : Cfg :=
  if cfg.worker = .idle ∧ cfg.queued = true then
    advance cfg.list.head? { cfg with queued := false }
  else cfg

def workPacket (write : Int) (cfg : Cfg) : Cfg :=
  match cfg.worker with
  | .visit slot next =>
      match cfg.pool slot with
      | some skb => { txPacket write slot skb cfg with worker := .passed next }
      | none => cfg
  | _ => cfg

def workAdvance (cfg : Cfg) : Cfg :=
  match cfg.worker with
  | .passed next => advance next cfg
  | _ => cfg

/-- The packets leave the list; their slots keep them. -/
def txDrop : List Nat → Cfg → Cfg
  | [], cfg => cfg
  | slot :: rest, cfg =>
      txDrop rest { cfg with txDropped := cfg.txDropped + 1, list := cfg.list.erase slot }

def mt7697TxStop (cfg : Cfg) : Cfg := txDrop cfg.list cfg

inductive Event where
  | dataTx (skb : Skb) (copy : Option Nat)
  | notifyTx (large : Bool)
  | workBegin
  | workPacket (write : Int)
  | workAdvance
  | txStop

/-- The stack hands a packet over with the call that returns `NETDEV_TX_OK`. -/
def handOver (skb : Skb) (result : Cfg × Int) : Cfg :=
  if result.2 = netdevTxOk then { result.1 with accepted := result.1.accepted ++ [skb] }
  else result.1

/-- The interface stops between two runs of the work. -/
def step (cfg : Cfg) : Event → Cfg
  | .dataTx skb copy => handOver skb (mt7697DataTx skb copy cfg)
  | .notifyTx large => mt7697NotifyTx large cfg
  | .workBegin => workBegin cfg
  | .workPacket write => workPacket write cfg
  | .workAdvance => workAdvance cfg
  | .txStop => if cfg.worker = .idle then mt7697TxStop cfg else cfg

/-- The packets on the list, oldest first. -/
def pending (cfg : Cfg) : List Skb := cfg.list.filterMap cfg.pool

/-- The state that `mt7697_probe` leaves. -/
def probed (neededHeadroom : Nat) : Cfg where
  pool := fun _ => none
  poolIdx := 0
  list := []
  queued := false
  worker := .idle
  txSkbQueue := []
  blockedWriter := false
  neededHeadroom := neededHeadroom
  txPackets := 0
  txBytes := 0
  txErrors := 0
  txDropped := 0
  txAbortedErrors := 0
  accepted := []
  copies := []
  freed := []
  sent := []

end MangOH.Transmit
