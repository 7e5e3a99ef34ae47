import MangOH.CanRuns

/-!
Frames on their way to the sockets: what a device has received, and what a socket sends,
which comes back to those on the same device.
-/

namespace MangOH.Can

variable {Sock : Type}

def canMtu : Nat := 16
def canfdMtu : Nat := 72
def canMaxDlen : Nat := 8
def canfdMaxDlen : Nat := 64

inductive Protocol where
  | can
  | canfd
deriving DecidableEq

def Protocol.mtu : Protocol → Nat
  | .can => canMtu
  | .canfd => canfdMtu

def Protocol.maxDlen : Protocol → Nat
  | .can => canMaxDlen
  | .canfd => canfdMaxDlen

/-- A frame in its buffer of `size` bytes, with the socket that has sent it. -/
structure Skb (Sock : Type) where
  canId : CanId
  size : Nat
  len : Nat
  sender : Option Sock
deriving DecidableEq

/-- `can_rcv` and `canfd_rcv`: the targets of a frame that has the form of its protocol. -/
def canRcv (protocol : Protocol) (core : Core Sock) (i : Int) (skb : Skb Sock) : List Sock :=
  if core.isCan i = false ∨ skb.size ≠ protocol.mtu ∨ protocol.maxDlen < skb.len then []
  else canReceive core i skb.canId

/-- A frame in the queue of a socket, with the address and the flags for its reader. -/
structure Msg (Sock : Type) where
  skb : Skb Sock
  ifindex : Int
  dontroute : Bool
  confirm : Bool
deriving DecidableEq

/-! What a socket should receive. -/

def RawSock.wants (ro : RawSock) (frame : CanId) : Nat := ro.asked.countP fun f => Wanted f.canId f.mask frame

def RawSock.hears (ro : RawSock) (i : Int) : Prop := ro.bound = true ∧ (ro.ifindex = 0 ∨ ro.ifindex = i)

instance (ro : RawSock) (i : Int) : Decidable (ro.hears i) := by
  unfold RawSock.hears
  infer_instance

def Conforms (protocol : Protocol) (skb : Skb Sock) : Prop :=
  skb.size = protocol.mtu ∧ skb.len ≤ protocol.maxDlen

instance (protocol : Protocol) (skb : Skb Sock) : Decidable (Conforms protocol skb) := by
  unfold Conforms
  infer_instance

/-! Counting. -/

def reached (frame : CanId) (entry : Entry Sock) : Prop :=
  entry.1 ∈ visited frame ∧ accepts frame entry.1 entry.2 = true

instance (frame : CanId) (entry : Entry Sock) : Decidable (reached frame entry) := by
  unfold reached
  infer_instance

variable {st : State Sock} {items : Registered Sock} {s : Sock} {ro : RawSock} {i : Int} {frame : CanId}

theorem entries_reached (s : Sock) (filter : List CanFilter) (frame : CanId) :
    ((entries s filter).filter (reached frame)).card =
      filter.countP fun f => Wanted f.canId f.mask frame := by
  rw [← Multiset.countP_eq_card_filter, entries, Multiset.coe_countP, List.countP_map]
  refine List.countP_congr fun f _ => ?_
  rw [Function.comp_apply, decide_eq_true_iff, decide_eq_true_iff]
  exact entry_iff f.canId f.mask frame s

theorem owed_reached :
    ((owed s (some ro) none + owed s (some ro) (some i)).filter (reached frame)).card =
      if ro.hears i then ro.wants frame else 0 := by
  by_cases bound : ro.bound = true
  · by_cases all : ro.ifindex = 0
    · have place : ro.dev = none := if_pos all
      have hears : ro.hears i := ⟨bound, .inl all⟩
      have here : owed s (some ro) none = entries s ro.asked := by
        rw [← place]
        exact owed_bound bound
      have there : owed s (some ro) (some i) = 0 := owed_other fun both => by cases both.2.trans place
      rw [if_pos hears, here, there, Multiset.add_zero, entries_reached]
      rfl
    · have place : ro.dev = some ro.ifindex := if_neg all
      have here : owed s (some ro) none = 0 := owed_other fun both => by cases both.2.trans place
      rw [here, Multiset.zero_add]
      by_cases same : ro.ifindex = i
      · have hears : ro.hears i := ⟨bound, .inr same⟩
        have there : owed s (some ro) (some i) = entries s ro.asked := by
          rw [← same, ← place]
          exact owed_bound bound
        rw [if_pos hears, there, entries_reached]
        rfl
      · have there : owed s (some ro) (some i) = 0 :=
          owed_other fun both => same (Option.some.inj (both.2.trans place)).symm
        have deaf : ¬ ro.hears i := fun both => both.2.elim all same
        rw [there, if_neg deaf]
        rfl
  · have deaf : ¬ ro.hears i := fun both => bound both.1
    rw [owed_free bound, if_neg deaf]
    rfl

/-! What a socket sends. -/

inductive SendErr where
  | einval
  | enxio
  | emsgsize
  | eperm
  | enetdown
  | enomem
  | enobufs

/-- A frame that the device has taken, where the device is to give it back itself, and
where a copy of it is received at once. -/
structure Sent (Sock : Type) where
  protocol : Protocol
  skb : Skb Sock
  loopback : Bool
  copy : Bool

def sizeProtocol (size : Nat) : Option Protocol :=
  if size = canMtu then some .can else if size = canfdMtu then some .canfd else none

/-- `cloned` and `queued` say whether memory and the device have taken the frame. -/
def canSend (net : NetDevice) (skb : Skb Sock) (loop cloned queued : Bool) : Except SendErr (Sent Sock) :=
  match sizeProtocol skb.size with
  | none => .error .einval
  | some protocol =>
      if protocol.maxDlen < skb.len then .error .einval
      else if net.mtu < skb.size ∧ canMaxDlen < skb.len then .error .emsgsize
      else if net.can = false then .error .eperm
      else if net.up = false then .error .enetdown
      else
        let copy := loop && !net.echo
        if copy = true ∧ cloned = false then .error .enomem
        else if queued = false then .error .enobufs
        else .ok ⟨protocol, skb, loop, copy⟩

variable {net : NetDevice} {skb : Skb Sock} {loop cloned queued : Bool} {sent : Sent Sock}

/-- A frame that is sent is one that is received. -/
theorem canSend_ok (done : canSend net skb loop cloned queued = .ok sent) :
    net.can = true ∧ Conforms sent.protocol skb ∧ sent.skb = skb ∧ sent.copy = (loop && !net.echo) := by
  unfold canSend at done
  split at done
  · cases done
  · rename_i protocol size
    have same : skb.size = protocol.mtu := by
      unfold sizeProtocol at size
      split at size
      · cases size
        assumption
      · split at size
        · cases size
          assumption
        · cases size
    split at done
    · cases done
    · rename_i short
      split at done
      · cases done
      · split at done
        · cases done
        · rename_i can
          split at done
          · cases done
          · dsimp only at done
            split at done
            · cases done
            · split at done
              · cases done
              · cases done
                exact ⟨Bool.eq_true_of_not_eq_false can, ⟨same, Nat.le_of_not_lt short⟩, rfl, rfl⟩

def rawSendmsg (s : Sock) (ro : RawSock) (i : Int) (canId : CanId) (size len : Nat) (cloned queued : Bool)
    (core : Core Sock) : Except SendErr (Sent Sock) :=
  if size ≠ canMtu ∧ (ro.fdFrames = false ∨ size ≠ canfdMtu) then .error .einval
  else match devGetByIndex core i with
    | none => .error .enxio
    | some net => canSend net ⟨canId, size, len, some s⟩ ro.loopback cloned queued

variable [DecidableEq Sock]

def rawRcv (s : Sock) (ro : RawSock) (i : Int) (skb : Skb Sock) : Option (Msg Sock) :=
  if ro.recvOwnMsgs = false ∧ skb.sender = some s then none
  else if ro.fdFrames = false ∧ skb.size ≠ canMtu then none
  else some ⟨skb, i, skb.sender.isSome, skb.sender = some s⟩

/-- What a frame puts into the queue of a socket. -/
def received (protocol : Protocol) (st : State Sock) (i : Int) (skb : Skb Sock) (s : Sock) : List (Msg Sock) :=
  ((canRcv protocol st.core i skb).filter (· = s)).filterMap fun s =>
    (st.socks s).bind fun ro => rawRcv s ro i skb

/-- As many copies as filters want the frame, where the socket takes it at all. -/
def expected (protocol : Protocol) (i : Int) (skb : Skb Sock) (s : Sock) (ro : RawSock) : List (Msg Sock) :=
  if Conforms protocol skb ∧ ro.hears i then (rawRcv s ro i skb).elim [] (List.replicate (ro.wants skb.canId))
  else []

theorem count_exact (whole : Exact st items) (socket : st.socks s = some ro) (frame : CanId) :
    (canReceive st.core i frame).count s = if ro.hears i then ro.wants frame else 0 := by
  have mine : (items none + items (some i)).filter (fun entry => s = entry.2.target) =
      owed s (some ro) none + owed s (some ro) (some i) := by
    rw [← socket, ← whole.owed, ← whole.owed, Multiset.filter_add]
    simp only [eq_comm]
  rw [← Multiset.coe_count, receive_exact whole.kept, Multiset.count_map, Multiset.filter_comm, mine]
  exact owed_reached

theorem received_count (protocol : Protocol) (skb : Skb Sock) (socket : st.socks s = some ro) :
    received protocol st i skb s =
      (rawRcv s ro i skb).elim [] (List.replicate ((canRcv protocol st.core i skb).count s)) := by
  have mine : (canRcv protocol st.core i skb).filter (· = s) =
      List.replicate ((canRcv protocol st.core i skb).count s) s := by
    rw [← List.filter_beq]
    exact List.filter_congr fun other _ => rfl
  rw [received, mine, List.filterMap_replicate, socket]
  simp only [Option.bind_some]
  cases rawRcv s ro i skb <;> rfl

/-- A frame reaches each socket just as often as the filters of the socket want it. -/
theorem received_exact {events : List (Event Sock)} (orderly : Trace.Along step Orderly start events) :
    let st := Trace.run step start events
    ∀ protocol i skb, st.core.isCan i = true → ∀ s, ∀ ro ∈ st.socks s,
      received protocol st i skb s = expected protocol i skb s ro := by
  intro st protocol i skb can s ro socket
  obtain ⟨items, whole⟩ : ∃ items, Exact st items := run_exact orderly
  rw [received_count protocol skb socket, expected, canRcv]
  by_cases form : Conforms protocol skb
  · rw [if_neg, count_exact whole socket]
    · by_cases hears : ro.hears i
      · rw [if_pos hears, if_pos ⟨form, hears⟩]
      · rw [if_neg hears, if_neg fun both => hears both.2]
        cases rawRcv s ro i skb <;> rfl
    · rintro (stranger | size | len)
      · exact Bool.false_ne_true (stranger.symm.trans can)
      · exact size form.1
      · exact absurd form.2 (Nat.not_le_of_lt len)
  · rw [if_pos, if_neg fun both => form both.1]
    · cases rawRcv s ro i skb <;> rfl
    · by_cases size : skb.size = protocol.mtu
      · exact .inr (.inr (Nat.lt_of_not_le fun len => form ⟨size, len⟩))
      · exact .inr (.inl size)

/-- What is received again of a frame that the device does not give back itself. -/
def loopedBack (st : State Sock) (i : Int) (sent : Sent Sock) (s : Sock) : List (Msg Sock) :=
  if sent.copy = true then received sent.protocol st i sent.skb s else []

/-- Two sockets on a device, one of them also for what it sends itself. -/
def pair : List (Event Nat) :=
  [.list 1 ⟨true, true, true, false, 16⟩, .coreRegister 1 true, .socket 7, .bind 7 1 1, .socket 8,
    .setFlags 8 true true false, .bind 8 1 1]

theorem pair_orderly : Trace.Along step Orderly start pair := by
  refine ⟨trivial, trivial, trivial, fun ro found bound => ?_, trivial, trivial, fun ro found bound => ?_, trivial⟩
  · cases found
    exact absurd bound Bool.false_ne_true
  · cases found
    exact absurd bound Bool.false_ne_true

theorem received_exact_pair : received .can (Trace.run step start pair) 1 ⟨0x123, 16, 8, none⟩ 7 =
    [⟨⟨0x123, 16, 8, none⟩, 1, false, false⟩] :=
  received_exact pair_orderly .can 1 ⟨0x123, 16, 8, none⟩ (by decide) 7 ⟨true, 1, true, false, false, [⟨0, 0⟩], 0⟩ rfl

theorem rawRcv_sent (other s : Sock) (their : RawSock) (i : Int) (canId : CanId) (size len : Nat) :
    rawRcv other their i ⟨canId, size, len, some s⟩ =
      if (other = s → their.recvOwnMsgs = true) ∧ (size = canMtu ∨ their.fdFrames = true) then
        some ⟨⟨canId, size, len, some s⟩, i, true, other = s⟩
      else none := by
  have sender : some s = some other ↔ other = s := by rw [Option.some_inj, eq_comm]
  unfold rawRcv
  simp only [sender, Option.isSome_some]
  by_cases own : other = s → their.recvOwnMsgs = true
  · rw [if_neg fun both => Bool.false_ne_true (both.1.symm.trans (own both.2))]
    by_cases fits : size = canMtu ∨ their.fdFrames = true
    · rw [if_neg fun both => fits.elim both.2 fun fd => Bool.false_ne_true (both.1.symm.trans fd),
        if_pos ⟨own, fits⟩]
    · obtain ⟨size, fd⟩ := not_or.mp fits
      rw [if_pos ⟨Bool.eq_false_of_not_eq_true fd, size⟩, if_neg fun both => fits both.2]
  · obtain ⟨same, deaf⟩ := Classical.not_imp.mp own
    rw [if_pos ⟨Bool.eq_false_of_not_eq_true deaf, same⟩, if_neg fun both => own both.1]

/-- A frame that is sent reaches the sockets that hear the device as their filters want it,
and its own socket only where that has asked for it. -/
theorem sent_received {events : List (Event Sock)} (orderly : Trace.Along step Orderly start events) :
    let st := Trace.run step start events
    ∀ s ro i canId size len cloned queued sent, ∀ net ∈ devGetByIndex st.core i,
      rawSendmsg s ro i canId size len cloned queued st.core = .ok sent →
        ∀ other, ∀ their ∈ st.socks other, loopedBack st i sent other =
          if (ro.loopback = true ∧ net.echo = false) ∧ their.hears i ∧
              (other = s → their.recvOwnMsgs = true) ∧ (size = canMtu ∨ their.fdFrames = true) then
            List.replicate (their.wants canId) ⟨⟨canId, size, len, some s⟩, i, true, other = s⟩
          else [] := by
  intro st s ro i canId size len cloned queued sent net found done other their socket
  unfold rawSendmsg at done
  rw [show devGetByIndex st.core i = some net from found] at done
  split at done
  · cases done
  · obtain ⟨can, form, frame, copy⟩ := canSend_ok done
    rw [loopedBack, copy]
    have known : st.core.isCan i = true := by
      rw [isCan_net, (Option.filter_eq_some_iff.mp found).1]
      exact can
    rw [received_exact orderly sent.protocol i sent.skb known other their socket, expected, frame]
    by_cases back : ro.loopback = true ∧ net.echo = false
    · have copied : (ro.loopback && !net.echo) = true := by simp [back]
      rw [if_pos copied]
      by_cases hears : their.hears i
      · rw [if_pos ⟨form, hears⟩, rawRcv_sent]
        by_cases takes : (other = s → their.recvOwnMsgs = true) ∧ (size = canMtu ∨ their.fdFrames = true)
        · rw [if_pos takes, if_pos ⟨back, hears, takes⟩]
          rfl
        · rw [if_neg takes, if_neg fun all => takes all.2.2]
          rfl
      · rw [if_neg fun both => hears both.2, if_neg fun both => hears both.2.1]
    · have alone : (ro.loopback && !net.echo) ≠ true := by simpa using back
      rw [if_neg alone, if_neg fun both => back both.1]

/-- The second socket hears the first one, and itself. -/
theorem sent_received_pair : loopedBack (Trace.run step start pair) 1
    ⟨.can, ⟨0x123, 16, 8, some 8⟩, true, true⟩ 8 = [⟨⟨0x123, 16, 8, some 8⟩, 1, true, true⟩] :=
  sent_received pair_orderly 8 ⟨true, 1, true, true, false, [⟨0, 0⟩], 0⟩ 1 0x123 16 8 true true _
    ⟨true, true, true, false, 16⟩ rfl rfl 8 ⟨true, 1, true, true, false, [⟨0, 0⟩], 0⟩ rfl

end MangOH.Can
