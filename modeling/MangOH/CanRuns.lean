import MangOH.CanRaw
import MangOH.Trace

/-!
Sockets that are opened, asked and released in any order, while the devices come and go
under them. As long as no call meets a socket whose device is unlisted but not yet given
up, what is registered is just what the sockets say, and in any run a call that fails has
changed nothing.
-/

namespace MangOH.Can

variable {Sock : Type} [DecidableEq Sock]

/-! What happens to the devices, what they are told to hear of, and what sockets are asked. -/

structure State (Sock : Type) where
  core : Core Sock
  socks : Sock → Option RawSock

inductive Event (Sock : Type) where
  | list (i : Int) (net : NetDevice)
  | unlist (i : Int)
  | coreRegister (i : Int) (allocated : Bool)
  | coreUnregister (i : Int)
  | rawUnregister (s : Sock) (i : Int)
  | socket (s : Sock)
  | bind (s : Sock) (ifindex : Int) (room : Nat)
  | setFilter (s : Sock) (filter : List CanFilter) (room : Nat)
  | setErrFilter (s : Sock) (errMask : CanId) (room : Nat)
  | setFlags (s : Sock) (loopback recvOwnMsgs fdFrames : Bool)
  | release (s : Sock)

def start : State Sock := ⟨⟨.empty, fun _ => none⟩, fun _ => none⟩

/-- A call on a socket, where there is one. -/
def State.onSock (s : Sock) (call : Core Sock → RawSock → Core Sock × RawSock) (st : State Sock) : State Sock :=
  match st.socks s with
  | none => st
  | some ro => ⟨(call st.core ro).1, Function.update st.socks s (some (call st.core ro).2)⟩

def dropErr (result : Core Sock × RawSock × Option Errno) : Core Sock × RawSock := (result.1, result.2.1)

def step (st : State Sock) : Event Sock → State Sock
  | .list i net => { st with core := st.core.list i net }
  | .unlist i => { st with core := st.core.unlist i }
  | .coreRegister i allocated => { st with core := canNotifierRegister i allocated st.core }
  | .coreUnregister i => { st with core := canNotifierUnregister i st.core }
  | .rawUnregister s i => st.onSock s (rawNotifier s i)
  | .socket s => if (st.socks s).isSome then st else { st with socks := Function.update st.socks s (some rawInit) }
  | .bind s ifindex room => st.onSock s fun core ro => dropErr (rawBind s ifindex room core ro)
  | .setFilter s filter room => st.onSock s fun core ro => dropErr (rawSetFilter s filter room core ro)
  | .setErrFilter s errMask room => st.onSock s fun core ro => dropErr (rawSetErrFilter s errMask room core ro)
  | .setFlags s loopback recvOwnMsgs fdFrames => st.onSock s fun core ro =>
      (core, { ro with loopback := loopback, recvOwnMsgs := recvOwnMsgs, fdFrames := fdFrames })
  | .release s =>
      match st.socks s with
      | none => st
      | some ro => ⟨rawUnbind s st.core ro, Function.update st.socks s none⟩

variable {core before after : Core Sock} {dev : Option Int} {s : Sock} {ro : RawSock} {st : State Sock}
  {filter : List CanFilter} {old : Multiset (Entry Sock)} {room : Nat}

/-- The device of a bound socket is listed whenever the socket is asked to change what it
has registered. -/
def Orderly (st : State Sock) : Event Sock → Prop
  | .bind s _ _ | .setFilter s _ _ | .setErrFilter s _ _ | .release s => ∀ ro ∈ st.socks s, Present st.core ro
  | _ => True

/-- What is registered is what each socket has registered. -/
structure Exact (st : State Sock) (items : Registered Sock) : Prop where
  kept : Kept st.core items
  live : Live st.core
  zero : st.core.devs 0 = none
  owed : ∀ s dev, (items dev).filter (·.2.target = s) = owed s (st.socks s) dev

theorem exact_focus {st : State Sock} {items : Registered Sock} (whole : Exact st items) (s : Sock) :
    Holding st.core (owed s (st.socks s)) fun dev => (items dev).filter (·.2.target ≠ s) := by
  refine ⟨?_, whole.live, whole.zero⟩
  have parts : (fun dev => owed s (st.socks s) dev + (items dev).filter (·.2.target ≠ s)) = items := by
    funext dev
    rw [← whole.owed s dev]
    exact Multiset.filter_add_not ..
  rw [parts]
  exact whole.kept

theorem exact_unfocus {st : State Sock} {items : Registered Sock} (whole : Exact st items) {now : Option RawSock}
    (holding : Holding core (owed s now) fun dev => (items dev).filter (·.2.target ≠ s)) :
    ∃ items, Exact ⟨core, Function.update st.socks s now⟩ items := by
  refine ⟨_, holding.kept, holding.live, holding.zero, fun other dev => ?_⟩
  rw [Multiset.filter_add, Multiset.filter_filter]
  by_cases same : other = s
  · subst same
    have mine : (owed other now dev).filter (·.2.target = other) = owed other now dev :=
      Multiset.filter_eq_self.mpr (owed_own other now dev)
    have none : (items dev).filter (fun entry => entry.2.target = other ∧ entry.2.target ≠ other) = 0 :=
      Multiset.filter_eq_nil.mpr fun entry _ both => both.2 both.1
    have slot : Function.update st.socks other now other = now := Function.update_self ..
    rw [mine, none, Multiset.add_zero]
    exact (congrArg (owed other · dev) slot).symm
  · have mine : (owed s now dev).filter (·.2.target = other) = 0 :=
      Multiset.filter_eq_nil.mpr fun entry member here => same (here.symm.trans (owed_own s now dev entry member))
    have theirs : (items dev).filter (fun entry => entry.2.target = other ∧ entry.2.target ≠ s) =
        (items dev).filter (·.2.target = other) := by
      refine Multiset.filter_congr fun entry _ => ?_
      exact and_iff_left_of_imp fun here back => same (here.symm.trans back)
    have slot : Function.update st.socks s now other = st.socks other := Function.update_of_ne same ..
    rw [mine, Multiset.zero_add, theirs, whole.owed]
    exact (congrArg (owed other · dev) slot).symm

/-- A call that leaves the socket with just what it has registered. -/
theorem onSock_exact {items : Registered Sock} (whole : Exact st items)
    {call : Core Sock → RawSock → Core Sock × RawSock}
    (keeps : ∀ {ro : RawSock} {others : Registered Sock}, st.socks s = some ro →
      Holding st.core (owed s (some ro)) others →
        Holding (call st.core ro).1 (owed s (some (call st.core ro).2)) others) :
    ∃ items, Exact (st.onSock s call) items := by
  unfold State.onSock
  cases found : st.socks s with
  | none => exact ⟨items, whole⟩
  | some ro =>
      have holding := exact_focus whole s
      rw [found] at holding
      exact exact_unfocus whole (keeps found holding)

theorem step_exact {event : Event Sock} (whole : ∃ items, Exact st items) (orderly : Orderly st event) :
    ∃ items, Exact (step st event) items := by
  obtain ⟨items, whole⟩ := whole
  cases event with
  | list i net =>
      refine ⟨items, list_kept i net whole.kept, live_of_find whole.live (list_find i net), ?_, whole.owed⟩
      exact list_zero i net whole.zero
  | unlist i =>
      refine ⟨items, unlist_kept i whole.kept, live_of_find whole.live (unlist_find i), ?_, whole.owed⟩
      exact unlist_zero i whole.zero
  | coreRegister i allocated =>
      refine ⟨items, notifierRegister_kept i allocated whole.kept, ?_, ?_, whole.owed⟩
      · exact notifierRegister_live i allocated whole.live
      · exact zero_of_net whole.zero (notifierRegister_net i allocated 0)
  | coreUnregister i =>
      refine ⟨items, notifierUnregister_kept i whole.kept, notifierUnregister_live i whole.live, ?_, whole.owed⟩
      exact zero_of_net whole.zero (notifierUnregister_net i 0)
  | rawUnregister s i => exact onSock_exact whole fun _ holding => notifier_holding holding
  | socket s =>
      rw [step]
      split
      · exact ⟨items, whole⟩
      · rename_i new
        have holding := exact_focus whole s
        rw [Option.not_isSome_iff_eq_none.mp new] at holding
        refine exact_unfocus whole ?_
        rw [@owed_free _ s rawInit Bool.false_ne_true]
        exact holding
  | bind s i room =>
      rw [step]
      refine onSock_exact whole fun found holding => ?_
      exact bind_holding holding (orderly _ found)
  | setFilter s filter room =>
      rw [step]
      refine onSock_exact whole fun found holding => ?_
      exact setFilter_holding holding (orderly _ found) filter room
  | setErrFilter s mask room =>
      rw [step]
      refine onSock_exact whole fun found holding => ?_
      exact setErrFilter_holding holding (orderly _ found) mask room
  | setFlags s loopback recvOwnMsgs fdFrames =>
      rw [step]
      refine onSock_exact whole fun found holding => ?_
      exact holding
  | release s =>
      rw [step]
      cases found : st.socks s with
      | none => exact ⟨items, whole⟩
      | some ro =>
          have holding := exact_focus whole s
          rw [found] at holding
          exact exact_unfocus whole (release_holding holding (orderly ro found))

theorem start_exact : Exact (start : State Sock) fun _ => 0 := by
  constructor
  · constructor
    · intro dev
      cases dev with
      | none => exact represents_empty
      | some i => rfl
    · exact fun _ _ => rfl
  · intro dev d found marked
    cases dev with
    | none =>
        cases found
        exact absurd marked Bool.false_ne_true
    | some i => cases found
  · rfl
  · exact fun _ _ => rfl

theorem run_exact {events : List (Event Sock)} (orderly : Trace.Along step Orderly start events) :
    ∃ items, Exact (Trace.run step start events) items :=
  Trace.along_invariant step_exact ⟨_, start_exact⟩ orderly

/-! What registrations and their removal keep, calls keep, in any run. -/

structure Stable (good : Core Sock → Prop) : Prop where
  live : ∀ {core}, good core → Live core
  ahead : ∀ {core after dev entries}, good core → Ahead core dev entries after → good after
  less : ∀ {core dev canId mask s}, good core → good (canRxUnregister dev canId mask s core)

variable {good : Core Sock → Prop}

theorem disable_stable (stable : Stable good) : ∀ {core : Core Sock}, good core →
    good (rawDisableFilters dev s filter core) := by
  induction filter with
  | nil => exact fun kept => kept
  | cons f rest ih => exact fun kept => ih (stable.less kept)

theorem unbind_stable (stable : Stable good) (kept : good core) : good (rawUnbind s core ro) := by
  unfold rawUnbind
  split
  · split
    · split
      · rw [disableAll_eq]
        exact disable_stable stable kept
      · exact kept
    · rw [disableAll_eq]
      exact disable_stable stable kept
  · exact kept

/-- Whether the new filters are registered or not. -/
theorem enable_stable (stable : Stable good) (kept : good core) {result : Option Errno}
    (enabled : rawEnableFilters dev s filter [] room core = (after, result)) : good after := by
  cases result with
  | none => exact stable.ahead kept (enable_ok (ahead_refl core dev) enabled)
  | some err =>
      rw [enable_failed (stable.live kept) (ahead_refl core dev) enabled]
      exact kept

theorem bindEnable_failed (live : Live core) {i : Int} {err : Errno}
    (failed : rawBindEnable s i room core ro = (after, some err)) : after = core := by
  obtain none | same := bindEnable_eq s i room core ro
  · rw [failed] at none
    cases none
    rfl
  · exact enableAll_failed live (same ▸ failed)

theorem bind_stable (stable : Stable good) (kept : good core) (i : Int) (room : Nat) :
    good (rawBind s i room core ro).1 := by
  unfold rawBind
  split
  · exact kept
  · rcases enabled : rawBindEnable s i room core ro with ⟨after, _ | err⟩
    · obtain none | same := bindEnable_eq s i room core ro
      · rw [enabled] at none
        cases none
      · exact unbind_stable stable (stable.ahead kept (enableAll_ok (same ▸ enabled)))
    · rw [bindEnable_failed (stable.live kept) enabled]
      exact kept

theorem setFilter_stable (stable : Stable good) (kept : good core) (wanted : List CanFilter) (room : Nat) :
    good (rawSetFilter s wanted room core ro).1 := by
  unfold rawSetFilter
  dsimp only
  split
  · rcases enabled : rawEnableFilters (rawDev core ro) s wanted [] room core with ⟨after, _ | err⟩
    · exact disable_stable stable (enable_stable stable kept enabled)
    · exact enable_stable stable kept enabled
  · exact kept

theorem setErrFilter_stable (stable : Stable good) (kept : good core) (mask : CanId) (room : Nat) :
    good (rawSetErrFilter s mask room core ro).1 := by
  unfold rawSetErrFilter
  split
  · simp only [enableErr_eq, disableErr_eq]
    rcases enabled : rawEnableFilters (rawDev core ro) s (errFilter (mask &&& canErrMask)) [] room core with
      ⟨after, _ | err⟩
    · exact disable_stable stable (enable_stable stable kept enabled)
    · exact enable_stable stable kept enabled
  · exact kept

theorem notifier_stable (stable : Stable good) (kept : good core) (i : Int) :
    good (rawNotifier s i core ro).1 := by
  unfold rawNotifier
  split
  · exact kept
  · dsimp only
    split
    · rw [disableAll_eq]
      exact disable_stable stable kept
    · exact kept

/-- What the device and the core are not told. -/
def Event.isCall : Event Sock → Bool
  | .list .. | .unlist .. | .coreRegister .. | .coreUnregister .. => false
  | _ => true

theorem call_stable (stable : Stable good) {event : Event Sock} (kept : good st.core)
    (called : event.isCall = true) : good (step st event).core := by
  have onSock : ∀ {s : Sock} {call : Core Sock → RawSock → Core Sock × RawSock},
      (∀ ro, good (call st.core ro).1) → good (st.onSock s call).core := by
    intro s call keeps
    unfold State.onSock
    split
    · exact kept
    · exact keeps _
  cases event with
  | list i net => cases called
  | unlist i => cases called
  | coreRegister i allocated => cases called
  | coreUnregister i => cases called
  | rawUnregister s i => exact onSock fun ro => notifier_stable stable kept i
  | socket s =>
      rw [step]
      split <;> exact kept
  | bind s i room => exact onSock fun ro => bind_stable stable kept i room
  | setFilter s filter room => exact onSock fun ro => setFilter_stable stable kept filter room
  | setErrFilter s mask room => exact onSock fun ro => setErrFilter_stable stable kept mask room
  | setFlags s loopback recvOwnMsgs fdFrames => exact onSock fun ro => kept
  | release s =>
      rw [step]
      split
      · exact kept
      · exact unbind_stable stable kept

theorem stable_live : Stable (Live : Core Sock → Prop) := ⟨id, ahead_live, unregister_live⟩

theorem step_live {event : Event Sock} (live : Live st.core) : Live (step st event).core := by
  cases called : event.isCall with
  | true => exact call_stable stable_live live called
  | false =>
      cases event with
      | list i net => exact live_of_find live (list_find i net)
      | unlist i => exact live_of_find live (unlist_find i)
      | coreRegister i allocated => exact notifierRegister_live i allocated live
      | coreUnregister i => exact notifierUnregister_live i live
      | _ => cases called

theorem run_live (events : List (Event Sock)) : Live (Trace.run step start events).core := by
  have keep : ∀ {st : State Sock} {event : Event Sock}, Live st.core → True → Live (step st event).core :=
    fun live _ => step_live live
  have every : Trace.Along step (fun (_ : State Sock) _ => True) start events :=
    @Trace.along_always _ _ step _ (fun _ => True) (fun _ => trivial) (fun _ => trivial) events start trivial
  exact @Trace.along_invariant _ _ step _ (fun st => Live st.core) keep events start start_exact.live every

theorem stable_doomed (i : Int) : Stable fun core : Core Sock => Live core ∧ Doomed i core where
  live := And.left
  ahead := fun kept ahead => ⟨ahead_live kept.1 ahead, ahead_doomed kept.2 ahead⟩
  less := fun kept => ⟨unregister_live kept.1, unregister_doomed kept.2⟩

theorem step_doomed {i : Int} {event : Event Sock} (kept : Live st.core ∧ Doomed i st.core)
    (other : ∀ allocated, event ≠ .coreRegister i allocated) :
    Live (step st event).core ∧ Doomed i (step st event).core := by
  cases called : event.isCall with
  | true => exact call_stable (stable_doomed i) kept called
  | false =>
      refine ⟨step_live kept.1, ?_⟩
      cases event with
      | list j net => exact fun d found => kept.2 d (list_find j net (some i) ▸ found)
      | unlist j => exact fun d found => kept.2 d (unlist_find j (some i) ▸ found)
      | coreRegister j allocated =>
          have apart : some i ≠ some j := by
            rintro same
            cases same
            exact other allocated rfl
          rw [step]
          dsimp only
          unfold canNotifierRegister
          split
          · exact put_doomed kept.2 fun here => absurd here.symm apart
          · exact kept.2
      | coreUnregister j => exact notifierUnregister_doomed j kept.2
      | _ => cases called

/-- Each receiver is that of an open socket, which is bound to the device and asks for it. -/
theorem receiver_open {items : Registered Sock} (whole : Exact st items) {d : DevRcvLists Sock}
    (found : findDevRcvLists st.core dev = some d) {list : RcvList} {r : Receiver Sock} (member : r ∈ d.rx list) :
    ∃ ro, st.socks r.target = some ro ∧ ro.bound = true ∧ ro.dev = dev ∧
      ∃ f ∈ ro.asked, f.entry r.target = (list, r) := by
  have entry : (list, r) ∈ items dev := (Buckets.mem_iff (kept_at whole.kept found).lists).mp member
  have own : (list, r) ∈ owed r.target (st.socks r.target) dev := by
    rw [← whole.owed]
    exact Multiset.mem_filter.mpr ⟨entry, rfl⟩
  cases socket : st.socks r.target with
  | none =>
      rw [socket] at own
      exact absurd own (Multiset.notMem_zero _)
  | some ro =>
      rw [socket] at own
      by_cases here : ro.bound = true ∧ dev = ro.dev
      · rw [show owed r.target (some ro) dev = entries r.target ro.asked from if_pos here] at own
        exact ⟨ro, rfl, here.1, here.2.symm, List.mem_map.mp (Multiset.mem_coe.mp own)⟩
      · rw [owed_other here] at own
        exact absurd own (Multiset.notMem_zero _)

/-- Whatever a frame reaches is an open socket, with a filter for it on the device. -/
theorem receivers_open {events : List (Event Sock)} (orderly : Trace.Along step Orderly start events) :
    let st := Trace.run step start events
    ∀ dev, ∀ d ∈ findDevRcvLists st.core dev, ∀ list, ∀ r ∈ d.rx list,
      ∃ ro, st.socks r.target = some ro ∧ ro.bound = true ∧ ro.dev = dev ∧
        ∃ f ∈ ro.asked, f.entry r.target = (list, r) := by
  intro st dev d found list r member
  obtain ⟨items, whole⟩ := run_exact orderly
  exact receiver_open whole found member

/-- A socket that is bound to all devices. -/
theorem receivers_open_bound : ∃ ro : RawSock, ro.bound = true ∧
    ∃ f ∈ ro.asked, f.entry (7 : Nat) = (RcvList.rxAll, ⟨0, 0, 7⟩) := by
  have orderly : Trace.Along step Orderly (start : State Nat) [.socket 7, .bind 7 0 1] := by
    refine ⟨trivial, fun ro found bound => ?_, trivial⟩
    cases found
    exact absurd bound Bool.false_ne_true
  obtain ⟨ro, _, bound, _, f, asked, entry⟩ :=
    receivers_open orderly none _ rfl .rxAll ⟨0, 0, 7⟩ (by decide)
  exact ⟨ro, bound, f, asked, entry⟩

theorem run_doomed {i : Int} {later : List (Event Sock)} : ∀ {st : State Sock},
    Live st.core ∧ Doomed i st.core → (∀ allocated, Event.coreRegister i allocated ∉ later) →
      Live (Trace.run step st later).core ∧ Doomed i (Trace.run step st later).core := by
  induction later with
  | nil => exact fun kept _ => kept
  | cons event rest ih =>
      intro st kept once
      refine ih (step_doomed kept fun allocated same => ?_) fun allocated member => ?_
      · exact once allocated (same ▸ List.mem_cons_self)
      · exact once allocated (List.mem_cons_of_mem event member)

/-- The lists of an unregistered device are there as long as a socket has filters on it, and
no longer. -/
theorem lists_freed {events later : List (Event Sock)} {i : Int}
    (orderly : Trace.Along step Orderly start (events ++ .coreUnregister i :: later))
    (once : ∀ allocated, Event.coreRegister i allocated ∉ later) :
    let st := Trace.run step start (events ++ .coreUnregister i :: later)
    (findDevRcvLists st.core (some i)).isSome = true ↔
      ∃ s, ∃ ro ∈ st.socks s, ro.bound = true ∧ ro.dev = some i ∧ ro.asked ≠ [] := by
  intro st
  obtain ⟨items, whole⟩ : ∃ items, Exact st items := run_exact orderly
  have first := (Trace.along_append.mp orderly).1
  obtain ⟨before, held⟩ := run_exact first
  have kept : Live st.core ∧ Doomed i st.core := by
    have whole : st = Trace.run step (step (Trace.run step start events) (.coreUnregister i)) later := by
      exact List.foldl_append.trans (List.foldl_cons ..)
    rw [whole]
    exact run_doomed ⟨step_live held.live, notifierUnregister_marks held.kept i⟩ once
  constructor
  · intro present
    obtain ⟨d, found⟩ := Option.isSome_iff_exists.mp present
    have some_entry : items (some i) ≠ 0 := by
      intro none
      have counted := (kept_at whole.kept found).counted
      rw [none] at counted
      exact (kept.1 _ d found (kept.2 d found)).2 counted
    obtain ⟨⟨list, r⟩, member⟩ := Multiset.exists_mem_of_ne_zero some_entry
    obtain ⟨ro, socket, bound, place, f, asked, _⟩ :=
      receiver_open whole found ((Buckets.mem_iff (kept_at whole.kept found).lists).mpr member)
    exact ⟨r.target, ro, socket, bound, place, fun none => by simp [none] at asked⟩
  · rintro ⟨s, ro, socket, bound, place, asked⟩
    have own := whole.owed s (some i)
    rw [show st.socks s = some ro from socket, ← place, owed_bound bound] at own
    have occupied : items (some i) ≠ 0 := by
      intro none
      rw [place, none, Multiset.filter_zero] at own
      exact asked (List.map_eq_nil_iff.mp (Multiset.coe_eq_zero _ |>.mp own.symm))
    obtain ⟨_, d, found, _⟩ := kept_occupied whole.kept occupied
    rw [found]
    rfl

/-- A device that goes while a socket is bound to it. -/
def unplugged : List (Event Nat) :=
  [.list 1 ⟨true, true, true, true, 16⟩, .coreRegister 1 true, .socket 7, .bind 7 1 1, .unlist 1]

theorem lists_freed_unplugged :
    (findDevRcvLists (Trace.run step start (unplugged ++ [.coreUnregister 1])).core (some 1)).isSome = true ↔
      ∃ s, ∃ ro ∈ (Trace.run step start (unplugged ++ [.coreUnregister 1])).socks s,
        ro.bound = true ∧ ro.dev = some 1 ∧ ro.asked ≠ [] := by
  have orderly : Trace.Along step Orderly start (unplugged ++ [.coreUnregister 1]) := by
    refine ⟨trivial, trivial, trivial, fun ro found bound => ?_, trivial, trivial, trivial⟩
    cases found
    exact absurd bound Bool.false_ne_true
  exact lists_freed orderly fun _ member => absurd member List.not_mem_nil

/-! The call that the runs above leave out: new filters for a socket whose device is unlisted,
before it is given up. -/

theorem unregister_erase {items : Registered Sock} {canId mask : CanId} (kept : Kept core items) (live : Live core) :
    Kept (canRxUnregister dev canId mask s core)
      (Function.update items dev ((items dev).erase (entryOf canId mask s))) := by
  by_cases present : entryOf canId mask s ∈ items dev
  · obtain ⟨rest, has⟩ := Multiset.exists_cons_of_mem present
    rw [has, Multiset.erase_cons_head]
    exact unregister_kept kept live has
  · rw [Multiset.erase_of_notMem present, Function.update_eq_self]
    have same : canRxUnregister dev canId mask s core = core := by
      unfold canRxUnregister
      split
      · rfl
      · split
        · rfl
        · rename_i d found
          have absent : d.delete canId mask s = none := by
            cases deleted : d.delete canId mask s with
            | none => rfl
            | some less =>
                have member := (Buckets.mem_iff (kept_at kept found).lists).mp (delete_some.mp deleted).1
                exact absurd member present
          rw [absent]
    rw [same]
    exact kept

theorem disable_sub : ∀ {core : Core Sock} {items : Registered Sock}, Kept core items → Live core →
    Kept (rawDisableFilters dev s filter core) (Function.update items dev (items dev - entries s filter)) := by
  induction filter with
  | nil =>
      intro core items kept _
      rw [entries_nil, Multiset.sub_zero, Function.update_eq_self]
      exact kept
  | cons f rest ih =>
      intro core items kept live
      have less : Kept (canRxUnregister dev f.canId f.mask s core) _ := unregister_erase kept live
      have result := ih less (unregister_live live)
      rw [Function.update_idem, Function.update_self] at result
      rw [entries_cons, Multiset.sub_cons]
      exact result

theorem disable_alldev {i : Int} : ∀ {core : Core Sock},
    (rawDisableFilters (some i) s filter core).alldev = core.alldev := by
  induction filter with
  | nil => exact fun {core} => rfl
  | cons f rest ih => exact ih.trans unregister_alldev

theorem close_alldev {ro : RawSock} (socket : st.socks s = some ro) (bound : ro.bound = true) (own : ro.ifindex ≠ 0)
    (gone : devGetByIndex st.core ro.ifindex = none) :
    let after := Trace.run step st [.rawUnregister s ro.ifindex, .release s]
    after.socks s = none ∧ after.core.alldev = st.core.alldev := by
  intro after
  have left : (rawUnbind s (rawNotifier s ro.ifindex st.core ro).1 (rawNotifier s ro.ifindex st.core ro).2).alldev =
      st.core.alldev := by
    unfold rawNotifier rawUnbind
    split
    · simp [gone]
    · simp only [Bool.false_eq_true, if_false]
      rw [disableAll_eq]
      exact disable_alldev
  have told : step st (.rawUnregister s ro.ifindex) = ⟨(rawNotifier s ro.ifindex st.core ro).1,
      Function.update st.socks s (some (rawNotifier s ro.ifindex st.core ro).2)⟩ := by
    rw [step, State.onSock, socket]
  have closed : after = ⟨rawUnbind s (rawNotifier s ro.ifindex st.core ro).1 (rawNotifier s ro.ifindex st.core ro).2,
      Function.update (step st (.rawUnregister s ro.ifindex)).socks s none⟩ := by
    show step (step st (.rawUnregister s ro.ifindex)) (.release s) = _
    rw [told, step]
    simp only [Function.update_self]
  rw [closed]
  exact ⟨Function.update_self .., left⟩

theorem entries_filter (s : Sock) (filter : List CanFilter) :
    (entries s filter).filter (·.2.target = s) = entries s filter := by
  refine Multiset.filter_eq_self.mpr fun entry member => ?_
  obtain ⟨f, _, rfl⟩ := List.mem_map.mp (Multiset.mem_coe.mp member)
  rfl

/-- The new filters are registered with all devices, where the old ones are looked for. -/
theorem window_registered {items : Registered Sock} (whole : Exact st items) (socket : st.socks s = some ro)
    (bound : ro.bound = true) (own : ro.ifindex ≠ 0) (gone : devGetByIndex st.core ro.ifindex = none)
    (done : (rawSetFilter s filter room st.core ro).2.2 = none) :
    ∃ core, step st (.setFilter s filter room) =
        ⟨core, Function.update st.socks s (some { ro with filter := filter })⟩ ∧
      devGetByIndex core ro.ifindex = none ∧
      Represents core.alldev (entries s filter + items none - entries s ro.filter) := by
  have nowhere : rawDev st.core ro = none := by
    rw [rawDev, if_pos ⟨bound, own⟩, gone]
    rfl
  rcases enabled : rawEnableFilters none s filter [] room st.core with ⟨middle, _ | err⟩
  · have ahead := enable_ok (ahead_refl st.core none) enabled
    rw [Multiset.add_zero] at ahead
    have kept := @disable_sub _ _ none s ro.filter _ _ (ahead_kept whole.kept ahead) (ahead_live whole.live ahead)
    rw [Function.update_idem, Function.update_self] at kept
    refine ⟨rawDisableFilters none s ro.filter middle, ?_, ?_, ?_⟩
    · rw [step, State.onSock, socket]
      simp only [rawSetFilter, nowhere, if_pos bound, enabled, dropErr]
    · rw [devGetByIndex, disable_net, ahead_net ahead]
      exact gone
    · have here := kept_at kept (show findDevRcvLists _ none = some _ from rfl)
      rw [Function.update_self] at here
      exact here
  · simp only [rawSetFilter, nowhere, if_pos bound, enabled] at done
    cases done

/-- The new filters go to the lists of all devices, and what is not also an old one stays
there when the socket is closed. -/
theorem window_leak {events : List (Event Sock)} (orderly : Trace.Along step Orderly start events)
    (socket : (Trace.run step start events).socks s = some ro) (bound : ro.bound = true) (own : ro.ifindex ≠ 0)
    (gone : devGetByIndex (Trace.run step start events).core ro.ifindex = none)
    (done : (rawSetFilter s filter room (Trace.run step start events).core ro).2.2 = none) :
    let after := Trace.run step (Trace.run step start events)
      [.setFilter s filter room, .rawUnregister s ro.ifindex, .release s]
    after.socks s = none ∧
      ((∃ list, ∃ r ∈ after.core.alldev.rx list, r.target = s) ↔ ¬ entries s filter ≤ entries s ro.filter) := by
  obtain ⟨items, whole⟩ := run_exact orderly
  obtain ⟨core, first, still, represents⟩ := window_registered whole socket bound own gone done
  have rest := @close_alldev _ _ s ⟨core, Function.update (Trace.run step start events).socks s
    (some { ro with filter := filter })⟩ { ro with filter := filter } (Function.update_self ..) bound own still
  rw [← first] at rest
  intro after
  have closed : after.socks s = none := rest.1
  have lists : after.core.alldev = core.alldev := by
    refine rest.2.trans ?_
    rw [first]
  refine ⟨closed, ?_⟩
  have left : (entries s filter + items none - entries s ro.filter).filter (·.2.target = s) =
      entries s filter - entries s ro.filter := by
    have none : (items none).filter (·.2.target = s) = 0 := by
      rw [whole.owed, socket]
      exact owed_other fun both => by cases both.2.trans (if_neg own : ro.dev = some ro.ifindex)
    rw [Multiset.filter_sub, Multiset.filter_add, entries_filter, entries_filter, none, Multiset.add_zero]
  have none_left : entries s filter ≤ entries s ro.filter ↔ entries s filter - entries s ro.filter = 0 := by
    rw [← Multiset.le_zero, Multiset.sub_le_iff_le_add, Multiset.zero_add]
  rw [lists, none_left, ← left, Multiset.filter_eq_nil]
  constructor
  · rintro ⟨list, r, member, here⟩ none
    exact none (list, r) ((Buckets.mem_iff represents.lists).mp member) here
  · intro more
    obtain ⟨⟨list, r⟩, both⟩ := Classical.not_forall.mp more
    obtain ⟨member, here⟩ := Classical.not_imp.mp both
    exact ⟨list, r, (Buckets.mem_iff represents.lists).mpr member, Classical.not_not.mp here⟩

theorem window_leak_unplugged :
    (Trace.run step (Trace.run step start unplugged)
      [.setFilter 7 [⟨0x123, 0x7FF⟩] 1, .rawUnregister 7 1, .release 7]).socks 7 = none := by
  have orderly : Trace.Along step Orderly start unplugged := by
    refine ⟨trivial, trivial, trivial, fun ro found bound => ?_, trivial, trivial⟩
    cases found
    exact absurd bound Bool.false_ne_true
  have both := @window_leak _ _ 7 ⟨true, 1, true, false, false, [⟨0, 0⟩], 0⟩ [⟨0x123, 0x7FF⟩] 1 unplugged orderly
    rfl rfl (by decide) rfl rfl
  exact both.1

end MangOH.Can
