import MangOH.CanCore

/-!
Raw CAN sockets. A socket registers its filters when it is bound and exchanges them while
it is. Each call leaves what the other sockets have registered, and of the socket itself
what its state says.
-/

namespace MangOH.Can

structure CanFilter where
  canId : CanId
  mask : CanId

structure RawSock where
  bound : Bool
  ifindex : Int
  loopback : Bool
  recvOwnMsgs : Bool
  fdFrames : Bool
  filter : List CanFilter
  errMask : CanId

/-- One filter, which receives all frames. -/
def rawInit : RawSock := ⟨false, 0, true, false, false, [⟨0, 0⟩], 0⟩

variable {Sock : Type}

/-! What a socket has registered. -/

def CanFilter.entry (s : Sock) (f : CanFilter) : Entry Sock := entryOf f.canId f.mask s

def entries (s : Sock) (filter : List CanFilter) : Multiset (Entry Sock) := filter.map (CanFilter.entry s)

def errFilter (errMask : CanId) : List CanFilter :=
  if errMask ≠ 0 then [⟨0, errMask ||| canErrFlag⟩] else []

/-- The filters of a socket, with the one for error frames. -/
def RawSock.asked (ro : RawSock) : List CanFilter := ro.filter ++ errFilter ro.errMask

def RawSock.dev (ro : RawSock) : Option Int := if ro.ifindex = 0 then none else some ro.ifindex

theorem entries_nil (s : Sock) : entries s [] = 0 := rfl

theorem entries_cons (s : Sock) (f : CanFilter) (rest : List CanFilter) :
    entries s (f :: rest) = f.entry s ::ₘ entries s rest := rfl

theorem entries_append (s : Sock) (first second : List CanFilter) :
    entries s (first ++ second) = entries s first + entries s second := by
  rw [entries, List.map_append]
  rfl

/-- The device of `raw_setsockopt`, where none stands for all of them. -/
def rawDev (core : Core Sock) (ro : RawSock) : Option Int :=
  if ro.bound ∧ ro.ifindex ≠ 0 then (devGetByIndex core ro.ifindex).map fun _ => ro.ifindex else none

variable {core before after : Core Sock} {dev : Option Int} {s : Sock} {ro : RawSock}
  {filter : List CanFilter} {old rest : Multiset (Entry Sock)} {mine others : Registered Sock} {room : Nat}

/-- A socket that is bound to a device finds it. -/
def Present (core : Core Sock) (ro : RawSock) : Prop :=
  ro.bound = true → ro.ifindex ≠ 0 → devGetByIndex core ro.ifindex ≠ none

theorem present_net (present : Present core ro)
    (same : ∀ i, (after.devs i).map Device.net = (core.devs i).map Device.net) : Present after ro := by
  intro bound own
  rw [devGetByIndex, same]
  exact present bound own

theorem rawDev_eq (present : Present core ro) (bound : ro.bound = true) : rawDev core ro = ro.dev := by
  unfold rawDev RawSock.dev
  by_cases all : ro.ifindex = 0
  · rw [if_neg fun both => both.2 all, if_pos all]
  · rw [if_pos ⟨bound, all⟩, if_neg all]
    cases found : devGetByIndex core ro.ifindex with
    | none => exact absurd found (present bound all)
    | some net => rfl

/-! One socket and all the others. -/

/-- Its own filters on the device that it is bound to. -/
def owed (s : Sock) : Option RawSock → Registered Sock
  | none => fun _ => 0
  | some ro => fun dev => if ro.bound = true ∧ dev = ro.dev then entries s ro.asked else 0

/-- What is registered is what one socket has registered and what the others have. -/
structure Holding (core : Core Sock) (mine others : Registered Sock) : Prop where
  kept : Kept core fun dev => mine dev + others dev
  live : Live core
  zero : core.devs 0 = none

theorem owed_bound (bound : ro.bound = true) : owed s (some ro) ro.dev = entries s ro.asked :=
  if_pos ⟨bound, rfl⟩

theorem owed_other (other : ¬ (ro.bound = true ∧ dev = ro.dev)) : owed s (some ro) dev = 0 := if_neg other

theorem owed_own (s : Sock) (ro : Option RawSock) (dev : Option Int) :
    ∀ entry ∈ owed s ro dev, entry.2.target = s := by
  intro entry member
  cases ro with
  | none => simp [owed] at member
  | some ro =>
      by_cases here : ro.bound = true ∧ dev = ro.dev
      · rw [show owed s (some ro) dev = entries s ro.asked from if_pos here] at member
        obtain ⟨f, _, rfl⟩ := List.mem_map.mp (Multiset.mem_coe.mp member)
        rfl
      · rw [owed_other here] at member
        exact absurd member (Multiset.notMem_zero entry)

theorem owed_free (free : ro.bound ≠ true) : owed s (some ro) = owed s none :=
  funext fun _ => owed_other fun both => free both.1

/-- What becomes of the filters of a bound socket on its device. -/
theorem owed_update {now : RawSock} (same : now.bound = true) (place : now.dev = ro.dev) :
    Function.update (owed s (some ro)) ro.dev (entries s now.asked) = owed s (some now) := by
  funext other
  by_cases here : other = ro.dev
  · subst here
    rw [Function.update_self, ← place, owed_bound same]
  · rw [Function.update_of_ne here, owed_other fun both => here both.2,
      owed_other fun both => here (both.2.trans place)]

theorem owed_gone (s : Sock) (ro : RawSock) :
    (if ro.bound = true then Function.update (owed s (some ro)) ro.dev 0 else owed s (some ro)) =
      owed s none := by
  funext other
  by_cases bound : ro.bound = true
  · rw [if_pos bound]
    by_cases here : other = ro.dev
    · subst here
      exact Function.update_self ..
    · rw [Function.update_of_ne here, owed_other fun both => here both.2]
      rfl
  · rw [if_neg bound, owed_other fun both => bound both.1]
    rfl

/-- From one device to another, or from none. -/
theorem owed_moved {now : RawSock} (same : now.bound = true) (all : now.asked = ro.asked)
    (apart : ro.bound = true → ro.dev ≠ now.dev) :
    (if ro.bound = true then
        Function.update (Function.update (owed s (some ro)) now.dev (entries s ro.asked)) ro.dev 0
      else Function.update (owed s (some ro)) now.dev (entries s ro.asked)) = owed s (some now) := by
  have left := owed_gone s ro
  have arrived : Function.update (owed s none) now.dev (entries s ro.asked) = owed s (some now) := by
    funext other
    by_cases here : other = now.dev
    · subst here
      rw [Function.update_self, owed_bound same, all]
    · rw [Function.update_of_ne here, owed_other fun both => here both.2]
      rfl
  rw [← arrived, ← left]
  split
  · rename_i bound
    exact Function.update_comm (apart bound).symm ..
  · rfl

theorem dev_ne {i : Int} (other : ¬ i = ro.ifindex) (now : RawSock) (there : now.ifindex = i) :
    ro.dev ≠ now.dev := by
  intro same
  unfold RawSock.dev at same
  split at same <;> split at same
  · rename_i left right
    exact other (there ▸ right.trans left.symm)
  · cases same
  · cases same
  · exact other (there ▸ (Option.some.inj same).symm)

theorem ahead_holding (holding : Holding core mine others) (ahead : Ahead core dev old after) :
    Holding after (Function.update mine dev (old + mine dev)) others := by
  refine ⟨?_, ahead_live holding.live ahead, zero_of_net holding.zero (ahead_net ahead 0)⟩
  rw [← update_add, Multiset.add_assoc]
  exact ahead_kept holding.kept ahead

/-! The functions of the socket, on the core and the socket itself. -/

variable [DecidableEq Sock]

def rawDisableFilters (dev : Option Int) (s : Sock) (filter : List CanFilter) (core : Core Sock) : Core Sock :=
  filter.foldl (fun core f => canRxUnregister dev f.canId f.mask s core) core

/-- The filters behind `done`, which stands with the last one first. -/
def rawEnableFilters (dev : Option Int) (s : Sock) :
    List CanFilter → List CanFilter → Nat → Core Sock → Core Sock × Option Errno
  | [], _, _, core => (core, none)
  | f :: rest, done, room, core =>
      match canRxRegister room dev f.canId f.mask s core with
      | .ok core => rawEnableFilters dev s rest (f :: done) (room - 1) core
      | .error err => (rawDisableFilters dev s done core, some err)

-- Its equations are made here, and not by whichever proof comes to them first.
attribute [local simp] rawEnableFilters

def rawEnableErrfilter (dev : Option Int) (s : Sock) (errMask : CanId) (room : Nat) (core : Core Sock) :
    Core Sock × Option Errno :=
  if errMask ≠ 0 then
    match canRxRegister room dev 0 (errMask ||| canErrFlag) s core with
    | .ok core => (core, none)
    | .error err => (core, some err)
  else (core, none)

def rawDisableErrfilter (dev : Option Int) (s : Sock) (errMask : CanId) (core : Core Sock) : Core Sock :=
  if errMask ≠ 0 then canRxUnregister dev 0 (errMask ||| canErrFlag) s core else core

def rawDisableAllfilters (dev : Option Int) (s : Sock) (ro : RawSock) (core : Core Sock) : Core Sock :=
  rawDisableErrfilter dev s ro.errMask (rawDisableFilters dev s ro.filter core)

def rawEnableAllfilters (dev : Option Int) (s : Sock) (ro : RawSock) (room : Nat) (core : Core Sock) :
    Core Sock × Option Errno :=
  match rawEnableFilters dev s ro.filter [] room core with
  | (core, some err) => (core, some err)
  | (core, none) =>
      match rawEnableErrfilter dev s ro.errMask (room - ro.filter.length) core with
      | (core, some err) => (rawDisableFilters dev s ro.filter core, some err)
      | (core, none) => (core, none)

/-- `raw_notifier` on NETDEV_UNREGISTER. -/
def rawNotifier (s : Sock) (i : Int) (core : Core Sock) (ro : RawSock) : Core Sock × RawSock :=
  if core.isCan i = false ∨ ro.ifindex ≠ i then (core, ro)
  else
    (if ro.bound then rawDisableAllfilters (some i) s ro core else core,
      { ro with ifindex := 0, bound := false, filter := [] })

/-- The old filters of a socket, in `raw_bind` and in `raw_release`. -/
def rawUnbind (s : Sock) (core : Core Sock) (ro : RawSock) : Core Sock :=
  if ro.bound then
    if ro.ifindex ≠ 0 then
      match devGetByIndex core ro.ifindex with
      | some _ => rawDisableAllfilters (some ro.ifindex) s ro core
      | none => core
    else rawDisableAllfilters none s ro core
  else core

/-- The registration with the new device in `raw_bind`. -/
def rawBindEnable (s : Sock) (ifindex : Int) (room : Nat) (core : Core Sock) (ro : RawSock) :
    Core Sock × Option Errno :=
  if ifindex ≠ 0 then
    match devGetByIndex core ifindex with
    | none => (core, some .enodev)
    | some net =>
        if net.can then rawEnableAllfilters (some ifindex) s ro room core else (core, some .enodev)
  else rawEnableAllfilters none s ro room core

def rawBind (s : Sock) (ifindex : Int) (room : Nat) (core : Core Sock) (ro : RawSock) :
    Core Sock × RawSock × Option Errno :=
  if ro.bound ∧ ifindex = ro.ifindex then (core, ro, none)
  else
    match rawBindEnable s ifindex room core ro with
    | (core, some err) => (core, ro, some err)
    | (core, none) => (rawUnbind s core ro, { ro with ifindex := ifindex, bound := true }, none)

/-- `raw_setsockopt` with CAN_RAW_FILTER. -/
def rawSetFilter (s : Sock) (filter : List CanFilter) (room : Nat) (core : Core Sock) (ro : RawSock) :
    Core Sock × RawSock × Option Errno :=
  let dev := rawDev core ro
  if ro.bound then
    match rawEnableFilters dev s filter [] room core with
    | (core, some err) => (core, ro, some err)
    | (core, none) => (rawDisableFilters dev s ro.filter core, { ro with filter := filter }, none)
  else (core, { ro with filter := filter }, none)

/-- `raw_setsockopt` with CAN_RAW_ERR_FILTER. -/
def rawSetErrFilter (s : Sock) (errMask : CanId) (room : Nat) (core : Core Sock) (ro : RawSock) :
    Core Sock × RawSock × Option Errno :=
  let errMask := errMask &&& canErrMask
  let dev := rawDev core ro
  if ro.bound then
    match rawEnableErrfilter dev s errMask room core with
    | (core, some err) => (core, ro, some err)
    | (core, none) => (rawDisableErrfilter dev s ro.errMask core, { ro with errMask := errMask }, none)
  else (core, { ro with errMask := errMask }, none)

/-! What the loops over the filters do. -/

theorem disableErr_eq (dev : Option Int) (s : Sock) (errMask : CanId) (core : Core Sock) :
    rawDisableErrfilter dev s errMask core = rawDisableFilters dev s (errFilter errMask) core := by
  unfold rawDisableErrfilter errFilter
  split <;> rfl

theorem disableAll_eq (dev : Option Int) (s : Sock) (ro : RawSock) (core : Core Sock) :
    rawDisableAllfilters dev s ro core = rawDisableFilters dev s ro.asked core := by
  rw [rawDisableAllfilters, disableErr_eq, rawDisableFilters, rawDisableFilters, ← List.foldl_append]
  rfl

theorem enableErr_eq (dev : Option Int) (s : Sock) (errMask : CanId) (room : Nat) (core : Core Sock) :
    rawEnableErrfilter dev s errMask room core = rawEnableFilters dev s (errFilter errMask) [] room core := by
  unfold rawEnableErrfilter errFilter
  split
  · rw [rawEnableFilters]
    cases canRxRegister room dev 0 (errMask ||| canErrFlag) s core <;> rfl
  · rfl

/-- Filters that are taken back in any order. -/
theorem disable_ahead (live : Live before) : ∀ {core : Core Sock},
    Ahead before dev (entries s filter + old) core → Ahead before dev old (rawDisableFilters dev s filter core) := by
  induction filter with
  | nil =>
      intro core ahead
      rw [entries_nil, Multiset.zero_add] at ahead
      exact ahead
  | cons f rest ih =>
      intro core ahead
      rw [entries_cons, Multiset.cons_add] at ahead
      exact ih (ahead_unregister live ahead)

theorem enable_ok : ∀ {done : List CanFilter} {room : Nat} {core : Core Sock}
    {old : Multiset (Entry Sock)}, Ahead before dev old core →
      rawEnableFilters dev s filter done room core = (after, none) →
        Ahead before dev (entries s filter + old) after := by
  induction filter with
  | nil =>
      intro done room core old ahead result
      cases result
      rw [entries_nil, Multiset.zero_add]
      exact ahead
  | cons f rest ih =>
      intro done room core old ahead result
      rw [rawEnableFilters] at result
      cases registered : canRxRegister room dev f.canId f.mask s core with
      | ok next =>
          rw [registered] at result
          have more := ih (ahead_register ahead registered) result
          rw [entries_cons, Multiset.cons_add, ← Multiset.add_cons]
          exact more
      | error err =>
          rw [registered] at result
          cases result

/-- A registration that fails takes back those before it. -/
theorem enable_failed (live : Live before) {err : Errno} : ∀ {done : List CanFilter} {room : Nat}
    {core : Core Sock}, Ahead before dev (entries s done) core →
      rawEnableFilters dev s filter done room core = (after, some err) → after = before := by
  induction filter with
  | nil =>
      intro done room core ahead result
      cases result
  | cons f rest ih =>
      intro done room core ahead result
      rw [rawEnableFilters] at result
      cases registered : canRxRegister room dev f.canId f.mask s core with
      | ok next =>
          rw [registered] at result
          exact @ih (f :: done) _ _ (ahead_register ahead registered) result
      | error other =>
          rw [registered] at result
          cases result
          refine ahead_zero (disable_ahead live (?_ : Ahead before dev (entries s done + 0) core))
          rw [Multiset.add_zero]
          exact ahead

theorem enableAll_ok (enabled : rawEnableAllfilters dev s ro room core = (after, none)) :
    Ahead core dev (entries s ro.asked) after := by
  unfold rawEnableAllfilters at enabled
  rcases first : rawEnableFilters dev s ro.filter [] room core with ⟨middle, _ | err⟩
  · simp only [first, enableErr_eq] at enabled
    have ahead := enable_ok (ahead_refl core dev) first
    rcases second : rawEnableFilters dev s (errFilter ro.errMask) [] (room - ro.filter.length) middle with
      ⟨last, _ | err⟩
    · rw [second] at enabled
      cases enabled
      have both := enable_ok ahead second
      rw [Multiset.add_zero, Multiset.add_comm, ← entries_append] at both
      exact both
    · rw [second] at enabled
      cases enabled
  · simp only [first] at enabled
    cases enabled

theorem enableAll_failed (live : Live core) {err : Errno}
    (failed : rawEnableAllfilters dev s ro room core = (after, some err)) : after = core := by
  unfold rawEnableAllfilters at failed
  rcases first : rawEnableFilters dev s ro.filter [] room core with ⟨middle, _ | err⟩
  · simp only [first, enableErr_eq] at failed
    have ahead := enable_ok (ahead_refl core dev) first
    rcases second : rawEnableFilters dev s (errFilter ro.errMask) [] (room - ro.filter.length) middle with
      ⟨last, _ | err⟩
    · rw [second] at failed
      cases failed
    · rw [second] at failed
      cases failed
      -- The one registration that failed changed nothing; the ones before it are taken back.
      have stay := enable_failed (ahead_live live ahead) (ahead_refl middle dev) second
      rw [stay]
      exact ahead_zero (disable_ahead live ahead)
  · simp only [first] at failed
    cases failed
    exact @enable_failed _ _ _ _ _ _ _ live _ [] _ _ (ahead_refl core dev) first

theorem disable_net (i : Int) : ∀ {core : Core Sock},
    ((rawDisableFilters dev s filter core).devs i).map Device.net = (core.devs i).map Device.net := by
  induction filter with
  | nil => exact fun {core} => rfl
  | cons f rest ih =>
      intro core
      rw [← @unregister_net _ core dev f.canId f.mask s _ i]
      exact ih

theorem unbind_eq (present : Present core ro) :
    rawUnbind s core ro = if ro.bound = true then rawDisableFilters ro.dev s ro.asked core else core := by
  unfold rawUnbind RawSock.dev
  by_cases bound : ro.bound = true
  · rw [if_pos bound, if_pos bound]
    by_cases all : ro.ifindex = 0
    · rw [if_neg (not_not_intro all), if_pos all, disableAll_eq]
    · rw [if_pos all, if_neg all]
      cases found : devGetByIndex core ro.ifindex with
      | none => exact absurd found (present bound all)
      | some net => exact disableAll_eq ..
  · rw [if_neg bound, if_neg bound]

theorem disable_holding : ∀ {core : Core Sock} {mine : Registered Sock}, Holding core mine others →
    mine dev = entries s filter + rest →
      Holding (rawDisableFilters dev s filter core) (Function.update mine dev rest) others := by
  induction filter with
  | nil =>
      intro core mine holding has
      rw [entries_nil, Multiset.zero_add] at has
      rw [← has, Function.update_eq_self]
      exact holding
  | cons f fs ih =>
      intro core mine holding has
      have here : mine dev + others dev = f.entry s ::ₘ (entries s fs + rest + others dev) := by
        rw [has, entries_cons, Multiset.cons_add, Multiset.cons_add]
      have less := unregister_kept holding.kept holding.live here
      rw [update_add] at less
      have next : Holding (canRxUnregister dev f.canId f.mask s core)
          (Function.update mine dev (entries s fs + rest)) others :=
        ⟨less, unregister_live holding.live, zero_of_net holding.zero (unregister_net 0)⟩
      have result := ih next (Function.update_self ..)
      rw [Function.update_idem] at result
      exact result

theorem unbind_holding (holding : Holding core mine others) (present : Present core ro)
    (has : ro.bound = true → mine ro.dev = entries s ro.asked) :
    Holding (rawUnbind s core ro) (if ro.bound = true then Function.update mine ro.dev 0 else mine) others := by
  rw [unbind_eq present]
  split
  · rename_i bound
    refine disable_holding holding ?_
    rw [Multiset.add_zero]
    exact has bound
  · exact holding

/-! Each call, seen from its socket. -/

theorem bindEnable_eq (s : Sock) (i : Int) (room : Nat) (core : Core Sock) (ro : RawSock) :
    rawBindEnable s i room core ro = (core, some .enodev) ∨
      rawBindEnable s i room core ro =
        rawEnableAllfilters (if i = 0 then none else some i) s ro room core := by
  unfold rawBindEnable
  by_cases all : i = 0
  · rw [if_neg (not_not_intro all), if_pos all]
    exact .inr rfl
  · rw [if_pos all, if_neg all]
    split
    · exact .inl rfl
    · split
      · exact .inr rfl
      · exact .inl rfl

theorem bind_holding {i : Int} (holding : Holding core (owed s (some ro)) others) (present : Present core ro) :
    Holding (rawBind s i room core ro).1 (owed s (some (rawBind s i room core ro).2.1)) others := by
  unfold rawBind
  by_cases same : ro.bound = true ∧ i = ro.ifindex
  · rw [if_pos same]
    exact holding
  · rw [if_neg same]
    rcases enabled : rawBindEnable s i room core ro with ⟨after, _ | err⟩
    · -- The new filters are registered, and then the old ones go.
      have whole : rawEnableAllfilters (if i = 0 then none else some i) s ro room core = (after, none) := by
        obtain none | same := bindEnable_eq s i room core ro
        · rw [enabled] at none
          cases none
        · rw [← same, enabled]
      have ahead := enableAll_ok whole
      let now : RawSock := { ro with ifindex := i, bound := true }
      have place : now.dev = if i = 0 then none else some i := rfl
      rw [← place] at ahead
      have both := ahead_holding holding ahead
      have apart : ro.bound = true → ro.dev ≠ now.dev :=
        fun bound => dev_ne (fun here => same ⟨bound, here⟩) now rfl
      have alone : owed s (some ro) now.dev = 0 := owed_other fun here => apart here.1 here.2.symm
      rw [alone, Multiset.add_zero] at both
      have result := unbind_holding both (present_net present (ahead_net ahead)) fun bound => by
        rw [Function.update_of_ne (apart bound), owed_bound bound]
      rw [@owed_moved _ s ro now rfl rfl apart] at result
      exact result
    · obtain none | same := bindEnable_eq s i room core ro
      · rw [enabled] at none
        cases none
        exact holding
      · rw [enabled] at same
        have stay : after = core := enableAll_failed holding.live same.symm
        rw [stay]
        exact holding

/-- Filters of a bound socket that take the place of others. -/
theorem exchange_holding {fresh stale : List CanFilter} {now : RawSock}
    (holding : Holding core (owed s (some ro)) others) (bound : ro.bound = true) (same : now.bound = true)
    (place : now.dev = ro.dev) (enabled : rawEnableFilters ro.dev s fresh [] room core = (after, none))
    (sum : entries s fresh + entries s ro.asked = entries s stale + entries s now.asked) :
    Holding (rawDisableFilters ro.dev s stale after) (owed s (some now)) others := by
  have both := ahead_holding holding (enable_ok (ahead_refl core ro.dev) enabled)
  rw [owed_bound bound, Multiset.add_zero] at both
  have has : Function.update (owed s (some ro)) ro.dev (entries s fresh + entries s ro.asked) ro.dev =
      entries s stale + entries s now.asked := by
    rw [Function.update_self, sum]
  have result := disable_holding both has
  rw [Function.update_idem, owed_update same place] at result
  exact result

theorem setFilter_holding (holding : Holding core (owed s (some ro)) others) (present : Present core ro)
    (wanted : List CanFilter) (room : Nat) :
    Holding (rawSetFilter s wanted room core ro).1 (owed s (some (rawSetFilter s wanted room core ro).2.1))
      others := by
  unfold rawSetFilter
  by_cases bound : ro.bound = true
  · simp only [if_pos bound, rawDev_eq present bound]
    rcases enabled : rawEnableFilters ro.dev s wanted [] room core with ⟨after, _ | err⟩
    · refine exchange_holding holding bound bound rfl enabled ?_
      rw [RawSock.asked, RawSock.asked, entries_append, entries_append, ← Multiset.add_assoc,
        ← Multiset.add_assoc, Multiset.add_comm (entries s wanted)]
    · have stay := enable_failed holding.live (ahead_refl core ro.dev) enabled
      rw [stay]
      exact holding
  · simp only [if_neg bound]
    have free : owed s (some { ro with filter := wanted }) = owed s none := owed_free bound
    rw [owed_free bound] at holding
    rw [free]
    exact holding

theorem setErrFilter_holding (holding : Holding core (owed s (some ro)) others) (present : Present core ro)
    (mask : CanId) (room : Nat) :
    Holding (rawSetErrFilter s mask room core ro).1 (owed s (some (rawSetErrFilter s mask room core ro).2.1))
      others := by
  unfold rawSetErrFilter
  by_cases bound : ro.bound = true
  · simp only [if_pos bound, rawDev_eq present bound, enableErr_eq, disableErr_eq]
    rcases enabled : rawEnableFilters ro.dev s (errFilter (mask &&& canErrMask)) [] room core with
      ⟨after, _ | err⟩
    · refine exchange_holding holding bound bound rfl enabled ?_
      rw [RawSock.asked, RawSock.asked, entries_append, entries_append,
        Multiset.add_comm (entries s (errFilter (mask &&& canErrMask))),
        Multiset.add_comm (entries s ro.filter) (entries s (errFilter ro.errMask)), Multiset.add_assoc]
    · have stay := enable_failed holding.live (ahead_refl core ro.dev) enabled
      rw [stay]
      exact holding
  · simp only [if_neg bound]
    have free : owed s (some { ro with errMask := mask &&& canErrMask }) = owed s none := owed_free bound
    rw [owed_free bound] at holding
    rw [free]
    exact holding

theorem notifier_holding {i : Int} (holding : Holding core (owed s (some ro)) others) :
    Holding (rawNotifier s i core ro).1 (owed s (some (rawNotifier s i core ro).2)) others := by
  unfold rawNotifier
  split
  · exact holding
  · rename_i meant
    have can : core.isCan i = true := Bool.eq_true_of_not_eq_false fun stranger => meant (.inl stranger)
    have here : ro.ifindex = i := Classical.byContradiction fun other => meant (.inr other)
    have own : ro.ifindex ≠ 0 := by
      rintro all
      rw [← here, all, Core.isCan, holding.zero] at can
      exact Bool.false_ne_true can
    have free : owed s (some { ro with ifindex := 0, bound := false, filter := [] }) = owed s none :=
      owed_free Bool.false_ne_true
    rw [free, ← owed_gone s ro]
    split
    · rename_i bound
      have place : ro.dev = some i := by rw [RawSock.dev, if_neg own, here]
      rw [disableAll_eq, ← place]
      refine disable_holding holding ?_
      rw [owed_bound bound, Multiset.add_zero]
    · exact holding

theorem release_holding (holding : Holding core (owed s (some ro)) others) (present : Present core ro) :
    Holding (rawUnbind s core ro) (owed s none) others := by
  rw [← owed_gone s ro]
  exact unbind_holding holding present owed_bound

end MangOH.Can
