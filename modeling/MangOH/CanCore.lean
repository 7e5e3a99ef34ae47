import MangOH.CanFilters
import Mathlib.Logic.Function.Basic

/-!
The CAN core: the receive lists of all devices and those of each, which come and go with
the device, and the filters that are registered with them. What is registered is a
collection, and a frame reaches what it has for the frame.
-/

namespace MangOH.Can

open Buckets

inductive Errno where
  | enodev
  | enomem
deriving DecidableEq

variable {Target : Type}

/-- A device of the network, that others find as long as it is listed. With `echo` it
gives back itself what it sends. -/
structure NetDevice where
  can : Bool
  listed : Bool
  up : Bool
  echo : Bool
  mtu : Nat
deriving DecidableEq

structure Device (Target : Type) where
  net : NetDevice
  mlPriv : Option (DevRcvLists Target)

/-- The devices by their index, which no two of them have in common. -/
structure Core (Target : Type) where
  alldev : DevRcvLists Target
  devs : Int → Option (Device Target)

def Core.isCan (core : Core Target) (i : Int) : Bool := (core.devs i).any (·.net.can)

/-- Not a CAN device; a missing device stands for all of them. -/
def Core.isForeign (core : Core Target) (dev : Option Int) : Bool := dev.any fun i => !core.isCan i

def findDevRcvLists (core : Core Target) : Option Int → Option (DevRcvLists Target)
  | none => some core.alldev
  | some i => (core.devs i).bind Device.mlPriv

def Core.put (dev : Option Int) (lists : Option (DevRcvLists Target)) (core : Core Target) : Core Target :=
  match dev with
  | none => { core with alldev := lists.getD core.alldev }
  | some i =>
      let device := (core.devs i).map fun device => { device with mlPriv := lists }
      { core with devs := Function.update core.devs i device }

/-- `room` allocations succeed before the first one that fails. -/
def canRxRegister (room : Nat) (dev : Option Int) (canId mask : CanId) (target : Target)
    (core : Core Target) : Except Errno (Core Target) :=
  if core.isForeign dev then .error .enodev
  else if room = 0 then .error .enomem
  else match findDevRcvLists core dev with
    | some d => .ok (core.put dev (some (d.add canId mask target)))
    | none => .error .enodev

def canRxUnregister [DecidableEq Target] (dev : Option Int) (canId mask : CanId) (target : Target)
    (core : Core Target) : Core Target :=
  if core.isForeign dev then core
  else match findDevRcvLists core dev with
    | none => core
    | some d => match d.delete canId mask target with
      | none => core
      | some d =>
          if d.removeOnZeroEntries = true ∧ d.entries = 0 then core.put dev none
          else core.put dev (some d)

/-- `list_netdevice`, of a device with an index that none has had. -/
def Core.list (i : Int) (net : NetDevice) (core : Core Target) : Core Target :=
  if i ≠ 0 ∧ core.devs i = none then
    { core with devs := Function.update core.devs i (some ⟨{ net with listed := true }, none⟩) }
  else core

/-- `unlist_netdevice`. -/
def Core.unlist (i : Int) (core : Core Target) : Core Target :=
  let device := (core.devs i).map fun device => { device with net := { device.net with listed := false } }
  { core with devs := Function.update core.devs i device }

/-- `dev_get_by_index`. -/
def devGetByIndex (core : Core Target) (i : Int) : Option NetDevice :=
  ((core.devs i).map Device.net).filter NetDevice.listed

/-- `can_notifier` on NETDEV_REGISTER; the kernel stops on a device that has lists. -/
def canNotifierRegister (i : Int) (allocated : Bool) (core : Core Target) : Core Target :=
  if core.isCan i ∧ findDevRcvLists core (some i) = none ∧ allocated = true then
    core.put (some i) (some .empty)
  else core

/-- `can_notifier` on NETDEV_UNREGISTER. -/
def canNotifierUnregister (i : Int) (core : Core Target) : Core Target :=
  if core.isCan i then
    match findDevRcvLists core (some i) with
    | none => core
    | some d =>
        if d.entries ≠ 0 then core.put (some i) (some { d with removeOnZeroEntries := true })
        else core.put (some i) none
  else core

/-- The targets of a frame that the device `i` has received. -/
def canReceive (core : Core Target) (i : Int) (canId : CanId) : List Target :=
  rcvFilter core.alldev canId ++
    match findDevRcvLists core (some i) with
    | some d => rcvFilter d canId
    | none => []

/-! Lists that are found. -/

variable {core after : Core Target} {dev other : Option Int} {canId mask : CanId} {target : Target}
  {d : DevRcvLists Target}

theorem find_put_self (present : core.isForeign dev = false) :
    findDevRcvLists (core.put dev (some d)) dev = some d := by
  cases dev with
  | none => rfl
  | some i =>
      cases found : core.devs i with
      | none => simp [Core.isForeign, Core.isCan, found] at present
      | some device => simp [findDevRcvLists, Core.put, found]

theorem find_put_none (i : Int) : findDevRcvLists (core.put (some i) none) (some i) = none := by
  cases found : core.devs i <;> simp [findDevRcvLists, Core.put, found]

theorem find_put {lists : Option (DevRcvLists Target)}
    (found : findDevRcvLists (core.put dev lists) dev = some d) (real : dev = none → lists ≠ none) :
    lists = some d := by
  cases dev with
  | none =>
      cases lists with
      | none => exact absurd rfl (real rfl)
      | some here => exact found
  | some i =>
      cases present : core.devs i with
      | none => simp [findDevRcvLists, Core.put, present] at found
      | some device => simpa [findDevRcvLists, Core.put, present] using found

theorem find_put_other {lists : Option (DevRcvLists Target)} (different : other ≠ dev) :
    findDevRcvLists (core.put dev lists) other = findDevRcvLists core other := by
  cases dev with
  | none =>
      cases other with
      | none => exact absurd rfl different
      | some j => rfl
  | some i =>
      cases other with
      | none => rfl
      | some j =>
          have apart : j ≠ i := fun same => different (congrArg some same)
          simp only [findDevRcvLists, Core.put, Function.update_of_ne apart]

/-- The devices themselves stay as they are. -/
theorem put_net (lists : Option (DevRcvLists Target)) (i : Int) :
    ((core.put dev lists).devs i).map Device.net = (core.devs i).map Device.net := by
  cases dev with
  | none => rfl
  | some j =>
      by_cases same : i = j
      · subst same
        cases found : core.devs i <;> simp [Core.put, found]
      · simp [Core.put, Function.update_of_ne same]

theorem isCan_net (core : Core Target) (i : Int) :
    core.isCan i = ((core.devs i).map Device.net).any NetDevice.can := by
  rw [Core.isCan, Option.any_map]

theorem put_isCan (lists : Option (DevRcvLists Target)) (i : Int) :
    (core.put dev lists).isCan i = core.isCan i := by
  rw [isCan_net, isCan_net, put_net]

theorem put_isForeign (lists : Option (DevRcvLists Target)) :
    (core.put dev lists).isForeign other = core.isForeign other := by
  cases other with
  | none => rfl
  | some i => simp only [Core.isForeign, Option.any_some, put_isCan]

/-- Lists that are put back. -/
theorem put_same (same : findDevRcvLists core dev = some d) : core.put dev (some d) = core := by
  cases dev with
  | none =>
      cases same
      rfl
  | some i =>
      cases found : core.devs i with
      | none => simp [findDevRcvLists, found] at same
      | some device =>
          rw [findDevRcvLists, found] at same
          have here : device.mlPriv = some d := same
          simp only [Core.put, found, Option.map_some, ← here]
          rw [← found, Function.update_eq_self]

theorem put_put {lists : Option (DevRcvLists Target)} :
    (core.put dev lists).put dev (some d) = core.put dev (some d) := by
  cases dev with
  | none => rfl
  | some i => cases found : core.devs i <;> simp [Core.put, found]

/-! What the functions leave. -/

theorem register_ok {room : Nat} (registered : canRxRegister room dev canId mask target core = .ok after) :
    core.isForeign dev = false ∧
      ∃ d, findDevRcvLists core dev = some d ∧ after = core.put dev (some (d.add canId mask target)) := by
  unfold canRxRegister at registered
  split at registered
  · cases registered
  · rename_i known
    split at registered
    · cases registered
    · split at registered
      · rename_i d found
        cases registered
        exact ⟨by simpa using known, d, found, rfl⟩
      · cases registered

/-- Lists that are marked to go are not empty, and those of all devices are not marked. -/
def Live (core : Core Target) : Prop :=
  ∀ dev d, findDevRcvLists core dev = some d → d.removeOnZeroEntries = true → dev ≠ none ∧ d.entries ≠ 0

theorem put_live {lists : Option (DevRcvLists Target)} (live : Live core) (real : dev = none → lists ≠ none)
    (good : ∀ d, lists = some d → d.removeOnZeroEntries = true → dev ≠ none ∧ d.entries ≠ 0) :
    Live (core.put dev lists) := by
  intro other d found doomed
  by_cases same : other = dev
  · subst same
    exact good d (find_put found real) doomed
  · rw [find_put_other same] at found
    exact live other d found doomed

section Unregister

variable [DecidableEq Target]

theorem delete_some {less : DevRcvLists Target} : d.delete canId mask target = some less ↔
    (entryOf canId mask target).2 ∈ d.rx (entryOf canId mask target).1 ∧
      less = { d with
        rx := remove (entryOf canId mask target).1 (entryOf canId mask target).2 d.rx
        entries := d.entries - 1 } := by
  simp only [DevRcvLists.delete]
  by_cases present : (entryOf canId mask target).2 ∈ d.rx (entryOf canId mask target).1
  · rw [if_pos present, Option.some_inj, and_iff_right present]
    exact eq_comm
  · rw [if_neg present]
    constructor
    · intro absent
      cases absent
    · exact fun both => absurd both.1 present

theorem unregister_live (live : Live core) : Live (canRxUnregister dev canId mask target core) := by
  unfold canRxUnregister
  split
  · exact live
  · rename_i known
    split
    · exact live
    · rename_i d found
      split
      · exact live
      · rename_i less deleted
        have marked : less.removeOnZeroEntries = d.removeOnZeroEntries := by
          rw [(delete_some.mp deleted).2]
        split
        · rename_i gone
          have own : dev ≠ none := (live dev d found (marked ▸ gone.1)).1
          refine put_live live (fun all => absurd all own) fun d' same => ?_
          cases same
        · rename_i stays
          refine put_live live (fun _ none => by cases none) fun d' same => ?_
          cases same
          exact fun doomed => ⟨(live dev d found (marked ▸ doomed)).1, fun none => stays ⟨doomed, none⟩⟩

/-- At most the lists of the device are other ones. -/
theorem unregister_put : canRxUnregister dev canId mask target core = core ∨
    ∃ lists, canRxUnregister dev canId mask target core = core.put dev lists := by
  unfold canRxUnregister
  split
  · exact .inl rfl
  · split
    · exact .inl rfl
    · split
      · exact .inl rfl
      · split
        · exact .inr ⟨_, rfl⟩
        · exact .inr ⟨_, rfl⟩

theorem unregister_net (i : Int) :
    ((canRxUnregister dev canId mask target core).devs i).map Device.net = (core.devs i).map Device.net := by
  rcases @unregister_put _ core dev canId mask target _ with same | ⟨lists, same⟩
  · rw [same]
  · rw [same, put_net]

theorem unregister_alldev {i : Int} :
    (canRxUnregister (some i) canId mask target core).alldev = core.alldev := by
  rcases @unregister_put _ core (some i) canId mask target _ with same | ⟨lists, same⟩
  · rw [same]
  · rw [same]
    rfl

end Unregister

theorem notifierRegister_live (i : Int) (allocated : Bool) (live : Live core) :
    Live (canNotifierRegister i allocated core) := by
  unfold canNotifierRegister
  split
  · refine put_live live (fun all => by cases all) fun d' same => ?_
    cases same
    exact fun doomed => absurd doomed Bool.false_ne_true
  · exact live

theorem notifierUnregister_live (i : Int) (live : Live core) : Live (canNotifierUnregister i core) := by
  unfold canNotifierUnregister
  split
  · split
    · exact live
    · split
      · rename_i occupied
        refine put_live live (fun all => by cases all) fun d' same => ?_
        cases same
        exact fun _ => ⟨Option.some_ne_none i, occupied⟩
      · refine put_live live (fun all => by cases all) fun d' same => by cases same
  · exact live

/-! What is registered. -/

abbrev Entry (Target : Type) := RcvList × Receiver Target

/-- With all devices, and with each of them. -/
abbrev Registered (Target : Type) := Option Int → Multiset (Entry Target)

structure Represents (d : DevRcvLists Target) (items : Multiset (Entry Target)) : Prop where
  lists : Holds d.rx items
  counted : d.entries = items.card

/-- Where there are no lists nothing is registered. -/
def KeptIn (items : Multiset (Entry Target)) : Option (DevRcvLists Target) → Prop
  | some d => Represents d items
  | none => items = 0

structure Kept (core : Core Target) (items : Registered Target) : Prop where
  lists : ∀ dev, KeptIn (items dev) (findDevRcvLists core dev)
  foreign : ∀ i, core.isCan i = false → findDevRcvLists core (some i) = none

variable {items : Registered Target} {rest : Multiset (Entry Target)}

theorem represents_empty : Represents (.empty : DevRcvLists Target) 0 := ⟨holds_empty, rfl⟩

/-- An entry that is there is found, and only that one goes. -/
theorem represents_delete [DecidableEq Target]
    (represents : Represents d (entryOf canId mask target ::ₘ rest)) :
    ∃ less, d.delete canId mask target = some less ∧
      less.removeOnZeroEntries = d.removeOnZeroEntries ∧ Represents less rest := by
  have present := (mem_iff represents.lists).mpr (Multiset.mem_cons_self _ rest)
  have fewer := @holds_remove _ _ _ d.rx _ (entryOf canId mask target).1 (entryOf canId mask target).2 _
    represents.lists
  rw [Multiset.erase_cons_head] at fewer
  refine ⟨_, delete_some.mpr ⟨present, rfl⟩, rfl, fewer, ?_⟩
  rw [represents.counted, Multiset.card_cons, Nat.add_sub_cancel]

theorem kept_put {lists : Option (DevRcvLists Target)} (kept : Kept core items)
    (known : core.isForeign dev = false) (real : dev = none → lists ≠ none) (good : KeptIn rest lists) :
    Kept (core.put dev lists) (Function.update items dev rest) := by
  constructor
  · intro other
    by_cases same : other = dev
    · subst same
      have here : findDevRcvLists (core.put other lists) other = lists := by
        cases lists with
        | some d => exact find_put_self known
        | none =>
            cases other with
            | none => exact absurd rfl (real rfl)
            | some i => exact find_put_none i
      rw [Function.update_self, here]
      exact good
    · rw [Function.update_of_ne same, find_put_other same]
      exact kept.lists other
  · intro i stranger
    rw [put_isCan] at stranger
    have other : some i ≠ dev := by
      rintro rfl
      simp [Core.isForeign, stranger] at known
    rw [find_put_other other]
    exact kept.foreign i stranger

theorem kept_at (kept : Kept core items) (found : findDevRcvLists core dev = some d) :
    Represents d (items dev) := by
  have here := kept.lists dev
  rw [found] at here
  exact here

/-- What has entries is a CAN device with lists. -/
theorem kept_occupied (kept : Kept core items) (occupied : items dev ≠ 0) :
    core.isForeign dev = false ∧ ∃ d, findDevRcvLists core dev = some d ∧ Represents d (items dev) := by
  have here := kept.lists dev
  cases found : findDevRcvLists core dev with
  | none =>
      rw [found] at here
      exact absurd here occupied
  | some d =>
      rw [found] at here
      refine ⟨?_, d, rfl, here⟩
      cases dev with
      | none => rfl
      | some i =>
          cases kind : core.isCan i with
          | true => simp [Core.isForeign, kind]
          | false => simp [kept.foreign i kind] at found

theorem unregister_kept [DecidableEq Target] (kept : Kept core items) (live : Live core)
    (has : items dev = entryOf canId mask target ::ₘ rest) :
    Kept (canRxUnregister dev canId mask target core) (Function.update items dev rest) := by
  obtain ⟨known, d, found, represents⟩ := kept_occupied kept (has ▸ Multiset.cons_ne_zero)
  rw [has] at represents
  obtain ⟨less, deleted, marked, represents⟩ := represents_delete represents
  unfold canRxUnregister
  rw [known, if_neg Bool.false_ne_true, found]
  simp only [deleted]
  split
  · rename_i gone
    have own : dev ≠ none := (live dev d found (marked ▸ gone.1)).1
    have empty : rest = 0 := Multiset.card_eq_zero.mp (represents.counted ▸ gone.2)
    exact kept_put kept known (fun all => absurd all own) empty
  · exact kept_put kept known (fun _ none => by cases none) represents

theorem update_add {mine others : Registered Target} :
    Function.update (fun dev => mine dev + others dev) dev (rest + others dev) =
      fun other => Function.update mine dev rest other + others other := by
  funext other
  by_cases same : other = dev
  · subst same
    rw [Function.update_self, Function.update_self]
  · rw [Function.update_of_ne same, Function.update_of_ne same]

theorem zero_of_net (zero : core.devs 0 = none)
    (same : (after.devs 0).map Device.net = (core.devs 0).map Device.net) : after.devs 0 = none := by
  rw [zero] at same
  exact Option.map_eq_none_iff.mp same

/-! Registrations of one caller, which may be taken back. -/

/-- Lists as others were before the items were put in. -/
structure Grown (d : DevRcvLists Target) (entries : Multiset (Entry Target)) (more : DevRcvLists Target) :
    Prop where
  lists : Before d.rx entries more.rx
  counted : more.entries = d.entries + entries.card
  marked : more.removeOnZeroEntries = d.removeOnZeroEntries

def Ahead (core : Core Target) (dev : Option Int) (entries : Multiset (Entry Target))
    (after : Core Target) : Prop :=
  entries = 0 ∧ after = core ∨ core.isForeign dev = false ∧
    ∃ d more, findDevRcvLists core dev = some d ∧ Grown d entries more ∧ after = core.put dev (some more)

variable {entries : Multiset (Entry Target)}

theorem grown_zero {more : DevRcvLists Target} (grown : Grown d 0 more) : more = d :=
  DevRcvLists.ext (before_zero grown.lists) grown.marked grown.counted

theorem ahead_refl (core : Core Target) (dev : Option Int) : Ahead core dev 0 core := .inl ⟨rfl, rfl⟩

/-- What is taken back was never there. -/
theorem ahead_zero (ahead : Ahead core dev 0 after) : after = core := by
  obtain ⟨_, same⟩ | ⟨_, d, more, found, grown, same⟩ := ahead
  · exact same
  · rw [same, grown_zero grown, put_same found]

theorem ahead_register {room : Nat} (ahead : Ahead core dev entries after) {last : Core Target}
    (registered : canRxRegister room dev canId mask target after = .ok last) :
    Ahead core dev (entryOf canId mask target ::ₘ entries) last := by
  obtain ⟨known', d', found', rfl⟩ := register_ok registered
  have grow : ∀ {d more : DevRcvLists Target}, Grown d entries more →
      Grown d (entryOf canId mask target ::ₘ entries) (more.add canId mask target) := by
    intro d more grown
    refine ⟨before_insert grown.lists, ?_, grown.marked⟩
    rw [Multiset.card_cons, ← Nat.add_assoc, ← grown.counted]
    rfl
  obtain ⟨rfl, rfl⟩ | ⟨known, d, more, found, grown, rfl⟩ := ahead
  · exact .inr ⟨known', d', _, found', grow ⟨before_refl _, rfl, rfl⟩, rfl⟩
  · rw [find_put_self known] at found'
    cases found'
    exact .inr ⟨known, d, _, found, grow grown, put_put⟩

theorem ahead_unregister [DecidableEq Target] (live : Live core)
    (ahead : Ahead core dev (entryOf canId mask target ::ₘ entries) after) :
    Ahead core dev entries (canRxUnregister dev canId mask target after) := by
  obtain ⟨none, _⟩ | ⟨known, d, more, found, grown, rfl⟩ := ahead
  · exact absurd none Multiset.cons_ne_zero
  · obtain ⟨front, holds, before⟩ := grown.lists
    have present : (entryOf canId mask target).2 ∈ more.rx (entryOf canId mask target).1 := by
      rw [before]
      exact List.mem_append_left _ ((mem_iff holds).mpr (Multiset.mem_cons_self _ entries))
    have less := delete_some.mpr ⟨present, rfl⟩
    have counted : more.entries - 1 = d.entries + entries.card := by
      rw [grown.counted, Multiset.card_cons, ← Nat.add_assoc, Nat.add_sub_cancel]
    unfold canRxUnregister
    rw [put_isForeign, known, if_neg Bool.false_ne_true, find_put_self known]
    simp only [less]
    rw [if_neg]
    · refine .inr ⟨known, d, _, found, ?_, put_put⟩
      exact ⟨before_remove grown.lists, counted, grown.marked⟩
    · -- Lists that were there before do not become empty.
      rintro ⟨doomed, none⟩
      have more : d.entries ≠ 0 := (live dev d found (grown.marked ▸ doomed)).2
      omega

theorem ahead_live (live : Live core) (ahead : Ahead core dev entries after) : Live after := by
  obtain ⟨_, rfl⟩ | ⟨_, d, more, found, grown, rfl⟩ := ahead
  · exact live
  · refine put_live live (fun _ none => by cases none) fun d' same => ?_
    cases same
    rw [grown.marked, grown.counted]
    intro doomed
    exact ⟨(live dev d found doomed).1, fun none => (live dev d found doomed).2 (Nat.eq_zero_of_add_eq_zero_right none)⟩

theorem ahead_kept (kept : Kept core items) (ahead : Ahead core dev entries after) :
    Kept after (Function.update items dev (entries + items dev)) := by
  obtain ⟨rfl, rfl⟩ | ⟨known, d, more, found, grown, rfl⟩ := ahead
  · rw [Multiset.zero_add, Function.update_eq_self]
    exact kept
  · have old := kept_at kept found
    refine kept_put kept known (fun _ none => by cases none) ⟨before_holds grown.lists old.lists, ?_⟩
    rw [Multiset.card_add, grown.counted, old.counted, Nat.add_comm]

theorem ahead_net (ahead : Ahead core dev entries after) (i : Int) :
    (after.devs i).map Device.net = (core.devs i).map Device.net := by
  obtain ⟨_, rfl⟩ | ⟨_, d, more, _, _, rfl⟩ := ahead
  · rfl
  · exact put_net _ i

/-- A frame reaches what is registered for it with all devices and with its own. -/
theorem receive_exact (kept : Kept core items) (i : Int) (frame : CanId) :
    (canReceive core i frame : Multiset Target) =
      ((items none + items (some i)).filter fun entry =>
        entry.1 ∈ visited frame ∧ accepts frame entry.1 entry.2 = true).map (·.2.target) := by
  have one : ∀ {d : DevRcvLists Target} {entries : Multiset (Entry Target)}, Represents d entries →
      (rcvFilter d frame : Multiset Target) = (entries.filter fun entry =>
        entry.1 ∈ visited frame ∧ accepts frame entry.1 entry.2 = true).map (·.2.target) := by
    intro d entries represents
    rw [rcvFilter_gather]
    split
    · rename_i none
      rw [represents.counted] at none
      rw [Multiset.card_eq_zero.mp none]
      rfl
    · rw [← Multiset.map_coe, gather_exact (accepts frame) (visited_nodup frame) represents.lists,
        Multiset.map_map]
      rfl
  have every := @kept_at _ _ none core.alldev _ kept rfl
  rw [canReceive, ← Multiset.coe_add, one every, Multiset.filter_add, Multiset.map_add]
  congr 1
  have here := kept.lists (some i)
  cases found : findDevRcvLists core (some i) with
  | none =>
      rw [found] at here
      rw [show items (some i) = 0 from here]
      rfl
  | some d =>
      rw [found] at here
      exact one here

/-! Devices that come and go. -/

theorem list_find (i : Int) (net : NetDevice) (dev : Option Int) :
    findDevRcvLists (core.list i net) dev = findDevRcvLists core dev := by
  unfold Core.list
  split
  · rename_i new
    cases dev with
    | none => rfl
    | some j =>
        by_cases same : j = i
        · subst same
          simp [findDevRcvLists, new.2]
        · simp [findDevRcvLists, Function.update_of_ne same]
  · rfl

theorem unlist_find (i : Int) (dev : Option Int) :
    findDevRcvLists (core.unlist i) dev = findDevRcvLists core dev := by
  cases dev with
  | none => rfl
  | some j =>
      by_cases same : j = i
      · subst same
        cases found : core.devs j <;> simp [Core.unlist, findDevRcvLists, found]
      · simp [Core.unlist, findDevRcvLists, Function.update_of_ne same]

theorem unlist_isCan (i j : Int) : (core.unlist i).isCan j = core.isCan j := by
  by_cases same : j = i
  · subst same
    cases found : core.devs j <;> simp [Core.unlist, Core.isCan, found]
  · simp [Core.unlist, Core.isCan, Function.update_of_ne same]

theorem list_zero (i : Int) (net : NetDevice) (zero : core.devs 0 = none) : (core.list i net).devs 0 = none := by
  unfold Core.list
  split
  · rename_i new
    exact (Function.update_of_ne (Ne.symm new.1) _ core.devs).trans zero
  · exact zero

theorem unlist_zero (i : Int) (zero : core.devs 0 = none) : (core.unlist i).devs 0 = none := by
  by_cases same : 0 = i
  · subst same
    simp [Core.unlist, zero]
  · exact (Function.update_of_ne same _ core.devs).trans zero

theorem live_of_find (live : Live core)
    (same : ∀ dev, findDevRcvLists after dev = findDevRcvLists core dev) : Live after :=
  fun dev d found => live dev d (same dev ▸ found)

theorem list_kept (i : Int) (net : NetDevice) (kept : Kept core items) : Kept (core.list i net) items := by
  constructor
  · intro dev
    rw [list_find]
    exact kept.lists dev
  · intro j stranger
    rw [list_find]
    unfold Core.list at stranger
    split at stranger
    · rename_i new
      by_cases same : j = i
      · subst same
        simp [findDevRcvLists, new.2]
      · refine kept.foreign j ?_
        simpa [Core.isCan, Function.update_of_ne same] using stranger
    · exact kept.foreign j stranger

theorem unlist_kept (i : Int) (kept : Kept core items) : Kept (core.unlist i) items := by
  constructor
  · intro dev
    rw [unlist_find]
    exact kept.lists dev
  · intro j stranger
    rw [unlist_find]
    exact kept.foreign j (unlist_isCan i j ▸ stranger)

theorem not_foreign {i : Int} (can : core.isCan i = true) : core.isForeign (some i) = false := by
  simp [Core.isForeign, can]

theorem notifierRegister_net (i : Int) (allocated : Bool) (j : Int) :
    ((canNotifierRegister i allocated core).devs j).map Device.net = (core.devs j).map Device.net := by
  unfold canNotifierRegister
  split
  · exact put_net _ j
  · rfl

theorem notifierUnregister_net (i j : Int) :
    ((canNotifierUnregister i core).devs j).map Device.net = (core.devs j).map Device.net := by
  unfold canNotifierUnregister
  split
  · split
    · rfl
    · split <;> exact put_net _ j
  · rfl

theorem notifierRegister_kept (i : Int) (allocated : Bool) (kept : Kept core items) :
    Kept (canNotifierRegister i allocated core) items := by
  unfold canNotifierRegister
  split
  · rename_i first
    have none := kept.lists (some i)
    rw [first.2.1] at none
    rw [← Function.update_eq_self (some i) items]
    refine kept_put kept (not_foreign first.1) (fun all => by cases all) ?_
    rw [show items (some i) = 0 from none]
    exact represents_empty
  · exact kept

theorem notifierUnregister_kept (i : Int) (kept : Kept core items) :
    Kept (canNotifierUnregister i core) items := by
  unfold canNotifierUnregister
  split
  · rename_i can
    split
    · exact kept
    · rename_i d found
      have here := kept_at kept found
      rw [← Function.update_eq_self (some i) items]
      split
      · exact kept_put kept (not_foreign can) (fun all => by cases all) ⟨here.lists, here.counted⟩
      · rename_i empty
        refine kept_put kept (not_foreign can) (fun all => by cases all) ?_
        exact Multiset.card_eq_zero.mp (here.counted ▸ Classical.not_not.mp empty)
  · exact kept

/-! Lists of a device that has been given up. -/

/-- The lists that are left go with their last entry. -/
def Doomed (i : Int) (core : Core Target) : Prop :=
  ∀ d, findDevRcvLists core (some i) = some d → d.removeOnZeroEntries = true

theorem put_doomed {i : Int} {lists : Option (DevRcvLists Target)} (doomed : Doomed i core)
    (same : dev = some i → ∀ d, lists = some d → d.removeOnZeroEntries = true) : Doomed i (core.put dev lists) := by
  intro d found
  by_cases here : some i = dev
  · subst here
    exact same rfl d (find_put found fun all => by cases all)
  · rw [find_put_other here] at found
    exact doomed d found

theorem ahead_doomed {i : Int} (doomed : Doomed i core) (ahead : Ahead core dev entries after) : Doomed i after := by
  obtain ⟨_, rfl⟩ | ⟨_, d, more, found, grown, rfl⟩ := ahead
  · exact doomed
  · refine put_doomed doomed fun here d' same => ?_
    cases same
    rw [grown.marked]
    exact doomed d (here ▸ found)

theorem unregister_doomed [DecidableEq Target] {i : Int} (doomed : Doomed i core) :
    Doomed i (canRxUnregister dev canId mask target core) := by
  unfold canRxUnregister
  split
  · exact doomed
  · split
    · exact doomed
    · rename_i d found
      split
      · exact doomed
      · rename_i less deleted
        have marked : less.removeOnZeroEntries = d.removeOnZeroEntries := by
          rw [(delete_some.mp deleted).2]
        split
        · exact put_doomed doomed fun _ d' same => by cases same
        · refine put_doomed doomed fun here d' same => ?_
          cases same
          exact marked ▸ doomed d (here ▸ found)

theorem notifierUnregister_doomed {i : Int} (j : Int) (doomed : Doomed i core) :
    Doomed i (canNotifierUnregister j core) := by
  unfold canNotifierUnregister
  split
  · split
    · exact doomed
    · split
      · refine put_doomed doomed fun _ d' same => ?_
        cases same
        rfl
      · exact put_doomed doomed fun _ d' same => by cases same
  · exact doomed

/-- The notifier leaves no lists that stay. -/
theorem notifierUnregister_marks (kept : Kept core items) (i : Int) :
    Doomed i (canNotifierUnregister i core) := by
  intro d found
  unfold canNotifierUnregister at found
  split at found
  · split at found
    · rename_i none
      rw [none] at found
      cases found
    · split at found
      · have same := find_put found fun all => by cases all
        cases same
        rfl
      · rw [find_put_none] at found
        cases found
  · rename_i stranger
    rw [kept.foreign i (Bool.eq_false_of_not_eq_true stranger)] at found
    cases found

end MangOH.Can
