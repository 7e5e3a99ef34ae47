import MangOH.Buckets

/-!
The receive filters of the CAN core. A filter goes into one of the lists of its interface,
so that most frames need no test against most filters; here are the lists, and that a frame
is delivered as if each filter was tested against it.
-/

namespace MangOH.Can

open Buckets

abbrev CanId := BitVec 32

def canEffFlag : CanId := 0x80000000
def canRtrFlag : CanId := 0x40000000
def canErrFlag : CanId := 0x20000000
/-- In a filter's identifier, where no error flag can be. -/
def canInvFilter : CanId := 0x20000000
def canSffMask : CanId := 0x7FF
def canEffMask : CanId := 0x1FFFFFFF
def canErrMask : CanId := 0x1FFFFFFF
def canEffRtrFlags : CanId := canEffFlag ||| canRtrFlag

/-- The lists of an interface, with an index for those of single identifiers. -/
inductive RcvList where
  | rxErr
  | rxAll
  | rxFil
  | rxInv
  | rxEff
  | rxSff (canId : CanId)
deriving DecidableEq

variable {Target : Type}

/-- A filter as it is kept, with the callback and its argument. -/
structure Receiver (Target : Type) where
  canId : CanId
  mask : CanId
  target : Target
deriving DecidableEq

@[ext]
structure DevRcvLists (Target : Type) where
  rx : Table RcvList (Receiver Target)
  removeOnZeroEntries : Bool
  entries : Nat

/-- The mask of a filter for standard frames has only bits that such a frame has. -/
def checkedMask (canId mask : CanId) : CanId :=
  if mask &&& canEffFlag ≠ 0 ∧ canId &&& canEffFlag = 0 then mask &&& (canSffMask ||| canEffRtrFlags)
  else mask

/-- The list, and the identifier and the mask as they are kept in it. -/
def findRcvList (canId mask : CanId) : RcvList × CanId × CanId :=
  let inv := canId &&& canInvFilter
  if mask &&& canErrFlag ≠ 0 then (.rxErr, canId, mask &&& canErrMask)
  else
    let mask := checkedMask canId mask
    let canId := canId &&& mask
    if inv ≠ 0 then (.rxInv, canId, mask)
    else if mask = 0 then (.rxAll, canId, mask)
    else if mask &&& canEffRtrFlags = canEffRtrFlags ∧ canId &&& canRtrFlag = 0 then
      if canId &&& canEffFlag ≠ 0 then
        if mask = canEffMask ||| canEffRtrFlags then (.rxEff, canId, mask) else (.rxFil, canId, mask)
      else if mask = canSffMask ||| canEffRtrFlags then (.rxSff canId, canId, mask)
      else (.rxFil, canId, mask)
    else (.rxFil, canId, mask)

/-- An entry as it is registered: its list, and what is kept there. -/
def entryOf (canId mask : CanId) (target : Target) : RcvList × Receiver Target :=
  ((findRcvList canId mask).1, ⟨(findRcvList canId mask).2.1, (findRcvList canId mask).2.2, target⟩)

def DevRcvLists.empty : DevRcvLists Target := ⟨fun _ => [], false, 0⟩

/-- `can_rx_register`, from the list on. -/
def DevRcvLists.add (canId mask : CanId) (target : Target) (d : DevRcvLists Target) :
    DevRcvLists Target :=
  let entry := entryOf canId mask target
  { d with rx := insert entry.1 entry.2 d.rx, entries := d.entries + 1 }

/-- `can_rx_unregister`, as far as `entries`; nothing where no entry is found. -/
def DevRcvLists.delete [DecidableEq Target] (canId mask : CanId) (target : Target)
    (d : DevRcvLists Target) : Option (DevRcvLists Target) :=
  let entry := entryOf canId mask target
  if entry.2 ∈ d.rx entry.1 then
    some { d with rx := remove entry.1 entry.2 d.rx, entries := d.entries - 1 }
  else none

/-- The targets that a frame is delivered to, in their order. -/
def rcvFilter (d : DevRcvLists Target) (canId : CanId) : List Target :=
  if d.entries = 0 then []
  else if canId &&& canErrFlag ≠ 0 then
    ((d.rx .rxErr).filter fun r => canId &&& r.mask ≠ 0).map Receiver.target
  else
    let tested := (d.rx .rxAll).map Receiver.target ++
      ((d.rx .rxFil).filter fun r => canId &&& r.mask = r.canId).map Receiver.target ++
      ((d.rx .rxInv).filter fun r => canId &&& r.mask ≠ r.canId).map Receiver.target
    if canId &&& canRtrFlag ≠ 0 then tested
    else if canId &&& canEffFlag ≠ 0 then
      tested ++ ((d.rx .rxEff).filter fun r => r.canId = canId).map Receiver.target
    else tested ++ (d.rx (.rxSff (canId &&& canSffMask))).map Receiver.target

/-! What a filter asks for. -/

/-- Error frames are for those who ask for one of their classes, and others for a filter
that they match, or do not match where it is inverted. -/
def Wanted (canId mask frame : CanId) : Prop :=
  if mask &&& canErrFlag ≠ 0 then frame &&& canErrFlag ≠ 0 ∧ frame &&& (mask &&& canErrMask) ≠ 0
  else frame &&& canErrFlag = 0 ∧
    (frame &&& checkedMask canId mask = canId &&& checkedMask canId mask ↔ canId &&& canInvFilter = 0)

instance (canId mask frame : CanId) : Decidable (Wanted canId mask frame) := by
  unfold Wanted
  infer_instance

/-! The lists that a frame is tested against, and the test in each. -/

def visited (frame : CanId) : List RcvList :=
  if frame &&& canErrFlag ≠ 0 then [.rxErr]
  else [.rxAll, .rxFil, .rxInv] ++
    if frame &&& canRtrFlag ≠ 0 then []
    else if frame &&& canEffFlag ≠ 0 then [.rxEff]
    else [.rxSff (frame &&& canSffMask)]

def accepts (frame : CanId) : RcvList → Receiver Target → Bool
  | .rxErr => fun r => frame &&& r.mask ≠ 0
  | .rxAll => fun _ => true
  | .rxFil => fun r => frame &&& r.mask = r.canId
  | .rxInv => fun r => frame &&& r.mask ≠ r.canId
  | .rxEff => fun r => r.canId = frame
  | .rxSff _ => fun _ => true

theorem visited_nodup (frame : CanId) : (visited frame).Nodup := by
  unfold visited
  split
  · exact List.nodup_singleton _
  · split
    · decide
    · split
      · decide
      · simp

theorem rcvFilter_gather (d : DevRcvLists Target) (frame : CanId) :
    rcvFilter d frame = if d.entries = 0 then []
      else (gather (accepts frame) (visited frame) d.rx).map Receiver.target := by
  unfold rcvFilter visited
  split
  · rfl
  · split
    · simp [gather, accepts]
    · split
      · simp [gather, accepts]
      · split <;> simp [gather, accepts]

/-! Bits of identifiers. -/

theorem and_of_and {id mask bit : CanId} (inside : mask &&& bit = bit) :
    id &&& mask &&& bit = id &&& bit := by
  rw [BitVec.and_assoc, inside]

theorem flag_of_ne {mask : CanId} (flagged : mask &&& canEffFlag ≠ 0) :
    mask &&& canEffFlag = canEffFlag := by
  have bit : mask &&& canEffFlag = if mask.getLsbD 31 then canEffFlag else 0 := by
    rw [show canEffFlag = BitVec.twoPow 32 31 from rfl, BitVec.and_twoPow]
    rfl
  rw [bit] at flagged ⊢
  split at flagged
  · exact if_pos ‹_›
  · exact absurd rfl flagged

/-- An extended frame without the error flag has all its bits in the mask of such frames. -/
theorem eff_all {frame : CanId} (clear : frame &&& canErrFlag = 0) :
    frame &&& (canEffMask ||| canEffRtrFlags) = frame := by
  have parts : frame &&& ((canEffMask ||| canEffRtrFlags) ||| canErrFlag) = frame := by
    have ones : (canEffMask ||| canEffRtrFlags) ||| canErrFlag = BitVec.allOnes 32 := by decide
    rw [ones, BitVec.and_allOnes]
  rw [BitVec.and_or_distrib_left, clear] at parts
  simpa using parts

theorem sff_parts (id : CanId) : id &&& (canSffMask ||| canEffRtrFlags) =
    (id &&& canSffMask) ||| ((id &&& canEffFlag) ||| (id &&& canRtrFlag)) := by
  rw [canEffRtrFlags, BitVec.and_or_distrib_left, BitVec.and_or_distrib_left]

/-- Behind the flags of an extended frame nothing of it is left out of the comparison. -/
theorem eff_accepts {id frame : CanId} (clear : frame &&& canErrFlag = 0)
    (extended : id &&& canEffFlag ≠ 0) (data : id &&& canRtrFlag = 0) :
    (frame &&& canRtrFlag = 0 ∧ frame &&& canEffFlag ≠ 0) ∧ id = frame ↔
      frame &&& (canEffMask ||| canEffRtrFlags) = id := by
  rw [eff_all clear]
  constructor
  · exact fun both => both.2.symm
  · rintro rfl
    exact ⟨⟨data, extended⟩, rfl⟩

/-- The index is what is left of a standard frame. -/
theorem sff_accepts {id frame : CanId} (standard : id &&& canEffFlag = 0) (data : id &&& canRtrFlag = 0) :
    (frame &&& canRtrFlag = 0 ∧ frame &&& canEffFlag = 0) ∧ id = frame &&& canSffMask ↔
      frame &&& (canSffMask ||| canEffRtrFlags) = id := by
  constructor
  · rintro ⟨⟨clear, short⟩, rfl⟩
    rw [sff_parts, clear, short]
    simp
  · rintro rfl
    have short : frame &&& canEffFlag = 0 := by
      rw [← and_of_and (by decide : (canSffMask ||| canEffRtrFlags) &&& canEffFlag = canEffFlag)]
      exact standard
    have clear : frame &&& canRtrFlag = 0 := by
      rw [← and_of_and (by decide : (canSffMask ||| canEffRtrFlags) &&& canRtrFlag = canRtrFlag)]
      exact data
    refine ⟨⟨clear, short⟩, ?_⟩
    rw [sff_parts, clear, short]
    simp

theorem mem_visited (list : RcvList) (frame : CanId) : list ∈ visited frame ↔
    match list with
    | .rxErr => frame &&& canErrFlag ≠ 0
    | .rxEff => frame &&& canErrFlag = 0 ∧ frame &&& canRtrFlag = 0 ∧ frame &&& canEffFlag ≠ 0
    | .rxSff canId => frame &&& canErrFlag = 0 ∧ (frame &&& canRtrFlag = 0 ∧ frame &&& canEffFlag = 0) ∧
        canId = frame &&& canSffMask
    | _ => frame &&& canErrFlag = 0 := by
  by_cases message : frame &&& canErrFlag = 0#32 <;> by_cases remote : frame &&& canRtrFlag = 0#32 <;>
    by_cases extended : frame &&& canEffFlag = 0#32 <;> cases list <;>
      simp [visited, message, remote, extended]

/-- A frame reaches the entry of a filter just where the filter wants it. -/
theorem entry_iff (canId mask frame : CanId) (target : Target) :
    (entryOf canId mask target).1 ∈ visited frame ∧
        accepts frame (entryOf canId mask target).1 (entryOf canId mask target).2 = true ↔
      Wanted canId mask frame := by
  unfold Wanted entryOf findRcvList
  by_cases error : mask &&& canErrFlag ≠ 0
  · simp only [if_pos error, mem_visited, accepts, decide_eq_true_eq]
  · simp only [if_neg error]
    by_cases inverted : canId &&& canInvFilter ≠ 0
    · simp only [if_pos inverted, mem_visited, accepts, decide_eq_true_eq]
      exact and_congr_right fun _ => (iff_false_right inverted).symm
    · have plain : canId &&& canInvFilter = 0 := Classical.not_not.mp inverted
      simp only [if_neg inverted]
      simp only [plain, iff_true]
      generalize checkedMask canId mask = mask
      by_cases zero : mask = 0
      · simp [zero, mem_visited, accepts]
      · rw [if_neg zero]
        by_cases single : mask &&& canEffRtrFlags = canEffRtrFlags ∧ canId &&& mask &&& canRtrFlag = 0
        · rw [if_pos single]
          by_cases extended : canId &&& mask &&& canEffFlag ≠ 0
          · rw [if_pos extended]
            by_cases whole : mask = canEffMask ||| canEffRtrFlags
            · rw [if_pos whole]
              simp only [mem_visited, accepts, decide_eq_true_eq]
              rw [and_assoc]
              refine and_congr_right fun clear => ?_
              rw [whole] at single extended ⊢
              exact eff_accepts clear extended single.2
            · rw [if_neg whole]
              simp [mem_visited, accepts]
          · rw [if_neg extended]
            by_cases whole : mask = canSffMask ||| canEffRtrFlags
            · rw [if_pos whole]
              simp only [mem_visited, accepts, and_true]
              refine and_congr_right fun _ => ?_
              rw [whole] at single extended ⊢
              exact sff_accepts (Classical.not_not.mp extended) single.2
            · rw [if_neg whole]
              simp [mem_visited, accepts]
        · rw [if_neg single]
          simp [mem_visited, accepts]

/-! The condition in the words of the core's documentation. -/

/-- A standard identifier has eleven bits. -/
def WellFormed (id : CanId) : Prop := id &&& canEffFlag = 0 → id &&& 0x1FFFF800 = 0

theorem and_checked {id mask : CanId} (short : id &&& 0x1FFFF800 = 0) (plain : mask &&& canErrFlag = 0) :
    id &&& (mask &&& (canSffMask ||| canEffRtrFlags)) = id &&& mask := by
  have ones : ((canSffMask ||| canEffRtrFlags) ||| 0x1FFFF800) ||| canErrFlag = BitVec.allOnes 32 := by decide
  have middle : id &&& (mask &&& 0x1FFFF800) = 0 := by
    rw [BitVec.and_comm mask, ← BitVec.and_assoc, short]
    simp
  have whole : id &&& (mask &&& (((canSffMask ||| canEffRtrFlags) ||| 0x1FFFF800) ||| canErrFlag)) =
      id &&& mask := by
    rw [ones, BitVec.and_allOnes]
  rw [BitVec.and_or_distrib_left, BitVec.and_or_distrib_left (z := 0x1FFFF800), plain,
    BitVec.and_or_distrib_left, BitVec.and_or_distrib_left, middle] at whole
  simpa using whole

/-- `<received_can_id> & mask == can_id & mask`. -/
theorem wanted_documented {canId mask frame : CanId} (plain : mask &&& canErrFlag = 0)
    (filter : WellFormed canId) (received : WellFormed frame) (data : frame &&& canErrFlag = 0)
    (upright : canId &&& canInvFilter = 0) :
    Wanted canId mask frame ↔ frame &&& mask = canId &&& mask := by
  have wanted : Wanted canId mask frame ↔
      frame &&& checkedMask canId mask = canId &&& checkedMask canId mask := by
    rw [Wanted, if_neg (not_not_intro plain), and_iff_right data, iff_true_right upright]
  rw [wanted, checkedMask]
  split
  · rename_i standard
    obtain ⟨flagged, short⟩ := standard
    by_cases other : frame &&& canEffFlag = 0
    · rw [and_checked (received other) plain, and_checked (filter short) plain]
    · -- The extended frame differs from the filter in the flag, which both masks have.
      have inside : mask &&& canEffFlag = canEffFlag := flag_of_ne flagged
      have inside' : (mask &&& (canSffMask ||| canEffRtrFlags)) &&& canEffFlag = canEffFlag := by
        rw [BitVec.and_assoc]
        exact inside
      constructor
      · intro same
        rw [← @and_of_and frame _ _ inside', same, and_of_and inside'] at other
        exact absurd short other
      · intro same
        rw [← @and_of_and frame _ _ inside, same, and_of_and inside] at other
        exact absurd short other
  · exact Iff.rfl

end MangOH.Can
