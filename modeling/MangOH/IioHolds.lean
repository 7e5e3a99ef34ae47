import MangOH.IioRuns

/-!
The memory of the masks: each update allocates one and gives back the one that is not used.
-/

namespace MangOH.Iio

variable {Buf : Type} {dev : DevSpec} {active : Bitmap} {hooks : Hooks Buf} {st next started : State Buf} {ret : Int}

def blocks (block : Option Nat) : Multiset Nat := block.elim 0 fun block => {block}

theorem free_blocks {heap : Heap} {block : Option Nat} {rest : Multiset Nat} (clean : heap.ledger.misuses = [])
    (held : heap.ledger.held = blocks block + rest) :
    (heap.free block).ledger.misuses = [] ∧ (heap.free block).ledger.held = rest := by
  cases block with
  | none => exact ⟨clean, held.trans (Multiset.zero_add rest)⟩
  | some block =>
      have whole : heap.ledger.held = block ::ₘ rest := held.trans (Multiset.singleton_add block rest)
      rw [Heap.free, Ledger.release_of_held whole]
      exact ⟨clean, rfl⟩

/-- The mask in force is the only one allocated, and one of the driver's is not. -/
structure MaskHeld (dev : DevSpec) (active : Option ScanMask) (masks : Heap) : Prop where
  clean : masks.ledger.misuses = []
  held : masks.ledger.held = blocks (blockOf active)
  lent : dev.availableScanMasks.isSome = true → blockOf active = none

theorem MaskHeld.free {old : Option ScanMask} {masks : Heap} (kept : MaskHeld dev old masks) :
    MaskHeld dev (if dev.availableScanMasks.isSome = true then old else none)
      (if dev.availableScanMasks.isSome = true then masks else masks.free (blockOf old)) := by
  by_cases given : dev.availableScanMasks.isSome = true
  · rw [if_pos given, if_pos given]
    exact kept
  · rw [if_neg given, if_neg given]
    have freed := free_blocks kept.clean (kept.held.trans (Multiset.add_zero _).symm)
    exact ⟨freed.1, freed.2, fun given => absurd given ‹_›⟩

/-- The memory of an update that did not go through is given back. -/
theorem MaskHeld.undo {old : Option ScanMask} {masks : Heap} (kept : MaskHeld dev old masks) :
    MaskHeld dev old (masks.malloc.free (some masks.fresh)) := by
  have freed := @free_blocks masks.malloc (some masks.fresh) masks.ledger.held kept.clean
    (Multiset.singleton_add _ _).symm
  exact ⟨freed.1, freed.2.trans kept.held, kept.lent⟩

/-- A new mask takes the place of the old one. -/
theorem MaskHeld.swap {old : Option ScanMask} {masks : Heap} (kept : MaskHeld dev old masks)
    (own : ¬ dev.availableScanMasks.isSome = true) (mask : Bitmap) :
    MaskHeld dev (some ⟨mask, some masks.fresh⟩) (masks.malloc.free (blockOf old)) := by
  have both : masks.malloc.ledger.held = blocks (blockOf old) + {masks.fresh} := by
    rw [Multiset.add_comm, ← kept.held]
    exact (Multiset.singleton_add _ _).symm
  have freed := @free_blocks masks.malloc _ _ kept.clean both
  exact ⟨freed.1, freed.2, fun given => absurd given own⟩

/-- While the device is registered the mask in force is the one allocated, and no buffer is in use
when it is not. -/
structure MasksKept (dev : DevSpec) (st : State Buf) : Prop where
  clean : st.masks.ledger.misuses = []
  held : st.registered = true → MaskHeld dev st.activeScanMask st.masks
  gone : st.registered = false → st.bufferList = []

/-- Where no buffer replaces another in one call. -/
structure MasksReturned (dev : DevSpec) (st : State Buf) : Prop extends MasksKept dev st where
  bare : st.registered = true → st.bufferList = [] → blockOf st.activeScanMask = none
  none : st.registered = false → st.masks.ledger.held = 0

theorem start_masks (dev : DevSpec) (owned : Multiset Buf) : MasksReturned dev (start owned) :=
  ⟨⟨rfl, fun _ => ⟨rfl, rfl, fun _ => rfl⟩, fun none => by cases none⟩, fun _ _ => rfl, fun none => by cases none⟩

variable [DecidableEq Buf] {insertBuffer removeBuffer : Option Buf} {down group : State Buf} {chosenMask : ScanMask}

theorem chosen_fields (chosen : Chosen dev insertBuffer removeBuffer down group chosenMask) :
    group.masks = down.masks.malloc ∧ group.registered = down.registered := by
  cases chosen with
  | whole own => exact ⟨congrArg Heap.malloc regroup_masks, regroup_registered⟩
  | offered given found => exact ⟨congrArg Heap.malloc regroup_masks, regroup_registered⟩
  | rolledBack given unmatched comes old => exact ⟨congrArg Heap.malloc regroup_masks, regroup_registered⟩

theorem outcome_masks (kept : MaskHeld dev st.activeScanMask st.masks)
    (outcome : Outcome dev hooks insertBuffer removeBuffer st next) :
    MaskHeld dev next.activeScanMask next.masks := by
  have still : ∀ {down : State Buf}, Halted st down → MaskHeld dev down.activeScanMask down.masks := by
    rintro down (rfl | ⟨rfl, -⟩)
    · exact kept
    · exact kept
  cases outcome with
  | stopped halt => exact kept
  | emptied halted empty =>
      rw [freeMask_eq]
      dsimp only
      rw [regroup_activeScanMask, regroup_masks]
      exact (still halted).free
  | starved halted memory =>
      rw [freeMask_eq]
      dsimp only
      rw [regroup_activeScanMask, regroup_masks]
      exact (still halted).free
  | refused halted given comes bare =>
      rename_i down b avMasks
      have undone := (still halted).undo
      rw [bare] at undone
      dsimp only [gather]
      rw [regroup_masks]
      exact undone
  | failed halted filled chosen wound wrong =>
      rename_i down group first chosenMask ret
      obtain ⟨buffers, bytes, mode, rfl⟩ := windUp_frame wound
      rw [forEach_deactivate]
      dsimp only
      rw [(chosen_fields chosen).1, regroup_masks]
      exact (still halted).undo
  | started halted filled chosen wound =>
      rename_i down group first chosenMask
      obtain ⟨buffers, bytes, mode, rfl⟩ := windUp_frame wound
      have old := still halted
      cases chosen with
      | whole own =>
          have none : ¬ dev.availableScanMasks.isSome = true := by
            rw [own]
            exact Bool.false_ne_true
          dsimp only [gather]
          rw [if_neg none, regroup_masks]
          exact old.swap none _
      | offered given found =>
          have some : dev.availableScanMasks.isSome = true := by
            rw [given]
            rfl
          have undone := old.undo
          dsimp only [gather]
          rw [if_pos some, regroup_masks]
          refine ⟨undone.clean, undone.held.trans ?_, fun _ => rfl⟩
          rw [old.lent some]
          rfl
      | rolledBack given unmatched comes active =>
          have some : dev.availableScanMasks.isSome = true := by
            rw [given]
            rfl
          have undone := old.undo
          rw [active] at undone
          dsimp only [gather, State.deactivate]
          rw [if_pos some, regroup_masks]
          exact undone

/-- One buffer comes or one goes. -/
def Single (_ : State Buf) : Event Buf → Prop
  | .updateBuffers _ insertBuffer removeBuffer => insertBuffer = none ∨ removeBuffer = none
  | _ => True

theorem outcome_bare (kept : MaskHeld dev st.activeScanMask st.masks)
    (bare : st.bufferList = [] → blockOf st.activeScanMask = none) (fits : Fits insertBuffer removeBuffer st)
    (single : insertBuffer = none ∨ removeBuffer = none) (outcome : Outcome dev hooks insertBuffer removeBuffer st next)
    (empty : next.bufferList = []) : blockOf next.activeScanMask = none := by
  have held := outcome_masks kept outcome
  by_cases given : dev.availableScanMasks.isSome = true
  · exact held.lent given
  · cases outcome with
    | stopped halt => exact bare empty
    | emptied halted none =>
        rw [freeMask_eq]
        dsimp only
        rw [regroup_activeScanMask, if_neg given]
        rfl
    | starved halted memory =>
        rw [freeMask_eq]
        dsimp only
        rw [regroup_activeScanMask, if_neg given]
        rfl
    | refused halted offered comes none => rfl
    | failed halted filled chosen wound wrong =>
        rename_i down group first chosenMask ret
        have list : down.bufferList = st.bufferList ∧ blockOf down.activeScanMask = blockOf st.activeScanMask := by
          obtain rfl | ⟨rfl, -⟩ := halted
          · exact ⟨rfl, rfl⟩
          · exact ⟨rfl, rfl⟩
        obtain ⟨buffers, bytes, mode, rfl⟩ := windUp_frame wound
        refine list.2.trans (bare ?_)
        rw [← list.1]
        have whole : group.bufferList = insertBuffer.toList ++ remaining removeBuffer down.bufferList := by
          cases chosen with
          | whole own => exact regroup_bufferList
          | offered some found => exact regroup_bufferList
          | rolledBack some unmatched comes old => exact absurd (some ▸ rfl) given
        rw [forEach_deactivate] at empty
        dsimp only at empty
        rw [whole, remaining_inserted (fun b comes member => fits.1 b comes (list.1 ▸ remaining_subset member)) (.inl rfl)]
          at empty
        rcases single with rfl | rfl
        · rw [regroup_bufferList] at filled
          exact absurd empty filled
        · exact empty
    | started halted filled chosen wound =>
        rename_i down group first chosenMask
        obtain ⟨buffers, bytes, mode, rfl⟩ := windUp_frame wound
        cases chosen with
        | whole own => exact absurd empty filled
        | offered some found => exact absurd (some ▸ rfl) given
        | rolledBack some unmatched comes old => exact absurd (some ▸ rfl) given

theorem outcome_registered (outcome : Outcome dev hooks insertBuffer removeBuffer st next) :
    next.registered = st.registered := by
  have still : ∀ {down : State Buf}, Halted st down → down.registered = st.registered := by
    rintro down (rfl | ⟨rfl, -⟩)
    · rfl
    · rfl
  cases outcome with
  | stopped halt => rfl
  | emptied halted empty =>
      rw [freeMask_eq]
      exact regroup_registered.trans (still halted)
  | starved halted memory =>
      rw [freeMask_eq]
      exact regroup_registered.trans (still halted)
  | refused halted given comes bare => exact regroup_registered.trans (still halted)
  | failed halted filled chosen wound wrong =>
      obtain ⟨buffers, bytes, mode, rfl⟩ := windUp_frame wound
      rw [forEach_deactivate]
      exact (chosen_fields chosen).2.trans (still halted)
  | started halted filled chosen wound =>
      obtain ⟨buffers, bytes, mode, rfl⟩ := windUp_frame wound
      exact (chosen_fields chosen).2.trans (still halted)

theorem step_masks (own : Buf) {event : Event Buf} (kept : MasksKept dev st) :
    MasksKept dev (step dev own st event) := by
  refine step_cases kept ⟨kept.clean, kept.held, kept.gone⟩ ?_ ?_ ?_
  · intro hooks insertBuffer removeBuffer next ret _ called done
    have outcome := updateBuffersLocked_outcome done
    have held := outcome_masks (kept.held (lockedCall_some dev called).registered) outcome
    have there := (outcome_registered outcome).trans (lockedCall_some dev called).registered
    exact ⟨held.clean, fun _ => held, fun gone => by cases there.symm.trans gone⟩
  · rintro next ⟨⟨buffers, stored, rfl⟩, -, -⟩
    exact ⟨kept.clean, kept.held, kept.gone⟩
  · rw [disableAllBuffers_eq]
    split
    · exact ⟨kept.clean, fun none => (by cases none), fun _ => ‹_›⟩
    · rename_i some
      refine ⟨?_, fun none => (by cases none), fun _ => rfl⟩
      have registered : st.registered = true := by
        by_contra gone
        exact some (kept.gone (Bool.eq_false_iff.mpr gone))
      exact (kept.held registered).free.clean

theorem lockedCall_single {own : Buf} {event : Event Buf}
    (called : lockedCall own st event = some (hooks, insertBuffer, removeBuffer)) (single : Single st event) :
    insertBuffer = none ∨ removeBuffer = none := by
  cases event with
  | updateBuffers answers comes goes =>
      rw [lockedCall] at called
      split at called
      · cases called
      · cases called
        exact single.imp (fun none => by rw [none]; rfl) fun none => by rw [none]; rfl
  | storeEnable answers requested =>
      rw [lockedCall] at called
      split at called
      · cases called
      · split at called
        · cases called
          exact .inr rfl
        · cases called
          exact .inl rfl
  | _ => cases called

theorem step_single (own : Buf) {event : Event Buf} (kept : MasksReturned dev st) (single : Single st event) :
    MasksReturned dev (step dev own st event) := by
  refine ⟨step_masks own kept.toMasksKept, ?_, ?_⟩
  · refine @step_cases _ _ _ _ _ _
      (fun st => st.registered = true → st.bufferList = [] → blockOf st.activeScanMask = none)
      kept.bare kept.bare ?_ ?_ ?_
    · intro hooks insertBuffer removeBuffer next ret _ called done _ empty
      have updates := lockedCall_some dev called
      refine outcome_bare (kept.held updates.registered) (kept.bare updates.registered) updates.fits ?_
        (updateBuffersLocked_outcome done) empty
      exact lockedCall_single called single
    · rintro next ⟨⟨buffers, stored, rfl⟩, -, -⟩
      exact kept.bare
    · exact fun gone => by cases gone
  · refine @step_cases _ _ _ _ _ _ (fun st => st.registered = false → st.masks.ledger.held = 0)
      kept.none kept.none ?_ ?_ ?_
    · intro hooks insertBuffer removeBuffer next ret _ called done gone
      have there := (outcome_registered (updateBuffersLocked_outcome done)).trans (lockedCall_some dev called).registered
      cases there.symm.trans gone
    · rintro next ⟨⟨buffers, stored, rfl⟩, -, -⟩
      exact kept.none
    · intro _
      rw [disableAllBuffers_eq]
      cases there : st.registered with
      | false =>
          rw [if_pos (kept.gone there)]
          exact kept.none there
      | true =>
          by_cases empty : st.bufferList = []
          · rw [if_pos empty]
            refine (kept.held there).held.trans ?_
            rw [kept.bare there empty]
            rfl
          · rw [if_neg empty]
            have freed := (kept.held there).free
            refine freed.held.trans ?_
            by_cases given : dev.availableScanMasks.isSome = true
            · rw [if_pos given, (kept.held there).lent given]
              rfl
            · rw [if_neg given]
              rfl

/-- No mask is freed twice, whatever the driver answers and wherever memory runs out, and the one in
force is the only one held. Where a buffer never replaces another in one call, none is left when the
device is gone. -/
theorem masks_settled (dev : DevSpec) (own : Buf) (owned : Multiset Buf) (events : List (Event Buf)) :
    let st := Trace.run (step dev own) (start owned) events
    st.masks.ledger.misuses = [] ∧
      (st.registered = true → st.masks.ledger.held = blocks (blockOf st.activeScanMask)) ∧
        (Trace.Along (step dev own) Single (start owned) events → st.registered = false →
          st.masks.ledger.held = 0) := by
  intro st
  have every : Trace.Along (step dev own) (fun _ _ => True) (start owned) events :=
    @Trace.along_always _ _ (step dev own) _ (fun _ => True) (fun _ => trivial) (fun _ => trivial) events _ trivial
  have kept : MasksKept dev st :=
    @Trace.along_invariant _ _ (step dev own) _ (MasksKept dev) (fun kept _ => step_masks own kept) events _
      (start_masks dev owned).toMasksKept every
  refine ⟨kept.clean, fun there => (kept.held there).held, fun single gone => ?_⟩
  have returned : MasksReturned dev st :=
    @Trace.along_invariant _ _ (step dev own) Single (MasksReturned dev) (step_single own) events _
      (start_masks dev owned) single
  exact returned.none gone

/-- A buffer that comes, and the device that goes. -/
theorem masks_settled_gone :
    (Trace.run (step { twoAxes with availableScanMasks := none } ()) (start {()})
      [.scanElStore true 1 true, .storeEnable willing true, .unregister]).masks.ledger.held = 0 :=
  (masks_settled { twoAxes with availableScanMasks := none } () {()}
    [.scanElStore true 1 true, .storeEnable willing true, .unregister]).2.2 ⟨trivial, trivial, trivial, trivial⟩ rfl

end MangOH.Iio
