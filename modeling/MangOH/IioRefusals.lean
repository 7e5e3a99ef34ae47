import MangOH.IioHolds

/-!
What a refusal does. A buffer that the driver cannot serve is taken out again and the sensor is
started for the others; where that fails too, the buffer is given back a second time, and where there
are no others the sensor samples for none. A removal that leaves no channel is taken for a refusal.
-/

namespace MangOH.Iio

variable {Buf : Type} {dev : DevSpec} {size : Nat → Nat} {active : Bitmap} {hooks : Hooks Buf}
  {st next started down : State Buf} {ret : Int} {b : Buf} {owned : Multiset Buf}

/-- Each buffer in use is held once more than by those that made it. -/
structure Balanced (owned : Multiset Buf) (st : State Buf) : Prop where
  clean : st.refs.misuses = []
  held : st.refs.held = owned + ↑st.bufferList

theorem balanced_activate (balanced : Balanced owned st) : Balanced owned (st.activate b) := by
  refine ⟨balanced.clean, ?_⟩
  show b ::ₘ st.refs.held = owned + ↑(b :: st.bufferList)
  rw [balanced.held, ← Multiset.cons_coe, Multiset.add_cons]

theorem balanced_gather (balanced : Balanced owned st) : Balanced owned (gather st) :=
  ⟨balanced.clean, balanced.held⟩

theorem halted_refs (halted : Halted st down) : down.refs = st.refs ∧ down.bufferList = st.bufferList := by
  obtain rfl | ⟨rfl, -⟩ := halted
  · exact ⟨rfl, rfl⟩
  · exact ⟨rfl, rfl⟩

/-- The driver and the buffers let a start go through. -/
structure Willing (dev : DevSpec) (hooks : Hooks Buf) (bufferList : List Buf) : Prop where
  preenable : hooks.preenable = 0
  requestUpdate : ∀ b ∈ bufferList, hooks.requestUpdate b = 0
  updateScanMode : 0 ≤ hooks.updateScanMode
  mode : if dev.triggered = true then hooks.trig = true else dev.hardware = true
  postenable : hooks.postenable = 0

theorem chooseMode_iff : (∃ mode, chooseMode dev hooks = .ok mode) ↔
    if dev.triggered = true then hooks.trig = true else dev.hardware = true := by
  rw [chooseMode]
  split
  · split
    · exact ⟨fun _ => ‹_›, fun _ => ⟨_, rfl⟩⟩
    · refine ⟨?_, fun some => absurd some ‹_›⟩
      rintro ⟨_, wrong⟩
      cases wrong
  · split
    · exact ⟨fun _ => ‹_›, fun _ => ⟨_, rfl⟩⟩
    · refine ⟨?_, fun some => absurd some ‹_›⟩
      rintro ⟨_, wrong⟩
      cases wrong

theorem windDown_fields (hooks : Hooks Buf) (st : State Buf) :
    ∃ mode, (windDown hooks st).1 = { st with currentmode := mode } := by
  rw [windDown]
  split
  · exact ⟨_, rfl⟩
  · split
    · exact ⟨_, rfl⟩
    · exact ⟨_, rfl⟩

theorem bitmapEmpty_iff {mask : Bitmap} {masklength : Nat} :
    bitmapEmpty masklength mask = true ↔ ∀ si < masklength, mask si = false := by
  rw [bitmapEmpty, List.all_eq_true]
  constructor
  · intro all si inside
    exact Bool.not_eq_true' _ ▸ all si (List.mem_range.mpr inside)
  · intro all si member
    rw [all si (List.mem_range.mp member)]
    rfl

theorem compound_empty_iff {buffers : Buf → Buffer} {bufferList : List Buf} :
    bitmapEmpty dev.masklength (compoundMask buffers bufferList) = true ↔
      ∀ b ∈ bufferList, bitmapEmpty dev.masklength (buffers b).scanMask = true := by
  rw [bitmapEmpty_iff]
  constructor
  · intro none b member
    rw [bitmapEmpty_iff]
    exact fun si inside => Bool.eq_false_iff.mpr (List.any_eq_false.mp (none si inside) b member)
  · intro each si inside
    refine List.any_eq_false.mpr fun b member => ?_
    rw [bitmapEmpty_iff.mp (each b member) si inside]
    exact Bool.false_ne_true

/-- Fewer buffers than those in use are served as they were, unless they want no channel. -/
theorem unmatched_iff (sound : Sound dev st) {avMasks : List Bitmap} (given : dev.availableScanMasks = some avMasks)
    {bufferList : List Buf} (inside : bufferList ⊆ st.bufferList) (some : bufferList ≠ []) :
    scanMaskMatch avMasks dev.masklength (compoundMask st.buffers bufferList) = none ↔
      ∀ b ∈ bufferList, bitmapEmpty dev.masklength (st.buffers b).scanMask = true := by
  rw [← compound_empty_iff, scanMaskMatch]
  split
  · exact ⟨fun _ => ‹_›, fun _ => rfl⟩
  · rename_i filled
    refine ⟨fun none => ?_, fun empty => absurd empty filled⟩
    obtain ⟨b, member⟩ := List.exists_mem_of_ne_nil _ some
    obtain ⟨active, found, covered⟩ := sound.covered (List.ne_nil_of_mem (inside member))
    refine absurd ?_ (List.find?_eq_none.mp none active.mask (sound.offered avMasks given active found))
    refine List.all_eq_true.mpr fun si small => ?_
    cases wanted : compoundMask st.buffers bufferList si with
    | false => rfl
    | true =>
        obtain ⟨other, among, asks⟩ := List.any_eq_true.mp wanted
        exact covered other (inside among) si (List.mem_range.mp small) asks

variable [DecidableEq Buf] {insertBuffer removeBuffer : Option Buf} {group : State Buf} {chosenMask : ScanMask}

theorem requestUpdates_iff {bufferList : List Buf} : ∀ {before after : Buf → Buffer},
    requestUpdates dev hooks bufferList before = some (after, ret) →
      (ret = 0 ↔ ∀ b ∈ bufferList, hooks.requestUpdate b = 0) := by
  induction bufferList with
  | nil =>
      intro before after done
      cases done
      exact ⟨fun _ b member => absurd member List.not_mem_nil, fun _ => rfl⟩
  | cons b rest ih =>
      intro before after done
      rw [requestUpdates, Option.bind_eq_bind, Option.bind_eq_some_iff] at done
      obtain ⟨bytes, -, done⟩ := done
      rw [List.forall_mem_cons]
      dsimp only at done
      split at done
      · rename_i refused
        cases done
        exact ⟨fun none => absurd none refused, fun all => all.1⟩
      · rename_i taken
        rw [ih done, and_iff_right (not_not.mp taken)]

theorem windUp_iff (wound : windUp dev hooks active st = some (started, ret)) :
    ret = 0 ↔ Willing dev hooks st.bufferList := by
  rw [windUp, Option.bind_eq_bind, Option.bind_eq_some_iff] at wound
  obtain ⟨first, -, wound⟩ := wound
  split at wound
  · rename_i refused
    cases wound
    exact ⟨fun none => absurd none refused, fun willing => willing.preenable⟩
  · rename_i enabled
    rw [Option.bind_eq_bind, Option.bind_eq_some_iff] at wound
    obtain ⟨bytes, -, wound⟩ := wound
    rw [Option.bind_eq_bind, Option.bind_eq_some_iff] at wound
    obtain ⟨⟨second, code⟩, done, wound⟩ := wound
    have updates := requestUpdates_iff done
    dsimp only at wound
    split at wound
    · rename_i refused
      cases wound
      exact ⟨fun none => absurd none refused, fun willing => updates.mpr willing.requestUpdate⟩
    · rename_i updated
      split at wound
      · rename_i refused
        cases wound
        exact ⟨fun none => absurd none (Int.ne_of_lt refused),
          fun willing => absurd willing.updateScanMode (Int.not_le.mpr refused)⟩
      · rename_i scanned
        have chosen := @chooseMode_iff _ dev hooks
        split at wound
        · rename_i error
          cases wound
          refine ⟨fun none => absurd none (chooseMode_failed error), fun willing => ?_⟩
          obtain ⟨mode, found⟩ := chosen.mpr willing.mode
          cases error.symm.trans found
        · rename_i mode found
          split at wound
          · rename_i refused
            cases wound
            exact ⟨fun none => absurd none refused, fun willing => willing.postenable⟩
          · rename_i posted
            cases wound
            exact ⟨fun _ => ⟨not_not.mp enabled, updates.mp (not_not.mp updated), Int.not_lt.mp scanned,
              chosen.mp ⟨mode, found⟩, not_not.mp posted⟩, fun _ => rfl⟩

/-- The sensor was stopped, and no mask of the driver has what the buffers want with the new one. -/
structure Refused (dev : DevSpec) (hooks : Hooks Buf) (b : Buf) (removeBuffer : Option Buf) (st : State Buf) :
    Prop where
  stopped : (windDown hooks st).2 = 0
  offered : ∃ avMasks, dev.availableScanMasks = some avMasks ∧
    scanMaskMatch avMasks dev.masklength
      (compoundMask st.buffers (b :: remaining removeBuffer st.bufferList)) = none

/-- What is started again has every buffer, unless one was refused. -/
theorem chosen_again (stopped : (windDown hooks st).2 = 0) (halted : Halted st down)
    (chosen : Chosen dev insertBuffer removeBuffer down group chosenMask) :
    group = gather (regroup dev insertBuffer removeBuffer down) ∨
      st.activeScanMask ≠ none ∧ ∃ b, insertBuffer = some b ∧ Refused dev hooks b removeBuffer st ∧
        group = (gather (regroup dev (some b) removeBuffer down)).deactivate b := by
  cases chosen with
  | whole own => exact .inl rfl
  | offered given found => exact .inl rfl
  | rolledBack given unmatched comes old =>
      rename_i avMasks b
      subst comes
      rw [regroup_buffers, regroup_bufferList] at unmatched
      have same : down.activeScanMask = st.activeScanMask ∧ compoundMask down.buffers = compoundMask st.buffers ∧
          down.bufferList = st.bufferList := by
        obtain rfl | ⟨rfl, -⟩ := halted
        · exact ⟨rfl, rfl, rfl⟩
        · exact ⟨rfl, rfl, rfl⟩
      obtain ⟨mask, buffers, list⟩ := same
      rw [mask] at old
      rw [buffers, list] at unmatched
      exact .inr ⟨fun none => (by cases none.symm.trans old), b, rfl, ⟨stopped, avMasks, given, unmatched⟩, rfl⟩

theorem refused_restart {old : ScanMask} (refused : Refused dev hooks b removeBuffer st) (memory : hooks.memory = true)
    (active : st.activeScanMask = some old) : ∃ mode,
      (mode = .direct ∨ mode = st.currentmode ∧ st.bufferList = []) ∧
      updateBuffersLocked dev hooks (some b) removeBuffer st =
        restart dev hooks (some b) (some old) st.masks.fresh old (-einval)
          ((gather (regroup dev (some b) removeBuffer { st with currentmode := mode })).deactivate b) := by
  obtain ⟨avMasks, given, unmatched⟩ := refused.offered
  have halted := windDown_halted refused.stopped
  obtain ⟨mode, fields⟩ := windDown_fields hooks st
  refine ⟨mode, ?_, ?_⟩
  · rcases halted with same | ⟨same, empty⟩
    · exact .inl (congrArg State.currentmode (fields.symm.trans same))
    · exact .inr ⟨congrArg State.currentmode (fields.symm.trans same), empty⟩
  · have list : (regroup dev (some b) removeBuffer { st with currentmode := mode }).bufferList ≠ [] := by
      rw [regroup_bufferList]
      exact List.cons_ne_nil _ _
    have wanted : compoundMask (regroup dev (some b) removeBuffer { st with currentmode := mode }).buffers
        (regroup dev (some b) removeBuffer { st with currentmode := mode }).bufferList =
          compoundMask st.buffers (b :: remaining removeBuffer st.bufferList) := by
      rw [regroup_buffers, regroup_bufferList]
      rfl
    have fresh : (regroup dev (some b) removeBuffer { st with currentmode := mode }).masks = st.masks :=
      regroup_masks
    rw [updateBuffersLocked]
    dsimp only
    rw [if_neg (not_not_intro refused.stopped), fields]
    dsimp only
    rw [if_neg list, if_neg (by rw [memory]; exact Bool.noConfusion), given]
    dsimp only
    rw [wanted, unmatched]
    dsimp only
    rw [fresh, active]

/-! References. -/

/-- A buffer is held less often than it is needed, or was given back once too often. -/
def Short (owned : Multiset Buf) (st : State Buf) : Prop :=
  st.refs.misuses ≠ [] ∨ ∃ b, st.refs.held.count b < (owned + ↑st.bufferList).count b

theorem Balanced.not_short (balanced : Balanced owned st) : ¬ Short owned st := by
  rintro (misused | ⟨b, less⟩)
  · exact misused balanced.clean
  · rw [balanced.held] at less
    exact Nat.lt_irrefl _ less

theorem short_activate (short : Short owned st) : Short owned (st.activate b) := by
  obtain misused | ⟨other, less⟩ := short
  · exact .inl misused
  · refine .inr ⟨other, ?_⟩
    show (b ::ₘ st.refs.held).count other < (owned + ↑(b :: st.bufferList)).count other
    rw [← Multiset.cons_coe, Multiset.add_cons, Multiset.count_cons, Multiset.count_cons]
    exact Nat.add_lt_add_right less _

theorem balanced_deactivate (balanced : Balanced owned st) (member : b ∈ st.bufferList) :
    Balanced owned (st.deactivate b) := by
  have held : st.refs.held = b ::ₘ (owned + ↑(st.bufferList.erase b)) := by
    rw [balanced.held, ← Multiset.add_cons, Multiset.cons_coe]
    exact congrArg (owned + ·) (Multiset.coe_eq_coe.mpr (List.perm_cons_erase member))
  rw [State.deactivate, Ledger.release_of_held held]
  exact ⟨balanced.clean, rfl⟩

theorem release_misused {refs : Ledger Buf} (misused : refs.misuses ≠ []) : (refs.release b).misuses ≠ [] :=
  fun clean => misused (List.suffix_nil.mp (clean ▸ Ledger.misuses_release))

theorem short_deactivate (short : Short owned st) : Short owned (st.deactivate b) := by
  obtain misused | ⟨other, less⟩ := short
  · exact .inl (release_misused misused)
  · by_cases held : b ∈ st.refs.held
    · refine .inr ⟨other, ?_⟩
      show (st.refs.release b).held.count other < (owned + ↑(st.bufferList.erase b)).count other
      rw [Multiset.count_add, Multiset.coe_count] at less ⊢
      by_cases same : other = b
      · subst same
        rw [Ledger.count_release_self, List.count_erase_self]
        have positive := Multiset.count_pos.mpr held
        omega
      · rw [Ledger.count_release same, List.count_erase_of_ne same]
        exact less
    · refine .inl ?_
      show (st.refs.release b).misuses ≠ []
      rw [Ledger.release_absent held]
      exact List.cons_ne_nil _ _

/-- Given back once more, a buffer that is not in use. -/
theorem short_again (balanced : Balanced owned st) (absent : b ∉ st.bufferList) : Short owned (st.deactivate b) := by
  by_cases held : b ∈ st.refs.held
  · refine .inr ⟨b, ?_⟩
    show (st.refs.release b).held.count b < (owned + ↑(st.bufferList.erase b)).count b
    have positive := Multiset.count_pos.mpr held
    rw [Ledger.count_release_self, List.erase_of_not_mem absent, ← balanced.held]
    omega
  · refine .inl ?_
    show (st.refs.release b).misuses ≠ []
    rw [Ledger.release_absent held]
    exact List.cons_ne_nil _ _

theorem short_forEach {call : Buf → State Buf → State Buf} (keeps : ∀ {b st}, Short owned st → Short owned (call b st))
    (o : Option Buf) (short : Short owned st) : Short owned (forEach call o st) := by
  cases o with
  | none => exact short
  | some b => exact keeps short

theorem short_regroup (short : Short owned st) : Short owned (regroup dev insertBuffer removeBuffer st) := by
  rw [regroup]
  refine short_forEach short_activate _ (short_forEach short_deactivate _ ?_)
  split
  · exact short
  · exact short

theorem balanced_regroup (balanced : Balanced owned st) (fits : Fits insertBuffer removeBuffer st) :
    Balanced owned (regroup dev insertBuffer removeBuffer st) := by
  have first : Balanced owned (if dev.availableScanMasks.isSome = true then st else { st with activeScanMask := none }) := by
    split
    · exact balanced
    · exact ⟨balanced.clean, balanced.held⟩
  have list : (if dev.availableScanMasks.isSome = true then st else { st with activeScanMask := none }).bufferList =
      st.bufferList := by
    split <;> rfl
  have second : Balanced owned (forEach State.deactivate removeBuffer
      (if dev.availableScanMasks.isSome = true then st else { st with activeScanMask := none })) := by
    cases removeBuffer with
    | none => exact first
    | some b =>
        refine balanced_deactivate first ?_
        rw [list]
        exact fits.2 b rfl
  rw [regroup]
  cases insertBuffer with
  | none => exact second
  | some b => exact balanced_activate second

/-- What is short stays so. -/
theorem outcome_short (short : Short owned st) (outcome : Outcome dev hooks insertBuffer removeBuffer st next) :
    Short owned next := by
  have grouped : ∀ {down}, Halted st down → Short owned (regroup dev insertBuffer removeBuffer down) := by
    intro down halted
    have still : Short owned down := by
      rw [Short, (halted_refs halted).1, (halted_refs halted).2]
      exact short
    exact short_regroup still
  have chosen_short : ∀ {down group : State Buf} {chosenMask}, Halted st down →
      Chosen dev insertBuffer removeBuffer down group chosenMask → Short owned group := by
    intro down group chosenMask halted chosen
    have short := grouped halted
    cases chosen with
    | whole own => exact short
    | offered given found => exact short
    | rolledBack given unmatched comes old => exact @short_deactivate _ (gather _) _ _ _ short
  cases outcome with
  | stopped halt => exact short
  | emptied halted empty =>
      have short := grouped halted
      rw [freeMask_eq]
      exact short
  | starved halted memory =>
      have short := grouped halted
      rw [freeMask_eq]
      exact short
  | refused halted given comes bare =>
      rename_i down b avMasks
      exact @short_deactivate _ (gather (regroup dev insertBuffer removeBuffer down)) _ _ _ (grouped halted)
  | failed halted filled chosen wound wrong =>
      rename_i down group started chosenMask ret
      have short := chosen_short halted chosen
      obtain ⟨buffers, bytes, mode, rfl⟩ := windUp_frame wound
      exact short_forEach short_deactivate insertBuffer short
  | started halted filled chosen wound =>
      have short := chosen_short halted chosen
      obtain ⟨buffers, bytes, mode, rfl⟩ := windUp_frame wound
      exact short

theorem balanced_undo {list : List Buf} (balanced : Balanced owned st)
    (whole : st.bufferList = insertBuffer.toList ++ list) :
    Balanced owned (forEach State.deactivate insertBuffer st) := by
  cases insertBuffer with
  | none => exact balanced
  | some b =>
      refine balanced_deactivate balanced ?_
      rw [whole]
      exact List.mem_cons_self ..

/-- A buffer that comes is refused, and the others cannot be started either. -/
def Doubled (dev : DevSpec) (hooks : Hooks Buf) (insertBuffer removeBuffer : Option Buf) (st : State Buf) : Prop :=
  st.activeScanMask ≠ none ∧ ∃ b, insertBuffer = some b ∧ Refused dev hooks b removeBuffer st ∧
    ¬ Willing dev hooks (remaining removeBuffer st.bufferList)

theorem balanced_rolledBack (balanced : Balanced owned down) (fits : Fits (some b) removeBuffer down) :
    Balanced owned ((gather (regroup dev (some b) removeBuffer down)).deactivate b) := by
  refine balanced_deactivate (balanced_gather (balanced_regroup balanced fits)) ?_
  dsimp only [gather]
  rw [regroup_bufferList]
  exact List.mem_cons_self ..

theorem doubled_short (balanced : Balanced owned st) (fits : Fits insertBuffer removeBuffer st)
    (memory : hooks.memory = true) (doubled : Doubled dev hooks insertBuffer removeBuffer st)
    (done : updateBuffersLocked dev hooks insertBuffer removeBuffer st = some (next, ret)) : Short owned next := by
  obtain ⟨some, b, rfl, refused, unwilling⟩ := doubled
  obtain ⟨old, active⟩ := Option.ne_none_iff_exists'.mp some
  obtain ⟨mode, -, same⟩ := refused_restart refused memory active
  rw [same, restart, Option.bind_eq_bind, Option.bind_eq_some_iff] at done
  obtain ⟨⟨started, code⟩, wound, rest⟩ := done
  have list := @rolledBack_list _ dev { st with currentmode := mode } removeBuffer _ b
  have wrong : code ≠ 0 := by
    intro good
    have willing := (windUp_iff wound).mp good
    dsimp only at willing
    rw [list] at willing
    exact unwilling willing
  dsimp only at rest
  rw [if_pos wrong] at rest
  cases rest
  have back : Balanced owned ((gather (regroup dev (.some b) removeBuffer { st with currentmode := mode })).deactivate b) :=
    @balanced_rolledBack _ dev _ _ owned _ _ ⟨balanced.clean, balanced.held⟩ fits
  have absent : b ∉ ((gather (regroup dev (.some b) removeBuffer { st with currentmode := mode })).deactivate b).bufferList := by
    rw [list]
    exact fun member => fits.1 b rfl (remaining_subset member)
  have short := short_again back absent
  obtain ⟨buffers, bytes, mode, rfl⟩ := windUp_frame wound
  exact short

theorem undoubled_balanced (balanced : Balanced owned st) (fits : Fits insertBuffer removeBuffer st)
    (once : ¬ Doubled dev hooks insertBuffer removeBuffer st)
    (done : updateBuffersLocked dev hooks insertBuffer removeBuffer st = some (next, ret)) : Balanced owned next := by
  have still : ∀ {down}, Halted st down → Balanced owned down := by
    rintro down (rfl | ⟨rfl, -⟩)
    · exact ⟨balanced.clean, balanced.held⟩
    · exact balanced
  have grouped : ∀ {down}, Halted st down → Balanced owned (regroup dev insertBuffer removeBuffer down) :=
    fun halted => balanced_regroup (still halted) (fits.halted halted)
  by_cases stopped : (windDown hooks st).2 = 0
  · have outcome := updateBuffersLocked_outcome done
    cases outcome with
    | stopped halt => exact ⟨balanced.clean, balanced.held⟩
    | emptied halted empty =>
        have kept := grouped halted
        rw [freeMask_eq]
        exact ⟨kept.clean, kept.held⟩
    | starved halted memory =>
        have kept := grouped halted
        rw [freeMask_eq]
        exact ⟨kept.clean, kept.held⟩
    | refused halted given comes bare =>
        subst comes
        have kept := @balanced_rolledBack _ dev _ _ owned _ _ (still halted) (fits.halted halted)
        exact ⟨kept.clean, kept.held⟩
    | failed halted filled chosen wound wrong =>
        rename_i down group started chosenMask ret
        rcases chosen_again stopped halted chosen with rfl | ⟨some, b, rfl, refused, rfl⟩
        · have list : (gather (regroup dev insertBuffer removeBuffer down)).bufferList =
              insertBuffer.toList ++ remaining removeBuffer down.bufferList := regroup_bufferList
          have whole := balanced_undo (balanced_gather (grouped halted)) list
          obtain ⟨buffers, bytes, mode, rfl⟩ := windUp_frame wound
          rw [forEach_deactivate] at whole ⊢
          exact ⟨whole.clean, whole.held⟩
        · refine absurd ⟨some, b, rfl, refused, fun willing => wrong ((windUp_iff wound).mpr ?_)⟩ once
          dsimp only
          rw [rolledBack_list, (halted_refs halted).2]
          exact willing
    | started halted filled chosen wound =>
        rename_i down group started chosenMask
        have group_balanced : Balanced owned group := by
          rcases chosen_again stopped halted chosen with rfl | ⟨-, b, rfl, -, rfl⟩
          · exact balanced_gather (grouped halted)
          · exact balanced_rolledBack (still halted) (fits.halted halted)
        obtain ⟨buffers, bytes, mode, rfl⟩ := windUp_frame wound
        exact ⟨group_balanced.clean, group_balanced.held⟩
  · rw [updateBuffersLocked] at done
    dsimp only at done
    rw [if_pos stopped] at done
    cases done
    obtain ⟨mode, fields⟩ := windDown_fields hooks st
    rw [fields]
    exact ⟨balanced.clean, balanced.held⟩

/-! A removal that leaves no channel. -/

theorem restart_some (described : Described dev size) (sound : Sound dev down)
    (chosen : Chosen dev insertBuffer removeBuffer down group chosenMask) (hooks : Hooks Buf)
    (old : Option ScanMask) (compound : Nat) (success : Int) :
    restart dev hooks insertBuffer old compound chosenMask success group ≠ none := by
  have grouped := chosen_grouped sound chosen
  obtain ⟨buffers, bytes, mode, code, done, -⟩ :=
    windUp_covered described hooks { group with activeScanMask := some chosenMask } grouped.covered
  rw [restart, done]
  simp only [Option.bind_eq_bind, Option.bind_some]
  split
  · exact Option.some_ne_none _
  · split
    · exact Option.some_ne_none _
    · exact Option.some_ne_none _

/-- The kernel follows a null pointer just where a buffer goes, the driver has masks of its own, and
the buffers that stay want no channel. -/
theorem locked_none_iff (described : Described dev size) (sound : Sound dev st) (memory : hooks.memory = true) :
    updateBuffersLocked dev hooks insertBuffer removeBuffer st = none ↔
      insertBuffer = none ∧ (windDown hooks st).2 = 0 ∧ dev.availableScanMasks ≠ none ∧
        remaining removeBuffer st.bufferList ≠ [] ∧
          ∀ b ∈ remaining removeBuffer st.bufferList, bitmapEmpty dev.masklength (st.buffers b).scanMask = true := by
  by_cases stopped : (windDown hooks st).2 = 0
  · have halted := windDown_halted stopped
    obtain ⟨mode, fields⟩ := windDown_fields hooks st
    rw [fields] at halted
    have down_sound := sound.halted halted
    have wanted : compoundMask (regroup dev none removeBuffer { st with currentmode := mode }).buffers
        (regroup dev none removeBuffer { st with currentmode := mode }).bufferList =
          compoundMask st.buffers (remaining removeBuffer st.bufferList) := by
      rw [regroup_buffers, regroup_bufferList]
      rfl
    have list : (regroup dev none removeBuffer { st with currentmode := mode }).bufferList =
        remaining removeBuffer st.bufferList := regroup_bufferList
    rw [updateBuffersLocked]
    dsimp only
    rw [if_neg (not_not_intro stopped), fields]
    constructor
    · intro crashed
      split at crashed
      · cases crashed
      · rename_i filled
        split at crashed
        · cases crashed
        · split at crashed
          · rename_i own
            exact absurd crashed (restart_some described down_sound (.whole own) _ _ _ _)
          · rename_i avMasks given
            split at crashed
            · rename_i mask found
              exact absurd crashed (restart_some described down_sound (.offered given found) _ _ _ _)
            · rename_i unmatched
              split at crashed
              · rw [wanted] at unmatched
                rw [list] at filled
                refine ⟨rfl, stopped, fun none => (by cases given.symm.trans none), filled, ?_⟩
                exact (unmatched_iff sound given remaining_subset filled).mp unmatched
              · rename_i b
                split at crashed
                · rename_i active old
                  exact absurd crashed (restart_some described down_sound (.rolledBack given unmatched rfl old) _ _ _ _)
                · cases crashed
    · rintro ⟨rfl, -, offered, filled, bare⟩
      obtain ⟨avMasks, given⟩ := Option.ne_none_iff_exists'.mp offered
      have unmatched := (unmatched_iff sound given remaining_subset filled).mpr bare
      rw [list, if_neg filled, if_neg (by rw [memory]; exact Bool.noConfusion), given]
      dsimp only
      rw [← list, wanted, unmatched]
  · rw [updateBuffersLocked]
    dsimp only
    rw [if_pos stopped]
    exact ⟨fun none => (by cases none), fun all => absurd all.2.1 stopped⟩

/-! Runs. -/

variable {own : Buf} {event : Event Buf} {events : List (Event Buf)}

theorem run_sound (described : Described dev size) (own : Buf) (owned : Multiset Buf)
    (memory : Trace.Along (step dev own) Provided (start owned) events) :
    Sound dev (Trace.run (step dev own) (start owned) events) :=
  @Trace.along_invariant _ _ (step dev own) Provided (Sound dev)
    (fun sound memory => step_sound described own sound memory) _ _ (start_sound dev owned) memory

/-- A buffer that wants the time alone, and another one. -/
def stampedEvents : List (Event Bool) :=
  [.scanElTsStore true, .prepare true (fun si => si < 2) false, .updateBuffers willing (some true) none,
    .storeEnable willing true]

theorem balanced_disable {list : List Buf} : ∀ {st : State Buf}, st.bufferList = list → Balanced owned st →
    Balanced owned (list.foldl (fun st b => st.deactivate b) st) := by
  induction list with
  | nil => exact fun _ balanced => balanced
  | cons b rest ih =>
      intro st whole balanced
      refine ih ?_ (balanced_deactivate balanced ?_)
      · show st.bufferList.erase b = rest
        rw [whole]
        exact List.erase_cons_head ..
      · rw [whole]
        exact List.mem_cons_self ..

theorem short_disable (list : List Buf) : ∀ {st : State Buf}, Short owned st →
    Short owned (list.foldl (fun st b => st.deactivate b) st) := by
  induction list with
  | nil => exact fun short => short
  | cons b rest ih => exact fun short => ih (short_deactivate short)

theorem step_short (short : Short owned st) : Short owned (step dev own st event) := by
  refine step_cases short short ?_ ?_ ?_
  · exact fun _ _ done => outcome_short short (updateBuffersLocked_outcome done)
  · rintro next ⟨⟨buffers, stored, rfl⟩, -, -⟩
    exact short
  · rw [disableAllBuffers]
    split
    · exact short
    · rw [freeMask_eq]
      exact @short_disable _ owned _ st.bufferList st short

/-- No update gives a buffer back twice. -/
def Once (dev : DevSpec) (own : Buf) (st : State Buf) (event : Event Buf) : Prop :=
  st.oops = false → ∀ hooks insertBuffer removeBuffer,
    lockedCall own st event = some (hooks, insertBuffer, removeBuffer) →
      ¬ Doubled dev hooks insertBuffer removeBuffer st

theorem step_balanced (balanced : Balanced owned st) (once : Once dev own st event) :
    Balanced owned (step dev own st event) := by
  refine step_cases balanced ⟨balanced.clean, balanced.held⟩ ?_ ?_ ?_
  · intro hooks insertBuffer removeBuffer next ret fine called done
    exact undoubled_balanced balanced (lockedCall_some dev called).fits (once fine _ _ _ called) done
  · rintro next ⟨⟨buffers, stored, rfl⟩, -, -⟩
    exact ⟨balanced.clean, balanced.held⟩
  · rw [disableAllBuffers]
    split
    · exact ⟨balanced.clean, balanced.held⟩
    · have kept := @balanced_disable _ owned _ st.bufferList st rfl balanced
      rw [freeMask_eq]
      exact ⟨kept.clean, kept.held⟩

theorem step_twice (described : Described dev size) (sound : Sound dev st) (memory : Provided st event)
    (balanced : Balanced owned st) (twice : ¬ Once dev own st event) : Short owned (step dev own st event) := by
  obtain ⟨fine, rest⟩ := Classical.not_imp.mp twice
  obtain ⟨hooks, rest⟩ := not_forall.mp rest
  obtain ⟨insertBuffer, rest⟩ := not_forall.mp rest
  obtain ⟨removeBuffer, rest⟩ := not_forall.mp rest
  obtain ⟨called, doubled⟩ := Classical.not_imp.mp rest
  have doubled := not_not.mp doubled
  have updates := lockedCall_some dev called
  have there := (updates.memory memory).1
  obtain ⟨result, done⟩ : ∃ result, updateBuffersLocked dev hooks insertBuffer removeBuffer st = some result := by
    refine Option.ne_none_iff_exists'.mp fun crashed => ?_
    obtain ⟨-, b, comes, -⟩ := doubled
    cases ((locked_none_iff described sound there).mp crashed).1.symm.trans comes
  rw [step, if_neg (by rw [fine]; exact Bool.false_ne_true), updates.act, done]
  exact doubled_short balanced updates.fits there doubled done

def Busy (st : State Buf) : Prop := st.currentmode ≠ .direct → st.bufferList ≠ []

/-- A buffer that comes is refused, and the sensor is started for no other. -/
def Deserted (dev : DevSpec) (own : Buf) (st : State Buf) (event : Event Buf) : Prop :=
  st.oops = false ∧ ∃ hooks b removeBuffer, lockedCall own st event = some (hooks, some b, removeBuffer) ∧
    st.activeScanMask ≠ none ∧ Refused dev hooks b removeBuffer st ∧ remaining removeBuffer st.bufferList = [] ∧
      Willing dev hooks ([] : List Buf)

theorem outcome_busy (described : Described dev size) (sound : Sound dev st)
    (busy : Busy st) (memory : hooks.memory = true) (stopped : (windDown hooks st).2 = 0)
    (outcome : Outcome dev hooks insertBuffer removeBuffer st next) :
    Busy next ∨ st.activeScanMask ≠ none ∧ ∃ b, insertBuffer = some b ∧ Refused dev hooks b removeBuffer st ∧
      remaining removeBuffer st.bufferList = [] ∧ Willing dev hooks ([] : List Buf) := by
  have direct : ∀ {down}, Halted st down → down.currentmode = .direct := by
    rintro down (rfl | ⟨rfl, empty⟩)
    · rfl
    · exact by_contra fun sampling => busy sampling empty
  cases outcome with
  | stopped direct =>
      refine .inl fun sampling => ?_
      rcases direct with rfl | rfl
      · exact busy sampling
      · exact absurd rfl sampling
  | emptied halted empty =>
      rw [freeMask_eq]
      exact .inl fun sampling => absurd rfl sampling
  | starved halted none => cases memory.symm.trans none
  | refused halted given comes bare =>
      refine .inl fun sampling => absurd ?_ sampling
      exact regroup_currentmode.trans (direct halted)
  | failed halted filled chosen wound wrong =>
      rename_i down group started chosenMask ret
      have grouped := chosen_grouped (sound.halted halted) chosen
      obtain ⟨buffers, bytes, mode, code, done, -, halt, -⟩ :=
        windUp_covered described hooks { group with activeScanMask := some chosenMask } grouped.covered
      cases done.symm.trans wound
      rw [forEach_deactivate]
      refine .inl fun sampling => absurd ?_ sampling
      rcases halt wrong with same | same
      · exact same.trans (grouped.mode.trans (direct halted))
      · exact same
  | started halted filled chosen wound =>
      rename_i down group started chosenMask
      by_cases empty : group.bufferList = []
      · refine .inr ?_
        have willing := (windUp_iff wound).mp rfl
        dsimp only at willing
        rcases chosen_again stopped halted chosen with rfl | ⟨some, b, rfl, refused, rfl⟩
        · exact absurd empty filled
        · rw [empty] at willing
          rw [rolledBack_list, (halted_refs halted).2] at empty
          exact ⟨some, b, rfl, refused, empty, willing⟩
      · obtain ⟨buffers, bytes, mode, rfl⟩ := windUp_frame wound
        exact .inl fun _ => empty

theorem step_busy (described : Described dev size) (sound : Sound dev st) (memory : Provided st event)
    (busy : Busy st) : Busy (step dev own st event) ∨ Deserted dev own st event := by
  refine @step_cases _ _ _ _ _ _ (fun next => Busy next ∨ Deserted dev own st event) (.inl busy) (.inl busy) ?_ ?_ ?_
  · intro hooks insertBuffer removeBuffer next ret fine called done
    by_cases stopped : (windDown hooks st).2 = 0
    · have there := ((lockedCall_some dev called).memory memory).1
      refine (outcome_busy described sound busy there stopped (updateBuffersLocked_outcome done)).imp_right ?_
      rintro ⟨some, b, rfl, rest⟩
      exact ⟨fine, hooks, b, removeBuffer, called, some, rest⟩
    · refine .inl ?_
      rw [updateBuffersLocked] at done
      dsimp only at done
      rw [if_pos stopped] at done
      cases done
      rw [windDown]
      split
      · exact busy
      · split
        · exact busy
        · exact fun sampling => absurd rfl sampling
  · rintro next ⟨⟨buffers, stored, rfl⟩, -, -⟩
    exact .inl busy
  · refine .inl ?_
    rw [disableAllBuffers_eq]
    split
    · exact busy
    · exact fun sampling => absurd rfl sampling

theorem deserted_samples (described : Described dev size) (sound : Sound dev st) (memory : Provided st event)
    (deserted : Deserted dev own st event) : ¬ Busy (step dev own st event) := by
  obtain ⟨fine, hooks, b, removeBuffer, called, some, refused, empty, willing⟩ := deserted
  obtain ⟨old, active⟩ := Option.ne_none_iff_exists'.mp some
  have updates := lockedCall_some dev called
  obtain ⟨mode, direct, same⟩ := refused_restart refused (updates.memory memory).1 active
  obtain ⟨avMasks, given, unmatched⟩ := refused.offered
  have still : Sound dev { st with currentmode := mode } := by
    refine ⟨sound.nodup, sound.covered, sound.stamped, sound.offered, fun sampling b member => ?_⟩
    rcases direct with rfl | ⟨-, none⟩
    · exact absurd rfl sampling
    · dsimp only at member
      rw [none] at member
      cases member
  have matches_none : scanMaskMatch avMasks dev.masklength
      (compoundMask (regroup dev (.some b) removeBuffer { st with currentmode := mode }).buffers
        (regroup dev (.some b) removeBuffer { st with currentmode := mode }).bufferList) = none := by
    rw [regroup_buffers, regroup_bufferList]
    exact unmatched
  have list := @rolledBack_list _ dev { st with currentmode := mode } removeBuffer _ b
  have grouped := chosen_grouped still (.rolledBack given matches_none rfl active)
  obtain ⟨buffers, bytes, after, code, done, -, -, sampling, -⟩ := windUp_covered described hooks
    { (gather (regroup dev (.some b) removeBuffer { st with currentmode := mode })).deactivate b with
      activeScanMask := .some old } grouped.covered
  have good : code = 0 := by
    refine (windUp_iff done).mpr ?_
    dsimp only
    rw [list]
    dsimp only
    rw [empty]
    exact willing
  intro busy
  rw [step, if_neg (by rw [fine]; exact Bool.false_ne_true), updates.act, same, restart, done] at busy
  have offered : dev.availableScanMasks.isSome = true := by
    rw [given]
    rfl
  simp only [Option.bind_eq_bind, Option.bind_some, good, ne_eq, not_true_eq_false, if_false, offered, if_true,
    Option.map_some, Option.getD_some] at busy
  exact busy (sampling good) (list.trans empty)

end MangOH.Iio
