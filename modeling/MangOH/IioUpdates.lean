import MangOH.IioBuffers

/-!
One update of the buffers: what it can come to, and what it keeps. The channels that the buffers in
use want are among those delivered, and each buffer of a sampling sensor has the table that finds them.
-/

namespace MangOH.Iio

open AlignedRecords

variable {Buf : Type} {dev : DevSpec} {size : Nat → Nat} {active mask : Bitmap} {buffer : Buffer}

/-! Starting. -/

theorem bufferUpdateDemux_covered (described : Described dev size) (covered : Covered dev active buffer.scanMask)
    (memory : Bool) : ∃ table bounce ret,
      bufferUpdateDemux dev active memory buffer =
          some ({ buffer with demuxList := table, demuxBounce := bounce }, ret) ∧
        (memory = true →
          ret = true ∧ Tabled dev active { buffer with demuxList := table, demuxBounce := bounce }) := by
  rw [bufferUpdateDemux]
  by_cases equal : bitmapEqual dev.masklength active buffer.scanMask = true
  · refine ⟨[], [], true, if_pos equal, fun _ => ⟨rfl, ?_⟩⟩
    rw [Tabled, if_pos equal]
  · obtain ⟨entries, table, -⟩ := demuxTable_covered described covered (fun asked => asked)
    rw [if_neg equal, table]
    cases memory with
    | false => exact ⟨[], [], false, rfl, fun none => by cases none⟩
    | true =>
        refine ⟨entries, _, true, rfl, fun _ => ⟨rfl, ?_⟩⟩
        rw [Tabled, if_neg equal, List.length_replicate]
        exact table

/-- The same wishes. -/
def Alike (before after : Buf → Buffer) : Prop :=
  ∀ b, (after b).scanMask = (before b).scanMask ∧ (after b).scanTimestamp = (before b).scanTimestamp

variable {buffers before after : Buf → Buffer} {bufferList : List Buf}

theorem Alike.refl : Alike before before := fun _ => ⟨rfl, rfl⟩

theorem Alike.trans (first : Alike before buffers) (second : Alike buffers after) : Alike before after :=
  fun b => ⟨(second b).1.trans (first b).1, (second b).2.trans (first b).2⟩

def AllCovered (dev : DevSpec) (active : Bitmap) (bufferList : List Buf) (buffers : Buf → Buffer) : Prop :=
  ∀ b ∈ bufferList, Covered dev active (buffers b).scanMask

theorem AllCovered.alike (covered : AllCovered dev active bufferList before) (alike : Alike before after) :
    AllCovered dev active bufferList after := by
  intro b member
  rw [(alike b).1]
  exact covered b member

theorem AllCovered.compound : AllCovered dev (compoundMask buffers bufferList) bufferList buffers :=
  fun b member _ _ wanted => List.any_eq_true.mpr ⟨b, member, wanted⟩

variable {hooks : Hooks Buf}

theorem chooseMode_buffered {mode : Mode} (chosen : chooseMode dev hooks = .ok mode) : mode ≠ .direct := by
  rw [chooseMode] at chosen
  split at chosen
  · split at chosen
    · cases chosen
      exact Mode.noConfusion
    · cases chosen
  · split at chosen
    · cases chosen
      exact Mode.noConfusion
    · cases chosen

theorem chooseMode_failed {ret : Int} (refused : chooseMode dev hooks = .error ret) : ret ≠ 0 := by
  rw [chooseMode] at refused
  split at refused
  · split at refused
    · cases refused
    · cases refused
      decide
  · split at refused
    · cases refused
    · cases refused
      decide

variable {st : State Buf}

/-- The sensor is stopped, or was not started for anyone. -/
def Halted (st down : State Buf) : Prop :=
  down = { st with currentmode := .direct } ∨ down = st ∧ st.bufferList = []

theorem windDown_halted (stopped : (windDown hooks st).2 = 0) : Halted st (windDown hooks st).1 := by
  by_cases empty : st.bufferList = []
  · rw [windDown, if_pos empty]
    exact .inr ⟨rfl, empty⟩
  · by_cases refused : hooks.predisable ≠ 0
    · rw [windDown, if_neg empty, if_pos refused] at stopped
      exact absurd stopped refused
    · rw [windDown, if_neg empty, if_neg refused]
      exact .inl rfl

/-- The buffers in use have their channels and the timestamp among those delivered, the delivered
ones are of the driver's choice, and each buffer of a sampling sensor has its table. -/
structure Sound (dev : DevSpec) (st : State Buf) : Prop where
  nodup : st.bufferList.Nodup
  covered : st.bufferList ≠ [] → ∃ active, st.activeScanMask = some active ∧
    AllCovered dev active.mask st.bufferList st.buffers
  stamped : ∀ b ∈ st.bufferList, (st.buffers b).scanTimestamp = true → st.scanTimestamp = true
  offered : ∀ avMasks, dev.availableScanMasks = some avMasks →
    ∀ active, st.activeScanMask = some active → active.mask ∈ avMasks
  fed : st.currentmode ≠ .direct → ∀ b ∈ st.bufferList, ∀ active, st.activeScanMask = some active →
    Fed dev active.mask (st.buffers b)

/-- A buffer that comes is not in use, and one that goes is. -/
def Fits (insertBuffer removeBuffer : Option Buf) (st : State Buf) : Prop :=
  (∀ b, insertBuffer = some b → b ∉ st.bufferList) ∧ ∀ b, removeBuffer = some b → b ∈ st.bufferList

/-- A state with no buffer in use. -/
theorem empty_sound (empty : st.bufferList = [])
    (offered : ∀ avMasks, dev.availableScanMasks = some avMasks →
      ∀ active, st.activeScanMask = some active → active.mask ∈ avMasks) : Sound dev st := by
  refine ⟨?_, fun some => absurd empty some, fun b member => ?_, offered, fun _ b member => ?_⟩
  · rw [empty]
    exact List.nodup_nil
  · rw [empty] at member
    cases member
  · rw [empty] at member
    cases member

theorem start_sound (dev : DevSpec) (owned : Multiset Buf) : Sound dev (start owned) :=
  empty_sound rfl fun _ _ _ none => by cases none

/-- Only buffers that are not in use are given other wishes. -/
theorem sound_buffers (sound : Sound dev st) {buffers : Buf → Buffer} {stored : Buf → List (List Cell)}
    (same : ∀ b ∈ st.bufferList, (buffers b).scanMask = (st.buffers b).scanMask ∧
      (buffers b).scanTimestamp = (st.buffers b).scanTimestamp)
    (fed : ∀ b ∈ st.bufferList, ∀ active, Fed dev active (st.buffers b) → Fed dev active (buffers b)) :
    Sound dev { st with buffers := buffers, stored := stored } := by
  refine ⟨sound.nodup, fun some => ?_, fun b member asked => ?_, sound.offered,
    fun buffered b member active found => fed b member active.mask (sound.fed buffered b member active found)⟩
  · obtain ⟨active, found, covered⟩ := sound.covered some
    refine ⟨active, found, fun b member => ?_⟩
    dsimp only
    rw [(same b member).1]
    exact covered b member
  · exact sound.stamped b member ((same b member).2.symm.trans asked)

variable {down : State Buf} {insertBuffer removeBuffer : Option Buf}

theorem Sound.halted (sound : Sound dev st) (halted : Halted st down) : Sound dev down := by
  obtain rfl | ⟨rfl, -⟩ := halted
  · exact ⟨sound.nodup, sound.covered, sound.stamped, sound.offered, fun none => absurd rfl none⟩
  · exact sound

theorem Fits.halted (fits : Fits insertBuffer removeBuffer st) (halted : Halted st down) :
    Fits insertBuffer removeBuffer down := by
  obtain rfl | ⟨rfl, -⟩ := halted
  · exact fits
  · exact fits

theorem halted_idle (halted : Halted st down) : down.currentmode ≠ .direct → down.bufferList = [] := by
  obtain rfl | ⟨rfl, empty⟩ := halted
  · exact fun none => absurd rfl none
  · exact fun _ => empty

theorem freeMask_eq (dev : DevSpec) (old : Option ScanMask) (st : State Buf) : freeMask dev old st =
    { st with masks := if dev.availableScanMasks.isSome = true then st.masks else st.masks.free (blockOf old) } := by
  rw [freeMask]
  split <;> rfl

variable [DecidableEq Buf]

theorem Alike.update {b : Buf} (mask : buffer.scanMask = (before b).scanMask)
    (timestamp : buffer.scanTimestamp = (before b).scanTimestamp) : Alike before (Function.update before b buffer) := by
  intro other
  by_cases same : other = b
  · subst same
    rw [Function.update_self]
    exact ⟨mask, timestamp⟩
  · rw [Function.update_of_ne same]
    exact ⟨rfl, rfl⟩

theorem updateDemuxFrom_covered (described : Described dev size) (memory : Buf → Bool) :
    ∀ {bufferList : List Buf} {before : Buf → Buffer}, AllCovered dev active bufferList before →
      ∃ after ret, updateDemuxFrom dev active memory bufferList before = some (after, ret) ∧ Alike before after ∧
        ((∀ b, memory b = true) → ret = true ∧
          ∀ b, b ∈ bufferList ∨ Tabled dev active (before b) → Tabled dev active (after b)) := by
  intro bufferList
  induction bufferList with
  | nil =>
      refine fun _ => ⟨_, true, rfl, .refl, fun _ => ⟨rfl, fun b either => ?_⟩⟩
      exact either.resolve_left List.not_mem_nil
  | cons b rest ih =>
      intro before covered
      obtain ⟨table, bounce, ret, made, good⟩ :=
        bufferUpdateDemux_covered described (covered b (List.mem_cons_self ..)) (memory b)
      have alike : Alike before (Function.update before b
          { before b with demuxList := table, demuxBounce := bounce }) := .update rfl rfl
      have others : AllCovered dev active rest before :=
        fun other member => covered other (List.mem_cons_of_mem _ member)
      rw [updateDemuxFrom, made]
      simp only [Option.bind_eq_bind, Option.bind_some]
      cases ret with
      | false =>
          refine ⟨_, false, if_neg Bool.false_ne_true, alike, fun ready => ?_⟩
          cases (good (ready b)).1
      | true =>
          obtain ⟨after, ret, done, later, tabled⟩ := ih (others.alike alike)
          refine ⟨after, ret, done, alike.trans later, fun ready => ?_⟩
          obtain ⟨rfl, kept⟩ := tabled ready
          refine ⟨rfl, fun other either => kept other ?_⟩
          by_cases same : other = b
          · subst same
            rw [Function.update_self]
            exact .inr (good (ready other)).2
          · rw [Function.update_of_ne same]
            exact either.imp (fun member => (List.mem_cons.mp member).resolve_left same) fun tabled => tabled

theorem updateDemux_covered (described : Described dev size) (memory : Buf → Bool)
    (covered : AllCovered dev active bufferList before) :
    ∃ after, updateDemux dev active memory bufferList before = some after ∧ Alike before after ∧
      ((∀ b, memory b = true) → ∀ b ∈ bufferList, Tabled dev active (after b)) := by
  obtain ⟨after, ret, done, alike, tabled⟩ := updateDemuxFrom_covered described memory covered
  rw [updateDemux, done]
  simp only [Option.bind_eq_bind, Option.bind_some]
  cases ret with
  | true => exact ⟨after, rfl, alike, fun ready b member => (tabled ready).2 b (.inl member)⟩
  | false =>
      refine ⟨_, if_neg Bool.false_ne_true, fun b => ?_, fun ready => ?_⟩
      · dsimp only
        split
        · exact alike b
        · exact alike b
      · cases (tabled ready).1

theorem requestUpdates_described (described : Described dev size) (hooks : Hooks Buf) :
    ∀ {bufferList : List Buf} {before : Buf → Buffer},
      ∃ after ret, requestUpdates dev hooks bufferList before = some (after, ret) ∧ Alike before after ∧
        (∀ b, Tabled dev active (before b) → Tabled dev active (after b)) ∧
          (ret = 0 → ∀ b, b ∈ bufferList ∨ computeScanBytes dev (before b).scanMask (before b).scanTimestamp =
              some (before b).bytesPerDatum →
            computeScanBytes dev (after b).scanMask (after b).scanTimestamp = some (after b).bytesPerDatum) := by
  intro bufferList
  induction bufferList with
  | nil =>
      refine ⟨_, 0, rfl, .refl, fun _ tabled => tabled, fun _ b either => ?_⟩
      exact either.resolve_left List.not_mem_nil
  | cons b rest ih =>
      intro before
      have bytes := @computeScanBytes_ending _ _ (before b).scanMask (before b).scanTimestamp described
      rw [requestUpdates, bytes]
      simp only [Option.bind_eq_bind, Option.bind_some]
      generalize ending size 0 (recordChannels dev (before b).scanMask (before b).scanTimestamp) = length at bytes
      have alike : Alike before (Function.update before b { before b with bytesPerDatum := length }) :=
        .update rfl rfl
      have tables : ∀ other, Tabled dev active (before other) →
          Tabled dev active (Function.update before b { before b with bytesPerDatum := length } other) := by
        intro other tabled
        by_cases same : other = b
        · subst same
          rw [Function.update_self]
          exact tabled
        · rw [Function.update_of_ne same]
          exact tabled
      by_cases refused : hooks.requestUpdate b ≠ 0
      · exact ⟨_, hooks.requestUpdate b, if_pos refused, alike, tables, fun none => absurd none refused⟩
      · obtain ⟨after, ret, done, later, kept, right⟩ :=
          @ih (Function.update before b { before b with bytesPerDatum := length })
        refine ⟨after, ret, ?_, alike.trans later, fun other tabled => kept other (tables other tabled),
          fun good other either => right good other ?_⟩
        · rw [if_neg refused]
          exact done
        · by_cases same : other = b
          · subst same
            rw [Function.update_self]
            exact .inr bytes
          · rw [Function.update_of_ne same]
            exact either.imp (fun member => (List.mem_cons.mp member).resolve_left same) fun same => same

variable {b : Buf}

/-- What a start changes: the tables and lengths of the buffers, and the mode, which is one with
buffers just when it goes through. -/
theorem windUp_covered (described : Described dev size) (hooks : Hooks Buf) (st : State Buf)
    (covered : AllCovered dev active st.bufferList st.buffers) :
    ∃ buffers bytes mode ret, windUp dev hooks active st =
        some ({ st with buffers := buffers, scanBytes := bytes, currentmode := mode }, ret) ∧
      Alike st.buffers buffers ∧ (ret ≠ 0 → mode = st.currentmode ∨ mode = .direct) ∧
        (ret = 0 → mode ≠ .direct) ∧
          (ret = 0 → (∀ b, hooks.demuxMemory b = true) → ∀ b ∈ st.bufferList, Fed dev active (buffers b)) := by
  obtain ⟨first, made, alike, tabled⟩ := updateDemux_covered described hooks.demuxMemory covered
  rw [windUp, made]
  simp only [Option.bind_eq_bind, Option.bind_some]
  by_cases enabled : hooks.preenable = 0
  · obtain ⟨second, ret, done, later, kept, bytes⟩ :=
      @requestUpdates_described _ _ _ active _ described hooks st.bufferList first
    rw [if_neg (not_not_intro enabled), computeScanBytes_ending described]
    simp only [Option.bind_some, done]
    by_cases good : ret = 0
    · subst good
      have fed : (∀ b, hooks.demuxMemory b = true) → ∀ b ∈ st.bufferList, Fed dev active (second b) :=
        fun ready b member => ⟨kept b (tabled ready b member), bytes rfl b (.inl member)⟩
      rw [if_neg (not_not_intro rfl)]
      by_cases slow : hooks.updateScanMode < 0
      · exact ⟨second, _, st.currentmode, hooks.updateScanMode, if_pos slow, alike.trans later, fun _ => .inl rfl,
          fun none => absurd none (Int.ne_of_lt slow), fun none => absurd none (Int.ne_of_lt slow)⟩
      · rw [if_neg slow]
        cases chosen : chooseMode dev hooks with
        | error code =>
            have failed := chooseMode_failed chosen
            exact ⟨second, _, st.currentmode, code, rfl, alike.trans later, fun _ => .inl rfl,
              fun none => absurd none failed, fun none => absurd none failed⟩
        | ok mode =>
            by_cases posted : hooks.postenable = 0
            · exact ⟨second, _, mode, 0, if_neg (not_not_intro posted), alike.trans later,
                fun failed => absurd rfl failed, fun _ => chooseMode_buffered chosen, fun _ => fed⟩
            · exact ⟨second, _, .direct, hooks.postenable, if_pos posted, alike.trans later, fun _ => .inr rfl,
                fun none => absurd none posted, fun none => absurd none posted⟩
    · exact ⟨second, _, st.currentmode, ret, if_pos good, alike.trans later, fun _ => .inl rfl,
        fun none => absurd none good, fun none => absurd none good⟩
  · exact ⟨first, st.scanBytes, st.currentmode, hooks.preenable, if_pos enabled, alike, fun _ => .inl rfl,
      fun none => absurd none enabled, fun none => absurd none enabled⟩

theorem windUp_frame {started : State Buf} {ret : Int} (wound : windUp dev hooks active st = some (started, ret)) :
    ∃ buffers bytes mode, started = { st with buffers := buffers, scanBytes := bytes, currentmode := mode } := by
  rw [windUp, Option.bind_eq_bind, Option.bind_eq_some_iff] at wound
  obtain ⟨first, -, wound⟩ := wound
  split at wound
  · cases wound
    exact ⟨_, _, _, rfl⟩
  · rw [Option.bind_eq_bind, Option.bind_eq_some_iff] at wound
    obtain ⟨bytes, -, wound⟩ := wound
    rw [Option.bind_eq_bind, Option.bind_eq_some_iff] at wound
    obtain ⟨⟨second, code⟩, -, wound⟩ := wound
    dsimp only at wound
    split at wound
    · cases wound
      exact ⟨_, _, _, rfl⟩
    · split at wound
      · cases wound
        exact ⟨_, _, _, rfl⟩
      · split at wound
        · cases wound
          exact ⟨_, _, _, rfl⟩
        · split at wound
          · cases wound
            exact ⟨_, _, _, rfl⟩
          · cases wound
            exact ⟨_, _, _, rfl⟩

/-! What an update can come to. -/

/-- What is started again, and for which mask: the one of all buffers, one of the driver's that has
it, or the old one without the buffer that came. -/
inductive Chosen (dev : DevSpec) (insertBuffer removeBuffer : Option Buf) (down : State Buf) :
    State Buf → ScanMask → Prop where
  | whole (own : dev.availableScanMasks = none) :
      Chosen dev insertBuffer removeBuffer down (gather (regroup dev insertBuffer removeBuffer down))
        ⟨compoundMask (regroup dev insertBuffer removeBuffer down).buffers
          (regroup dev insertBuffer removeBuffer down).bufferList,
          some (regroup dev insertBuffer removeBuffer down).masks.fresh⟩
  | offered {avMasks : List Bitmap} {mask : Bitmap} (given : dev.availableScanMasks = some avMasks)
      (found : scanMaskMatch avMasks dev.masklength
        (compoundMask (regroup dev insertBuffer removeBuffer down).buffers
          (regroup dev insertBuffer removeBuffer down).bufferList) = some mask) :
      Chosen dev insertBuffer removeBuffer down (gather (regroup dev insertBuffer removeBuffer down)) ⟨mask, none⟩
  | rolledBack {avMasks : List Bitmap} {b : Buf} {active : ScanMask}
      (given : dev.availableScanMasks = some avMasks)
      (unmatched : scanMaskMatch avMasks dev.masklength
        (compoundMask (regroup dev insertBuffer removeBuffer down).buffers
          (regroup dev insertBuffer removeBuffer down).bufferList) = none)
      (comes : insertBuffer = some b) (old : down.activeScanMask = some active) :
      Chosen dev insertBuffer removeBuffer down
        ((gather (regroup dev insertBuffer removeBuffer down)).deactivate b) active

inductive Outcome (dev : DevSpec) (hooks : Hooks Buf) (insertBuffer removeBuffer : Option Buf) (st : State Buf) :
    State Buf → Prop where
  | stopped {mode : Mode} (halt : mode = st.currentmode ∨ mode = .direct) :
      Outcome dev hooks insertBuffer removeBuffer st { st with currentmode := mode }
  | emptied {down : State Buf} (halted : Halted st down)
      (empty : (regroup dev insertBuffer removeBuffer down).bufferList = []) :
      Outcome dev hooks insertBuffer removeBuffer st (freeMask dev down.activeScanMask
        { regroup dev insertBuffer removeBuffer down with currentmode := .direct })
  | starved {down : State Buf} (halted : Halted st down) (memory : hooks.memory = false) :
      Outcome dev hooks insertBuffer removeBuffer st
        (freeMask dev down.activeScanMask (regroup dev insertBuffer removeBuffer down))
  | refused {down : State Buf} {b : Buf} {avMasks : List Bitmap} (halted : Halted st down)
      (given : dev.availableScanMasks = some avMasks) (comes : insertBuffer = some b)
      (bare : down.activeScanMask = none) :
      Outcome dev hooks insertBuffer removeBuffer st
        { (gather (regroup dev insertBuffer removeBuffer down)).deactivate b with
          activeScanMask := none
          masks := (gather (regroup dev insertBuffer removeBuffer down)).masks.free
            (some (regroup dev insertBuffer removeBuffer down).masks.fresh) }
  | failed {down group started : State Buf} {active : ScanMask} {ret : Int} (halted : Halted st down)
      (filled : (regroup dev insertBuffer removeBuffer down).bufferList ≠ [])
      (chosen : Chosen dev insertBuffer removeBuffer down group active)
      (wound : windUp dev hooks active.mask { group with activeScanMask := some active } = some (started, ret))
      (wrong : ret ≠ 0) :
      Outcome dev hooks insertBuffer removeBuffer st
        { forEach State.deactivate insertBuffer started with
          activeScanMask := down.activeScanMask
          masks := (forEach State.deactivate insertBuffer started).masks.free
            (some (regroup dev insertBuffer removeBuffer down).masks.fresh) }
  | started {down group started : State Buf} {active : ScanMask} (halted : Halted st down)
      (filled : (regroup dev insertBuffer removeBuffer down).bufferList ≠ [])
      (chosen : Chosen dev insertBuffer removeBuffer down group active)
      (wound : windUp dev hooks active.mask { group with activeScanMask := some active } = some (started, 0)) :
      Outcome dev hooks insertBuffer removeBuffer st
        { started with
          masks := started.masks.free (if dev.availableScanMasks.isSome = true then
            some (regroup dev insertBuffer removeBuffer down).masks.fresh else blockOf down.activeScanMask) }

variable {next : State Buf} {ret : Int}

theorem restart_outcome {down group : State Buf} {active : ScanMask} {success : Int} (halted : Halted st down)
    (filled : (regroup dev insertBuffer removeBuffer down).bufferList ≠ [])
    (chosen : Chosen dev insertBuffer removeBuffer down group active)
    (done : restart dev hooks insertBuffer down.activeScanMask
      (regroup dev insertBuffer removeBuffer down).masks.fresh active success group = some (next, ret)) :
    Outcome dev hooks insertBuffer removeBuffer st next := by
  rw [restart, Option.bind_eq_bind, Option.bind_eq_some_iff] at done
  obtain ⟨⟨started, code⟩, wound, rest⟩ := done
  dsimp only at rest
  by_cases good : code = 0
  · subst good
    have ends := Outcome.started halted filled chosen wound
    rw [if_neg (not_not_intro rfl)] at rest
    split at rest
    · rename_i given
      rw [if_pos given] at ends
      cases rest
      exact ends
    · rename_i own
      rw [if_neg own] at ends
      cases rest
      exact ends
  · rw [if_pos good] at rest
    cases rest
    exact .failed halted filled chosen wound good

theorem updateBuffersLocked_outcome
    (done : updateBuffersLocked dev hooks insertBuffer removeBuffer st = some (next, ret)) :
    Outcome dev hooks insertBuffer removeBuffer st next := by
  rw [updateBuffersLocked] at done
  dsimp only at done
  by_cases stopped : (windDown hooks st).2 = 0
  · have halted := windDown_halted stopped
    rw [if_neg (not_not_intro stopped)] at done
    generalize (windDown hooks st).1 = down at done halted
    split at done
    · rename_i empty
      cases done
      exact .emptied halted empty
    · rename_i filled
      split at done
      · rename_i memory
        cases done
        exact .starved halted memory
      · split at done
        · rename_i own
          exact restart_outcome halted filled (.whole own) done
        · rename_i avMasks given
          split at done
          · rename_i mask found
            exact restart_outcome halted filled (.offered given found) done
          · rename_i unmatched
            split at done
            · cases done
            · rename_i b
              split at done
              · rename_i active old
                exact restart_outcome halted filled (.rolledBack given unmatched rfl old) done
              · rename_i bare
                cases done
                exact .refused halted given rfl bare
  · rw [if_pos stopped] at done
    cases done
    rw [windDown]
    split
    · exact .stopped (.inl rfl)
    · split
      · exact .stopped (.inl rfl)
      · exact .stopped (.inr rfl)

/-! What an update keeps. -/

def remaining (removeBuffer : Option Buf) (bufferList : List Buf) : List Buf :=
  removeBuffer.elim bufferList bufferList.erase

theorem remaining_subset : remaining removeBuffer bufferList ⊆ bufferList := by
  cases removeBuffer with
  | none => exact List.Subset.refl _
  | some b => exact List.erase_subset

theorem remaining_nodup (nodup : bufferList.Nodup) : (remaining removeBuffer bufferList).Nodup := by
  cases removeBuffer with
  | none => exact nodup
  | some b => exact nodup.erase b

variable {group started : State Buf} {chosenMask : ScanMask}

theorem regroup_eq : regroup dev insertBuffer removeBuffer down =
    { down with
      bufferList := insertBuffer.toList ++ remaining removeBuffer down.bufferList
      refs := insertBuffer.toList.foldl (fun refs b => refs.acquire b)
        (removeBuffer.toList.foldl (fun refs b => refs.release b) down.refs)
      activeScanMask := if dev.availableScanMasks.isSome = true then down.activeScanMask else none } := by
  rw [regroup]
  cases insertBuffer with
  | none =>
      cases removeBuffer with
      | none => split <;> rfl
      | some b => split <;> rfl
  | some other =>
      cases removeBuffer with
      | none => split <;> rfl
      | some b => split <;> rfl

@[simp] theorem regroup_buffers : (regroup dev insertBuffer removeBuffer down).buffers = down.buffers := by
  rw [regroup_eq]

@[simp] theorem regroup_bufferList : (regroup dev insertBuffer removeBuffer down).bufferList =
    insertBuffer.toList ++ remaining removeBuffer down.bufferList := by
  rw [regroup_eq]

@[simp] theorem regroup_activeScanMask : (regroup dev insertBuffer removeBuffer down).activeScanMask =
    if dev.availableScanMasks.isSome = true then down.activeScanMask else none := by
  rw [regroup_eq]

@[simp] theorem regroup_masks : (regroup dev insertBuffer removeBuffer down).masks = down.masks := by
  rw [regroup_eq]

@[simp] theorem regroup_currentmode :
    (regroup dev insertBuffer removeBuffer down).currentmode = down.currentmode := by
  rw [regroup_eq]

@[simp] theorem regroup_registered :
    (regroup dev insertBuffer removeBuffer down).registered = down.registered := by
  rw [regroup_eq]

theorem rolledBack_list : ((gather (regroup dev (some b) removeBuffer down)).deactivate b).bufferList =
    remaining removeBuffer down.bufferList := by
  dsimp only [State.deactivate, gather]
  rw [regroup_bufferList]
  exact List.erase_cons_head ..

theorem forEach_deactivate (o : Option Buf) (st : State Buf) : forEach State.deactivate o st =
    { st with
      bufferList := remaining o st.bufferList
      refs := o.toList.foldl (fun refs b => refs.release b) st.refs } := by
  cases o <;> rfl

theorem remaining_inserted (fresh : ∀ b, insertBuffer = some b → b ∉ bufferList) {whole : List Buf}
    (same : whole = insertBuffer.toList ++ bufferList ∨ whole = bufferList) :
    remaining insertBuffer whole = bufferList := by
  cases insertBuffer with
  | none => exact same.elim (fun same => same) fun same => same
  | some b =>
      rcases same with same | same
      · rw [same]
        exact List.erase_cons_head ..
      · rw [same]
        exact List.erase_of_not_mem (fresh b rfl)

theorem scanMaskMatch_some {avMasks : List Bitmap} (found : scanMaskMatch avMasks dev.masklength mask = some active) :
    active ∈ avMasks ∧ Covered dev active mask := by
  rw [scanMaskMatch] at found
  split at found
  · cases found
  · refine ⟨List.mem_of_find?_eq_some found, fun si inside wanted => ?_⟩
    have subset : bitmapSubset dev.masklength mask active = true := @List.find?_some _ _ active _ found
    have here := List.all_eq_true.mp subset si (List.mem_range.mpr inside)
    rw [wanted] at here
    exact here

theorem covered_trans {wide : Bitmap} (first : Covered dev wide active) (second : Covered dev active mask) :
    Covered dev wide mask :=
  fun si inside wanted => first si inside (second si inside wanted)

/-- What is started again has its channels among those chosen. -/
structure Grouped (dev : DevSpec) (insertBuffer removeBuffer : Option Buf) (down group : State Buf)
    (chosen : ScanMask) : Prop where
  buffers : group.buffers = down.buffers
  mode : group.currentmode = down.currentmode
  list : group.bufferList = insertBuffer.toList ++ remaining removeBuffer down.bufferList ∨
    group.bufferList = remaining removeBuffer down.bufferList
  covered : AllCovered dev chosen.mask group.bufferList group.buffers
  offered : ∀ avMasks, dev.availableScanMasks = some avMasks → chosen.mask ∈ avMasks
  stamped : ∀ b ∈ insertBuffer.toList ++ remaining removeBuffer down.bufferList,
    (down.buffers b).scanTimestamp = true → group.scanTimestamp = true

theorem chosen_grouped (sound : Sound dev down) (chosen : Chosen dev insertBuffer removeBuffer down group chosenMask) :
    Grouped dev insertBuffer removeBuffer down group chosenMask := by
  have stamped : ∀ b ∈ insertBuffer.toList ++ remaining removeBuffer down.bufferList,
      (down.buffers b).scanTimestamp = true →
        (gather (regroup dev insertBuffer removeBuffer down)).scanTimestamp = true := by
    intro b member asked
    dsimp only [gather]
    rw [regroup_bufferList, regroup_buffers]
    exact List.any_eq_true.mpr ⟨b, member, asked⟩
  cases chosen with
  | whole own =>
      exact ⟨regroup_buffers, regroup_currentmode, .inl regroup_bufferList, AllCovered.compound,
        fun avMasks given => (by cases own.symm.trans given), stamped⟩
  | offered given found =>
      obtain ⟨member, wide⟩ := scanMaskMatch_some found
      refine ⟨regroup_buffers, regroup_currentmode, .inl regroup_bufferList,
        fun b inside => covered_trans wide (AllCovered.compound b inside), fun avMasks same => ?_, stamped⟩
      cases given.symm.trans same
      exact member
  | rolledBack given unmatched comes old =>
      rename_i avMasks b
      subst comes
      have left := @rolledBack_list _ dev down removeBuffer _ b
      have same : ((gather (regroup dev (some b) removeBuffer down)).deactivate b).buffers = down.buffers :=
        regroup_buffers
      refine ⟨same, regroup_currentmode, .inr left, fun other member => ?_,
        fun masks same => sound.offered masks same _ old, stamped⟩
      · rw [left] at member
        rw [same]
        have inside := remaining_subset member
        obtain ⟨active, found, covered⟩ := sound.covered (List.ne_nil_of_mem inside)
        cases old.symm.trans found
        exact covered other inside

/-- The buffers that stay have what they had. -/
theorem failed_sound (described : Described dev size) (sound : Sound dev down)
    (fits : Fits insertBuffer removeBuffer down) (idle : down.currentmode ≠ .direct → down.bufferList = [])
    (chosen : Chosen dev insertBuffer removeBuffer down group chosenMask)
    (wound : windUp dev hooks chosenMask.mask { group with activeScanMask := some chosenMask } = some (started, ret))
    (wrong : ret ≠ 0) (masks : Heap) :
    Sound dev { forEach State.deactivate insertBuffer started with
      activeScanMask := down.activeScanMask
      masks := masks } := by
  have grouped := chosen_grouped sound chosen
  obtain ⟨buffers, bytes, mode, code, done, alike, halt, -, -⟩ :=
    windUp_covered described hooks { group with activeScanMask := some chosenMask } grouped.covered
  cases done.symm.trans wound
  have outside : ∀ b, insertBuffer = some b → b ∉ remaining removeBuffer down.bufferList :=
    fun b comes member => fits.1 b comes (remaining_subset member)
  have list := remaining_inserted outside grouped.list
  have same : Alike down.buffers buffers := by
    rw [← grouped.buffers]
    exact alike
  rw [forEach_deactivate]
  dsimp only
  rw [list]
  refine ⟨remaining_nodup sound.nodup, fun some => ?_, fun b member asked => ?_, sound.offered,
    fun buffered b member => ?_⟩
  · obtain ⟨b, member⟩ := List.exists_mem_of_ne_nil _ some
    obtain ⟨active, found, covered⟩ := sound.covered (List.ne_nil_of_mem (remaining_subset member))
    exact ⟨active, found, fun b member => (covered.alike same) b (remaining_subset member)⟩
  · rw [(same b).2] at asked
    exact grouped.stamped b (List.mem_append_right _ member) asked
  · have stopped : mode = down.currentmode := by
      rw [← grouped.mode]
      exact (halt wrong).resolve_right buffered
    have empty := idle (stopped ▸ buffered)
    have inside := remaining_subset member
    rw [empty] at inside
    cases inside

theorem started_sound (described : Described dev size) (sound : Sound dev down)
    (fits : Fits insertBuffer removeBuffer down) (ready : ∀ b, hooks.demuxMemory b = true)
    (chosen : Chosen dev insertBuffer removeBuffer down group chosenMask)
    (wound : windUp dev hooks chosenMask.mask { group with activeScanMask := some chosenMask } = some (started, 0))
    (masks : Heap) : Sound dev { started with masks := masks } := by
  have grouped := chosen_grouped sound chosen
  obtain ⟨buffers, bytes, mode, code, done, alike, -, -, fed⟩ :=
    windUp_covered described hooks { group with activeScanMask := some chosenMask } grouped.covered
  cases done.symm.trans wound
  have same : Alike down.buffers buffers := by
    rw [← grouped.buffers]
    exact alike
  have wide : group.bufferList ⊆ insertBuffer.toList ++ remaining removeBuffer down.bufferList := by
    rcases grouped.list with whole | left
    · rw [whole]
      exact List.Subset.refl _
    · rw [left]
      exact List.subset_append_right _ _
  have nodup : group.bufferList.Nodup := by
    have kept : (remaining removeBuffer down.bufferList).Nodup := remaining_nodup sound.nodup
    rcases grouped.list with whole | left
    · rw [whole]
      cases insertBuffer with
      | none => exact kept
      | some b => exact List.nodup_cons.mpr ⟨fun member => fits.1 b rfl (remaining_subset member), kept⟩
    · rw [left]
      exact kept
  refine ⟨nodup, fun some => ⟨chosenMask, rfl, grouped.covered.alike alike⟩, fun b member asked => ?_,
    fun avMasks given active found => ?_, fun _ b member active found => ?_⟩
  · rw [(same b).2] at asked
    exact grouped.stamped b (wide member) asked
  · cases found
    exact grouped.offered avMasks given
  · cases found
    exact fed rfl ready b member

/-- With memory, an update keeps all of it whatever the driver answers. -/
theorem outcome_sound (described : Described dev size) (sound : Sound dev st)
    (fits : Fits insertBuffer removeBuffer st) (memory : hooks.memory = true)
    (ready : ∀ b, hooks.demuxMemory b = true) (outcome : Outcome dev hooks insertBuffer removeBuffer st next) :
    Sound dev next := by
  cases outcome with
  | stopped halt =>
      refine ⟨sound.nodup, sound.covered, sound.stamped, sound.offered, fun buffered => ?_⟩
      rcases halt with rfl | rfl
      · exact sound.fed buffered
      · exact absurd rfl buffered
  | emptied halted empty =>
      have sound := sound.halted halted
      rw [freeMask_eq]
      refine empty_sound empty fun avMasks given active old => ?_
      dsimp only at old
      rw [regroup_activeScanMask, given] at old
      exact sound.offered avMasks given active old
  | starved halted none => cases memory.symm.trans none
  | refused halted given comes bare =>
      rename_i down b avMasks
      have sound := sound.halted halted
      subst comes
      have none : down.bufferList = [] := by
        by_contra some
        obtain ⟨active, found, -⟩ := sound.covered some
        cases bare.symm.trans found
      refine empty_sound ?_ fun _ _ active found => by cases found
      refine List.eq_nil_of_subset_nil ?_
      dsimp only
      rw [rolledBack_list, ← none]
      exact remaining_subset
  | failed halted filled chosen wound wrong =>
      exact failed_sound described (sound.halted halted) (fits.halted halted) (halted_idle halted) chosen wound wrong _
  | started halted filled chosen wound =>
      exact started_sound described (sound.halted halted) (fits.halted halted) ready chosen wound _

end MangOH.Iio
