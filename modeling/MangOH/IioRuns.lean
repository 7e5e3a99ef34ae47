import MangOH.IioUpdates
import MangOH.Trace

/-!
Any order of buffers that come and go, of channels chosen and of scans: each buffer in use stores of a
scan the record of the channels it wants.
-/

namespace MangOH.Iio

open AlignedRecords CString

variable {Buf : Type} {dev : DevSpec} {size : Nat → Nat} {active : Bitmap} {buffer : Buffer} {hooks : Hooks Buf}
  {st next : State Buf} {insertBuffer removeBuffer : Option Buf} {ret : Int}

/-! What the other calls keep. -/

variable {datain record : List Cell}

theorem copyEntries_length {table : List DemuxTable} : ∀ {bounce after : List Cell},
    copyEntries datain table bounce = .ok after → after.length = bounce.length := by
  induction table with
  | nil =>
      intro bounce after done
      cases done
      rfl
  | cons entry rest ih =>
      intro bounce after done
      rw [copyEntries, Cells.bind_ok] at done
      obtain ⟨items, -, done⟩ := done
      rw [Cells.bind_ok] at done
      obtain ⟨middle, written, done⟩ := done
      exact (ih done).trans (Cells.patch_length written)

theorem pushToBuffer_keeps {after : Buffer} (done : pushToBuffer buffer datain = .ok (record, after)) :
    ∃ bounce, after = { buffer with demuxBounce := bounce } ∧ bounce.length = buffer.demuxBounce.length := by
  rw [pushToBuffer, Cells.bind_ok] at done
  obtain ⟨⟨dataout, bounce⟩, demuxed, done⟩ := done
  rw [Cells.bind_ok] at done
  obtain ⟨stored, -, same⟩ := done
  cases same
  refine ⟨bounce, rfl, ?_⟩
  rw [demux] at demuxed
  split at demuxed
  · cases demuxed
    rfl
  · rw [Cells.bind_ok] at demuxed
    obtain ⟨copied, copies, same⟩ := demuxed
    cases same
    exact copyEntries_length copies

theorem Fed.bounce (fed : Fed dev active buffer) {bounce : List Cell}
    (length : bounce.length = buffer.demuxBounce.length) : Fed dev active { buffer with demuxBounce := bounce } := by
  refine ⟨?_, fed.bytes⟩
  have table := fed.table
  rw [Tabled] at table ⊢
  rw [length]
  exact table

/-- What the other calls can change: the wishes of buffers that are not in use, and what is stored. -/
structure Quiet (dev : DevSpec) (st next : State Buf) : Prop where
  rest : ∃ buffers stored, next = { st with buffers := buffers, stored := stored }
  wishes : ∀ b ∈ st.bufferList, (next.buffers b).scanMask = (st.buffers b).scanMask ∧
    (next.buffers b).scanTimestamp = (st.buffers b).scanTimestamp
  fed : ∀ b ∈ st.bufferList, ∀ active, Fed dev active (st.buffers b) → Fed dev active (next.buffers b)

theorem Quiet.refl : Quiet dev st st := ⟨⟨_, _, rfl⟩, fun _ _ => ⟨rfl, rfl⟩, fun _ _ _ fed => fed⟩

theorem quiet_sound (sound : Sound dev st) (quiet : Quiet dev st next) : Sound dev next := by
  obtain ⟨⟨buffers, stored, rfl⟩, wishes, fed⟩ := quiet
  exact sound_buffers sound wishes fed

variable [DecidableEq Buf]

/-- A scan changes what is stored and the bounce buffers. -/
theorem pushToBuffers_keeps (full : Buf → Bool) : ∀ {list : List Buf} {st next : State Buf} {ret : Int},
    pushToBuffers full datain list st = .ok (next, ret) → ∃ buffers stored,
      next = { st with buffers := buffers, stored := stored } ∧ Alike st.buffers buffers ∧
        ∀ b active, Fed dev active (st.buffers b) → Fed dev active (buffers b) := by
  intro list
  induction list with
  | nil =>
      intro st next ret done
      cases done
      exact ⟨st.buffers, st.stored, rfl, .refl, fun _ _ fed => fed⟩
  | cons b rest ih =>
      intro st next ret done
      rw [pushToBuffers, Cells.bind_ok] at done
      obtain ⟨⟨record, buffer⟩, pushed, done⟩ := done
      obtain ⟨bounce, rfl, length⟩ := pushToBuffer_keeps pushed
      have alike : Alike st.buffers (Function.update st.buffers b { st.buffers b with demuxBounce := bounce }) :=
        .update rfl rfl
      have fed : ∀ other active, Fed dev active (st.buffers other) →
          Fed dev active (Function.update st.buffers b { st.buffers b with demuxBounce := bounce } other) := by
        intro other active fed
        by_cases same : other = b
        · subst same
          rw [Function.update_self]
          exact fed.bounce length
        · rw [Function.update_of_ne same]
          exact fed
      dsimp only at done
      split at done
      · cases done
        exact ⟨_, st.stored, rfl, alike, fed⟩
      · obtain ⟨buffers, stored, rfl, later, kept⟩ := ih done
        exact ⟨buffers, stored, rfl, alike.trans later, fun other active old => kept other active (fed other active old)⟩

theorem foldl_erase (list : List Buf) : list.foldl List.erase list = [] := by
  induction list with
  | nil => rfl
  | cons b rest ih =>
      rw [List.foldl_cons, List.erase_cons_head]
      exact ih

theorem foldl_deactivate (list : List Buf) : ∀ st : State Buf, list.foldl (fun st b => st.deactivate b) st =
    { st with
      bufferList := list.foldl List.erase st.bufferList
      refs := list.foldl (fun refs b => refs.release b) st.refs } := by
  induction list with
  | nil => exact fun _ => rfl
  | cons b rest ih => exact fun st => ih (st.deactivate b)

theorem disableAllBuffers_eq (dev : DevSpec) (st : State Buf) : disableAllBuffers dev st =
    if st.bufferList = [] then st else
      { st with
        bufferList := []
        refs := st.bufferList.foldl (fun refs b => refs.release b) st.refs
        currentmode := .direct
        masks := if dev.availableScanMasks.isSome = true then st.masks else st.masks.free (blockOf st.activeScanMask) } := by
  rw [disableAllBuffers]
  split
  · rfl
  · rw [foldl_deactivate, freeMask_eq]
    dsimp only
    rw [foldl_erase]

/-- There is memory whenever the buffers are set up. -/
def Provided (_ : State Buf) : Event Buf → Prop
  | .updateBuffers hooks _ _ | .storeEnable hooks _ => hooks.memory = true ∧ ∀ b, hooks.demuxMemory b = true
  | _ => True

theorem filter_fits (st : State Buf) (insertBuffer removeBuffer : Option Buf) :
    Fits (insertBuffer.filter (· ∉ st.bufferList)) (removeBuffer.filter (· ∈ st.bufferList)) st := by
  constructor
  · intro b found
    exact of_decide_eq_true (Option.mem_filter_iff.mp found).2
  · intro b found
    exact of_decide_eq_true (Option.mem_filter_iff.mp found).2

variable {own : Buf}

/-- The update that a call comes to, if it does. -/
def lockedCall (own : Buf) (st : State Buf) : Event Buf → Option (Hooks Buf × Option Buf × Option Buf)
  | .updateBuffers hooks insertBuffer removeBuffer =>
      let comes := insertBuffer.filter (· ∉ st.bufferList)
      let goes := removeBuffer.filter (· ∈ st.bufferList)
      if insertBuffer = removeBuffer ∨ comes = none ∧ goes = none ∨ st.registered = false then none
      else some (hooks, comes, goes)
  | .storeEnable hooks requested =>
      if st.registered = false ∨ decide (own ∈ st.bufferList) = requested then none
      else if requested = true then some (hooks, some own, none)
      else some (hooks, none, some own)
  | _ => none

-- Its equations are made here, and not by whichever proof comes to them first.
attribute [local simp] lockedCall

/-- A call that comes to an update. -/
structure Updates (dev : DevSpec) (own : Buf) (st : State Buf) (event : Event Buf) (hooks : Hooks Buf)
    (insertBuffer removeBuffer : Option Buf) : Prop where
  act : act dev own st event = (updateBuffersLocked dev hooks insertBuffer removeBuffer st).map Prod.fst
  fits : Fits insertBuffer removeBuffer st
  registered : st.registered = true
  memory : Provided st event → hooks.memory = true ∧ ∀ b, hooks.demuxMemory b = true

variable {event : Event Buf}

theorem lockedCall_some (dev : DevSpec) (called : lockedCall own st event = some (hooks, insertBuffer, removeBuffer)) :
    Updates dev own st event hooks insertBuffer removeBuffer := by
  cases event with
  | updateBuffers answers comes goes =>
      rw [lockedCall] at called
      split at called
      · cases called
      · rename_i open_call
        obtain ⟨other, rest⟩ := not_or.mp open_call
        obtain ⟨some, registered⟩ := not_or.mp rest
        cases called
        refine ⟨?_, filter_fits st comes goes, Bool.not_eq_false _ ▸ registered, fun memory => memory⟩
        rw [act, updateBuffers, if_neg other]
        dsimp only
        rw [if_neg some, if_neg registered]
  | storeEnable answers requested =>
      rw [lockedCall] at called
      split at called
      · cases called
      · rename_i open_call
        obtain ⟨registered, other⟩ := not_or.mp open_call
        have there : st.registered = true := Bool.not_eq_false _ ▸ registered
        split at called
        · rename_i asked
          cases called
          refine ⟨?_, ⟨fun b same member => ?_, fun b none => by cases none⟩, there, fun memory => memory⟩
          · rw [act, if_pos there, storeEnable, if_neg other, if_pos asked]
          · cases same
            exact other ((decide_eq_true member).trans asked.symm)
        · rename_i asked
          cases called
          refine ⟨?_, ⟨fun b none => (by cases none), fun b same => ?_⟩, there, fun memory => memory⟩
          · rw [act, if_pos there, storeEnable, if_neg other, if_neg asked]
          · cases same
            by_contra outside
            exact other ((decide_eq_false outside).trans (Bool.eq_false_iff.mpr asked).symm)
  | _ => cases called

theorem setBuffer_quiet {b : Buf} (idle : b ∉ st.bufferList) (buffer : Buffer) :
    Quiet dev st (st.setBuffer b buffer) := by
  have other : ∀ {c}, c ∈ st.bufferList → (st.setBuffer b buffer).buffers c = st.buffers c := by
    intro c member
    refine Function.update_of_ne ?_ ..
    rintro rfl
    exact idle member
  refine ⟨⟨_, _, rfl⟩, fun c member => ?_, fun c member active fed => ?_⟩
  · rw [other member]
    exact ⟨rfl, rfl⟩
  · rw [other member]
    exact fed

theorem scanElStore_quiet (dev : DevSpec) (own : Buf) (memory : Bool) (bit : Nat) (state : Bool) (st : State Buf) :
    Quiet dev st (scanElStore dev own memory bit state st).1 := by
  unfold scanElStore
  dsimp only
  split
  · exact .refl
  · rename_i idle
    split
    · exact .refl
    · split
      · exact setBuffer_quiet idle _
      · exact setBuffer_quiet idle _
      · exact .refl

theorem scanElTsStore_quiet (dev : DevSpec) (own : Buf) (state : Bool) (st : State Buf) :
    Quiet dev st (scanElTsStore own state st).1 := by
  rw [scanElTsStore]
  split
  · exact .refl
  · rename_i idle
    exact setBuffer_quiet idle _

theorem lockedCall_none (called : lockedCall own st event = none) (acted : act dev own st event = some next) :
    Quiet dev st next ∨ next = { disableAllBuffers dev st with registered := false } := by
  cases event with
  | updateBuffers answers comes goes =>
      rw [lockedCall] at called
      split at called
      · rename_i closed
        refine .inl ?_
        rw [act, updateBuffers] at acted
        dsimp only at acted
        split at acted
        · cases acted
          exact .refl
        · rename_i other
          split at acted
          · cases acted
            exact .refl
          · rename_i some
            rw [if_pos ((closed.resolve_left other).resolve_left some)] at acted
            cases acted
            exact .refl
      · cases called
  | storeEnable answers requested =>
      rw [lockedCall] at called
      split at called
      · rename_i closed
        refine .inl ?_
        rw [act] at acted
        split at acted
        · rename_i registered
          rw [storeEnable, if_pos (closed.resolve_left fun gone => by cases registered.symm.trans gone)] at acted
          cases acted
          exact .refl
        · cases acted
          exact .refl
      · split at called
        · cases called
        · cases called
  | scanElStore memory bit state =>
      refine .inl ?_
      rw [act] at acted
      split at acted
      · cases acted
        exact scanElStore_quiet dev own memory bit state st
      · cases acted
        exact .refl
  | scanElTsStore state =>
      refine .inl ?_
      rw [act] at acted
      split at acted
      · cases acted
        exact scanElTsStore_quiet dev own state st
      · cases acted
        exact .refl
  | prepare b scanMask scanTimestamp =>
      refine .inl ?_
      rw [act] at acted
      split at acted
      · cases acted
        exact .refl
      · rename_i idle
        cases acted
        exact setBuffer_quiet idle _
  | push full datain =>
      refine .inl ?_
      rw [act] at acted
      cases pushed : pushToBuffers full datain st.bufferList st with
      | error fault =>
          rw [pushed] at acted
          cases acted
      | ok result =>
          rw [pushed] at acted
          cases acted
          obtain ⟨buffers, stored, same, alike, fed⟩ := pushToBuffers_keeps full pushed
          rw [same]
          exact ⟨⟨_, _, rfl⟩, fun b _ => alike b, fun b _ active old => fed b active old⟩
  | unregister =>
      cases acted
      exact .inr rfl

/-- What holds of the state before a call, of what each kind of call comes to and of a crash holds
behind it. -/
theorem step_cases {holds : State Buf → Prop} (old : holds st) (oops : holds { st with oops := true })
    (updates : ∀ {hooks insertBuffer removeBuffer next ret}, st.oops = false →
      lockedCall own st event = some (hooks, insertBuffer, removeBuffer) →
        updateBuffersLocked dev hooks insertBuffer removeBuffer st = some (next, ret) → holds next)
    (quiet : ∀ {next}, Quiet dev st next → holds next)
    (unregistered : holds { disableAllBuffers dev st with registered := false }) :
    holds (step dev own st event) := by
  rw [step]
  split
  · exact old
  · rename_i fine
    cases acted : act dev own st event with
    | none => exact oops
    | some next =>
        rw [Option.getD_some]
        cases called : lockedCall own st event with
        | none =>
            obtain still | rfl := lockedCall_none called acted
            · exact quiet still
            · exact unregistered
        | some call =>
            obtain ⟨hooks, insertBuffer, removeBuffer⟩ := call
            rw [(lockedCall_some dev called).act] at acted
            obtain ⟨⟨after, ret⟩, done, rfl⟩ := Option.map_eq_some_iff.mp acted
            exact updates (Bool.eq_false_iff.mpr fine) called done

theorem step_sound (described : Described dev size) (own : Buf) (sound : Sound dev st)
    (memory : Provided st event) : Sound dev (step dev own st event) := by
  refine step_cases sound ⟨sound.nodup, sound.covered, sound.stamped, sound.offered, sound.fed⟩ ?_
    (fun quiet => quiet_sound sound quiet) ?_
  · intro hooks insertBuffer removeBuffer next ret _ called done
    have updates := lockedCall_some dev called
    have ready := updates.memory memory
    exact outcome_sound described sound updates.fits ready.1 ready.2 (updateBuffersLocked_outcome done)
  · rw [disableAllBuffers_eq]
    split
    · exact ⟨sound.nodup, sound.covered, sound.stamped, sound.offered, sound.fed⟩
    · exact empty_sound rfl sound.offered

/-! Scans. -/

/-- The record of the channels that a buffer wants, as long as they are. -/
structure IsRecord (dev : DevSpec) (size : Nat → Nat) (value : Nat → List (BitVec 8)) (buffer : Buffer)
    (record : List Cell) : Prop where
  length : record.length = ending size 0 (recordChannels dev buffer.scanMask buffer.scanTimestamp)
  holds : Holds size value record 0 (recordChannels dev buffer.scanMask buffer.scanTimestamp)

/-- A buffer in use that can be given its record of a scan. -/
structure Served (dev : DevSpec) (size : Nat → Nat) (active : Bitmap) (stamped : Bool) (buffer : Buffer) : Prop where
  fed : Fed dev active buffer
  covered : Covered dev active buffer.scanMask
  level : Level dev size active buffer.scanMask buffer.scanTimestamp
  stamped : buffer.scanTimestamp = true → stamped = true

variable {value : Nat → List (BitVec 8)} {stamped : Bool}

theorem pushToBuffers_stores (described : Described dev size) (sized : ∀ si, (value si).length = size si)
    (holds : Holds size value datain 0 (recordChannels dev active stamped))
    (room : ending size 0 (recordChannels dev active stamped) ≤ datain.length) (full : Buf → Bool) :
    ∀ {list : List Buf} {st : State Buf}, list.Nodup →
      (∀ b ∈ list, Served dev size active stamped (st.buffers b)) →
        ∃ next ret, pushToBuffers full datain list st = .ok (next, ret) ∧ ∀ b,
          (b ∈ list.takeWhile (fun b => !full b) →
            ∃ record, next.stored b = st.stored b ++ [record] ∧ IsRecord dev size value (st.buffers b) record) ∧
          (b ∉ list.takeWhile (fun b => !full b) → next.stored b = st.stored b) := by
  intro list
  induction list with
  | nil =>
      intro st _ _
      exact ⟨st, 0, rfl, fun b => ⟨fun member => absurd member List.not_mem_nil, fun _ => rfl⟩⟩
  | cons first rest ih =>
      intro st nodup served
      have mine := served first (List.mem_cons_self ..)
      obtain ⟨outside, nodup⟩ := List.nodup_cons.mp nodup
      obtain ⟨record, bounce, pushed, -, length, kept⟩ :=
        pushToBuffer_record described mine.fed mine.covered mine.level mine.stamped sized holds room
      rw [pushToBuffers, pushed]
      simp only [bind, Except.bind]
      by_cases stuck : full first = true
      · rw [if_pos stuck]
        refine ⟨_, _, rfl, fun b => ⟨fun member => ?_, fun _ => rfl⟩⟩
        rw [List.takeWhile_cons_of_neg (by simp [stuck])] at member
        cases member
      · have other : ∀ {b}, b ∈ rest → Function.update st.buffers first
            { st.buffers first with demuxBounce := bounce } b = st.buffers b := by
          intro b member
          refine Function.update_of_ne ?_ ..
          rintro rfl
          exact outside member
        rw [if_neg stuck]
        obtain ⟨next, ret, done, stores⟩ := @ih
          { st.setBuffer first { st.buffers first with demuxBounce := bounce } with
            stored := Function.update (st.setBuffer first { st.buffers first with demuxBounce := bounce }).stored first
              ((st.setBuffer first { st.buffers first with demuxBounce := bounce }).stored first ++ [record]) }
          nodup fun b member => by
            dsimp only [State.setBuffer]
            rw [other member]
            exact served b (List.mem_cons_of_mem _ member)
        refine ⟨next, ret, done, fun b => ?_⟩
        rw [List.takeWhile_cons_of_pos (by simp [stuck])]
        have later : b ∈ rest.takeWhile (fun b => !full b) → b ∈ rest :=
          fun member => (List.takeWhile_sublist _).subset member
        by_cases same : b = first
        · subst same
          refine ⟨fun _ => ⟨record, ?_, length, kept⟩, fun none => absurd (List.mem_cons_self ..) none⟩
          rw [(stores b).2 fun member => outside (later member)]
          exact Function.update_self ..
        · have before : Function.update st.stored first (st.stored first ++ [record]) b = st.stored b :=
            Function.update_of_ne same ..
          constructor
          · intro member
            have behind := (List.mem_cons.mp member).resolve_left same
            obtain ⟨own, stored, right⟩ := (stores b).1 behind
            dsimp only [State.setBuffer] at stored right
            rw [other (later behind)] at right
            exact ⟨own, stored.trans (congrArg (· ++ [own]) before), right⟩
          · intro none
            exact ((stores b).2 fun member => none (List.mem_cons_of_mem _ member)).trans before

/-- A driver that refuses nothing. -/
def willing : Hooks Buf where
  predisable := 0
  postdisable := 0
  preenable := 0
  updateScanMode := 0
  postenable := 0
  requestUpdate := fun _ => 0
  memory := true
  demuxMemory := fun _ => true
  trig := true

/-- Two axes of two bytes, always together, and the time. -/
def twoAxes : DevSpec where
  channels := [⟨0, 16⟩, ⟨1, 16⟩, ⟨2, 64⟩]
  masklength := 3
  scanIndexTimestamp := 2
  availableScanMasks := some [fun si => si < 2]
  validateScanMask := fun _ => true
  triggered := true
  hardware := false

def axisSize (si : Nat) : Nat := if si = 2 then 8 else 2

def axisValue (si : Nat) : List (BitVec 8) := (List.range (axisSize si)).map fun i => BitVec.ofNat 8 (8 * si + i)

theorem twoAxes_described : Described twoAxes axisSize := by
  refine ⟨fun {si} inside => ?_, fun si => ?_⟩
  · have small : si < 3 := inside.elim (fun less => less) fun same => same ▸ Nat.lt_succ_self 2
    match si, small with
    | 0, _ => rfl
    | 1, _ => rfl
    | 2, _ => rfl
  · rw [axisSize]
    by_cases last : si = 2
    · exact ⟨3, if_pos last⟩
    · exact ⟨1, if_neg last⟩

/-- The second axis and the time are asked for. -/
def axisEvents : List (Event Unit) := [.scanElStore true 1 true, .scanElTsStore true, .storeEnable willing true]

def axisScan : List Cell := (axisValue 0 ++ axisValue 1).map some ++ List.replicate 4 none ++ (axisValue 2).map some

end MangOH.Iio
