import MangOH.ReceiveFrames
import MangOH.Trace

/-!
Runs of one S2M queue: the slave publishes words between the calls of
`mt7697q_proc_data` and, at the pace of its agenda, inside them. A run is
measured against the frames that the slave had to write.
-/

namespace MangOH.ReceiveRuns

open BitFields CyclicWindow QueueMemory QueueRead QueueReceive ReceiveFrames

variable {Priv : Type}

inductive Event where
  | publish (count : Nat)
  | procData

def publish (count : Nat) (rx : Receiver Priv) : Receiver Priv :=
  { rx with qs := { rx.qs with slave := slavePublish count rx.qs.slave } }

def Step (handler : RxHandler Priv) (before : Receiver Priv) (event : Event)
    (after : Receiver Priv) : Prop :=
  match event with
  | .publish count => after = publish count before
  | .procData => ∃ fuel ret, mt7697qProcData handler fuel before = some (after, ret)

/-- An empty queue in use, with all of `frames` still to be written. -/
structure Opened (frames : List Frame) (rx : Receiver Priv) : Prop where
  quiet : rx.qs.slave.faults = []
  entry : rx.qs.slave.entry = rx.qs.data
  empty : rx.qs.data.wrOffset = rx.qs.data.rdOffset
  inside : rx.qs.data.rdOffset.toNat < rx.qs.data.numWords
  todo : rx.qs.slave.todo = stream frames
  idle : rx.rsp.len = 0
  fresh : rx.dispatched = []

/-- A frame of another group that fits in a ring of `size` words. -/
structure WellFormed (size : Nat) (frame : Frame) : Prop where
  covers : 8 ≤ frame.len
  fits : frame.len ≤ 4 * (size - 1)
  group : frame.control = false

/-- The published words that the host's read offset has not passed. -/
def hostUnread (qs : QueueSpec) : List Word :=
  window qs.data.numWords (cells qs.data.baseAddr qs.slave.memory) qs.data.rdOffset.toNat
    (distance qs.data.numWords qs.data.rdOffset.toNat qs.slave.entry.wrOffset.toNat)

def AtStart (rest : List Frame) (rx : Receiver Priv) : Prop :=
  rx.rsp.len = 0 ∧ hostUnread rx.qs ++ rx.qs.slave.todo = stream rest

def AtBody (frame : Frame) (tail : List Frame) (rx : Receiver Priv) : Prop :=
  rx.rsp = frame.hdr ∧ hostUnread rx.qs ++ rx.qs.slave.todo = frame.body ++ stream tail

def publishedWords (frames : List Frame) (rx : Receiver Priv) : Nat :=
  (stream frames).length - rx.qs.slave.todo.length

/-- The frames that `count` words of the stream contain whole. -/
def complete : Nat → List Frame → List Frame
  | _, [] => []
  | count, frame :: rest =>
      if frame.words.length ≤ count then frame :: complete (count - frame.words.length) rest
      else []

/-- Rounds in which the slave publishes all that fits and the host calls. -/
def drain (handler : RxHandler Priv) (fuel : Nat) : Nat → Receiver Priv → Option (Receiver Priv)
  | 0, rx => some rx
  | rounds + 1, rx =>
      match mt7697qProcData handler fuel (publish rx.qs.slave.todo.length rx) with
      | none => none
      | some (rx, _) => drain handler fuel rounds rx

def Reached (frames : List Frame) (size left : Nat) (rx : Receiver Priv) : Prop :=
  ∃ cursor held seen unseen, At frames size rx cursor held seen unseen ∧
    cursor.Passes size held.length ∧ cursor.left.length ≤ left

section Frames

theorem stream_append (left right : List Frame) :
    stream (left ++ right) = stream left ++ stream right := by
  simp [stream]

theorem complete_append (past rest : List Frame) (count : Nat) :
    complete ((stream past).length + count) (past ++ rest) = past ++ complete count rest := by
  induction past with
  | nil => simp [stream]
  | cons frame past ih =>
      have length : (stream (frame :: past)).length = frame.words.length + (stream past).length := by
        simp [stream]
      rw [List.cons_append, complete, if_pos (by omega), length,
        show frame.words.length + (stream past).length + count - frame.words.length =
          (stream past).length + count by omega, ih]
      rfl

/-- A frame that is cut off is not complete. -/
theorem complete_short {count : Nat} {rest : List Frame}
    (short : ∀ frame ∈ rest.head?, count < frame.words.length) : complete count rest = [] := by
  cases rest with
  | nil => rfl
  | cons frame tail => rw [complete, if_neg (by have := short frame rfl; omega)]

theorem WellFormed.room {size : Nat} {frame : Frame} (good : WellFormed size frame) :
    frame.words.length ≤ size - 1 := by
  have covers := good.covers
  have fits := good.fits
  have sized := frame.sized
  have same : frame.len = (RspHdr.cleared.store [frame.cmd, frame.result]).len.toNat := rfl
  rw [Frame.words_length]
  unfold lenToWord at sized
  split_ifs at sized <;> omega

theorem WellFormed.clear {size : Nat} (frames : List Frame)
    (good : ∀ frame ∈ frames, WellFormed size frame) : Clear size 0 frames := by
  induction frames with
  | nil => trivial
  | cons frame rest ih =>
      have first := good frame (by simp)
      have covers := first.covers
      refine ⟨by have := first.room; omega, ?_⟩
      rw [if_neg (by omega)]
      refine ⟨⟨covers, fun control => ?_⟩, ih fun other member => good other (by simp [member])⟩
      rw [first.group] at control
      cases control

theorem WellFormed.handed {size : Nat} {frame : Frame} (good : WellFormed size frame) :
    frame.handed = true := by
  have covers := good.covers
  simp [Frame.handed, good.group]
  omega

theorem WellFormed.calls_eq {size : Nat} {frames : List Frame}
    (good : ∀ frame ∈ frames, WellFormed size frame) : calls frames = frames.map Frame.call := by
  rw [calls, List.filter_eq_self.mpr fun frame member => (good frame member).handed]

end Frames

section Positions

variable {frames : List Frame} {size : Nat} {rx : Receiver Priv} {cursor : Cursor}
  {held seen unseen : List Word}

theorem hostUnread_at (here : At frames size rx cursor held seen unseen) :
    hostUnread rx.qs = seen ++ unseen := here.feed.published.content_eq

theorem place_at (here : At frames size rx cursor held seen unseen) :
    hostUnread rx.qs ++ rx.qs.slave.todo = cursor.words := by
  rw [hostUnread_at here, List.append_assoc]
  exact here.words

theorem length_at (here : At frames size rx cursor held seen unseen) :
    seen.length + unseen.length + rx.qs.slave.todo.length = cursor.words.length := by
  rw [← here.words]
  simp only [List.length_append]
  omega

theorem publish_at (here : At frames size rx cursor held seen unseen) (count amount : Nat)
    (exact : amount = min count (min rx.qs.slave.todo.length
      (size - 1 - (held.length + seen.length + unseen.length)))) :
    At frames size (publish count rx) cursor held seen
        (unseen ++ rx.qs.slave.todo.take amount) ∧
      (publish count rx).qs.slave.todo = rx.qs.slave.todo.drop amount := by
  rw [← here.size_eq] at exact
  obtain ⟨feed, left⟩ := slavePublish_feed count amount here.feed exact
  exact ⟨here.advance feed (by
    rw [left, List.append_assoc, List.take_append_drop]) rfl rfl, left⟩

/-- Words left behind a frame that has not been taken off the queue yet. -/
theorem words_ge {frame : Frame} {tail : List Frame} (left : cursor.left = frame :: tail) :
    cursor.need + (stream tail).length ≤ cursor.words.length := by
  cases cursor with
  | start rest =>
      simp only [Cursor.left] at left
      subst left
      simp [Cursor.need, Cursor.words, stream_cons, headerWords_eq]
      omega
  | body other rest =>
      simp only [Cursor.left, List.cons.injEq] at left
      simp [Cursor.need, Cursor.words, left]

/-- Once the next frame is published whole, a call that stops has passed it. -/
theorem paused_advances {frame : Frame} {tail : List Frame} {todo : Nat} {stopped : Receiver Priv}
    (here : At frames size rx cursor held seen unseen) (left : cursor.left = frame :: tail)
    (published : todo ≤ (stream tail).length)
    (paused : Paused frames size cursor.left.length todo stopped) :
    Reached frames size tail.length stopped := by
  obtain ⟨next, taken, shown, there, passes, fewer, less, stops⟩ := paused
  refine ⟨next, taken, shown, [], there, passes, ?_⟩
  -- In front of that frame the call would have seen all the words it waits for.
  by_contra behind
  rw [left, List.length_cons] at fewer stops
  have waits : shown.length < next.need := stops.resolve_right fun dropped => by omega
  obtain ⟨past, whole, -⟩ := here.done
  obtain ⟨other, again, -⟩ := there.done
  have same : next.left = frame :: tail := by
    rw [left] at whole
    exact (List.append_inj_right' (again.symm.trans whole) (by simp; omega))
  have enough := words_ge same
  have total := length_at there
  simp only [List.length_nil, Nat.add_zero] at total
  omega

/-- What fits in the ring always includes the rest of the next frame. -/
theorem publish_frame {frame : Frame} {tail : List Frame}
    (here : At frames size rx cursor held seen unseen) (passes : cursor.Passes size held.length)
    (left : cursor.left = frame :: tail) :
    (publish rx.qs.slave.todo.length rx).qs.slave.todo.length ≤ (stream tail).length := by
  obtain ⟨-, todo⟩ := publish_at here rx.qs.slave.todo.length _ rfl
  have total := length_at here
  have room : held.length + cursor.words.length ≤ size - 1 + (stream tail).length := by
    cases cursor with
    | start rest =>
        simp only [Cursor.left] at left
        subst left
        have fits := passes.1
        simp only [Cursor.words, stream_cons, List.length_cons, List.length_append,
          Frame.words_length] at fits ⊢
        omega
    | body other rest =>
        simp only [Cursor.left, List.cons.injEq] at left
        obtain ⟨rfl, rfl⟩ := left
        have fits := passes.1
        simp only [Cursor.words, List.length_append]
        omega
  rw [todo, List.length_drop]
  omega

end Positions

section Runs

variable {frames : List Frame} {size : Nat} {handler : RxHandler Priv}

theorem opened_reached {rx : Receiver Priv} (opened : Opened frames rx)
    (clear : Clear rx.qs.data.numWords 0 frames) :
    Reached frames rx.qs.data.numWords frames.length rx := by
  have read : rx.qs.slave.entry.rdOffset = rx.qs.data.rdOffset := by rw [opened.entry]
  have write : rx.qs.slave.entry.wrOffset = rx.qs.data.rdOffset := by
    rw [opened.entry, opened.empty]
  have start : rx.qs.data.rdOffset.toNat =
      slot rx.qs.data.numWords rx.qs.slave.entry.rdOffset.toNat 0 := by
    rw [read, slot_zero opened.inside]
  refine ⟨.start frames, [], [], [], ⟨⟨opened.quiet, ?_, ?_, ?_, start, ?_⟩, rfl, opened.todo,
    opened.idle, [], rfl, opened.fresh⟩, clear, le_refl _⟩
  · rw [opened.entry]
  · rw [opened.entry]
  · rw [read, write]
    exact .empty opened.inside
  · rw [opened.empty]
    exact start

theorem step_reached (serves : Serves handler frames) {before after : Receiver Priv} {event : Event}
    (reached : Reached frames size frames.length before) (step : Step handler before event after) :
    Reached frames size frames.length after := by
  obtain ⟨cursor, held, seen, unseen, here, passes, fewer⟩ := reached
  cases event with
  | publish count =>
      have moved : after = publish count before := step
      subst moved
      exact ⟨cursor, held, seen, _, (publish_at here count _ rfl).1, passes, fewer⟩
  | procData =>
      obtain ⟨fuel, ret, called⟩ := step
      obtain ⟨next, taken, shown, there, kept, less, -, -⟩ :=
        (mt7697qProcData_at serves here passes fuel).1 _ _ called
      exact ⟨next, taken, shown, [], there, kept, less.trans fewer⟩

theorem round_reached (serves : Serves handler frames) {fuel rounds : Nat} {rx : Receiver Priv}
    (reached : Reached frames size (rounds + 1) rx) (enough : frames.length < fuel) :
    ∃ next ret, mt7697qProcData handler fuel (publish rx.qs.slave.todo.length rx) =
        some (next, ret) ∧ Reached frames size rounds next := by
  obtain ⟨cursor, held, seen, unseen, here, passes, fewer⟩ := reached
  have bound : cursor.left.length ≤ frames.length := by
    obtain ⟨past, whole, -⟩ := here.done
    rw [whole, List.length_append]
    omega
  have there := (publish_at here rx.qs.slave.todo.length _ rfl).1
  obtain ⟨returns, ends⟩ := mt7697qProcData_at serves there passes fuel
  obtain ⟨⟨next, ret⟩, called⟩ := ends (by omega)
  refine ⟨next, ret, called, ?_⟩
  have paused := returns next ret called
  cases left : cursor.left with
  | nil =>
      -- Nothing is left, and a call takes no frame back.
      obtain ⟨final, taken, shown, stands, kept, less, -, -⟩ := paused
      rw [left, List.length_nil] at less
      exact ⟨final, taken, shown, [], stands, kept, by omega⟩
  | cons frame tail =>
      obtain ⟨final, taken, shown, hidden, stands, kept, less⟩ :=
        paused_advances there left (publish_frame here passes left) paused
      rw [left, List.length_cons] at fewer
      exact ⟨final, taken, shown, hidden, stands, kept, by omega⟩

theorem drain_reached (serves : Serves handler frames) {fuel : Nat} (enough : frames.length < fuel)
    (rounds : Nat) : ∀ {rx : Receiver Priv}, Reached frames size rounds rx →
      ∃ final, drain handler fuel rounds rx = some final ∧ Reached frames size 0 final := by
  induction rounds with
  | zero => exact fun reached => ⟨_, rfl, reached⟩
  | succ rounds ih =>
      intro rx reached
      obtain ⟨next, ret, called, later⟩ := round_reached serves reached enough
      obtain ⟨final, drained, last⟩ := ih later
      exact ⟨final, by simp only [drain, called, drained], last⟩

theorem reached_place {rx : Receiver Priv} {left : Nat} (reached : Reached frames size left rx) :
    ∃ past rest, frames = past ++ rest ∧ rest.length ≤ left ∧ rx.dispatched = calls past ∧
      (AtStart rest rx ∨ ∃ frame tail, rest = frame :: tail ∧ AtBody frame tail rx) := by
  obtain ⟨cursor, held, seen, unseen, here, -, fewer⟩ := reached
  obtain ⟨past, whole, handed⟩ := here.done
  refine ⟨past, cursor.left, whole, fewer, handed, ?_⟩
  cases cursor with
  | start rest => exact Or.inl ⟨here.header, place_at here⟩
  | body frame tail => exact Or.inr ⟨frame, tail, rfl, here.header, place_at here⟩

/-- When no header is void, a call stops only for words not published yet. -/
theorem paused_place {rx : Receiver Priv} {left todo : Nat}
    (paused : Paused frames size left todo rx) (solid : ∀ frame ∈ frames, frame.len ≠ 0) :
    ∃ past rest, frames = past ++ rest ∧ rx.dispatched = calls past ∧
      (AtStart rest rx ∧ (hostUnread rx.qs).length < headerWords ∨
        ∃ frame tail, rest = frame :: tail ∧ AtBody frame tail rx ∧
          (hostUnread rx.qs).length < frame.body.length) := by
  obtain ⟨cursor, held, seen, here, -, -, -, stops⟩ := paused
  have short : seen.length < cursor.need :=
    stops.resolve_right fun ⟨_, frame, member, void⟩ => solid frame member void
  have unread : hostUnread rx.qs = seen := by rw [hostUnread_at here, List.append_nil]
  obtain ⟨past, whole, handed⟩ := here.done
  refine ⟨past, cursor.left, whole, handed, ?_⟩
  rw [unread]
  cases cursor with
  | start rest => exact Or.inl ⟨⟨here.header, place_at here⟩, short⟩
  | body frame tail => exact Or.inr ⟨frame, tail, rfl, ⟨here.header, place_at here⟩, short⟩

theorem publishedWords_split {rx : Receiver Priv} {past rest : List Frame}
    {words content : List Word} (extra : Nat) (place : words ++ rx.qs.slave.todo = content)
    (length : (stream rest).length = content.length + extra) :
    publishedWords (past ++ rest) rx = (stream past).length + (extra + words.length) := by
  have total := congrArg List.length place
  rw [List.length_append] at total
  rw [publishedWords, stream_append, List.length_append]
  omega

end Runs

/-- Over any run of publications and calls, `rx_fcn` has been called for a
prefix of the frames published whole, and after a call for all of them; the
read offset then stands at a frame or at the body of the header in place. -/
theorem mt7697qProcData_receives_frames {handler : RxHandler Priv} {frames : List Frame}
    {start after : Receiver Priv} {events : List Event} (opened : Opened frames start)
    (wellFormed : ∀ frame ∈ frames, WellFormed start.qs.data.numWords frame)
    (reads : ∀ frame ∈ frames, ∀ priv, (handler frame.hdr priv).Takes frame.body.length)
    (exec : Trace.Exec (Step handler) start events after) :
    after.dispatched <+: (complete (publishedWords frames after) frames).map Frame.call ∧
    (∃ fuel result, mt7697qProcData handler fuel after = some result) ∧
    ∀ fuel next ret, mt7697qProcData handler fuel after = some (next, ret) →
      next.dispatched = (complete (publishedWords frames next) frames).map Frame.call ∧
      ∃ past rest, frames = past ++ rest ∧ next.dispatched = past.map Frame.call ∧
        (AtStart rest next ∨ ∃ frame tail, rest = frame :: tail ∧ AtBody frame tail next ∧
          (hostUnread next.qs).length < frame.body.length) := by
  have serves : Serves handler frames := fun frame member _ => reads frame member
  have reached : Reached frames start.qs.data.numWords frames.length after :=
    exec.invariant (fun _ rx => Reached frames start.qs.data.numWords frames.length rx)
      (opened_reached opened (WellFormed.clear frames wellFormed)) (step_reached serves)
  have solid : ∀ frame ∈ frames, frame.len ≠ 0 := fun frame member void => by
    have covers := (wellFormed frame member).covers
    omega
  refine ⟨?_, ?_, fun fuel next ret called => ?_⟩
  · obtain ⟨past, rest, rfl, -, handed, place⟩ := reached_place reached
    have plain : calls past = past.map Frame.call :=
      WellFormed.calls_eq fun frame member => wellFormed frame (by simp [member])
    -- Between calls more may be published than has been handed over.
    have counted : ∃ extra, publishedWords (past ++ rest) after = (stream past).length + extra := by
      rcases place with ⟨-, words⟩ | ⟨frame, tail, rfl, -, words⟩
      · exact ⟨_, publishedWords_split 0 words rfl⟩
      · exact ⟨_, publishedWords_split 2 words (by simp [stream_cons])⟩
    obtain ⟨extra, counted⟩ := counted
    rw [handed, plain, counted, complete_append, List.map_append]
    exact List.prefix_append _ _
  · obtain ⟨cursor, held, seen, unseen, here, passes, -⟩ := reached
    exact ⟨_, (mt7697qProcData_at serves here passes (cursor.left.length + 1)).2 (by omega)⟩
  · obtain ⟨cursor, held, seen, unseen, here, passes, -⟩ := reached
    have paused := (mt7697qProcData_at serves here passes fuel).1 next ret called
    obtain ⟨past, rest, rfl, handed, place⟩ := paused_place paused solid
    have plain : calls past = past.map Frame.call :=
      WellFormed.calls_eq fun frame member => wellFormed frame (by simp [member])
    rw [plain] at handed
    refine ⟨?_, past, rest, rfl, handed, ?_⟩
    -- What is left unread is too short for another frame; a header that is in place
    -- counts towards the words of its own.
    · rcases place with ⟨⟨-, words⟩, short⟩ | ⟨frame, tail, rfl, ⟨-, words⟩, short⟩
      · rw [handed, publishedWords_split 0 words rfl, complete_append, complete_short, List.append_nil]
        intro frame _
        rw [headerWords_eq] at short
        rw [Frame.words_length]
        omega
      · rw [handed, publishedWords_split 2 words (by simp [stream_cons]), complete_append,
          complete_short, List.append_nil]
        intro other same
        cases same
        rw [Frame.words_length]
        omega
    · rcases place with ⟨there, -⟩ | waits
      · exact Or.inl there
      · exact Or.inr waits

/-- A frame of one body word, and a four-word ring in which it wraps. -/
def oneWord : Frame := ⟨0x0101000c, 0, [5], rfl⟩

def oneFrame : Receiver Unit where
  qs :=
    { data := ⟨0x40000, 0x20001000, 2, 2⟩, ch := 0, qinfo := ⟨.cleared, false⟩
      slave :=
        { memory := fun _ => 0, entry := ⟨0x40000, 0x20001000, 2, 2⟩, todo := stream [oneWord]
          agenda := [], faults := [], m2sMailbox := 0, irq := false } }
  priv := ()
  dispatched := []

def readOne : RxHandler Unit := fun _ _ => .read 1 fun _ _ => .done ((), 0)

def oneCall : Receiver Unit := ((mt7697qProcData readOne 2 (publish 3 oneFrame)).getD (oneFrame, 1)).1

theorem mt7697qProcData_receives_frames_wrap :
    oneCall.dispatched =
        (complete (publishedWords [oneWord] oneCall) [oneWord]).map Frame.call ∧
      publishedWords [oneWord] oneCall = 3 := by
  have opened : Opened [oneWord] oneFrame := ⟨rfl, rfl, rfl, by decide, rfl, rfl, rfl⟩
  have wellFormed : ∀ frame ∈ [oneWord], WellFormed oneFrame.qs.data.numWords frame := by
    intro frame member
    rw [List.mem_singleton.mp member]
    exact ⟨by decide, by decide, by decide⟩
  have reads : ∀ frame ∈ [oneWord], ∀ priv,
      (readOne frame.hdr priv).Takes frame.body.length := by
    intro frame member priv
    rw [List.mem_singleton.mp member]
    exact ⟨by decide, fun _ _ => rfl⟩
  have called : mt7697qProcData readOne 2 (publish 3 oneFrame) = some (oneCall, 0) := rfl
  have exec : Trace.Exec (Step readOne) oneFrame ([] ++ [.publish 3]) (publish 3 oneFrame) :=
    .next (.refl _) rfl
  exact ⟨((mt7697qProcData_receives_frames opened wellFormed reads exec).2.2 2 _ _ called).1,
    by decide⟩

/-- When every header is sound or void and every frame fits behind the void
headers before it, no reachable state is stuck: from each one, publishing what
fits and calling takes every remaining frame off the queue. -/
theorem mt7697qProcData_passes_every_frame {handler : RxHandler Priv} {frames : List Frame}
    {start after : Receiver Priv} {events : List Event} (opened : Opened frames start)
    (clear : Clear start.qs.data.numWords 0 frames) (serves : Serves handler frames)
    (exec : Trace.Exec (Step handler) start events after) :
    (∃ past rest, frames = past ++ rest ∧ after.dispatched = calls past ∧
      (AtStart rest after ∨ ∃ frame tail, rest = frame :: tail ∧ AtBody frame tail after)) ∧
    ∀ fuel, frames.length < fuel → ∃ final,
      drain handler fuel frames.length after = some final ∧ final.dispatched = calls frames ∧
        AtStart [] final := by
  have reached : Reached frames start.qs.data.numWords frames.length after :=
    exec.invariant (fun _ rx => Reached frames start.qs.data.numWords frames.length rx)
      (opened_reached opened clear) (step_reached serves)
  refine ⟨?_, fun fuel enough => ?_⟩
  · obtain ⟨past, rest, whole, -, handed, place⟩ := reached_place reached
    exact ⟨past, rest, whole, handed, place⟩
  -- Each round takes one frame at least, so as many rounds as frames are enough.
  · obtain ⟨final, drained, last⟩ := drain_reached serves enough frames.length reached
    obtain ⟨past, rest, whole, none, handed, place⟩ := reached_place last
    have empty : rest = [] := List.length_eq_zero_iff.mp (Nat.le_zero.mp none)
    subst empty
    rw [List.append_nil] at whole
    refine ⟨final, drained, by rw [handed, whole], ?_⟩
    rcases place with there | ⟨frame, tail, absurd, -⟩
    · exact there
    · cases absurd

/-- A header of length zero and a bare queue response before a frame with a body. -/
def skipped : List Frame := [⟨0x01010000, 0, [], rfl⟩, ⟨0x01000008, 0, [], rfl⟩, oneWord]

def eightWords (frames : List Frame) : Receiver Unit where
  qs :=
    { data := ⟨0x80000, 0x20001000, 0, 0⟩, ch := 0, qinfo := ⟨.cleared, false⟩
      slave :=
        { memory := fun _ => 0, entry := ⟨0x80000, 0x20001000, 0, 0⟩, todo := stream frames
          agenda := [], faults := [], m2sMailbox := 0, irq := false } }
  priv := ()
  dispatched := []

theorem mt7697qProcData_passes_every_frame_skips :
    ∃ final, drain readOne 4 3 (eightWords skipped) = some final ∧
      final.dispatched = [oneWord.call] := by
  have opened : Opened skipped (eightWords skipped) :=
    ⟨rfl, rfl, rfl, by decide, rfl, rfl, rfl⟩
  have clear : Clear (eightWords skipped).qs.data.numWords 0 skipped :=
    ⟨by decide, by decide, ⟨by decide, by decide⟩, by decide, ⟨by decide, by decide⟩, trivial⟩
  have serves : Serves readOne skipped := by
    intro frame member handed priv
    simp only [skipped, List.mem_cons, List.not_mem_nil, or_false] at member
    rcases member with rfl | rfl | rfl
    · cases handed
    · cases handed
    · exact ⟨by decide, fun _ _ => rfl⟩
  obtain ⟨final, drained, handed, -⟩ :=
    (mt7697qProcData_passes_every_frame opened clear serves (.refl _)).2 4 (by decide)
  exact ⟨final, drained, handed⟩

/-- An unsupported queue response leaves the loop with its header still armed,
so each further call finds it again. -/
theorem mt7697qProcData_rejects {handler : RxHandler Priv} {rx : Receiver Priv} (fuel : Nat)
    (bare : rx.rsp.len = 8) (group : rx.rsp.grp = grpQueue)
    (unknown : rx.rsp.type ≠ cmdQueueInitRsp ∧ rx.rsp.type ≠ cmdQueueResetRsp)
    (quiet : rx.qs.slave.faults = []) (still : rx.qs.slave.agenda = [])
    (pulled : rx.qs.data.wrOffset = rx.qs.slave.entry.wrOffset) :
    mt7697qProcData handler (fuel + 1) rx = some (rx, -einval) := by
  -- With everything published seen already, the pull changes nothing.
  have same : mt7697qPullWrPtr rx.qs = (rx.qs, 0) := by
    simp [mt7697qPullWrPtr, slaveTick, Slave.transfer, still, quiet, ← pulled]
  have none : bodyWords 8 = 0 := by decide
  have rejected : mt7697qProcQueueRsp rx.rsp = -einval := by
    simp [mt7697qProcQueueRsp, unknown.1, unknown.2]
  have armed (loop : Loop Priv) (here : loop.rx = rx) : readHeader loop = .ok loop := by
    rw [readHeader, here, bare, if_neg (by decide)]
  have full (loop : Loop Priv) (asks : loop.req = 0) : refill loop = .ok loop := by
    rw [refill, asks, if_neg (Nat.not_lt_zero _)]
  rw [mt7697qProcData, same]
  simp only [Int.lt_irrefl, if_false, bare, none]
  rw [if_pos (by decide), procLoop, if_neg (Nat.not_lt_zero _), procFrame, armed _ rfl, ok_bind,
    full _ rfl, ok_bind, if_neg (Nat.not_lt_zero _), dispatch, if_pos group, rejected]
  rfl

/-- An unsupported queue response before a frame with a body. -/
def rejected : List Frame := [⟨0x09000008, 0, [], rfl⟩, oneWord]

def wedged : Receiver Unit :=
  ((mt7697qProcData readOne 3 (publish 5 (eightWords rejected))).getD (eightWords [], 1)).1

/-- Every later call finds the rejected header again: the frame behind it is
complete and never handed over. -/
theorem rejected_queue_response_wedges :
    Opened rejected (eightWords rejected) ∧ calls rejected = [oneWord.call] ∧
      ∀ rounds, ∃ final, drain readOne 3 (rounds + 1) (eightWords rejected) = some final ∧
        final.dispatched = [] ∧ final.rsp.len = 8 ∧ hostUnread final.qs = oneWord.words := by
  refine ⟨⟨rfl, rfl, rfl, by decide, rfl, rfl, rfl⟩, rfl, fun rounds => ⟨wedged, ?_, rfl, rfl, rfl⟩⟩
  have first : mt7697qProcData readOne 3 (publish 5 (eightWords rejected)) =
      some (wedged, -einval) := rfl
  have again : mt7697qProcData readOne 3 (publish 0 wedged) = some (wedged, -einval) :=
    mt7697qProcData_rejects 2 rfl rfl (by decide) rfl rfl rfl
  -- The state is a fixed point of a round.
  have stays : ∀ more, drain readOne 3 more wedged = some wedged := by
    intro more
    induction more with
    | zero => rfl
    | succ more ih =>
        have idle : wedged.qs.slave.todo.length = 0 := rfl
        simp only [drain, idle, again, ih]
  have whole : (eightWords rejected).qs.slave.todo.length = 5 := rfl
  simp only [drain, whole, first, stays]

end MangOH.ReceiveRuns
