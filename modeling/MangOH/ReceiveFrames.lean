import MangOH.QueueReceive

/-!
Frames on an S2M queue. The slave writes a finite sequence of frames and
publishes it word by word; the receive loop must find every frame again. The
cursor says where in the sequence the host's read offset stands: at the start
of a frame, or behind a header whose body it still waits for.
-/

namespace MangOH.ReceiveFrames

open BitFields CyclicWindow QueueMemory QueueRead QueueReceive

/-- A header and the words its `cmd.len` delimits. A length that does not even
cover the header delimits no body. -/
structure Frame where
  cmd : Word
  result : Word
  body : List Word
  sized : body.length =
    lenToWord ((RspHdr.cleared.store [cmd, result]).len.toNat - 8)

namespace Frame

def hdr (frame : Frame) : RspHdr := RspHdr.cleared.store [frame.cmd, frame.result]
def len (frame : Frame) : Nat := frame.hdr.len.toNat
def words (frame : Frame) : List Word := frame.cmd :: frame.result :: frame.body
def control (frame : Frame) : Bool := frame.hdr.grp = grpQueue
def handed (frame : Frame) : Bool := !frame.control && frame.len != 0
def call (frame : Frame) : RspHdr × List Word := (frame.hdr, frame.body)

/-- The length covers the header, and a queue-group frame is a bare response
of a known type. -/
structure Sound (frame : Frame) : Prop where
  covers : 8 ≤ frame.len
  queue : frame.control = true → frame.len = 8 ∧
    (frame.hdr.type = cmdQueueInitRsp ∨ frame.hdr.type = cmdQueueResetRsp)

end Frame

def stream (frames : List Frame) : List Word := frames.flatMap Frame.words

/-- The `rx_fcn` calls that a sequence of frames asks for. -/
def calls (frames : List Frame) : List (RspHdr × List Word) :=
  (frames.filter Frame.handed).map Frame.call

/-- `rx_fcn` reads exactly the body of every frame it is called for. -/
def Serves {Priv : Type} (handler : RxHandler Priv) (frames : List Frame) : Prop :=
  ∀ frame ∈ frames, frame.handed = true → ∀ priv,
    (handler frame.hdr priv).Takes frame.body.length

/-- Frames the receive loop gets through with `held` words not yet returned to
the slave. A header of length zero is dropped, but its words stay held until
the next frame has been handled, so they take room from that frame. -/
def Clear (size : Nat) : Nat → List Frame → Prop
  | _, [] => True
  | held, frame :: rest =>
      held + frame.words.length ≤ size - 1 ∧
        if frame.len = 0 then Clear size (held + frame.words.length) rest
        else frame.Sound ∧ Clear size 0 rest

inductive Cursor where
  | start (rest : List Frame)
  | body (frame : Frame) (tail : List Frame)

namespace Cursor

def words : Cursor → List Word
  | start rest => stream rest
  | body frame tail => frame.body ++ stream tail

def need : Cursor → Nat
  | start _ => headerWords
  | body frame _ => frame.body.length

def left : Cursor → List Frame
  | start rest => rest
  | body frame tail => frame :: tail

def Header : Cursor → RspHdr → Prop
  | start _, header => header.len = 0
  | body frame _, header => header = frame.hdr

def Passes (size held : Nat) : Cursor → Prop
  | start rest => Clear size held rest
  | body frame tail =>
      held + frame.body.length ≤ size - 1 ∧ frame.Sound ∧ Clear size 0 tail

end Cursor

variable {Priv : Type}

/-- The receiver stands at `cursor` in `frames`, whose earlier frames have been
handed over in order. -/
structure At (frames : List Frame) (size : Nat) (rx : Receiver Priv) (cursor : Cursor)
    (held seen unseen : List Word) : Prop where
  feed : Feed rx.qs held seen unseen
  size_eq : rx.qs.data.numWords = size
  words : seen ++ (unseen ++ rx.qs.slave.todo) = cursor.words
  header : cursor.Header rx.rsp
  done : ∃ past, frames = past ++ cursor.left ∧ rx.dispatched = calls past

/-- Where a pass or a call stops, measured against the frames and the words to
come before it: it waits for words that are not published, or it has dropped a
header of length zero. -/
def Paused (frames : List Frame) (size left todo : Nat) (rx : Receiver Priv) : Prop :=
  ∃ cursor held seen, At frames size rx cursor held seen [] ∧
    cursor.Passes size held.length ∧
    cursor.left.length ≤ left ∧ rx.qs.slave.todo.length ≤ todo ∧
    (seen.length < cursor.need ∨
      cursor.left.length < left ∧ ∃ frame ∈ frames, frame.len = 0)

theorem headerWords_eq : headerWords = 2 := by decide

theorem stream_cons (frame : Frame) (tail : List Frame) :
    stream (frame :: tail) = frame.cmd :: frame.result :: (frame.body ++ stream tail) := rfl

theorem calls_snoc (past : List Frame) (frame : Frame) :
    calls (past ++ [frame]) =
      calls past ++ if frame.handed then [frame.call] else [] := by
  cases handed : frame.handed <;> simp [calls, List.filter_append, handed]

namespace Frame

variable {frame : Frame}

theorem words_length : frame.words.length = frame.body.length + 2 := rfl

/-- For a length that covers the header the unsigned body size is the frame's. -/
theorem Sound.body_eq (sound : frame.Sound) : bodyWords frame.hdr.len = frame.body.length := by
  have small : frame.hdr.len.toNat < 65536 := frame.hdr.len.isLt
  have covers := sound.covers
  unfold Frame.len at covers
  rw [bodyWords, sub32_of_le covers (by omega), frame.sized]
  rfl

theorem Sound.len_ne (sound : frame.Sound) : frame.hdr.len ≠ 0 := by
  intro zero
  have covers := sound.covers
  rw [Frame.len, zero] at covers
  simp at covers

theorem Sound.control_body (sound : frame.Sound) (control : frame.control = true) :
    frame.body = [] := by
  have bare : (RspHdr.cleared.store [frame.cmd, frame.result]).len.toNat = 8 :=
    (sound.queue control).1
  have sized := frame.sized
  rw [bare] at sized
  exact List.length_eq_zero_iff.mp sized

/-- A length of zero wraps to a body of 2^30 - 2 words. -/
theorem void_len (void : frame.len = 0) :
    frame.hdr.len = 0 ∧ frame.body = [] ∧ bodyWords frame.hdr.len = 1073741822 := by
  have none : (RspHdr.cleared.store [frame.cmd, frame.result]).len.toNat = 0 := void
  have sized := frame.sized
  rw [none] at sized
  refine ⟨BitVec.eq_of_toNat_eq void, List.length_eq_zero_iff.mp sized, ?_⟩
  unfold Frame.len at void
  rw [bodyWords, void]
  decide

end Frame

theorem setRsp_feed (rx : Receiver Priv) {held seen unseen : List Word}
    (feed : Feed rx.qs held seen unseen) (header : RspHdr) :
    Feed (rx.setRsp header).qs held seen unseen :=
  ⟨feed.quiet, feed.flags, feed.base, feed.ring, feed.read, feed.write⟩

theorem At.advance {frames : List Frame} {size : Nat} {rx : Receiver Priv} {cursor : Cursor}
    {held seen unseen : List Word} (here : At frames size rx cursor held seen unseen)
    {qs : QueueSpec} {shown hidden : List Word} (feed : Feed qs held shown hidden)
    (words : shown ++ (hidden ++ qs.slave.todo) = seen ++ (unseen ++ rx.qs.slave.todo))
    (info : qs.qinfo = rx.qs.qinfo) (flags : qs.data.flags = rx.qs.data.flags) :
    At frames size { rx with qs := qs } cursor held shown hidden := by
  refine ⟨feed, ?_, words.trans here.words, ?_, here.done⟩
  · rw [← here.size_eq, QueueData.numWords, QueueData.numWords, flags]
  · have header := here.header
    rw [Receiver.rsp, ← info] at header
    exact header

section Stages

variable {frames : List Frame} {size : Nat} {cursor : Cursor} {loop : Loop Priv}
  {held seen unseen : List Word}

theorem readHeader_armed {frame : Frame} {tail : List Frame}
    (here : At frames size loop.rx (.body frame tail) held seen unseen) (sound : frame.Sound) :
    readHeader loop = .ok loop := by
  have header : loop.rx.rsp = frame.hdr := here.header
  rw [readHeader, header, if_neg sound.len_ne]

/-- Two visible words at the start of a frame are read as its header. -/
theorem readHeader_start {rest : List Frame}
    (here : At frames size loop.rx (.start rest) held seen unseen)
    (avail : loop.avail = seen.length) (req : loop.req = headerWords)
    (enough : headerWords ≤ seen.length) :
    ∃ frame tail after taken more, rest = frame :: tail ∧ readHeader loop = .ok after ∧
      Feed after.rx.qs taken more unseen ∧ after.rx.qs.data.numWords = size ∧
      more ++ (unseen ++ after.rx.qs.slave.todo) = frame.body ++ stream tail ∧
      after.rx.rsp = frame.hdr ∧ after.rx.dispatched = loop.rx.dispatched ∧
      taken.length = held.length + 2 ∧ after.avail = more.length ∧
      after.req = bodyWords frame.hdr.len ∧
      after.rx.qs.slave.todo = loop.rx.qs.slave.todo := by
  have words : seen ++ (unseen ++ loop.rx.qs.slave.todo) = stream rest := here.words
  have empty : loop.rx.rsp.len = 0 := here.header
  rw [headerWords_eq] at enough req
  obtain ⟨first, second, more, rfl⟩ : ∃ first second more, seen = first :: second :: more := by
    match seen, enough with
    | first :: second :: more, _ => exact ⟨first, second, more, rfl⟩
  -- The visible words come from the stream, so it is not empty.
  cases rest with
  | nil => simp [stream] at words
  | cons frame tail =>
      rw [stream_cons] at words
      simp only [List.cons_append, List.cons.injEq] at words
      obtain ⟨rfl, rfl, words⟩ := words
      obtain ⟨qs, result, kept, moved⟩ := mt7697qRead_feed 2 here.feed
      have slave : qs.slave = loop.rx.qs.slave := by rw [moved]
      have size_eq : qs.data.numWords = size := by
        rw [← here.size_eq, moved]
        rfl
      have read : mt7697qRead loop.rx.qs loop.req = (qs, 2, [frame.cmd, frame.result]) := by
        rw [req]; exact result
      have left : sub32 loop.avail headerWords = more.length := by
        have bound := here.feed.total_lt
        have small := numWords_lt loop.rx.qs.data
        simp only [List.length_cons] at bound avail
        rw [headerWords_eq, sub32_of_le (by omega) (by omega)]
        omega
      have feed : Feed qs (held ++ [frame.cmd, frame.result]) more unseen := kept
      refine ⟨frame, tail, ⟨{ loop.rx with qs := qs }.setRsp frame.hdr, more.length,
        bodyWords frame.hdr.len, 2⟩, held ++ [frame.cmd, frame.result], more, rfl, ?_,
        setRsp_feed { loop.rx with qs := qs } feed frame.hdr, ?_, ?_, rfl, rfl,
        List.length_append, rfl, rfl, congrArg Slave.todo slave⟩
      · rw [readHeader, if_pos empty, read]
        simp only [req, left]
        rfl
      · simp only [Receiver.setRsp]
        exact size_eq
      · simp only [Receiver.setRsp, slave]
        exact words

/-- The loop looks again at the write offset before it gives up waiting. -/
theorem refill_at (here : At frames size loop.rx cursor held seen unseen)
    (avail : loop.avail = seen.length) :
    ∃ after shown hidden, refill loop = .ok after ∧
      At frames size after.rx cursor held shown hidden ∧ after.avail = shown.length ∧
      after.req = loop.req ∧ (after.avail < after.req → hidden = []) ∧
      after.rx.qs.slave.todo.length ≤ loop.rx.qs.slave.todo.length := by
  by_cases short : loop.avail < loop.req
  · obtain ⟨qs, amount, result, feed, left, info, flags⟩ := mt7697qPullWrPtr_feed here.feed
    refine ⟨⟨{ loop.rx with qs := qs }, mt7697qGetNumWords qs, loop.req, 0⟩, _, [], ?_,
      here.advance feed ?_ info flags, feed.numWords_seen, rfl, fun _ => rfl, ?_⟩
    · rw [refill, if_pos short, result]
      rfl
    · rw [left, List.nil_append, List.append_assoc, List.append_assoc, List.take_append_drop]
    · simp [left]
  · refine ⟨loop, seen, unseen, ?_, here, avail, rfl, fun low => absurd low short, le_refl _⟩
    rw [refill, if_neg short]

/-- A sound frame whose body is visible is handed over once and left behind. -/
theorem dispatch_at {handler : RxHandler Priv} {frame : Frame} {tail : List Frame}
    (here : At frames size loop.rx (.body frame tail) held seen unseen) (sound : frame.Sound)
    (takes : frame.handed = true → ∀ priv, (handler frame.hdr priv).Takes frame.body.length)
    (avail : loop.avail = seen.length) (req : loop.req = frame.body.length)
    (enough : frame.body.length ≤ seen.length) :
    ∃ after taken left, dispatch handler loop = .ok after ∧
      At frames size (settle after).rx (.start tail) taken left unseen ∧
      (settle after).avail = left.length ∧
      (settle after).rx.qs.slave.todo = loop.rx.qs.slave.todo := by
  have header : loop.rx.rsp = frame.hdr := here.header
  have words : seen ++ (unseen ++ loop.rx.qs.slave.todo) = frame.body ++ stream tail := here.words
  have bound := here.feed.total_lt
  have small := numWords_lt loop.rx.qs.data
  obtain ⟨past, whole, handed⟩ := here.done
  have body : seen.take frame.body.length = frame.body := by
    have front := congrArg (List.take frame.body.length) words
    rwa [List.take_append_of_le_length enough, List.take_left] at front
  have rest : seen.drop frame.body.length ++ (unseen ++ loop.rx.qs.slave.todo) = stream tail := by
    have back := congrArg (List.drop frame.body.length) words
    rwa [List.drop_append_of_le_length enough, List.drop_left] at back
  have left : sub32 loop.avail loop.req = (seen.drop frame.body.length).length := by
    rw [avail, req, sub32_of_le enough (by omega), List.length_drop]
  have next : ∃ past, frames = past ++ (Cursor.start tail).left ∧
      loop.rx.dispatched ++ (if frame.handed then [frame.call] else []) = calls past :=
    ⟨past ++ [frame], by simpa [Cursor.left] using whole, by rw [calls_snoc, handed]⟩
  -- The loop answers the queue group itself; any other frame goes to `rx_fcn`.
  by_cases control : frame.hdr.grp = grpQueue
  · have flag : frame.control = true := by simpa [Frame.control] using control
    have known := (sound.queue flag).2
    have accepted : mt7697qProcQueueRsp frame.hdr = 0 := by
      unfold mt7697qProcQueueRsp
      split_ifs with first second
      · rfl
      · rfl
      · exact absurd known (by simp [first, second])
    have none : frame.body = [] := sound.control_body flag
    simp only [none, List.length_nil, List.drop_zero] at rest left
    simp only [Frame.handed, flag, Bool.not_true, Bool.false_and, Bool.false_eq_true, if_false,
      List.append_nil] at next
    refine ⟨{ loop with ret := 0 }, held, seen, ?_,
      ⟨setRsp_feed loop.rx here.feed _, here.size_eq, rest, rfl, next⟩, left, rfl⟩
    rw [dispatch, header, if_pos control, accepted]
    rfl
  · have flag : frame.handed = true := by
      have covers := sound.covers
      simp [Frame.handed, Frame.control, control]
      omega
    obtain ⟨qs, ⟨priv, ret⟩, ran, feed, moved⟩ :=
      run_feed _ (takes flag loop.rx.priv) here.feed enough
    rw [body] at ran
    simp only [flag, if_true] at next
    refine ⟨{ loop with
      rx := ⟨qs, priv, loop.rx.dispatched ++ [frame.call]⟩, ret := ret }, _, _, ?_,
      ⟨setRsp_feed ⟨qs, priv, _⟩ feed _, ?_, ?_, rfl, next⟩, left, ?_⟩
    · rw [dispatch, header, if_neg control, ran]
      rfl
    · rw [← here.size_eq, settle, Receiver.setRsp, moved]
      rfl
    · rw [settle, Receiver.setRsp, moved]
      exact rest
    · rw [settle, Receiver.setRsp, moved]

theorem pushRead_at (here : At frames size loop.rx cursor held seen unseen) :
    ∃ after, pushRead loop = .ok after ∧ At frames size after.rx cursor [] seen unseen ∧
      after.avail = loop.avail ∧ after.req = loop.req ∧
      after.rx.qs.slave.todo = loop.rx.qs.slave.todo := by
  obtain ⟨qs, result, feed, todo, info, flags⟩ := mt7697qPushRdPtr_feed here.feed
  refine ⟨{ loop with rx := { loop.rx with qs := qs }, ret := 0 }, ?_, ?_, rfl, rfl, todo⟩
  · rw [pushRead, result]
    rfl
  · obtain ⟨past, whole, handed⟩ := here.done
    refine ⟨feed, ?_, ?_, ?_, past, whole, handed⟩
    · rw [← here.size_eq, QueueData.numWords, QueueData.numWords, flags]
    · rw [todo]
      exact here.words
    · have header := here.header
      rw [Receiver.rsp, ← info] at header
      exact header

/-- The tail of a pass: the next header is looked for before room is returned. -/
theorem finish_at {rest : List Frame}
    (here : At frames size loop.rx (.start rest) held seen unseen) (avail : loop.avail = seen.length) :
    ∃ after shown hidden, (refill loop >>= pushRead) = .ok after ∧
      At frames size after.rx (.start rest) [] shown hidden ∧ after.avail = shown.length ∧
      after.req = loop.req ∧ (after.avail < after.req → hidden = []) ∧
      after.rx.qs.slave.todo.length ≤ loop.rx.qs.slave.todo.length := by
  obtain ⟨middle, shown, hidden, filled, there, count, asked, dry, less⟩ := refill_at here avail
  obtain ⟨after, pushed, stands, same, kept, todo⟩ := pushRead_at there
  refine ⟨after, shown, hidden, ?_, stands, same.trans count, kept.trans asked, ?_, ?_⟩
  · rw [filled]
    exact pushed
  · rw [same, kept]
    exact dry
  · rw [todo]
    exact less

/-- With a header in place a pass hands its frame over or waits for the body. -/
theorem procBody_at {handler : RxHandler Priv} {frame : Frame} {tail : List Frame}
    (here : At frames size loop.rx (.body frame tail) held seen unseen)
    (passes : (Cursor.body frame tail).Passes size held.length)
    (takes : frame.handed = true → ∀ priv, (handler frame.hdr priv).Takes frame.body.length)
    (avail : loop.avail = seen.length) (req : loop.req = frame.body.length)
    {before : Loop Priv} (armed : readHeader before = .ok loop) :
    (∃ after shown hidden, procFrame handler before = .ok after ∧
      At frames size after.rx (.start tail) [] shown hidden ∧ after.avail = shown.length ∧
      after.req = headerWords ∧ (after.avail < after.req → hidden = []) ∧
      after.rx.qs.slave.todo.length ≤ loop.rx.qs.slave.todo.length) ∨
    ∃ exit ret, procFrame handler before = .error (exit, ret) ∧
      Paused frames size (tail.length + 1) loop.rx.qs.slave.todo.length exit := by
  obtain ⟨middle, shown, hidden, filled, there, count, asked, dry, less⟩ := refill_at here avail
  rw [req] at asked
  -- Short after the refill, the call returns and the header stays in place.
  by_cases short : middle.avail < middle.req
  · rw [dry short] at there
    refine Or.inr ⟨middle.rx, middle.ret, ?_, .body frame tail, held, shown, there, passes,
      le_refl _, less, Or.inl ?_⟩
    · rw [procFrame, armed]
      rw [ok_bind, filled, ok_bind, if_pos short]
    · rw [← count, Cursor.need, ← asked]
      exact short
  · have enough : frame.body.length ≤ shown.length := by omega
    obtain ⟨sent, taken, left, handed, stands, rest, todo⟩ :=
      dispatch_at there passes.2.1 takes count asked enough
    obtain ⟨after, last, waiting, done, final, remains, next, idle, fewer⟩ := finish_at stands rest
    refine Or.inl ⟨after, last, waiting, ?_, final, remains, next, idle, ?_⟩
    · rw [procFrame, armed]
      rw [ok_bind, filled, ok_bind, if_neg short, handed, ok_bind]
      exact done
    · rw [todo] at fewer
      exact fewer.trans less

/-- A header of length zero asks for more than any ring holds; it is left
behind with the header still unarmed. -/
theorem procVoid_at {handler : RxHandler Priv} {before : Loop Priv} {frame : Frame}
    {tail : List Frame} (here : At frames size loop.rx (.start tail) held seen unseen)
    (passes : Clear size held.length tail) (avail : loop.avail = seen.length)
    (req : loop.req = 1073741822) (member : frame ∈ frames) (void : frame.len = 0)
    (armed : readHeader before = .ok loop) :
    ∃ exit ret, procFrame handler before = .error (exit, ret) ∧
      Paused frames size (tail.length + 1) loop.rx.qs.slave.todo.length exit := by
  obtain ⟨middle, shown, hidden, filled, there, count, asked, dry, less⟩ := refill_at here avail
  -- No ring holds 2^30 - 2 words, so the refill does not help.
  have bound := there.feed.total_lt
  have small := numWords_lt middle.rx.qs.data
  have short : middle.avail < middle.req := by omega
  rw [dry short] at there
  refine ⟨middle.rx, middle.ret, ?_, .start tail, held, shown, there, passes, Nat.le_succ _, less,
    Or.inr ⟨Nat.lt_succ_self _, frame, member, void⟩⟩
  rw [procFrame, armed, ok_bind, filled, ok_bind, if_pos short]

/-- One pass takes the next frame off the queue or stops at it. -/
theorem procFrame_at {handler : RxHandler Priv} (serves : Serves handler frames)
    (here : At frames size loop.rx cursor held seen unseen)
    (passes : cursor.Passes size held.length) (avail : loop.avail = seen.length)
    (req : loop.req = cursor.need) (enough : cursor.need ≤ seen.length) :
    (∃ after rest shown hidden, procFrame handler loop = .ok after ∧
      At frames size after.rx (.start rest) [] shown hidden ∧ Clear size 0 rest ∧
      rest.length < cursor.left.length ∧ after.avail = shown.length ∧ after.req = headerWords ∧
      (after.avail < after.req → hidden = []) ∧
      after.rx.qs.slave.todo.length ≤ loop.rx.qs.slave.todo.length) ∨
    ∃ exit ret, procFrame handler loop = .error (exit, ret) ∧
      Paused frames size cursor.left.length loop.rx.qs.slave.todo.length exit := by
  obtain ⟨past, whole, handed⟩ := here.done
  cases cursor with
  | body frame tail =>
      have member : frame ∈ frames := by rw [whole]; simp [Cursor.left]
      have armed := readHeader_armed here passes.2.1
      rcases procBody_at here passes (serves frame member) avail req armed with
        ⟨after, shown, hidden, result, there, rest⟩ | stopped
      · exact Or.inl ⟨after, tail, shown, hidden, result, there, passes.2.2,
          Nat.lt_succ_self _, rest⟩
      · exact Or.inr stopped
  | start rest =>
      obtain ⟨frame, tail, middle, taken, more, rfl, armed, feed, size_eq, words, header, kept,
        longer, count, asked, todo⟩ := readHeader_start here avail req enough
      have member : frame ∈ frames := by rw [whole]; simp [Cursor.left]
      obtain ⟨room, rest⟩ := passes
      rw [Frame.words_length] at room
      rw [← kept] at handed
      rw [← todo]
      by_cases void : frame.len = 0
      · obtain ⟨none, bare, huge⟩ := Frame.void_len void
        rw [if_pos void, Frame.words_length, bare] at rest
        -- The void frame is all header: the cursor is already at the next one.
        have there : At frames size middle.rx (.start tail) taken more unseen := by
          refine ⟨feed, size_eq, ?_, ?_, past ++ [frame], ?_, ?_⟩
          · rw [bare] at words
            exact words
          · rw [Cursor.Header, header]
            exact none
          · simpa [Cursor.left] using whole
          · rw [calls_snoc, ← handed]
            simp [Frame.handed, void]
        exact Or.inr (procVoid_at there (by rw [longer]; exact rest) count
          (asked.trans huge) member void armed)
      · rw [if_neg void] at rest
        have there : At frames size middle.rx (.body frame tail) taken more unseen :=
          ⟨feed, size_eq, words, header, past, whole, handed⟩
        have fits : (Cursor.body frame tail).Passes size taken.length :=
          ⟨by omega, rest.1, rest.2⟩
        rcases procBody_at there fits (serves frame member) count
            (asked.trans rest.1.body_eq) armed with
          ⟨after, shown, hidden, result, stands, remains⟩ | stopped
        · exact Or.inl ⟨after, tail, shown, hidden, result, stands, rest.2,
            Nat.lt_succ_self _, remains⟩
        · exact Or.inr stopped

end Stages

theorem Paused.mono {frames : List Frame} {size left todo more further : Nat} {rx : Receiver Priv}
    (paused : Paused frames size left todo rx) (left_le : left ≤ more) (todo_le : todo ≤ further) :
    Paused frames size more further rx := by
  obtain ⟨cursor, held, seen, here, passes, fewer, less, waits | ⟨dropped, void⟩⟩ := paused
  · exact ⟨cursor, held, seen, here, passes, fewer.trans left_le, less.trans todo_le, Or.inl waits⟩
  · exact ⟨cursor, held, seen, here, passes, fewer.trans left_le, less.trans todo_le,
      Or.inr ⟨by omega, void⟩⟩

theorem procLoop_at {handler : RxHandler Priv} {frames : List Frame} {size : Nat}
    (serves : Serves handler frames) (fuel : Nat) :
    ∀ {loop : Loop Priv} {cursor : Cursor} {held seen unseen : List Word},
      At frames size loop.rx cursor held seen unseen → cursor.Passes size held.length →
      loop.avail = seen.length → loop.req = cursor.need → (loop.avail < loop.req → unseen = []) →
      (∀ exit ret, procLoop handler fuel loop = some (exit, ret) →
        Paused frames size cursor.left.length loop.rx.qs.slave.todo.length exit) ∧
      (cursor.left.length < fuel → ∃ result, procLoop handler fuel loop = some result) := by
  -- A pass that goes on has taken a frame, so it can be paid for with one unit.
  induction fuel with
  | zero =>
      intro loop cursor held seen unseen _ _ _ _ _
      exact ⟨fun exit ret result => by simp [procLoop] at result, fun low => absurd low (by simp)⟩
  | succ fuel ih =>
      intro loop cursor held seen unseen here passes avail req dry
      by_cases short : loop.avail < loop.req
      · rw [procLoop, if_pos short]
        refine ⟨fun exit ret result => ?_, fun _ => ⟨_, rfl⟩⟩
        cases result
        rw [dry short] at here
        exact ⟨cursor, held, seen, here, passes, le_refl _, le_refl _, Or.inl (by omega)⟩
      · rw [procLoop, if_neg short]
        rcases procFrame_at serves here passes avail req (by omega) with
          ⟨after, rest, shown, hidden, result, there, clear, fewer, count, asked, idle, less⟩ |
          ⟨exit, ret, result, paused⟩
        · rw [result]
          obtain ⟨returns, ends⟩ := ih there clear count asked idle
          exact ⟨fun exit ret final => (returns exit ret final).mono (Nat.le_of_lt fewer) less,
            fun enough => ends (Nat.lt_of_lt_of_le fewer (Nat.le_of_lt_succ enough))⟩
        · rw [result]
          refine ⟨fun last code final => ?_, fun _ => ⟨_, rfl⟩⟩
          cases final
          exact paused

/-- A call returns with fuel for one pass more than there are frames left, and
stops where `Paused` says. -/
theorem mt7697qProcData_at {handler : RxHandler Priv} {frames : List Frame} {size : Nat}
    {rx : Receiver Priv} {cursor : Cursor} {held seen unseen : List Word}
    (serves : Serves handler frames) (here : At frames size rx cursor held seen unseen)
    (passes : cursor.Passes size held.length) (fuel : Nat) :
    (∀ exit ret, mt7697qProcData handler fuel rx = some (exit, ret) →
      Paused frames size cursor.left.length rx.qs.slave.todo.length exit) ∧
    (cursor.left.length < fuel → ∃ result, mt7697qProcData handler fuel rx = some result) := by
  obtain ⟨qs, amount, pulled, feed, left, info, flags⟩ := mt7697qPullWrPtr_feed here.feed
  have there := here.advance feed (by
    rw [left, List.nil_append, List.append_assoc, List.append_assoc, List.take_append_drop])
    info flags
  have header := there.header
  -- A header in place decides how many words the loop first waits for.
  have called : ∃ loop, mt7697qProcData handler fuel rx = procLoop handler fuel loop ∧
      loop.rx = { rx with qs := qs } ∧ loop.avail = mt7697qGetNumWords qs ∧
      loop.req = cursor.need := by
    refine ⟨⟨{ rx with qs := qs }, mt7697qGetNumWords qs, cursor.need, 0⟩, ?_, rfl, rfl, rfl⟩
    rw [mt7697qProcData, pulled]
    simp only [Int.lt_irrefl, if_false]
    cases cursor with
    | start rest =>
        rw [show (Receiver.rsp { rx with qs := qs }).len = 0 from header]
        rfl
    | body frame tail =>
        have covers : 8 ≤ frame.hdr.len.toNat := passes.2.1.covers
        rw [show Receiver.rsp { rx with qs := qs } = frame.hdr from header, if_pos (by omega),
          passes.2.1.body_eq]
        rfl
  obtain ⟨loop, called, current, count, asked⟩ := called
  rw [← current] at there
  obtain ⟨returns, ends⟩ := procLoop_at serves fuel there passes
    (count.trans feed.numWords_seen) asked (fun _ => rfl)
  have fewer : loop.rx.qs.slave.todo.length ≤ rx.qs.slave.todo.length := by
    simp [current, left]
  rw [called]
  exact ⟨fun exit ret result => (returns exit ret result).mono (le_refl _) fewer, ends⟩

end MangOH.ReceiveFrames
