import MangOH.ReceiveRuns
import MangOH.RequestBytes

/-!
The receive worker of the serial transport. It takes a header from the device
and lets `rx_fcn` read the body, with no queue between them and no length of
its own; what it does not read of a frame it takes for the next header.
-/

namespace MangOH.UartReceive

open BitFields QueueMemory QueueReceive ReceiveFrames
open RequestBytes (le32)

def grpUart : BitVec 8 := 1

def epipe : Int := 32

/-- The open device, with all bytes that are still to come. `chunks` bounds
what each read returns; without a bound it returns what there is. -/
structure Tty where
  fdHndl : Bool
  bytes : List (BitVec 8)
  chunks : List Nat

/-- `kernel_read`: at least one byte, unless nothing is asked for or nothing comes. -/
def kernelRead (count : Nat) (tty : Tty) : Tty × List (BitVec 8) :=
  let most := match tty.chunks with
    | [] => count
    | chunk :: _ => min count (chunk + 1)
  ({ tty with bytes := tty.bytes.drop most, chunks := tty.chunks.tail }, tty.bytes.take most)

/-- The loop of `mt7697_uart_read`: whether `count` bytes were read, and what was. -/
def readBytes : Nat → Nat → Tty → Tty × Bool × List (BitVec 8)
  | 0, _, tty => (tty, false, [])
  | fuel + 1, count, tty =>
      let (tty, got) := kernelRead count tty
      if got = [] then (tty, false, [])
      else if count - got.length = 0 then (tty, true, got)
      else
        let (tty, whole, rest) := readBytes fuel (count - got.length) tty
        (tty, whole, got ++ rest)

/-- The words that a little-endian host sees in the buffer. -/
def wordsOf : List (BitVec 8) → List Word
  | b0 :: b1 :: b2 :: b3 :: rest => (b3 ++ b2 ++ b1 ++ b0) :: wordsOf rest
  | _ => []

def mt7697UartRead (tty : Tty) (len : Nat) : Tty × Int × List Word :=
  if tty.fdHndl = false then (tty, 0, [])
  else
    let (tty, whole, bytes) := readBytes (4 * len + 1) (4 * len) tty
    (tty, if whole = true then len else 0, wordsOf bytes)

/-- A device that has nothing more to send hangs up. -/
def mt7697UartRxPoll (tty : Tty) : Int := if tty.bytes = [] then -epipe else 0

/-- The worker, every `rx_fcn` call with the words it read, and how many bytes
were still to come at each read of a header. -/
structure Uart (Priv : Type) where
  tty : Tty
  rsp : RspHdr
  close : Bool
  priv : Priv
  calls : List (RspHdr × List Word)
  starts : List Nat

variable {Priv : Type}

def readHeader (uart : Uart Priv) : Uart Priv × Int :=
  let (tty, ret, words) := mt7697UartRead uart.tty headerWords
  ({ uart with
    tty := tty, rsp := uart.rsp.store words, starts := uart.starts ++ [uart.tty.bytes.length] }, ret)

/-- `rx_fcn` has its return code logged. -/
def callHandler (handler : RxHandler Priv) (uart : Uart Priv) : Uart Priv :=
  let (tty, words, priv, _) := (handler uart.rsp uart.priv).run mt7697UartRead uart.tty
  { uart with tty := tty, priv := priv, calls := uart.calls ++ [(uart.rsp, words)] }

/-- One pass through the loop; `goto cleanup` is the error side. -/
def rxFrame (handler : RxHandler Priv) (uart : Uart Priv) : Except (Uart Priv) (Uart Priv) :=
  if mt7697UartRxPoll uart.tty ≠ 0 then .error uart
  else
    let (uart, ret) := readHeader uart
    if ret ≠ (headerWords : Int) then .error uart
    else if uart.rsp.grp = grpUart then
      -- A shutdown response and a type that is not known differ only in the log.
      if uart.close = true then .error uart else .ok uart
    else .ok (callHandler handler uart)

/-- `none` means that `fuel` passes were not enough. -/
def mt7697UartRxWork (handler : RxHandler Priv) : Nat → Uart Priv → Option (Uart Priv)
  | 0, _ => none
  | fuel + 1, uart =>
      match rxFrame handler uart with
      | .error uart => some { uart with close := false }
      | .ok uart => mt7697UartRxWork handler fuel uart

/-! What the worker should make of a sequence of frames. -/

def outside (frame : Frame) : Bool := frame.hdr.grp ≠ grpUart

/-- The frames of neither transport's own group. -/
def plain (frames : List Frame) : List Frame :=
  frames.filter fun frame => outside frame && !frame.control

/-- The bytes still to come at the start of each frame. -/
def frameStarts : List Frame → List Nat
  | [] => []
  | frame :: rest => 4 * (stream (frame :: rest)).length :: frameStarts rest

/-- Headers are taken at the starts of frames and nowhere else, each frame of
another group is handed over once and in order, and a receive queue of the
other transport hands over the same when it gets the same frames. -/
structure Framed (handler : RxHandler Priv) (frames : List Frame) (uart : Uart Priv) : Prop where
  starts : uart.starts = frameStarts frames
  calls : uart.calls = (frames.filter outside).map Frame.call
  queue : ∀ (rx : Receiver Priv) (fuel : Nat), ReceiveRuns.Opened (plain frames) rx →
    (∀ frame ∈ plain frames, ReceiveRuns.WellFormed rx.qs.data.numWords frame) →
    (plain frames).length < fuel →
    ∃ final, ReceiveRuns.drain handler fuel (plain frames).length rx = some final ∧
      final.dispatched = uart.calls.filter fun call => call.1.grp ≠ grpQueue

/-- The worker as `mt7697_uart_open` schedules it. -/
structure Started (frames : List Frame) (uart : Uart Priv) : Prop where
  fdHndl : uart.tty.fdHndl = true
  bytes : uart.tty.bytes = (stream frames).flatMap le32
  close : uart.close = false
  calls : uart.calls = []
  starts : uart.starts = []

/-- No frame of the transport's own group has a body. -/
def Bare (frames : List Frame) : Prop := ∀ frame ∈ frames, frame.hdr.grp = grpUart → frame.body = []

/-! Reads. -/

variable {fuel count : Nat} {tty : Tty}

theorem le32_word (word : Word) :
    (word >>> 24).setWidth 8 ++ (word >>> 16).setWidth 8 ++ (word >>> 8).setWidth 8 ++
      word.setWidth 8 = word := by
  apply BitVec.eq_of_getLsbD_eq
  intro index below
  simp only [BitVec.getLsbD_setWidth, BitVec.getLsbD_append, BitVec.getLsbD_ushiftRight]
  grind

theorem wordsOf_le32 (words : List Word) : wordsOf (words.flatMap le32) = words := by
  induction words with
  | nil => rfl
  | cons word rest ih =>
      have bytes : (word :: rest).flatMap le32 = word.setWidth 8 :: (word >>> 8).setWidth 8 ::
          (word >>> 16).setWidth 8 :: (word >>> 24).setWidth 8 :: rest.flatMap le32 := rfl
      rw [bytes, wordsOf, ih, le32_word]

theorem length_le32 (words : List Word) : (words.flatMap le32).length = 4 * words.length := by
  induction words with
  | nil => rfl
  | cons word rest ih =>
      rw [List.flatMap_cons, List.length_append, ih, List.length_cons]
      simp only [le32, List.length_cons, List.length_nil]
      omega

/-- Between one byte and all that was asked for, of what there is. -/
theorem kernelRead_spec (positive : 0 < count) :
    ∃ size, 0 < size ∧ size ≤ count ∧
      kernelRead count tty = ({ tty with bytes := tty.bytes.drop size, chunks := tty.chunks.tail },
        tty.bytes.take size) := by
  unfold kernelRead
  cases tty.chunks with
  | nil => exact ⟨count, positive, Nat.le_refl _, rfl⟩
  | cons chunk rest => exact ⟨min count (chunk + 1), by omega, by omega, rfl⟩

/-- What a read loop takes is the front of what there is. -/
structure Took (tty after : Tty) (bytes : List (BitVec 8)) : Prop where
  fdHndl : after.fdHndl = tty.fdHndl
  split : tty.bytes = bytes ++ after.bytes

theorem readBytes_took : Took tty (readBytes fuel count tty).1 (readBytes fuel count tty).2.2 := by
  induction fuel generalizing count tty with
  | zero => exact ⟨rfl, rfl⟩
  | succ fuel ih =>
      simp only [readBytes]
      have split : Took tty (kernelRead count tty).1 (kernelRead count tty).2 :=
        ⟨rfl, (List.take_append_drop _ _).symm⟩
      split
      · rename_i none
        rw [none] at split
        exact split
      · split
        · exact split
        · have later := @ih (count - (kernelRead count tty).2.length) (kernelRead count tty).1
          constructor
          · exact later.fdHndl.trans split.fdHndl
          · rw [split.split, later.split]
            simp only [List.append_assoc]

theorem readBytes_whole (positive : 0 < count) (there : count ≤ tty.bytes.length)
    (enough : count < fuel) : (readBytes fuel count tty).2.1 = true ∧
      (readBytes fuel count tty).2.2.length = count := by
  induction fuel generalizing count tty with
  | zero => omega
  | succ fuel ih =>
      obtain ⟨size, some, fits, read⟩ := @kernelRead_spec count tty positive
      have length : (tty.bytes.take size).length = size := by
        rw [List.length_take]
        omega
      have got : tty.bytes.take size ≠ [] := by
        intro none
        rw [none, List.length_nil] at length
        omega
      simp only [readBytes, read, got, if_false, length]
      split
      · exact ⟨rfl, length.trans (by omega)⟩
      · have later := @ih (count - size) { tty with
          bytes := tty.bytes.drop size, chunks := tty.chunks.tail } (by omega)
          (by simp only [List.length_drop]; omega) (by omega)
        rw [List.length_append, length, later.2]
        exact ⟨later.1, by omega⟩

/-- A loop that says it has all of `count` bytes has taken as many. -/
theorem readBytes_counted (positive : 0 < count) (whole : (readBytes fuel count tty).2.1 = true) :
    (readBytes fuel count tty).2.2.length = count := by
  induction fuel generalizing count tty with
  | zero => exact absurd whole Bool.noConfusion
  | succ fuel ih =>
      obtain ⟨size, some, fits, read⟩ := @kernelRead_spec count tty positive
      have short : (tty.bytes.take size).length ≤ size := List.length_take_le _ _
      simp only [readBytes, read] at whole ⊢
      split at whole
      · exact absurd whole Bool.noConfusion
      · rename_i got
        rw [if_neg got]
        split at whole
        · rename_i last
          rw [if_pos last]
          exact Nat.le_antisymm (short.trans fits) (Nat.le_of_sub_eq_zero last)
        · rename_i more
          rw [if_neg more, List.length_append, ih (by omega) whole]
          omega

/-- An open device with these words to come. -/
structure Sends (tty : Tty) (words : List Word) : Prop where
  fdHndl : tty.fdHndl = true
  bytes : tty.bytes = words.flatMap le32

theorem mt7697UartRead_open {len : Nat} (fdHndl : tty.fdHndl = true) :
    mt7697UartRead tty len = ((readBytes (4 * len + 1) (4 * len) tty).1,
      if (readBytes (4 * len + 1) (4 * len) tty).2.1 = true then (len : Int) else 0,
      wordsOf (readBytes (4 * len + 1) (4 * len) tty).2.2) := by
  have here : ¬tty.fdHndl = false := by simp [fdHndl]
  rw [mt7697UartRead, if_neg here]

/-- A read of nothing finds the device closed, and returns what it was asked for. -/
theorem mt7697UartRead_zero (fdHndl : tty.fdHndl = true) :
    mt7697UartRead tty 0 = ({ tty with chunks := tty.chunks.tail }, 0, []) := by
  have nothing : kernelRead 0 tty = ({ tty with chunks := tty.chunks.tail }, []) := by
    unfold kernelRead
    cases tty.chunks with
    | nil => rfl
    | cons chunk rest =>
        simp only [Nat.zero_min, List.drop_zero, List.take_zero]
  rw [mt7697UartRead_open fdHndl]
  simp only [Nat.mul_zero, readBytes, nothing, if_true]
  rfl

/-- Words that are to come are read whole, whatever the chunks. -/
theorem mt7697UartRead_sends {words rest : List Word} (sends : Sends tty (words ++ rest)) :
    (mt7697UartRead tty words.length).2 = ((words.length : Int), words) ∧
      Sends (mt7697UartRead tty words.length).1 rest := by
  have bytes : tty.bytes = words.flatMap le32 ++ rest.flatMap le32 := by
    rw [sends.bytes, List.flatMap_append]
  by_cases none : words = []
  · subst none
    rw [List.length_nil, mt7697UartRead_zero sends.fdHndl]
    exact ⟨rfl, sends.fdHndl, sends.bytes⟩
  · have took := @readBytes_took (4 * words.length + 1) (4 * words.length) tty
    have positive : 0 < 4 * words.length := by
      have := List.length_pos_iff.mpr none
      omega
    have there : 4 * words.length ≤ tty.bytes.length := by
      rw [bytes, List.length_append, length_le32]
      omega
    have whole := @readBytes_whole (4 * words.length + 1) _ tty positive there (by omega)
    have front := List.append_inj (took.split.symm.trans bytes) (whole.2.trans (length_le32 words).symm)
    rw [mt7697UartRead_open sends.fdHndl, whole.1, front.1, wordsOf_le32]
    exact ⟨rfl, took.fdHndl.trans sends.fdHndl, front.2⟩

/-! A pass through the loop. -/

variable {handler : RxHandler Priv} {uart : Uart Priv} {frame : Frame}

/-- Where the worker stands when the next word to come is the first of `words`. -/
structure Stands (uart : Uart Priv) (words : List Word) (calls : List (RspHdr × List Word))
    (starts : List Nat) : Prop where
  sends : Sends uart.tty words
  close : uart.close = false
  calls : uart.calls = calls
  starts : uart.starts = starts

variable {words rest : List Word} {calls : List (RspHdr × List Word)} {starts : List Nat}

theorem poll_ready {word : Word} (sends : Sends tty (word :: rest)) : mt7697UartRxPoll tty = 0 := by
  have some : tty.bytes ≠ [] := by
    rw [sends.bytes]
    exact List.cons_ne_nil _ _
  rw [mt7697UartRxPoll, if_neg some]

theorem bytes_length (sends : Sends tty words) : tty.bytes.length = 4 * words.length := by
  rw [sends.bytes, length_le32]

theorem readHeader_stands (stands : Stands uart (frame.words ++ rest) calls starts) :
    (readHeader uart).2 = (headerWords : Int) ∧ (readHeader uart).1.rsp = frame.hdr ∧
      Stands (readHeader uart).1 (frame.body ++ rest) calls
        (starts ++ [4 * (frame.words ++ rest).length]) := by
  have header : Sends uart.tty ([frame.cmd, frame.result] ++ (frame.body ++ rest)) := stands.sends
  obtain ⟨read, sends⟩ := mt7697UartRead_sends header
  have two : [frame.cmd, frame.result].length = headerWords := headerWords_eq.symm
  rw [two] at read sends
  constructor
  · exact congrArg Prod.fst read
  · constructor
    · have items : (mt7697UartRead uart.tty headerWords).2.2 = [frame.cmd, frame.result] :=
        congrArg Prod.snd read
      exact congrArg uart.rsp.store items
    · constructor
      · exact sends
      · exact stands.close
      · exact stands.calls
      · exact congrArg₂ (fun starts length => starts ++ [length]) stands.starts
          (bytes_length stands.sends)

/-- A frame of the transport's own group leaves its body to the next header. -/
theorem rxFrame_own (stands : Stands uart (frame.words ++ rest) calls starts)
    (own : frame.hdr.grp = grpUart) : ∃ after, rxFrame handler uart = .ok after ∧
      Stands after (frame.body ++ rest) calls (starts ++ [4 * (frame.words ++ rest).length]) := by
  obtain ⟨ret, header, next⟩ := readHeader_stands stands
  apply Exists.intro (readHeader uart).1
  constructor
  · have group : (readHeader uart).1.rsp.grp = grpUart := by rw [header, own]
    simp only [rxFrame, poll_ready stands.sends, ne_eq, not_true_eq_false, if_false, ret, group,
      if_true, next.close, Bool.false_eq_true]
  · exact next

/-- Any other frame is handed over with its body. -/
theorem rxFrame_handed (stands : Stands uart (frame.words ++ rest) calls starts)
    (other : frame.hdr.grp ≠ grpUart)
    (takes : ∀ priv, (handler frame.hdr priv).Takes frame.body.length) :
    ∃ after, rxFrame handler uart = .ok after ∧
      Stands after rest (calls ++ [frame.call]) (starts ++ [4 * (frame.words ++ rest).length]) := by
  obtain ⟨ret, header, next⟩ := readHeader_stands stands
  have group : ¬(readHeader uart).1.rsp.grp = grpUart := by
    rw [header]
    exact other
  obtain ⟨tty, ⟨priv, code⟩, ran, sends⟩ := Reader.run_takes Sends mt7697UartRead_sends
    (handler frame.hdr (readHeader uart).1.priv) (takes _) next.sends
  apply Exists.intro (callHandler handler (readHeader uart).1)
  constructor
  · simp only [rxFrame, poll_ready stands.sends, ne_eq, not_true_eq_false, if_false, ret, group]
  · simp only [callHandler, header, ran]
    exact ⟨sends, next.close, congrArg (fun calls => calls ++ [frame.call]) next.calls, next.starts⟩

/-- A frame that is no longer than its header, or that is handed over, is left
behind whole. -/
theorem rxFrame_passes (stands : Stands uart (frame.words ++ rest) calls starts)
    (bare : frame.hdr.grp = grpUart → frame.body = [])
    (takes : frame.hdr.grp ≠ grpUart → ∀ priv, (handler frame.hdr priv).Takes frame.body.length) :
    ∃ after, rxFrame handler uart = .ok after ∧
      Stands after rest (calls ++ ([frame].filter outside).map Frame.call)
        (starts ++ [4 * (frame.words ++ rest).length]) := by
  by_cases own : frame.hdr.grp = grpUart
  · obtain ⟨after, ok, next⟩ := @rxFrame_own _ handler _ _ _ _ _ stands own
    have nothing : ([frame].filter outside).map Frame.call = [] := by simp [outside, own]
    rw [bare own] at next
    rw [nothing, List.append_nil]
    exact ⟨after, ok, next⟩
  · have handed : ([frame].filter outside).map Frame.call = [frame.call] := by simp [outside, own]
    rw [handed]
    exact rxFrame_handed stands own (takes own)

/-! Whole runs. -/

variable {frames : List Frame}

/-- `rx_fcn` reads exactly the body of each frame it should be given. -/
def Reads (handler : RxHandler Priv) (frames : List Frame) : Prop :=
  ∀ frame ∈ frames, frame.hdr.grp ≠ grpUart →
    ∀ priv, (handler frame.hdr priv).Takes frame.body.length

theorem rxWork_closed {fuel : Nat} (stands : Stands uart [] calls starts) :
    mt7697UartRxWork handler (fuel + 1) uart = some { uart with close := false } := by
  have gone : mt7697UartRxPoll uart.tty ≠ 0 := by
    have none : uart.tty.bytes = [] := stands.sends.bytes
    rw [mt7697UartRxPoll, if_pos none]
    decide
  simp only [mt7697UartRxWork, rxFrame, gone, ne_eq, not_false_eq_true, if_true]

theorem stream_cons_append {tail : List Frame} :
    stream (frame :: frames ++ tail) = frame.words ++ stream (frames ++ tail) := by
  rw [List.cons_append, stream_cons]
  rfl

/-- The worker gets through frames without a body of the own group, and comes
to what follows them. -/
theorem rxWork_passes {past tail : List Frame} (bare : Bare past) (reads : Reads handler past)
    (stands : Stands uart (stream (past ++ tail)) calls starts) :
    ∃ after left, Stands after (stream tail) (calls ++ (past.filter outside).map Frame.call) left ∧
      starts ++ frameStarts (past ++ tail) = left ++ frameStarts tail ∧
      ∀ fuel, mt7697UartRxWork handler (past.length + fuel) uart = mt7697UartRxWork handler fuel after := by
  induction past generalizing uart calls starts with
  | nil =>
      apply Exists.intro uart
      apply Exists.intro starts
      constructor
      · rw [List.filter_nil, List.map_nil, List.append_nil]
        exact stands
      · constructor
        · rfl
        · intro fuel
          rw [List.length_nil, Nat.zero_add]
  | cons frame rest ih =>
      rw [stream_cons_append] at stands
      obtain ⟨next, ok, onward⟩ := @rxFrame_passes _ handler _ _ _ _ _ stands
        (bare frame (List.mem_cons_self ..)) (reads frame (List.mem_cons_self ..))
      obtain ⟨after, left, stood, split, runs⟩ := ih
        (fun other member => bare other (List.mem_cons_of_mem _ member))
        (fun other member => reads other (List.mem_cons_of_mem _ member)) onward
      apply Exists.intro after
      apply Exists.intro left
      constructor
      · have handed : (frame :: rest).filter outside = [frame].filter outside ++ rest.filter outside :=
          List.filter_append [frame] rest
        rw [handed, List.map_append, ← List.append_assoc]
        exact stood
      · constructor
        · rw [← split, List.append_assoc, ← stream_cons_append]
          rfl
        · intro fuel
          have more : (frame :: rest).length + fuel = rest.length + fuel + 1 := by
            rw [List.length_cons]
            omega
          rw [more, mt7697UartRxWork, ok]
          exact runs fuel

/-! What every run does. -/

theorem rxFrame_starts (ready : mt7697UartRxPoll uart.tty = 0) {after : Uart Priv}
    (step : rxFrame handler uart = .ok after ∨ rxFrame handler uart = .error after) :
    after.starts = uart.starts ++ [uart.tty.bytes.length] := by
  simp only [rxFrame, ready, ne_eq, not_true_eq_false, if_false] at step
  split at step
  · rcases step with ok | error
    · cases ok
    · cases error
      rfl
  · split at step
    · split at step
      · rcases step with ok | error
        · cases ok
        · cases error
          rfl
      · rcases step with ok | error
        · cases ok
          rfl
        · cases error
    · rcases step with ok | error
      · cases ok
        rfl
      · cases error

/-- A header once taken stays on record. -/
theorem rxWork_starts {fuel : Nat} {final : Uart Priv}
    (ran : mt7697UartRxWork handler fuel uart = some final) : uart.starts <+: final.starts := by
  induction fuel generalizing uart with
  | zero => cases ran
  | succ fuel ih =>
      by_cases ready : mt7697UartRxPoll uart.tty = 0
      · cases step : rxFrame handler uart with
        | ok after =>
            rw [mt7697UartRxWork, step] at ran
            have grown := rxFrame_starts ready (.inl step)
            have later := ih ran
            rw [grown] at later
            exact (List.prefix_append _ _).trans later
        | error after =>
            rw [mt7697UartRxWork, step] at ran
            have grown := rxFrame_starts ready (.inr step)
            cases ran
            exact grown ▸ List.prefix_append _ _
      · simp only [mt7697UartRxWork, rxFrame, ready, ne_eq, not_false_eq_true, if_true] at ran
        cases ran
        exact List.prefix_refl _

theorem rxWork_next {fuel : Nat} {final : Uart Priv} (ready : mt7697UartRxPoll uart.tty = 0)
    (ran : mt7697UartRxWork handler fuel uart = some final) :
    uart.starts ++ [uart.tty.bytes.length] <+: final.starts := by
  cases fuel with
  | zero => cases ran
  | succ fuel =>
      cases step : rxFrame handler uart with
      | ok after =>
          rw [mt7697UartRxWork, step] at ran
          rw [← rxFrame_starts ready (.inl step)]
          exact rxWork_starts ran
      | error after =>
          rw [mt7697UartRxWork, step] at ran
          rw [← rxFrame_starts ready (.inr step)]
          cases ran
          exact List.prefix_refl _

/-! A pass that goes on has taken a header, so as many passes as bytes are enough. -/

theorem mt7697UartRead_left {len : Nat} :
    (mt7697UartRead tty len).1.bytes.length ≤ tty.bytes.length := by
  unfold mt7697UartRead
  split
  · exact Nat.le_refl _
  · have took := (@readBytes_took (4 * len + 1) (4 * len) tty).split
    rw [took, List.length_append]
    exact Nat.le_add_left _ _

theorem readHeader_left (ret : (readHeader uart).2 = (headerWords : Int)) :
    (readHeader uart).1.tty.bytes.length < uart.tty.bytes.length := by
  have read : (mt7697UartRead uart.tty headerWords).2.1 = (headerWords : Int) := ret
  have left : (readHeader uart).1.tty = (mt7697UartRead uart.tty headerWords).1 := rfl
  rw [left]
  cases fdHndl : uart.tty.fdHndl with
  | false =>
      rw [mt7697UartRead, if_pos fdHndl] at read
      have none : (0 : Int) = headerWords := read
      exact absurd none (by decide)
  | true =>
      rw [mt7697UartRead_open fdHndl] at read ⊢
      have whole : (readBytes (4 * headerWords + 1) (4 * headerWords) uart.tty).2.1 = true := by
        by_contra short
        rw [if_neg short] at read
        have none : (0 : Int) = headerWords := read
        exact absurd none (by decide)
      have counted := readBytes_counted (by decide) whole
      have took := congrArg List.length
        (@readBytes_took (4 * headerWords + 1) (4 * headerWords) uart.tty).split
      rw [List.length_append, counted] at took
      have positive : 0 < 4 * headerWords := by decide
      exact Nat.lt_of_lt_of_eq (Nat.lt_add_of_pos_left positive) took.symm

theorem callHandler_left :
    (callHandler handler uart).tty.bytes.length ≤ uart.tty.bytes.length :=
  Reader.run_le (fun tty : Tty => tty.bytes.length) (fun _ _ => mt7697UartRead_left)
    (handler uart.rsp uart.priv)

theorem rxFrame_left {after : Uart Priv} (ok : rxFrame handler uart = .ok after) :
    after.tty.bytes.length < uart.tty.bytes.length := by
  by_cases ready : mt7697UartRxPoll uart.tty = 0
  · by_cases ret : (readHeader uart).2 = (headerWords : Int)
    · have less := readHeader_left ret
      simp only [rxFrame, ready, ret, ne_eq, not_true_eq_false, if_false] at ok
      split at ok
      · split at ok
        · cases ok
        · cases ok
          exact less
      · cases ok
        exact Nat.lt_of_le_of_lt callHandler_left less
    · simp only [rxFrame, ready, ret, ne_eq, not_true_eq_false, not_false_eq_true, if_false,
        if_true] at ok
      cases ok
  · simp only [rxFrame, ready, ne_eq, not_false_eq_true, if_true] at ok
    cases ok

theorem rxWork_ends {fuel : Nat} (enough : uart.tty.bytes.length < fuel) :
    ∃ final, mt7697UartRxWork handler fuel uart = some final := by
  induction fuel generalizing uart with
  | zero => omega
  | succ fuel ih =>
      cases step : rxFrame handler uart with
      | ok after =>
          have less := rxFrame_left step
          rw [mt7697UartRxWork, step]
          exact ih (by omega)
      | error after =>
          rw [mt7697UartRxWork, step]
          exact ⟨_, rfl⟩

/-! The other transport. -/

/-- A receive queue hands over the frames that it gets. -/
theorem queue_calls (reads : Reads handler frames) {rx : Receiver Priv} {fuel : Nat}
    (opened : ReceiveRuns.Opened (plain frames) rx)
    (wellFormed : ∀ frame ∈ plain frames, ReceiveRuns.WellFormed rx.qs.data.numWords frame)
    (enough : (plain frames).length < fuel) :
    ∃ final, ReceiveRuns.drain handler fuel (plain frames).length rx = some final ∧
      final.dispatched = (plain frames).map Frame.call := by
  have serves : Serves handler (plain frames) := by
    intro frame member _
    have kept := List.mem_filter.mp member
    apply reads frame kept.1
    intro own
    have other := kept.2
    simp [outside, own] at other
  have reached := ReceiveRuns.opened_reached opened (ReceiveRuns.WellFormed.clear _ wellFormed)
  obtain ⟨final, drained, last⟩ := ReceiveRuns.drain_reached serves enough _ reached
  obtain ⟨past, rest, whole, none, handed, _⟩ := ReceiveRuns.reached_place last
  have empty : rest = [] := List.length_eq_zero_iff.mp (Nat.le_zero.mp none)
  rw [empty, List.append_nil] at whole
  apply Exists.intro final
  constructor
  · exact drained
  · rw [handed, ← whole]
    exact ReceiveRuns.WellFormed.calls_eq wellFormed

theorem plain_calls : ((frames.filter outside).map Frame.call).filter
    (fun call => call.1.grp ≠ grpQueue) = (plain frames).map Frame.call := by
  rw [List.filter_map, List.filter_filter, plain]
  congr 1
  apply List.filter_congr
  intro frame _
  by_cases control : frame.hdr.grp = grpQueue <;> simp [Frame.control, Frame.call, control]

/-! Framing. -/

theorem frames_le_stream : frames.length ≤ (stream frames).length := by
  induction frames with
  | nil => exact Nat.le_refl _
  | cons frame rest ih =>
      rw [stream_cons, List.length_cons, List.length_cons, List.length_cons, List.length_append]
      omega

theorem started_stands (started : Started frames uart) : Stands uart (stream frames) [] [] where
  sends := ⟨started.fdHndl, started.bytes⟩
  close := started.close
  calls := started.calls
  starts := started.starts

theorem bare_framed (bare : Bare frames) (reads : Reads handler frames)
    (started : Started frames uart) {fuel : Nat} {final : Uart Priv}
    (enough : uart.tty.bytes.length < fuel) (ran : mt7697UartRxWork handler fuel uart = some final) :
    Framed handler frames final := by
  have stands := started_stands started
  have many : frames.length < fuel := by
    have bytes := bytes_length stands.sends
    have words := @frames_le_stream frames
    omega
  obtain ⟨more, rfl⟩ := Nat.exists_eq_add_of_lt many
  rw [← List.append_nil frames] at stands
  obtain ⟨after, left, stood, split, runs⟩ := rxWork_passes bare reads stands
  have closed : mt7697UartRxWork handler (frames.length + more + 1) uart =
      some { after with close := false } := (runs (more + 1)).trans (rxWork_closed stood)
  rw [closed] at ran
  cases ran
  have calls : after.calls = (frames.filter outside).map Frame.call := stood.calls
  constructor
  · have starts : frameStarts (frames ++ []) = left ++ [] := split
    rw [List.append_nil, List.append_nil] at starts
    exact stood.starts.trans starts.symm
  · exact calls
  · intro rx rounds opened wellFormed plenty
    obtain ⟨final, drained, handed⟩ := queue_calls reads opened wellFormed plenty
    apply Exists.intro final
    constructor
    · exact drained
    · rw [handed, calls, plain_calls]

theorem unbare_split (unbare : ¬Bare frames) : ∃ past frame rest, frames = past ++ frame :: rest ∧
    Bare past ∧ frame.hdr.grp = grpUart ∧ frame.body ≠ [] := by
  induction frames with
  | nil =>
      apply unbare.elim
      intro frame member
      exact absurd member List.not_mem_nil
  | cons frame rest ih =>
      by_cases first : frame.hdr.grp = grpUart → frame.body = []
      · have later : ¬Bare rest := by
          intro bare
          apply unbare
          intro other member
          rcases List.mem_cons.mp member with rfl | member
          · exact first
          · exact bare other member
        obtain ⟨past, own, tail, rfl, bare, found⟩ := ih later
        apply Exists.intro (frame :: past)
        apply Exists.intro own
        apply Exists.intro tail
        constructor
        · rfl
        · constructor
          · intro other member
            rcases List.mem_cons.mp member with rfl | member
            · exact first
            · exact bare other member
          · exact found
      · have found := Classical.not_imp.mp first
        exact ⟨[], frame, rest, rfl, fun _ member => absurd member List.not_mem_nil, found⟩

/-- The start of what follows a frame is that of the next one. -/
theorem frameStarts_first {start : Nat} {rest : List Frame} (first : [start] <+: frameStarts rest) :
    start = 4 * (stream rest).length := by
  cases rest with
  | nil => exact absurd (List.prefix_nil.mp first) (List.cons_ne_nil _ _)
  | cons frame tail => exact (List.cons_prefix_cons.mp first).1

/-- The first body that is left over is taken for a header. -/
theorem framed_bare (reads : Reads handler frames) (started : Started frames uart) {fuel : Nat}
    {final : Uart Priv} (enough : uart.tty.bytes.length < fuel)
    (ran : mt7697UartRxWork handler fuel uart = some final)
    (framed : Framed handler frames final) : Bare frames := by
  by_contra unbare
  obtain ⟨past, frame, rest, rfl, bare, own, body⟩ := unbare_split unbare
  have stands := started_stands started
  have many : past.length + 1 < fuel := by
    have bytes := bytes_length stands.sends
    have words := @frames_le_stream (past ++ frame :: rest)
    rw [List.length_append, List.length_cons] at words
    omega
  obtain ⟨more, rfl⟩ := Nat.exists_eq_add_of_lt many
  have early : Reads handler past := fun other member => reads other (List.mem_append_left _ member)
  obtain ⟨after, left, stood, split, runs⟩ := rxWork_passes bare early stands
  rw [stream_cons] at stood
  obtain ⟨next, ok, onward⟩ := @rxFrame_own _ handler _ _ _ _ _ stood own
  have here : mt7697UartRxWork handler (more + 1) next = some final := by
    have turn : mt7697UartRxWork handler (more + 2) after =
        mt7697UartRxWork handler (more + 1) next := by rw [mt7697UartRxWork, ok]
    have passes : past.length + 1 + more + 1 = past.length + (more + 2) := by omega
    rw [passes, runs (more + 2), turn] at ran
    exact ran
  obtain ⟨word, words, first⟩ := List.exists_cons_of_ne_nil body
  have sends := onward.sends
  rw [first, List.cons_append] at sends
  have taken := rxWork_next (poll_ready sends) here
  -- What follows the header in the record is not the start of a frame.
  have starts : final.starts = left ++ frameStarts (frame :: rest) := framed.starts.trans split
  rw [starts, onward.starts, List.append_assoc, List.prefix_append_right_inj] at taken
  have next := frameStarts_first (List.cons_prefix_cons.mp taken).2
  rw [bytes_length onward.sends, first, List.length_append, List.length_cons] at next
  omega

/-- The worker ends on every sequence of frames, and has cut it into the frames
if and only if no frame of the transport's own group has a body. -/
theorem mt7697UartRxWork_framed {handler : RxHandler Priv} {frames : List Frame} {uart : Uart Priv}
    (started : Started frames uart) (reads : Reads handler frames) {fuel : Nat}
    (enough : uart.tty.bytes.length < fuel) :
    ∃ final, mt7697UartRxWork handler fuel uart = some final ∧
      (Framed handler frames final ↔ Bare frames) := by
  obtain ⟨final, ran⟩ := @rxWork_ends _ handler uart fuel enough
  apply Exists.intro final
  constructor
  · exact ran
  · constructor
    · exact framed_bare reads started enough ran
    · intro bare
      exact bare_framed bare reads started enough ran

/-- A shutdown response and a frame with one body word, in reads of three bytes. -/
def twoFrames : List Frame := [⟨0x01010008, 0, [], by decide⟩, ⟨0x0202000c, 0, [5], by decide⟩]

def oneShort : Uart Unit where
  tty := ⟨true, (stream twoFrames).flatMap le32, List.replicate 8 2⟩
  rsp := .cleared
  close := false
  priv := ()
  calls := []
  starts := []

theorem mt7697UartRxWork_framed_short : ∃ final,
    mt7697UartRxWork ReceiveRuns.readOne 21 oneShort = some final ∧
      (Framed ReceiveRuns.readOne twoFrames final ↔ Bare twoFrames) := by
  have started : Started twoFrames oneShort := ⟨rfl, rfl, rfl, rfl, rfl⟩
  have reads : Reads ReceiveRuns.readOne twoFrames := by
    intro frame member other priv
    simp only [twoFrames, List.mem_cons, List.not_mem_nil, or_false] at member
    rcases member with rfl | rfl
    · exact absurd rfl other
    · exact ⟨by decide, fun _ _ => rfl⟩
  exact mt7697UartRxWork_framed started reads (by decide)

/-- A frame of the own group with one body word. -/
def ownBody : Frame := ⟨0x0101000c, 0, [5], by decide⟩

def oneBody : Uart Unit where
  tty := ⟨true, (stream [ownBody]).flatMap le32, []⟩
  rsp := .cleared
  close := false
  priv := ()
  calls := []
  starts := []

theorem body_taken_for_header : ¬∀ (frames : List Frame) (uart final : Uart Unit) (fuel : Nat),
    Started frames uart → Reads ReceiveRuns.readOne frames →
      mt7697UartRxWork ReceiveRuns.readOne fuel uart = some final →
      Framed ReceiveRuns.readOne frames final := by
  intro always
  have started : Started [ownBody] oneBody := ⟨rfl, rfl, rfl, rfl, rfl⟩
  have reads : Reads ReceiveRuns.readOne [ownBody] := by
    intro frame member other
    rw [List.mem_singleton.mp member] at other
    exact absurd rfl other
  have framed := always [ownBody] oneBody _ 3 started reads rfl
  exact absurd framed.starts (by decide)

end MangOH.UartReceive
