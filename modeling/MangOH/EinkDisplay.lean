import MangOH.EinkPanel
import MangOH.Trace

/-!
The framebuffer of the e-ink display and the calls that change it. Drawing sends the frame
to the panel at once, and a mapped page has it sent later; a plain write only changes it.
-/

namespace MangOH.Eink

open Trace

variable (props : DeviceProperties)

def vmemSize : Nat := props.width * props.height * props.bpp / 8

@[ext] structure Frame where
  bytes : List Byte
  sized : bytes.length = vmemSize props
deriving DecidableEq

def bitrev8 (byte : Byte) : Byte := byte.reverse

variable {props}

def Frame.filled (byte : Byte) : Frame props := ⟨List.replicate (vmemSize props) byte, List.length_replicate⟩

/-- Some bytes at a place, which is nowhere past the end. -/
def Frame.store (frame : Frame props) (p count : Nat) (byte : Nat → Byte) : Frame props where
  bytes := frame.bytes.mapIdx fun place old =>
    if p ≤ place ∧ place < p + count then byte (place - p) else old
  sized := by rw [List.length_mapIdx, frame.sized]

variable (props)

structure Display where
  frame : Frame props
  updateCount : Nat
  panel : Panel
  /-- The kernel is to call `ws_eink_deferred_io`. -/
  scheduled : Bool
  /-- Something has changed the frame since the probe, which no code keeps. -/
  touched : Bool

variable {props}

/-- The display once this went to the panel. -/
def Display.send (display : Display props) (sent : List Signal) : Display props × List Signal :=
  ({ display with panel := display.panel.signals sent }, sent)

def wsEinkUpdateDisplay (display : Display props) : Display props × List Signal :=
  let updateCount := display.updateCount + 1
  let lut := if updateCount = 10 then lutFullUpdate else lutPartialUpdate
  { display with updateCount := if updateCount = 10 then 0 else updateCount }.send
    (intLut props lut ++ setFrameMemory props (display.frame.bytes.map bitrev8) ++ displayFrame ++
      wsEinkSleep)

/-- The kernel draws into the frame, and the frame is sent. -/
def redraw (sys : Frame props → Frame props) (display : Display props) :
    Display props × List Signal :=
  wsEinkUpdateDisplay { display with frame := sys display.frame }

def wsEinkFbFillrect (sysFillrect : Frame props → Frame props) (display : Display props) :
    Display props × List Signal := redraw sysFillrect display

def wsEinkFbCopyarea (sysCopyarea : Frame props → Frame props) (display : Display props) :
    Display props × List Signal := redraw sysCopyarea display

def wsEinkFbImageblit (sysImageblit : Frame props → Frame props) (display : Display props) :
    Display props × List Signal := redraw sysImageblit display

def eperm : Int := 1
def efault : Int := 14
def einval : Int := 22
def efbig : Int := 27
def enospc : Int := 28

/-- What is copied from the caller, of whose bytes only the first can be read. The rest is
filled with zeros. -/
def copyFromUser (buf : List Byte) (readable place : Nat) : Byte :=
  if place < readable then buf.getD place 0 else 0

/-- The result, the position after it, and the frame. -/
def wsEinkFbWrite (running : Bool) (ppos : Nat) (buf : List Byte) (readable : Nat)
    (frame : Frame props) : Int × Nat × Frame props :=
  let totalSize := vmemSize props
  if !running then (-eperm, ppos, frame)
  else if totalSize < ppos then (-efbig, ppos, frame)
  else
    let err := if totalSize < buf.length then -efbig else 0
    let count := if totalSize < buf.length then totalSize else buf.length
    let long : Bool := totalSize < count + ppos
    let err := if long && err = 0 then -enospc else err
    let count := if long then totalSize - ppos else count
    let err := if readable < count then -efault else err
    (if err ≠ 0 then err else count, if err = 0 then ppos + count else ppos,
      frame.store ppos count (copyFromUser buf readable))

abbrev wsFbSetScreenDeepSleep : Nat := 0x40014D01
abbrev wsFbSetScreenWakeup : Nat := 0x40014D02

def wsEinkFbIoctl (cmd : Nat) (display : Display props) : Int × Display props × List Signal :=
  if cmd = wsFbSetScreenDeepSleep then (0, display.send wsEinkSleep)
  else if cmd = wsFbSetScreenWakeup then (0, display.send wsEinkReset)
  else (einval, display, [])

def wsEinkDeferredIo (display : Display props) : Display props × List Signal :=
  wsEinkUpdateDisplay display

/-! Runs. -/

variable (props)

inductive Event where
  | write (running : Bool) (ppos : Nat) (buf : List Byte) (readable : Nat)
  | fillrect (sysFillrect : Frame props → Frame props)
  | copyarea (sysCopyarea : Frame props → Frame props)
  | imageblit (sysImageblit : Frame props → Frame props)
  /-- A program writes to pages that it has mapped. -/
  | mapped (change : Frame props → Frame props)
  /-- The kernel calls what is scheduled, if it is. -/
  | deferredIo
  | ioctl (cmd : Nat)

variable {props}

/-- What comes of an event, and what it sends to the panel. -/
def perform (display : Display props) : Event props → Display props × List Signal
  | .write running ppos buf readable =>
      ({ display with frame := (wsEinkFbWrite running ppos buf readable display.frame).2.2 }, [])
  | .fillrect sysFillrect => wsEinkFbFillrect sysFillrect display
  | .copyarea sysCopyarea => wsEinkFbCopyarea sysCopyarea display
  | .imageblit sysImageblit => wsEinkFbImageblit sysImageblit display
  | .mapped change => ({ display with frame := change display.frame, scheduled := true }, [])
  | .deferredIo =>
      if display.scheduled then wsEinkDeferredIo { display with scheduled := false }
      else (display, [])
  | .ioctl cmd => (wsEinkFbIoctl cmd display).2

/-- A write changes the frame where it stores other bytes. -/
def Event.changes (display : Display props) : Event props → Bool
  | .write running ppos buf readable =>
      decide ((wsEinkFbWrite running ppos buf readable display.frame).2.2 ≠ display.frame)
  | .fillrect _ | .copyarea _ | .imageblit _ | .mapped _ => true
  | .deferredIo | .ioctl _ => false

/-- What sends the frame, if it sends anything. -/
def Event.updates : Event props → Bool
  | .fillrect _ | .copyarea _ | .imageblit _ | .deferredIo => true
  | .write .. | .mapped _ | .ioctl _ => false

def step (display : Display props) (event : Event props) : Display props :=
  { (perform display event).1 with touched := display.touched || event.changes display }

def probed (panel : Panel) : Display props where
  frame := .filled 0
  updateCount := 0
  panel := panel.signals (wsEinkInitDisplay props)
  scheduled := false
  touched := false

/-- Row by row, the panel has the reversed bytes of the frame. -/
def InSync (frame : Frame props) (panel : Panel) : Prop :=
  ∀ row < props.height, ∀ col < rowBytes props,
    (frame.bytes.map bitrev8)[row * rowBytes props + col]? = some (panel.ram row col)

/-- No update talks to a panel asleep, and the panel has the last change unless an update
is scheduled. -/
def Kept (display : Display props) (event : Event props) : Prop :=
  (event.updates = true → display.panel.Heard (perform display event).2) ∧
    ((step display event).scheduled = false → (step display event).touched = true →
      InSync (step display event).frame (step display event).panel)

/-- A write is refused, or an update is to come, or it stores what is there, or it is the
first change and makes the frame what the probe has left on the screen. -/
def Seen (display : Display props) : Event props → Prop
  | .write running ppos buf readable =>
      display.scheduled = true ∨ running = false ∨ vmemSize props < ppos ∨
        (∀ place < min buf.length (vmemSize props - ppos),
          display.frame.bytes[ppos + place]? = some (copyFromUser buf readable place)) ∨
        (display.touched = false ∧ ppos = 0 ∧ vmemSize props ≤ buf.length ∧
          ∀ place < vmemSize props, copyFromUser buf readable place = 0xFF)
  | _ => True

/-! The places of a frame, row by row. -/

theorem vmemSize_eq : vmemSize props = props.height * rowBytes props := by
  have whole : props.width = 8 * rowBytes props :=
    (Nat.mul_div_cancel' (Nat.dvd_of_mod_eq_zero props.whole)).symm
  calc vmemSize props = 8 * (props.height * rowBytes props) / 8 := by
        rw [vmemSize, props.mono, Nat.mul_one, whole, Nat.mul_assoc, Nat.mul_comm (rowBytes props)]
    _ = props.height * rowBytes props := Nat.mul_div_cancel_left _ (by decide)

theorem place_lt {row col : Nat} (inside : row < props.height) (below : col < rowBytes props) :
    row * rowBytes props + col < vmemSize props := by
  calc row * rowBytes props + col < row * rowBytes props + rowBytes props := Nat.add_lt_add_left below _
    _ = (row + 1) * rowBytes props := (Nat.succ_mul row (rowBytes props)).symm
    _ ≤ props.height * rowBytes props := Nat.mul_le_mul_right _ inside
    _ = vmemSize props := vmemSize_eq.symm

/-- The bytes of the panel in the order of the frame. -/
def Panel.shown (props : DeviceProperties) (panel : Panel) : List Byte :=
  (List.range (vmemSize props)).map fun place =>
    panel.ram (place / rowBytes props) (place % rowBytes props)

theorem inSync_iff {frame : Frame props} {panel : Panel} :
    InSync frame panel ↔ frame.bytes.map bitrev8 = panel.shown props := by
  have positive : 0 < rowBytes props := rowBytes_pos
  constructor
  · intro sync
    apply List.ext_getElem?
    intro place
    by_cases inside : place < vmemSize props
    · have row : place / rowBytes props < props.height :=
        (Nat.div_lt_iff_lt_mul positive).mpr (by rw [← vmemSize_eq]; exact inside)
      have cell := sync _ row _ (Nat.mod_lt place positive)
      rw [Nat.div_add_mod'] at cell
      rw [cell, Panel.shown, List.getElem?_map, List.getElem?_range inside]
      rfl
    · have outside := Nat.le_of_not_lt inside
      rw [List.getElem?_eq_none (by rw [List.length_map, frame.sized]; exact outside),
        List.getElem?_eq_none (by rw [Panel.shown, List.length_map, List.length_range]; exact outside)]
  · intro same row inside col below
    rw [same, Panel.shown, List.getElem?_map, List.getElem?_range (place_lt inside below),
      Option.map_some, Nat.mul_comm, Nat.mul_add_div positive, Nat.mul_add_mod, Nat.div_eq_of_lt below,
      Nat.mod_eq_of_lt below, Nat.add_zero]

theorem bitrev8_injective : Function.Injective bitrev8 := by
  intro left right same
  have back := congrArg BitVec.reverse same
  simpa [bitrev8] using back

theorem InSync.unique {left right : Frame props} {panel : Panel} (first : InSync left panel)
    (second : InSync right panel) : left = right :=
  Frame.ext ((List.map_inj_right fun _ _ same => bitrev8_injective same).mp
    ((inSync_iff.mp first).trans (inSync_iff.mp second).symm))

/-! An update. -/

@[simp] theorem send_panel (display : Display props) (sent : List Signal) :
    (display.send sent).1.panel = display.panel.signals sent := rfl

@[simp] theorem send_frame (display : Display props) (sent : List Signal) :
    (display.send sent).1.frame = display.frame := rfl

@[simp] theorem send_sent (display : Display props) (sent : List Signal) :
    (display.send sent).2 = sent := rfl

theorem update_frame (display : Display props) :
    (wsEinkUpdateDisplay display).1.frame = display.frame := by
  simp only [wsEinkUpdateDisplay, send_frame]

theorem update_panel (display : Display props) : (wsEinkUpdateDisplay display).1.panel =
    display.panel.signals (wsEinkUpdateDisplay display).2 := by
  simp only [wsEinkUpdateDisplay, send_panel, send_sent]

theorem lines_full (frame : Frame props) : ∀ row < props.height,
    (((frame.bytes.map bitrev8).drop (row * rowBytes props)).take (rowBytes props)).length =
      rowBytes props := by
  intro row inside
  have bound := place_lt inside (Nat.sub_one_lt (Nat.ne_of_gt (@rowBytes_pos props)))
  rw [List.length_take, List.length_drop, List.length_map, frame.sized]
  omega

/-- Whatever the panel did before, it hears the whole of an update and has the frame then. -/
theorem update_follows (display : Display props) :
    display.panel.Heard (wsEinkUpdateDisplay display).2 ∧
      InSync display.frame (wsEinkUpdateDisplay display).1.panel := by
  generalize lut_eq : (if display.updateCount + 1 = 10 then lutFullUpdate else lutPartialUpdate) = lut
  have sent : (wsEinkUpdateDisplay display).2 = intLut props lut ++
      setFrameMemory props (display.frame.bytes.map bitrev8) ++ displayFrame ++ wsEinkSleep := by
    rw [← lut_eq, wsEinkUpdateDisplay, send_sent]
  obtain ⟨heard, awake, shown⟩ := frame_sent display.panel lut (lines_full display.frame)
  rw [update_panel, sent, heard_append, signals_append _ (_ ++ displayFrame) wsEinkSleep]
  refine ⟨⟨heard, awake, trivial⟩, fun row inside col below => ?_⟩
  have cell := shown row inside col below
  rw [List.getElem?_take_of_lt below, List.getElem?_drop] at cell
  have kept : ∀ panel : Panel, (panel.signals wsEinkSleep).ram = panel.ram := by
    intro panel
    cases asleep : panel.asleep <;> simp [Panel.signals, wsEinkSleep, Panel.signal, Panel.receive, asleep]
  rw [kept]
  exact cell

/-! A write. -/

theorem store_getElem? (frame : Frame props) (p count : Nat) (byte : Nat → Byte) (place : Nat) :
    (frame.store p count byte).bytes[place]? =
      if p ≤ place ∧ place < p + count ∧ place < vmemSize props then some (byte (place - p))
      else frame.bytes[place]? := by
  rw [Frame.store, List.getElem?_mapIdx]
  by_cases inside : place < vmemSize props
  · have there : place < frame.bytes.length := by rw [frame.sized]; exact inside
    rw [List.getElem?_eq_getElem there]
    by_cases stored : p ≤ place ∧ place < p + count
    · simp [stored, inside]
    · have kept : ¬ (p ≤ place ∧ place < p + count ∧ place < vmemSize props) :=
        fun range => stored ⟨range.1, range.2.1⟩
      simp [stored, kept]
  · have missing : frame.bytes[place]? = none :=
      List.getElem?_eq_none (by rw [frame.sized]; exact Nat.le_of_not_lt inside)
    simp [missing, inside]

theorem store_same_iff {frame : Frame props} {p count : Nat} (fits : p + count ≤ vmemSize props)
    (byte : Nat → Byte) : frame.store p count byte = frame ↔
      ∀ place < count, frame.bytes[p + place]? = some (byte place) := by
  constructor
  · intro same place inside
    have cell := store_getElem? frame p count byte (p + place)
    rw [same, if_pos (by omega), Nat.add_sub_cancel_left] at cell
    exact cell
  · intro there
    apply Frame.ext
    apply List.ext_getElem?
    intro place
    rw [store_getElem?]
    split
    · have cell := there (place - p) (by omega)
      rw [Nat.add_sub_cancel' (by omega)] at cell
      exact cell.symm
    · rfl

theorem filled_getElem? {byte : Byte} {place : Nat} (inside : place < vmemSize props) :
    (Frame.filled byte : Frame props).bytes[place]? = some byte := by
  rw [Frame.filled, List.getElem?_replicate, if_pos inside]

/-- A blank frame is filled by one write just when the write goes over all of it. -/
theorem store_filled_iff {p count : Nat} (fits : p + count ≤ vmemSize props) (byte : Nat → Byte) :
    (Frame.filled 0 : Frame props).store p count byte = .filled 0xFF ↔
      p = 0 ∧ vmemSize props ≤ count ∧ ∀ place < vmemSize props, byte place = 0xFF := by
  constructor
  · intro same
    have stored : ∀ place < vmemSize props, p ≤ place ∧ place < p + count ∧
        byte (place - p) = 0xFF := by
      intro place inside
      have cell := store_getElem? (.filled 0 : Frame props) p count byte place
      rw [same, filled_getElem? inside, filled_getElem? inside] at cell
      by_cases range : p ≤ place ∧ place < p + count ∧ place < vmemSize props
      · rw [if_pos range] at cell
        exact ⟨range.1, range.2.1, (Option.some.inj cell).symm⟩
      · rw [if_neg range] at cell
        exact absurd (Option.some.inj cell) (by decide)
    have positive : 0 < vmemSize props := by
      rw [vmemSize_eq]
      exact Nat.mul_pos props.high rowBytes_pos
    have first : p = 0 := Nat.le_zero.mp (stored 0 positive).1
    have last := stored (vmemSize props - 1) (by omega)
    refine ⟨first, by omega, fun place inside => ?_⟩
    have white := (stored place inside).2.2
    rwa [first] at white
  · rintro ⟨rfl, whole, white⟩
    apply Frame.ext
    apply List.ext_getElem?
    intro place
    rw [store_getElem?]
    by_cases inside : place < vmemSize props
    · rw [if_pos (by omega), Nat.sub_zero, white place inside, filled_getElem? inside]
    · have missing : ∀ byte : Byte, (Frame.filled byte : Frame props).bytes[place]? = none := fun byte =>
        List.getElem?_eq_none (by rw [Frame.sized]; exact Nat.le_of_not_lt inside)
      rw [if_neg (by omega), missing, missing]

theorem write_frame (running : Bool) (ppos : Nat) (buf : List Byte) (readable : Nat)
    (frame : Frame props) : (wsEinkFbWrite running ppos buf readable frame).2.2 =
      if running = false ∨ vmemSize props < ppos then frame
      else frame.store ppos (min buf.length (vmemSize props - ppos)) (copyFromUser buf readable) := by
  cases running with
  | false => simp [wsEinkFbWrite]
  | true =>
      by_cases far : vmemSize props < ppos
      · simp [wsEinkFbWrite, far]
      · have count : (if vmemSize props < (if vmemSize props < buf.length then vmemSize props
            else buf.length) + ppos then vmemSize props - ppos
            else if vmemSize props < buf.length then vmemSize props else buf.length) =
            min buf.length (vmemSize props - ppos) := by
          by_cases large : vmemSize props < buf.length
          · simp only [if_pos large]
            split <;> omega
          · simp only [if_neg large]
            split <;> omega
        simp only [wsEinkFbWrite, far, Bool.not_true, Bool.false_eq_true, if_false, decide_eq_true_eq,
          reduceCtorEq, or_self, count]

/-! What holds of every display that is reached. -/

structure Followed (display : Display props) : Prop where
  shown : display.scheduled = false → display.touched = true → InSync display.frame display.panel
  /-- Before the first change the screen is as the probe has cleared it. -/
  fresh : display.touched = false → display.scheduled = false ∧ display.frame = .filled 0 ∧
    InSync (.filled 0xFF : Frame props) display.panel

theorem probed_followed (panel : Panel) : Followed (probed panel : Display props) := by
  have full : ∀ row < props.height, (List.replicate (rowBytes props) (0xFF : Byte)).length = rowBytes props :=
    fun _ _ => List.length_replicate
  obtain ⟨_, _, cleared⟩ := frame_sent panel lutFullUpdate full
  refine ⟨fun _ changed => (by cases changed), fun _ => ⟨rfl, rfl, fun row inside col below => ?_⟩⟩
  have cell := cleared row inside col below
  rw [List.getElem?_replicate, if_pos below] at cell
  have ram : (probed panel : Display props).panel.ram =
      (panel.signals (intLut props lutFullUpdate ++ clearFrameMemory props 0xFF ++ displayFrame)).ram := by
    rw [probed, wsEinkInitDisplay, signals_append _ _ (intLut props lutPartialUpdate)]
    exact (@intLut_awake props _ lutPartialUpdate).2
  rw [List.getElem?_map, filled_getElem? (place_lt inside below), ram]
  exact cell

/-- An event that comes to an update of the same panel leaves it with the frame. -/
theorem updated_kept {display : Display props} {event : Event props} (before : Display props)
    (called : perform display event = wsEinkUpdateDisplay before)
    (same : before.panel = display.panel) : Kept display event := by
  obtain ⟨heard, sync⟩ := update_follows before
  rw [← update_frame before] at sync
  generalize wsEinkUpdateDisplay before = after at called heard sync
  rw [Kept, step, called, ← same]
  exact ⟨fun _ => heard, fun _ _ => sync⟩

theorem redrawn_kept {display : Display props} {event : Event props} (sys : Frame props → Frame props)
    (called : perform display event = redraw sys display) : Kept display event :=
  updated_kept { display with frame := sys display.frame } called rfl

theorem ioctl_ram (cmd : Nat) (display : Display props) :
    (wsEinkFbIoctl cmd display).2.1.panel.ram = display.panel.ram ∧
      (wsEinkFbIoctl cmd display).2.1.frame = display.frame ∧
      (wsEinkFbIoctl cmd display).2.1.scheduled = display.scheduled := by
  rw [wsEinkFbIoctl]
  split
  · refine ⟨?_, rfl, rfl⟩
    cases asleep : display.panel.asleep <;>
      simp [Display.send, Panel.signals, wsEinkSleep, Panel.signal, Panel.receive, asleep]
  · split <;> exact ⟨rfl, rfl, rfl⟩

theorem InSync.congr {frame : Frame props} {panel other : Panel} (sync : InSync frame panel)
    (same : other.ram = panel.ram) : InSync frame other := by
  intro row inside col below
  rw [same]
  exact sync row inside col below

theorem write_kept {display : Display props} {running : Bool} {ppos : Nat} {buf : List Byte}
    {readable : Nat} {frame : Frame props}
    (after : (wsEinkFbWrite running ppos buf readable display.frame).2.2 = frame) :
    Kept display (.write running ppos buf readable) ↔ (display.scheduled = false →
      display.touched = true ∨ frame ≠ display.frame → InSync frame display.panel) := by
  have changed : (display.touched || decide (frame ≠ display.frame)) = true ↔
      display.touched = true ∨ frame ≠ display.frame := by
    rw [Bool.or_eq_true, decide_eq_true_iff]
  rw [← changed, ← after]
  exact ⟨fun both => both.2, fun sync => ⟨fun updates => (by cases updates), sync⟩⟩

/-- Other bytes are on the panel only where the first write of all makes the frame white. -/
theorem other_inSync_iff {display : Display props} (followed : Followed display)
    (settled : display.scheduled = false) {p count : Nat} (fits : p + count ≤ vmemSize props)
    (byte : Nat → Byte) (other : display.frame.store p count byte ≠ display.frame) :
    InSync (display.frame.store p count byte) display.panel ↔
      display.touched = false ∧ p = 0 ∧ vmemSize props ≤ count ∧
        ∀ place < vmemSize props, byte place = 0xFF := by
  cases touched : display.touched with
  | true =>
      have sync := followed.shown settled touched
      constructor
      · intro again
        exact absurd (again.unique sync) other
      · rintro ⟨none, _⟩
        cases none
  | false =>
      obtain ⟨_, blank, cleared⟩ := followed.fresh touched
      rw [blank]
      constructor
      · intro sync
        exact ⟨rfl, (store_filled_iff fits byte).mp (sync.unique cleared)⟩
      · rintro ⟨_, white⟩
        rw [(store_filled_iff fits byte).mpr white]
        exact cleared

/-- A write leaves the panel with the frame just when it is seen. -/
theorem write_kept_iff {display : Display props} (followed : Followed display) (running : Bool)
    (ppos : Nat) (buf : List Byte) (readable : Nat) :
    Kept display (.write running ppos buf readable) ↔
      Seen display (.write running ppos buf readable) := by
  have unchanged (same : (wsEinkFbWrite running ppos buf readable display.frame).2.2 = display.frame) :
      Kept display (.write running ppos buf readable) := by
    rw [write_kept same]
    exact fun settled changed => followed.shown settled (changed.resolve_right fun other => other rfl)
  cases settled : display.scheduled with
  | true =>
      refine iff_of_true ((write_kept rfl).mpr fun none => ?_) (Or.inl settled)
      rw [settled] at none
      cases none
  | false =>
      have frame := write_frame running ppos buf readable display.frame
      by_cases refused : running = false ∨ vmemSize props < ppos
      · rw [if_pos refused] at frame
        refine iff_of_true (unchanged frame) (Or.inr ?_)
        exact refused.imp_right Or.inl
      · rw [if_neg refused] at frame
        obtain ⟨running_true, near⟩ := not_or.mp refused
        have fits : ppos + min buf.length (vmemSize props - ppos) ≤ vmemSize props := by omega
        have stored := @store_same_iff _ display.frame _ _ fits (copyFromUser buf readable)
        -- A write of the bytes that are there changes nothing; any other leaves the panel behind.
        by_cases same : ∀ place < min buf.length (vmemSize props - ppos),
            display.frame.bytes[ppos + place]? = some (copyFromUser buf readable place)
        · exact iff_of_true (unchanged (frame.trans (stored.mpr same)))
            (Or.inr (Or.inr (Or.inr (Or.inl same))))
        · have other := fun equal => same (stored.mp equal)
          have white := other_inSync_iff followed settled fits _ other
          rw [write_kept frame]
          constructor
          · intro sync
            obtain ⟨untouched, first, whole, bytes⟩ := white.mp (sync settled (Or.inr other))
            exact Or.inr (Or.inr (Or.inr (Or.inr ⟨untouched, first, by omega, bytes⟩)))
          · rintro (scheduled | stopped | past | there | ⟨untouched, first, whole, bytes⟩) _ _
            · cases settled.symm.trans scheduled
            · exact absurd stopped running_true
            · exact absurd past near
            · exact absurd there same
            · exact white.mpr ⟨untouched, first, by omega, bytes⟩

theorem kept_iff_seen {display : Display props} (followed : Followed display) (event : Event props) :
    Kept display event ↔ Seen display event := by
  cases event with
  | write running ppos buf readable => exact write_kept_iff followed running ppos buf readable
  | fillrect sys => exact iff_of_true (redrawn_kept sys rfl) trivial
  | copyarea sys => exact iff_of_true (redrawn_kept sys rfl) trivial
  | imageblit sys => exact iff_of_true (redrawn_kept sys rfl) trivial
  | mapped change => exact iff_of_true ⟨fun updates => (by cases updates),
      fun settled => (by cases settled)⟩ trivial
  | deferredIo =>
      refine iff_of_true ?_ trivial
      cases scheduled : display.scheduled with
      | true => exact updated_kept { display with scheduled := false } (if_pos scheduled) rfl
      | false =>
          have called : perform display .deferredIo = (display, []) :=
            if_neg (by rw [scheduled]; exact Bool.false_ne_true)
          rw [Kept, step, called]
          refine ⟨fun _ => trivial, fun _ changed => followed.shown scheduled ?_⟩
          simpa [Event.changes] using changed
  | ioctl cmd =>
      obtain ⟨ram, frame, scheduled⟩ := ioctl_ram cmd display
      refine iff_of_true ⟨fun updates => (by cases updates), fun settled changed => ?_⟩ trivial
      have before : InSync display.frame display.panel :=
        followed.shown (scheduled.symm.trans settled) (by simpa [step, Event.changes] using changed)
      have sync := before.congr ram
      rwa [← frame] at sync

theorem followed_step {display : Display props} (followed : Followed display) {event : Event props}
    (kept : Kept display event) : Followed (step display event) := by
  refine ⟨kept.2, fun untouched => ?_⟩
  have both : display.touched = false ∧ event.changes display = false := Bool.or_eq_false_iff.mp untouched
  obtain ⟨scheduled, blank, cleared⟩ := followed.fresh both.1
  cases event with
  | write running ppos buf readable =>
      have same : (wsEinkFbWrite running ppos buf readable display.frame).2.2 = display.frame :=
        Decidable.not_not.mp (of_decide_eq_false both.2)
      exact ⟨scheduled, same.trans blank, cleared⟩
  | fillrect sys => cases both.2
  | copyarea sys => cases both.2
  | imageblit sys => cases both.2
  | mapped change => cases both.2
  | deferredIo =>
      have called : perform display .deferredIo = (display, []) :=
        if_neg (by rw [scheduled]; exact Bool.false_ne_true)
      rw [step, called]
      exact ⟨scheduled, blank, cleared⟩
  | ioctl cmd =>
      obtain ⟨ram, frame, same⟩ := ioctl_ram cmd display
      exact ⟨same.trans scheduled, frame.trans blank, cleared.congr ram⟩

/-- In any run the panel follows the framebuffer, after every step, just when every write of
the run is seen. -/
theorem follows_iff (panel : Panel) (events : List (Event props)) :
    Along step Kept (probed panel) events ↔ Along step Seen (probed panel) events :=
  along_iff (fun followed => kept_iff_seen followed _) (fun followed kept => followed_step followed kept)
    (probed_followed panel)

/-- One byte written is not sent to the panel, and nothing is to send it. -/
theorem write_unsent :
    ¬ ∀ (panel : Panel) (events : List (Event devWs213)), Along step Kept (probed panel) events := by
  intro follows
  have kept := (follows ⟨false, 0, 0, 0, 0, 0, 0, fun _ _ => 0⟩ [.write true 0 [1] 1]).1
  rcases (kept_iff_seen (probed_followed _) _).mp kept with scheduled | stopped | past | there | white
  · cases scheduled
  · cases stopped
  · exact absurd past (Nat.not_lt_zero _)
  · have cell := there 0 (by decide)
    rw [Nat.zero_add] at cell
    have blank : (probed ⟨false, 0, 0, 0, 0, 0, 0, fun _ _ => 0⟩ : Display devWs213).frame.bytes[0]? =
        some 0 := filled_getElem? (by decide)
    rw [blank] at cell
    exact absurd cell (by decide)
  · exact absurd white.2.2.1 (by decide)

end MangOH.Eink
