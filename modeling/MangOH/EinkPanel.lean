import Mathlib.Data.List.GetD

/-!
The e-ink panel behind the framebuffer and the commands that the driver sends it. A panel
in deep sleep hears nothing but a reset, and keeps its memory. The counter moves along a
row first, upwards in both directions: that is how a reset leaves it, and the only way the
driver asks for. Every transfer goes through.
-/

namespace MangOH.Eink

abbrev Byte := BitVec 8

abbrev wsDriverOutputControl : Byte := 0x01
abbrev wsBoosterSoftStartControl : Byte := 0x0C
abbrev wsDeepSleepMode : Byte := 0x10
abbrev wsDataEntryModeSetting : Byte := 0x11
abbrev wsMasterActivation : Byte := 0x20
abbrev wsDisplayUpdateControl2 : Byte := 0x22
abbrev wsWriteRam : Byte := 0x24
abbrev wsWriteVcomRegister : Byte := 0x2C
abbrev wsWriteLutRegister : Byte := 0x32
abbrev wsSetDummyLinePeriod : Byte := 0x3A
abbrev wsSetGateTime : Byte := 0x3B
abbrev wsSetRamXAddressStartEndPosition : Byte := 0x44
abbrev wsSetRamYAddressStartEndPosition : Byte := 0x45
abbrev wsSetRamXAddressCounter : Byte := 0x4E
abbrev wsSetRamYAddressCounter : Byte := 0x4F
abbrev wsTerminateFrameReadWrite : Byte := 0xFF

/-! The panel. -/

/-- What goes to the panel: a pulse of the reset line, or a command with its data. -/
inductive Signal where
  | reset
  | command (cmd : Byte) (data : List Byte)
deriving DecidableEq

structure Panel where
  asleep : Bool
  xStart : Nat
  xEnd : Nat
  yStart : Nat
  yEnd : Nat
  x : Nat
  y : Nat
  /-- The byte of a row at a column, which is eight dots. -/
  ram : Nat → Nat → Byte

/-- One byte at the counter, which then moves on within the window. -/
def Panel.store (panel : Panel) (byte : Byte) : Panel :=
  let ram := fun row col => if row = panel.y ∧ col = panel.x then byte else panel.ram row col
  if panel.x = panel.xEnd then
    { panel with
      ram := ram
      x := panel.xStart
      y := if panel.y = panel.yEnd then panel.yStart else panel.y + 1 }
  else { panel with ram := ram, x := panel.x + 1 }

def word (low high : Byte) : Nat := low.toNat + 256 * high.toNat

def Panel.receive (panel : Panel) (cmd : Byte) (data : List Byte) : Panel :=
  if panel.asleep then panel
  else if cmd = wsDeepSleepMode then { panel with asleep := true }
  else if cmd = wsWriteRam then data.foldl Panel.store panel
  else if cmd = wsSetRamXAddressStartEndPosition then
    { panel with xStart := (data.getD 0 0).toNat, xEnd := (data.getD 1 0).toNat }
  else if cmd = wsSetRamYAddressStartEndPosition then
    { panel with
      yStart := word (data.getD 0 0) (data.getD 1 0)
      yEnd := word (data.getD 2 0) (data.getD 3 0) }
  else if cmd = wsSetRamXAddressCounter then { panel with x := (data.getD 0 0).toNat }
  else if cmd = wsSetRamYAddressCounter then
    { panel with y := word (data.getD 0 0) (data.getD 1 0) }
  else panel

def Panel.signal (panel : Panel) : Signal → Panel
  | .reset => ⟨false, 0, 0, 0, 0, 0, 0, panel.ram⟩
  | .command cmd data => panel.receive cmd data

def Panel.signals (panel : Panel) (sent : List Signal) : Panel := sent.foldl Panel.signal panel

/-- No command finds the panel asleep. -/
def Panel.Heard : Panel → List Signal → Prop
  | _, [] => True
  | panel, .reset :: rest => (panel.signal .reset).Heard rest
  | panel, .command cmd data :: rest => panel.asleep = false ∧ (panel.receive cmd data).Heard rest

/-! The driver. -/

structure DeviceProperties where
  width : Nat
  height : Nat
  bpp : Nat
  /-- A dot is a bit, a row is whole bytes, its number of bytes is at most 256, and a row number has two bytes. -/
  mono : bpp = 1
  whole : width % 8 = 0
  wide : 0 < width
  narrow : width ≤ 2048
  high : 0 < height
  low : height ≤ 65536

/-- The only device that the driver knows. -/
def devWs213 : DeviceProperties where
  width := 128
  height := 250
  bpp := 1
  mono := rfl
  whole := rfl
  wide := by decide
  narrow := by decide
  high := by decide
  low := by decide

variable (props : DeviceProperties)

def rowBytes : Nat := props.width / 8

def lutFullUpdate : List Byte :=
  [0x22, 0x55, 0xAA, 0x55, 0xAA, 0x55, 0xAA, 0x11, 0x00, 0x00, 0x00, 0x00, 0x00, 0x00, 0x00, 0x00,
    0x1E, 0x1E, 0x1E, 0x1E, 0x1E, 0x1E, 0x1E, 0x1E, 0x01, 0x00, 0x00, 0x00, 0x00, 0x00]

def lutPartialUpdate : List Byte :=
  [0x18, 0x00, 0x00, 0x00, 0x00, 0x00, 0x00, 0x00, 0x00, 0x00, 0x00, 0x00, 0x00, 0x00, 0x00, 0x00,
    0x0F, 0x01, 0x00, 0x00, 0x00, 0x00, 0x00, 0x00, 0x00, 0x00, 0x00, 0x00, 0x00, 0x00]

def byteAt (value shift : Nat) : Byte := BitVec.ofNat 8 (value >>> shift)

def wsEinkReset : List Signal := [.reset]
def wsEinkSleep : List Signal := [.command wsDeepSleepMode []]
def setLut (lut : List Byte) : List Signal := [.command wsWriteLutRegister lut]

def intLut (lut : List Byte) : List Signal :=
  wsEinkReset ++
    [.command wsDriverOutputControl [byteAt (props.height - 1) 0, byteAt (props.height - 1) 8, 0x00],
      .command wsBoosterSoftStartControl [0xD7, 0xD6, 0x9D], .command wsWriteVcomRegister [0xA8],
      .command wsSetDummyLinePeriod [0x1A], .command wsSetGateTime [0x08],
      .command wsDataEntryModeSetting [0x03]] ++ setLut lut

def setMemoryArea (xStart yStart xEnd yEnd : Nat) : List Signal :=
  [.command wsSetRamXAddressStartEndPosition [byteAt xStart 3, byteAt xEnd 3],
    .command wsSetRamYAddressStartEndPosition
      [byteAt yStart 0, byteAt yStart 8, byteAt yEnd 0, byteAt yEnd 8]]

def setMemoryPointer (x y : Nat) : List Signal :=
  [.command wsSetRamXAddressCounter [byteAt x 3],
    .command wsSetRamYAddressCounter [byteAt y 0, byteAt y 8]]

/-- The first rows, each at a pointer of its own. -/
def writeRows (line : Nat → List Byte) : Nat → List Signal
  | 0 => []
  | row + 1 => writeRows line row ++ (setMemoryPointer 0 row ++ [.command wsWriteRam (line row)])

def writeMemory (line : Nat → List Byte) : List Signal :=
  setMemoryArea 0 0 (props.width - 1) (props.height - 1) ++ writeRows line props.height

def clearFrameMemory (color : Byte) : List Signal :=
  writeMemory props fun _ => List.replicate (rowBytes props) color

def setFrameMemory (imageBuffer : List Byte) : List Signal :=
  writeMemory props fun row => (imageBuffer.drop (row * rowBytes props)).take (rowBytes props)

def displayFrame : List Signal :=
  [.command wsDisplayUpdateControl2 [0xC4], .command wsMasterActivation [],
    .command wsTerminateFrameReadWrite []]

def wsEinkInitDisplay : List Signal :=
  intLut props lutFullUpdate ++ clearFrameMemory props 0xFF ++ displayFrame ++
    intLut props lutPartialUpdate

/-! What the commands do. -/

theorem signals_append (panel : Panel) (first second : List Signal) :
    panel.signals (first ++ second) = (panel.signals first).signals second :=
  List.foldl_append

theorem word_byteAt {value : Nat} (small : value < 65536) :
    word (byteAt value 0) (byteAt value 8) = value := by
  simp only [word, byteAt, BitVec.toNat_ofNat, Nat.shiftRight_eq_div_pow]
  omega

/-- Bytes that stay within the window go one after another into the row of the counter. -/
theorem store_line {data : List Byte} {panel : Panel} (fits : panel.x + data.length ≤ panel.xEnd + 1) :
    let after := data.foldl Panel.store panel
    (after.asleep = panel.asleep ∧ after.xStart = panel.xStart ∧ after.xEnd = panel.xEnd) ∧
      (∀ col < data.length, data[col]? = some (after.ram panel.y (panel.x + col))) ∧
      ∀ row col, row ≠ panel.y ∨ col < panel.x → after.ram row col = panel.ram row col := by
  induction data generalizing panel with
  | nil =>
      refine ⟨⟨rfl, rfl, rfl⟩, fun col below => ?_, fun _ _ _ => rfl⟩
      cases below
  | cons byte rest ih =>
      rw [List.length_cons] at fits
      have here : (panel.store byte).ram panel.y panel.x = byte := by
        rw [Panel.store]
        split <;> simp
      have others : ∀ row col, row ≠ panel.y ∨ col < panel.x →
          (panel.store byte).ram row col = panel.ram row col := by
        intro row col other
        have apart : ¬ (row = panel.y ∧ col = panel.x) := by omega
        rw [Panel.store]
        split <;> simp [apart]
      have window : (panel.store byte).asleep = panel.asleep ∧
          (panel.store byte).xStart = panel.xStart ∧ (panel.store byte).xEnd = panel.xEnd := by
        rw [Panel.store]
        split <;> exact ⟨rfl, rfl, rfl⟩
      -- Behind the last column of the window the counter would go to the next row.
      by_cases last : panel.x = panel.xEnd
      · have none : rest = [] := List.length_eq_zero_iff.mp (by omega)
        rw [none]
        refine ⟨window, fun col below => ?_, others⟩
        have first : col = 0 := Nat.lt_one_iff.mp below
        rw [first, Nat.add_zero]
        exact congrArg some here.symm
      · have next : (panel.store byte).x = panel.x + 1 ∧ (panel.store byte).y = panel.y := by
          rw [Panel.store, if_neg last]
          exact ⟨rfl, rfl⟩
        obtain ⟨kept, written, untouched⟩ := @ih (panel.store byte) (by rw [next.1, window.2.2]; omega)
        rw [next.2, next.1] at written untouched
        rw [window.1, window.2.1, window.2.2] at kept
        refine ⟨kept, fun col below => ?_, fun row col other => ?_⟩
        · cases col with
          | zero =>
              rw [Nat.add_zero, List.foldl_cons, untouched _ _ (Or.inr (Nat.lt_succ_self _)), here]
              rfl
          | succ col =>
              rw [List.getElem?_cons_succ, written col (Nat.lt_of_succ_lt_succ below), List.foldl_cons,
                Nat.add_assoc, Nat.add_comm 1]
        · rw [List.foldl_cons, untouched row col (other.imp_right Nat.lt_succ_of_lt), others row col other]

/-- An awake panel whose window is as wide as its rows. -/
structure Ready (panel : Panel) : Prop where
  awake : panel.asleep = false
  left : panel.xStart = 0
  right : panel.xEnd + 1 = rowBytes props

/-- The first rows of the memory are these lines. -/
def Shows (panel : Panel) (line : Nat → List Byte) (rows : Nat) : Prop :=
  ∀ row < rows, ∀ col < rowBytes props, (line row)[col]? = some (panel.ram row col)

variable {props}

theorem rowBytes_pos : 0 < rowBytes props := by
  have whole := props.whole
  have wide := props.wide
  rw [rowBytes]
  omega

theorem setMemoryArea_ready {panel : Panel} (awake : panel.asleep = false) :
    let after := panel.signals (setMemoryArea 0 0 (props.width - 1) (props.height - 1))
    Ready props after ∧ after.ram = panel.ram := by
  have right : (byteAt (props.width - 1) 3).toNat + 1 = rowBytes props := by
    have whole := props.whole
    have wide := props.wide
    have narrow := props.narrow
    simp only [byteAt, rowBytes, BitVec.toNat_ofNat, Nat.shiftRight_eq_div_pow]
    omega
  have area : panel.signals (setMemoryArea 0 0 (props.width - 1) (props.height - 1)) =
      { panel with
        xStart := 0
        xEnd := (byteAt (props.width - 1) 3).toNat
        yStart := word (byteAt 0 0) (byteAt 0 8)
        yEnd := word (byteAt (props.height - 1) 0) (byteAt (props.height - 1) 8) } := by
    simp [Panel.signals, setMemoryArea, Panel.signal, Panel.receive, awake, byteAt]
  rw [area]
  exact ⟨⟨awake, rfl, right⟩, rfl⟩

theorem setMemoryPointer_eq {panel : Panel} (awake : panel.asleep = false) {row : Nat}
    (small : row < 65536) : panel.signals (setMemoryPointer 0 row) = { panel with x := 0, y := row } := by
  have number := word_byteAt small
  simp only [Panel.signals, setMemoryPointer, List.foldl_cons, List.foldl_nil, Panel.signal, Panel.receive,
    awake, List.getD_cons_zero, List.getD_cons_succ, number]
  rfl

theorem row_written {panel : Panel} (ready : Ready props panel) {row : Nat} (small : row < 65536)
    {bytes : List Byte} (full : bytes.length = rowBytes props) :
    let after := panel.signals (setMemoryPointer 0 row ++ [.command wsWriteRam bytes])
    Ready props after ∧ (∀ col < rowBytes props, bytes[col]? = some (after.ram row col)) ∧
      ∀ other ≠ row, ∀ col, after.ram other col = panel.ram other col := by
  have sent : panel.signals (setMemoryPointer 0 row ++ [.command wsWriteRam bytes]) =
      bytes.foldl Panel.store { panel with x := 0, y := row } := by
    rw [signals_append, setMemoryPointer_eq ready.awake small]
    simp [Panel.signals, Panel.signal, Panel.receive, ready.awake]
  obtain ⟨kept, written, untouched⟩ := @store_line bytes { panel with x := 0, y := row }
    (by rw [full]; exact Nat.le_of_eq (by rw [Nat.zero_add]; exact ready.right.symm))
  rw [sent]
  refine ⟨⟨kept.1.trans ready.awake, kept.2.1.trans ready.left, ?_⟩, fun col below => ?_, ?_⟩
  · rw [kept.2.2]
    exact ready.right
  · have cell := written col (by rw [full]; exact below)
    simpa using cell
  · exact fun other apart col => untouched other col (Or.inl apart)

theorem writeRows_shows {panel : Panel} (ready : Ready props panel) {line : Nat → List Byte} {rows : Nat}
    (few : rows ≤ 65536) (full : ∀ row < rows, (line row).length = rowBytes props) :
    Ready props (panel.signals (writeRows line rows)) ∧
      Shows props (panel.signals (writeRows line rows)) line rows := by
  induction rows with
  | zero => exact ⟨ready, fun _ below => absurd below (Nat.not_lt_zero _)⟩
  | succ rows ih =>
      obtain ⟨still, shows_before⟩ := ih (by omega) (fun row below => full row (Nat.lt_succ_of_lt below))
      obtain ⟨after, written, untouched⟩ :=
        row_written still (by omega : rows < 65536) (full rows (Nat.lt_succ_self rows))
      rw [writeRows, signals_append]
      refine ⟨after, fun row below col inside => ?_⟩
      by_cases last : row = rows
      · rw [last]
        exact written col inside
      · rw [untouched row last col]
        exact shows_before row (by omega) col inside

theorem writeMemory_shows {panel : Panel} (awake : panel.asleep = false) {line : Nat → List Byte}
    (full : ∀ row < props.height, (line row).length = rowBytes props) :
    let after := panel.signals (writeMemory props line)
    after.asleep = false ∧ Shows props after line props.height := by
  obtain ⟨ready, _⟩ := @setMemoryArea_ready props panel awake
  obtain ⟨after, shown⟩ := writeRows_shows ready props.low full
  rw [writeMemory, signals_append]
  exact ⟨after.awake, shown⟩

theorem intLut_awake (panel : Panel) (lut : List Byte) :
    (panel.signals (intLut props lut)).asleep = false ∧
      (panel.signals (intLut props lut)).ram = panel.ram := ⟨rfl, rfl⟩

theorem displayFrame_kept (panel : Panel) :
    (panel.signals displayFrame).asleep = panel.asleep ∧
      (panel.signals displayFrame).ram = panel.ram := by
  cases awake : panel.asleep <;>
    simp [Panel.signals, displayFrame, Panel.signal, Panel.receive, awake]

/-! What the panel hears. -/

def Signal.sleeps : Signal → Bool
  | .reset => false
  | .command cmd _ => cmd = wsDeepSleepMode

theorem foldl_store_asleep (data : List Byte) (panel : Panel) :
    (data.foldl Panel.store panel).asleep = panel.asleep := by
  induction data generalizing panel with
  | nil => rfl
  | cons byte rest ih =>
      have first : (panel.store byte).asleep = panel.asleep := by
        rw [Panel.store]
        split <;> rfl
      rw [List.foldl_cons, ih, first]

theorem receive_awake {panel : Panel} (awake : panel.asleep = false) {cmd : Byte}
    (other : cmd ≠ wsDeepSleepMode) (data : List Byte) : (panel.receive cmd data).asleep = false := by
  have stored := (foldl_store_asleep data panel).trans awake
  rw [Panel.receive, awake, if_neg Bool.false_ne_true, if_neg other]
  split
  · exact stored
  · -- The other commands set the window or the counter, or nothing that is kept here.
    repeat (first | rfl | exact awake | split)

theorem heard_append {panel : Panel} {first second : List Signal} :
    panel.Heard (first ++ second) ↔ panel.Heard first ∧ (panel.signals first).Heard second := by
  induction first generalizing panel with
  | nil => simp [Panel.Heard, Panel.signals]
  | cons signal rest ih =>
      cases signal with
      | reset =>
          rw [List.cons_append, Panel.Heard, Panel.Heard, ih]
          rfl
      | command cmd data =>
          rw [List.cons_append, Panel.Heard, Panel.Heard, ih, and_assoc]
          rfl

theorem heard_awake {sent : List Signal} (wakes : ∀ signal ∈ sent, signal.sleeps = false)
    {panel : Panel} (awake : panel.asleep = false) :
    panel.Heard sent ∧ (panel.signals sent).asleep = false := by
  induction sent generalizing panel with
  | nil => exact ⟨trivial, awake⟩
  | cons signal rest ih =>
      have others := fun signal inside => wakes signal (List.mem_cons_of_mem _ inside)
      have first := wakes signal List.mem_cons_self
      cases signal with
      | reset => exact ih others rfl
      | command cmd data =>
          have other : cmd ≠ wsDeepSleepMode := of_decide_eq_false first
          obtain ⟨heard, still⟩ := ih others (receive_awake awake other data)
          exact ⟨⟨awake, heard⟩, still⟩

theorem writeRows_wakes (line : Nat → List Byte) (rows : Nat) :
    ∀ signal ∈ writeRows line rows, signal.sleeps = false := by
  induction rows with
  | zero =>
      intro _ inside
      cases inside
  | succ row ih =>
      intro signal inside
      rw [writeRows, List.mem_append] at inside
      rcases inside with before | here
      · exact ih signal before
      · simp only [setMemoryPointer, List.cons_append, List.nil_append, List.mem_cons, List.not_mem_nil,
          or_false] at here
        rcases here with rfl | rfl | rfl <;> rfl

theorem writeMemory_wakes (line : Nat → List Byte) :
    ∀ signal ∈ writeMemory props line, signal.sleeps = false := by
  intro signal inside
  rw [writeMemory, List.mem_append] at inside
  rcases inside with area | row
  · simp only [setMemoryArea, List.mem_cons, List.not_mem_nil, or_false] at area
    rcases area with rfl | rfl <;> rfl
  · exact writeRows_wakes line props.height signal row

/-- A new setting begins with a reset, and so whatever the panel does, it hears all of it. -/
theorem intLut_heard (panel : Panel) (lut : List Byte) : panel.Heard (intLut props lut) :=
  ⟨rfl, rfl, rfl, rfl, rfl, rfl, rfl, trivial⟩

theorem displayFrame_heard {panel : Panel} (awake : panel.asleep = false) :
    panel.Heard displayFrame := by
  simp [displayFrame, Panel.Heard, Panel.receive, awake]

/-- The commands up to a new picture: whatever the panel did before, it hears them all and
has the lines then. -/
theorem frame_sent (panel : Panel) (lut : List Byte) {line : Nat → List Byte}
    (full : ∀ row < props.height, (line row).length = rowBytes props) :
    let sent := intLut props lut ++ writeMemory props line ++ displayFrame
    panel.Heard sent ∧ (panel.signals sent).asleep = false ∧
      Shows props (panel.signals sent) line props.height := by
  intro sent
  have awake := (@intLut_awake props panel lut).1
  obtain ⟨still, shown⟩ := writeMemory_shows awake full
  have rows := (heard_awake (@writeMemory_wakes props line) awake).1
  have activated := displayFrame_kept ((panel.signals (intLut props lut)).signals (writeMemory props line))
  simp only [sent, heard_append, signals_append]
  refine ⟨⟨⟨intLut_heard panel lut, rows⟩, displayFrame_heard still⟩, activated.1.trans still, ?_⟩
  rw [Shows, activated.2]
  exact shown

end MangOH.Eink
