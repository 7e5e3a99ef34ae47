import Mathlib.Algebra.Ring.Int.Defs

/-!
The field detect pin of the NFC tag and its debouncing. An edge that comes after the window
has ended closes it, and that is all such an edge does.
-/

namespace MangOH.FieldDetect

/-- A time as `gettimeofday` gives it. -/
@[ext] structure Timeval where
  tvSec : Int
  tvUsec : Int
  normal : 0 ≤ tvUsec ∧ tvUsec < 1000000
deriving DecidableEq

def timerclear : Timeval := ⟨0, 0, by decide⟩

/-- `timercmp(a, b, >)`. -/
def timercmp (a b : Timeval) : Bool :=
  if a.tvSec = b.tvSec then b.tvUsec < a.tvUsec else b.tvSec < a.tvSec

def timeradd (a b : Timeval) : Timeval :=
  if carry : 1000000 ≤ a.tvUsec + b.tvUsec then
    ⟨a.tvSec + b.tvSec + 1, a.tvUsec + b.tvUsec - 1000000, by have := a.normal; have := b.normal; omega⟩
  else ⟨a.tvSec + b.tvSec, a.tvUsec + b.tvUsec, by have := a.normal; have := b.normal; omega⟩

def debounceInterval : Int := 1

def tLong : Timeval := ⟨debounceInterval, 0, by decide⟩

structure Detector where
  tNow : Timeval
  tEnd : Timeval
  debounce : Bool
deriving DecidableEq

def Detector.initial : Detector := ⟨timerclear, timerclear, false⟩

/-- The window has ended by now, and this edge closes it. -/
def Detector.close (detector : Detector) (now : Timeval) : Detector :=
  if timercmp now detector.tEnd then ⟨now, timerclear, false⟩
  else { detector with tNow := now }

/-- The detector after the edge, and whether the records are pushed. -/
def fdChangeCallback (detector : Detector) (state : Bool) (now : Timeval) : Detector × Bool :=
  match state, detector.debounce with
  | false, false => (detector, false)
  | false, true => (detector.close now, false)
  | true, false => (⟨now, timeradd now tLong, true⟩, true)
  | true, true => (detector.close now, false)

attribute [local simp] fdChangeCallback

structure Edge where
  state : Bool
  now : Timeval
deriving DecidableEq

/-- What each edge does, in order. -/
def pushes (detector : Detector) : List Edge → List Bool
  | [] => []
  | edge :: rest =>
      let handled := fdChangeCallback detector edge.state edge.now
      handled.2 :: pushes handled.1 rest

/-! Times as numbers of microseconds. -/

def Timeval.micros (time : Timeval) : Int := time.tvSec * 1000000 + time.tvUsec

theorem timercmp_iff {a b : Timeval} : timercmp a b = true ↔ b.micros < a.micros := by
  have left := a.normal
  have right := b.normal
  unfold timercmp Timeval.micros
  by_cases same : a.tvSec = b.tvSec
  · simp only [same, ↓reduceIte, decide_eq_true_eq]
    omega
  · simp only [same, ↓reduceIte, decide_eq_true_eq]
    omega

theorem micros_timeradd (a b : Timeval) : (timeradd a b).micros = a.micros + b.micros := by
  unfold timeradd Timeval.micros
  split <;> simp only <;> omega

/-- This comes more than the interval after that. -/
def Later (last now : Timeval) : Prop := last.micros + debounceInterval * 1000000 < now.micros

instance (last now : Timeval) : Decidable (Later last now) :=
  inferInstanceAs (Decidable (_ < _))

theorem later_window {last now : Timeval} :
    timercmp now (timeradd last tLong) = true ↔ Later last now := by
  rw [timercmp_iff, micros_timeradd]
  simp [Later, Timeval.micros, tLong]

theorem later_mono {last now next : Timeval} (later : Later last now)
    (ordered : now.micros ≤ next.micros) : Later last next :=
  Int.lt_of_lt_of_le later ordered

/-! What is to be pushed, and the edges that have it so. -/

/-- A rising edge is to be pushed if none has been, or the last one more than the interval
before. -/
def expected (last : Option Timeval) : List Edge → List Bool
  | [] => []
  | edge :: rest =>
      if edge.state ∧ ∀ pushed ∈ last, Later pushed edge.now then true :: expected (some edge.now) rest
      else false :: expected last rest

attribute [local simp] expected

/-- Each edge to be pushed but the first follows a falling one that also comes more than the
interval after the last push. `fallen` is whether such a one has been. -/
def Released (last : Option Timeval) (fallen : Bool) : List Edge → Prop
  | [] => True
  | edge :: rest =>
      match last with
      | none => Released (if edge.state then some edge.now else none) false rest
      | some pushed =>
          if ¬ Later pushed edge.now then Released last fallen rest
          else if edge.state then fallen = true ∧ Released (some edge.now) false rest
          else Released last true rest

attribute [local simp] Released

def Ordered (edges : List Edge) : Prop := edges.Pairwise fun one next => one.now.micros ≤ next.now.micros

/-- The detector as these edges leave it. -/
def Tracks (detector : Detector) : Option Timeval → Bool → Prop
  | none, _ => detector.debounce = false
  | some _, true => detector.debounce = false
  | some pushed, false => detector.debounce = true ∧ detector.tEnd = timeradd pushed tLong

/-- Every edge left comes late, once a falling edge has. -/
def Past (edges : List Edge) : Option Timeval → Bool → Prop
  | some pushed, true => ∀ edge ∈ edges, Later pushed edge.now
  | _, _ => True

variable {detector : Detector} {last : Option Timeval} {pushed now : Timeval} {fallen : Bool}
  {edge : Edge} {rest : List Edge}

theorem Past.tail (past : Past (edge :: rest) last fallen) : Past rest last fallen := by
  cases last with
  | none => trivial
  | some pushed =>
      cases fallen with
      | false => trivial
      | true => exact fun next member => past next (List.mem_cons_of_mem _ member)

/-- Where the window is not open, a falling edge does nothing. -/
theorem callback_idle_falling (idle : detector.debounce = false) :
    fdChangeCallback detector false now = (detector, false) := by
  simp [idle]

theorem callback_idle_rising (idle : detector.debounce = false) :
    fdChangeCallback detector true now = (⟨now, timeradd now tLong, true⟩, true) := by
  simp [idle]

/-- In the window both edges do the same. -/
theorem callback_open (state : Bool) (isOpen : detector.debounce = true) :
    fdChangeCallback detector state now = (detector.close now, false) := by
  cases state <;> simp [isOpen]

theorem close_late (ends : detector.tEnd = timeradd pushed tLong) (later : Later pushed now) :
    detector.close now = ⟨now, timerclear, false⟩ := by
  have beyond : timercmp now detector.tEnd = true := by rw [ends]; exact later_window.mpr later
  simp [Detector.close, beyond]

theorem close_early (ends : detector.tEnd = timeradd pushed tLong) (early : ¬ Later pushed now) :
    detector.close now = { detector with tNow := now } := by
  have within : ¬ timercmp now detector.tEnd = true := by
    rw [ends]
    exact fun beyond => early (later_window.mp beyond)
  simp [Detector.close, within]

/-- A push opens the window that ends the interval later. -/
theorem tracks_push : Tracks ⟨now, timeradd now tLong, true⟩ (some now) false := ⟨rfl, rfl⟩

/-- The pushes are the expected ones where each of them is released. -/
theorem pushes_iff (edges : List Edge) : ∀ {detector : Detector} {last : Option Timeval}
    {fallen : Bool}, Ordered edges → Tracks detector last fallen → Past edges last fallen →
      (pushes detector edges = expected last edges ↔ Released last fallen edges) := by
  induction edges with
  | nil => exact fun _ _ _ => ⟨fun _ => trivial, fun _ => rfl⟩
  | cons edge rest ih =>
      intro detector last fallen ordered tracks past
      obtain ⟨first, sorted⟩ := List.pairwise_cons.mp ordered
      obtain ⟨state, now⟩ := edge
      cases last with
      | none =>
          cases state with
          | false =>
              have idle : Tracks detector none false := tracks
              rw [pushes, callback_idle_falling idle]
              simpa using ih sorted idle trivial
          | true =>
              rw [pushes, callback_idle_rising tracks]
              simpa using ih sorted tracks_push trivial
      | some pushed =>
          by_cases later : Later pushed now
          · have after : Past rest (some pushed) true :=
              fun next member => later_mono later (first next member)
            cases fallen with
            | true =>
                cases state with
                | false =>
                    rw [pushes, callback_idle_falling tracks]
                    simpa [later] using ih sorted tracks after
                | true =>
                    rw [pushes, callback_idle_rising tracks]
                    simpa [later] using ih sorted tracks_push trivial
            | false =>
                -- The window is open: the edge closes it and pushes nothing.
                rw [pushes, callback_open state tracks.1, close_late tracks.2 later]
                cases state with
                | false =>
                    have closed : Tracks ⟨now, timerclear, false⟩ (some pushed) true := rfl
                    simpa [later] using ih sorted closed after
                | true => simp [later]
          · have early : fallen = false := by
              cases fallen with
              | false => rfl
              | true => exact absurd (past _ List.mem_cons_self) later
            subst early
            have kept : Tracks { detector with tNow := now } (some pushed) false := tracks
            rw [pushes, callback_open state tracks.1, close_early tracks.2 later]
            simpa [later] using ih sorted kept trivial

/-- From the first edge on, whatever falling edges there are. -/
theorem pushes_expected_iff (edges : List Edge) (ordered : Ordered edges) :
    pushes .initial edges = expected none edges ↔ Released none false edges :=
  pushes_iff edges ordered rfl trivial

/-- A tag is read at the start and again after five seconds, with these edges in between. -/
def readAgain (between : List Edge) : List Edge :=
  ⟨true, ⟨0, 0, by decide⟩⟩ :: (between ++ [⟨true, ⟨5, 0, by decide⟩⟩])

theorem pushes_expected_after_fall :
    pushes .initial (readAgain [⟨false, ⟨2, 0, by decide⟩⟩]) = [true, false, true] ∧
      Ordered (readAgain [⟨false, ⟨2, 0, by decide⟩⟩]) := by
  have ordered : Ordered (readAgain [⟨false, ⟨2, 0, by decide⟩⟩]) := by
    simp [Ordered, readAgain, Timeval.micros]
  have released : Released none false (readAgain [⟨false, ⟨2, 0, by decide⟩⟩]) := by
    simp [readAgain, Later, Timeval.micros, debounceInterval]
  refine ⟨?_, ordered⟩
  rw [(pushes_expected_iff _ ordered).mpr released]
  decide

/-- With no falling edge in between the second read is not pushed. -/
theorem second_read_not_pushed :
    Ordered (readAgain []) ∧ expected none (readAgain []) = [true, true] ∧
      pushes .initial (readAgain []) = [true, false] := by
  refine ⟨?_, by decide, by decide⟩
  simp [Ordered, readAgain, Timeval.micros]

end MangOH.FieldDetect
