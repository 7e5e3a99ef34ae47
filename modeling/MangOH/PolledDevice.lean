/-!
Programs that talk to a device in frames and poll it. The device has work of
its own to finish, and does so at any moment: before a frame, between two
polls, or after the program has ended. `Meets` says what a program has reached
then, however the transfers end; a poll may be held to what the device answers.
-/

namespace MangOH.PolledDevice

universe u v w

/-- How a device takes a frame and answers one, with `Noise` for what nobody
decides, and how it finishes its work. -/
structure Port (Device : Type u) (Frame : Type v) (Noise : Type w) where
  write : Device → Frame → Noise → Device × Int
  read : Device → Frame → Noise → Int × Frame
  settle : Device → Device
  settled : ∀ device, settle (settle device) = settle device

inductive Program (Frame : Type v) (Result : Type u) where
  | done (result : Result)
  | write (frame : Frame) (next : Int → Program Frame Result)
  | read (frame : Frame) (next : Int → Frame → Program Frame Result)
  | poll (frame : Frame) (again : Frame → Bool) (next : Int → Program Frame Result)

variable {Device : Type u} {Frame : Type v} {Noise : Type w} {Result : Type u}

namespace Program

/-- One transfer; a poll that is to go on stays where it is. -/
def step (port : Port Device Frame Noise) (noise : Noise) :
    Program Frame Result → Device → Program Frame Result × Device
  | .done result, device => (.done result, device)
  | .write frame next, device =>
      (next (port.write device frame noise).2, (port.write device frame noise).1)
  | .read frame next, device =>
      (next (port.read device frame noise).1 (port.read device frame noise).2, device)
  | .poll frame again next, device =>
      let answer := port.read device frame noise
      if 0 ≤ answer.1 ∧ again answer.2 = true then (.poll frame again next, device)
      else (next answer.1, device)

/-- A poll is answered as `fair` says. -/
def Fair (fair : Device → Noise → Prop) (noise : Noise) :
    Program Frame Result → Device → Prop
  | .poll _ _ _, device => fair device noise
  | _, _ => True

/-- The device has finished its work or has not. -/
def Settles (port : Port Device Frame Noise) (device after : Device) : Prop :=
  after = device ∨ after = port.settle device

theorem settles_trans {port : Port Device Frame Noise} {device middle after : Device}
    (first : Settles port device middle) (second : Settles port middle after) :
    Settles port device after := by
  rcases first with rfl | rfl
  · exact second
  · rcases second with rfl | rfl
    · exact Or.inr rfl
    · exact Or.inr (port.settled device)

def Meets (port : Port Device Frame Noise) (fair : Device → Noise → Prop)
    (post : Result → Device → Prop) : Program Frame Result → Device → Prop
  | .done result, device => ∀ after, Settles port device after → post result after
  | .write frame next, device => ∀ after, Settles port device after → ∀ noise,
      Meets port fair post (next (port.write after frame noise).2) (port.write after frame noise).1
  | .read frame next, device => ∀ after, Settles port device after → ∀ noise,
      Meets port fair post (next (port.read after frame noise).1 (port.read after frame noise).2) after
  | .poll frame again next, device => ∀ after, Settles port device after → ∀ noise, fair after noise →
      (0 ≤ (port.read after frame noise).1 → again (port.read after frame noise).2 = false) →
        Meets port fair post (next (port.read after frame noise).1) after

variable {port : Port Device Frame Noise} {fair : Device → Noise → Prop}
variable {post : Result → Device → Prop} {program : Program Frame Result} {device : Device}

/-- The device may finish its work at any moment. -/
theorem meets_settle (meets : Meets port fair post program device) :
    Meets port fair post program (port.settle device) := by
  have finish : ∀ {after}, Settles port (port.settle device) after → Settles port device after :=
    fun second => settles_trans (Or.inr rfl) second
  cases program with
  | done result => exact fun after second => meets after (finish second)
  | write frame next => exact fun after second => meets after (finish second)
  | read frame next => exact fun after second => meets after (finish second)
  | poll frame again next => exact fun after second => meets after (finish second)

theorem meets_step {noise : Noise} (meets : Meets port fair post program device)
    (answered : Fair fair noise program device) :
    Meets port fair post (step port noise program device).1 (step port noise program device).2 := by
  cases program with
  | done result => exact meets
  | write frame next => exact meets device (Or.inl rfl) noise
  | read frame next => exact meets device (Or.inl rfl) noise
  | poll frame again next =>
      simp only [step]
      split
      · exact meets
      · rename_i stop
        refine meets device (Or.inl rfl) noise answered fun success => ?_
        exact Bool.eq_false_iff.mpr fun more => stop ⟨success, more⟩

/-- A program meets what always holds. -/
theorem meets_always (always : ∀ result device, post result device) (program : Program Frame Result) :
    ∀ device, Meets port fair post program device := by
  induction program with
  | done result => exact fun _ after _ => always result after
  | write frame next ih => exact fun _ _ _ _ => ih _ _
  | read frame next ih => exact fun _ _ _ _ => ih _ _ _
  | poll frame again next ih => exact fun _ _ _ _ _ _ => ih _ _

theorem meets_done {result : Result} (meets : Meets port fair post (.done result) device) :
    post result device :=
  meets device (Or.inl rfl)

end Program

end MangOH.PolledDevice
