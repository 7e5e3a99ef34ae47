import MangOH.SpiQueue

/-!
Any number of contexts carry out queue operations against the bridge, in any
order of their steps. What an operation asks of the bridge is one `mt7697io`
call after the other; each is alone with the bridge from its first frame to its
return, and does to the slave's memory what it says.
-/

namespace MangOH.SpiAccess

open QueueMemory SpiBridge MutexTasks SpiQueue Trace

variable {Ctx : Type} [DecidableEq Ctx]

abbrev Spi (Ctx : Type) := System Ctx Host Call Outcome Bridge (List Octet)

abbrev SpiEvent (Ctx : Type) := Event Ctx Operation Noise

def spiStep (spi : Spi Ctx) (event : SpiEvent Ctx) : Spi Ctx :=
  step port Call.program Operation.task spi event

/-- No operation has begun; the bridge may be in any state. -/
def opened (bridge : Bridge) (host : Host) : Spi Ctx :=
  ⟨bridge, host, none, fun _ => .running .done⟩

/-- The calls are alone with the bridge, and those that succeed refine memory
accesses. -/
def CallProper (spi : Spi Ctx) (event : SpiEvent Ctx) : Prop :=
  Proper Call.Refines spi event

/-- A word transfer begins with an idle bridge, and a busy bridge is not taken
for an idle one. -/
def CallReady (spi : Spi Ctx) (event : SpiEvent Ctx) : Prop :=
  Ready Call.Begins fair spi event

theorem opened_sound (bridge : Bridge) (host : Host) :
    Sound port fair Call.Refines (opened bridge host : Spi Ctx) := fun _ => rfl

theorem calls_refine_memory {bridge : Bridge} {host : Host} {events : List (SpiEvent Ctx)}
    (ready : Along spiStep CallReady (opened bridge host) events) :
    Along spiStep CallProper (opened bridge host) events :=
  run_proper operation_guarded call_opens (opened_sound bridge host) ready

/-- A transfer that succeeds. -/
def fine (bits : BitVec 16) : Noise := ⟨0, false, bits⟩

def words : Bridge := ⟨0, 0, 0, none, fun place => place + 1⟩

/-- A ring of eight words from 0x100 on; two are there to be read. -/
def ring : Host := ⟨fun _ => ⟨0x80000, 0x100, 3, 5⟩, .cleared, false⟩

/-- One context reads a word while another waits for the mutex. -/
theorem calls_refine_read :
    Along spiStep CallProper (opened words ring : Spi Bool)
      [.start false (.read 0 1), .start true .getS2mMbx, .run false (fine 0), .run false (fine 0),
        .run false (fine 0), .run true (fine 0), .run false (fine 0), .run false (fine 0),
        .run false (fine 0xFFFC), .settle, .run false (fine 0xFFFF), .run false (fine 0),
        .run false (fine 0), .run false (fine 0), .run false (fine 0), .run false (fine 0),
        .run true (fine 0), .run true (fine 0), .run true (fine 0)] := by
  apply calls_refine_memory
  refine ⟨trivial, trivial, trivial, trivial, fun _ => rfl, trivial, trivial, trivial,
    fun _ _ => rfl, trivial, fun _ busy => absurd rfl busy, trivial, trivial, trivial, trivial,
    trivial, trivial, trivial, trivial, trivial⟩

/-- The status of a busy bridge has another bit set. -/
theorem busy_bridge_read :
    ¬ Along spiStep CallProper (opened words ring : Spi Bool)
      [.start false (.read 0 1), .run false (fine 0), .run false (fine 0), .run false (fine 0),
        .run false (fine 0), .run false (fine 0), .run false (fine 2), .run false (fine 0),
        .run false (fine 0), .run false (fine 0)] := by
  rintro ⟨-, -, -, -, -, -, -, -, -, last, -⟩
  exact absurd (last.2 (by decide)).1 (by decide)

end MangOH.SpiAccess
