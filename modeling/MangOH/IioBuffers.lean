import MangOH.IioDemux
import MangOH.Ownership

/-!
The buffers of a sensor while it samples. The sensor delivers the channels that all of them want
together; a buffer that comes or goes stops it, sets it up anew and starts it again, and what goes
wrong on the way is rolled back.
-/

namespace MangOH.Iio

open CString (Fault)

def enomem : Int := 12
def ebusy : Int := 16
def enodev : Int := 19
def einval : Int := 22

inductive Mode where
  | direct
  | bufferTriggered
  | bufferHardware
deriving DecidableEq

/-- A mask of the driver, or one that was allocated. -/
structure ScanMask where
  mask : Bitmap
  block : Option Nat

structure State (Buf : Type) where
  buffers : Buf → Buffer
  stored : Buf → List (List Cell)
  bufferList : List Buf
  refs : Ledger Buf
  activeScanMask : Option ScanMask
  masks : Heap
  currentmode : Mode
  scanTimestamp : Bool
  scanBytes : Nat
  registered : Bool
  oops : Bool

/-- What the driver and the buffers answer when the sensor is stopped and started, and whether
there is memory and a trigger. -/
structure Hooks (Buf : Type) where
  predisable : Int
  postdisable : Int
  preenable : Int
  updateScanMode : Int
  postenable : Int
  requestUpdate : Buf → Int
  memory : Bool
  demuxMemory : Buf → Bool
  trig : Bool

variable {Buf : Type}

def bitmapEmpty (masklength : Nat) (mask : Bitmap) : Bool := (List.range masklength).all fun si => !mask si

def bitmapSubset (masklength : Nat) (first second : Bitmap) : Bool :=
  (List.range masklength).all fun si => !first si || second si

def scanMaskMatch (avMasks : List Bitmap) (masklength : Nat) (mask : Bitmap) : Option Bitmap :=
  if bitmapEmpty masklength mask = true then none
  else avMasks.find? fun available => bitmapSubset masklength mask available

def compoundMask (buffers : Buf → Buffer) (bufferList : List Buf) : Bitmap :=
  fun si => bufferList.any fun b => (buffers b).scanMask si

def blockOf (active : Option ScanMask) : Option Nat := active.bind ScanMask.block

/-- Stops a sensor that has buffers. -/
def windDown (hooks : Hooks Buf) (st : State Buf) : State Buf × Int :=
  if st.bufferList = [] then (st, 0)
  else if hooks.predisable ≠ 0 then (st, hooks.predisable)
  else ({ st with currentmode := .direct }, hooks.postdisable)

def chooseMode (dev : DevSpec) (hooks : Hooks Buf) : Except Int Mode :=
  if dev.triggered = true then
    if hooks.trig = true then .ok .bufferTriggered else .error (-einval)
  else if dev.hardware = true then .ok .bufferHardware
  else .error (-einval)

/-- A mask of the driver is not freed. -/
def freeMask (dev : DevSpec) (old : Option ScanMask) (st : State Buf) : State Buf :=
  if dev.availableScanMasks.isSome = true then st else { st with masks := st.masks.free (blockOf old) }

def forEach (call : Buf → State Buf → State Buf) : Option Buf → State Buf → State Buf
  | none, st => st
  | some b, st => call b st

variable [DecidableEq Buf]

def State.setBuffer (b : Buf) (buffer : Buffer) (st : State Buf) : State Buf :=
  { st with buffers := Function.update st.buffers b buffer }

def State.activate (b : Buf) (st : State Buf) : State Buf :=
  { st with refs := st.refs.acquire b, bufferList := b :: st.bufferList }

def State.deactivate (b : Buf) (st : State Buf) : State Buf :=
  { st with bufferList := st.bufferList.erase b, refs := st.refs.release b }

def updateDemuxFrom (dev : DevSpec) (active : Bitmap) (memory : Buf → Bool) :
    List Buf → (Buf → Buffer) → Option ((Buf → Buffer) × Bool)
  | [], buffers => some (buffers, true)
  | b :: rest, buffers => do
      let (buffer, ret) ← bufferUpdateDemux dev active (memory b) (buffers b)
      if ret = true then updateDemuxFrom dev active memory rest (Function.update buffers b buffer)
      else some (Function.update buffers b buffer, false)

/-- Where memory runs out, no buffer keeps its table. -/
def updateDemux (dev : DevSpec) (active : Bitmap) (memory : Buf → Bool) (bufferList : List Buf)
    (buffers : Buf → Buffer) : Option (Buf → Buffer) := do
  let (buffers, ret) ← updateDemuxFrom dev active memory bufferList buffers
  if ret = true then some buffers
  else some fun b => if b ∈ bufferList then { buffers b with demuxList := [] } else buffers b

def requestUpdates (dev : DevSpec) (hooks : Hooks Buf) :
    List Buf → (Buf → Buffer) → Option ((Buf → Buffer) × Int)
  | [], buffers => some (buffers, 0)
  | b :: rest, buffers => do
      let bytes ← computeScanBytes dev (buffers b).scanMask (buffers b).scanTimestamp
      let buffers := Function.update buffers b { buffers b with bytesPerDatum := bytes }
      if hooks.requestUpdate b ≠ 0 then some (buffers, hooks.requestUpdate b)
      else requestUpdates dev hooks rest buffers

/-- Starts the sensor; what the update of the tables says is not looked at. -/
def windUp (dev : DevSpec) (hooks : Hooks Buf) (active : Bitmap) (st : State Buf) : Option (State Buf × Int) := do
  let buffers ← updateDemux dev active hooks.demuxMemory st.bufferList st.buffers
  if hooks.preenable ≠ 0 then some ({ st with buffers := buffers }, hooks.preenable)
  else do
    let bytes ← computeScanBytes dev active st.scanTimestamp
    let (buffers, ret) ← requestUpdates dev hooks st.bufferList buffers
    let st := { st with buffers := buffers, scanBytes := bytes }
    if ret ≠ 0 then some (st, ret)
    else if hooks.updateScanMode < 0 then some (st, hooks.updateScanMode)
    else match chooseMode dev hooks with
      | .error ret => some (st, ret)
      | .ok mode =>
          if hooks.postenable ≠ 0 then some ({ st with currentmode := .direct }, hooks.postenable)
          else some ({ st with currentmode := mode }, 0)

/-- The rest of an update, from the mask it has decided on. -/
def restart (dev : DevSpec) (hooks : Hooks Buf) (insertBuffer : Option Buf) (oldMask : Option ScanMask)
    (compound : Nat) (active : ScanMask) (success : Int) (st : State Buf) : Option (State Buf × Int) := do
  let (st, ret) ← windUp dev hooks active.mask { st with activeScanMask := some active }
  if ret ≠ 0 then
    let st := forEach State.deactivate insertBuffer st
    some ({ st with activeScanMask := oldMask, masks := st.masks.free (some compound) }, ret)
  else if dev.availableScanMasks.isSome = true then
    some ({ st with masks := st.masks.free (some compound) }, success)
  else some ({ st with masks := st.masks.free (blockOf oldMask) }, success)

/-- The buffers of the update; a mask that was allocated is kept aside. -/
def regroup (dev : DevSpec) (insertBuffer removeBuffer : Option Buf) (st : State Buf) : State Buf :=
  let st := if dev.availableScanMasks.isSome = true then st else { st with activeScanMask := none }
  forEach State.activate insertBuffer (forEach State.deactivate removeBuffer st)

/-- Memory for the mask of what they all want, and whether one wants the timestamp. -/
def gather (st : State Buf) : State Buf :=
  { st with
    masks := st.masks.malloc
    scanTimestamp := st.bufferList.any fun b => (st.buffers b).scanTimestamp }

/-- The update behind its locks. A mask that the driver cannot deliver is rolled back, of which the
source says that it can only occur when a buffer is added. -/
def updateBuffersLocked (dev : DevSpec) (hooks : Hooks Buf) (insertBuffer removeBuffer : Option Buf)
    (st : State Buf) : Option (State Buf × Int) :=
  let (st, ret) := windDown hooks st
  if ret ≠ 0 then some (st, ret)
  else
    let oldMask := st.activeScanMask
    let st := regroup dev insertBuffer removeBuffer st
    if st.bufferList = [] then some (freeMask dev oldMask { st with currentmode := .direct }, 0)
    else if hooks.memory = false then some (freeMask dev oldMask st, -enomem)
    else
      let compound := st.masks.fresh
      let wanted := compoundMask st.buffers st.bufferList
      let st := gather st
      match dev.availableScanMasks with
      | none => restart dev hooks insertBuffer oldMask compound ⟨wanted, some compound⟩ 0 st
      | some avMasks =>
          match scanMaskMatch avMasks dev.masklength wanted with
          | some mask => restart dev hooks insertBuffer oldMask compound ⟨mask, none⟩ 0 st
          | none =>
              match insertBuffer with
              | none => none
              | some b =>
                  let st := st.deactivate b
                  match oldMask with
                  | some active => restart dev hooks insertBuffer oldMask compound active (-einval) st
                  | none =>
                      some ({ st with activeScanMask := none, masks := st.masks.free (some compound) }, -einval)

def updateBuffers (dev : DevSpec) (hooks : Hooks Buf) (insertBuffer removeBuffer : Option Buf) (st : State Buf) :
    Option (State Buf × Int) :=
  if insertBuffer = removeBuffer then some (st, 0)
  else
    let insertBuffer := insertBuffer.filter (· ∉ st.bufferList)
    let removeBuffer := removeBuffer.filter (· ∈ st.bufferList)
    if insertBuffer = none ∧ removeBuffer = none then some (st, 0)
    else if st.registered = false then some (st, -enodev)
    else updateBuffersLocked dev hooks insertBuffer removeBuffer st

/-- The buffer of the device itself is switched on and off by a file. -/
def storeEnable (dev : DevSpec) (own : Buf) (hooks : Hooks Buf) (requested : Bool) (st : State Buf) :
    Option (State Buf × Int) :=
  if decide (own ∈ st.bufferList) = requested then some (st, 0)
  else if requested = true then updateBuffersLocked dev hooks (some own) none st
  else updateBuffersLocked dev hooks none (some own) st

def scanMaskSet (dev : DevSpec) (memory : Bool) (mask : Bitmap) (bit : Nat) : Bitmap × Int :=
  let trialmask := Function.update mask bit true
  if memory = false then (mask, -enomem)
  else if dev.masklength = 0 then (mask, -einval)
  else if dev.validateScanMask trialmask = false then (mask, -einval)
  else match dev.availableScanMasks with
    | none => (trialmask, 0)
    | some avMasks =>
        if (scanMaskMatch avMasks dev.masklength trialmask).isNone = true then (mask, -einval) else (trialmask, 0)

/-- A channel of the device's buffer is chosen by a file as long as the buffer is not in use. -/
def scanElStore (dev : DevSpec) (own : Buf) (memory : Bool) (bit : Nat) (state : Bool) (st : State Buf) :
    State Buf × Int :=
  let buffer := st.buffers own
  if own ∈ st.bufferList then (st, -ebusy)
  else if dev.masklength < bit then (st, -einval)
  else match state, buffer.scanMask bit with
    | false, true => (st.setBuffer own { buffer with scanMask := Function.update buffer.scanMask bit false }, 0)
    | true, false =>
        let (mask, ret) := scanMaskSet dev memory buffer.scanMask bit
        (st.setBuffer own { buffer with scanMask := mask }, ret)
    | _, _ => (st, 0)

def scanElTsStore (own : Buf) (state : Bool) (st : State Buf) : State Buf × Int :=
  if own ∈ st.bufferList then (st, -ebusy)
  else (st.setBuffer own { st.buffers own with scanTimestamp := state }, 0)

/-- A scan to each buffer in turn; those behind one that is full do not get it. -/
def pushToBuffers (full : Buf → Bool) (datain : List Cell) : List Buf → State Buf → Except Fault (State Buf × Int)
  | [], st => .ok (st, 0)
  | b :: rest, st => do
      let (record, buffer) ← pushToBuffer (st.buffers b) datain
      let st := st.setBuffer b buffer
      if full b = true then .ok (st, -ebusy)
      else pushToBuffers full datain rest { st with stored := Function.update st.stored b (st.stored b ++ [record]) }

def disableAllBuffers (dev : DevSpec) (st : State Buf) : State Buf :=
  if st.bufferList = [] then st
  else
    let st := st.bufferList.foldl (fun st b => st.deactivate b) st
    freeMask dev st.activeScanMask { st with currentmode := .direct }

/-! Runs. -/

inductive Event (Buf : Type) where
  | updateBuffers (hooks : Hooks Buf) (insertBuffer removeBuffer : Option Buf)
  | storeEnable (hooks : Hooks Buf) (requested : Bool)
  | scanElStore (memory : Bool) (bit : Nat) (state : Bool)
  | scanElTsStore (state : Bool)
  | prepare (b : Buf) (scanMask : Bitmap) (scanTimestamp : Bool)
  | push (full : Buf → Bool) (datain : List Cell)
  | unregister

/-- The files are there while the device is registered. Where there is no state the kernel has
followed a null pointer, or has read or written past an end. -/
def act (dev : DevSpec) (own : Buf) (st : State Buf) : Event Buf → Option (State Buf)
  | .updateBuffers hooks insertBuffer removeBuffer =>
      (updateBuffers dev hooks insertBuffer removeBuffer st).map Prod.fst
  | .storeEnable hooks requested =>
      if st.registered = true then (storeEnable dev own hooks requested st).map Prod.fst else some st
  | .scanElStore memory bit state =>
      if st.registered = true then some (scanElStore dev own memory bit state st).1 else some st
  | .scanElTsStore state => if st.registered = true then some (scanElTsStore own state st).1 else some st
  | .prepare b scanMask scanTimestamp =>
      if b ∈ st.bufferList then some st
      else some (st.setBuffer b { st.buffers b with scanMask := scanMask, scanTimestamp := scanTimestamp })
  | .push full datain => (pushToBuffers full datain st.bufferList st).toOption.map Prod.fst
  | .unregister => some { disableAllBuffers dev st with registered := false }

def step (dev : DevSpec) (own : Buf) (st : State Buf) (event : Event Buf) : State Buf :=
  if st.oops = true then st else (act dev own st event).getD { st with oops := true }

/-- Each buffer is held by those that made it. -/
def start (owned : Multiset Buf) : State Buf where
  buffers := fun _ => ⟨fun _ => false, false, [], [], 0⟩
  stored := fun _ => []
  bufferList := []
  refs := ⟨owned, []⟩
  activeScanMask := none
  masks := .empty
  currentmode := .direct
  scanTimestamp := false
  scanBytes := 0
  registered := true
  oops := false

end MangOH.Iio
