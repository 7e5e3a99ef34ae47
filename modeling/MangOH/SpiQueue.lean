import MangOH.MutexTasks
import MangOH.QueueReceive
import MangOH.SpiBridge

/-!
The operations of `mt7697q/queue.c` as tasks that share the bridge and the
mutex of `mt7697q_info`. `QueueRead` and `QueueWrite` take a call of `io.h` for
one step; here other contexts run between its frames. Each function goes on
with what it returns, and `cleanup` is where its `goto` leads. Some helpers
take the mutex themselves and some expect that their caller holds it.
-/

namespace MangOH.SpiQueue

open BitFields QueueMemory QueueReceive SpiBridge MutexTasks

/-- The members of `mt7697q_info` that its queues share, and their `data`. -/
structure Host where
  queues : Nat → QueueData
  rsp : RspHdr
  blockedWriter : Bool

abbrev QueueTask := Task Host Call Outcome

def slaveBufferAddress : Word := 0x20000200

/-- A `struct mt7697q_data` of the slave's table. -/
def entryAddr (ch : Nat) : Word := slaveBufferAddress + BitVec.ofNat 32 (16 * ch)

def rdOffsetAddr (ch : Nat) : Word := entryAddr ch + 8

def wrOffsetAddr (ch : Nat) : Word := entryAddr ch + 12

def Host.setQueue (host : Host) (ch : Nat) (data : QueueData) : Host :=
  { host with queues := Function.update host.queues ch data }

def setRdOffset (ch : Nat) (offset : BitVec 16) (host : Host) : Host :=
  host.setQueue ch { host.queues ch with rdOffset := offset }

def setWrOffset (ch : Nat) (offset : BitVec 16) (host : Host) : Host :=
  host.setQueue ch { host.queues ch with wrOffset := offset }

/-- A read over `data` stores the words that it gets. -/
def setData (ch : Nat) (words : List Word) (host : Host) : Host :=
  let data := host.queues ch
  host.setQueue ch
    { flags := words.getD 0 data.flags
      baseAddr := words.getD 1 data.baseAddr
      rdOffset := (words.getD 2 (data.rdOffset.setWidth 32)).setWidth 16
      wrOffset := (words.getD 3 (data.wrOffset.setWidth 32)).setWidth 16 }

def mt7697qGetCapacity (data : QueueData) : Nat := sub32 data.numWords 1

def mt7697qGetNumWords (data : QueueData) : Nat :=
  mt7697qBufDiff data.numWords data.rdOffset.toNat data.wrOffset.toNat

def mt7697qGetFreeWords (data : QueueData) : Nat :=
  sub32 (mt7697qGetCapacity data) (mt7697qGetNumWords data)

/-- What `mt7697q_push_rd_ptr` and `mt7697q_push_wr_ptr` have in common. -/
def pushPtr (ch : Nat) (addr : Word) (offset : BitVec 16) (cleanup : Int → QueueTask) : QueueTask :=
  .call (.wr addr [offset.setWidth 32]) fun (ret, _) =>
    if ret < 0 then cleanup ret
    else .call (.wrM2sMbx (((1 : BitVec 8) <<< ch).setWidth 32)) fun (ret, _) =>
      if ret < 0 then cleanup ret else .call .triggerIntr fun (ret, _) => cleanup ret

/-- Its caller holds the mutex. -/
def mt7697qPullRdPtr (ch : Nat) (next : Int → QueueTask) : QueueTask :=
  .call (.rd (rdOffsetAddr ch) 1) fun (ret, words) =>
    if ret < 0 then next ret
    else .host (setRdOffset ch ((words.headD 0).setWidth 16)) fun _ => next ret

def mt7697qPushRdPtr (ch : Nat) (next : Int → QueueTask) : QueueTask :=
  .lock <| .host id fun host =>
    pushPtr ch (rdOffsetAddr ch) (host.queues ch).rdOffset fun ret => .unlock (next ret)

def mt7697qPullWrPtr (ch : Nat) (next : Int → QueueTask) : QueueTask :=
  .lock <| .call (.rd (wrOffsetAddr ch) 1) fun (ret, words) =>
    if ret < 0 then .unlock (next ret)
    else .host (setWrOffset ch ((words.headD 0).setWidth 16)) fun _ => .unlock (next ret)

/-- Its caller holds the mutex. -/
def mt7697qPushWrPtr (ch : Nat) (next : Int → QueueTask) : QueueTask :=
  .host id fun host => pushPtr ch (wrOffsetAddr ch) (host.queues ch).wrOffset next

def mt7697qReadState (ch : Nat) (next : Int → QueueTask) : QueueTask :=
  .lock <| .call (.rd (entryAddr ch) 4) fun (ret, words) =>
    .host (setData ch words) fun host =>
      let data := host.queues ch
      if ret < 0 then .unlock (next ret)
      else if data.baseAddr = 0 then .unlock (next (-einval))
      else if data.flags = 0 then .unlock (next (-einval))
      else if mt7697qGetCapacity data < data.rdOffset.toNat ∨
          mt7697qGetCapacity data < data.wrOffset.toNat then .unlock (next (-einval))
      else .unlock (next ret)

def mt7697qGetS2mMbx (next : Int → List Word → QueueTask) : QueueTask :=
  .lock <| .call .rdS2mMbx fun (ret, mbox) =>
    if ret < 0 then .unlock (next ret mbox)
    else .call (.clrS2mMbx (mbox.headD 0)) fun (ret, _) => .unlock (next ret mbox)

def readChunk (data : QueueData) (readOffset rdNum : Nat) (cleanup : Int → List Word → QueueTask)
    (next : List Word → Nat → QueueTask) : QueueTask :=
  .call (.rd (data.baseAddr + BitVec.ofNat 32 (4 * readOffset)) rdNum) fun (ret, words) =>
    if ret < 0 then cleanup ret words else next words (u16 (readOffset + rdNum))

/-- The first chunk of `mt7697q_read`; what it read is counted by the request. -/
def readToEnd (data : QueueData) (num : Nat) (cleanup : Int → List Word → QueueTask)
    (next : Nat → List Word → Nat → QueueTask) : QueueTask :=
  let readOffset := data.rdOffset.toNat
  if data.wrOffset.toNat < readOffset then
    let wordsToEnd := sub32 data.numWords readOffset
    let rdNum := if num ≤ wordsToEnd then num else wordsToEnd
    readChunk data readOffset rdNum cleanup fun words offset =>
      next rdNum words (if offset = data.numWords then 0 else offset)
  else next 0 [] readOffset

def readBelow (data : QueueData) (readOffset num : Nat) (cleanup : Int → List Word → QueueTask)
    (next : Nat → List Word → Nat → QueueTask) : QueueTask :=
  if 0 < num then
    let wordsAvail := sub32 data.wrOffset.toNat readOffset
    let rdNum := if num ≤ wordsAvail then num else wordsAvail
    readChunk data readOffset rdNum cleanup (next rdNum)
  else next 0 [] readOffset

def mt7697qRead (ch num : Nat) (next : Int → List Word → QueueTask) : QueueTask :=
  .lock <| .host id fun host =>
    let data := host.queues ch
    readToEnd data num (fun ret words => .unlock (next ret words)) fun rdNum first readOffset =>
      let cleanup (ret : Int) (words : List Word) : QueueTask := .unlock (next ret (first ++ words))
      readBelow data readOffset (num - rdNum) cleanup fun rdMore second readOffset =>
        if data.numWords ≤ readOffset then cleanup (-einval) second
        else .host (setRdOffset ch (BitVec.ofNat 16 readOffset)) fun _ =>
          cleanup (rdNum + rdMore : Nat) second

def writeChunk (data : QueueData) (writeOffset words : Nat) (buff : List Word)
    (cleanup : Int → QueueTask) (next : Nat → List Word → QueueTask) : QueueTask :=
  let wordsToWrite := if buff.length ≤ words then buff.length else words
  .call (.wr (data.baseAddr + BitVec.ofNat 32 (4 * writeOffset)) (buff.take wordsToWrite))
    fun (ret, _) =>
      if ret < 0 then cleanup ret
      else next (u16 (writeOffset + wordsToWrite)) (buff.drop wordsToWrite)

def writeToEnd (data : QueueData) (buff : List Word) (cleanup : Int → QueueTask)
    (next : Nat → List Word → QueueTask) : QueueTask :=
  let readOffset := data.rdOffset.toNat
  let writeOffset := data.wrOffset.toNat
  if readOffset ≤ writeOffset then
    let wordsToEnd := sub32 data.numWords writeOffset
    let wordsAvail := if readOffset = 0 then sub32 wordsToEnd 1 else wordsToEnd
    writeChunk data writeOffset wordsAvail buff cleanup fun offset rest =>
      next (if offset = data.numWords then 0 else offset) rest
  else next writeOffset buff

def writeBelow (data : QueueData) (writeOffset : Nat) (buff : List Word)
    (cleanup : Int → QueueTask) (next : Nat → List Word → QueueTask) : QueueTask :=
  let readOffset := data.rdOffset.toNat
  if writeOffset < readOffset ∧ 0 < buff.length then
    writeChunk data writeOffset (sub32 (sub32 readOffset writeOffset) 1) buff cleanup next
  else next writeOffset buff

def writeWords (ch : Nat) (buff : List Word) (cleanup : Int → QueueTask) : QueueTask :=
  .host id fun host =>
    let data := host.queues ch
    writeToEnd data buff cleanup fun writeOffset rest =>
      writeBelow data writeOffset rest cleanup fun writeOffset rest =>
        if data.numWords ≤ writeOffset then cleanup (-einval)
        else .host (setWrOffset ch (BitVec.ofNat 16 writeOffset)) fun _ =>
          mt7697qPushWrPtr ch fun ret =>
            if ret < 0 then cleanup ret else cleanup (buff.length - rest.length : Nat)

def mt7697qWrite (ch : Nat) (buff : List Word) (next : Int → QueueTask) : QueueTask :=
  .lock <| .host id fun host =>
    let avail := mt7697qGetFreeWords (host.queues ch)
    let cleanup (ret : Int) : QueueTask := .unlock (next ret)
    if avail < buff.length then
      mt7697qPullRdPtr ch fun ret =>
        if ret < 0 then cleanup ret
        else if avail < buff.length then
          .host (fun host => { host with blockedWriter := true }) fun _ => cleanup (-eagain)
        else writeWords ch buff cleanup
    else writeWords ch buff cleanup

/-- What `rx_fcn` does with the queues before it returns. -/
inductive Handler where
  | done (ret : Int)
  | read (ch num : Nat) (next : Int → List Word → Handler)
  | write (ch : Nat) (buff : List Word) (next : Int → Handler)

def Handler.task : Handler → (Int → QueueTask) → QueueTask
  | .done ret, next => next ret
  | .read ch num more, next => mt7697qRead ch num fun ret words => (more ret words).task next
  | .write ch buff more, next => mt7697qWrite ch buff fun ret => (more ret).task next

def readHeader (ch avail req : Nat) (ret : Int) (cleanup : Int → QueueTask)
    (next : Nat → Nat → Int → QueueTask) : QueueTask :=
  .host id fun host =>
    if host.rsp.len = 0 then
      mt7697qRead ch req fun ret words =>
        .host (fun host => { host with rsp := host.rsp.store words }) fun host =>
          if ret ≠ (req : Int) then cleanup ret
          else next (sub32 avail headerWords) (bodyWords host.rsp.len) ret
    else next avail req ret

def refill (ch avail req : Nat) (ret : Int) (cleanup : Int → QueueTask)
    (next : Nat → Int → QueueTask) : QueueTask :=
  if avail < req then
    mt7697qPullWrPtr ch fun ret =>
      if ret < 0 then cleanup ret
      else .host id fun host => next (mt7697qGetNumWords (host.queues ch)) ret
  else next avail ret

def dispatch (handler : RspHdr → Handler) (cleanup next : Int → QueueTask) : QueueTask :=
  .host id fun host =>
    if host.rsp.grp = grpQueue then
      let ret := mt7697qProcQueueRsp host.rsp
      if ret < 0 then cleanup ret else next ret
    else (handler host.rsp).task next

/-- The loop of `mt7697q_proc_data`, for `fuel` passes at most. -/
def procLoop (handler : RspHdr → Handler) (ch : Nat) (cleanup : Int → QueueTask) :
    Nat → Nat → Nat → Int → QueueTask
  | 0, _, _, _ => .done
  | fuel + 1, avail, req, ret =>
      if avail < req then cleanup ret
      else
        readHeader ch avail req ret cleanup fun avail req ret =>
          refill ch avail req ret cleanup fun avail ret =>
            if avail < req then cleanup ret
            else
              dispatch handler cleanup fun ret =>
                .host (fun host => { host with rsp := { host.rsp with len := 0 } }) fun _ =>
                  refill ch (sub32 avail req) headerWords ret cleanup fun avail _ =>
                    mt7697qPushRdPtr ch fun ret =>
                      if ret < 0 then cleanup ret
                      else procLoop handler ch cleanup fuel avail headerWords ret

def mt7697qProcData (handler : RspHdr → Handler) (fuel ch : Nat) (next : Int → QueueTask) :
    QueueTask :=
  mt7697qPullWrPtr ch fun ret =>
    if ret < 0 then next ret
    else .host id fun host =>
      let req := if 0 < host.rsp.len.toNat then bodyWords host.rsp.len else headerWords
      procLoop handler ch next fuel (mt7697qGetNumWords (host.queues ch)) req ret

inductive Operation where
  | read (ch num : Nat)
  | write (ch : Nat) (buff : List Word)
  | procData (handler : RspHdr → Handler) (fuel ch : Nat)
  | getS2mMbx
  | readState (ch : Nat)

def Operation.task : Operation → QueueTask
  | .read ch num => mt7697qRead ch num fun _ _ => .done
  | .write ch buff => mt7697qWrite ch buff fun _ => .done
  | .procData handler fuel ch => mt7697qProcData handler fuel ch fun _ => .done
  | .getS2mMbx => mt7697qGetS2mMbx fun _ _ => .done
  | .readState ch => mt7697qReadState ch fun _ => .done

/-! Who holds the mutex. A helper is held to what its callers do before and
after it. -/

section
variable {next : Int → QueueTask} {cleanup : Int → QueueTask}

theorem pushPtr_guarded {ch : Nat} {addr : Word} {offset : BitVec 16}
    (rest : ∀ ret, Guarded true (cleanup ret)) : Guarded true (pushPtr ch addr offset cleanup) := by
  apply guarded_call
  rintro ⟨ret, _⟩
  simp only
  split
  · exact rest ret
  · apply guarded_call
    rintro ⟨ret, _⟩
    simp only
    split
    · exact rest ret
    · apply guarded_call
      rintro ⟨ret, _⟩
      exact rest ret

theorem mt7697qPullRdPtr_guarded {ch : Nat} (rest : ∀ ret, Guarded true (next ret)) :
    Guarded true (mt7697qPullRdPtr ch next) := by
  apply guarded_call
  rintro ⟨ret, words⟩
  simp only
  split
  · exact rest ret
  · apply guarded_host
    exact fun _ => rest ret

theorem mt7697qPushRdPtr_guarded {ch : Nat} (rest : ∀ ret, Guarded false (next ret)) :
    Guarded false (mt7697qPushRdPtr ch next) := by
  apply guarded_lock
  apply guarded_host
  intro host
  apply pushPtr_guarded
  exact fun ret => guarded_unlock (rest ret)

theorem mt7697qPullWrPtr_guarded {ch : Nat} (rest : ∀ ret, Guarded false (next ret)) :
    Guarded false (mt7697qPullWrPtr ch next) := by
  apply guarded_lock
  apply guarded_call
  rintro ⟨ret, words⟩
  simp only
  split
  · exact guarded_unlock (rest ret)
  · apply guarded_host
    exact fun _ => guarded_unlock (rest ret)

theorem mt7697qPushWrPtr_guarded {ch : Nat} (rest : ∀ ret, Guarded true (next ret)) :
    Guarded true (mt7697qPushWrPtr ch next) := by
  apply guarded_host
  exact fun host => pushPtr_guarded rest

theorem mt7697qReadState_guarded {ch : Nat} (rest : ∀ ret, Guarded false (next ret)) :
    Guarded false (mt7697qReadState ch next) := by
  apply guarded_lock
  apply guarded_call
  rintro ⟨ret, words⟩
  apply guarded_host
  intro host
  -- Every check ends in the same place.
  simp only
  split_ifs <;> exact guarded_unlock (rest _)

theorem mt7697qGetS2mMbx_guarded {next : Int → List Word → QueueTask}
    (rest : ∀ ret mbox, Guarded false (next ret mbox)) : Guarded false (mt7697qGetS2mMbx next) := by
  apply guarded_lock
  apply guarded_call
  rintro ⟨ret, mbox⟩
  simp only
  split
  · exact guarded_unlock (rest ret mbox)
  · apply guarded_call
    rintro ⟨ret, _⟩
    exact guarded_unlock (rest ret mbox)

theorem readChunk_guarded {data : QueueData} {readOffset rdNum : Nat}
    {cleanup : Int → List Word → QueueTask} {next : List Word → Nat → QueueTask}
    (fails : ∀ ret words, Guarded true (cleanup ret words))
    (rest : ∀ words offset, Guarded true (next words offset)) :
    Guarded true (readChunk data readOffset rdNum cleanup next) := by
  apply guarded_call
  rintro ⟨ret, words⟩
  simp only
  split
  · exact fails ret words
  · exact rest words _

theorem readToEnd_guarded {data : QueueData} {num : Nat} {cleanup : Int → List Word → QueueTask}
    {next : Nat → List Word → Nat → QueueTask}
    (fails : ∀ ret words, Guarded true (cleanup ret words))
    (rest : ∀ rdNum words offset, Guarded true (next rdNum words offset)) :
    Guarded true (readToEnd data num cleanup next) := by
  unfold readToEnd
  simp only
  split
  · exact readChunk_guarded fails (fun words _ => rest _ words _)
  · exact rest 0 [] _

theorem readBelow_guarded {data : QueueData} {readOffset num : Nat}
    {cleanup : Int → List Word → QueueTask} {next : Nat → List Word → Nat → QueueTask}
    (fails : ∀ ret words, Guarded true (cleanup ret words))
    (rest : ∀ rdNum words offset, Guarded true (next rdNum words offset)) :
    Guarded true (readBelow data readOffset num cleanup next) := by
  unfold readBelow
  simp only
  split
  · exact readChunk_guarded fails (rest _)
  · exact rest 0 [] _

theorem mt7697qRead_guarded {ch num : Nat} {next : Int → List Word → QueueTask}
    (rest : ∀ ret words, Guarded false (next ret words)) :
    Guarded false (mt7697qRead ch num next) := by
  have leave : ∀ ret words, Guarded true (.unlock (next ret words)) :=
    fun ret words => guarded_unlock (rest ret words)
  apply guarded_lock
  apply guarded_host
  intro host
  apply readToEnd_guarded leave
  intro rdNum first readOffset
  apply readBelow_guarded (fun ret words => leave ret _)
  intro rdMore second readOffset
  split
  · exact leave _ _
  · apply guarded_host
    exact fun _ => leave _ _

theorem writeChunk_guarded {data : QueueData} {writeOffset words : Nat} {buff : List Word}
    {next : Nat → List Word → QueueTask} (fails : ∀ ret, Guarded true (cleanup ret))
    (rest : ∀ offset left, Guarded true (next offset left)) :
    Guarded true (writeChunk data writeOffset words buff cleanup next) := by
  apply guarded_call
  rintro ⟨ret, _⟩
  simp only
  split
  · exact fails ret
  · exact rest _ _

theorem writeToEnd_guarded {data : QueueData} {buff : List Word}
    {next : Nat → List Word → QueueTask} (fails : ∀ ret, Guarded true (cleanup ret))
    (rest : ∀ offset left, Guarded true (next offset left)) :
    Guarded true (writeToEnd data buff cleanup next) := by
  unfold writeToEnd
  simp only
  split
  · exact writeChunk_guarded fails (fun _ left => rest _ left)
  · exact rest _ buff

theorem writeBelow_guarded {data : QueueData} {writeOffset : Nat} {buff : List Word}
    {next : Nat → List Word → QueueTask} (fails : ∀ ret, Guarded true (cleanup ret))
    (rest : ∀ offset left, Guarded true (next offset left)) :
    Guarded true (writeBelow data writeOffset buff cleanup next) := by
  unfold writeBelow
  simp only
  split
  · exact writeChunk_guarded fails rest
  · exact rest writeOffset buff

theorem writeWords_guarded {ch : Nat} {buff : List Word} (rest : ∀ ret, Guarded true (cleanup ret)) :
    Guarded true (writeWords ch buff cleanup) := by
  apply guarded_host
  intro host
  apply writeToEnd_guarded rest
  intro writeOffset left
  apply writeBelow_guarded rest
  intro writeOffset left
  split
  · exact rest _
  · apply guarded_host
    intro host
    apply mt7697qPushWrPtr_guarded
    intro ret
    split
    · exact rest ret
    · exact rest _

theorem mt7697qWrite_guarded {ch : Nat} {buff : List Word} (rest : ∀ ret, Guarded false (next ret)) :
    Guarded false (mt7697qWrite ch buff next) := by
  have leave : ∀ ret, Guarded true (.unlock (next ret)) := fun ret => guarded_unlock (rest ret)
  apply guarded_lock
  apply guarded_host
  intro host
  simp only
  split
  · apply mt7697qPullRdPtr_guarded
    intro ret
    split
    · exact leave ret
    -- The room was short before the pull, and it is tested again as it was.
    · apply guarded_host
      exact fun _ => leave _
  · exact writeWords_guarded leave

theorem handler_guarded (handler : Handler) (rest : ∀ ret, Guarded false (next ret)) :
    Guarded false (handler.task next) := by
  induction handler with
  | done ret => exact rest ret
  | read ch num more ih => exact mt7697qRead_guarded (fun ret words => ih ret words)
  | write ch buff more ih => exact mt7697qWrite_guarded (fun ret => ih ret)

theorem readHeader_guarded {ch avail req : Nat} {ret : Int} {next : Nat → Nat → Int → QueueTask}
    (fails : ∀ ret, Guarded false (cleanup ret))
    (rest : ∀ avail req ret, Guarded false (next avail req ret)) :
    Guarded false (readHeader ch avail req ret cleanup next) := by
  apply guarded_host
  intro host
  split
  · apply mt7697qRead_guarded
    intro ret words
    apply guarded_host
    intro host
    split
    · exact fails ret
    · exact rest _ _ ret
  · exact rest avail req ret

theorem refill_guarded {ch avail req : Nat} {ret : Int} {next : Nat → Int → QueueTask}
    (fails : ∀ ret, Guarded false (cleanup ret)) (rest : ∀ avail ret, Guarded false (next avail ret)) :
    Guarded false (refill ch avail req ret cleanup next) := by
  unfold refill
  split
  · apply mt7697qPullWrPtr_guarded
    intro ret
    split
    · exact fails ret
    · apply guarded_host
      exact fun _ => rest _ ret
  · exact rest avail ret

theorem dispatch_guarded {handler : RspHdr → Handler} (fails : ∀ ret, Guarded false (cleanup ret))
    (rest : ∀ ret, Guarded false (next ret)) : Guarded false (dispatch handler cleanup next) := by
  apply guarded_host
  intro host
  simp only
  split
  · split
    · exact fails _
    · exact rest _
  · exact handler_guarded _ rest

theorem procLoop_guarded {handler : RspHdr → Handler} {ch fuel : Nat}
    (rest : ∀ ret, Guarded false (cleanup ret)) :
    ∀ avail req ret, Guarded false (procLoop handler ch cleanup fuel avail req ret) := by
  induction fuel with
  | zero => exact fun _ _ _ => rfl
  | succ fuel ih =>
      intro avail req ret
      rw [procLoop]
      split
      · exact rest ret
      · apply readHeader_guarded rest
        intro avail req ret
        apply refill_guarded rest
        intro avail ret
        split
        · exact rest ret
        · apply dispatch_guarded rest
          intro ret
          apply guarded_host
          intro host
          apply refill_guarded rest
          intro avail _
          apply mt7697qPushRdPtr_guarded
          intro ret
          split
          · exact rest ret
          · exact ih avail headerWords ret

theorem mt7697qProcData_guarded {handler : RspHdr → Handler} {fuel ch : Nat}
    (rest : ∀ ret, Guarded false (next ret)) :
    Guarded false (mt7697qProcData handler fuel ch next) := by
  apply mt7697qPullWrPtr_guarded
  intro ret
  split
  · exact rest ret
  · apply guarded_host
    intro host
    exact procLoop_guarded rest _ _ ret

end

/-- Every operation makes its calls under the mutex and gives it back. -/
theorem operation_guarded (operation : Operation) : Guarded false operation.task := by
  have ended : Guarded false (.done : QueueTask) := rfl
  cases operation with
  | read ch num => exact mt7697qRead_guarded (fun _ _ => ended)
  | write ch buff => exact mt7697qWrite_guarded (fun _ => ended)
  | procData handler fuel ch => exact mt7697qProcData_guarded (fun _ => ended)
  | getS2mMbx => exact mt7697qGetS2mMbx_guarded (fun _ _ => ended)
  | readState ch => exact mt7697qReadState_guarded (fun _ => ended)

end MangOH.SpiQueue
