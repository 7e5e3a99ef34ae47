import MangOH.QueueRead

/-!
`mt7697q_proc_data`: the loop that cuts the words of an S2M queue into frames
and hands each frame to `rx_fcn`. The header being assembled lives in
`mt7697q_info.rsp`, with `cmd.len` zero while none is; it survives from one
call to the next. `goto cleanup` is the error side of `Except`.
-/

namespace MangOH.QueueReceive

open BitFields CyclicWindow QueueMemory QueueRead

def grpQueue : BitVec 8 := 0
def cmdQueueInitRsp : BitVec 8 := 1
def cmdQueueResetRsp : BitVec 8 := 4

/-- `LEN_TO_WORD(sizeof(struct mt7697_rsp_hdr))`. -/
def headerWords : Nat := lenToWord 8

/-- `LEN_TO_WORD(cmd.len - sizeof(struct mt7697_rsp_hdr))`, in `size_t`. -/
def bodyWords (len : BitVec 16) : Nat := lenToWord (sub32 len.toNat 8)

/-- `rx_fcn`: what it does with its private state depends on the words that
`mt7697q_read` gives it. -/
abbrev RxHandler (Priv : Type) := RspHdr → Priv → Reader Word (Priv × Int)

/-- A receive queue, its handler's private state, and every `rx_fcn` call made
so far with the words it read. -/
structure Receiver (Priv : Type) where
  qs : QueueSpec
  priv : Priv
  dispatched : List (RspHdr × List Word)

variable {Priv : Type}

def Receiver.rsp (rx : Receiver Priv) : RspHdr := rx.qs.qinfo.rsp

def Receiver.setRsp (rx : Receiver Priv) (header : RspHdr) : Receiver Priv :=
  { rx with qs := { rx.qs with qinfo := { rx.qs.qinfo with rsp := header } } }

/-- The locals of the loop. -/
structure Loop (Priv : Type) where
  rx : Receiver Priv
  avail : Nat
  req : Nat
  ret : Int

abbrev Flow (Priv : Type) := Except (Receiver Priv × Int)

theorem ok_bind {Left Right : Type} (value : Left) (next : Left → Flow Priv Right) :
    ((Except.ok value : Flow Priv Left) >>= next) = next value := rfl

def mt7697qProcQueueRsp (header : RspHdr) : Int :=
  if header.type = cmdQueueInitRsp then 0
  else if header.type = cmdQueueResetRsp then 0
  else -einval

def readHeader (loop : Loop Priv) : Flow Priv (Loop Priv) :=
  if loop.rx.rsp.len = 0 then
    match mt7697qRead loop.rx.qs loop.req with
    | (qs, ret, words) =>
        let rx := { loop.rx with qs := qs }.setRsp (qs.qinfo.rsp.store words)
        if ret ≠ (loop.req : Int) then .error (rx, ret)
        else .ok ⟨rx, sub32 loop.avail headerWords, bodyWords rx.rsp.len, ret⟩
  else .ok loop

def refill (loop : Loop Priv) : Flow Priv (Loop Priv) :=
  if loop.avail < loop.req then
    match mt7697qPullWrPtr loop.rx.qs with
    | (qs, ret) =>
        let rx := { loop.rx with qs := qs }
        if ret < 0 then .error (rx, ret)
        else .ok ⟨rx, mt7697qGetNumWords qs, loop.req, ret⟩
  else .ok loop

/-- A queue response that is not understood leaves the loop; a failing
`rx_fcn` is only logged. -/
def dispatch (handler : RxHandler Priv) (loop : Loop Priv) : Flow Priv (Loop Priv) :=
  let header := loop.rx.rsp
  if header.grp = grpQueue then
    let ret := mt7697qProcQueueRsp header
    if ret < 0 then .error (loop.rx, ret) else .ok { loop with ret := ret }
  else
    match (handler header loop.rx.priv).run mt7697qRead loop.rx.qs with
    | (qs, words, priv, ret) =>
        .ok { loop with
          rx := ⟨qs, priv, loop.rx.dispatched ++ [(header, words)]⟩
          ret := ret }

def settle (loop : Loop Priv) : Loop Priv :=
  { loop with
    avail := sub32 loop.avail loop.req
    rx := loop.rx.setRsp { loop.rx.rsp with len := 0 }
    req := headerWords }

def pushRead (loop : Loop Priv) : Flow Priv (Loop Priv) :=
  match mt7697qPushRdPtr loop.rx.qs with
  | (qs, ret) =>
      let rx := { loop.rx with qs := qs }
      if ret < 0 then .error (rx, ret) else .ok { loop with rx := rx, ret := ret }

/-- One pass through the body of the loop. -/
def procFrame (handler : RxHandler Priv) (loop : Loop Priv) : Flow Priv (Loop Priv) := do
  let loop ← readHeader loop
  let loop ← refill loop
  if loop.avail < loop.req then .error (loop.rx, loop.ret)
  else
    let loop ← dispatch handler loop
    let loop ← refill (settle loop)
    pushRead loop

/-- `none` means that `fuel` passes were not enough. -/
def procLoop (handler : RxHandler Priv) : Nat → Loop Priv → Option (Receiver Priv × Int)
  | 0, _ => none
  | fuel + 1, loop =>
      if loop.avail < loop.req then some (loop.rx, loop.ret)
      else match procFrame handler loop with
        | .error exit => some exit
        | .ok loop => procLoop handler fuel loop

def mt7697qProcData (handler : RxHandler Priv) (fuel : Nat) (rx : Receiver Priv) :
    Option (Receiver Priv × Int) :=
  match mt7697qPullWrPtr rx.qs with
  | (qs, ret) =>
      let rx := { rx with qs := qs }
      if ret < 0 then some (rx, ret)
      else
        let req := if 0 < rx.rsp.len.toNat then bodyWords rx.rsp.len else headerWords
        procLoop handler fuel ⟨rx, mt7697qGetNumWords qs, req, ret⟩

end MangOH.QueueReceive
