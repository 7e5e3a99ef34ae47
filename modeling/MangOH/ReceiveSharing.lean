import MangOH.ReceiveRuns

/-!
Several S2M queues of one `mt7697q_info`. Of that structure the receive loop
reads and writes only `rsp`, so `rsp` is the state that the queues share; the
queue that a call serves works on it in place. Each queue is compared with the
same queue served alone, over the same publications and calls.
-/

namespace MangOH.ReceiveSharing

open BitFields QueueMemory QueueRead QueueReceive ReceiveFrames ReceiveRuns

variable {Priv : Type}

def Sane (qs : QueueSpec) : Prop := ∃ held seen unseen, Feed qs held seen unseen

/-- The queue at the end of a stage, also when the stage leaves the loop. -/
def Safe : Flow Priv (Loop Priv) → Prop
  | .ok loop => Sane loop.rx.qs
  | .error exit => Sane exit.1.qs

/-- The queues, the header in `mt7697q_info.rsp`, and the queue served last. -/
structure Queues (Channel Priv : Type) where
  rx : Channel → Receiver Priv
  rsp : RspHdr
  served : Option Channel

/-- What a call on `channel` works on. -/
def Queues.serving {Channel : Type} (queues : Queues Channel Priv) (channel : Channel) :
    Receiver Priv := (queues.rx channel).setRsp queues.rsp

variable {Channel : Type} [DecidableEq Channel]

def SharedStep (handler : Channel → RxHandler Priv) (before : Queues Channel Priv)
    (event : Channel × Event) (after : Queues Channel Priv) : Prop :=
  match event.2 with
  | .publish count =>
      after = { before with
        rx := Function.update before.rx event.1 (publish count (before.rx event.1)) }
  | .procData => ∃ fuel rx ret,
      mt7697qProcData (handler event.1) fuel (before.serving event.1) = some (rx, ret) ∧
      after = ⟨Function.update before.rx event.1 rx, rx.rsp, some event.1⟩

/-- A call on another queue than the last one finds no header in place. -/
def TakesTurns (before : Queues Channel Priv) (event : Channel × Event) : Prop :=
  event.2 = .procData → (∃ other, before.served = some other ∧ other ≠ event.1) →
    before.rsp.len = 0

/-- The events of one queue. -/
def project (channel : Channel) (events : List (Channel × Event)) : List Event :=
  (events.filter fun event => event.1 = channel).map Prod.snd

section Offsets

variable {loop : Loop Priv} {handler : RxHandler Priv}

theorem run_sane {α : Type} (program : Reader Word α) :
    ∀ {qs : QueueSpec}, Sane qs → Sane (program.run mt7697qRead qs).1 := by
  induction program with
  | done value => exact fun sane => sane
  | read num next ih =>
      rintro qs ⟨held, seen, unseen, feed⟩
      obtain ⟨after, result, kept, -⟩ := mt7697qRead_feed num feed
      simp only [Reader.run, result]
      exact ih _ _ ⟨_, _, _, kept⟩

theorem setRsp_sane {rx : Receiver Priv} (header : RspHdr) (sane : Sane rx.qs) :
    Sane (rx.setRsp header).qs := by
  obtain ⟨held, seen, unseen, feed⟩ := sane
  exact ⟨held, seen, unseen, setRsp_feed rx feed header⟩

theorem readHeader_safe (sane : Sane loop.rx.qs) : Safe (readHeader loop) := by
  by_cases none : loop.rx.rsp.len = 0
  · obtain ⟨held, seen, unseen, feed⟩ := sane
    obtain ⟨after, result, kept, -⟩ := mt7697qRead_feed loop.req feed
    rw [readHeader, if_pos none, result]
    have next : Sane ({ loop.rx with qs := after }.setRsp
        (after.qinfo.rsp.store (seen.take loop.req))).qs := setRsp_sane _ ⟨_, _, _, kept⟩
    dsimp only
    split
    · exact next
    · exact next
  · rw [readHeader, if_neg none]
    exact sane

theorem refill_safe (sane : Sane loop.rx.qs) : Safe (refill loop) := by
  by_cases short : loop.avail < loop.req
  · obtain ⟨held, seen, unseen, feed⟩ := sane
    obtain ⟨after, amount, result, kept, -⟩ := mt7697qPullWrPtr_feed feed
    rw [refill, if_pos short, result]
    exact ⟨_, _, _, kept⟩
  · rw [refill, if_neg short]
    exact sane

theorem dispatch_safe (sane : Sane loop.rx.qs) : Safe (dispatch handler loop) := by
  unfold dispatch
  dsimp only
  split
  · split
    · exact sane
    · exact sane
  · exact run_sane _ sane

theorem pushRead_safe (sane : Sane loop.rx.qs) : Safe (pushRead loop) := by
  obtain ⟨held, seen, unseen, feed⟩ := sane
  obtain ⟨after, result, kept, -⟩ := mt7697qPushRdPtr_feed feed
  rw [pushRead, result]
  exact ⟨_, _, _, kept⟩

theorem bind_safe {first : Flow Priv (Loop Priv)} {next : Loop Priv → Flow Priv (Loop Priv)}
    (safe : Safe first) (keep : ∀ loop, Sane loop.rx.qs → Safe (next loop)) :
    Safe (first >>= next) := by
  cases first with
  | error exit => exact safe
  | ok loop => exact keep loop safe

theorem procFrame_safe (sane : Sane loop.rx.qs) : Safe (procFrame handler loop) := by
  refine bind_safe (readHeader_safe sane) fun armed sane => ?_
  refine bind_safe (refill_safe sane) fun filled sane => ?_
  split
  · exact sane
  · refine bind_safe (dispatch_safe sane) fun sent sane => ?_
    exact bind_safe (refill_safe (setRsp_sane _ sane)) fun next sane => pushRead_safe sane

theorem procLoop_sane (fuel : Nat) : ∀ {loop : Loop Priv} {exit : Receiver Priv} {ret : Int},
    Sane loop.rx.qs → procLoop handler fuel loop = some (exit, ret) → Sane exit.qs := by
  induction fuel with
  | zero => exact fun _ result => nomatch result
  | succ fuel ih =>
      intro loop exit ret sane result
      -- The pass keeps the offsets whether it stops the loop or goes on.
      have safe : Safe (procFrame handler loop) := procFrame_safe sane
      rw [procLoop] at result
      split at result
      · cases result
        exact sane
      · split at result
        · rename_i stopped
          rw [stopped] at safe
          cases result
          exact safe
        · rename_i next passed
          rw [passed] at safe
          exact ih safe result

theorem mt7697qProcData_sane {fuel : Nat} {rx exit : Receiver Priv} {ret : Int}
    (sane : Sane rx.qs) (result : mt7697qProcData handler fuel rx = some (exit, ret)) :
    Sane exit.qs := by
  obtain ⟨held, seen, unseen, feed⟩ := sane
  obtain ⟨after, amount, pulled, kept, -⟩ := mt7697qPullWrPtr_feed feed
  rw [mt7697qProcData, pulled] at result
  exact procLoop_sane fuel ⟨_, _, _, kept⟩ result

end Offsets

section Headers

def withRsp (qs : QueueSpec) (header : RspHdr) : QueueSpec :=
  { qs with qinfo := { qs.qinfo with rsp := header } }

variable (qs : QueueSpec) (header : RspHdr)

theorem mt7697ioRd_withRsp (addr : Word) (num : Nat) :
    mt7697ioRd (withRsp qs header) addr num =
      (withRsp (mt7697ioRd qs addr num).1 header, (mt7697ioRd qs addr num).2) := by
  simp only [mt7697ioRd, withRsp]
  split <;> rfl

theorem readChunk_withRsp (offset num : Nat) :
    readChunk (withRsp qs header) offset num =
      (withRsp (readChunk qs offset num).1 header, (readChunk qs offset num).2) := by
  simp only [readChunk, wordAddr, mt7697ioRd_withRsp]
  rfl

theorem readToEnd_withRsp (read write num : Nat) :
    readToEnd (withRsp qs header) read write num =
      (withRsp (readToEnd qs read write num).1 header, (readToEnd qs read write num).2) := by
  simp only [readToEnd, readChunk_withRsp]
  split <;> rfl

theorem readBelow_withRsp (read write num : Nat) :
    readBelow (withRsp qs header) read write num =
      (withRsp (readBelow qs read write num).1 header, (readBelow qs read write num).2) := by
  simp only [readBelow, readChunk_withRsp]
  split <;> rfl

/-- Reading a queue neither looks at the shared header nor touches it. -/
theorem mt7697qRead_withRsp (num : Nat) :
    mt7697qRead (withRsp qs header) num =
      (withRsp (mt7697qRead qs num).1 header, (mt7697qRead qs num).2) := by
  have offsets : (withRsp qs header).data = qs.data := rfl
  simp only [mt7697qRead, offsets, readToEnd_withRsp]
  split
  · rfl
  · simp only [readBelow_withRsp]
    split
    · rfl
    · have size : ∀ qs : QueueSpec, (withRsp qs header).data = qs.data := fun _ => rfl
      simp only [size]
      split <;> rfl

theorem mt7697qPullWrPtr_withRsp :
    mt7697qPullWrPtr (withRsp qs header) =
      (withRsp (mt7697qPullWrPtr qs).1 header, (mt7697qPullWrPtr qs).2) := by
  simp only [mt7697qPullWrPtr, withRsp]
  split <;> rfl

theorem readHeader_withRsp (rx : Receiver Priv) {held seen unseen : List Word} (avail : Nat)
    (ret : Int) (feed : Feed rx.qs held seen unseen) (idle : rx.rsp.len = 0)
    (clean : header.len = 0) (enough : headerWords ≤ seen.length) :
    readHeader ⟨rx.setRsp header, avail, headerWords, ret⟩ =
      readHeader ⟨rx, avail, headerWords, ret⟩ := by
  rw [headerWords_eq] at enough
  obtain ⟨cmd, result, more, rfl⟩ : ∃ cmd result more, seen = cmd :: result :: more := by
    match seen, enough with
    | cmd :: result :: more, _ => exact ⟨cmd, result, more, rfl⟩
  obtain ⟨after, served, -, -⟩ := mt7697qRead_feed headerWords feed
  have read : mt7697qRead rx.qs headerWords = (after, 2, [cmd, result]) := served
  have shared : mt7697qRead (rx.setRsp header).qs headerWords =
      (withRsp after header, 2, [cmd, result]) := by
    have moved := mt7697qRead_withRsp rx.qs header headerWords
    rw [read] at moved
    exact moved
  have none : (rx.setRsp header).rsp.len = 0 := clean
  simp only [readHeader, none, idle, if_true, shared, read]
  rfl

/-- While no header is in place, a call either overwrites whatever header it
finds or returns without using it. -/
theorem mt7697qProcData_withRsp {handler : RxHandler Priv} {rx : Receiver Priv} (fuel : Nat)
    (sane : Sane rx.qs) (idle : rx.rsp.len = 0) (clean : header.len = 0) :
    mt7697qProcData handler fuel (rx.setRsp header) = mt7697qProcData handler fuel rx ∨
      ∃ after ret, mt7697qProcData handler fuel rx = some (after, ret) ∧ after.rsp.len = 0 ∧
        mt7697qProcData handler fuel (rx.setRsp header) = some (after.setRsp header, ret) := by
  obtain ⟨held, seen, unseen, feed⟩ := sane
  obtain ⟨after, amount, pulled, kept, -, info, -⟩ := mt7697qPullWrPtr_feed feed
  have shared : mt7697qPullWrPtr (rx.setRsp header).qs = (withRsp after header, 0) := by
    have moved := mt7697qPullWrPtr_withRsp rx.qs header
    rw [pulled] at moved
    exact moved
  have still : (Receiver.rsp { rx with qs := after }).len = 0 := by
    rw [Receiver.rsp, info]
    exact idle
  have none : (Receiver.rsp { rx with qs := withRsp after header }).len = 0 := clean
  have words : mt7697qGetNumWords (withRsp after header) = mt7697qGetNumWords after := rfl
  have left : mt7697qProcData handler fuel rx = procLoop handler fuel
      ⟨{ rx with qs := after }, mt7697qGetNumWords after, headerWords, 0⟩ := by
    rw [mt7697qProcData, pulled]
    simp only [Int.lt_irrefl, if_false, still]
    rfl
  have right : mt7697qProcData handler fuel (rx.setRsp header) = procLoop handler fuel
      ⟨Receiver.setRsp { rx with qs := after } header, mt7697qGetNumWords after, headerWords, 0⟩ := by
    rw [mt7697qProcData, shared]
    simp only [Int.lt_irrefl, if_false, Receiver.setRsp] at none ⊢
    simp only [none, words]
    rfl
  rw [left, right]
  -- The two calls differ in the header alone, which the first pass overwrites if it starts.
  cases fuel with
  | zero => exact Or.inl rfl
  | succ fuel =>
      by_cases short : mt7697qGetNumWords after < headerWords
      · refine Or.inr ⟨{ rx with qs := after }, 0, ?_, still, ?_⟩
        · rw [procLoop, if_pos short]
        · rw [procLoop, if_pos short]
      · refine Or.inl ?_
        have count := kept.numWords_seen
        have first := readHeader_withRsp header { rx with qs := after }
          (mt7697qGetNumWords after) 0 kept still clean (by omega)
        rw [procLoop, if_neg short, procLoop, if_neg short, procFrame, procFrame, first]

end Headers

section Runs

variable {handler : Channel → RxHandler Priv} {channel : Channel}

/-- What a queue among others has in common with the same queue alone. Only the
queue served last can own the header in place. -/
structure Tracks (channel : Channel) (queues : Queues Channel Priv) (alone : Receiver Priv) :
    Prop where
  sane : Sane alone.qs
  same : queues.serving channel = alone.setRsp queues.rsp
  header : queues.served = some channel ∧ queues.rsp = alone.rsp ∨
    alone.rsp.len = 0 ∧
      ((∃ other, queues.served = some other ∧ other ≠ channel) ∨ queues.rsp.len = 0)

omit [DecidableEq Channel] in
theorem Tracks.dispatched {queues : Queues Channel Priv} {alone : Receiver Priv}
    (tracks : Tracks channel queues alone) :
    (queues.rx channel).dispatched = alone.dispatched := by
  have same := congrArg (fun rx : Receiver Priv => rx.dispatched) tracks.same
  exact same

theorem publish_sane {rx : Receiver Priv} (count : Nat) (sane : Sane rx.qs) :
    Sane (publish count rx).qs := by
  obtain ⟨held, seen, unseen, feed⟩ := sane
  exact ⟨_, _, _, (slavePublish_feed count _ feed rfl).1⟩

theorem publish_tracks {queues : Queues Channel Priv} {alone : Receiver Priv} (count : Nat)
    (tracks : Tracks channel queues alone) :
    Tracks channel { queues with
      rx := Function.update queues.rx channel (publish count (queues.rx channel)) }
      (publish count alone) := by
  refine ⟨publish_sane count tracks.sane, ?_, tracks.header⟩
  have moved := congrArg (publish count) tracks.same
  simp only [Queues.serving, Function.update_self]
  exact moved

/-- The call on the queue itself goes as it does alone. -/
theorem procData_tracks {queues : Queues Channel Priv} {alone rx : Receiver Priv} {fuel : Nat}
    {ret : Int} (tracks : Tracks channel queues alone) (turn : TakesTurns queues (channel, .procData))
    (called : mt7697qProcData (handler channel) fuel (queues.serving channel) = some (rx, ret)) :
    ∃ next, mt7697qProcData (handler channel) fuel alone = some (next, ret) ∧
      Tracks channel ⟨Function.update queues.rx channel rx, rx.rsp, some channel⟩ next := by
  have stays (next : Receiver Priv) (header : RspHdr) (same : rx = next.setRsp header) :
      Queues.serving ⟨Function.update queues.rx channel rx, rx.rsp, some channel⟩ channel =
        next.setRsp rx.rsp := by
    simp only [Queues.serving, Function.update_self, same]
    rfl
  rw [tracks.same] at called
  have outcome : ∃ next, mt7697qProcData (handler channel) fuel alone = some (next, ret) ∧
      (rx = next ∨ next.rsp.len = 0 ∧ ∃ header, header.len = 0 ∧ rx = next.setRsp header) := by
    rcases tracks.header with ⟨-, own⟩ | ⟨idle, other⟩
    -- The header in place is the queue's own, as it is alone.
    · rw [own] at called
      exact ⟨rx, called, Or.inl rfl⟩
    -- Alone there is no header; among the others the turn rules out a foreign one.
    · have clean : queues.rsp.len = 0 := other.elim (turn rfl) id
      rcases mt7697qProcData_withRsp queues.rsp fuel tracks.sane idle clean with
        equal | ⟨next, code, result, empty, kept⟩
      · exact ⟨rx, equal.symm.trans called, Or.inl rfl⟩
      · rw [kept] at called
        cases called
        exact ⟨next, result, Or.inr ⟨empty, queues.rsp, clean, rfl⟩⟩
  obtain ⟨next, result, outcome⟩ := outcome
  have sane : Sane next.qs := mt7697qProcData_sane tracks.sane result
  refine ⟨next, result, sane, ?_, ?_⟩
  · rcases outcome with rfl | ⟨-, header, -, same⟩
    · exact stays rx rx.rsp rfl
    · exact stays next header same
  · rcases outcome with rfl | ⟨empty, header, clean, rfl⟩
    · exact Or.inl ⟨rfl, rfl⟩
    · exact Or.inr ⟨empty, Or.inr clean⟩

/-- A call on another queue finds no header of this one in place. -/
theorem other_tracks {queues : Queues Channel Priv} {alone rx : Receiver Priv} {other : Channel}
    (tracks : Tracks channel queues alone) (apart : channel ≠ other)
    (turn : TakesTurns queues (other, .procData)) :
    Tracks channel ⟨Function.update queues.rx other rx, rx.rsp, some other⟩ alone := by
  have same := congrArg (fun serving : Receiver Priv => serving.setRsp rx.rsp) tracks.same
  refine ⟨tracks.sane, ?_, Or.inr ⟨?_, Or.inl ⟨other, rfl, apart.symm⟩⟩⟩
  · simp only [Queues.serving, Function.update_of_ne apart]
    exact same
  · rcases tracks.header with ⟨last, own⟩ | ⟨idle, -⟩
    · rw [← own]
      exact turn rfl ⟨channel, last, apart⟩
    · exact idle

theorem project_snoc (channel : Channel) (past : List (Channel × Event))
    (event : Channel × Event) :
    project channel (past ++ [event]) =
      project channel past ++ if event.1 = channel then [event.2] else [] := by
  by_cases own : event.1 = channel <;> simp [project, List.filter_append, own]

theorem step_tracks {alone : Receiver Priv} {before after : Queues Channel Priv}
    {event : Channel × Event} (tracks : Tracks channel before alone)
    (step : SharedStep handler before event after) (turn : TakesTurns before event) :
    ∃ next, Trace.Exec (Step (handler channel)) alone
        (if event.1 = channel then [event.2] else []) next ∧ Tracks channel after next := by
  obtain ⟨other, event⟩ := event
  by_cases own : other = channel
  · subst own
    rw [if_pos rfl]
    cases event with
    | publish count =>
        have moved : after = _ := step
        rw [moved]
        exact ⟨publish count alone, .next (.refl _) rfl, publish_tracks count tracks⟩
    | procData =>
        obtain ⟨fuel, rx, ret, called, moved⟩ := step
        rw [moved]
        obtain ⟨next, result, kept⟩ := procData_tracks tracks turn called
        exact ⟨next, .next (.refl _) ⟨fuel, ret, result⟩, kept⟩
  -- The projection drops the event, so the queue alone makes no step.
  · rw [if_neg own]
    refine ⟨alone, .refl _, ?_⟩
    cases event with
    | publish count =>
        have moved : after = _ := step
        rw [moved]
        refine ⟨tracks.sane, ?_, tracks.header⟩
        simp only [Queues.serving, Function.update_of_ne (Ne.symm own)]
        exact tracks.same
    | procData =>
        obtain ⟨fuel, rx, ret, called, moved⟩ := step
        rw [moved]
        exact other_tracks tracks (Ne.symm own) turn

theorem exec_tracks {start after : Queues Channel Priv} {events : List (Channel × Event)}
    (sane : ∀ channel, Sane (start.rx channel).qs) (idle : start.rsp.len = 0)
    (exec : Trace.Exec (fun before event after =>
      SharedStep handler before event after ∧ TakesTurns before event) start events after)
    (channel : Channel) :
    ∃ alone, Trace.Exec (Step (handler channel)) (start.serving channel)
      (project channel events) alone ∧ Tracks channel after alone := by
  refine exec.invariant (fun past queues => ∃ alone,
    Trace.Exec (Step (handler channel)) (start.serving channel) (project channel past) alone ∧
      Tracks channel queues alone) ?_ ?_
  · exact ⟨start.serving channel, .refl _, setRsp_sane _ (sane channel), rfl,
      Or.inr ⟨idle, Or.inr idle⟩⟩
  · rintro past before event next ⟨alone, ran, tracks⟩ ⟨step, turn⟩
    obtain ⟨after, more, kept⟩ := step_tracks tracks step turn
    rw [project_snoc]
    exact ⟨after, ran.append more, kept⟩

end Runs

section Fuel

variable {handler : RxHandler Priv}

theorem procLoop_fuel (first : Nat) : ∀ {second : Nat} {loop : Loop Priv}
    {left right : Receiver Priv × Int}, procLoop handler first loop = some left →
      procLoop handler second loop = some right → left = right := by
  -- The fuel does not enter a pass, so both loops make the same one.
  induction first with
  | zero => exact fun result _ => nomatch result
  | succ first ih =>
      intro second loop left right result other
      cases second with
      | zero => cases other
      | succ second =>
          rw [procLoop] at result other
          by_cases short : loop.avail < loop.req
          · rw [if_pos short] at result other
            cases result
            cases other
            rfl
          · rw [if_neg short] at result other
            cases passed : procFrame handler loop with
            | error exit =>
                rw [passed] at result other
                cases result
                cases other
                rfl
            | ok next =>
                rw [passed] at result other
                exact ih result other

theorem mt7697qProcData_fuel {first second : Nat} {rx : Receiver Priv}
    {left right : Receiver Priv × Int} (result : mt7697qProcData handler first rx = some left)
    (other : mt7697qProcData handler second rx = some right) : left = right := by
  unfold mt7697qProcData at result other
  dsimp only at result other
  split at result
  · rename_i failed
    rw [if_pos failed] at other
    cases result
    cases other
    rfl
  · rename_i pulled
    rw [if_neg pulled] at other
    exact procLoop_fuel first result other

theorem step_unique {before first second : Receiver Priv} {event : Event}
    (left : Step handler before event first) (right : Step handler before event second) :
    first = second := by
  cases event with
  | publish count =>
      have one : first = publish count before := left
      have two : second = publish count before := right
      rw [one, two]
  | procData =>
      obtain ⟨fuel, ret, result⟩ := left
      obtain ⟨other, code, again⟩ := right
      exact congrArg Prod.fst (mt7697qProcData_fuel result again)

end Fuel

/-- As long as no call finds a header that another queue left in place, every
queue dispatches what it dispatches when it is served alone. -/
theorem shared_queues_independent {handler : Channel → RxHandler Priv}
    {start after : Queues Channel Priv} {events : List (Channel × Event)}
    (sane : ∀ channel, Sane (start.rx channel).qs) (idle : start.rsp.len = 0)
    (exec : Trace.Exec (fun before event after =>
      SharedStep handler before event after ∧ TakesTurns before event) start events after)
    (channel : Channel) :
    (∃ alone, Trace.Exec (Step (handler channel)) (start.serving channel)
      (project channel events) alone) ∧
    ∀ alone, Trace.Exec (Step (handler channel)) (start.serving channel)
        (project channel events) alone →
      (after.rx channel).dispatched = alone.dispatched := by
  obtain ⟨alone, ran, tracks⟩ := exec_tracks sane idle exec channel
  refine ⟨⟨alone, ran⟩, fun other again => ?_⟩
  have same : alone = other := by
    refine Trace.Exec.unique ?_ ran again
    exact step_unique
  rw [tracks.dispatched, same]

/-- A second frame of one body word, told from the first by its header. -/
def otherWord : Frame := ⟨0x0202000c, 0, [7], rfl⟩

def twoQueues : Queues Bool Unit where
  rx := fun second => eightWords [if second then oneWord else otherWord]
  rsp := .cleared
  served := none

def shares : Bool → RxHandler Unit := fun _ => readOne

theorem twoQueues_sane (channel : Bool) : Sane (twoQueues.rx channel).qs := by
  cases channel <;> exact ⟨[], [], [], rfl, rfl, rfl, .empty (by decide), by decide, by decide⟩

def publishOn (queues : Queues Bool Unit) (channel : Bool) (count : Nat) : Queues Bool Unit :=
  { queues with rx := Function.update queues.rx channel (publish count (queues.rx channel)) }

def call (rx : Receiver Unit) : Receiver Unit := ((mt7697qProcData readOne 2 rx).getD (rx, 1)).1

def procDataOn (queues : Queues Bool Unit) (channel : Bool) : Queues Bool Unit :=
  let after := call (queues.serving channel)
  ⟨Function.update queues.rx channel after, after.rsp, some channel⟩

theorem call_step {rx : Receiver Unit} (returns : (mt7697qProcData readOne 2 rx).isSome = true) :
    ∃ ret, mt7697qProcData readOne 2 rx = some (call rx, ret) := by
  obtain ⟨⟨after, ret⟩, result⟩ := Option.isSome_iff_exists.mp returns
  exact ⟨ret, by rw [call, result]; rfl⟩

theorem procDataOn_step {queues : Queues Bool Unit} {channel : Bool}
    (returns : (mt7697qProcData readOne 2 (queues.serving channel)).isSome = true) :
    SharedStep shares queues (channel, .procData) (procDataOn queues channel) := by
  obtain ⟨ret, result⟩ := call_step returns
  exact ⟨2, _, ret, result, rfl⟩

def calledAlone : Receiver Unit := call (publish 3 (twoQueues.serving true))

theorem calledAlone_exec : Trace.Exec (Step (shares true)) (twoQueues.serving true)
    ([] ++ [.publish 3] ++ [.procData]) calledAlone := by
  obtain ⟨ret, result⟩ := call_step (show (mt7697qProcData readOne 2
    (publish 3 (twoQueues.serving true))).isSome = true by decide)
  exact .next (.next (.refl _) rfl) ⟨2, ret, result⟩

theorem shared_queues_independent_alternating :
    ((procDataOn (publishOn (procDataOn twoQueues false) true 3) true).rx true).dispatched =
      calledAlone.dispatched := by
  have first : SharedStep shares twoQueues (false, .procData) (procDataOn twoQueues false) :=
    procDataOn_step (by decide)
  have last : SharedStep shares (publishOn (procDataOn twoQueues false) true 3) (true, .procData)
      (procDataOn (publishOn (procDataOn twoQueues false) true 3) true) :=
    procDataOn_step (by decide)
  have exec : Trace.Exec (fun before event after =>
      SharedStep shares before event after ∧ TakesTurns before event) twoQueues
      ([] ++ [(false, .procData)] ++ [(true, .publish 3)] ++ [(true, .procData)])
      (procDataOn (publishOn (procDataOn twoQueues false) true 3) true) :=
    .next (.next (.next (.refl _) ⟨first, fun _ _ => by decide⟩) ⟨rfl, fun wrong => nomatch wrong⟩)
      ⟨last, fun _ _ => by decide⟩
  exact (shared_queues_independent twoQueues_sane rfl exec true).2 calledAlone calledAlone_exec

def headerLeft : Queues Bool Unit := procDataOn (publishOn twoQueues false 2) false

def crossed : Queues Bool Unit := procDataOn (publishOn headerLeft true 3) true

/-- A header waiting for its body on one queue is used to size and dispatch the
words of the other one, whose own frame is published whole. -/
theorem shared_header_crosses_queues :
    ∃ events, Trace.Exec (SharedStep shares) twoQueues events crossed ∧
      Trace.Exec (Step (shares true)) (twoQueues.serving true) (project true events) calledAlone ∧
      (crossed.rx true).dispatched = [(otherWord.hdr, [oneWord.cmd])] ∧
      calledAlone.dispatched = [oneWord.call] := by
  have first : SharedStep shares (publishOn twoQueues false 2) (false, .procData) headerLeft :=
    procDataOn_step (by decide +kernel)
  have last : SharedStep shares (publishOn headerLeft true 3) (true, .procData) crossed :=
    procDataOn_step (by decide +kernel)
  have exec : Trace.Exec (SharedStep shares) twoQueues
      ([] ++ [(false, .publish 2)] ++ [(false, .procData)] ++ [(true, .publish 3)] ++
        [(true, .procData)]) crossed :=
    .next (.next (.next (.next (.refl _) rfl) first) rfl) last
  exact ⟨_, exec, calledAlone_exec, by decide +kernel, by decide +kernel⟩

end MangOH.ReceiveSharing
