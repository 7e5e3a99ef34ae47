import MangOH.CombainHttp
import Mathlib.Data.List.TakeDrop

/-!
What the worker should do with a request, and when it does. The thread reads its two
buffers before it has written them, and copies a key with a count for the other buffer.
-/

namespace MangOH.CombainHttp

open CString Trace Process

/-- The received chunks, if the transfer completes and the buffer can take them. -/
def Http.received (http : Http) : Bytes :=
  if http.completes ∧ http.chunks.flatten.length < receiveSize then http.chunks.flatten else []

namespace Process

variable (process : Process)

/-- The posts and the responses that a step should add. -/
def duePosts : Event → List Post
  | .work _ =>
      match process.requestJson with
      | [] => []
      | (_, requestBody) :: _ =>
          if process.accepted = [] then [] else [⟨urlStart ++ process.accepted, requestBody⟩]
  | .setApiKey _ | .submit _ _ => []

def dueResponses : Event → List (Handle × Bytes)
  | .work http =>
      match process.requestJson with
      | [] => []
      | (handle, _) :: _ => [(handle, if process.accepted = [] then keyNotSet else http.received)]
  | .setApiKey _ | .submit _ _ => []

end Process

/-- A step without a fault, that posts and answers as it should; the responses so far and
the requests that wait are those that were submitted, in their order. -/
structure Kept (process : Process) (event : Event) : Prop where
  thread : ∃ state, (process.step event).thread = .ok state
  posts : (process.step event).posts = process.posts ++ process.duePosts event
  responses : (process.step event).responseJson = process.responseJson ++ process.dueResponses event
  order : (process.step event).responseJson.map (·.1) ++ (process.step event).requestJson.map (·.1) =
    (process.step event).submitted

/-- The worker finds no request. -/
def Unasked (process : Process) (event : Event) : Prop :=
  ∀ http, event = .work http → process.requestJson = []

/-- The variables of a thread that has posted with a key. -/
structure Follows (key : Bytes) (locals : Locals) : Prop where
  url : Holds (urlStart ++ key) locals.combainUrl
  old : Holds key locals.oldCombainApiKey
  small : locals.oldCombainApiKey.length = maxLenApiKey

/-- The key is in its array and can be read there. -/
structure KeyHeld (process : Process) : Prop where
  holds : Holds process.accepted process.key.combainApiKey
  short : process.accepted.length < maxLenApiKey
  last : process.key.combainApiKey.drop (maxLenApiKey - 1) = [some 0]
  set : process.key.combainApiKeySet = decide (0 < process.accepted.length)

structure Sound (locals : Locals) (process : Process) : Prop where
  thread : ∃ buffer, process.thread = .ok (locals, buffer)
  key : KeyHeld process
  order : process.responseJson.map (·.1) ++ process.requestJson.map (·.1) = process.submitted

variable {process : Process} {locals : Locals} {key : Bytes} {contents data written : Bytes}
  {b : ReceiveBuffer}

/-! The receive buffer. -/

theorem place_before (start : Nat) (room : start ≤ data.length) :
    (place data start written).take start = data.take start := by
  rw [place, List.append_assoc, List.take_append_of_le_length (by rw [List.length_take]; omega),
    List.take_take, Nat.min_self]

theorem place_through (start : Nat) (room : start ≤ data.length) :
    (place data start written).take (start + written.length) = data.take start ++ written := by
  have length : (data.take start ++ written).length = start + written.length := by
    rw [List.length_append, List.length_take, Nat.min_eq_left room]
  rw [place, ← length, List.take_left]

/-- What the buffer has received. -/
def ReceiveBuffer.content (b : ReceiveBuffer) : Bytes := b.data.take b.used

theorem writeMemCallback_content (contents : Bytes) (b : ReceiveBuffer) :
    (writeMemCallback contents b).1.content = b.content ++ contents.take (b.numToCopy contents) := by
  have fits := b.fits
  have sized := b.sized
  have left : b.numToCopy contents ≤ receiveSize - (b.used + 1) := Nat.min_le_left _ _
  have right : b.numToCopy contents ≤ contents.length := Nat.min_le_right _ _
  have copied : (contents.take (b.numToCopy contents)).length = b.numToCopy contents := by
    rw [List.length_take, Nat.min_eq_left right]
  have inner := @place_length b.data (contents.take (b.numToCopy contents)) b.used (by omega)
  have through := @place_through b.data (contents.take (b.numToCopy contents)) b.used (by omega)
  have reach : b.used + b.numToCopy contents ≤
      (place b.data b.used (contents.take (b.numToCopy contents))).length := by
    rw [inner]
    omega
  rw [copied] at through
  exact (place_before _ reach).trans through

theorem content_length (b : ReceiveBuffer) : b.content.length = b.used := by
  have fits := b.fits
  rw [ReceiveBuffer.content, List.length_take, b.sized]
  omega

theorem perform_cons (completes : Bool) (contents : Bytes) (rest : List Bytes) (b : ReceiveBuffer) :
    perform completes (contents :: rest) b =
      if (writeMemCallback contents b).2 < contents.length then (false, (writeMemCallback contents b).1)
      else perform completes rest (writeMemCallback contents b).1 :=
  rfl

/-- The transfer succeeds as far as there is room, and then everything is in the buffer. -/
theorem perform_received (completes : Bool) (chunks : List Bytes) (b : ReceiveBuffer) :
    if completes ∧ (b.content ++ chunks.flatten).length < receiveSize then
      (perform completes chunks b).1 = true ∧
        (perform completes chunks b).2.content = b.content ++ chunks.flatten
    else (perform completes chunks b).1 = false := by
  induction chunks generalizing b with
  | nil =>
      have fits := b.fits
      have length := content_length b
      cases completes <;> simp [perform, length, fits]
  | cons contents rest ih =>
      have content := writeMemCallback_content contents b
      have fits := b.fits
      have used := content_length b
      rw [List.flatten_cons, perform_cons]
      by_cases short : (writeMemCallback contents b).2 < contents.length
      · -- The callback took what was left of the buffer, so everything is too much for it.
        have more : receiveSize ≤ b.used + contents.length := by
          have taken : min (receiveSize - (b.used + 1)) contents.length < contents.length := short
          omega
        rw [if_pos short, if_neg]
        rintro ⟨_, room⟩
        rw [List.length_append, List.length_append] at room
        omega
      · have whole : b.numToCopy contents = contents.length :=
          Nat.le_antisymm (Nat.min_le_right _ _) (Nat.not_lt.mp short)
        rw [whole, List.take_length] at content
        have rest := ih (writeMemCallback contents b).1
        rw [content, List.append_assoc] at rest
        rw [if_neg short]
        exact rest

theorem reset_content (b : ReceiveBuffer) : b.reset.content = [] := List.take_zero

theorem received_eq (http : Http) (b : ReceiveBuffer) :
    (if (perform http.completes http.chunks b.reset).1 then
        (perform http.completes http.chunks b.reset).2.content else []) = http.received := by
  have outcome := perform_received http.completes http.chunks b.reset
  rw [reset_content, List.nil_append] at outcome
  rw [Http.received]
  split at outcome
  · rename_i room
    rw [outcome.1, outcome.2, if_pos rfl, if_pos room]
  · rename_i room
    rw [outcome, if_neg room]
    rfl

/-! One turn of the loop. -/

theorem urlStart_length : urlStart.length = 28 := by decide

theorem urlRoom_follows {key : Bytes} (follows : Follows key locals) :
    urlRoom locals.combainUrl = .ok (99 - key.length) := by
  have length : urlSize - (1 + (urlStart ++ key).length) = 99 - key.length := by
    rw [List.length_append, urlStart_length, urlSize]
    omega
  rw [urlRoom, strlen_holds follows.url, ← length]
  rfl

/-- The first turn reads the length of a URL that is not there yet. -/
theorem turn_unwritten (combainApiKey : Buffer) (requestBody : Bytes) (http : Http)
    (b : ReceiveBuffer) :
    turn combainApiKey requestBody http unwritten b = .error .uninitialised :=
  rfl

/-- What a turn does with a key: without one the request is not posted. -/
structure Turn.Meets (turn : Turn) (key requestBody : Bytes) (http : Http) : Prop where
  post : turn.post.toList = if key = [] then [] else [⟨urlStart ++ key, requestBody⟩]
  response : turn.response = if key = [] then keyNotSet else http.received

theorem turn_same {combainApiKey : Buffer} (requestBody : Bytes) (http : Http) (b : ReceiveBuffer)
    (follows : Follows key locals) (short : key.length < maxLenApiKey)
    (holds : Holds key combainApiKey) :
    ∃ done, turn combainApiKey requestBody http locals b = .ok done ∧ done.locals = locals ∧
      done.Meets key requestBody http := by
  have beyond : key.length < 99 - key.length := by
    rw [maxLenApiKey] at short
    omega
  have stays : followKey combainApiKey locals = .ok locals := by
    rw [followKey, urlRoom_follows follows]
    simp only [bind, Except.bind]
    rw [strncmp_holds beyond follows.old holds, decide_eq_true rfl]
    rfl
  rw [turn, stays]
  simp only [bind, Except.bind]
  rcases holds_cases follows.old with ⟨rfl, _, old⟩ | ⟨char, _, _, rfl, old, visible, _⟩
  · rw [old]
    exact ⟨_, rfl, rfl, rfl, rfl⟩
  · rw [old, first]
    simp only
    rw [if_neg visible, text_holds follows.url]
    refine ⟨_, rfl, rfl, rfl, ?_⟩
    rw [if_neg (List.cons_ne_nil _ _)]
    exact received_eq http b

/-- A key that changed is copied with the room of the URL as the count. -/
theorem turn_changed {combainApiKey : Buffer} {old : Bytes} (requestBody : Bytes) (http : Http)
    (b : ReceiveBuffer) (follows : Follows old locals) (short : old.length < maxLenApiKey)
    (holds : Holds key combainApiKey) (changed : old ≠ key) :
    turn combainApiKey requestBody http locals b = .error .pastEnd := by
  rw [maxLenApiKey] at short
  have beyond : old.length < 99 - old.length := by omega
  have small : locals.oldCombainApiKey.length < 99 - old.length := by
    rw [follows.small, maxLenApiKey]
    omega
  have faults : followKey combainApiKey locals = .error .pastEnd := by
    rw [followKey, urlRoom_follows follows]
    simp only [bind, Except.bind]
    rw [strncmp_holds beyond follows.old holds, decide_eq_false changed]
    simp only [Bool.false_eq_true, if_false]
    rw [rebuildUrl, urlRoom_follows follows]
    simp only [bind, Except.bind]
    rw [strncpy_pastEnd small holds]
  rw [turn, faults]
  rfl

/-! The key in its array. -/

theorem setApiKey_long {apiKey : Text} {current : ApiKey}
    (long : apiKey.chars.length > maxLenApiKey - 1) : setApiKey apiKey current = .ok current := by
  rw [setApiKey, if_pos long]

/-- The copy fills up with zero bytes, and the last byte of the array is zero anyway. -/
theorem setApiKey_short {apiKey : Text} {current : ApiKey}
    (short : ¬apiKey.chars.length > maxLenApiKey - 1)
    (last : current.combainApiKey.drop (maxLenApiKey - 1) = [some 0]) :
    ∃ written, setApiKey apiKey current = .ok ⟨written, decide (0 < apiKey.chars.length)⟩ ∧
      Holds apiKey.chars written ∧ written.drop (maxLenApiKey - 1) = [some 0] := by
  have fits : apiKey.chars.length ≤ maxLenApiKey - 1 := Nat.not_lt.mp short
  have room : maxLenApiKey - 1 ≤ current.combainApiKey.length := by
    have length := congrArg List.length last
    rw [List.length_drop, List.length_singleton] at length
    omega
  have copy := strncpy_holds fits room apiKey.holds
  rw [last] at copy
  refine ⟨apiKey.chars.map some ++ List.replicate (maxLenApiKey - 1 - apiKey.chars.length) (some 0) ++
    [some 0], ?_, ⟨apiKey.clean, List.replicate (maxLenApiKey - 1 - apiKey.chars.length) (some 0), ?_⟩,
    ?_⟩
  · rw [setApiKey, if_neg short, copy]
    rfl
  · rw [List.append_assoc, ← List.replicate_succ', List.replicate_succ]
  · apply List.drop_left'
    rw [List.length_append, List.length_map, List.length_replicate]
    omega

theorem pushKey_held (apiKey : Text) (held : KeyHeld process) :
    KeyHeld (process.pushKey apiKey) ∧ (process.pushKey apiKey).thread = process.thread := by
  rw [pushKey]
  by_cases long : apiKey.chars.length > maxLenApiKey - 1
  · rw [setApiKey_long long]
    simp only
    rw [if_pos long]
    exact ⟨⟨held.holds, held.short, held.last, held.set⟩, trivial⟩
  · obtain ⟨written, done, holds, last⟩ := setApiKey_short long held.last
    have short : apiKey.chars.length < maxLenApiKey := by
      rw [maxLenApiKey] at long ⊢
      omega
    rw [done]
    simp only
    rw [if_neg long]
    exact ⟨⟨holds, short, last, rfl⟩, trivial⟩

/-! Steps of the process. -/

/-- What a push or a request changes is nothing that was promised. -/
theorem setApiKey_kept (apiKey : Text) (sound : Sound locals process) :
    Kept process (.setApiKey apiKey) ∧ Sound locals (process.step (.setApiKey apiKey)) := by
  obtain ⟨buffer, running⟩ := sound.thread
  obtain ⟨held, same⟩ := pushKey_held apiKey sound.key
  have rest : (process.pushKey apiKey).posts = process.posts ∧
      (process.pushKey apiKey).responseJson = process.responseJson ∧
      (process.pushKey apiKey).requestJson = process.requestJson ∧
      (process.pushKey apiKey).submitted = process.submitted := by
    rw [pushKey]
    split <;> exact ⟨rfl, rfl, rfl, rfl⟩
  obtain ⟨posts, responses, requests, submitted⟩ := rest
  have thread : (process.step (.setApiKey apiKey)).thread = .ok (locals, buffer) := same.trans running
  have order : (process.pushKey apiKey).responseJson.map (·.1) ++
      (process.pushKey apiKey).requestJson.map (·.1) = (process.pushKey apiKey).submitted := by
    rw [responses, requests, submitted]
    exact sound.order
  exact ⟨⟨⟨_, thread⟩, posts.trans (List.append_nil _).symm, responses.trans (List.append_nil _).symm,
    order⟩, ⟨buffer, thread⟩, held, order⟩

theorem submit_kept (handle : Handle) (requestBody : Bytes) (sound : Sound locals process) :
    Kept process (.submit handle requestBody) ∧
      Sound locals (process.step (.submit handle requestBody)) := by
  obtain ⟨buffer, running⟩ := sound.thread
  have order : (process.step (.submit handle requestBody)).responseJson.map (·.1) ++
      (process.step (.submit handle requestBody)).requestJson.map (·.1) =
        (process.step (.submit handle requestBody)).submitted := by
    simp only [step, List.map_append, ← sound.order, List.append_assoc]
    rfl
  have key := sound.key
  exact ⟨⟨⟨_, running⟩, (List.append_nil _).symm, (List.append_nil _).symm, order⟩,
    ⟨buffer, running⟩, ⟨key.holds, key.short, key.last, key.set⟩, order⟩

/-- Without a request the worker waits. -/
theorem work_waits (http : Http) (none : process.requestJson = []) : process.work http = process := by
  rw [work, none]
  cases process.thread <;> rfl

theorem waits_kept (http : Http) (none : process.requestJson = []) (sound : Sound locals process) :
    Kept process (.work http) := by
  obtain ⟨buffer, running⟩ := sound.thread
  have same : process.step (.work http) = process := work_waits http none
  constructor
  · rw [same]
    exact ⟨_, running⟩
  · rw [same, duePosts, none, List.append_nil]
  · rw [same, dueResponses, none, List.append_nil]
  · rw [same]
    exact sound.order

/-- A turn that faults is the end of the thread. -/
theorem fault_not_kept {http : Http} {request : Handle × Bytes} {rest : List (Handle × Bytes)}
    {fault : Fault} (running : process.thread = .ok (locals, b))
    (queue : process.requestJson = request :: rest)
    (faults : turn process.key.combainApiKey request.2 http locals b = .error fault) :
    ¬Kept process (.work http) := by
  intro kept
  obtain ⟨state, alive⟩ := kept.thread
  have dead : (process.step (.work http)).thread = .error fault := by
    rw [step, work, running, queue]
    simp only [faults]
  rw [dead] at alive
  cases alive

/-- Before the first request the variables of the thread are not written. -/
theorem unwritten_kept_iff {event : Event} (sound : Sound unwritten process) :
    Kept process event ↔ Unasked process event := by
  cases event with
  | setApiKey apiKey => exact ⟨fun _ _ work => Event.noConfusion work, fun _ => (setApiKey_kept apiKey sound).1⟩
  | submit handle requestBody =>
      exact ⟨fun _ _ work => Event.noConfusion work, fun _ => (submit_kept handle requestBody sound).1⟩
  | work http =>
      constructor
      · intro kept other work
        cases work
        cases queue : process.requestJson with
        | nil => rfl
        | cons request rest =>
            obtain ⟨buffer, running⟩ := sound.thread
            exact absurd kept (fault_not_kept running queue (turn_unwritten _ _ http buffer))
      · exact fun unasked => waits_kept http (unasked http rfl) sound

/-- Afterwards a request is served as long as the key stays the one of the first post. -/
theorem follows_kept_iff {http : Http} (sound : Sound locals process) (follows : Follows key locals)
    (short : key.length < maxLenApiKey) :
    Kept process (.work http) ↔ process.requestJson = [] ∨ process.accepted = key := by
  obtain ⟨buffer, running⟩ := sound.thread
  cases queue : process.requestJson with
  | nil => exact ⟨fun _ => .inl rfl, fun _ => waits_kept http queue sound⟩
  | cons request rest =>
      constructor
      · intro kept
        -- With another key the thread copies past the end of an array.
        by_contra neither
        have changed : key ≠ process.accepted := fun same => neither (.inr same.symm)
        exact fault_not_kept running queue
          (turn_changed request.2 http buffer follows short sound.key.holds changed) kept
      · intro either
        have same : process.accepted = key := either.resolve_left (List.cons_ne_nil _ _)
        obtain ⟨done, turned, _, meets⟩ :=
          turn_same request.2 http buffer follows short (same ▸ sound.key.holds)
        have order := sound.order
        rw [queue] at order
        have stepped : process.step (.work http) =
            { process with
              requestJson := rest
              responseJson := process.responseJson ++ [(request.1, done.response)]
              thread := .ok (done.locals, done.httpReceiveBuffer)
              posts := process.posts ++ done.post.toList } := by
          rw [step, work, running, queue]
          simp only [turned]
        constructor
        · rw [stepped]
          exact ⟨_, rfl⟩
        · rw [stepped, duePosts, queue, same]
          exact congrArg _ meets.post
        · rw [stepped, dueResponses, queue, same, meets.response]
        · rw [stepped, ← order]
          simp

theorem unasked_sound {event : Event} (sound : Sound unwritten process)
    (unasked : Unasked process event) : Sound unwritten (process.step event) := by
  cases event with
  | setApiKey apiKey => exact (setApiKey_kept apiKey sound).2
  | submit handle requestBody => exact (submit_kept handle requestBody sound).2
  | work http =>
      have same : process.step (.work http) = process := work_waits http (unasked http rfl)
      rw [same]
      exact sound

theorem start_sound : Sound unwritten start :=
  ⟨⟨_, rfl⟩, ⟨⟨List.not_mem_nil, List.replicate 31 (some 0), rfl⟩, by decide, rfl, rfl⟩, rfl⟩

theorem worker_iff (events : List Event) :
    Along step Kept start events ↔ Along step Unasked start events :=
  @along_iff _ _ step Kept Unasked (Sound unwritten) unwritten_kept_iff
    (fun sound kept => unasked_sound sound ((unwritten_kept_iff sound).mp kept)) events start start_sound

/-- A run with a key and a request for the worker. -/
def firstRequest : List Event :=
  [.setApiKey ⟨bytesOf "key", by decide⟩, .submit 1 (bytesOf "\x7b\x7d"), .work ⟨[], true⟩]

theorem first_request_faults : ¬∀ events, Along step Kept start events := by
  intro always
  obtain ⟨state, alive⟩ := (always firstRequest).2.2.1.thread
  have dead : (run step start firstRequest).thread = .error .uninitialised := rfl
  cases dead.symm.trans alive

end MangOH.CombainHttp
