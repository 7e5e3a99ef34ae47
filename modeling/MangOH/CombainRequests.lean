import MangOH.CombainLocation
import Mathlib.Algebra.Group.Nat.Defs
import Mathlib.Data.List.Nodup
import Mathlib.Data.List.Range

/-!
The life cycle of the requests over runs of calls, responses and closes of
sessions.
-/

namespace MangOH.Combain

open Trace RemoveIf

variable {Session Handler Value : Type} [DecidableEq Session]

inductive Call (Session Handler : Type) where
  | create (session : Session)
  | appendWifiAccessPoint (session : Session) (handle : Handle) (bssid ssid : List Byte)
      (signalStrength : Int)
  | appendCellTower (session : Session) (handle : Handle)
  | submit (session : Session) (handle : Handle) (responseHandler : Handler)
  | destroy (session : Session) (handle : Handle)
  | getSuccess (session : Session) (handle : Handle)
  | getError (session : Session) (handle : Handle) (lens : Service.ErrorLens)
  | getParseFailure (session : Session) (handle : Handle) (unparsedResponseLen : Nat)
  | close (session : Session)
  | setApiKey (isSet : Bool)
  | answer (text : String)
  | response

/-- The session that makes a call or is closed. -/
def Call.session : Call Session Handler → Option Session
  | .create session | .appendWifiAccessPoint session _ _ _ _ | .appendCellTower session _
  | .submit session _ _ | .destroy session _ | .getSuccess session _ | .getError session _ _
  | .getParseFailure session _ _ | .close session => some session
  | .setApiKey _ | .answer _ | .response => none

/-- The handle that a call is about. -/
def Call.handle : Call Session Handler → Option Handle
  | .appendWifiAccessPoint _ handle _ _ _ | .appendCellTower _ handle | .submit _ handle _
  | .destroy _ handle | .getSuccess _ handle | .getError _ handle _ | .getParseFailure _ handle _ =>
      some handle
  | .create _ | .close _ | .setApiKey _ | .answer _ | .response => none

section Runs

variable (utf8 : List Byte → Bool) (parse : String → Response Value)

def step (service : Service Session Handler Value) :
    Call Session Handler → Service Session Handler Value
  | .create session => (service.createLocationRequest session).1
  | .appendWifiAccessPoint session handle bssid ssid signalStrength =>
      (service.appendWifiAccessPoint session handle bssid ssid signalStrength).1
  | .submit session handle responseHandler =>
      (service.submitLocationRequest utf8 session handle responseHandler).1
  | .destroy session handle => service.destroyLocationRequest session handle
  | .getSuccess session handle => (service.getSuccessResponse session handle).1
  | .getError session handle lens => (service.getErrorResponse session handle lens).1
  | .appendCellTower _ _ | .getParseFailure _ _ _ => service
  | .close session => service.clientSessionClosedHandler session
  | .setApiKey isSet => { service with combainApiKeySet := isSet }
  | .answer text => service.answer text
  | .response => service.handleResponseAvailable parse

attribute [local simp] step

/-- Whether a call with a handle returns `LE_OK`. -/
def returnsOk (service : Service Session Handler Value) : Call Session Handler → Prop
  | .appendWifiAccessPoint session handle bssid ssid signalStrength =>
      (service.appendWifiAccessPoint session handle bssid ssid signalStrength).2 = .ok
  | .appendCellTower session handle => service.appendCellTower session handle = .ok
  | .submit session handle responseHandler =>
      (service.submitLocationRequest utf8 session handle responseHandler).2 = .ok
  | .getSuccess session handle => ∃ numbers, (service.getSuccessResponse session handle).2 = .ok numbers
  | .getError session handle lens => ∃ error, (service.getErrorResponse session handle lens).2 = .ok error
  | .getParseFailure session handle unparsedResponseLen =>
      ∃ text, service.getParseFailureResult session handle unparsedResponseLen = .ok text
  | .create _ | .destroy _ _ | .close _ | .setApiKey _ | .answer _ | .response => False

end Runs

/-- The requests that are to go: a destroyed one of the session that calls, one
whose answer is fetched, and all of a session that closes. -/
def Removes (service : Service Session Handler Value)
    (removed : RequestRecord Session Handler Value → Bool) : Call Session Handler → Prop
  | .destroy session handle => removed = (·.isOf session handle)
  | .getSuccess session handle =>
      (∃ numbers, (service.getSuccessResponse session handle).2 = .ok numbers) ∧
        removed = (·.isOf session handle)
  | .getError session handle lens =>
      (∃ error, (service.getErrorResponse session handle lens).2 = .ok error) ∧
        removed = (·.isOf session handle)
  | .close session => removed = fun record => decide (record.clientSession = session)
  | _ => False

/-- What a call may do to the requests and their handlers. -/
structure Lifecycle (utf8 : List Byte → Bool) (parse : String → Response Value)
    (service : Service Session Handler Value) (call : Call Session Handler) : Prop where
  removed : ∀ removed, Removes service removed call →
    (step utf8 parse service call).requests = service.requests.filter fun record => !removed record
  gone : ∀ handle ∈ (step utf8 parse service call).gone,
    ∀ record ∈ (step utf8 parse service call).requests, record.handle ≠ handle
  handles : (step utf8 parse service call).handles.Nodup
  once : ((step utf8 parse service call).invoked.map Prod.fst).Nodup
  submitted : ∀ invocation ∈ (step utf8 parse service call).invoked, ∃ handler,
    invocation.2.1 = some handler ∧ (invocation.1, handler) ∈ (step utf8 parse service call).accepted
  silent : ∀ invocation ∈ (step utf8 parse service call).invoked,
    invocation ∈ service.invoked ∨ invocation.1 ∉ service.gone
  owned : returnsOk utf8 service call → ∃ session handle, call.session = some session ∧
    call.handle = some handle ∧ ∃ record ∈ service.requests, record.isOf session handle = true
  foreign : ∀ session, call.session = some session →
    (step utf8 parse service call).requests.filter (fun record => decide (record.clientSession ≠ session)) =
      service.requests.filter fun record => decide (record.clientSession ≠ session)

/-- How many requests there can be until the handles come round. -/
def handleCount : Nat := 2147483648

/-- A call that removes no request, or a creation while there are handles left. -/
def RequestSafe (service : Service Session Handler Value) : Call Session Handler → Prop
  | .create _ => service.handles.length < handleCount
  | call => ∀ removed, Removes service removed call →
      ∀ record ∈ service.requests, removed record = false

variable {utf8 : List Byte → Bool} {parse : String → Response Value}
  {service : Service Session Handler Value} {record other : RequestRecord Session Handler Value}
  {records : List (RequestRecord Session Handler Value)} {session : Session} {handle : Handle}
  {found : RequestRecord Session Handler Value → Bool}
  {write : RequestRecord Session Handler Value → RequestRecord Session Handler Value}

/-! Writing the record that was found. -/

open Service

omit [DecidableEq Session] in
theorem writeFirst_map {α : Type} {field : RequestRecord Session Handler Value → α}
    (same : ∀ record, field (write record) = field record) :
    (writeFirst found write records).map field = records.map field := by
  induction records with
  | nil => rfl
  | cons head rest ih =>
      rw [writeFirst]
      split
      · rw [List.map_cons, List.map_cons, same]
      · rw [List.map_cons, List.map_cons, ih]

omit [DecidableEq Session] in
theorem writeFirst_filter {kept : RequestRecord Session Handler Value → Bool}
    (dropped : ∀ record, found record = true → kept record = false ∧ kept (write record) = false) :
    (writeFirst found write records).filter kept = records.filter kept := by
  induction records with
  | nil => rfl
  | cons head rest ih =>
      rw [writeFirst]
      split
      · rename_i hit
        rw [List.filter_cons, List.filter_cons, (dropped head hit).1, (dropped head hit).2]
        rfl
      · rw [List.filter_cons, List.filter_cons, ih]

omit [DecidableEq Session] in
/-- With handles that differ, only the record that was found is written. -/
theorem writeFirst_mem (distinct : (records.map (·.handle)).Nodup)
    (find : records.find? found = some record) (member : other ∈ writeFirst found write records) :
    other = write record ∨ (other ∈ records ∧ other.handle ≠ record.handle) := by
  induction records with
  | nil => cases find
  | cons head rest ih =>
      rw [List.map_cons, List.nodup_cons] at distinct
      rw [writeFirst] at member
      rw [List.find?_cons] at find
      cases hit : found head with
      | true =>
          rw [hit] at find member
          cases find
          rcases List.mem_cons.mp member with rfl | later
          · exact .inl rfl
          · right
            constructor
            · exact List.mem_cons_of_mem _ later
            · exact fun same => distinct.1 (same ▸ List.mem_map_of_mem later)
      | false =>
          rw [hit] at find member
          rcases List.mem_cons.mp member with rfl | later
          · right
            constructor
            · exact List.mem_cons_self
            · have earlier : record ∈ rest := List.mem_of_find?_eq_some find
              exact fun same => distinct.1 (same ▸ List.mem_map_of_mem earlier)
          · rcases ih distinct.2 find later with written | ⟨kept, differs⟩
            · exact .inl written
            · exact .inr ⟨List.mem_cons_of_mem _ kept, differs⟩

/-! The handles. -/

def handleAt (index : Nat) : Handle := BitVec.ofNat 32 (2 * index + 1)

theorem handleAt_next {index : Nat} : handleAt index + 2 = handleAt (index + 1) := by
  have two : (2 : Handle) = BitVec.ofNat 32 2 := rfl
  rw [handleAt, handleAt, two, ← BitVec.ofNat_add]
  congr 1

theorem handleAt_inj {left right : Nat} (few : left < handleCount) (fewer : right < handleCount)
    (same : handleAt left = handleAt right) : left = right := by
  have values := congrArg BitVec.toNat same
  simp only [handleAt, BitVec.toNat_ofNat, handleCount] at values few fewer
  omega

/-- The handles after so many requests. -/
def handlesOf (count : Nat) : List Handle := (List.range count).map handleAt

theorem handlesOf_succ {count : Nat} : handlesOf (count + 1) = handlesOf count ++ [handleAt count] := by
  rw [handlesOf, List.range_succ, List.map_append]
  rfl

theorem handlesOf_nodup_iff {count : Nat} (few : count ≤ handleCount) :
    (handlesOf (count + 1)).Nodup ↔ count < handleCount := by
  constructor
  · intro distinct
    by_contra many
    have full : count = handleCount := by omega
    have first : handleAt 0 ∈ handlesOf count :=
      List.mem_map_of_mem (List.mem_range.mpr (by rw [full]; decide))
    have again : handleAt count = handleAt 0 := by
      rw [full]
      decide
    rw [handlesOf_succ, again] at distinct
    exact (List.nodup_append.mp distinct).2.2 _ first _ (List.mem_singleton_self _) rfl
  · intro fewer
    apply List.Nodup.map_on _ List.nodup_range
    intro left listed right also same
    rw [List.mem_range] at listed also
    exact handleAt_inj (by omega) (by omega) same

/-! The invariant of runs that meet the condition. -/

/-- A request without a builder is submitted, one with a builder is not. -/
structure RecordSound (accepted : List (Handle × Handler))
    (record : RequestRecord Session Handler Value) : Prop where
  submitted : record.request = none → ∃ handler, record.responseHandler = some handler ∧
    (record.handle, handler) ∈ accepted
  building : record.request ≠ none → ∀ acceptance ∈ accepted, acceptance.1 ≠ record.handle

structure Sound (service : Service Session Handler Value) : Prop where
  few : service.handles.length ≤ handleCount
  handles : service.handles = handlesOf service.handles.length
  next : service.next = handleAt service.handles.length
  requests : service.requests.map (·.handle) = service.handles
  gone : service.gone = []
  records : ∀ record ∈ service.requests, RecordSound service.accepted record
  known : ∀ acceptance ∈ service.accepted, acceptance.1 ∈ service.handles
  single : (service.accepted.map Prod.fst).Nodup
  -- Each submission is on its way, in order: handled, answered or waiting.
  pipeline : service.invoked.map Prod.fst ++ service.responseJson.map Prod.fst ++
    service.requestJson.map Prod.fst = service.accepted.map Prod.fst
  invoked : ∀ invocation ∈ service.invoked, ∃ handler, invocation.2.1 = some handler ∧
    (invocation.1, handler) ∈ service.accepted

omit [DecidableEq Session] in
theorem sound_nodup (sound : Sound service) : (service.requests.map (·.handle)).Nodup := by
  have few := sound.few
  rw [sound.requests, sound.handles]
  apply List.Nodup.map_on _ List.nodup_range
  intro left listed right also same
  rw [List.mem_range] at listed also
  exact handleAt_inj (by omega) (by omega) same

/-- What the session finds by the handle is a record of both. -/
theorem ownRecord_isOf (find : service.ownRecord session handle = some record) :
    record ∈ service.requests ∧ record.isOf session handle = true :=
  ⟨List.mem_of_find?_eq_some find, List.find?_some find⟩

theorem ownRecord_handle (find : service.ownRecord session handle = some record) :
    record.handle = handle :=
  (of_decide_eq_true (ownRecord_isOf find).2).1

omit [DecidableEq Session] in
theorem anyRecord_handle (find : service.anyRecord handle = some record) : record.handle = handle := by
  have hit := List.find?_some find
  simpa using hit

/-- An access point appended leaves what the invariant is about. -/
theorem append_sound {request : CombainRequestBuilder} (sound : Sound service)
    (find : service.ownRecord session handle = some record) (building : record.request ≠ none) :
    Sound { service with
      requests := writeFirst (·.isOf session handle)
        (fun record => { record with request := some request }) service.requests } := by
  constructor
  · exact sound.few
  · exact sound.handles
  · exact sound.next
  · rw [← sound.requests]
    exact writeFirst_map fun _ => rfl
  · exact sound.gone
  · intro other member
    rcases writeFirst_mem (sound_nodup sound) find member with rfl | ⟨kept, -⟩
    · have before := sound.records record (ownRecord_isOf find).1
      exact ⟨nofun, fun _ => before.building building⟩
    · exact sound.records other kept
  · exact sound.known
  · exact sound.single
  · exact sound.pipeline
  · exact sound.invoked

theorem submit_sound {responseHandler : Handler} {body : Body} (sound : Sound service)
    (find : service.ownRecord session handle = some record) (building : record.request ≠ none) :
    Sound { service with
      requests := writeFirst (·.isOf session handle)
        (fun record => { record with responseHandler := some responseHandler, request := none })
        service.requests
      requestJson := service.requestJson ++ [(handle, body)]
      accepted := service.accepted ++ [(handle, responseHandler)] } := by
  have listed := (ownRecord_isOf find).1
  have own := ownRecord_handle find
  have before := sound.records record listed
  constructor
  · exact sound.few
  · exact sound.handles
  · exact sound.next
  · rw [← sound.requests]
    exact writeFirst_map fun _ => rfl
  · exact sound.gone
  · intro other member
    -- The record of the request is submitted now; the others are as they were.
    rcases writeFirst_mem (sound_nodup sound) find member with rfl | ⟨kept, differs⟩
    · constructor
      · exact fun _ => ⟨responseHandler, rfl, List.mem_append_right _ (by rw [own]; exact List.mem_singleton_self _)⟩
      · exact fun building => absurd rfl building
    · have old := sound.records other kept
      constructor
      · intro none
        obtain ⟨handler, set, accepted⟩ := old.submitted none
        exact ⟨handler, set, List.mem_append_left _ accepted⟩
      · intro some acceptance accepted
        rcases List.mem_append.mp accepted with earlier | new
        · exact old.building some acceptance earlier
        · rw [List.mem_singleton.mp new]
          exact fun same => differs (own ▸ same.symm)
  · intro acceptance accepted
    rcases List.mem_append.mp accepted with earlier | new
    · exact sound.known acceptance earlier
    · rw [List.mem_singleton.mp new, ← sound.requests, ← own]
      exact List.mem_map_of_mem listed
  · rw [List.map_append, List.nodup_append]
    refine ⟨sound.single, List.nodup_singleton _, ?_⟩
    intro earlier accepted new same
    obtain ⟨acceptance, member, rfl⟩ := List.mem_map.mp accepted
    rw [List.mem_singleton.mp same, ← own]
    exact before.building building acceptance member
  · rw [List.map_append, List.map_append, ← List.append_assoc, sound.pipeline]
    rfl
  · intro invocation member
    obtain ⟨handler, set, accepted⟩ := sound.invoked invocation member
    exact ⟨handler, set, List.mem_append_left _ accepted⟩

omit [DecidableEq Session] in
theorem next_handles (sound : Sound service) :
    service.handles ++ [service.next] = handlesOf (service.handles.length + 1) := by
  rw [handlesOf_succ, ← sound.handles, sound.next]

omit [DecidableEq Session] in
theorem create_sound (sound : Sound service) (left : service.handles.length < handleCount) :
    Sound (service.createLocationRequest session).1 := by
  have grown : (service.handles ++ [service.next]).length = service.handles.length + 1 :=
    List.length_append
  have fresh : (service.handles ++ [service.next]).Nodup := by
    rw [next_handles sound]
    exact (handlesOf_nodup_iff sound.few).mpr left
  constructor
  · exact grown.trans_le left
  · exact (next_handles sound).trans (congrArg handlesOf grown.symm)
  · exact (congrArg (· + 2) sound.next).trans (handleAt_next.trans (congrArg handleAt grown.symm))
  · exact (List.map_append).trans (congrArg (· ++ [service.next]) sound.requests)
  · exact sound.gone
  · intro other member
    rcases List.mem_append.mp member with kept | new
    · exact sound.records other kept
    · rw [List.mem_singleton.mp new]
      constructor
      · exact nofun
      · intro _ acceptance accepted same
        exact (List.nodup_append.mp fresh).2.2 _ (sound.known acceptance accepted) _
          (List.mem_singleton_self _) same
  · exact fun acceptance accepted => List.mem_append_left _ (sound.known acceptance accepted)
  · exact sound.single
  · exact sound.pipeline
  · exact sound.invoked

omit [DecidableEq Session] in
theorem answer_sound {text : String} (sound : Sound service) : Sound (service.answer text) := by
  rw [answer]
  split
  · exact sound
  · rename_i handle body rest waiting
    constructor
    · exact sound.few
    · exact sound.handles
    · exact sound.next
    · exact sound.requests
    · exact sound.gone
    · exact sound.records
    · exact sound.known
    · exact sound.single
    · rw [← sound.pipeline, waiting]
      simp
    · exact sound.invoked

omit [DecidableEq Session] in
/-- The request of a response that is there: it was submitted, and not answered. -/
theorem response_known {text : String} {rest : List (Handle × String)} (sound : Sound service)
    (waiting : service.responseJson = (handle, text) :: rest) :
    ∃ record handler, service.anyRecord handle = some record ∧ record.request = none ∧
      record.responseHandler = some handler ∧ (handle, handler) ∈ service.accepted := by
  have pending : handle ∈ service.accepted.map Prod.fst := by
    rw [← sound.pipeline, waiting]
    simp
  obtain ⟨acceptance, accepted, rfl⟩ := List.mem_map.mp pending
  have listed := sound.known acceptance accepted
  rw [← sound.requests] at listed
  obtain ⟨target, member, same⟩ := List.mem_map.mp listed
  have found : (service.anyRecord acceptance.1).isSome := by
    rw [anyRecord, List.find?_isSome]
    exact ⟨target, member, decide_eq_true same⟩
  obtain ⟨record, find⟩ := Option.isSome_iff_exists.mp found
  have own := anyRecord_handle find
  have old := sound.records record (List.mem_of_find?_eq_some find)
  have submitted : record.request = none := by
    by_contra building
    exact old.building building acceptance accepted own.symm
  obtain ⟨handler, set, given⟩ := old.submitted submitted
  exact ⟨record, handler, find, submitted, set, own ▸ given⟩

omit [DecidableEq Session] in
theorem response_sound (sound : Sound service) : Sound (service.handleResponseAvailable parse) := by
  rw [handleResponseAvailable]
  split
  · exact sound
  · rename_i handle text rest waiting
    obtain ⟨record, handler, find, submitted, set, accepted⟩ := response_known sound waiting
    rw [find]
    constructor
    · exact sound.few
    · exact sound.handles
    · exact sound.next
    · rw [← sound.requests]
      exact writeFirst_map fun _ => rfl
    · exact sound.gone
    · intro other member
      rcases writeFirst_mem (sound_nodup sound) find member with rfl | ⟨kept, -⟩
      · have old := sound.records record (List.mem_of_find?_eq_some find)
        exact ⟨old.submitted, old.building⟩
      · exact sound.records other kept
    · exact sound.known
    · exact sound.single
    · rw [← sound.pipeline, waiting]
      simp
    · intro invocation member
      rcases List.mem_append.mp member with earlier | new
      · exact sound.invoked invocation earlier
      · rw [List.mem_singleton.mp new]
        exact ⟨handler, set, accepted⟩

/-! Calls that remove. -/

omit [DecidableEq Session] in
theorem removeRequests_none {removed : RequestRecord Session Handler Value → Bool}
    (none : ∀ record ∈ service.requests, removed record = false) :
    service.removeRequests removed = service := by
  have keep : ∀ record ∈ service.requests, (!removed record) = true := by simpa using none
  have dropped : service.requests.filter removed = [] := by simpa using none
  rw [removeRequests, removeIf_filter_iff.mpr none, List.filter_eq_self.mpr keep, dropped]
  simp

/-- What fetching a successful answer does to the requests. -/
inductive Fetched {Answer : Type} (service : Service Session Handler Value) (session : Session)
    (handle : Handle) : Service Session Handler Value × Except LeResult Answer → Prop where
  | taken {held : RequestRecord Session Handler Value} (answer : Answer)
      (find : service.ownRecord session handle = some held) :
      Fetched service session handle (service.destroyLocationRequest session handle, .ok answer)
  | refused (result : LeResult) : Fetched service session handle (service, .error result)

theorem getSuccess_fetched :
    Fetched service session handle (service.getSuccessResponse session handle) := by
  unfold getSuccessResponse
  split
  · exact .refused _
  · rename_i record find
    split
    · exact .taken _ find
    · exact .refused _

theorem getError_fetched {lens : ErrorLens} :
    Fetched service session handle (service.getErrorResponse session handle lens) := by
  unfold getErrorResponse
  split
  · exact .refused _
  · rename_i record find
    split
    · exact .taken _ find
    · exact .refused _

theorem fetched_removes {Answer : Type}
    {fetched : Service Session Handler Value × Except LeResult Answer}
    (fetch : Fetched service session handle fetched) (success : ∃ answer, fetched.2 = .ok answer) :
    fetched.1.requests = removeIf (·.isOf session handle) RequestRecord.movedFrom service.requests := by
  cases fetch with
  | taken => rfl
  | refused => exact absurd success nofun

/-- An answer that is not fetched leaves everything. -/
theorem fetched_quiet {Answer : Type}
    {fetched : Service Session Handler Value × Except LeResult Answer}
    (fetch : Fetched service session handle fetched)
    (none : (∃ answer, fetched.2 = .ok answer) →
      ∀ record ∈ service.requests, record.isOf session handle = false) :
    fetched.1 = service := by
  cases fetch with
  | taken answer find =>
      obtain ⟨listed, own⟩ := ownRecord_isOf find
      exact absurd own (by rw [none ⟨answer, rfl⟩ _ listed]; exact Bool.false_ne_true)
  | refused => rfl

theorem fetched_owned {Answer : Type}
    {fetched : Service Session Handler Value × Except LeResult Answer}
    (fetch : Fetched service session handle fetched) (success : ∃ answer, fetched.2 = .ok answer) :
    ∃ record ∈ service.requests, record.isOf session handle = true := by
  cases fetch with
  | taken answer find => exact ⟨_, ownRecord_isOf find⟩
  | refused => exact absurd success nofun

theorem removes_step {removed : RequestRecord Session Handler Value → Bool}
    {call : Call Session Handler} (removes : Removes service removed call) :
    (step utf8 parse service call).requests = removeIf removed RequestRecord.movedFrom service.requests := by
  cases call with
  | destroy session handle | close session =>
      cases removes
      rfl
  | getSuccess session handle =>
      obtain ⟨success, rfl⟩ := removes
      exact fetched_removes getSuccess_fetched success
  | getError session handle lens =>
      obtain ⟨success, rfl⟩ := removes
      exact fetched_removes getError_fetched success
  | create | appendWifiAccessPoint | appendCellTower | submit | getParseFailure | setApiKey | answer
  | response => cases removes

/-- The calls that can remove requests. -/
def Call.Removal : Call Session Handler → Prop
  | .destroy _ _ | .getSuccess _ _ | .getError _ _ _ | .close _ => True
  | _ => False

theorem quiet_step {call : Call Session Handler} (safe : RequestSafe service call)
    (removal : call.Removal) : step utf8 parse service call = service := by
  cases call with
  | destroy session handle | close session => exact removeRequests_none (safe _ rfl)
  | getSuccess session handle =>
      exact fetched_quiet getSuccess_fetched fun success => safe _ ⟨success, rfl⟩
  | getError session handle lens =>
      exact fetched_quiet getError_fetched fun success => safe _ ⟨success, rfl⟩
  | create | appendWifiAccessPoint | appendCellTower | submit | getParseFailure | setApiKey | answer
  | response => cases removal

/-! One call. -/

theorem append_step {bssid ssid : List Byte} {signalStrength : Int} (sound : Sound service) :
    Sound (service.appendWifiAccessPoint session handle bssid ssid signalStrength).1 := by
  unfold appendWifiAccessPoint
  split
  · exact sound
  · rename_i record find
    split
    · exact sound
    · rename_i request building
      split
      · exact sound
      · exact append_sound sound find (building ▸ Option.some_ne_none request)

theorem submit_step {responseHandler : Handler} (sound : Sound service) :
    Sound (service.submitLocationRequest utf8 session handle responseHandler).1 := by
  unfold submitLocationRequest
  split
  · exact sound
  · split
    · exact sound
    · rename_i record find
      split
      · exact sound
      · rename_i request building
        exact submit_sound sound find (building ▸ Option.some_ne_none request)

theorem step_sound {call : Call Session Handler} (sound : Sound service)
    (safe : RequestSafe service call) : Sound (step utf8 parse service call) := by
  cases call with
  | create session => exact create_sound sound safe
  | appendWifiAccessPoint session handle bssid ssid signalStrength => exact append_step sound
  | submit session handle responseHandler => exact submit_step sound
  | destroy | getSuccess | getError | close =>
      rw [quiet_step safe trivial]
      exact sound
  | appendCellTower | getParseFailure => exact sound
  | setApiKey isSet =>
      exact ⟨sound.few, sound.handles, sound.next, sound.requests, sound.gone, sound.records,
        sound.known, sound.single, sound.pipeline, sound.invoked⟩
  | answer text => exact answer_sound sound
  | response => exact response_sound sound

/-! What a call of a session reads and writes. -/

theorem append_owned {bssid ssid : List Byte} {signalStrength : Int}
    (success : (service.appendWifiAccessPoint session handle bssid ssid signalStrength).2 = .ok) :
    ∃ record ∈ service.requests, record.isOf session handle = true := by
  unfold appendWifiAccessPoint at success
  split at success
  · cases success
  · rename_i record find
    exact ⟨record, ownRecord_isOf find⟩

theorem appendCellTower_owned (success : service.appendCellTower session handle = .ok) :
    ∃ record ∈ service.requests, record.isOf session handle = true := by
  unfold appendCellTower at success
  split at success
  · cases success
  · rename_i record find
    exact ⟨record, ownRecord_isOf find⟩

theorem submit_owned {responseHandler : Handler}
    (success : (service.submitLocationRequest utf8 session handle responseHandler).2 = .ok) :
    ∃ record ∈ service.requests, record.isOf session handle = true := by
  unfold submitLocationRequest at success
  split at success
  · cases success
  · split at success
    · cases success
    · rename_i record find
      exact ⟨record, ownRecord_isOf find⟩

theorem getParseFailure_owned {unparsedResponseLen : Nat}
    (success : ∃ text, service.getParseFailureResult session handle unparsedResponseLen = .ok text) :
    ∃ record ∈ service.requests, record.isOf session handle = true := by
  obtain ⟨text, success⟩ := success
  unfold getParseFailureResult at success
  split at success
  · cases success
  · rename_i record find
    exact ⟨record, ownRecord_isOf find⟩

theorem returnsOk_owned {call : Call Session Handler} (success : returnsOk utf8 service call) :
    ∃ session handle, call.session = some session ∧ call.handle = some handle ∧
      ∃ record ∈ service.requests, record.isOf session handle = true := by
  cases call with
  | appendWifiAccessPoint session handle => exact ⟨session, handle, rfl, rfl, append_owned success⟩
  | appendCellTower session handle => exact ⟨session, handle, rfl, rfl, appendCellTower_owned success⟩
  | submit session handle => exact ⟨session, handle, rfl, rfl, submit_owned success⟩
  | getSuccess session handle =>
      exact ⟨session, handle, rfl, rfl, fetched_owned getSuccess_fetched success⟩
  | getError session handle =>
      exact ⟨session, handle, rfl, rfl, fetched_owned getError_fetched success⟩
  | getParseFailure session handle =>
      exact ⟨session, handle, rfl, rfl, getParseFailure_owned success⟩
  | create | destroy | close | setApiKey | answer | response => cases success

theorem foreign_write
    (same : ∀ record, (write record).clientSession = record.clientSession) :
    (writeFirst (·.isOf session handle) write service.requests).filter
        (fun record => decide (record.clientSession ≠ session)) =
      service.requests.filter fun record => decide (record.clientSession ≠ session) := by
  apply writeFirst_filter
  intro record hit
  have own : record.clientSession = session := (of_decide_eq_true hit).2
  simp [same, own]

theorem foreign_step {call : Call Session Handler} (safe : RequestSafe service call)
    (own : call.session = some session) :
    (step utf8 parse service call).requests.filter (fun record => decide (record.clientSession ≠ session)) =
      service.requests.filter fun record => decide (record.clientSession ≠ session) := by
  cases call with
  | create =>
      cases own
      simp [step, createLocationRequest]
  | appendWifiAccessPoint =>
      cases own
      simp only [step]
      unfold appendWifiAccessPoint
      split
      · rfl
      · split
        · rfl
        · split
          · rfl
          · exact foreign_write fun _ => rfl
  | submit =>
      cases own
      simp only [step]
      unfold submitLocationRequest
      split
      · rfl
      · split
        · rfl
        · split
          · rfl
          · exact foreign_write fun _ => rfl
  | destroy | getSuccess | getError | close => rw [quiet_step safe trivial]
  | appendCellTower | getParseFailure => rfl
  | setApiKey | answer | response => cases own

theorem lifecycle_safe {call : Call Session Handler} (sound : Sound service)
    (safe : RequestSafe service call) : Lifecycle utf8 parse service call := by
  have after := @step_sound _ _ _ _ utf8 parse _ _ sound safe
  constructor
  · intro removed removes
    have none : ∀ record ∈ service.requests, removed record = false := by
      cases call with
      | create => cases removes
      | destroy | getSuccess | getError | close | appendWifiAccessPoint | appendCellTower | submit
      | getParseFailure | setApiKey | answer | response => exact safe removed removes
    rw [removes_step removes]
    exact removeIf_filter_iff.mpr none
  · intro handle listed
    rw [after.gone] at listed
    exact absurd listed List.not_mem_nil
  · rw [← after.requests]
    exact sound_nodup after
  · have single := after.single
    rw [← after.pipeline, List.append_assoc] at single
    exact (List.nodup_append.mp single).1
  · exact after.invoked
  · intro invocation _
    right
    rw [sound.gone]
    exact List.not_mem_nil
  · exact returnsOk_owned
  · exact fun session own => foreign_step safe own

theorem safe_lifecycle {call : Call Session Handler} (sound : Sound service)
    (kept : Lifecycle utf8 parse service call) : RequestSafe service call := by
  have removes : ∀ removed, Removes service removed call →
      ∀ record ∈ service.requests, removed record = false := by
    intro removed removes
    have filtered := kept.removed removed removes
    rw [removes_step removes] at filtered
    exact removeIf_filter_iff.mp filtered
  cases call with
  | create session =>
      have distinct : (service.handles ++ [service.next]).Nodup := kept.handles
      rw [next_handles sound] at distinct
      exact (handlesOf_nodup_iff sound.few).mp distinct
  | destroy | getSuccess | getError | close | appendWifiAccessPoint | appendCellTower | submit
  | getParseFailure | setApiKey | answer | response => exact removes

/-- The service as it starts, with a key or without. -/
def started (combainApiKeySet : Bool) : Service Session Handler Value :=
  ⟨[], 1, combainApiKeySet, [], [], [], [], [], []⟩

omit [DecidableEq Session] in
theorem started_sound {isSet : Bool} : Sound (started isSet : Service Session Handler Value) where
  few := Nat.zero_le _
  handles := rfl
  next := rfl
  requests := rfl
  gone := rfl
  records _ listed := absurd listed List.not_mem_nil
  known _ listed := absurd listed List.not_mem_nil
  single := List.nodup_nil
  pipeline := rfl
  invoked _ listed := absurd listed List.not_mem_nil

/-- A run keeps the life cycle of every request just when no call of it removes
one and the handles do not come round. -/
theorem lifecycle_iff (utf8 : List Byte → Bool) (parse : String → Response Value) (isSet : Bool)
    (calls : List (Call Session Handler)) :
    Along (step utf8 parse) (Lifecycle utf8 parse) (started isSet) calls ↔
      Along (step utf8 parse) RequestSafe (started isSet) calls :=
  @along_iff _ _ (step utf8 parse) (Lifecycle utf8 parse) RequestSafe Sound
    (fun sound => ⟨safe_lifecycle sound, lifecycle_safe sound⟩)
    (fun sound kept => step_sound sound (safe_lifecycle sound kept)) calls _ started_sound

/-- A session creates a request and destroys it, and it is still there. -/
theorem destroyed_is_kept : ¬∀ (isSet : Bool) (calls : List (Call Nat Nat)),
    Along (step (fun _ => true) fun _ => (.invalid : Response Nat))
      (Lifecycle (fun _ => true) fun _ => .invalid) (started isSet) calls := by
  intro always
  have kept := (always true [.create 0, .destroy 0 1]).2.1
  have left := congrArg List.length (kept.removed _ rfl)
  exact absurd left (by decide)

end MangOH.Combain
