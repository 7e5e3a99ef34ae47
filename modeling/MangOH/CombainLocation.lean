import MangOH.CombainRequestBuilder
import MangOH.RemoveIf
import MangOH.Trace

/-!
The requests of the Combain service. Client sessions create, fill, submit, fetch
and destroy them by handle; a worker thread takes what is submitted and brings a
response for each. What the parsing of a response finds is a parameter.
-/

namespace MangOH.Combain

open Trace RemoveIf

abbrev Handle := BitVec 32

inductive LeResult where
  | ok
  | badParameter
  | busy
  | unavailable
deriving DecidableEq

inductive ResultType where
  | success
  | error
  | responseParseFailure
  | communicationFailure
deriving DecidableEq

/-- `Value` stands for the floating point numbers. -/
inductive CombainResult (Value : Type) where
  | success (latitude longitude accuracyInMeters : Value)
  | error (code : BitVec 16) (message domain reason errorMessage : String)
  | responseParseFailure (unparsed : String)
  | communicationFailure

def CombainResult.getType {Value : Type} : CombainResult Value → ResultType
  | .success _ _ _ => .success
  | .error _ _ _ _ _ => .error
  | .responseParseFailure _ => .responseParseFailure
  | .communicationFailure => .communicationFailure

/-- What `json_loads` and `json_unpack` make of a text. -/
inductive Response (Value : Type) where
  | invalid
  | location (latitude longitude accuracy : Value)
  | error (code : Int) (message domain reason errorMessage : String)
  | other

variable {Session Handler Value : Type} [DecidableEq Session]

/-- A handler stands for a function of a client with its context. -/
structure RequestRecord (Session Handler Value : Type) where
  handle : Handle
  clientSession : Session
  request : Option CombainRequestBuilder
  responseHandler : Option Handler
  result : Option (CombainResult Value)

/-- The fields from `handles` on record the run: the handles given out, those of
the requests that were to go, and the handlers accepted and invoked. -/
structure Service (Session Handler Value : Type) where
  requests : List (RequestRecord Session Handler Value)
  next : Handle
  combainApiKeySet : Bool
  requestJson : List (Handle × Body)
  responseJson : List (Handle × String)
  handles : List Handle
  gone : List Handle
  accepted : List (Handle × Handler)
  invoked : List (Handle × Option Handler × ResultType)

/-- The shared pointers of a record that was moved from are empty. -/
def RequestRecord.movedFrom (record : RequestRecord Session Handler Value) :
    RequestRecord Session Handler Value :=
  { record with request := none, result := none }

def RequestRecord.isOf (session : Session) (handle : Handle)
    (record : RequestRecord Session Handler Value) : Bool :=
  decide (record.handle = handle ∧ record.clientSession = session)

namespace Service

variable (service : Service Session Handler Value)

/-- `GetRequestRecordFromHandle` with `matchClientSession`, and without. -/
def ownRecord (session : Session) (handle : Handle) : Option (RequestRecord Session Handler Value) :=
  service.requests.find? (·.isOf session handle)

def anyRecord (handle : Handle) : Option (RequestRecord Session Handler Value) :=
  service.requests.find? (fun record => record.handle = handle)

/-- A write through the pointer to the first record that was found. -/
def writeFirst (found : RequestRecord Session Handler Value → Bool)
    (write : RequestRecord Session Handler Value → RequestRecord Session Handler Value) :
    List (RequestRecord Session Handler Value) → List (RequestRecord Session Handler Value)
  | [] => []
  | record :: rest => if found record then write record :: rest else record :: writeFirst found write rest

def removeRequests (removed : RequestRecord Session Handler Value → Bool) :
    Service Session Handler Value :=
  { service with
    requests := removeIf removed RequestRecord.movedFrom service.requests
    gone := service.gone ++ (service.requests.filter removed).map (·.handle) }

def createLocationRequest (session : Session) : Service Session Handler Value × Handle :=
  ({ service with
      requests := service.requests ++ [⟨service.next, session, some ⟨[]⟩, none, none⟩]
      next := service.next + 2
      handles := service.handles ++ [service.next] }, service.next)

def appendWifiAccessPoint (session : Session) (handle : Handle) (bssid ssid : List Byte)
    (signalStrength : Int) : Service Session Handler Value × LeResult :=
  match service.ownRecord session handle with
  | none => (service, .badParameter)
  | some record =>
      match record.request with
      | none => (service, .busy)
      | some request =>
          match WifiApScanItem.make bssid ssid signalStrength with
          | none => (service, .badParameter)
          | some ap =>
              ({ service with
                  requests := writeFirst (·.isOf session handle)
                    (fun record => { record with request := some (request.appendWifiAccessPoint ap) })
                    service.requests }, .ok)

def appendCellTower (session : Session) (handle : Handle) : LeResult :=
  match service.ownRecord session handle with
  | none => .badParameter
  | some record => if record.request = none then .busy else .ok

def submitLocationRequest (utf8 : List Byte → Bool) (session : Session) (handle : Handle)
    (responseHandler : Handler) : Service Session Handler Value × LeResult :=
  if service.combainApiKeySet = false then (service, .unavailable)
  else
    match service.ownRecord session handle with
    | none => (service, .badParameter)
    | some record =>
        match record.request with
        | none => (service, .busy)
        | some request =>
            ({ service with
                requests := writeFirst (·.isOf session handle)
                  (fun record => { record with responseHandler := some responseHandler, request := none })
                  service.requests
                requestJson := service.requestJson ++ [(handle, request.generateRequestBody utf8)]
                accepted := service.accepted ++ [(handle, responseHandler)] }, .ok)

def destroyLocationRequest (session : Session) (handle : Handle) : Service Session Handler Value :=
  service.removeRequests (·.isOf session handle)

/-- The three numbers that are returned. -/
def getSuccessResponse (session : Session) (handle : Handle) :
    Service Session Handler Value × Except LeResult (Value × Value × Value) :=
  match service.ownRecord session handle with
  | none => (service, .error .badParameter)
  | some record =>
      match record.result with
      | some (.success latitude longitude accuracyInMeters) =>
          (service.destroyLocationRequest session handle,
            .ok (latitude, longitude, accuracyInMeters))
      | _ => (service, .error .unavailable)

/-- `strncpy` of one byte less than the length, and a zero byte behind it. -/
def copyString (length : Nat) (text : String) : String := String.ofList (text.toList.take (length - 1))

structure ErrorLens where
  firstDomain : Nat
  firstReason : Nat
  firstMessage : Nat
  message : Nat

structure ErrorResponse where
  firstDomain : String
  firstReason : String
  firstMessage : String
  code : BitVec 16
  message : String

def getErrorResponse (session : Session) (handle : Handle) (lens : ErrorLens) :
    Service Session Handler Value × Except LeResult ErrorResponse :=
  match service.ownRecord session handle with
  | none => (service, .error .badParameter)
  | some record =>
      match record.result with
      | some (.error code message domain reason errorMessage) =>
          (service.destroyLocationRequest session handle,
            .ok ⟨copyString lens.firstDomain domain, copyString lens.firstReason reason,
              copyString lens.firstMessage errorMessage, code, copyString lens.message message⟩)
      | _ => (service, .error .unavailable)

/-- The text is copied with its zero byte, up to one byte more than the length. -/
def getParseFailureResult (session : Session) (handle : Handle) (unparsedResponseLen : Nat) :
    Except LeResult String :=
  match service.ownRecord session handle with
  | none => .error .badParameter
  | some record =>
      match record.result with
      | some (.responseParseFailure unparsed) =>
          .ok (String.ofList (unparsed.toList.take (unparsedResponseLen + 1)))
      | _ => .error .unavailable

def clientSessionClosedHandler (session : Session) : Service Session Handler Value :=
  service.removeRequests fun record => decide (record.clientSession = session)

/-- The worker thread takes the oldest submitted request and brings its response. -/
def answer (text : String) : Service Session Handler Value :=
  match service.requestJson with
  | [] => service
  | (handle, _) :: rest =>
      { service with requestJson := rest, responseJson := service.responseJson ++ [(handle, text)] }

def resultOf (parse : String → Response Value) (text : String) : CombainResult Value :=
  if text.isEmpty then .communicationFailure
  else
    match parse text with
    | .invalid | .other => .responseParseFailure text
    | .location latitude longitude accuracy => .success latitude longitude accuracy
    | .error code message domain reason errorMessage =>
        .error (BitVec.ofInt 16 code) message domain reason errorMessage

/-- The event of a response. A handler that is not set is called as well. -/
def handleResponseAvailable (parse : String → Response Value) : Service Session Handler Value :=
  match service.responseJson with
  | [] => service
  | (handle, text) :: rest =>
      match service.anyRecord handle with
      | none => { service with responseJson := rest }
      | some record =>
          let result := resultOf parse text
          { service with
            responseJson := rest
            requests := writeFirst (fun record => decide (record.handle = handle))
              (fun record => { record with result := some result }) service.requests
            invoked := service.invoked ++ [(handle, record.responseHandler, result.getType)] }

end Service

end MangOH.Combain
