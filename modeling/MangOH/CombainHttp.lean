import MangOH.CString
import MangOH.Trace

/-!
The thread that talks to the Combain server. It takes the requests off a queue,
keeps a copy of the API key to notice a change, and posts each request to a URL that
ends with the key. The server's answer is collected in a buffer of fixed size.
-/

namespace MangOH.CombainHttp

open CString Trace

abbrev Handle := BitVec 32

abbrev Bytes := List Byte

def bytesOf (text : String) : Bytes := text.toList.map fun char => BitVec.ofNat 8 char.toNat

/-- `MAX_LEN_API_KEY`, `sizeof(combainUrl)` and `sizeof(ReceiveBuffer::data)`. -/
def maxLenApiKey : Nat := 32
def urlSize : Nat := 128
def receiveSize : Nat := 1024

def urlStart : Bytes := bytesOf "https://cps.combain.com?key="

def keyNotSet : Bytes := bytesOf "Combain API key not set"

/-! What is received. -/

structure ReceiveBuffer where
  used : Nat
  data : Bytes
  fits : used < receiveSize
  sized : data.length = receiveSize

/-- Bytes written over those of a buffer. -/
def place (data : Bytes) (at_ : Nat) (bytes : Bytes) : Bytes :=
  data.take at_ ++ bytes ++ data.drop (at_ + bytes.length)

theorem place_length {data bytes : Bytes} {at_ : Nat} (room : at_ + bytes.length ≤ data.length) :
    (place data at_ bytes).length = data.length := by
  rw [place, List.length_append, List.length_append, List.length_take, List.length_drop]
  omega

/-- How much of a chunk goes into the buffer: one byte stays for a zero byte. -/
def ReceiveBuffer.numToCopy (b : ReceiveBuffer) (contents : Bytes) : Nat :=
  min (receiveSize - (b.used + 1)) contents.length

def writeMemCallback (contents : Bytes) (b : ReceiveBuffer) : ReceiveBuffer × Nat :=
  let numToCopy := b.numToCopy contents
  let copied := place b.data b.used (contents.take numToCopy)
  ({ used := b.used + numToCopy
     data := place copied (b.used + numToCopy) [0]
     fits := by
      have := b.fits
      have : numToCopy ≤ receiveSize - (b.used + 1) := Nat.min_le_left _ _
      omega
     sized := by
      have := b.fits
      have := b.sized
      have left : numToCopy ≤ receiveSize - (b.used + 1) := Nat.min_le_left _ _
      have right : numToCopy ≤ contents.length := Nat.min_le_right _ _
      have inner : copied.length = receiveSize := by
        rw [place_length (by rw [List.length_take]; omega), b.sized]
      rw [place_length (by rw [inner, List.length_singleton]; omega), inner] },
    numToCopy)

def ReceiveBuffer.reset (b : ReceiveBuffer) : ReceiveBuffer where
  used := 0
  data := b.data.set 0 0
  fits := by decide
  sized := by rw [List.length_set, b.sized]

/-- What the server sends, in the chunks it comes in, and whether the transfer ends
without an error of its own. -/
structure Http where
  chunks : List Bytes
  completes : Bool

/-- `curl_easy_perform`: a callback that takes less than it is given ends the transfer
with an error. -/
def perform (completes : Bool) : List Bytes → ReceiveBuffer → Bool × ReceiveBuffer
  | [], b => (completes, b)
  | contents :: rest, b =>
      let (b, taken) := writeMemCallback contents b
      if taken < contents.length then (false, b) else perform completes rest b

/-! The key. -/

/-- The key is an array of the program, so its cells are zero at the start. -/
structure ApiKey where
  combainApiKey : Buffer
  combainApiKeySet : Bool

/-- A write that `strncpy` does past the end is a fault; the length was checked before. -/
def setApiKey (apiKey : Text) (key : ApiKey) : Except Fault ApiKey :=
  if apiKey.chars.length > maxLenApiKey - 1 then .ok key
  else do
    let combainApiKey ← strncpy (maxLenApiKey - 1) apiKey.buffer key.combainApiKey
    pure ⟨combainApiKey, decide (0 < apiKey.chars.length)⟩

/-! The worker. -/

/-- The variables of the thread function. -/
structure Locals where
  combainUrl : Buffer
  oldCombainApiKey : Buffer

/-- `sizeof(combainUrl) - (1 + strlen(combainUrl))`. -/
def urlRoom (combainUrl : Buffer) : Except Fault Nat := do
  let length ← strlen combainUrl
  pure (urlSize - (1 + length))

def rebuildUrl (combainApiKey : Buffer) (locals : Locals) : Except Fault Locals := do
  let oldCombainApiKey ← strncpy (← urlRoom locals.combainUrl) combainApiKey locals.oldCombainApiKey
  let combainUrl ← store urlStart (locals.combainUrl.set 0 (some 0))
  let combainUrl ← strncat (← urlRoom combainUrl) oldCombainApiKey combainUrl
  pure ⟨combainUrl, oldCombainApiKey⟩

/-- Have the API key changeable. -/
def followKey (combainApiKey : Buffer) (locals : Locals) : Except Fault Locals := do
  let same ← strncmp (← urlRoom locals.combainUrl) locals.oldCombainApiKey combainApiKey
  if same then pure locals else rebuildUrl combainApiKey locals

structure Post where
  url : Bytes
  body : Bytes
deriving DecidableEq

/-- What one turn of the loop leaves: the variables, and what it did for the request. -/
structure Turn where
  locals : Locals
  httpReceiveBuffer : ReceiveBuffer
  post : Option Post
  response : Bytes

/-- The calls that set a transfer up are asserted by the code, and succeed here. -/
def turn (combainApiKey : Buffer) (requestBody : Bytes) (http : Http) (locals : Locals)
    (httpReceiveBuffer : ReceiveBuffer) : Except Fault Turn := do
  let locals ← followKey combainApiKey locals
  let start ← first locals.oldCombainApiKey
  if start = 0 then pure ⟨locals, httpReceiveBuffer, none, keyNotSet⟩
  else
    let url ← text locals.combainUrl
    let (ok, received) := perform http.completes http.chunks httpReceiveBuffer.reset
    pure ⟨locals, received, some ⟨url, requestBody⟩,
      if ok then received.data.take received.used else []⟩

inductive Event where
  | setApiKey (apiKey : Text)
  | submit (handle : Handle) (requestBody : Bytes)
  | work (http : Http)

/-- The process; `thread` is what faults. The last fields record the key that was last
accepted, the requests that were submitted and the posts. -/
structure Process where
  key : ApiKey
  requestJson : List (Handle × Bytes)
  responseJson : List (Handle × Bytes)
  thread : Except Fault (Locals × ReceiveBuffer)
  accepted : Bytes
  submitted : List Handle
  posts : List Post

namespace Process

variable (process : Process)

def pushKey (apiKey : Text) : Process :=
  match setApiKey apiKey process.key with
  | .error fault => { process with thread := .error fault }
  | .ok key =>
      { process with
        key := key
        accepted := if apiKey.chars.length > maxLenApiKey - 1 then process.accepted else apiKey.chars }

/-- The thread waits while there is no request. -/
def work (http : Http) : Process :=
  match process.thread, process.requestJson with
  | .ok (locals, buffer), (handle, requestBody) :: rest =>
      match turn process.key.combainApiKey requestBody http locals buffer with
      | .error fault => { process with requestJson := rest, thread := .error fault }
      | .ok turn =>
          { process with
            requestJson := rest
            responseJson := process.responseJson ++ [(handle, turn.response)]
            thread := .ok (turn.locals, turn.httpReceiveBuffer)
            posts := process.posts ++ turn.post.toList }
  | _, _ => process

def step : Process → Event → Process
  | process, .setApiKey apiKey => process.pushKey apiKey
  | process, .submit handle requestBody =>
      { process with
        requestJson := process.requestJson ++ [(handle, requestBody)]
        submitted := process.submitted ++ [handle] }
  | process, .work http => process.work http

/-- Nothing was written to the variables of the thread. -/
def unwritten : Locals := ⟨List.replicate urlSize none, List.replicate maxLenApiKey none⟩

def start : Process where
  key := ⟨List.replicate maxLenApiKey (some 0), false⟩
  requestJson := []
  responseJson := []
  thread := .ok (unwritten, ⟨0, List.replicate receiveSize 0, by decide, List.length_replicate⟩)
  accepted := []
  submitted := []
  posts := []

end Process

end MangOH.CombainHttp
