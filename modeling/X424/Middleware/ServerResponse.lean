import X424.Client.Signature
import X424.Foundation.Effects
import X424.Middleware.Vary

/-!
# The response behind the Express guard

`installExpressProtectedHeaders` of `middleware/resource.ts` replaces three
methods of a Node `ServerResponse`.  Below are these methods as Node has them
and as the guard has them, and the choice between them for every call on the
response, Node's own calls on it included.  The headers that Node adds of
itself, such as `Date`, are left out, and so is that Node appends to the very
array that a caller passed to `setHeader`: here a list is copied.
-/

namespace X424

open Foundation

/-! ## Node -/

/-- No match of `/[^\t\x20-\x7e\x80-\xff]/`. -/
def isNodeHeaderText (text : JsString) : Bool :=
  text.all fun u => u == 0x09 || (0x20 ≤ u && u ≤ 0x7E) || (0x80 ≤ u && u ≤ 0xFF)

def HeaderValue.items : HeaderValue → List JsString
  | .single text => [text]
  | .list texts => texts

/-- Node tests `String(value)`; the commas between the items of a list pass. -/
def HeaderValue.isValid (value : HeaderValue) : Bool := value.items.all isNodeHeaderText

/-- A value that has passed `validateHeaderValue`. -/
abbrev StoredValue := { value : HeaderValue // value.isValid = true }

def StoredValue.append (stored value : StoredValue) : StoredValue :=
  ⟨.list (stored.1.items ++ value.1.items), by
    rw [HeaderValue.isValid, HeaderValue.items, List.all_append, Bool.and_eq_true]
    exact ⟨stored.2, value.2⟩⟩

/-- What is sent before the body; the values of a header are given by its lower-case name. -/
structure ResponseHead where
  statusCode : ℤ
  statusMessage : JsString
  headers : JsString → List JsString

structure ServerResponse where
  statusCode : ℤ
  statusMessage : Option JsString
  /-- The headers that are set, by lower-case names; there is no store before the first one. -/
  outHeaders : Option (JsString → Option StoredValue)
  sent : Option ResponseHead
  /-- `__x424ProtectedHeadersInstalled`. -/
  protectedHeadersInstalled : Bool

abbrev Respond := Effect JsError ServerResponse Unit

def ServerResponse.stored (response : ServerResponse) (name : JsString) : Option StoredValue :=
  response.outHeaders.bind fun headers => headers (toLowerCase name)

def ServerResponse.getHeader (response : ServerResponse) (name : JsString) : Option HeaderValue :=
  (response.stored name).map Subtype.val

def ServerResponse.put (response : ServerResponse) (name : JsString) (value : StoredValue) :
    ServerResponse :=
  { response with
    outHeaders := some (Function.update (response.outHeaders.getD fun _ => none)
      (toLowerCase name) (some value)) }

def ServerResponse.erase (response : ServerResponse) (name : JsString) : ServerResponse :=
  { response with
    outHeaders := response.outHeaders.map fun headers =>
      Function.update headers (toLowerCase name) none }

def headersSent : JsError := ⟨js "ERR_HTTP_HEADERS_SENT"⟩

/-- `validateHeaderName` and `validateHeaderValue`. -/
def validateHeader (name : JsString) (value : Option HeaderValue) : Except JsError StoredValue :=
  if isToken name then
    match value with
    | none => .error ⟨js "ERR_HTTP_INVALID_HEADER_VALUE"⟩
    | some value =>
        if h : value.isValid = true then .ok ⟨value, h⟩ else .error ⟨js "ERR_INVALID_CHAR"⟩
  else .error ⟨js "ERR_INVALID_HTTP_TOKEN"⟩

def nodeSetHeader (name : JsString) (value : Option HeaderValue) : Respond := do
  let response ← get
  if response.sent.isSome then throw headersSent
  else
    match validateHeader name value with
    | .error error => throw error
    | .ok value => modify fun response => response.put name value

def nodeRemoveHeader (name : JsString) : Respond := do
  let response ← get
  if response.sent.isSome then throw headersSent
  else modify fun response => response.erase name

/-! ## The guard -/

def X424_PROTECTED_CACHE_CONTROL : JsString := js "private, no-store"

def forceProtectedHeaders : Respond := do
  nodeSetHeader (js "cache-control") (some (.single X424_PROTECTED_CACHE_CONTROL))
  let response ← get
  nodeSetHeader (js "vary")
    (some (.single (mergeVary (response.getHeader (js "vary")) [humanProofHeader])))

/-- `String(value)`. -/
def headerString : Option HeaderValue → JsString
  | none => js "undefined"
  | some value => value.text

def guardedSetHeader (name : JsString) (value : Option HeaderValue) : Respond := do
  let lowerName := toLowerCase name
  if lowerName = js "cache-control" then
    nodeSetHeader name (some (.single X424_PROTECTED_CACHE_CONTROL))
  else if lowerName = js "vary" then do
    let response ← get
    nodeSetHeader name
      (some (.single (mergeVary (response.getHeader (js "vary"))
        [headerString value, humanProofHeader])))
  else nodeSetHeader name value

def guardedRemoveHeader (name : JsString) : Respond := do
  let lowerName := toLowerCase name
  if lowerName = js "cache-control" ∨ lowerName = js "vary" then forceProtectedHeaders
  else nodeRemoveHeader name

def setHeader (name : JsString) (value : Option HeaderValue) : Respond := do
  let response ← get
  if response.protectedHeadersInstalled then guardedSetHeader name value
  else nodeSetHeader name value

def removeHeader (name : JsString) : Respond := do
  let response ← get
  if response.protectedHeadersInstalled then guardedRemoveHeader name else nodeRemoveHeader name

def appendHeader (name : JsString) (value : Option HeaderValue) : Respond := do
  let response ← get
  if response.sent.isSome then throw headersSent
  else
    match validateHeader name value with
    | .error error => throw error
    | .ok value =>
        match response.stored name with
        | none => setHeader name (some value.1)
        | some stored => modify fun response => response.put name (stored.append value)

/-! ## writeHead -/

/-- An object by its own entries, or a flat array of names and values. -/
inductive HeadersArgument where
  | object (entries : List (JsString × Option HeaderValue))
  /-- An array of odd length ends with a name that has no value. -/
  | array (entries : List (Option JsString × Option HeaderValue))
      (unpaired : Option (Option JsString))

inductive StatusMessageOrHeaders where
  | undefined
  | message (text : JsString)
  | headers (given : HeadersArgument)

structure WriteHeadArguments where
  statusCode : ℤ
  statusMessageOrHeaders : StatusMessageOrHeaders
  headers : Option HeadersArgument

/-- `statusCode | 0`. -/
def toInt32 (n : ℤ) : ℤ := (n + 2 ^ 31) % 2 ^ 32 - 2 ^ 31

/-- `obj`, after `obj ??= reason` where the reason is no string. -/
def WriteHeadArguments.nodeHeaders (given : WriteHeadArguments) : Option HeadersArgument :=
  match given.statusMessageOrHeaders with
  | .headers reason => given.headers.or (some reason)
  | _ => given.headers

/-- The headers of `writeHead` where some are set already. -/
def applyHeaders : Option HeadersArgument → Respond
  | none => pure ()
  | some (.array entries unpaired) =>
      if unpaired.isSome then throw ⟨js "ERR_INVALID_ARG_VALUE"⟩
      else do
        entries.forM fun entry =>
          match entry.1 with
          | none => throw ⟨js "ERR_INVALID_ARG_TYPE"⟩
          | some name => removeHeader name
        entries.forM fun entry =>
          match entry.1 with
          | none => pure ()
          | some name => if name = [] then pure () else appendHeader name entry.2
  | some (.object entries) =>
      entries.forM fun entry => if entry.1 = [] then pure () else setHeader entry.1 entry.2

def validateEntry (entry : Option JsString × Option HeaderValue) :
    Except JsError (JsString × StoredValue) :=
  match entry.1 with
  | none => .error ⟨js "ERR_INVALID_HTTP_TOKEN"⟩
  | some name => (validateHeader name entry.2).map fun value => (name, value)

/-- The headers of `writeHead` where none are set: they are sent as they stand. -/
def headerLines : Option HeadersArgument → Except JsError (List (JsString × StoredValue))
  | none => .ok []
  | some (.array entries unpaired) =>
      if unpaired.isSome then .error ⟨js "ERR_INVALID_ARG_VALUE"⟩
      else entries.mapM validateEntry
  | some (.object entries) => (entries.map fun entry => (some entry.1, entry.2)).mapM validateEntry

def linesFor (lines : List (JsString × StoredValue)) (name : JsString) : List JsString :=
  lines.flatMap fun line => if toLowerCase line.1 = name then line.2.1.items else []

def storedFor (headers : JsString → Option StoredValue) (name : JsString) : List JsString :=
  ((headers name).map fun value => value.1.items).getD []

/-- `_storeHeader`, after the check of the status message. -/
def storeHead (headers : JsString → List JsString) : Respond := do
  let response ← get
  let message := response.statusMessage.getD []
  if isNodeHeaderText message then
    modify fun response =>
      { response with sent := some ⟨response.statusCode, message, headers⟩ }
  else throw ⟨js "ERR_INVALID_CHAR"⟩

/-- The second half of `writeHead`. -/
def sendHeaders (headers : Option HeadersArgument) : Respond := do
  let response ← get
  if response.outHeaders.isSome then do
    applyHeaders headers
    let response ← get
    storeHead (storedFor (response.outHeaders.getD fun _ => none))
  else
    match headerLines headers with
    | .error error => throw error
    | .ok lines => storeHead (linesFor lines)

section Handlers

variable (STATUS_CODES : ℤ → Option JsString)

/-- `this.statusMessage ||= STATUS_CODES[statusCode] || 'unknown'`. -/
def defaultMessage (message : Option JsString) (statusCode : ℤ) : JsString :=
  if message.getD [] = [] then (STATUS_CODES statusCode).getD (js "unknown") else message.getD []

def ServerResponse.withStatus (response : ServerResponse) (given : WriteHeadArguments) :
    ServerResponse :=
  { response with
    statusCode := toInt32 given.statusCode
    statusMessage :=
      match given.statusMessageOrHeaders with
      | .message text => some text
      | _ => some (defaultMessage STATUS_CODES response.statusMessage (toInt32 given.statusCode)) }

def nodeWriteHead (given : WriteHeadArguments) : Respond := do
  let response ← get
  if response.sent.isSome then throw headersSent
  else if toInt32 given.statusCode < 100 ∨ 999 < toInt32 given.statusCode then
    throw ⟨js "ERR_HTTP_INVALID_STATUS_CODE"⟩
  else do
    modify fun response => response.withStatus STATUS_CODES given
    sendHeaders given.nodeHeaders

def WriteHeadArguments.directHeaders (given : WriteHeadArguments) : Option HeadersArgument :=
  match given.statusMessageOrHeaders with
  | .message _ => given.headers
  | .headers direct => some direct
  | .undefined => none

def replayHeaders : Option HeadersArgument → Respond
  | none => pure ()
  | some (.array entries _) =>
      entries.forM fun entry =>
        match entry.1, entry.2 with
        | some name, some value => setHeader name (some value)
        | _, _ => pure ()
  | some (.object entries) =>
      entries.forM fun entry =>
        match entry.2 with
        | some value => setHeader entry.1 (some value)
        | none => pure ()

def WriteHeadArguments.withoutHeaders (given : WriteHeadArguments) : WriteHeadArguments :=
  match given.statusMessageOrHeaders with
  | .message text => ⟨given.statusCode, .message text, none⟩
  | _ => ⟨given.statusCode, .undefined, none⟩

def guardedWriteHead (given : WriteHeadArguments) : Respond := do
  replayHeaders given.directHeaders
  forceProtectedHeaders
  nodeWriteHead STATUS_CODES given.withoutHeaders

def writeHead (given : WriteHeadArguments) : Respond := do
  let response ← get
  if response.protectedHeadersInstalled then guardedWriteHead STATUS_CODES given
  else nodeWriteHead STATUS_CODES given

/-! ## Handlers -/

/-- What a handler does to the head; `end`, `write` and `flushHeaders` need it sent. -/
inductive HandlerCall where
  | setHeader (name : JsString) (value : Option HeaderValue)
  | appendHeader (name : JsString) (value : Option HeaderValue)
  | removeHeader (name : JsString)
  | writeHead (given : WriteHeadArguments)
  | implicitHeader

def implicitHeader : Respond := do
  let response ← get
  if response.sent.isSome then pure ()
  else writeHead STATUS_CODES ⟨response.statusCode, .undefined, none⟩

def HandlerCall.perform : HandlerCall → Respond
  | .setHeader name value => X424.setHeader name value
  | .appendHeader name value => X424.appendHeader name value
  | .removeHeader name => X424.removeHeader name
  | .writeHead given => X424.writeHead STATUS_CODES given
  | .implicitHeader => X424.implicitHeader STATUS_CODES

/-- The response after some calls; a handler may catch what a call throws. -/
def afterCalls (response : ServerResponse) (calls : List HandlerCall) : ServerResponse :=
  calls.foldl (fun response call => (call.perform STATUS_CODES).after response) response

end Handlers

def installExpressProtectedHeaders : Respond := do
  let response ← get
  if response.protectedHeadersInstalled then pure ()
  else do
    modify fun response => { response with protectedHeadersInstalled := true }
    forceProtectedHeaders

end X424
