import X424.Client.Signature
import X424.Client.Transport
import X424.Foundation.Dialogue
import X424.Handoff.Service

/-!
# The clients

`fetchWithX424`, `fetchWithX424AndX402` and the client of
`createX424AgentClient` as programs that talk to their surroundings: the
underlying `fetch`, the resolvers, the handoff broker, the presenter, the
signer, the clock and the source of randomness.  Every one of these may answer
anything, and may throw.
-/

namespace X424

open Foundation

/-! ## Calls and answers -/

/-- What a payment resolver gives; `processResponse` is a hook that it may have. -/
structure PaymentDependencyResolution where
  paymentSignature : JsString
  processesResponse : Bool
  deriving DecidableEq, Repr

structure StartedHumanHandoff where
  handoffId : JsString
  accessToken : JsString
  providerId : JsString
  methodId : JsString
  presentation : HumanHandoffPresentation
  expiresAt : IsoTimestamp
  pollAfterMs : JsNumber
  deriving DecidableEq, Repr

inductive HumanHandoffEvent where
  | humanActionRequired (handoffId providerId methodId : JsString)
      (presentation : HumanHandoffPresentation) (expiresAt : IsoTimestamp)
  | waiting (handoffId : JsString)
  | completed (handoffId : JsString)
  | failed (handoffId code : JsString)
  | expired (handoffId : JsString)
  | cancelled (handoffId : JsString)
  deriving DecidableEq, Repr

inductive ClientCall where
  | send (request : Request)
  | resolveHuman (requirement : RequirementDocument) (response : Response)
  | resolvePayment (response : Response) (request : Request)
  | processResponse (response : Response)
  | startHandoff (input : StartHumanHandoffInput)
  | getHandoff (handoffId accessToken : JsString)
  | cancelHandoff (handoffId accessToken : JsString)
  | present (event : HumanHandoffEvent)
  | isAborted
  | delay (ms : JsNumber)
  | randomBytes (count : Nat)
  | now
  | sign (base : List UInt8)

@[reducible] def ClientCall.Answer : ClientCall → Type
  | send _ => Except JsError Response
  | resolveHuman _ _ => Except JsError JsString
  | resolvePayment _ _ => Except JsError PaymentDependencyResolution
  | processResponse _ => Except JsError Unit
  | startHandoff _ => Except JsError StartedHumanHandoff
  | getHandoff _ _ => Except JsError HumanHandoffView
  | cancelHandoff _ _ => Except JsError Unit
  | present _ => Except JsError Unit
  | isAborted => Bool
  | delay _ => Except JsError Unit
  | randomBytes _ => List UInt8
  | now => Instant
  | sign _ => Except JsError (List UInt8)

abbrev clientInterface : Interface := ⟨ClientCall, ClientCall.Answer⟩

abbrev ClientProgram := Dialogue clientInterface JsError

abbrev ClientSurroundings := Surroundings clientInterface

abbrev ClientExchange := Exchange clientInterface

namespace ClientProgram

def ask (call : ClientCall) : ClientProgram call.Answer := Dialogue.call (I := clientInterface) call

def send (request : Request) : ClientProgram Response := (ask (.send request)).throwing

def resolveHuman (requirement : RequirementDocument) (response : Response) :
    ClientProgram JsString :=
  (ask (.resolveHuman requirement response)).throwing

def resolvePayment (response : Response) (request : Request) :
    ClientProgram PaymentDependencyResolution :=
  (ask (.resolvePayment response request)).throwing

def processResponse (response : Response) : ClientProgram Unit :=
  (ask (.processResponse response)).throwing

def startHandoff (input : StartHumanHandoffInput) : ClientProgram StartedHumanHandoff :=
  (ask (.startHandoff input)).throwing

def getHandoff (handoffId accessToken : JsString) : ClientProgram HumanHandoffView :=
  (ask (.getHandoff handoffId accessToken)).throwing

/-- `cancelHandoff(…).catch(() => undefined)`. -/
def cancelHandoff (handoffId accessToken : JsString) : ClientProgram Unit :=
  (fun _ => ()) <$> ask (.cancelHandoff handoffId accessToken)

def present (event : HumanHandoffEvent) : ClientProgram Unit := (ask (.present event)).throwing

def isAborted : ClientProgram Bool := ask .isAborted

def delay (ms : JsNumber) : ClientProgram Unit := (ask (.delay ms)).throwing

def randomBytes (count : Nat) : ClientProgram (List UInt8) := ask (.randomBytes count)

def now : ClientProgram Instant := ask .now

def sign (base : List UInt8) : ClientProgram (List UInt8) := (ask (.sign base)).throwing

end ClientProgram

/-! ## Challenges -/

section Clients

variable (runtime : Runtime) (urls : UrlParser)

def Response.filled (response : Response) (name : JsString) : Bool :=
  (response.headers.get name).any fun value => !value.isEmpty

def challengeRequirement (response : Response) (body : Option Json) :
    Option RequirementDocument :=
  (requirementFromChallenge runtime response.headers.get body).toOption

/-- The body of a challenge, unless it is not JSON and no header stands in for it. -/
def bodyRequirement (response : Response) : Option RequirementDocument :=
  match response.json runtime.numbers with
  | some body => challengeRequirement runtime response (some body)
  | none =>
      if response.filled humanRequiredHeader then challengeRequirement runtime response none
      else none

/-- What `fetchWithX424` and `requirementFromResponse` take from an answer. -/
def typedRequirement (response : Response) : Option RequirementDocument :=
  let contentType := (response.headers.get (js "content-type")).getD []
  if includes contentType (js "application/problem+json") ||
      includes contentType (js "application/json") then bodyRequirement runtime response
  else if response.filled humanRequiredHeader then challengeRequirement runtime response none
  else none

/-- `response.url || request.url`. -/
def challengeUrl (request : Request) (response : Response) : JsString :=
  if response.url.isEmpty then request.url else response.url

def matchChallenge (request : Request) (response : Response) (requirement : RequirementDocument) :
    Except JsError Unit :=
  assertChallengeRequestMatch urls request.method request.url (challengeUrl request response)
    requirement.resource.method requirement.resource.uri

/-! ## `fetchWithX424` -/

def redirectRefused : JsString := js "x424 refuses redirects during challenge detection"

/-- The checks of an answer in `fetchWithX424`. -/
def refuseRedirect (request : Request) (response : Response) : Except JsError Unit :=
  if isCrossOriginRedirect urls request.url (response.headers.get (js "location")) then
    .error ⟨js "x424 refuses cross-origin redirect during challenge"⟩
  else if response.type = .opaqueRedirect then
    .error ⟨js "x424 refuses opaque redirects during challenge"⟩
  else if response.status ∈ redirectStatuses then .error ⟨redirectRefused⟩
  else .ok ()

def replayable (copy : Except JsError Request) (message : JsString) : Except JsError Request :=
  copy.mapError fun _ => ⟨message⟩

def usableProof (humanProof : JsString) : Except JsError Unit :=
  if humanProof.isEmpty ∨ 65536 < humanProof.length then
    .error ⟨js "Human dependency resolver returned an invalid proof"⟩
  else .ok ()

def provenRequest (request : Request) (humanProof : JsString) : Except JsError Request := do
  let headers ← request.headers.set humanProofHeader humanProof
  Request.new urls (.request request)
    { headers := some (.headers headers), redirect := some .manual }

def fetchWithX424 (input : RequestInfo) (init : RequestInit) : ClientProgram Response := do
  let firstRequest ← .ofExcept (Request.new urls input init)
  let retryBody ← .ofExcept (replayable firstRequest.clone
    (js "Request body is not replayable; supply a cloneable body or precomputed digest"))
  let handed ← .ofExcept (Request.new urls (.request firstRequest)
    { redirect := some .manual, credentials := some firstRequest.credentials })
  let firstResponse ← ClientProgram.send handed
  .ofExcept (refuseRedirect urls firstRequest firstResponse)
  if firstResponse.status ≠ 424 then return firstResponse
  else if firstRequest.headers.has humanProofHeader then return firstResponse
  else
    match typedRequirement runtime firstResponse with
    | none => return firstResponse
    | some requirement => do
        .ofExcept (matchChallenge urls firstRequest firstResponse requirement)
        let humanProof ← ClientProgram.resolveHuman requirement firstResponse
        .ofExcept (usableProof humanProof)
        let retry ← .ofExcept (provenRequest urls retryBody humanProof)
        ClientProgram.send retry

/-! ## `fetchWithX424AndX402` -/

/-- `bodyFactory`, by the number of the attempt. -/
abbrev BodyFactory := Nat → Except JsError (Option BodyInit)

structure RequestCopies where
  first : Request
  second : Request
  third : Request

def clonedCopies (seed : Request) (message : JsString) : Except JsError RequestCopies := do
  let first ← replayable seed.clone message
  let second ← replayable seed.clone message
  let third ← replayable seed.clone message
  return ⟨first, second, third⟩

def builtCopies (seed : Request) (bodyFactory : BodyFactory)
    (init : Option BodyInit → RequestInit) : Except JsError RequestCopies := do
  let first ← bodyFactory 1 >>= fun body => Request.new urls (.text seed.url) (init body)
  let second ← bodyFactory 2 >>= fun body => Request.new urls (.text seed.url) (init body)
  let third ← bodyFactory 3 >>= fun body => Request.new urls (.text seed.url) (init body)
  return ⟨first, second, third⟩

/-- The options of a request that `requestCopies` builds. -/
def copyInit (seed : Request) (body : Option BodyInit) : RequestInit where
  method := some seed.method
  headers := some (.headers seed.headers)
  body := some body
  credentials := some seed.credentials
  cache := some seed.cache
  integrity := some seed.integrity
  keepalive := some seed.keepalive
  mode := some seed.mode
  redirect := some .manual
  referrer := some seed.referrer
  referrerPolicy := some seed.referrerPolicy

def requestCopies (input : RequestInfo) (init : RequestInit) (bodyFactory : Option BodyFactory) :
    Except JsError RequestCopies := do
  let seed ← Request.new urls input init
  match bodyFactory with
  | none =>
      clonedCopies seed
        (js "Request body is not replayable across x424/x402; supply bodyFactory")
  | some bodyFactory => builtCopies urls seed bodyFactory (copyInit seed)

def x402Redirect : JsString := js "x424/x402 refuses redirects during dependency resolution"

def requirementFromResponse (request : Request) (response : Response) :
    Except JsError (Option RequirementDocument) :=
  match typedRequirement runtime response with
  | none => .ok none
  | some requirement => (matchChallenge urls request response requirement).map fun _ => requirement

def usablePayment (paymentSignature : JsString) : Except JsError Unit :=
  if paymentSignature.isEmpty ∨ 65536 < paymentSignature.length then
    .error ⟨js "Payment dependency resolver returned an invalid signature"⟩
  else .ok ()

def paidHeaders (headers : Headers) (humanProof paymentSignature : JsString) :
    Except JsError Headers := do
  let headers ← headers.set humanProofHeader humanProof
  headers.set paymentSignatureHeader paymentSignature

/-- `await payment.processResponse?.(response)`, and the response. -/
def settlePayment (payment : PaymentDependencyResolution) (response : Response) :
    ClientProgram Response :=
  if payment.processesResponse then do
    ClientProgram.processResponse response
    return response
  else return response

/-- `fetchWithX424AndX402` from the answer on that may ask for a payment. -/
def payAndSend (third : Request) (humanProof : Option JsString) (currentRequest : Request)
    (response : Response) : ClientProgram Response := do
  if response.status ≠ 402 then return response
  else if humanProof.isNone && !currentRequest.headers.has humanProofHeader then
    .fail ⟨js "Server evaluated x402 before the x424 dependency"⟩
  else
    let payment ← ClientProgram.resolvePayment response currentRequest
    .ofExcept (usablePayment payment.paymentSignature)
    let proof := (humanProof.or (currentRequest.headers.get humanProofHeader)).getD (js "null")
    let headers ← .ofExcept (paidHeaders third.headers proof payment.paymentSignature)
    let finalRequest ← .ofExcept (Request.new urls (.request third)
      { headers := some (.headers headers), redirect := some .manual })
    let finalResponse ← ClientProgram.send finalRequest
    .ofExcept (assertNoRedirect urls finalRequest finalResponse x402Redirect)
    settlePayment payment finalResponse

def fetchWithX424AndX402 (input : RequestInfo) (init : RequestInit)
    (bodyFactory : Option BodyFactory) : ClientProgram Response := do
  let copies ← .ofExcept (requestCopies urls input init bodyFactory)
  let handed ← .ofExcept (Request.new urls (.request copies.first) { redirect := some .manual })
  let response ← ClientProgram.send handed
  .ofExcept (assertNoRedirect urls copies.first response x402Redirect)
  if response.status = 424 then
    if copies.first.headers.has humanProofHeader then return response
    else
      let requirement ← .ofExcept (requirementFromResponse runtime urls copies.first response)
      match requirement with
      | none => return response
      | some requirement => do
          let humanProof ← ClientProgram.resolveHuman requirement response
          .ofExcept (usableProof humanProof)
          let currentRequest ← .ofExcept (provenRequest urls copies.second humanProof)
          let response ← ClientProgram.send currentRequest
          .ofExcept (assertNoRedirect urls currentRequest response x402Redirect)
          payAndSend urls copies.third (some humanProof) currentRequest response
  else payAndSend urls copies.third none copies.first response

/-! ## The agent client -/

structure HumanMethodChoice where
  providerId : JsString
  methodId : JsString
  deriving DecidableEq, Repr

/-- `X424AgentClientOptions`; of the parts that are called, whether they are there. -/
structure X424AgentClientOptions where
  signer : AgentRequestSigner
  hasPresenter : Bool
  hasSignal : Bool
  selectMethod : Option (RequirementDocument → Except JsError HumanMethodChoice)
  resolvesPayment : Bool
  bodyFactory : Option BodyFactory

variable (createHash : List UInt8 → List UInt8)

/-- The options of a request that `agentRequestCopies` builds. -/
def agentCopyInit (seed : Request) (body : Option BodyInit) : RequestInit where
  method := some seed.method
  headers := some (.headers seed.headers)
  body := some body
  credentials := some seed.credentials
  redirect := some .manual

def agentRequestCopies (input : RequestInfo) (init : RequestInit)
    (bodyFactory : Option BodyFactory) : Except JsError RequestCopies := do
  let seed ← Request.new urls input init
  match bodyFactory with
  | none =>
      clonedCopies seed (js "Agent request body is not replayable; supply bodyFactory")
  | some bodyFactory => builtCopies urls seed bodyFactory (agentCopyInit seed)

def idempotencyKeyHeader : JsString := js "idempotency-key"

/-- `new Request(request, { headers })`. -/
def withHeaders (request : Request) (headers : Headers) : Except JsError Request :=
  Request.new urls (.request request) { headers := some (.headers headers) }

/-- The three requests with one idempotency key, unless there is one or none is needed. -/
def keyedCopies (copies : RequestCopies) : ClientProgram RequestCopies := do
  if copies.first.method ∈ [js "GET", js "HEAD", js "OPTIONS"] ∨
      copies.first.headers.has idempotencyKeyHeader then return copies
  else
    let random ← ClientProgram.randomBytes 18
    let seedHeaders ← .ofExcept (copies.first.headers.set idempotencyKeyHeader
      (js "x424-operation-" ++ encodeStrictBase64Url random))
    let first ← .ofExcept (withHeaders urls copies.first seedHeaders)
    let second ← .ofExcept (withHeaders urls copies.second seedHeaders)
    let third ← .ofExcept (withHeaders urls copies.third seedHeaders)
    return ⟨first, second, third⟩

/-- `signX424AgentRequest` with the nonce that is given, or a random one. -/
def signAgentRequest (request : Request) (signer : AgentRequestSigner) (nonce : Option JsString) :
    ClientProgram Request := do
  let now ← ClientProgram.now
  let nonce ←
    match nonce with
    | some nonce => (pure nonce : ClientProgram JsString)
    | none => encodeStrictBase64Url <$> ClientProgram.randomBytes 16
  let unsigned ← .ofExcept (unsignedRequest urls createHash request signer nonce now (some 60))
  let signature ← ClientProgram.sign unsigned.base
  .ofExcept (signedRequest urls unsigned signature)

def agentRedirect : JsString := js "x424 agent client refuses redirects"

def agentRequirementFromResponse (request : Request) (response : Response) :
    Option RequirementDocument :=
  (bodyRequirement runtime response).filter fun requirement =>
    (matchChallenge urls request response requirement).isOk

def presentTo (options : X424AgentClientOptions) (event : HumanHandoffEvent) :
    ClientProgram Unit :=
  if options.hasPresenter then ClientProgram.present event else pure ()

def viewEvent (handoffId : JsString) : HumanHandoffView → HumanHandoffEvent
  | .completed _ _ _ => .completed handoffId
  | .failed _ code _ => .failed handoffId code
  | .expired _ _ => .expired handoffId
  | .cancelled _ _ => .cancelled handoffId
  | .pending _ _ _ => .waiting handoffId

def viewPollAfterMs : HumanHandoffView → Option JsNumber
  | .pending _ pollAfterMs _ => some pollAfterMs
  | _ => none

/-- `options.signal?.aborted`. -/
def signalAborted (options : X424AgentClientOptions) : ClientProgram Bool :=
  if options.hasSignal then ClientProgram.isAborted else pure false

/-- `waitForHandoff`, followed for some number of polls. -/
def waitForHandoff (options : X424AgentClientOptions) (started : StartedHumanHandoff) :
    Nat → ClientProgram HumanHandoffView
  | 0 => .fail ⟨js "Not followed any further"⟩
  | polls + 1 => do
      let aborted ← signalAborted options
      if aborted then
        presentTo options (.cancelled started.handoffId)
        .fail ⟨js "Human handoff was cancelled"⟩
      else
        let view ← ClientProgram.getHandoff started.handoffId started.accessToken
        match viewPollAfterMs view with
        | some pollAfterMs => do
            presentTo options (.waiting started.handoffId)
            ClientProgram.delay (mathMax 500 (mathMin 10000 pollAfterMs))
            waitForHandoff options started polls
        | none => do
            presentTo options (viewEvent started.handoffId view)
            return view

def completedProof : HumanHandoffView → Except JsError JsString
  | .completed _ humanProof _ => .ok humanProof
  | .failed _ _ _ => .error ⟨js "Human handoff ended with failed"⟩
  | .expired _ _ => .error ⟨js "Human handoff ended with expired"⟩
  | .cancelled _ _ => .error ⟨js "Human handoff ended with cancelled"⟩
  | .pending _ _ _ => .error ⟨js "Human handoff ended with pending"⟩

def selectedMethod (options : X424AgentClientOptions) (requirement : RequirementDocument) :
    Except JsError HumanMethodChoice :=
  match options.selectMethod with
  | some selectMethod => selectMethod requirement
  | none =>
      match requirement.accepts.head? with
      | some accepted => .ok ⟨accepted.providerId, accepted.methodId⟩
      | none => .error ⟨js "x424 challenge has no accepted human method"⟩

def agentHandoff (options : X424AgentClientOptions) (polls : Nat)
    (requirement : RequirementDocument) : ClientProgram JsString := do
  let selected ← .ofExcept (selectedMethod options requirement)
  let started ← ClientProgram.startHandoff
    { dependencyId := requirement.dependencyId
      nonce := requirement.nonce
      providerId := selected.providerId
      methodId := selected.methodId }
  presentTo options (.humanActionRequired started.handoffId started.providerId started.methodId
    started.presentation started.expiresAt)
  let view ← (waitForHandoff options started polls).attempt
  match view with
  | .error error => do
      ClientProgram.cancelHandoff started.handoffId started.accessToken
      .fail error
  | .ok view => .ofExcept (completedProof view)

def agentProven (request : Request) (humanProof : JsString) : Except JsError Request := do
  let headers ← request.headers.set humanProofHeader humanProof
  withHeaders urls request headers

def agentPaid (request : Request) (humanProof paymentSignature : JsString) :
    Except JsError Request := do
  let headers ← paidHeaders request.headers humanProof paymentSignature
  withHeaders urls request headers

def agentPay (options : X424AgentClientOptions) (requirement : RequirementDocument)
    (third : Request) (humanProof : JsString) (current : Request) (response : Response) :
    ClientProgram Response := do
  if response.status ≠ 402 || !options.resolvesPayment then return response
  else
    let payment ← ClientProgram.resolvePayment response current
    let paid ← .ofExcept (agentPaid urls third humanProof payment.paymentSignature)
    let finalRequest ← signAgentRequest urls createHash paid options.signer
      (some requirement.dependencyId)
    let finalResponse ← ClientProgram.send finalRequest
    .ofExcept (assertNoRedirect urls finalRequest finalResponse agentRedirect)
    settlePayment payment finalResponse

def fetchWithAgentDependencies (options : X424AgentClientOptions) (polls : Nat)
    (input : RequestInfo) (init : RequestInit) : ClientProgram Response := do
  let copies ← .ofExcept (agentRequestCopies urls input init options.bodyFactory)
  let requests ← keyedCopies urls copies
  let current ← signAgentRequest urls createHash requests.first options.signer none
  let response ← ClientProgram.send current
  .ofExcept (assertNoRedirect urls current response agentRedirect)
  if response.status ≠ 424 then return response
  else if current.headers.has humanProofHeader then return response
  else
    match agentRequirementFromResponse runtime urls current response with
    | none => return response
    | some requirement => do
        let humanProof ← agentHandoff options polls requirement
        let proven ← .ofExcept (agentProven urls requests.second humanProof)
        let current ← signAgentRequest urls createHash proven options.signer
          (some requirement.dependencyId)
        let response ← ClientProgram.send current
        .ofExcept (assertNoRedirect urls current response agentRedirect)
        agentPay urls createHash options requirement requests.third humanProof current response

end Clients

end X424
