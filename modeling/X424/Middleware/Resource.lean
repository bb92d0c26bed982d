import X424.Foundation.Machine
import X424.Js.Quote
import X424.Policy
import X424.RequirementStore

/-!
# The resource middleware

`middleware/resource.ts`: what a resource server does with a request that
carries a `HUMAN-PROOF` token.  `acceptHumanProof` waits for the requirement
store, then for one of the two result stores and, for a read, for the deletion
of the requirement; between these waits other presentations make progress.

Challenges for requests without a token and the CORS answers are left out.
-/

namespace X424

open Foundation

/-- `auth/issuance.ts`: `dev-local-0.1`, `eval-redis-0.2` and `prod-ha-0.2`. -/
inductive DeploymentProfile where
  | devLocal
  | evalRedis
  | prodHa
  deriving DecidableEq, Repr

/-- `protocol` is what `new URL(text)` finds, if the text is a URL at all. -/
structure PublicOrigin where
  text : JsString
  protocol : Option JsString
  deriving DecidableEq, Repr

structure ProtectOptions (ρ σ τ : Type) where
  deploymentProfile : DeploymentProfile
  purpose : JsString
  audience : JsString
  catalog : JsString → Option HumanMethodDescriptor
  /-- `verifyHumanResultToken` under the configured verifier. -/
  verifyHumanResultToken : JsString → Except JsError HumanResult
  requirementStore : RequirementStore ρ
  replayStore : Option (ResultReplayStore σ)
  resultAcceptanceStore : Option (ResultAcceptanceStore τ)
  /-- The `instanceof` tests for the in-memory stores. -/
  requirementsInMemory : Bool
  replaysInMemory : Bool
  acceptancesInMemory : Bool
  publicOrigin : PublicOrigin
  requireIdempotencyKey : Option Bool

/-- A request with what the middleware has read and extracted from it. -/
structure ProtectedRequest where
  method : JsString
  uri : JsString
  binding : HumanBinding
  /-- `bodyDigestFromInput`: `none` for an absent or empty body. -/
  bodyDigest : Option JsString
  idempotencyKey : Option JsString
  humanProof : JsString
  deriving DecidableEq, Repr

/-! ## Request digests -/

section Digest

variable (sha256 : JsString → JsString)

def quoteOrNull : Option JsString → JsString
  | none => js "null"
  | some text => quote text

/-- `canonicalJson({ method, uri, bodyDigest })`. -/
def requestPreimage (method uri : JsString) (bodyDigest : Option JsString) : JsString :=
  js "\x7b\"bodyDigest\":" ++ quoteOrNull bodyDigest ++ js ",\"method\":" ++
    quote (toUpperCase method) ++ js ",\"uri\":" ++ quote uri ++ js "\x7d"

def requestDigest (method uri : JsString) (bodyDigest : Option JsString) : JsString :=
  sha256 (requestPreimage method uri bodyDigest)

theorem quoteOrNull_append_inj {a b : Option JsString} {x y : JsString}
    (h : quoteOrNull a ++ x = quoteOrNull b ++ y) : a = b ∧ x = y := by
  have hnull : ∀ text rest rest', quote text ++ rest ≠ js "null" ++ rest' :=
    fun text rest rest' heq => absurd (List.cons.inj heq).1 (by decide)
  cases a with
  | none =>
      cases b with
      | none => exact ⟨rfl, List.append_cancel_left h⟩
      | some b => exact absurd h.symm (hnull b y x)
  | some a =>
      cases b with
      | none => exact absurd h (hnull a x y)
      | some b =>
          obtain ⟨rfl, rfl⟩ := quote_append_inj h
          exact ⟨rfl, rfl⟩

theorem requestPreimage_inj {method method' uri uri' : JsString}
    {bodyDigest bodyDigest' : Option JsString}
    (h : requestPreimage method uri bodyDigest = requestPreimage method' uri' bodyDigest') :
    toUpperCase method = toUpperCase method' ∧ uri = uri' ∧ bodyDigest = bodyDigest' := by
  simp only [requestPreimage, List.append_assoc] at h
  obtain ⟨hbody, hrest⟩ := quoteOrNull_append_inj (List.append_cancel_left h)
  obtain ⟨hmethod, hrest⟩ := quote_append_inj (List.append_cancel_left hrest)
  obtain ⟨huri, _⟩ := quote_append_inj (List.append_cancel_left hrest)
  exact ⟨hmethod, huri, hbody⟩

def ProtectedRequest.digest (request : ProtectedRequest) : JsString :=
  requestDigest sha256 request.method request.uri request.bodyDigest

end Digest

/-! ## Options -/

namespace ProtectOptions

variable {ρ σ τ : Type} (options : ProtectOptions ρ σ τ)

def assertProtectOptions : Except JsError Unit :=
  let hosted := options.deploymentProfile ≠ .devLocal
  if options.publicOrigin.text.isEmpty then .error ⟨js "publicOrigin is required"⟩
  else
    match options.publicOrigin.protocol with
    | none => .error ⟨js "publicOrigin must be an absolute URL origin"⟩
    | some protocol =>
        if hosted ∧ protocol ≠ js "https:" then
          .error ⟨js "publicOrigin must use HTTPS outside dev-local"⟩
        else if hosted ∧ options.replayStore.isNone then
          .error ⟨js "ResultReplayStore is required for eval/prod deployment profiles"⟩
        else if hosted ∧ options.resultAcceptanceStore.isNone then
          .error ⟨js "ResultAcceptanceStore is required for eval/prod mutation profiles"⟩
        else if hosted ∧ options.requirementsInMemory then
          .error ⟨js "InMemoryRequirementStore is not permitted outside dev-local"⟩
        else if hosted ∧ options.acceptancesInMemory then
          .error ⟨js "InMemoryResultAcceptanceStore is not permitted outside dev-local"⟩
        else if hosted ∧ options.replaysInMemory then
          .error ⟨js "InMemoryResultReplayStore is not permitted outside dev-local"⟩
        else .ok ()

end ProtectOptions

/-! ## One presentation -/

def readMethods : List JsString := [js "GET", js "HEAD", js "OPTIONS"]

namespace ProtectedRequest

variable (request : ProtectedRequest)

def mutation : Bool := !readMethods.contains (toUpperCase request.method)

/-- An empty `Idempotency-Key` counts as none. -/
def operationId : Option JsString := request.idempotencyKey.filter fun key => !key.isEmpty

end ProtectedRequest

namespace ProtectOptions

variable {ρ σ τ : Type} (options : ProtectOptions ρ σ τ) (request : ProtectedRequest)

/-- Whether the middleware answers `IDEMPOTENCY_KEY_REQUIRED`; the method is
compared as it was sent. -/
def lacksIdempotencyKey : Bool :=
  !readMethods.contains request.method && options.requireIdempotencyKey != some false &&
    request.operationId.isNone

def useAcceptance : Bool :=
  request.mutation && options.resultAcceptanceStore.isSome && request.operationId.isSome

/-- `acceptHumanProof` before it asks the requirement store. -/
def previewToken : Except JsError HumanResult :=
  let hosted := options.deploymentProfile ≠ .devLocal
  if hosted ∧ options.replayStore.isNone then
    .error ⟨js "ResultReplayStore is required for this profile"⟩
  else if request.mutation ∧ hosted ∧
      (options.resultAcceptanceStore.isNone ∨ request.operationId.isNone) then
    .error ⟨js "ResultAcceptanceStore and Idempotency-Key are required for mutations"⟩
  else options.verifyHumanResultToken request.humanProof

variable (sha256 : JsString → JsString)

def assertCurrentMatchesStored (requirement : HumanRequirement) : Except JsError Unit :=
  if requirement.purpose ≠ options.purpose then
    .error ⟨js "Purpose does not match the stored dependency"⟩
  else if requirement.resource.audience ≠ options.audience then
    .error ⟨js "Audience does not match the stored dependency"⟩
  else if requirement.resource.method ≠ toUpperCase request.method then
    .error ⟨js "HTTP method does not match the stored dependency"⟩
  else if requirement.resource.uri ≠ request.uri then
    .error ⟨js "Request URI does not match the stored dependency"⟩
  else if requirement.resource.requestDigest ≠ request.digest sha256 then
    .error ⟨js "Request body digest does not match the stored dependency"⟩
  else if requirement.binding ≠ request.binding then
    .error ⟨js "Caller binding does not match the stored dependency"⟩
  else .ok ()

/-- `verifyHumanProofHeader` before it consumes the result. -/
def verifyHumanProof (requirement : HumanRequirement) (now : Instant) :
    Except JsError HumanResult :=
  let requireReplayStore := !options.useAcceptance request &&
    (request.mutation || options.deploymentProfile != .devLocal)
  if requireReplayStore && options.replayStore.isNone then
    .error ⟨js "ResultReplayStore is required for this profile"⟩
  else do
    let result ← options.verifyHumanResultToken request.humanProof
    let failures := evaluateHumanResult requirement result options.catalog now
    if failures = [] then .ok result
    else
      .error ⟨js "x424 result rejected: " ++
        (js ",").intercalate (failures.map fun failure => failure.code.text)⟩

def checkPresentation (requirement : HumanRequirement) (now : Instant) :
    Except JsError HumanResult := do
  options.assertCurrentMatchesStored request sha256 requirement
  options.verifyHumanProof request requirement now

/-- A `replay` answer rejects the presentation. -/
def acceptanceOutcome (reply : Except JsError ResultAcceptanceStatus × τ) (replays : σ) :
    Except JsError Unit × σ × τ :=
  match reply with
  | (.ok .replay, acceptances) =>
      (.error ⟨js "x424 result token was replayed for another operation"⟩, replays, acceptances)
  | (.ok _, acceptances) => (.ok (), replays, acceptances)
  | (.error error, acceptances) => (.error error, replays, acceptances)

def consumptionOutcome (reply : Except JsError Bool × σ) (acceptances : τ) :
    Except JsError Unit × σ × τ :=
  match reply with
  | (.ok true, replays) => (.ok (), replays, acceptances)
  | (.ok false, replays) =>
      (.error ⟨js "x424 result token was already consumed"⟩, replays, acceptances)
  | (.error error, replays) => (.error error, replays, acceptances)

def spendResult (result : HumanResult) (checkedAt now : Instant) (replays : σ)
    (acceptances : τ) : Except JsError Unit × σ × τ :=
  match options.resultAcceptanceStore, request.operationId, request.mutation with
  | some store, some operationId, true =>
      acceptanceOutcome
        (store.accept ⟨result.resultId, operationId, result.requestDigest, result.expiresAt⟩
          checkedAt now acceptances) replays
  | _, _, _ =>
      match options.replayStore with
      | none => (.ok (), replays, acceptances)
      | some store =>
          consumptionOutcome
            (store.consume result.resultId result.expiresAt checkedAt now replays) acceptances

end ProtectOptions

/-! ## Presentations side by side -/

inductive Presentation where
  | idle
  | previewed (request : ProtectedRequest) (startedAt : Instant) (preview : HumanResult)
  | checked (request : ProtectedRequest) (startedAt : Instant)
      (requirement : HumanRequirement) (result : HumanResult)
  /-- A read that has consumed its result and still has to delete the requirement. -/
  | spent (request : ProtectedRequest) (requirement : HumanRequirement) (spentAt : Instant)
  | accepted (request : ProtectedRequest) (spentAt : Instant)
  | rejected
  deriving DecidableEq, Repr

def Presentation.inFlight : Presentation → Bool
  | .previewed .. | .checked .. | .spent .. => true
  | .idle | .accepted .. | .rejected => false

structure ResourceState (ι ρ σ τ : Type) where
  now : Instant
  requirements : ρ
  replays : σ
  acceptances : τ
  presentation : ι → Presentation

inductive ResourceEvent (ι ρ : Type) where
  | tick (time : Instant)
  | requirementsChange (requirements : ρ)
  | present (id : ι) (request : ProtectedRequest)
  | lookUp (id : ι)
  | spend (id : ι)
  | cleanUp (id : ι)
  | fail (id : ι)

section Machine

variable {ι ρ σ τ : Type} [DecidableEq ι] (sha256 : JsString → JsString)
  (options : ProtectOptions ρ σ τ)

namespace ResourceState

def initial (now : Instant) (requirements : ρ) (replays : σ) (acceptances : τ) :
    ResourceState ι ρ σ τ :=
  ⟨now, requirements, replays, acceptances, fun _ => .idle⟩

def setPresentation (s : ResourceState ι ρ σ τ) (id : ι) (presentation : Presentation) :
    ResourceState ι ρ σ τ :=
  { s with presentation := Function.update s.presentation id presentation }

def present (s : ResourceState ι ρ σ τ) (request : ProtectedRequest) : Presentation :=
  if options.lacksIdempotencyKey request then .rejected
  else
    match options.previewToken request with
    | .ok preview => .previewed request s.now preview
    | .error _ => .rejected

def lookUp (s : ResourceState ι ρ σ τ) (id : ι) (request : ProtectedRequest)
    (startedAt : Instant) (preview : HumanResult) : ResourceState ι ρ σ τ :=
  let found := options.requirementStore.get preview.dependencyId startedAt s.now s.requirements
  let s := { s with requirements := found.2 }
  match found.1 with
  | .ok (some requirement) =>
      match options.checkPresentation request sha256 requirement startedAt with
      | .ok result => s.setPresentation id (.checked request startedAt requirement result)
      | .error _ => s.setPresentation id .rejected
  | _ => s.setPresentation id .rejected

def spend (s : ResourceState ι ρ σ τ) (id : ι) (request : ProtectedRequest)
    (startedAt : Instant) (requirement : HumanRequirement) (result : HumanResult) :
    ResourceState ι ρ σ τ :=
  let reply := options.spendResult request result startedAt s.now s.replays s.acceptances
  let s := { s with replays := reply.2.1, acceptances := reply.2.2 }
  match reply.1 with
  | .error _ => s.setPresentation id .rejected
  | .ok () =>
      if request.mutation then s.setPresentation id (.accepted request s.now)
      else s.setPresentation id (.spent request requirement s.now)

def cleanUp (s : ResourceState ι ρ σ τ) (id : ι) (request : ProtectedRequest)
    (requirement : HumanRequirement) (spentAt : Instant) : ResourceState ι ρ σ τ :=
  let reply := options.requirementStore.delete requirement.dependencyId s.now s.requirements
  let s := { s with requirements := reply.2 }
  match reply.1 with
  | .ok () => s.setPresentation id (.accepted request spentAt)
  | .error _ => s.setPresentation id .rejected

end ResourceState

def resourceStep (s : ResourceState ι ρ σ τ) :
    ResourceEvent ι ρ → Option (ResourceState ι ρ σ τ)
  | .tick time => if s.now ≤ time then some { s with now := time } else none
  | .requirementsChange requirements => some { s with requirements := requirements }
  | .present id request =>
      match s.presentation id with
      | .idle => some (s.setPresentation id (s.present options request))
      | _ => none
  | .lookUp id =>
      match s.presentation id with
      | .previewed request startedAt preview =>
          some (s.lookUp sha256 options id request startedAt preview)
      | _ => none
  | .spend id =>
      match s.presentation id with
      | .checked request startedAt requirement result =>
          some (s.spend options id request startedAt requirement result)
      | _ => none
  | .cleanUp id =>
      match s.presentation id with
      | .spent request requirement spentAt =>
          some (s.cleanUp options id request requirement spentAt)
      | _ => none
  | .fail id =>
      if (s.presentation id).inFlight then some (s.setPresentation id .rejected) else none

def resourceMachine : Machine (ResourceState ι ρ σ τ) (ResourceEvent ι ρ) :=
  ⟨resourceStep sha256 options⟩

end Machine

end X424
