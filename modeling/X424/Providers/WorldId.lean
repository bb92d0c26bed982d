import X424.Canonical
import X424.Providers.WorldIdShared
import X424.Satisfaction

/-!
# The World adapter

`providers/world-id.ts`: the request material of a World ceremony, the adapter
that checks a proof and the profile that puts both together.  The library that
signs requests and hashes signals is a parameter, and so is the remote service.
-/

namespace X424

/-! ## The signing library -/

structure WorldIdSignature where
  nonce : JsString
  createdAt : ℚ
  expiresAt : ℚ
  sig : JsString

structure WorldIdLibrary where
  hashSignal : JsString → JsString
  signRequest : (signingKeyHex action : JsString) → (ttl : ℚ) → Except JsError WorldIdSignature

/-- `Number.isSafeInteger`. -/
def isSafeInteger (value : ℚ) : Bool :=
  value.isInt && decide (-9007199254740991 ≤ value) && decide (value ≤ 9007199254740991)

/-- The times are whole seconds, and the request lasts as long as it was asked to. -/
structure WorldIdLibrary.SignsForTtl (library : WorldIdLibrary) : Prop where
  lifetime : ∀ {signingKeyHex action ttl signature},
    library.signRequest signingKeyHex action ttl = .ok signature →
      signature.expiresAt - signature.createdAt = ttl
  seconds : ∀ {signingKeyHex action ttl signature},
    library.signRequest signingKeyHex action ttl = .ok signature →
      isSafeInteger signature.createdAt = true ∧ isSafeInteger signature.expiresAt = true

/-! ## Request material -/

structure CreateWorldIdProviderRequestOptions where
  appId : JsString
  rpId : JsString
  action : JsString
  environment : WorldIdEnvironment
  signingKeyHex : JsString
  binding : HumanBinding
  allowLegacyProofs : Option Bool
  ttlSeconds : Option ℚ

section Material

variable (library : WorldIdLibrary)

def createWorldIdProviderRequest (options : CreateWorldIdProviderRequestOptions) :
    Except JsError WorldIdProviderRequest :=
  if !(js "app_").isPrefixOf options.appId then
    .error ⟨js "World provider request requires an app_ ID"⟩
  else if !(js "rp_").isPrefixOf options.rpId then
    .error ⟨js "World provider request requires an rp_ ID"⟩
  else if options.action.isEmpty || options.binding.value.isEmpty then
    .error ⟨js "World provider request requires an action and binding"⟩
  else
    let ttlSeconds := options.ttlSeconds.getD 300
    if !ttlSeconds.isInt || ttlSeconds < 30 || 900 < ttlSeconds then
      .error ⟨js "World RP request TTL must be between 30 and 900 seconds"⟩
    else do
      let signature ← library.signRequest options.signingKeyHex options.action ttlSeconds
      return {
        appId := options.appId
        rpId := options.rpId
        action := options.action
        environment := options.environment
        allowLegacyProofs := options.allowLegacyProofs.getD false
        signal := options.binding.value
        signalHash := library.hashSignal options.binding.value
        rpContext := {
          rp_id := options.rpId
          nonce := signature.nonce
          created_at := signature.createdAt
          expires_at := signature.expiresAt
          signature := signature.sig } }

def createWorldIdProviderRequests (options : CreateWorldIdProviderRequestOptions) :
    Except JsError (List (JsString × WorldIdProviderRequest)) := do
  let providerRequest ← createWorldIdProviderRequest library options
  return (WORLD_ID_METHOD_KEY, providerRequest) ::
    if providerRequest.allowLegacyProofs then
      [(WORLD_ID_LEGACY_METHOD_KEY, providerRequest)] else []

end Material

/-! ## The adapter -/

structure WorldIdAdapterOptions where
  appId : Option JsString
  rpId : JsString
  action : JsString
  environment : WorldIdEnvironment
  allowLegacyProofs : Option Bool

/-- Of `proof_of_human` and `orb`, what an accepted proof says. -/
structure NativeProofCandidate where
  descriptor : HumanMethodDescriptor
  identifier : JsString
  assuranceLevel : JsString
  nativeNullifier : JsString
  deriving DecidableEq

def fullText (value : Option Json) : Option JsString :=
  (stringValue value).filter fun text => !text.isEmpty

section NativeProof

variable (library : WorldIdLibrary)

def isHumanResponse (response : Json) : Bool :=
  (match memberOf (js "proof") response with
    | some (.array proof) => !proof.isEmpty
    | _ => false) &&
  numberValue (memberOf (js "issuer_schema_id") response) == some 1

def isOrbResponse (response : Json) : Bool :=
  (fullText (memberOf (js "proof") response)).isSome &&
    (fullText (memberOf (js "merkle_root") response)).isSome

/-- The first response of a kind must be good; the others are not looked at. -/
def candidateFrom (responses : List Json) (signalHash identifier assuranceLevel : JsString)
    (descriptor : HumanMethodDescriptor) (good : Json → Bool) (message : JsString) :
    Except JsError NativeProofCandidate :=
  match responses.find? (hasIdentifier identifier) with
  | none => .error ⟨message⟩
  | some response =>
      match fullText (memberOf (js "nullifier") response) with
      | none => .error ⟨message⟩
      | some nullifier =>
          if memberText (js "signal_hash") response ≠ some signalHash || !good response then
            .error ⟨message⟩
          else .ok ⟨descriptor, identifier, assuranceLevel, nullifier⟩

def assertNativeProof (nativeProof : Json) (providerRequest : WorldIdProviderRequest)
    (expectedBinding : HumanBinding) : Except JsError NativeProofCandidate :=
  if memberText (js "action") nativeProof ≠ some providerRequest.action ∨
      memberText (js "environment") nativeProof ≠ some providerRequest.environment.text ∨
      memberText (js "nonce") nativeProof ≠ some providerRequest.rpContext.nonce then
    .error ⟨js "World proof does not match the signed provider request"⟩
  else
    match nativeResponses nativeProof with
    | none => .error ⟨js "World proof does not match the signed provider request"⟩
    | some responses =>
        if providerRequest.signal ≠ expectedBinding.value ∨
            providerRequest.signalHash ≠ library.hashSignal expectedBinding.value then
          .error ⟨js "World provider request is not bound to the x424 caller"⟩
        else if memberText (js "protocol_version") nativeProof = some (js "4.0") then
          candidateFrom responses providerRequest.signalHash (js "proof_of_human")
            (js "proof-of-human") WORLD_ID_PROOF_OF_HUMAN_METHOD isHumanResponse
            (js "World proof contains no valid Proof of Human response")
        else if memberText (js "protocol_version") nativeProof = some (js "3.0") then
          if !providerRequest.allowLegacyProofs then
            .error ⟨js "World provider request did not permit legacy proofs"⟩
          else
            candidateFrom responses providerRequest.signalHash (js "orb") (js "orb-legacy")
              WORLD_ID_LEGACY_ORB_METHOD isOrbResponse
              (js "World proof contains no valid legacy Orb response")
        else .error ⟨js "World proof uses an unsupported protocol version"⟩

end NativeProof

def isSuccess (value : Json) : Bool :=
  match memberOf (js "success") value with
  | some (.bool success) => success
  | _ => false

def isAcceptedResult (candidate : NativeProofCandidate) (result : Json) : Bool :=
  isSuccess result && hasIdentifier candidate.identifier result &&
    memberText (js "nullifier") result == some candidate.nativeNullifier

/-- The answer has a list of results, or the nullifier of the only one. -/
def acceptedRemoteResult (value : Json) (candidate : NativeProofCandidate)
    (providerRequest : WorldIdProviderRequest) : Except JsError JsString :=
  if !isSuccess value then .error ⟨js "World did not accept a unique-human proof"⟩
  else if memberText (js "action") value ≠ some providerRequest.action ∨
      memberText (js "environment") value ≠ some providerRequest.environment.text then
    .error ⟨js "World verification response has the wrong scope"⟩
  else
    match memberOf (js "results") value with
    | some (.array results) =>
        if results.any (isAcceptedResult candidate) then .ok candidate.nativeNullifier
        else .error ⟨js "World returned no accepted Proof of Human result"⟩
    | _ =>
        if memberText (js "nullifier") value = some candidate.nativeNullifier then
          .ok candidate.nativeNullifier
        else .error ⟨js "World returned no accepted Proof of Human result"⟩

/-- What the adapter is given besides its configuration; any of it may throw. -/
structure WorldIdSurroundings where
  numbers : JsNumbers
  library : WorldIdLibrary
  createHash : List UInt8 → List UInt8
  validateBinding : Option (Json → HumanBinding → Except JsError Bool)
  verifyRemote : Json → Except JsError Json
  /-- `now()`, as a text. -/
  now : JsString

def WorldIdSurroundings.applicationBinding (surroundings : WorldIdSurroundings) (nativeProof : Json)
    (expectedBinding : HumanBinding) : Except JsError Bool :=
  match surroundings.validateBinding with
  | none => .ok true
  | some validateBinding => validateBinding nativeProof expectedBinding

namespace WorldIdAdapter

/-- `new WorldIdAdapter(options)`. -/
def new (options : WorldIdAdapterOptions) : Except JsError WorldIdAdapterOptions :=
  if !(js "rp_").isPrefixOf options.rpId || options.action.isEmpty then
    .error ⟨js "World adapter requires an rp_ ID and action"⟩
  else .ok options

def methods : List HumanMethodDescriptor :=
  [WORLD_ID_PROOF_OF_HUMAN_METHOD, WORLD_ID_LEGACY_ORB_METHOD]

variable (options : WorldIdAdapterOptions)

def matchesProfile (library : WorldIdLibrary) (requirement : RequirementDocument)
    (providerRequest : WorldIdProviderRequest) : Bool :=
  options.appId.all (· == providerRequest.appId) && providerRequest.rpId == options.rpId &&
    providerRequest.rpContext.rp_id == options.rpId && providerRequest.action == options.action &&
    providerRequest.environment == options.environment &&
    providerRequest.signal == requirement.binding.value &&
    providerRequest.signalHash == library.hashSignal requirement.binding.value

def isLifetime (createdAt expiresAt : ℚ) : Bool :=
  isSafeInteger createdAt && isSafeInteger expiresAt && decide (createdAt < expiresAt) &&
    decide (30 ≤ expiresAt - createdAt) && decide (expiresAt - createdAt ≤ 900)

def validateProviderRequest (library : WorldIdLibrary) (requirement : RequirementDocument)
    (acceptedMethod : HumanMethodRequirement) (value : Option Json) : Except JsError Unit := do
  let providerRequest ← parseWorldIdProviderRequest value
  let acceptsCurrent := acceptedWorldMethod requirement.accepts WORLD_ID_PROOF_OF_HUMAN_METHOD
  let acceptsLegacy := acceptedWorldMethod requirement.accepts WORLD_ID_LEGACY_ORB_METHOD
  let legacyEnabled := options.allowLegacyProofs == some true
  if !matchesProfile options library requirement providerRequest then
    .error ⟨js "World provider request does not match the configured verifier profile"⟩
  else if !acceptsCurrent then
    .error ⟨js "A World Proof of Human ceremony requires the v4 method"⟩
  else if acceptsLegacy != providerRequest.allowLegacyProofs || (acceptsLegacy && !legacyEnabled) ||
      (acceptedMethod.methodId == WORLD_ID_LEGACY_ORB_METHOD.methodId && !legacyEnabled) then
    .error ⟨js "World provider request legacy policy does not match accepted methods"⟩
  else if !isLifetime providerRequest.rpContext.created_at providerRequest.rpContext.expires_at then
    .error ⟨js "World provider request lifetime is invalid"⟩
  else .ok ()

def labelsProof (providerRequest : WorldIdProviderRequest) (descriptor : HumanMethodDescriptor)
    (acceptedMethod : HumanMethodRequirement) (proof : HumanProofSubmission) : Bool :=
  providerRequest.rpId == options.rpId && providerRequest.rpContext.rp_id == options.rpId &&
    providerRequest.action == options.action &&
      providerRequest.environment == options.environment &&
    proof.providerId == descriptor.providerId && proof.methodId == descriptor.methodId &&
    acceptedMethod.descriptorVersion == descriptor.version &&
    (descriptor != WORLD_ID_LEGACY_ORB_METHOD || options.allowLegacyProofs == some true)

def verifiedHuman (surroundings : WorldIdSurroundings) (nativeProof response : Json)
    (descriptor : HumanMethodDescriptor) (candidate : NativeProofCandidate) (nullifier : JsString) :
    ProviderVerifiedHuman where
  providerId := WORLD_ID_PROOF_OF_HUMAN_METHOD.providerId
  methodId := descriptor.methodId
  descriptorVersion := descriptor.version
  assuranceLevel := some candidate.assuranceLevel
  providerSubject := nullifier
  uniquenessScope := ⟨.action, js "world:" ++ options.rpId ++ js ":" ++ options.action⟩
  verificationMode := .backend
  providerReplayMode := some (js "verifier")
  proofDigest := Canonical.sha256 surroundings.createHash
    (utf8 (canonicalJson surroundings.numbers nativeProof))
  verifiedAt := (memberText (js "created_at") response).getD surroundings.now
  expiresAt := none
  stateReferences := some [js "world:rp:" ++ options.rpId, js "world:action:" ++ options.action,
    js "world:environment:" ++ options.environment.text,
    js "world:credential:" ++ candidate.identifier]
  plain := true

def verify (surroundings : WorldIdSurroundings) (requirement : RequirementDocument)
    (acceptedMethod : HumanMethodRequirement) (proof : HumanProofSubmission) (nativeProof : Json) :
    Except JsError ProviderVerifiedHuman := do
  let providerRequest ← providerRequestFromRequirement surroundings.numbers requirement
    proof.methodId
  let descriptor ← descriptorForNativeProof nativeProof
  if !labelsProof options providerRequest descriptor acceptedMethod proof then
    .error ⟨js "Requirement does not match the configured World profile"⟩
  else do
    let candidate ← assertNativeProof surroundings.library nativeProof providerRequest
      requirement.binding
    let bound ← surroundings.applicationBinding nativeProof requirement.binding
    if !bound then .error ⟨js "World proof failed the application binding policy"⟩
    else do
      let response ← surroundings.verifyRemote nativeProof
      let nullifier ← acceptedRemoteResult response candidate providerRequest
      return verifiedHuman options surroundings nativeProof response descriptor candidate nullifier

end WorldIdAdapter

/-! ## The profile -/

structure WorldIdVerifierProfileOptions where
  appId : JsString
  rpId : JsString
  action : JsString
  environment : WorldIdEnvironment
  allowLegacyProofs : Option Bool
  signingKeyHex : JsString
  maximumProofAgeSeconds : Option Nat

def WorldIdVerifierProfileOptions.adapter (options : WorldIdVerifierProfileOptions) :
    WorldIdAdapterOptions where
  appId := some options.appId
  rpId := options.rpId
  action := options.action
  environment := options.environment
  allowLegacyProofs := options.allowLegacyProofs

structure WorldIdVerifierProfile where
  adapter : WorldIdAdapterOptions
  catalog : MethodCatalog
  accepts : List HumanMethodRequirement
  providerRequests : (binding : HumanBinding) → (accepts : List HumanMethodRequirement) →
    (ttlSeconds : ℚ) → Except JsError (List (JsString × WorldIdProviderRequest))

section Profile

variable (library : WorldIdLibrary) (options : WorldIdVerifierProfileOptions)

def profileProviderRequests (binding : HumanBinding) (accepts : List HumanMethodRequirement)
    (ttlSeconds : ℚ) : Except JsError (List (JsString × WorldIdProviderRequest)) :=
  let acceptsCurrent := acceptedWorldMethod accepts WORLD_ID_PROOF_OF_HUMAN_METHOD
  let acceptsLegacy := acceptedWorldMethod accepts WORLD_ID_LEGACY_ORB_METHOD
  if !acceptsCurrent then
    .error ⟨js "A World Proof of Human ceremony requires the v4 method"⟩
  else if acceptsLegacy && options.allowLegacyProofs != some true then
    .error ⟨js "World verifier profile has legacy proofs disabled"⟩
  else
    createWorldIdProviderRequests library {
      appId := options.appId
      rpId := options.rpId
      action := options.action
      environment := options.environment
      signingKeyHex := options.signingKeyHex
      binding := binding
      allowLegacyProofs := some acceptsLegacy
      ttlSeconds := some ttlSeconds }

def createWorldIdVerifierProfile : Except JsError WorldIdVerifierProfile := do
  let adapter ← WorldIdAdapter.new options.adapter
  let catalog ← defineMethodCatalog WorldIdAdapter.methods
  return {
    adapter := adapter
    catalog := catalog
    accepts := createWorldIdMethodRequirements options.allowLegacyProofs
      options.maximumProofAgeSeconds
    providerRequests := profileProviderRequests library options }

end Profile

end X424
