import X424.Catalog
import X424.Schemas.Reading

/-!
# World methods and their request material

`providers/world-id-shared.ts`: the two methods that one World ceremony may
produce, and the material that a requirement holds under their keys.
-/

namespace X424

/-! ## Methods -/

def WORLD_ID_PROOF_OF_HUMAN_METHOD : HumanMethodDescriptor where
  providerId := js "world"
  methodId := js "proof-of-human"
  version := js "1"
  status := .enabled
  claim := js ("World accepted its Proof of Human uniqueness method for the configured relying " ++
    "party and action.")
  nonClaims := [js "Civil or legal identity",
    js "The human's name, age, nationality, or address",
    js "Continuous human presence after verification",
    js "Ownership of an agent, wallet, account, or transaction",
    js "Authorization for any relying-party action beyond the bound dependency",
    js "Equivalence to any non-World unique-human method"]
  assuranceLevels := [js "proof-of-human"]
  nativeScopeKinds := [.action]
  verificationModes := [.backend]

def WORLD_ID_LEGACY_ORB_METHOD : HumanMethodDescriptor where
  providerId := js "world"
  methodId := js "orb-legacy"
  version := js "1"
  status := .enabled
  claim := js ("World accepted a legacy World ID 3.0 Orb uniqueness proof for the configured " ++
    "relying party and action.")
  nonClaims := [js "Civil or legal identity",
    js "The human's name, age, nationality, or address",
    js "Continuous human presence after verification",
    js "Ownership of an agent, wallet, account, or transaction",
    js "Authorization for any relying-party action beyond the bound dependency",
    js "Equivalence to World ID 4 Proof of Human or any non-World method",
    js "Cross-version deduplication against a World ID 4 nullifier"]
  assuranceLevels := [js "orb-legacy"]
  nativeScopeKinds := [.action]
  verificationModes := [.backend]

def HumanMethodDescriptor.key (descriptor : HumanMethodDescriptor) : JsString :=
  methodKey descriptor.providerId descriptor.methodId

def WORLD_ID_METHOD_KEY : JsString := WORLD_ID_PROOF_OF_HUMAN_METHOD.key

def WORLD_ID_LEGACY_METHOD_KEY : JsString := WORLD_ID_LEGACY_ORB_METHOD.key

/-- Both method requirements differ in the descriptor and in its assurance level only. -/
def worldMethodRequirement (descriptor : HumanMethodDescriptor) (assuranceLevel : JsString)
    (maximumProofAgeSeconds : Option Nat) : HumanMethodRequirement where
  providerId := descriptor.providerId
  methodId := descriptor.methodId
  descriptorVersion := descriptor.version
  assuranceLevel := some assuranceLevel
  acceptedScopeKinds := [.action]
  maximumProofAgeSeconds := maximumProofAgeSeconds
  verificationModes := some [.backend]

def createWorldIdMethodRequirement (maximumProofAgeSeconds : Option Nat) : HumanMethodRequirement :=
  worldMethodRequirement WORLD_ID_PROOF_OF_HUMAN_METHOD (js "proof-of-human") maximumProofAgeSeconds

def createWorldIdLegacyMethodRequirement (maximumProofAgeSeconds : Option Nat) :
    HumanMethodRequirement :=
  worldMethodRequirement WORLD_ID_LEGACY_ORB_METHOD (js "orb-legacy") maximumProofAgeSeconds

def createWorldIdMethodRequirements (allowLegacyProofs : Option Bool)
    (maximumProofAgeSeconds : Option Nat) : List HumanMethodRequirement :=
  createWorldIdMethodRequirement maximumProofAgeSeconds ::
    if allowLegacyProofs = some true then
      [createWorldIdLegacyMethodRequirement maximumProofAgeSeconds]
    else []

def HumanMethodRequirement.isFor (descriptor : HumanMethodDescriptor)
    (method : HumanMethodRequirement) : Bool :=
  method.providerId == descriptor.providerId && method.methodId == descriptor.methodId &&
    method.descriptorVersion == descriptor.version

/-- `acceptedWorldMethod`, which sees of a requirement what it accepts. -/
def acceptedWorldMethod (accepts : List HumanMethodRequirement)
    (descriptor : HumanMethodDescriptor) : Bool :=
  accepts.any (HumanMethodRequirement.isFor descriptor)

/-! ## Request material -/

inductive WorldIdEnvironment where
  | production
  | staging
  deriving DecidableEq, Repr

def WorldIdEnvironment.text : WorldIdEnvironment → JsString
  | .production => js "production"
  | .staging => js "staging"

structure WorldIdRpContext where
  rp_id : JsString
  nonce : JsString
  created_at : ℚ
  expires_at : ℚ
  signature : JsString
  deriving DecidableEq

structure WorldIdProviderRequest where
  appId : JsString
  rpId : JsString
  action : JsString
  environment : WorldIdEnvironment
  allowLegacyProofs : Bool
  signal : JsString
  signalHash : JsString
  rpContext : WorldIdRpContext
  deriving DecidableEq

def WorldIdRpContext.toJson (context : WorldIdRpContext) : Json :=
  .object [(js "rp_id", .string context.rp_id), (js "nonce", .string context.nonce),
    (js "created_at", .number context.created_at), (js "expires_at", .number context.expires_at),
    (js "signature", .string context.signature)]

def WorldIdProviderRequest.toJson (request : WorldIdProviderRequest) : Json :=
  .object [(js "appId", .string request.appId), (js "rpId", .string request.rpId),
    (js "action", .string request.action), (js "environment", .string request.environment.text),
    (js "preset", .string (js "proof_of_human")),
    (js "allowLegacyProofs", .bool request.allowLegacyProofs),
    (js "signal", .string request.signal), (js "signalHash", .string request.signalHash),
    (js "rpContext", request.rpContext.toJson)]

/-- `typeof value === "string"`. -/
def stringValue : Option Json → Option JsString
  | some (.string text) => some text
  | _ => none

def numberValue : Option Json → Option ℚ
  | some (.number value) => some value
  | _ => none

def isRecord : Json → Bool
  | .object _ => true
  | _ => false

/-- An absent member is `false`; what is not a truth value is refused. -/
def legacyFlag : Option Json → Option Bool
  | none => some false
  | some (.bool value) => some value
  | _ => none

def worldEnvironment (value : Option Json) : Option WorldIdEnvironment :=
  if stringValue value = some (js "production") then some .production
  else if stringValue value = some (js "staging") then some .staging
  else none

def readRpContext (value : Option Json) : Option WorldIdRpContext := do
  let context ← value.filter isRecord
  return {
    rp_id := ← stringValue (memberOf (js "rp_id") context)
    nonce := ← stringValue (memberOf (js "nonce") context)
    created_at := ← numberValue (memberOf (js "created_at") context)
    expires_at := ← numberValue (memberOf (js "expires_at") context)
    signature := ← stringValue (memberOf (js "signature") context) }

def readProviderRequest (value : Option Json) : Option WorldIdProviderRequest := do
  let request ← value.filter isRecord
  if stringValue (memberOf (js "preset") request) ≠ some (js "proof_of_human") then none
  else return {
    appId := ← stringValue (memberOf (js "appId") request)
    rpId := ← stringValue (memberOf (js "rpId") request)
    action := ← stringValue (memberOf (js "action") request)
    environment := ← worldEnvironment (memberOf (js "environment") request)
    allowLegacyProofs := ← legacyFlag (memberOf (js "allowLegacyProofs") request)
    signal := ← stringValue (memberOf (js "signal") request)
    signalHash := ← stringValue (memberOf (js "signalHash") request)
    rpContext := ← readRpContext (memberOf (js "rpContext") request) }

def parseWorldIdProviderRequest (value : Option Json) : Except JsError WorldIdProviderRequest :=
  match readProviderRequest value with
  | some request => .ok request
  | none => .error ⟨js "Requirement has invalid World provider request material"⟩

def spreadProviderRequest (value : Option Json) (request : WorldIdProviderRequest) : Json :=
  match value with
  | some (.object members) =>
      .object (assignMember members (js "allowLegacyProofs", .bool request.allowLegacyProofs))
  | _ => request.toJson

/-- `requirement.providerRequests?.[key]`. -/
def RequirementDocument.providerRequest (requirement : RequirementDocument) (key : JsString) :
    Option Json :=
  requirement.providerRequests.bind (·.lookup key)

def providerRequestFromRequirement (numbers : JsNumbers) (requirement : RequirementDocument)
    (methodId : JsString) : Except JsError WorldIdProviderRequest := do
  let key := methodKey WORLD_ID_PROOF_OF_HUMAN_METHOD.providerId methodId
  let value := requirement.providerRequest key
  let providerRequest ← parseWorldIdProviderRequest value
  let otherKey := if key = WORLD_ID_METHOD_KEY then WORLD_ID_LEGACY_METHOD_KEY
    else WORLD_ID_METHOD_KEY
  match requirement.providerRequest otherKey with
  | none => .ok providerRequest
  | some otherValue => do
      let other ← parseWorldIdProviderRequest (some otherValue)
      if canonicalJson numbers (spreadProviderRequest (some otherValue) other) ≠
          canonicalJson numbers (spreadProviderRequest value providerRequest) then
        .error ⟨js "World methods contain inconsistent provider requests"⟩
      else .ok providerRequest

/-! ## Native proofs -/

def memberText (name : JsString) (value : Json) : Option JsString :=
  stringValue (memberOf name value)

def nativeResponses (nativeProof : Json) : Option (List Json) :=
  match memberOf (js "responses") nativeProof with
  | some (.array responses) => some responses
  | _ => none

def hasIdentifier (identifier : JsString) (response : Json) : Bool :=
  memberText (js "identifier") response == some identifier

def descriptorForNativeProof (nativeProof : Json) : Except JsError HumanMethodDescriptor :=
  match nativeResponses nativeProof with
  | none => .error ⟨js "World proof has an invalid result shape"⟩
  | some responses =>
      if memberText (js "protocol_version") nativeProof = some (js "4.0") ∧
          responses.any (hasIdentifier (js "proof_of_human")) = true then
        .ok WORLD_ID_PROOF_OF_HUMAN_METHOD
      else if memberText (js "protocol_version") nativeProof = some (js "3.0") ∧
          responses.any (hasIdentifier (js "orb")) = true then
        .ok WORLD_ID_LEGACY_ORB_METHOD
      else .error ⟨js "World proof contains no supported unique-human method"⟩

end X424
