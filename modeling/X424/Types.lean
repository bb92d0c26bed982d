import X424.Js.Text

/-!
# Protocol data

The records that the verifier, the resource server and the stores exchange.
Timestamps are represented by what `Date.parse` reads from them.
-/

namespace X424

/-- `X424_VERSION`. -/
def x424Version : JsString := js "0.1"

inductive VerificationMode where
  | backend
  | offchain
  | onchain
  | hybrid
  deriving DecidableEq, Repr

inductive UniquenessScopeKind where
  | global
  | relyingParty
  | action
  | session
  deriving DecidableEq, Repr

structure UniquenessScope where
  kind : UniquenessScopeKind
  id : JsString
  deriving DecidableEq, Repr

inductive MethodStatus where
  | enabled
  | disabled
  deriving DecidableEq, Repr

structure HumanMethodDescriptor where
  providerId : JsString
  methodId : JsString
  version : JsString
  status : MethodStatus
  claim : JsString
  nonClaims : List JsString
  assuranceLevels : List JsString
  nativeScopeKinds : List UniquenessScopeKind
  verificationModes : List VerificationMode
  deriving DecidableEq, Repr

structure HumanMethodRequirement where
  providerId : JsString
  methodId : JsString
  descriptorVersion : JsString
  assuranceLevel : Option JsString
  acceptedScopeKinds : List UniquenessScopeKind
  maximumProofAgeSeconds : Option Nat
  verificationModes : Option (List VerificationMode)
  deriving DecidableEq, Repr

inductive BindingKind where
  | request
  | wallet
  | agentKey
  | session
  deriving DecidableEq, Repr

structure HumanBinding where
  kind : BindingKind
  value : JsString
  deriving DecidableEq, Repr

structure ProtectedResource where
  method : JsString
  uri : JsString
  audience : JsString
  requestDigest : JsString
  deriving DecidableEq, Repr

/--
A server-issued requirement.  Of `providerRequests` only the keys are kept:
the material under them is opaque to the core.
-/
structure HumanRequirement where
  x424Version : JsString
  dependencyId : JsString
  purpose : JsString
  resource : ProtectedResource
  nonce : JsString
  binding : HumanBinding
  createdAt : IsoTimestamp
  expiresAt : IsoTimestamp
  accepts : List HumanMethodRequirement
  providerRequestKeys : List JsString
  deriving DecidableEq, Repr

/-- A proof submission; the native proof is opaque to the core and left out. -/
structure HumanProofSubmission where
  x424Version : JsString
  dependencyId : JsString
  providerId : JsString
  methodId : JsString
  binding : HumanBinding
  deriving DecidableEq, Repr

structure HumanResult where
  resultId : JsString
  dependencyId : JsString
  purpose : JsString
  audience : JsString
  requestDigest : JsString
  binding : HumanBinding
  providerId : JsString
  methodId : JsString
  descriptorVersion : JsString
  assuranceLevel : Option JsString
  uniquenessScope : UniquenessScope
  verificationMode : VerificationMode
  claim : JsString
  nonClaims : List JsString
  verifiedAt : IsoTimestamp
  issuedAt : IsoTimestamp
  expiresAt : IsoTimestamp
  deriving DecidableEq, Repr

structure ResultAcceptanceInput where
  resultId : JsString
  operationId : JsString
  requestDigest : JsString
  expiresAt : IsoTimestamp
  deriving DecidableEq, Repr

inductive ResultAcceptanceStatus where
  | new
  | sameOperation
  | replay
  deriving DecidableEq, Repr

/-- `methodKey` of `catalog.ts`. -/
def methodKey (providerId methodId : JsString) : JsString :=
  providerId ++ js ":" ++ methodId

end X424
