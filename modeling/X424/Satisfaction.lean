import X424.Policy
import X424.ProviderReplay
import X424.ResultToken
import X424.Service

/-!
# Issuing a result

`X424Service.satisfy` from the consumption of the nonce to the signed token.
What the adapter, the pairwise deriver and the signer answer is a parameter,
and each of them may throw.
-/

namespace X424

open Foundation

/--
What an adapter says of a verified proof.  Its objects need not be plain JSON;
`canonicalJson` throws for those that are not.
-/
structure ProviderVerifiedHuman where
  providerId : JsString
  methodId : JsString
  descriptorVersion : JsString
  assuranceLevel : Option JsString
  providerSubject : JsString
  uniquenessScope : UniquenessScope
  verificationMode : VerificationMode
  providerReplayMode : Option JsString
  proofDigest : JsString
  verifiedAt : JsString
  expiresAt : Option JsString
  stateReferences : Option (List JsString)
  plain : Bool
  deriving DecidableEq

structure ExternalPairwiseDeriver where
  derivePairwiseHumanId : (audience providerId methodId providerSubject : JsString) →
    Except JsError JsString
  deriveProviderReplayDigest : (providerId methodId : JsString) → (scope : UniquenessScope) →
    (providerSubject : JsString) → Except JsError JsString

structure IssuingOptions where
  runtime : Runtime
  pairwiseDeriver : ExternalPairwiseDeriver
  resultSigner : ResultSigner
  maximumResultTtlSeconds : Option Int

/-- One call of `satisfy`: the times that it reads and the answers it gets.
Timestamps that can be read, and the clock, are times that a `Date` can hold. -/
structure SatisfyCall where
  requirement : HumanRequirement
  isDate_expiresAt : ∀ expiresAt, requirement.expiresAt = some expiresAt → IsDate expiresAt
  proof : HumanProofSubmission
  challengeCheckedAt : Instant
  consumedAt : Instant
  verified : Except JsError ProviderVerifiedHuman
  issuedAt : Instant
  isDate_issuedAt : IsDate issuedAt
  randomUuid : JsString

/-! ## Checks -/

/-- `verified.expiresAt ? Date.parse(verified.expiresAt) : undefined`. -/
def ProviderVerifiedHuman.parsedExpiry (verified : ProviderVerifiedHuman) (dates : JsDates) :
    Option IsoTimestamp :=
  (verified.expiresAt.filter fun text => !text.isEmpty).map dates.parse

def HumanMethodRequirement.admits (accepted : HumanMethodRequirement)
    (verified : ProviderVerifiedHuman) : Bool :=
  accepted.acceptedScopeKinds.contains verified.uniquenessScope.kind &&
    (accepted.verificationModes.all fun modes => modes.contains verified.verificationMode) &&
    (accepted.assuranceLevel.all fun level => verified.assuranceLevel == some level)

def proofTimesValid (dates : JsDates) (verified : ProviderVerifiedHuman)
    (maximumProofAgeSeconds : Option Nat) (now : Instant) : Bool :=
  !isFuture (dates.parse verified.verifiedAt) now &&
    ((verified.parsedExpiry dates).all fun expiresAt => !isExpired expiresAt now) &&
    !proofStale maximumProofAgeSeconds (dates.parse verified.verifiedAt) now

def assertVerifiedOutput (dates : JsDates) (verified : ProviderVerifiedHuman)
    (requirement : HumanRequirement) (proof : HumanProofSubmission)
    (descriptor : HumanMethodDescriptor) (now : Instant) : Except JsError Unit := do
  if verified.providerId != proof.providerId || verified.methodId != proof.methodId ||
      verified.descriptorVersion != descriptor.version ||
      !descriptor.nativeScopeKinds.contains verified.uniquenessScope.kind ||
      !descriptor.verificationModes.contains verified.verificationMode ||
      (verified.providerReplayMode.any fun mode => mode != js "provider" &&
        mode != js "verifier") ||
      verified.providerSubject.isEmpty || verified.proofDigest.isEmpty then
    .error ⟨js "Provider adapter returned an incompatible human result"⟩
  else do
    let accepted ← acceptedMethodForProof requirement proof
    if !accepted.admits verified then
      .error ⟨js "Verified proof does not satisfy the accepted method"⟩
    else if verified.assuranceLevel.any fun level => !descriptor.assuranceLevels.contains level then
      .error ⟨js "Provider adapter returned an unknown assurance label"⟩
    else if !proofTimesValid dates verified accepted.maximumProofAgeSeconds now then
      .error ⟨js "Provider adapter returned an invalid proof time window"⟩
    else .ok ()

/-- `/^hmac-sha256:[A-Za-z0-9_-]{43}$/u`. -/
def isReplayDigest (text : JsString) : Bool :=
  text.take 12 == js "hmac-sha256:" && text.length == 55 && (text.drop 12).all isBase64UrlUnit

/-! ## The steps of `satisfy` -/

section Satisfy

variable (service : X424Service) (options : IssuingOptions) (call : SatisfyCall)

def replayEntry (verified : ProviderVerifiedHuman) :
    Except JsError (Option ProviderReplayEntry) :=
  if verified.providerReplayMode = some (js "verifier") then do
    let subjectDigest ← options.pairwiseDeriver.deriveProviderReplayDigest verified.providerId
      verified.methodId verified.uniquenessScope verified.providerSubject
    if !isReplayDigest subjectDigest then
      .error ⟨js "Pairwise deriver returned an invalid replay digest"⟩
    else .ok (some
      ⟨verified.providerId, verified.methodId, verified.uniquenessScope, subjectDigest⟩)
  else .ok none

def admitVerified (descriptor : HumanMethodDescriptor) :
    Except JsError (ProviderVerifiedHuman × Option ProviderReplayEntry) := do
  let verified ← call.verified
  assertRequirementCurrent call.requirement call.issuedAt
  assertVerifiedOutput options.runtime.dates verified call.requirement call.proof descriptor
    call.issuedAt
  let entry ← replayEntry options verified
  .ok (verified, entry)

/-- `Math.min` of the expiry of the requirement, that of the proof and the longest allowed one. -/
def expiresAtMs (verified : ProviderVerifiedHuman) : Int :=
  let latest := call.issuedAt + (options.maximumResultTtlSeconds.getD 300) * 1000
  let required := match call.requirement.expiresAt with
    | some expiresAt => min expiresAt latest
    | none => latest
  match verified.parsedExpiry options.runtime.dates with
  | some (some expiresAt) => min expiresAt required
  | _ => required

/-- `date.toISOString()` throws for a time that no `Date` can hold. -/
def toISOStringText (ms : Int) : Except JsError JsString :=
  if IsDate ms then .ok (dateText ms) else .error ⟨js "Invalid time value"⟩

def isPairwiseHumanId (text : JsString) : Bool :=
  text.take 11 == pairwisePrefix && decide (text.length ≤ 512)

def derivePairwiseHumanId (verified : ProviderVerifiedHuman) : Except JsError JsString := do
  let pairwiseHumanId ← options.pairwiseDeriver.derivePairwiseHumanId
    call.requirement.resource.audience verified.providerId verified.methodId
    verified.providerSubject
  if !isPairwiseHumanId pairwiseHumanId then
    .error ⟨js "Pairwise deriver returned an invalid identifier"⟩
  else .ok pairwiseHumanId

def resultDocument (descriptor : HumanMethodDescriptor) (verified : ProviderVerifiedHuman)
    (pairwiseHumanId : JsString) : ResultDocument where
  resultId := js "x424_result_" ++ call.randomUuid
  dependencyId := call.requirement.dependencyId
  purpose := call.requirement.purpose
  audience := call.requirement.resource.audience
  requestDigest := call.requirement.resource.requestDigest
  binding := call.requirement.binding
  providerId := verified.providerId
  methodId := verified.methodId
  descriptorVersion := verified.descriptorVersion
  assuranceLevel := verified.assuranceLevel.filter fun level => !level.isEmpty
  pairwiseHumanId := pairwiseHumanId
  uniquenessScope := verified.uniquenessScope
  verificationMode := verified.verificationMode
  proofDigest := verified.proofDigest
  claim := descriptor.claim
  nonClaims := descriptor.nonClaims
  verifiedAt := verified.verifiedAt
  issuedAt := dateText call.issuedAt
  expiresAt := dateText (expiresAtMs options call verified)
  stateReferences := verified.stateReferences

structure IssuedResult where
  result : ResultDocument
  token : JsString
  deriving DecidableEq

def issueResult (descriptor : HumanMethodDescriptor) (verified : ProviderVerifiedHuman) :
    Except JsError IssuedResult := do
  let pairwiseHumanId ← derivePairwiseHumanId options call verified
  let _ ← toISOStringText call.issuedAt
  let _ ← toISOStringText (expiresAtMs options call verified)
  let result := resultDocument options call descriptor verified pairwiseHumanId
  if !verified.plain then
    .error ⟨js "Value is not plain JSON; use opaque bytes or an explicit bodyInput kind"⟩
  else do
    let token ← signHumanResult options.runtime result options.resultSigner
    .ok ⟨result, token⟩

/-- `satisfy`, over the states of the nonce store and of the provider replay store. -/
def satisfy {σ : Type} (nonceStore : NonceStore σ) (replayStore : ProviderReplayStore)
    (s : σ) (spent : SpentKeys) : Except JsError IssuedResult × σ × SpentKeys :=
  match service.beginSatisfy nonceStore call.requirement call.proof call.challengeCheckedAt
      call.consumedAt s with
  | (.error error, s) => (.error error, s, spent)
  | (.ok (_, descriptor), s) =>
      match admitVerified options call descriptor with
      | .error error => (.error error, s, spent)
      | .ok (verified, none) => (issueResult options call descriptor verified, s, spent)
      | .ok (verified, some entry) =>
          match replayStore.consume entry spent with
          | (false, spent) =>
              (.error ⟨js "Provider uniqueness subject was already consumed"⟩, s, spent)
          | (true, spent) => (issueResult options call descriptor verified, s, spent)

end Satisfy

end X424
