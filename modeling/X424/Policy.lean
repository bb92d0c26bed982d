import X424.Types

/-!
# Evaluation of an authenticated result

`policy.ts`: every way in which a result can fail to answer a requirement, in
the order in which the failures are reported.
-/

namespace X424

open Foundation

inductive HumanFailureCode where
  | dependencyMismatch
  | purposeMismatch
  | audienceMismatch
  | requestDigestMismatch
  | bindingMismatch
  | methodNotAccepted
  | methodUnknown
  | methodDisabled
  | descriptorVersionMismatch
  | scopeNotAccepted
  | verificationModeNotAccepted
  | assuranceNotAccepted
  | claimMismatch
  | futureTimestamp
  | expired
  | timeWindowInvalid
  | proofStale
  deriving DecidableEq, Repr

def HumanFailureCode.text : HumanFailureCode → JsString
  | dependencyMismatch => js "DEPENDENCY_MISMATCH"
  | purposeMismatch => js "PURPOSE_MISMATCH"
  | audienceMismatch => js "AUDIENCE_MISMATCH"
  | requestDigestMismatch => js "REQUEST_DIGEST_MISMATCH"
  | bindingMismatch => js "BINDING_MISMATCH"
  | methodNotAccepted => js "METHOD_NOT_ACCEPTED"
  | methodUnknown => js "METHOD_UNKNOWN"
  | methodDisabled => js "METHOD_DISABLED"
  | descriptorVersionMismatch => js "DESCRIPTOR_VERSION_MISMATCH"
  | scopeNotAccepted => js "SCOPE_NOT_ACCEPTED"
  | verificationModeNotAccepted => js "VERIFICATION_MODE_NOT_ACCEPTED"
  | assuranceNotAccepted => js "ASSURANCE_NOT_ACCEPTED"
  | claimMismatch => js "CLAIM_MISMATCH"
  | futureTimestamp => js "FUTURE_TIMESTAMP"
  | expired => js "EXPIRED"
  | timeWindowInvalid => js "TIME_WINDOW_INVALID"
  | proofStale => js "PROOF_STALE"

structure HumanFailure where
  code : HumanFailureCode
  detail : JsString
  deriving DecidableEq, Repr

/-- `failures.push(fail(code, detail))` under a condition. -/
def failIf (condition : Bool) (code : HumanFailureCode) (detail : JsString) :
    List HumanFailure :=
  if condition then [⟨code, detail⟩] else []

@[simp] theorem failIf_eq_nil {condition : Bool} {code : HumanFailureCode}
    {detail : JsString} : failIf condition code detail = [] ↔ condition = false := by
  cases condition <;> simp [failIf]

/-! ## The conditions on times -/

/-- `!Number.isFinite(value) || value > now`. -/
def isFuture (timestamp : IsoTimestamp) (now : Instant) : Bool :=
  match timestamp with
  | none => true
  | some value => now < value

/-- `!Number.isFinite(value) || value <= now`. -/
def isExpired (timestamp : IsoTimestamp) (now : Instant) : Bool :=
  match timestamp with
  | none => true
  | some value => value ≤ now

def timeWindowInvalid (requirement : HumanRequirement) (result : HumanResult) : Bool :=
  match requirement.createdAt, requirement.expiresAt, result.verifiedAt, result.issuedAt,
      result.expiresAt with
  | some requirementCreatedAt, some requirementExpiresAt, some verifiedAt, some issuedAt,
      some expiresAt =>
      issuedAt < verifiedAt || issuedAt < requirementCreatedAt ||
        requirementExpiresAt ≤ issuedAt || expiresAt ≤ issuedAt ||
        requirementExpiresAt < expiresAt
  | _, _, _, _, _ => true

theorem timeWindowInvalid_eq_false {requirement : HumanRequirement} {result : HumanResult} :
    timeWindowInvalid requirement result = false ↔
      ∃ requirementCreatedAt requirementExpiresAt verifiedAt issuedAt expiresAt,
        requirement.createdAt = some requirementCreatedAt ∧
        requirement.expiresAt = some requirementExpiresAt ∧
        result.verifiedAt = some verifiedAt ∧ result.issuedAt = some issuedAt ∧
        result.expiresAt = some expiresAt ∧
        verifiedAt ≤ issuedAt ∧ requirementCreatedAt ≤ issuedAt ∧
        issuedAt < requirementExpiresAt ∧ issuedAt < expiresAt ∧
        expiresAt ≤ requirementExpiresAt := by
  unfold timeWindowInvalid
  cases requirement.createdAt <;> cases requirement.expiresAt <;> cases result.verifiedAt <;>
    cases result.issuedAt <;> cases result.expiresAt <;>
    simp [and_assoc]

def proofStale (maximumProofAgeSeconds : Option Nat) (verifiedAt : IsoTimestamp)
    (now : Instant) : Bool :=
  match maximumProofAgeSeconds, verifiedAt with
  | some seconds, some verifiedAt => (seconds : Int) * 1000 < now - verifiedAt
  | _, _ => false

/-! ## The evaluation -/

def matchingMethod (requirement : HumanRequirement) (result : HumanResult) :
    Option HumanMethodRequirement :=
  requirement.accepts.find? fun candidate =>
    candidate.providerId == result.providerId && candidate.methodId == result.methodId

def acceptedMethodFailures (accepted : Option HumanMethodRequirement)
    (descriptor : Option HumanMethodDescriptor) (result : HumanResult) : List HumanFailure :=
  failIf
    (accepted.any (fun accepted => result.descriptorVersion != accepted.descriptorVersion) ||
      descriptor.any fun descriptor => result.descriptorVersion != descriptor.version)
    .descriptorVersionMismatch (js "Result uses another method descriptor version") ++
  failIf
    (accepted.any
        (fun accepted => !accepted.acceptedScopeKinds.contains result.uniquenessScope.kind) ||
      descriptor.any fun descriptor =>
        !descriptor.nativeScopeKinds.contains result.uniquenessScope.kind)
    .scopeNotAccepted (js "Provider uniqueness scope is not accepted") ++
  failIf
    (accepted.any
        (fun accepted => accepted.verificationModes.any
          fun modes => !modes.contains result.verificationMode) ||
      descriptor.any fun descriptor =>
        !descriptor.verificationModes.contains result.verificationMode)
    .verificationModeNotAccepted (js "Verification mode is not accepted") ++
  failIf
    (accepted.any
        (fun accepted => accepted.assuranceLevel.isSome &&
          accepted.assuranceLevel != result.assuranceLevel) ||
      descriptor.any fun descriptor => result.assuranceLevel.any
        fun level => !descriptor.assuranceLevels.contains level)
    .assuranceNotAccepted (js "Provider-local assurance label is not accepted") ++
  failIf
    (descriptor.any fun descriptor =>
      result.claim != descriptor.claim || result.nonClaims != descriptor.nonClaims)
    .claimMismatch (js "Result changed the method claim or non-claims")

/-- The failures that `evaluateHumanResult` reports; the result satisfies the
requirement when there is none. -/
def evaluateHumanResult (requirement : HumanRequirement) (result : HumanResult)
    (catalog : JsString → Option HumanMethodDescriptor) (now : Instant) :
    List HumanFailure :=
  let accepted := matchingMethod requirement result
  let descriptor := catalog (methodKey result.providerId result.methodId)
  failIf (result.dependencyId != requirement.dependencyId)
    .dependencyMismatch (js "Result is for another dependency") ++
  failIf (result.purpose != requirement.purpose)
    .purposeMismatch (js "Result purpose does not match") ++
  failIf (result.audience != requirement.resource.audience)
    .audienceMismatch (js "Result audience does not match") ++
  failIf (result.requestDigest != requirement.resource.requestDigest)
    .requestDigestMismatch (js "Result is bound to another request") ++
  failIf (result.binding != requirement.binding)
    .bindingMismatch (js "Caller binding does not match") ++
  failIf accepted.isNone
    .methodNotAccepted (methodKey result.providerId result.methodId ++
      js " was not explicitly accepted") ++
  failIf descriptor.isNone .methodUnknown (js "Result names an unknown method") ++
  failIf (descriptor.any fun descriptor => descriptor.status != .enabled)
    .methodDisabled (js "Result method is disabled") ++
  acceptedMethodFailures accepted descriptor result ++
  failIf (isFuture result.verifiedAt now || isFuture result.issuedAt now)
    .futureTimestamp (js "Result timestamps are invalid") ++
  failIf (isExpired result.expiresAt now) .expired (js "Result has expired") ++
  failIf (timeWindowInvalid requirement result)
    .timeWindowInvalid (js "Result time window is inconsistent with the dependency") ++
  failIf (accepted.any fun accepted =>
      proofStale accepted.maximumProofAgeSeconds result.verifiedAt now)
    .proofStale (js "Human proof exceeds maximum age")

section Satisfied

variable {requirement : HumanRequirement} {result : HumanResult}
  {catalog : JsString → Option HumanMethodDescriptor} {now : Instant}

theorem dependencyId_of_satisfied
    (h : evaluateHumanResult requirement result catalog now = []) :
    result.dependencyId = requirement.dependencyId := by
  simp only [evaluateHumanResult, List.append_eq_nil_iff, failIf_eq_nil, bne_eq_false_iff_eq] at h
  tauto

theorem requestDigest_of_satisfied
    (h : evaluateHumanResult requirement result catalog now = []) :
    result.requestDigest = requirement.resource.requestDigest := by
  simp only [evaluateHumanResult, List.append_eq_nil_iff, failIf_eq_nil, bne_eq_false_iff_eq] at h
  tauto

theorem expiresAt_le_of_satisfied
    (h : evaluateHumanResult requirement result catalog now = []) {e : Instant}
    (hexpires : result.expiresAt = some e) :
    ∃ expiresAt, requirement.expiresAt = some expiresAt ∧ e ≤ expiresAt := by
  simp only [evaluateHumanResult, List.append_eq_nil_iff, failIf_eq_nil] at h
  have hwindow : timeWindowInvalid requirement result = false := by tauto
  obtain ⟨_, requirementExpiresAt, _, _, expiresAt, _, hrequirement, _, _, hresult, htimes⟩ :=
    timeWindowInvalid_eq_false.mp hwindow
  rw [hexpires, Option.some.injEq] at hresult
  subst hresult
  exact ⟨requirementExpiresAt, hrequirement, htimes.2.2.2.2⟩

theorem isFuture_later {timestamp : IsoTimestamp} {later : Instant} (hle : now ≤ later)
    (h : isFuture timestamp now = false) : isFuture timestamp later = false := by
  cases timestamp with
  | none => exact h
  | some value =>
      simp only [isFuture, decide_eq_false_iff_not] at h ⊢
      exact Int.not_lt.mpr (Int.le_trans (Int.not_lt.mp h) hle)

theorem satisfied_later {later : Instant}
    (h : evaluateHumanResult requirement result catalog now = []) (hle : now ≤ later)
    (hexpired : isExpired result.expiresAt later = false)
    (hfresh : ((matchingMethod requirement result).any fun accepted =>
      proofStale accepted.maximumProofAgeSeconds result.verifiedAt later) = false) :
    evaluateHumanResult requirement result catalog later = [] := by
  simp only [evaluateHumanResult, List.append_eq_nil_iff, failIf_eq_nil, Bool.or_eq_false_iff]
    at h ⊢
  obtain ⟨⟨⟨⟨hrest, hverified, hissued⟩, _⟩, hwindow⟩, _⟩ := h
  exact ⟨⟨⟨⟨hrest, isFuture_later hle hverified, isFuture_later hle hissued⟩, hexpired⟩, hwindow⟩,
    hfresh⟩

end Satisfied

end X424
