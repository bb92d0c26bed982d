import X424.Policy

/-!
# What a satisfied requirement means

`evaluateHumanResult` reports nothing if and only if the result answers the
requirement in every respect.
-/

namespace X424

open Foundation

structure HumanMethodRequirement.Admits (accepted : HumanMethodRequirement) (result : HumanResult)
    (now : Instant) : Prop where
  descriptorVersion : result.descriptorVersion = accepted.descriptorVersion
  scopeKind : result.uniquenessScope.kind ∈ accepted.acceptedScopeKinds
  verificationMode : ∀ modes ∈ accepted.verificationModes, result.verificationMode ∈ modes
  assuranceLevel : ∀ level ∈ accepted.assuranceLevel, result.assuranceLevel = some level
  fresh : ∀ seconds ∈ accepted.maximumProofAgeSeconds, ∀ verifiedAt ∈ result.verifiedAt,
    now - verifiedAt ≤ (seconds : Int) * 1000

structure HumanMethodDescriptor.Describes (descriptor : HumanMethodDescriptor)
    (result : HumanResult) : Prop where
  status : descriptor.status = .enabled
  version : result.descriptorVersion = descriptor.version
  scopeKind : result.uniquenessScope.kind ∈ descriptor.nativeScopeKinds
  verificationMode : result.verificationMode ∈ descriptor.verificationModes
  assuranceLevel : ∀ level ∈ result.assuranceLevel, level ∈ descriptor.assuranceLevels
  claim : result.claim = descriptor.claim
  nonClaims : result.nonClaims = descriptor.nonClaims

structure ResultTimes where
  createdAt : Instant
  requirementExpiresAt : Instant
  verifiedAt : Instant
  issuedAt : Instant
  expiresAt : Instant

/-- The texts denote these times, and they are in order at `now`. -/
structure ResultTimes.Fit (times : ResultTimes) (requirement : HumanRequirement)
    (result : HumanResult) (now : Instant) : Prop where
  createdAt : requirement.createdAt = some times.createdAt
  requirementExpiresAt : requirement.expiresAt = some times.requirementExpiresAt
  verifiedAt : result.verifiedAt = some times.verifiedAt
  issuedAt : result.issuedAt = some times.issuedAt
  expiresAt : result.expiresAt = some times.expiresAt
  created_le_issued : times.createdAt ≤ times.issuedAt
  verified_le_issued : times.verifiedAt ≤ times.issuedAt
  issued_le_now : times.issuedAt ≤ now
  now_lt_expires : now < times.expiresAt
  expires_le : times.expiresAt ≤ times.requirementExpiresAt

structure Satisfies (requirement : HumanRequirement) (result : HumanResult)
    (catalog : JsString → Option HumanMethodDescriptor) (now : Instant) : Prop where
  dependencyId : result.dependencyId = requirement.dependencyId
  purpose : result.purpose = requirement.purpose
  audience : result.audience = requirement.resource.audience
  requestDigest : result.requestDigest = requirement.resource.requestDigest
  binding : result.binding = requirement.binding
  accepted : ∃ accepted, matchingMethod requirement result = some accepted ∧
    accepted.Admits result now
  descriptor : ∃ descriptor, catalog (methodKey result.providerId result.methodId) =
    some descriptor ∧ descriptor.Describes result
  times : ∃ times : ResultTimes, times.Fit requirement result now

variable {requirement : HumanRequirement} {result : HumanResult}
  {catalog : JsString → Option HumanMethodDescriptor} {now : Instant}

/-! ## The parts of the evaluation -/

theorem proofStale_eq_false {maximumProofAgeSeconds : Option Nat} {verifiedAt : IsoTimestamp} :
    proofStale maximumProofAgeSeconds verifiedAt now = false ↔
      ∀ seconds ∈ maximumProofAgeSeconds, ∀ value ∈ verifiedAt,
        now - value ≤ (seconds : Int) * 1000 := by
  cases maximumProofAgeSeconds with
  | none => simp [proofStale]
  | some seconds =>
      cases verifiedAt with
      | none => simp [proofStale]
      | some value => simp [proofStale]

theorem acceptedMethodFailures_eq_nil {accepted : HumanMethodRequirement}
    {descriptor : HumanMethodDescriptor} :
    acceptedMethodFailures (some accepted) (some descriptor) result = [] ↔
      (result.descriptorVersion = accepted.descriptorVersion ∧
        result.descriptorVersion = descriptor.version) ∧
      (result.uniquenessScope.kind ∈ accepted.acceptedScopeKinds ∧
        result.uniquenessScope.kind ∈ descriptor.nativeScopeKinds) ∧
      ((∀ modes ∈ accepted.verificationModes, result.verificationMode ∈ modes) ∧
        result.verificationMode ∈ descriptor.verificationModes) ∧
      ((∀ level ∈ accepted.assuranceLevel, result.assuranceLevel = some level) ∧
        ∀ level ∈ result.assuranceLevel, level ∈ descriptor.assuranceLevels) ∧
      result.claim = descriptor.claim ∧ result.nonClaims = descriptor.nonClaims := by
  have hmodes : (accepted.verificationModes.any
      fun modes => !modes.contains result.verificationMode) = false ↔
        ∀ modes ∈ accepted.verificationModes, result.verificationMode ∈ modes := by
    cases accepted.verificationModes <;> simp
  have hlevel : (accepted.assuranceLevel.isSome &&
      accepted.assuranceLevel != result.assuranceLevel) = false ↔
        ∀ level ∈ accepted.assuranceLevel, result.assuranceLevel = some level := by
    cases accepted.assuranceLevel with
    | none => simp
    | some level => simpa using eq_comm
  have hlabel : (result.assuranceLevel.any
      fun level => !descriptor.assuranceLevels.contains level) = false ↔
        ∀ level ∈ result.assuranceLevel, level ∈ descriptor.assuranceLevels := by
    cases result.assuranceLevel <;> simp
  simp only [acceptedMethodFailures, List.append_eq_nil_iff, failIf_eq_nil, Option.any_some,
    Bool.or_eq_false_iff, bne_eq_false_iff_eq, Bool.not_eq_false', List.contains_iff_mem, hmodes,
    hlevel, hlabel, and_assoc]

theorem times_eq_false :
    ((isFuture result.verifiedAt now || isFuture result.issuedAt now) = false ∧
        isExpired result.expiresAt now = false) ∧ timeWindowInvalid requirement result = false ↔
      ∃ times : ResultTimes, times.Fit requirement result now := by
  rw [timeWindowInvalid_eq_false, Bool.or_eq_false_iff]
  constructor
  · rintro ⟨⟨⟨-, hissued⟩, hexpired⟩, createdAt, requirementExpiresAt, verifiedAt, issuedAt,
      expiresAt, hcreatedAt, hrequirement, hverifiedAt, hissuedAt, hexpiresAt, hverified,
      hcreated, -, -, hexpires⟩
    rw [hissuedAt, isFuture, decide_eq_false_iff_not] at hissued
    rw [hexpiresAt, isExpired, decide_eq_false_iff_not] at hexpired
    exact ⟨⟨createdAt, requirementExpiresAt, verifiedAt, issuedAt, expiresAt⟩, hcreatedAt,
      hrequirement, hverifiedAt, hissuedAt, hexpiresAt, hcreated, hverified,
      Int.not_lt.mp hissued, Int.not_le.mp hexpired, hexpires⟩
  · rintro ⟨times, h⟩
    have hlive : times.issuedAt < times.expiresAt :=
      Int.lt_of_le_of_lt h.issued_le_now h.now_lt_expires
    refine ⟨⟨⟨?_, ?_⟩, ?_⟩, _, _, _, _, _, h.createdAt, h.requirementExpiresAt, h.verifiedAt,
      h.issuedAt, h.expiresAt, h.verified_le_issued, h.created_le_issued,
      Int.lt_of_lt_of_le hlive h.expires_le, hlive, h.expires_le⟩
    · rw [h.verifiedAt, isFuture, decide_eq_false_iff_not]
      exact Int.not_lt.mpr (Int.le_trans h.verified_le_issued h.issued_le_now)
    · rw [h.issuedAt, isFuture, decide_eq_false_iff_not]
      exact Int.not_lt.mpr h.issued_le_now
    · rw [h.expiresAt, isExpired, decide_eq_false_iff_not]
      exact Int.not_le.mpr h.now_lt_expires

/-! ## The whole evaluation -/

theorem evaluateHumanResult_eq_nil :
    evaluateHumanResult requirement result catalog now = [] ↔
      Satisfies requirement result catalog now := by
  simp only [evaluateHumanResult, List.append_eq_nil_iff, failIf_eq_nil, bne_eq_false_iff_eq]
  cases hmethod : matchingMethod requirement result with
  | none =>
      refine ⟨fun h => ?_, fun h => ?_⟩
      · simp at h
      · obtain ⟨_, hfound, -⟩ := h.accepted
        rw [hmethod] at hfound
        cases hfound
  | some accepted =>
      cases hdescriptor : catalog (methodKey result.providerId result.methodId) with
      | none =>
          refine ⟨fun h => ?_, fun h => ?_⟩
          · simp at h
          · obtain ⟨_, hfound, -⟩ := h.descriptor
            rw [hdescriptor] at hfound
            cases hfound
      | some descriptor =>
          simp only [acceptedMethodFailures_eq_nil, Option.any_some, proofStale_eq_false,
            bne_eq_false_iff_eq, Option.isNone_some, and_true]
          constructor
          · rintro ⟨⟨⟨⟨⟨⟨⟨⟨⟨⟨hdependency, hpurpose⟩, haudience⟩, hdigest⟩, hbinding⟩, hstatus⟩,
              ⟨haccepted, hversion⟩, ⟨hkind, hnative⟩, ⟨hmodes, hmode⟩, ⟨hlevel, hlabel⟩, hclaim,
              hnonClaims⟩, hfuture⟩, hexpired⟩, hwindow⟩, hfresh⟩
            exact ⟨hdependency, hpurpose, haudience, hdigest, hbinding,
              ⟨accepted, hmethod, haccepted, hkind, hmodes, hlevel, hfresh⟩,
              ⟨descriptor, hdescriptor, hstatus, hversion, hnative, hmode, hlabel, hclaim,
                hnonClaims⟩,
              times_eq_false.mp ⟨⟨hfuture, hexpired⟩, hwindow⟩⟩
          · intro h
            obtain ⟨other, hother, hadmits⟩ := h.accepted
            obtain ⟨described, hfound, hdescribes⟩ := h.descriptor
            cases hmethod.symm.trans hother
            cases hdescriptor.symm.trans hfound
            obtain ⟨⟨hfuture, hexpired⟩, hwindow⟩ := times_eq_false.mpr h.times
            exact ⟨⟨⟨⟨⟨⟨⟨⟨⟨⟨h.dependencyId, h.purpose⟩, h.audience⟩, h.requestDigest⟩, h.binding⟩,
              hdescribes.status⟩, ⟨hadmits.descriptorVersion, hdescribes.version⟩,
              ⟨hadmits.scopeKind, hdescribes.scopeKind⟩,
              ⟨hadmits.verificationMode, hdescribes.verificationMode⟩,
              ⟨hadmits.assuranceLevel, hdescribes.assuranceLevel⟩, hdescribes.claim,
              hdescribes.nonClaims⟩, hfuture⟩, hexpired⟩, hwindow⟩, hadmits.fresh⟩

end X424
