import X424.ProofHeader
import X424.Providers.WorldProfile
import X424.SingleUse

/-!
# The two paths of a World proof

A World ceremony may return a proof of either World method.  A browser that has
collected the proof itself labels it by its kind; a handoff submits it under the
method that it was started with.
-/

namespace X424

open Foundation

/-! ## Submissions -/

/-- `createWorldIdProofResolver`, with the proof that the ceremony returns. -/
def resolveWorldProof (numbers : JsNumbers) (requirement : RequirementDocument)
    (nativeProof : Json) : Except JsError HumanMethodDescriptor :=
  if !acceptedWorldMethod requirement.accepts WORLD_ID_PROOF_OF_HUMAN_METHOD then
    .error ⟨js "A World Proof of Human ceremony requires the v4 method"⟩
  else do
    let providerRequest ← providerRequestFromRequirement numbers requirement
      WORLD_ID_PROOF_OF_HUMAN_METHOD.methodId
    let descriptor ← descriptorForNativeProof nativeProof
    if !acceptedWorldMethod requirement.accepts descriptor then
      .error ⟨js "World ceremony returned an unaccepted human method"⟩
    else if descriptor == WORLD_ID_LEGACY_ORB_METHOD && !providerRequest.allowLegacyProofs then
      .error ⟨js "World provider request did not permit legacy proofs"⟩
    else .ok descriptor

structure WorldVerifier where
  service : X424Service
  issuing : IssuingOptions
  adapter : WorldIdAdapterOptions

/-- A native proof for a stored requirement, and what one `satisfy` reads besides. -/
structure WorldSubmission where
  document : RequirementDocument
  nativeProof : Json
  surroundings : WorldIdSurroundings
  challengeCheckedAt : Instant
  consumedAt : Instant
  issuedAt : Instant
  isDate_issuedAt : IsDate issuedAt
  randomUuid : JsString

def WorldSubmission.proof (submission : WorldSubmission) (methodId : JsString) :
    HumanProofSubmission where
  x424Version := x424Version
  dependencyId := submission.document.dependencyId
  providerId := WORLD_ID_PROOF_OF_HUMAN_METHOD.providerId
  methodId := methodId
  binding := submission.document.binding

namespace WorldVerifier

variable (verifier : WorldVerifier)

/-- The check of the material that `register` makes; other providers have their own. -/
def validateProviderRequest (library : WorldIdLibrary) (document : RequirementDocument)
    (others : HumanMethodRequirement → Except JsError Unit)
    (accepted : HumanMethodRequirement) : Except JsError Unit :=
  if accepted.providerId = WORLD_ID_PROOF_OF_HUMAN_METHOD.providerId then
    WorldIdAdapter.validateProviderRequest verifier.adapter library document accepted
      (document.providerRequest (methodKey accepted.providerId accepted.methodId))
  else others accepted

variable (submission : WorldSubmission)

def requirement : HumanRequirement :=
  submission.document.read verifier.issuing.runtime.dates

def verified (methodId : JsString) : Except JsError ProviderVerifiedHuman := do
  let accepted ← acceptedMethodForProof (verifier.requirement submission)
    (submission.proof methodId)
  WorldIdAdapter.verify verifier.adapter submission.surroundings submission.document accepted
    (submission.proof methodId) submission.nativeProof

def call (methodId : JsString) : SatisfyCall where
  requirement := verifier.requirement submission
  isDate_expiresAt _ := verifier.issuing.runtime.dates.isDate_of_parse _ _
  proof := submission.proof methodId
  challengeCheckedAt := submission.challengeCheckedAt
  consumedAt := submission.consumedAt
  verified := verifier.verified submission methodId
  issuedAt := submission.issuedAt
  isDate_issuedAt := submission.isDate_issuedAt
  randomUuid := submission.randomUuid

section Stores

variable {σ : Type} (nonceStore : NonceStore σ) (replayStore : ProviderReplayStore)

/-- What `poll` does with the proof of a World handoff that was started with the method. -/
def submit (methodId : JsString) (s : σ) (spent : SpentKeys) :
    Except JsError IssuedResult × σ × SpentKeys :=
  satisfy verifier.service verifier.issuing (verifier.call submission methodId) nonceStore
    replayStore s spent

def submitResolved (s : σ) (spent : SpentKeys) : Except JsError IssuedResult × σ × SpentKeys :=
  match resolveWorldProof submission.surroundings.numbers submission.document
      submission.nativeProof with
  | .error error => (.error error, s, spent)
  | .ok descriptor => verifier.submit submission nonceStore replayStore descriptor.methodId s spent

end Stores

end WorldVerifier

/-! ## Request material -/

section Material

variable {numbers : JsNumbers} {document : RequirementDocument} {methodId : JsString}
  {request : WorldIdProviderRequest} {nativeProof : Json} {descriptor : HumanMethodDescriptor}

def otherWorldKey (key : JsString) : JsString :=
  if key = WORLD_ID_METHOD_KEY then WORLD_ID_LEGACY_METHOD_KEY else WORLD_ID_METHOD_KEY

def SameMaterial (numbers : JsNumbers) (value other : Option Json)
    (request : WorldIdProviderRequest) : Prop :=
  other = none ∨ ∃ otherRequest, parseWorldIdProviderRequest other = .ok otherRequest ∧
    canonicalJson numbers (spreadProviderRequest other otherRequest) =
      canonicalJson numbers (spreadProviderRequest value request)

theorem providerRequestFromRequirement_eq_ok :
    providerRequestFromRequirement numbers document methodId = .ok request ↔
      parseWorldIdProviderRequest (document.providerRequest
        (methodKey WORLD_ID_PROOF_OF_HUMAN_METHOD.providerId methodId)) = .ok request ∧
      SameMaterial numbers
        (document.providerRequest (methodKey WORLD_ID_PROOF_OF_HUMAN_METHOD.providerId methodId))
        (document.providerRequest
          (otherWorldKey (methodKey WORLD_ID_PROOF_OF_HUMAN_METHOD.providerId methodId)))
        request := by
  unfold providerRequestFromRequirement SameMaterial otherWorldKey
  dsimp only
  rw [bind_eq_ok]
  generalize document.providerRequest
    (if methodKey WORLD_ID_PROOF_OF_HUMAN_METHOD.providerId methodId = WORLD_ID_METHOD_KEY then
      WORLD_ID_LEGACY_METHOD_KEY else WORLD_ID_METHOD_KEY) = other
  cases other with
  | none =>
      constructor
      · rintro ⟨found, hfound, ⟨⟩⟩
        exact ⟨hfound, Or.inl rfl⟩
      · rintro ⟨hfound, -⟩
        exact ⟨request, hfound, rfl⟩
  | some otherValue =>
      constructor
      · rintro ⟨found, hfound, h⟩
        obtain ⟨otherRequest, hother, h⟩ := bind_eq_ok.mp h
        split_ifs at h with hdiffer
        cases h
        exact ⟨hfound, Or.inr ⟨otherRequest, hother, not_not.mp hdiffer⟩⟩
      · rintro ⟨hfound, hnone | ⟨otherRequest, hother, hsame⟩⟩
        · cases hnone
        · refine ⟨request, hfound, bind_eq_ok.mpr ⟨otherRequest, hother, ?_⟩⟩
          rw [if_neg (not_not.mpr hsame)]

theorem descriptorForNativeProof_cases (h : descriptorForNativeProof nativeProof = .ok descriptor) :
    descriptor = WORLD_ID_PROOF_OF_HUMAN_METHOD ∨ descriptor = WORLD_ID_LEGACY_ORB_METHOD := by
  unfold descriptorForNativeProof at h
  split at h
  · cases h
  · split_ifs at h
    · cases h
      exact Or.inl rfl
    · cases h
      exact Or.inr rfl

theorem providerRequest_of_other {other : WorldIdProviderRequest}
    (hparsed : parseWorldIdProviderRequest (document.providerRequest WORLD_ID_METHOD_KEY) =
      .ok request)
    (hother : providerRequestFromRequirement numbers document
      WORLD_ID_LEGACY_ORB_METHOD.methodId = .ok other) :
    providerRequestFromRequirement numbers document
      WORLD_ID_PROOF_OF_HUMAN_METHOD.methodId = .ok request := by
  obtain ⟨hotherParsed, hsame⟩ := providerRequestFromRequirement_eq_ok.mp hother
  have hkey : otherWorldKey (methodKey WORLD_ID_PROOF_OF_HUMAN_METHOD.providerId
      WORLD_ID_LEGACY_ORB_METHOD.methodId) = WORLD_ID_METHOD_KEY := by decide
  rw [hkey] at hsame
  refine providerRequestFromRequirement_eq_ok.mpr ⟨hparsed, Or.inr ⟨other, hotherParsed, ?_⟩⟩
  rcases hsame with hnone | ⟨found, hfound, hequal⟩
  · rw [hnone] at hparsed
    cases hparsed
  · cases hfound.symm.trans hparsed
    exact hequal.symm

end Material

/-! ## One outcome for both -/

section Paths

variable {verifier : WorldVerifier} {submission : WorldSubmission} {methodId : JsString}
  {human : ProviderVerifiedHuman} {descriptor : HumanMethodDescriptor}

theorem validated_of_registration {service : X424Service} {requirement : HumanRequirement}
    {now : Instant} {validate : HumanMethodRequirement → Except JsError Unit}
    (h : service.checkRegistration requirement now validate = .ok ()) :
    ∀ accepted ∈ requirement.accepts, validate accepted = .ok () := by
  obtain ⟨_, -, h⟩ := bind_eq_ok.mp h
  dsimp only at h
  split at h
  · cases h
  · intro accepted haccepted
    have hchecked := forM_eq_ok.mp h accepted haccepted
    unfold X424Service.checkAcceptedMethod at hchecked
    dsimp only at hchecked
    split at hchecked
    · cases hchecked
    · split_ifs at hchecked
      exact hchecked

theorem validateProviderRequest_eq_ok {options : WorldIdAdapterOptions} {library : WorldIdLibrary}
    {document : RequirementDocument} {accepted : HumanMethodRequirement} {value : Option Json}
    (h : WorldIdAdapter.validateProviderRequest options library document accepted value =
      .ok ()) :
    ∃ request, parseWorldIdProviderRequest value = .ok request ∧
      acceptedWorldMethod document.accepts WORLD_ID_PROOF_OF_HUMAN_METHOD = true ∧
      request.allowLegacyProofs =
        acceptedWorldMethod document.accepts WORLD_ID_LEGACY_ORB_METHOD := by
  obtain ⟨request, hrequest, h⟩ := bind_eq_ok.mp h
  dsimp only at h
  split_ifs at h with hprofile hcurrent hpolicy hlifetime
  simp only [Bool.not_eq_true', Bool.not_eq_false, Bool.or_eq_true, not_or, bne_iff_ne, ne_eq,
    not_not] at hcurrent hpolicy
  exact ⟨request, hrequest, hcurrent, hpolicy.1.1.symm⟩

theorem verified_eq_ok (h : verifier.verified submission methodId = .ok human) :
    ∃ accepted descriptor request,
      acceptedMethodForProof (verifier.requirement submission) (submission.proof methodId) =
        .ok accepted ∧
      descriptorForNativeProof submission.nativeProof = .ok descriptor ∧
      descriptor.methodId = methodId ∧ accepted.isFor descriptor = true ∧
      providerRequestFromRequirement submission.surroundings.numbers submission.document
        methodId = .ok request := by
  obtain ⟨accepted, haccepted, h⟩ := bind_eq_ok.mp h
  obtain ⟨request, hrequest, h⟩ := bind_eq_ok.mp h
  obtain ⟨descriptor, hdescriptor, h⟩ := bind_eq_ok.mp h
  split_ifs at h with hlabels
  obtain ⟨candidate, -, h⟩ := bind_eq_ok.mp h
  obtain ⟨bound, -, h⟩ := bind_eq_ok.mp h
  split_ifs at h
  obtain ⟨answer, -, h⟩ := bind_eq_ok.mp h
  obtain ⟨nullifier, -, h⟩ := bind_eq_ok.mp h
  cases h
  simp only [Bool.not_eq_true', Bool.not_eq_false, WorldIdAdapter.labelsProof, Bool.and_eq_true,
    beq_iff_eq] at hlabels
  obtain ⟨⟨⟨⟨-, hprovider⟩, hmethod⟩, hversion⟩, -⟩ := hlabels
  have hselected := List.find?_some (acceptedMethodForProof_eq_ok haccepted)
  rw [Bool.and_eq_true, beq_iff_eq, beq_iff_eq] at hselected
  exact ⟨accepted, descriptor, request, haccepted, hdescriptor, hmethod.symm,
    isFor_iff.mpr ⟨hselected.1.trans hprovider, hselected.2.trans hmethod, hversion⟩, hrequest⟩

/-- The requirement has passed the World part of `register`. -/
structure WorldMaterial (document : RequirementDocument) : Prop where
  current : acceptedWorldMethod document.accepts WORLD_ID_PROOF_OF_HUMAN_METHOD = true
  parsed : ∃ request, parseWorldIdProviderRequest
      (document.providerRequest WORLD_ID_METHOD_KEY) = .ok request ∧
    request.allowLegacyProofs = acceptedWorldMethod document.accepts WORLD_ID_LEGACY_ORB_METHOD

theorem worldMaterial_of_registration {library : WorldIdLibrary}
    {others : HumanMethodRequirement → Except JsError Unit} {now : Instant}
    {document : RequirementDocument} {dates : JsDates} {accepted : HumanMethodRequirement}
    (h : verifier.service.checkRegistration (document.read dates) now
      (verifier.validateProviderRequest library document others) = .ok ())
    (haccepted : accepted ∈ document.accepts)
    (hworld : accepted.providerId = WORLD_ID_PROOF_OF_HUMAN_METHOD.providerId) :
    WorldMaterial document := by
  have hvalidated : ∀ found ∈ document.accepts,
      found.providerId = WORLD_ID_PROOF_OF_HUMAN_METHOD.providerId →
      WorldIdAdapter.validateProviderRequest verifier.adapter library document found
        (document.providerRequest (methodKey found.providerId found.methodId)) = .ok () := by
    intro found hfound hprovider
    have hchecked := validated_of_registration h found hfound
    rwa [WorldVerifier.validateProviderRequest, if_pos hprovider] at hchecked
  obtain ⟨_, -, hcurrent, -⟩ :=
    validateProviderRequest_eq_ok (hvalidated accepted haccepted hworld)
  obtain ⟨found, hfound, hfor⟩ := acceptedWorldMethod_iff.mp hcurrent
  obtain ⟨request, hparsed, -, hlegacy⟩ :=
    validateProviderRequest_eq_ok (hvalidated found hfound (isFor_iff.mp hfor).1)
  rw [methodKey_of_isFor hfor] at hparsed
  exact ⟨hcurrent, request, hparsed, hlegacy⟩

theorem resolveWorldProof_of_verified (hmaterial : WorldMaterial submission.document)
    (h : verifier.verified submission methodId = .ok human) :
    ∃ descriptor, resolveWorldProof submission.surroundings.numbers submission.document
        submission.nativeProof = .ok descriptor ∧
      descriptorForNativeProof submission.nativeProof = .ok descriptor ∧
      descriptor.methodId = methodId := by
  obtain ⟨accepted, descriptor, request, haccepted, hdescriptor, hmethod, hfor, hrequest⟩ :=
    verified_eq_ok h
  obtain ⟨parsed, hparsed, hlegacy⟩ := hmaterial.parsed
  have hmem : accepted ∈ submission.document.accepts :=
    List.mem_of_find?_eq_some (acceptedMethodForProof_eq_ok haccepted)
  have haccepts : acceptedWorldMethod submission.document.accepts descriptor = true :=
    acceptedWorldMethod_iff.mpr ⟨accepted, hmem, hfor⟩
  -- the material under the key of the method that was verified decides for both keys
  have hmine : providerRequestFromRequirement submission.surroundings.numbers submission.document
      WORLD_ID_PROOF_OF_HUMAN_METHOD.methodId = .ok parsed := by
    subst hmethod
    rcases descriptorForNativeProof_cases hdescriptor with rfl | rfl
    · obtain ⟨hfound, -⟩ := providerRequestFromRequirement_eq_ok.mp hrequest
      cases hfound.symm.trans hparsed
      exact hrequest
    · exact providerRequest_of_other hparsed hrequest
  have hpermitted : (descriptor == WORLD_ID_LEGACY_ORB_METHOD && !parsed.allowLegacyProofs) =
      false := by
    rw [hlegacy]
    by_cases hsame : descriptor = WORLD_ID_LEGACY_ORB_METHOD
    · rw [← hsame, haccepts, Bool.not_true, Bool.and_false]
    · rw [beq_eq_false_iff_ne.mpr hsame, Bool.false_and]
  refine ⟨descriptor, ?_, hdescriptor, hmethod⟩
  simp only [resolveWorldProof, hmaterial.current, hmine, hdescriptor, haccepts, hpermitted,
    Bool.not_true, Bool.false_eq_true, if_false, bind, Except.bind]

theorem verifies_of_issued {σ : Type} {nonceStore : NonceStore σ}
    {replayStore : ProviderReplayStore} {s s' : σ} {spent spent' : SpentKeys}
    {issued : IssuedResult}
    (h : verifier.submit submission nonceStore replayStore methodId s spent =
      (.ok issued, s', spent')) :
    ∃ human, verifier.verified submission methodId = .ok human ∧
      issued.result.providerId = WORLD_ID_PROOF_OF_HUMAN_METHOD.providerId ∧
      issued.result.methodId = methodId := by
  obtain ⟨accepted, described, human, pairwiseHumanId, hfrom⟩ := issuedFrom_of_satisfy h
  refine ⟨human, hfrom.verifies, ?_, ?_⟩
  · rw [hfrom.result]
    exact hfrom.compatible.providerId
  · rw [hfrom.result]
    exact hfrom.compatible.methodId

theorem submit_mismatched {σ : Type} (nonceStore : NonceStore σ)
    (replayStore : ProviderReplayStore) (s : σ) (spent : SpentKeys)
    (hother : ∀ descriptor, descriptorForNativeProof submission.nativeProof = .ok descriptor →
      descriptor.methodId ≠ methodId) :
    ∃ error, verifier.submit submission nonceStore replayStore methodId s spent =
      (.error error, (verifier.service.beginSatisfy nonceStore (verifier.requirement submission)
        (submission.proof methodId) submission.challengeCheckedAt submission.consumedAt s).2,
        spent) := by
  unfold WorldVerifier.submit satisfy WorldVerifier.call
  dsimp only
  rcases verifier.service.beginSatisfy nonceStore (verifier.requirement submission)
    (submission.proof methodId) submission.challengeCheckedAt submission.consumedAt s with
    ⟨error | ⟨accepted, described⟩, s'⟩
  · exact ⟨error, rfl⟩
  · cases hverified : verifier.verified submission methodId with
    | ok human =>
        obtain ⟨_, descriptor, _, -, hdescriptor, hmethod, -⟩ := verified_eq_ok hverified
        exact absurd hmethod (hother descriptor hdescriptor)
    | error error => exact ⟨error, rfl⟩

theorem consumed_of_issued {σ : Type} {nonceStore : NonceStore σ}
    {replayStore : ProviderReplayStore} {s : σ} {spent : SpentKeys} {issued : IssuedResult}
    (h : (verifier.submit submission nonceStore replayStore methodId s spent).1 = .ok issued) :
    (nonceStore.consume submission.document.dependencyId submission.document.nonce
      submission.challengeCheckedAt submission.consumedAt s).1 = .ok true := by
  unfold WorldVerifier.submit satisfy at h
  rcases hbegin : verifier.service.beginSatisfy nonceStore
    (verifier.call submission methodId).requirement (verifier.call submission methodId).proof
    (verifier.call submission methodId).challengeCheckedAt
    (verifier.call submission methodId).consumedAt s with ⟨error | ⟨accepted, described⟩, s'⟩
  · rw [hbegin] at h
    cases h
  · exact congrArg Prod.fst (beginSatisfy_eq_ok.mp hbegin).2

end Paths

/-! ## The dependency is lost -/

section Lost

variable {σ : Type} (verifier : WorldVerifier) (nonceStore : NonceStore σ)

def RefusedIn (store : σ) (nonce : DependencyNonce) : Prop :=
  ∀ (submission : WorldSubmission) (replayStore : ProviderReplayStore) (spent : SpentKeys),
    (verifier.requirement submission).dependencyNonce = nonce → ∀ issued,
    (verifier.submitResolved submission nonceStore replayStore store spent).1 ≠ .ok issued ∧
    ∀ methodId,
      (verifier.submit submission nonceStore replayStore methodId store spent).1 ≠ .ok issued

/-- The call gets past the checks of `satisfy` and spends the nonce, or the nonce was spent. -/
def NonceGone (run : NonceRun σ) (submission : WorldSubmission) (methodId : JsString) : Prop :=
  (verifier.requirement submission).dependencyNonce ∈ run.spent ∨
    ∃ found, (verifier.service.beginSatisfy nonceStore (verifier.requirement submission)
      (submission.proof methodId) submission.challengeCheckedAt run.clock run.store).1 = .ok found

/-- In the runs that meet the guard, a handoff whose ceremony returned a proof of another kind
takes the dependency with it. -/
def DependencyLost (guard : NonceRun σ → NonceEvent → Prop) : Prop :=
  ∀ {clock : Instant} {run next last : NonceRun σ} (submission : WorldSubmission)
    (methodId : JsString),
    (∀ descriptor, descriptorForNativeProof submission.nativeProof = .ok descriptor →
      descriptor.methodId ≠ methodId) →
    submission.consumedAt = run.clock →
    (nonceMachine verifier.service nonceStore).Reaches guard (.initial nonceStore clock) run →
    nonceStep verifier.service nonceStore run (.satisfy (verifier.requirement submission)
      (submission.proof methodId) submission.challengeCheckedAt) = some next →
    NonceGone verifier nonceStore run submission methodId →
    (nonceMachine verifier.service nonceStore).Reaches guard next last →
    (∀ replayStore spent, ∃ error,
      verifier.submit submission nonceStore replayStore methodId run.store spent =
        (.error error, next.store, spent)) ∧
    RefusedIn verifier nonceStore last.store (verifier.requirement submission).dependencyNonce

variable {verifier nonceStore} {service : X424Service} {revivable : Bool}
  {Gone : σ → DependencyNonce → Prop} {run next : NonceRun σ}

theorem nonceStep_spent {event : NonceEvent}
    (h : nonceStep service nonceStore run event = some next) : run.spent ⊆ next.spent := by
  cases event with
  | tick time =>
      simp only [nonceStep, Option.ite_none_right_eq_some, Option.some.injEq] at h
      obtain ⟨-, rfl⟩ := h
      exact List.Subset.refl _
  | put dependencyId nonce expiresAt =>
      simp only [nonceStep, Option.some.injEq] at h
      subst h
      exact List.Subset.refl _
  | consume dependencyId nonce checkedAt =>
      simp only [nonceStep, Option.ite_none_right_eq_some] at h
      obtain ⟨-, h⟩ := h
      split at h
      · cases h
        exact List.subset_cons_self _ _
      · cases h
        exact List.Subset.refl _
  | register requirement checkedAt validate =>
      simp only [nonceStep, Option.ite_none_right_eq_some, Option.some.injEq] at h
      obtain ⟨-, rfl⟩ := h
      exact List.Subset.refl _
  | satisfy requirement proof checkedAt =>
      simp only [nonceStep, Option.ite_none_right_eq_some] at h
      obtain ⟨-, h⟩ := h
      split at h
      · cases h
        exact List.subset_cons_self _ _
      · cases h
        exact List.Subset.refl _
  | settle dependencyNonce returns =>
      simp only [nonceStep, Option.ite_none_right_eq_some, Option.some.injEq] at h
      obtain ⟨-, rfl⟩ := h
      exact List.Subset.refl _

theorem spent_of_nonceGone {submission : WorldSubmission} {methodId : JsString}
    (h : NonceGone verifier nonceStore run submission methodId)
    (hstep : nonceStep verifier.service nonceStore run (.satisfy (verifier.requirement submission)
      (submission.proof methodId) submission.challengeCheckedAt) = some next) :
    (verifier.requirement submission).dependencyNonce ∈ next.spent := by
  rcases h with hspent | ⟨found, hbegin⟩
  · exact nonceStep_spent hstep hspent
  · simp only [nonceStep, Option.ite_none_right_eq_some] at hstep
    obtain ⟨-, hstep⟩ := hstep
    split at hstep
    · cases hstep
      exact List.mem_cons_self
    · rename_i error store hfailed
      rw [hfailed] at hbegin
      cases hbegin

theorem refusedIn_of_spent (hstore : SpendsOnce nonceStore revivable Gone)
    (h : run.Accounted Gone) {nonce : DependencyNonce} (hspent : nonce ∈ run.spent) :
    RefusedIn verifier nonceStore run.store nonce := by
  intro submission replayStore spent hnonce issued
  have hrefused : ∀ methodId,
      (verifier.submit submission nonceStore replayStore methodId run.store spent).1 ≠
        .ok issued := by
    intro methodId hissued
    rw [← hnonce] at hspent
    exact hstore.refused (h.gone _ hspent) (consumed_of_issued hissued)
  refine ⟨fun hissued => ?_, hrefused⟩
  unfold WorldVerifier.submitResolved at hissued
  split at hissued
  · cases hissued
  · exact hrefused _ hissued

theorem dependencyLost_of_spends (hstore : SpendsOnce nonceStore revivable Gone)
    (guard : NonceRun σ → NonceEvent → Prop)
    (hguard : revivable = true → ∀ run event, guard run event → NotPutAgain run event) :
    DependencyLost verifier nonceStore guard := by
  intro clock run next last submission methodId hother hconsumedAt hbefore hstep hgone hafter
  have hspent := spent_of_nonceGone hgone hstep
  have hsteps : ∀ (run : NonceRun σ) (event : NonceEvent) (next : NonceRun σ),
      run.Accounted Gone → guard run event →
      (nonceMachine verifier.service nonceStore).step run event = some next →
      next.Accounted Gone := fun run event _ h hevent hstep =>
    h.step hstore (fun hrevivable => hguard hrevivable run event hevent) hstep
  have hrun : run.Accounted Gone := hbefore.invariant hsteps (.initial clock)
  have hallowed : NotPutAgain run (.satisfy (verifier.requirement submission)
      (submission.proof methodId) submission.challengeCheckedAt) := trivial
  have hnext : next.Accounted Gone := hrun.step hstore (fun _ => hallowed) hstep
  obtain ⟨hlast, hkept⟩ := hafter.invariant
    (I := fun last => last.Accounted Gone ∧
      (verifier.requirement submission).dependencyNonce ∈ last.spent)
    (fun _ _ _ h hevent hstep => ⟨hsteps _ _ _ h.1 hevent hstep, nonceStep_spent hstep h.2⟩)
    ⟨hnext, hspent⟩
  refine ⟨fun replayStore spent => ?_, refusedIn_of_spent hstore hlast hkept⟩
  obtain ⟨error, hsubmit⟩ := submit_mismatched nonceStore replayStore run.store spent hother
  refine ⟨error, hsubmit.trans ?_⟩
  simp only [nonceStep, Option.ite_none_right_eq_some] at hstep
  obtain ⟨-, hstep⟩ := hstep
  rw [hconsumedAt]
  split at hstep
  · rename_i hbegin
    cases hstep
    rw [hbegin]
  · rename_i hbegin
    cases hstep
    rw [hbegin]

end Lost

/-! ## Both paths -/

theorem resolveWorldProof_eq_ok {numbers : JsNumbers} {document : RequirementDocument}
    {nativeProof : Json} {descriptor : HumanMethodDescriptor}
    (h : resolveWorldProof numbers document nativeProof = .ok descriptor) :
    descriptorForNativeProof nativeProof = .ok descriptor := by
  unfold resolveWorldProof at h
  split_ifs at h
  obtain ⟨_, -, h⟩ := bind_eq_ok.mp h
  obtain ⟨found, hfound, h⟩ := bind_eq_ok.mp h
  split_ifs at h
  cases h
  exact hfound

theorem submit_eq_ok_iff {verifier : WorldVerifier} {submission : WorldSubmission}
    {library : WorldIdLibrary} {others : HumanMethodRequirement → Except JsError Unit}
    {registeredAt : Instant}
    (hregistered : verifier.service.checkRegistration
      (submission.document.read verifier.issuing.runtime.dates) registeredAt
      (verifier.validateProviderRequest library submission.document others) = .ok ())
    {σ : Type} {nonceStore : NonceStore σ} {replayStore : ProviderReplayStore}
    {methodId : JsString} {s s' : σ} {spent spent' : SpentKeys} {issued : IssuedResult} :
    verifier.submit submission nonceStore replayStore methodId s spent =
        (.ok issued, s', spent') ↔
      (∃ descriptor, descriptorForNativeProof submission.nativeProof = .ok descriptor ∧
        descriptor.methodId = methodId) ∧
      verifier.submitResolved submission nonceStore replayStore s spent =
        (.ok issued, s', spent') := by
  constructor
  · intro hissued
    obtain ⟨human, hverified, -⟩ := verifies_of_issued hissued
    obtain ⟨accepted, _, _, haccepted, -, -, hfor, -⟩ := verified_eq_ok hverified
    have hselected := acceptedMethodForProof_eq_ok haccepted
    have hworld : accepted.providerId = WORLD_ID_PROOF_OF_HUMAN_METHOD.providerId := by
      have hfound := List.find?_some hselected
      rw [Bool.and_eq_true, beq_iff_eq] at hfound
      exact hfound.1
    obtain ⟨descriptor, hresolved, hdescriptor, hmethod⟩ := resolveWorldProof_of_verified
      (worldMaterial_of_registration hregistered (List.mem_of_find?_eq_some hselected) hworld)
      hverified
    refine ⟨⟨descriptor, hdescriptor, hmethod⟩, ?_⟩
    simp only [WorldVerifier.submitResolved, hresolved, hmethod, hissued]
  · rintro ⟨⟨descriptor, hdescriptor, rfl⟩, hissued⟩
    unfold WorldVerifier.submitResolved at hissued
    split at hissued
    · cases hissued
    · rename_i found hfound
      cases hdescriptor.symm.trans (resolveWorldProof_eq_ok hfound)
      exact hissued

theorem named_of_submitResolved {verifier : WorldVerifier} {submission : WorldSubmission}
    {σ : Type} {nonceStore : NonceStore σ} {replayStore : ProviderReplayStore} {s s' : σ}
    {spent spent' : SpentKeys} {issued : IssuedResult}
    (h : verifier.submitResolved submission nonceStore replayStore s spent =
      (.ok issued, s', spent')) :
    ∃ descriptor, descriptorForNativeProof submission.nativeProof = .ok descriptor ∧
      issued.result.providerId = descriptor.providerId ∧
      issued.result.methodId = descriptor.methodId := by
  unfold WorldVerifier.submitResolved at h
  split at h
  · cases h
  · rename_i found hfound
    have hdescriptor := resolveWorldProof_eq_ok hfound
    obtain ⟨-, -, hprovider, hmethod⟩ := verifies_of_issued h
    refine ⟨found, hdescriptor, hprovider.trans ?_, hmethod⟩
    rcases descriptorForNativeProof_cases hdescriptor with rfl | rfl
    · rfl
    · rfl

/-- For one requirement: a handoff completes when and only when its ceremony returned a proof of
the method it was started with and the resolver's submission of that proof would be accepted. -/
structure WorldPathsExact (verifier : WorldVerifier) (document : RequirementDocument) : Prop where
  agree : ∀ {σ : Type} (nonceStore : NonceStore σ) (replayStore : ProviderReplayStore)
    (submission : WorldSubmission) (methodId : JsString) (s s' : σ) (spent spent' : SpentKeys)
    (issued : IssuedResult), submission.document = document →
    (verifier.submit submission nonceStore replayStore methodId s spent =
        (.ok issued, s', spent') ↔
      (∃ descriptor, descriptorForNativeProof submission.nativeProof = .ok descriptor ∧
        descriptor.methodId = methodId) ∧
      verifier.submitResolved submission nonceStore replayStore s spent =
        (.ok issued, s', spent'))
  named : ∀ {σ : Type} (nonceStore : NonceStore σ) (replayStore : ProviderReplayStore)
    (submission : WorldSubmission) (s s' : σ) (spent spent' : SpentKeys) (issued : IssuedResult),
    verifier.submitResolved submission nonceStore replayStore s spent =
      (.ok issued, s', spent') →
    ∃ descriptor, descriptorForNativeProof submission.nativeProof = .ok descriptor ∧
      issued.result.providerId = descriptor.providerId ∧
      issued.result.methodId = descriptor.methodId
  /-- A handoff of the other kind fails and takes the nonce with it. -/
  inMemory : DependencyLost verifier inMemoryNonceStore fun _ _ => True
  redis : ∀ keyPrefix, DependencyLost verifier (RedisX424Store.nonces keyPrefix) NotPutAgain
  postgres : DependencyLost verifier PostgresX424Store.nonces NotPutAgain

theorem worldPaths_exact {verifier : WorldVerifier} {document : RequirementDocument}
    {library : WorldIdLibrary} {others : HumanMethodRequirement → Except JsError Unit}
    {registeredAt : Instant}
    (hregistered : verifier.service.checkRegistration
      (document.read verifier.issuing.runtime.dates) registeredAt
      (verifier.validateProviderRequest library document others) = .ok ()) :
    WorldPathsExact verifier document where
  agree := by
    rintro σ nonceStore replayStore submission methodId s s' spent spent' issued rfl
    exact submit_eq_ok_iff hregistered
  named _ _ _ _ _ _ _ _ := named_of_submitResolved
  inMemory := dependencyLost_of_spends inMemoryNonceStore_spendsOnce _ fun h => (by cases h)
  redis keyPrefix := dependencyLost_of_spends (redisNonces_spendsOnce keyPrefix) _
    fun _ _ _ h => h
  postgres := dependencyLost_of_spends postgresNonces_spendsOnce _ fun _ _ _ h => h

/-! ## A legacy proof in a handoff for the current method -/

namespace OrbCeremony

def verifier : WorldVerifier where
  service := ⟨MethodCatalog.get LegacyProfile.profile.catalog, [js "world"]⟩
  issuing := OneVote.options (.ok (js "x424_human_1"))
  adapter := LegacyProfile.profile.adapter

def nativeProof : Json :=
  .object [(js "protocol_version", .string (js "3.0")), (js "action", .string (js "vote")),
    (js "environment", .string (js "production")), (js "nonce", .string (js "0x01")),
    (js "responses", .array [.object [(js "identifier", .string (js "orb")),
      (js "signal_hash", .string (js "0xcaller")), (js "proof", .string (js "0x04")),
      (js "merkle_root", .string (js "0x06")), (js "nullifier", .string (js "0x05"))]])]

def answer : Json :=
  .object [(js "success", .bool true), (js "action", .string (js "vote")),
    (js "environment", .string (js "production")),
    (js "results", .array [.object [(js "identifier", .string (js "orb")),
      (js "nullifier", .string (js "0x05")), (js "success", .bool true)]])]

def submission : WorldSubmission where
  document := LegacyProfile.requirement
  nativeProof := nativeProof
  surroundings := {
    numbers := wholeNumbers
    library := LegacyProfile.library
    createHash := fun _ => List.replicate 32 0
    validateBinding := none
    verifyRemote := fun _ => .ok answer
    now := dateText 1500 }
  challengeCheckedAt := 1000
  consumedAt := 1000
  issuedAt := 2000
  isDate_issuedAt := by decide
  randomUuid := js "0b5e1a52-6b1f-4f0e-9d7c-2f0f6f9e7c11"

def nonces : NonceEntries :=
  (inMemoryNonceStore.put (js "dependency") (js "nonce") (some 300000) 0
    inMemoryNonceStore.empty).2

end OrbCeremony

theorem worldPaths_exact_orb :
    WorldPathsExact OrbCeremony.verifier OrbCeremony.submission.document :=
  @worldPaths_exact OrbCeremony.verifier OrbCeremony.submission.document LegacyProfile.library
    (fun _ => .ok ()) 1000 (by decide +kernel)

end X424
