import X424.Catalog
import X424.PolicyLaws
import X424.ProviderSlots
import X424.Schemas.Documents

/-!
# The token at the resource server

`http.ts`: `verifyHumanProofHeader`, and what the tokens that `satisfy` gives
out come to there.  The issuer checks the answers of the adapter, the deriver
and the catalog less strictly than the schema of results; `Presentable` is what
the answers have to meet besides.
-/

namespace X424

open Foundation

structure ProofHeaderInput (PublicKey σ : Type) where
  humanProof : JsString
  requirement : HumanRequirement
  verifier : ResultVerifier PublicKey
  catalog : JsString → Option HumanMethodDescriptor
  replayStore : Option (ResultReplayStore σ)
  requireReplayStore : Bool
  now : Instant

section Header

variable {PublicKey σ : Type} (runtime : Runtime)
  (verify : PublicKey → List UInt8 → List UInt8 → Bool) (input : ProofHeaderInput PublicKey σ)

def consumeOnce (result : ResultDocument) (consumedAt : Instant) (s : σ) :
    Except JsError ResultDocument × σ :=
  match input.replayStore with
  | none => (.ok result, s)
  | some store =>
      match store.consume result.resultId (runtime.dates.parse result.expiresAt) input.now
          consumedAt s with
      | (.ok true, s) => (.ok result, s)
      | (.ok false, s) => (.error ⟨js "x424 result token was already consumed"⟩, s)
      | (.error error, s) => (.error error, s)

/-- `consumedAt` is the time of the replay store when it is asked. -/
def verifyHumanProofHeader (consumedAt : Instant) (s : σ) : Except JsError ResultDocument × σ :=
  if input.requireReplayStore && input.replayStore.isNone then
    (.error ⟨js "ResultReplayStore is required for this profile"⟩, s)
  else
    match verifyHumanResultToken runtime verify input.verifier input.humanProof with
    | .error error => (.error error, s)
    | .ok result =>
        let failures := evaluateHumanResult input.requirement (result.read runtime.dates)
          input.catalog input.now
        if failures = [] then consumeOnce runtime input result consumedAt s
        else
          (.error ⟨js "x424 result rejected: " ++
            (js ",").intercalate (failures.map fun failure => failure.code.text)⟩, s)

/-- A replay store is there when one is required, and it has not seen the result. -/
structure ReplayAdmits (result : ResultDocument) (consumedAt : Instant) (s : σ) : Prop where
  present : input.requireReplayStore = true → input.replayStore ≠ none
  consumed : ∀ store ∈ input.replayStore,
    (store.consume result.resultId (runtime.dates.parse result.expiresAt) input.now
      consumedAt s).1 = .ok true

variable {runtime verify input} {consumedAt : Instant} {s : σ} {result : ResultDocument}

theorem consumeOnce_eq_ok {accepted : ResultDocument} :
    (consumeOnce runtime input result consumedAt s).1 = .ok accepted ↔
      (∀ store ∈ input.replayStore,
        (store.consume result.resultId (runtime.dates.parse result.expiresAt) input.now
          consumedAt s).1 = .ok true) ∧ accepted = result := by
  unfold consumeOnce
  cases input.replayStore with
  | none => simp [eq_comm]
  | some store =>
      rcases hreply : store.consume result.resultId (runtime.dates.parse result.expiresAt)
        input.now consumedAt s with ⟨_ | _ | _, next⟩ <;> simp [hreply, eq_comm]

theorem verifyHumanProofHeader_eq_ok :
    (verifyHumanProofHeader runtime verify input consumedAt s).1 = .ok result ↔
      verifyHumanResultToken runtime verify input.verifier input.humanProof = .ok result ∧
        Satisfies input.requirement (result.read runtime.dates) input.catalog input.now ∧
        ReplayAdmits runtime input result consumedAt s := by
  have hpresent : (input.requireReplayStore && input.replayStore.isNone) = false ↔
      (input.requireReplayStore = true → input.replayStore ≠ none) := by
    cases input.requireReplayStore <;> cases input.replayStore <;> simp
  unfold verifyHumanProofHeader
  split_ifs with hrequired
  · refine ⟨fun h => (by cases h), fun h => absurd hrequired ?_⟩
    rw [hpresent.mpr h.2.2.present]
    exact Bool.false_ne_true
  · rw [Bool.not_eq_true, hpresent] at hrequired
    cases htoken : verifyHumanResultToken runtime verify input.verifier input.humanProof with
    | error error => simp
    | ok found =>
        simp only [Except.ok.injEq]
        split_ifs with hsatisfies
        · rw [consumeOnce_eq_ok]
          constructor
          · rintro ⟨hconsumed, rfl⟩
            exact ⟨rfl, evaluateHumanResult_eq_nil.mp hsatisfies, hrequired, hconsumed⟩
          · rintro ⟨rfl, -, hadmits⟩
            exact ⟨hadmits.consumed, rfl⟩
        · refine ⟨fun h => (by cases h), ?_⟩
          rintro ⟨rfl, hother, -⟩
          exact absurd (evaluateHumanResult_eq_nil.mpr hother) hsatisfies

end Header

/-! ## What the issuer has checked -/

section Issued

variable {σ : Type} {service : X424Service} {options : IssuingOptions} {call : SatisfyCall}
  {nonceStore : NonceStore σ} {replayStore : ProviderReplayStore} {s s' : σ}
  {spent spent' : SpentKeys} {issued : IssuedResult}

theorem acceptedMethodForProof_eq_ok {requirement : HumanRequirement}
    {proof : HumanProofSubmission} {accepted : HumanMethodRequirement}
    (h : acceptedMethodForProof requirement proof = .ok accepted) :
    requirement.accepts.find? (fun candidate =>
      candidate.providerId == proof.providerId && candidate.methodId == proof.methodId) =
        some accepted := by
  unfold acceptedMethodForProof at h
  split_ifs at h
  split at h
  · rename_i found hfound
    cases h
    exact hfound
  · cases h

structure CompatibleOutput (dates : JsDates) (verified : ProviderVerifiedHuman)
    (proof : HumanProofSubmission) (accepted : HumanMethodRequirement)
    (descriptor : HumanMethodDescriptor) (now : Instant) : Prop where
  providerId : verified.providerId = proof.providerId
  methodId : verified.methodId = proof.methodId
  descriptorVersion : verified.descriptorVersion = descriptor.version
  nativeScope : verified.uniquenessScope.kind ∈ descriptor.nativeScopeKinds
  nativeMode : verified.verificationMode ∈ descriptor.verificationModes
  acceptedScope : verified.uniquenessScope.kind ∈ accepted.acceptedScopeKinds
  acceptedMode : ∀ modes ∈ accepted.verificationModes, verified.verificationMode ∈ modes
  acceptedLevel : ∀ level ∈ accepted.assuranceLevel, verified.assuranceLevel = some level
  knownLevel : ∀ level ∈ verified.assuranceLevel, level ∈ descriptor.assuranceLevels
  verifiedAt : ∃ verifiedAt, dates.parse verified.verifiedAt = some verifiedAt ∧ verifiedAt ≤ now
  unexpired : ∀ parsed ∈ verified.parsedExpiry dates, ∃ expiresAt, parsed = some expiresAt ∧
    now < expiresAt
  fresh : ∀ seconds ∈ accepted.maximumProofAgeSeconds,
    ∀ verifiedAt ∈ dates.parse verified.verifiedAt, now - verifiedAt ≤ (seconds : Int) * 1000

theorem isFuture_eq_false {timestamp : IsoTimestamp} {now : Instant}
    (h : isFuture timestamp now = false) : ∃ value, timestamp = some value ∧ value ≤ now := by
  cases timestamp with
  | none => cases h
  | some value =>
      rw [isFuture, decide_eq_false_iff_not] at h
      exact ⟨value, rfl, Int.not_lt.mp h⟩

theorem isExpired_eq_false {timestamp : IsoTimestamp} {now : Instant}
    (h : isExpired timestamp now = false) : ∃ value, timestamp = some value ∧ now < value := by
  cases timestamp with
  | none => cases h
  | some value =>
      rw [isExpired, decide_eq_false_iff_not] at h
      exact ⟨value, rfl, Int.not_le.mp h⟩

theorem assertVerifiedOutput_eq_ok {dates : JsDates} {verified : ProviderVerifiedHuman}
    {requirement : HumanRequirement} {proof : HumanProofSubmission}
    {accepted : HumanMethodRequirement} {descriptor : HumanMethodDescriptor} {now : Instant}
    (haccepted : acceptedMethodForProof requirement proof = .ok accepted)
    (h : assertVerifiedOutput dates verified requirement proof descriptor now = .ok ()) :
    CompatibleOutput dates verified proof accepted descriptor now := by
  unfold assertVerifiedOutput at h
  simp only [haccepted, bind, Except.bind] at h
  split_ifs at h with hoffered hadmits hlevel htimes
  simp only [Bool.or_eq_true, not_or, bne_iff_ne, ne_eq, not_not, Bool.not_eq_true',
    Bool.not_eq_false, List.contains_iff_mem] at hoffered
  obtain ⟨⟨⟨⟨⟨⟨⟨hprovider, hmethod⟩, hversion⟩, hscope⟩, hmode⟩, -⟩, -⟩, -⟩ := hoffered
  simp only [HumanMethodRequirement.admits, Bool.not_eq_true', Bool.not_eq_false,
    Bool.and_eq_true, List.contains_iff_mem] at hadmits
  obtain ⟨⟨hacceptedScope, hmodes⟩, hlevels⟩ := hadmits
  simp only [proofTimesValid, Bool.not_eq_true', Bool.not_eq_false, Bool.and_eq_true] at htimes
  obtain ⟨⟨hfuture, hexpiry⟩, hfresh⟩ := htimes
  refine ⟨hprovider, hmethod, hversion, hscope, hmode, hacceptedScope, fun modes hmodesMem => ?_,
    fun level hlevelMem => ?_, fun level hlevelMem => ?_, isFuture_eq_false hfuture,
    fun parsed hparsed => ?_, proofStale_eq_false.mp hfresh⟩
  · rw [Option.mem_def] at hmodesMem
    rw [hmodesMem, Option.all_some] at hmodes
    exact List.contains_iff_mem.mp hmodes
  · rw [Option.mem_def] at hlevelMem
    rw [hlevelMem, Option.all_some] at hlevels
    exact eq_of_beq hlevels
  · rw [Option.mem_def] at hlevelMem
    simpa [hlevelMem] using hlevel
  · rw [Option.mem_def] at hparsed
    rw [hparsed, Option.all_some, Bool.not_eq_true'] at hexpiry
    exact isExpired_eq_false hexpiry

/-- A call of `satisfy` that gives out a token. -/
structure IssuedFrom (service : X424Service) (options : IssuingOptions) (call : SatisfyCall)
    (accepted : HumanMethodRequirement) (descriptor : HumanMethodDescriptor)
    (verified : ProviderVerifiedHuman) (pairwiseHumanId : JsString) (issued : IssuedResult) :
    Prop where
  selects : acceptedMethodForProof call.requirement call.proof = .ok accepted
  describes : service.catalog (methodKey call.proof.providerId call.proof.methodId) =
    some descriptor
  enabled : descriptor.status = .enabled
  version : descriptor.version = accepted.descriptorVersion
  verifies : call.verified = .ok verified
  current : call.requirement.isCurrent call.issuedAt = true
  compatible : CompatibleOutput options.runtime.dates verified call.proof accepted descriptor
    call.issuedAt
  derived : options.pairwiseDeriver.derivePairwiseHumanId call.requirement.resource.audience
    verified.providerId verified.methodId verified.providerSubject = .ok pairwiseHumanId
  isPairwise : isPairwiseHumanId pairwiseHumanId = true
  isDate : IsDate (expiresAtMs options call verified)
  result : issued.result = resultDocument options call descriptor verified pairwiseHumanId
  token : signHumanResult options.runtime issued.result options.resultSigner = .ok issued.token

theorem checkSatisfaction_eq_ok {accepted : HumanMethodRequirement}
    {descriptor : HumanMethodDescriptor}
    (h : service.checkSatisfaction call.requirement call.proof call.challengeCheckedAt =
      .ok (accepted, descriptor)) :
    acceptedMethodForProof call.requirement call.proof = .ok accepted ∧
      service.catalog (methodKey call.proof.providerId call.proof.methodId) = some descriptor ∧
      descriptor.status = .enabled ∧ descriptor.version = accepted.descriptorVersion := by
  unfold X424Service.checkSatisfaction at h
  obtain ⟨_, -, h⟩ := bind_eq_ok.mp h
  obtain ⟨found, hfound, h⟩ := bind_eq_ok.mp h
  split at h
  · cases h
  · rename_i described hdescribed
    split_ifs at h with hstatus hversion
    cases h
    exact ⟨hfound, hdescribed, not_not.mp hstatus, not_not.mp hversion⟩

theorem issuedFrom_of_satisfy
    (h : satisfy service options call nonceStore replayStore s spent = (.ok issued, s', spent')) :
    ∃ accepted descriptor verified pairwiseHumanId,
      IssuedFrom service options call accepted descriptor verified pairwiseHumanId issued := by
  unfold satisfy at h
  rcases hbegin : service.beginSatisfy nonceStore call.requirement call.proof
    call.challengeCheckedAt call.consumedAt s with ⟨error | ⟨accepted, descriptor⟩, next⟩
  · rw [hbegin] at h
    cases h
  · obtain ⟨hchecked, -⟩ := beginSatisfy_eq_ok.mp hbegin
    obtain ⟨haccepted, hdescriptor, henabled, hversion⟩ := checkSatisfaction_eq_ok hchecked
    simp only [hbegin] at h
    cases hadmitted : admitVerified options call descriptor with
    | error error =>
        rw [hadmitted] at h
        cases h
    | ok admitted =>
        obtain ⟨verified, entry⟩ := admitted
        obtain ⟨hverified, hcurrent, hcompatible, -⟩ := admitVerified_eq_ok.mp hadmitted
        have hissued : issueResult options call descriptor verified = .ok issued := by
          cases entry with
          | none =>
              rw [hadmitted] at h
              exact congrArg Prod.fst h
          | some entry =>
              rcases hconsumed : replayStore.consume entry spent with ⟨_ | _, left⟩
              · simp only [hadmitted, hconsumed] at h
                cases h
              · simp only [hadmitted, hconsumed] at h
                exact congrArg Prod.fst h
        obtain ⟨pairwiseHumanId, hderived, hdate, -, hresult, htoken⟩ :=
          issueResult_eq_ok.mp hissued
        obtain ⟨hderives, hpairwise⟩ := derivePairwiseHumanId_eq_ok.mp hderived
        exact ⟨accepted, descriptor, verified, pairwiseHumanId, haccepted, hdescriptor, henabled,
          hversion, hverified, hcurrent, assertVerifiedOutput_eq_ok haccepted hcompatible,
          hderives, hpairwise, hdate, hresult, htoken⟩

end Issued

/-! ## What the resource server checks besides -/

/-- What the schema of results asks of the answers that go into one. -/
structure Presentable (options : IssuingOptions) (call : SatisfyCall)
    (descriptor : HumanMethodDescriptor) (verified : ProviderVerifiedHuman)
    (pairwiseHumanId : JsString) : Prop where
  assuranceLevel : ∀ level ∈ verified.assuranceLevel, level.length ≤ 100
  pairwiseHumanId : pairwiseHumanId.length ≤ 200
  uniquenessScope : BoundedText 1 500 verified.uniquenessScope.id
  proofDigest : isDigestText verified.proofDigest = true
  claim : descriptor.claim.length ≤ 2000
  nonClaims : descriptor.nonClaims.length ≤ 50 ∧
    ∀ text ∈ descriptor.nonClaims, BoundedText 1 1000 text
  verifiedAt : options.runtime.dates.isDatetime verified.verifiedAt = true
  issuedAt : InFourDigitYear call.issuedAt
  expiresAt : InFourDigitYear (expiresAtMs options call verified)
  stateReferences : ∀ references ∈ verified.stateReferences,
    references.length ≤ 20 ∧ ∀ text ∈ references, BoundedText 1 500 text

def partSize (runtime : Runtime) (json : Json) : Nat :=
  (4 * (utf8 (canonicalJson runtime.numbers json)).length + 2) / 3

/-- The characters of a token: both parts, two dots and the 86 characters of a signature. -/
def tokenSize (options : IssuingOptions) (call : SatisfyCall) (descriptor : HumanMethodDescriptor)
    (verified : ProviderVerifiedHuman) (pairwiseHumanId : JsString) : Nat :=
  partSize options.runtime (tokenHeader options.resultSigner.keyId) +
    partSize options.runtime
      (resultDocument options call descriptor verified pairwiseHumanId).toJson + 88

/-- The result has been issued, it has not expired, and its proof is not too old. -/
structure InForce (options : IssuingOptions) (call : SatisfyCall)
    (accepted : HumanMethodRequirement) (verified : ProviderVerifiedHuman) (now : Instant) :
    Prop where
  issued : call.issuedAt ≤ now
  unexpired : now < expiresAtMs options call verified
  fresh : ∀ seconds ∈ accepted.maximumProofAgeSeconds,
    ∀ verifiedAt ∈ options.runtime.dates.parse verified.verifiedAt,
      now - verifiedAt ≤ (seconds : Int) * 1000

/-- What the schema of requirements says of the parts that a result takes over. -/
structure ParsedRequirement (runtime : Runtime) (document : RequirementDocument) : Prop where
  valid : document.Valid runtime.dates
  audience : runtime.urls.check document.resource.audience = some document.resource.audience ∧
    document.resource.audience.length ≤ 2048

theorem parsedRequirement_of_schema {runtime : Runtime} {json : Json}
    {document : RequirementDocument} (hkeys : json.DistinctKeys)
    (h : HumanRequirementSchema runtime.dates runtime.urls json = some document) :
    ParsedRequirement runtime document := by
  obtain ⟨sent, -, hsent⟩ := exists_document hkeys h
  obtain ⟨hvalid, uri, audience, -, ⟨haudience, hlength⟩, rfl⟩ :=
    HumanRequirementSchema_toJson.mp hsent
  refine ⟨{ hvalid with providerRequests := ?_ }, runtime.urls.check_check haudience, hlength⟩
  intro members hmembers member hmember
  obtain ⟨sentMembers, hsentMembers, rfl⟩ := Option.map_eq_some_iff.mp hmembers
  rw [knownMembers, List.mem_filter] at hmember
  exact hvalid.providerRequests sentMembers hsentMembers member hmember.1

section Presented

variable {σ PublicKey : Type} {service : X424Service} {options : IssuingOptions}
  {call : SatisfyCall} {accepted : HumanMethodRequirement} {descriptor : HumanMethodDescriptor}
  {verified : ProviderVerifiedHuman} {pairwiseHumanId : JsString} {issued : IssuedResult}
  {document : RequirementDocument} {now : Instant}

theorem accepted_of_issued
    (h : IssuedFrom service options call accepted descriptor verified pairwiseHumanId issued)
    (hparsed : ParsedRequirement options.runtime document)
    (hrequirement : call.requirement = document.read options.runtime.dates) :
    accepted.Accepted ∧ accepted.providerId = call.proof.providerId ∧
      accepted.methodId = call.proof.methodId := by
  have hfound := acceptedMethodForProof_eq_ok h.selects
  have hsame := List.find?_some hfound
  simp only [Bool.and_eq_true, beq_iff_eq] at hsame
  have hmem := List.mem_of_find?_eq_some hfound
  rw [hrequirement] at hmem
  exact ⟨hparsed.valid.accepts.2 accepted hmem, hsame⟩

/-- The schema of results accepts what is issued if and only if the answers are within its
bounds. -/
theorem accepted_resultDocument_iff
    (h : IssuedFrom service options call accepted descriptor verified pairwiseHumanId issued)
    (hparsed : ParsedRequirement options.runtime document)
    (hrequirement : call.requirement = document.read options.runtime.dates)
    (hdefined : descriptor.Defined) (huuid : call.randomUuid.length = 36) :
    issued.result.Accepted options.runtime.dates ↔
      Presentable options call descriptor verified pairwiseHumanId := by
  obtain ⟨haccepted, hprovider, hmethod⟩ := accepted_of_issued h hparsed hrequirement
  rw [h.result]
  constructor
  · intro hresult
    refine ⟨fun level hlevel => ?_, ?_, hresult.uniquenessScope, hresult.proofDigest,
      hresult.claim.2, ⟨hresult.nonClaims.1.2, hresult.nonClaims.2⟩, hresult.verifiedAt, ?_, ?_,
      fun references hreferences => ?_⟩
    · by_cases hempty : level = []
      · simp [hempty]
      · refine (hresult.assuranceLevel level ?_).2
        rw [Option.mem_def] at hlevel ⊢
        simp [resultDocument, hlevel, hempty]
    · have hpairwise := hresult.pairwiseHumanId
      simp only [isPairwiseText, Bool.and_eq_true, decide_eq_true_eq] at hpairwise
      exact hpairwise.2
    · exact (options.runtime.dates.isDatetime_dateText _ call.isDate_issuedAt).mp hresult.issuedAt
    · exact (options.runtime.dates.isDatetime_dateText _ h.isDate).mp hresult.expiresAt
    · exact ⟨(hresult.stateReferences references hreferences).1.2,
        (hresult.stateReferences references hreferences).2⟩
  · intro hanswers
    have hvalid := hparsed.valid
    have hcompatible := h.compatible
    have hresultId : (js "x424_result_").length = 12 := by decide
    constructor
    case resultId => simp only [resultDocument, BoundedText, List.length_append, huuid]; omega
    case dependencyId =>
      simp only [resultDocument, hrequirement]
      exact hvalid.dependencyId
    case purpose =>
      simp only [resultDocument, hrequirement]
      exact hvalid.purpose
    case requestDigest =>
      simp only [resultDocument, hrequirement]
      exact hvalid.resource.2
    case binding =>
      simp only [resultDocument, hrequirement]
      exact hvalid.binding
    case providerId =>
      rw [resultDocument, hcompatible.providerId, ← hprovider]
      exact haccepted.providerId
    case methodId =>
      rw [resultDocument, hcompatible.methodId, ← hmethod]
      exact haccepted.methodId
    case descriptorVersion =>
      rw [resultDocument, hcompatible.descriptorVersion, h.version]
      exact haccepted.descriptorVersion
    case assuranceLevel =>
      intro level hlevel
      obtain ⟨hsome, hnonempty⟩ := Option.filter_eq_some_iff.mp hlevel
      refine ⟨?_, hanswers.assuranceLevel level hsome⟩
      rw [Bool.not_eq_true', List.isEmpty_eq_false_iff] at hnonempty
      exact List.length_pos_iff.mpr hnonempty
    case pairwiseHumanId =>
      have hpairwise := h.isPairwise
      simp only [isPairwiseHumanId, Bool.and_eq_true] at hpairwise
      simp only [resultDocument, isPairwiseText, Bool.and_eq_true]
      exact ⟨hpairwise.1, decide_eq_true hanswers.pairwiseHumanId⟩
    case uniquenessScope => exact hanswers.uniquenessScope
    case proofDigest => exact hanswers.proofDigest
    case claim => exact ⟨List.length_pos_iff.mpr hdefined.claim, hanswers.claim⟩
    case nonClaims =>
      exact ⟨⟨List.length_pos_iff.mpr hdefined.nonClaims, hanswers.nonClaims.1⟩,
        hanswers.nonClaims.2⟩
    case verifiedAt => exact hanswers.verifiedAt
    case issuedAt =>
      exact (options.runtime.dates.isDatetime_dateText _ call.isDate_issuedAt).mpr
        hanswers.issuedAt
    case expiresAt =>
      exact (options.runtime.dates.isDatetime_dateText _ h.isDate).mpr hanswers.expiresAt
    case stateReferences =>
      intro references hreferences
      exact ⟨⟨Nat.zero_le _, (hanswers.stateReferences references hreferences).1⟩,
        (hanswers.stateReferences references hreferences).2⟩

theorem expiresAtMs_le_required {expiresAt : Instant}
    (h : call.requirement.expiresAt = some expiresAt) :
    expiresAtMs options call verified ≤ expiresAt := by
  unfold expiresAtMs
  simp only [h]
  split
  · exact le_trans (min_le_right _ _) (min_le_left _ _)
  · exact min_le_left _ _

theorem satisfies_resultDocument_iff
    (h : IssuedFrom service options call accepted descriptor verified pairwiseHumanId issued)
    (hparsed : ParsedRequirement options.runtime document)
    (hrequirement : call.requirement = document.read options.runtime.dates) :
    Satisfies call.requirement (issued.result.read options.runtime.dates) service.catalog now ↔
      InForce options call accepted verified now := by
  obtain ⟨haccepted, hprovider, hmethod⟩ := accepted_of_issued h hparsed hrequirement
  have hcompatible := h.compatible
  obtain ⟨verifiedAt, hverifiedAt, hverified_le⟩ := hcompatible.verifiedAt
  obtain ⟨createdAt, expiresAt, hcreatedAt, hexpiresAt, hcreated_le, -⟩ :=
    expiresAt_of_current h.current
  have hmatching : matchingMethod call.requirement (issued.result.read options.runtime.dates) =
      some accepted := by
    rw [h.result]
    simp only [matchingMethod, ResultDocument.read, resultDocument, hcompatible.providerId,
      hcompatible.methodId]
    exact acceptedMethodForProof_eq_ok h.selects
  have hissuedAt : (issued.result.read options.runtime.dates).issuedAt = some call.issuedAt := by
    rw [h.result]
    exact options.runtime.dates.parse_dateText _ call.isDate_issuedAt
  have hexpires : (issued.result.read options.runtime.dates).expiresAt =
      some (expiresAtMs options call verified) := by
    rw [h.result]
    exact options.runtime.dates.parse_dateText _ h.isDate
  have hverifies : (issued.result.read options.runtime.dates).verifiedAt =
      options.runtime.dates.parse verified.verifiedAt := by
    rw [h.result]
    rfl
  constructor
  · intro hsatisfies
    obtain ⟨times, hfit⟩ := hsatisfies.times
    obtain ⟨other, hother, hadmits⟩ := hsatisfies.accepted
    rw [hmatching, Option.some.injEq] at hother
    subst hother
    have hissued := hfit.issuedAt
    have hunexpired := hfit.expiresAt
    rw [hissuedAt, Option.some.injEq] at hissued
    rw [hexpires, Option.some.injEq] at hunexpired
    refine ⟨hissued ▸ hfit.issued_le_now, hunexpired ▸ hfit.now_lt_expires, ?_⟩
    rw [← hverifies]
    exact hadmits.fresh
  · intro hforce
    have hlevel : ∀ level ∈ accepted.assuranceLevel,
        (issued.result.read options.runtime.dates).assuranceLevel = some level := by
      intro level hlevel
      have hnonempty := (haccepted.assuranceLevel level hlevel).1
      rw [h.result]
      refine Option.filter_eq_some_iff.mpr ⟨hcompatible.acceptedLevel level hlevel, ?_⟩
      rw [Bool.not_eq_true', List.isEmpty_eq_false_iff]
      exact List.length_pos_iff.mp hnonempty
    refine {
      dependencyId := by rw [h.result]; rfl
      purpose := by rw [h.result]; rfl
      audience := by rw [h.result]; rfl
      requestDigest := by rw [h.result]; rfl
      binding := by rw [h.result]; rfl
      accepted := ⟨accepted, hmatching, ?_⟩
      descriptor := ⟨descriptor, ?_, ?_⟩
      times := ⟨⟨createdAt, expiresAt, verifiedAt, call.issuedAt,
        expiresAtMs options call verified⟩, hcreatedAt, hexpiresAt, hverifies.trans hverifiedAt,
        hissuedAt, hexpires, hcreated_le, hverified_le, hforce.issued, hforce.unexpired,
        expiresAtMs_le_required hexpiresAt⟩ }
    · refine ⟨?_, ?_, ?_, hlevel, hverifies ▸ hforce.fresh⟩
      · rw [h.result]
        exact hcompatible.descriptorVersion.trans h.version
      · rw [h.result]
        exact hcompatible.acceptedScope
      · rw [h.result]
        exact hcompatible.acceptedMode
    · rw [h.result]
      simp only [ResultDocument.read, resultDocument, hcompatible.providerId,
        hcompatible.methodId]
      exact h.describes
    · rw [h.result]
      exact ⟨h.enabled, hcompatible.descriptorVersion, hcompatible.nativeScope,
        hcompatible.nativeMode, fun level hlevel =>
          hcompatible.knownLevel level (Option.filter_eq_some_iff.mp hlevel).1, rfl, rfl⟩

/-- A token is read back if and only if it is short enough and its result meets the schema. -/
theorem verify_issued_iff {verify : PublicKey → List UInt8 → List UInt8 → Bool}
    {verifier : ResultVerifier PublicKey} {result : ResultDocument}
    (h : IssuedFrom service options call accepted descriptor verified pairwiseHumanId issued)
    (hparsed : ParsedRequirement options.runtime document)
    (hrequirement : call.requirement = document.read options.runtime.dates)
    (hsigner : SignsFor options.runtime verify verifier options.resultSigner) :
    verifyHumanResultToken options.runtime verify verifier issued.token = .ok result ↔
      result = issued.result ∧ issued.token.length ≤ 65536 ∧
        issued.result.Accepted options.runtime.dates := by
  have haudience : issued.result.audience = document.resource.audience := by
    rw [h.result, resultDocument, hrequirement]
    rfl
  by_cases hsize : issued.token.length ≤ 65536
  · rw [verifyHumanResultToken_signed hsigner h.token hsize, parseHumanResult]
    constructor
    · intro hread
      split at hread
      · rename_i found hfound
        cases hread
        obtain ⟨haccepted, audience, hchecked, -, rfl⟩ := HumanResultSchema_toJson.mp hfound
        rw [haudience, hparsed.audience.1, Option.some.injEq] at hchecked
        exact ⟨by rw [← hchecked, ← haudience], hsize, haccepted⟩
      · cases hread
    · rintro ⟨rfl, -, haccepted⟩
      rw [HumanResultSchema_toJson.mpr ⟨haccepted, issued.result.audience,
        haudience ▸ hparsed.audience.1, haudience ▸ hparsed.audience.2, rfl⟩]
  · have hlong : 65536 < issued.token.length := Nat.not_le.mp hsize
    simp [verifyHumanResultToken, hlong, hsize]

variable {json : Json} {descriptors : List HumanMethodDescriptor} {catalog : MethodCatalog}
  {nonceStore : NonceStore σ} {replayStore : ProviderReplayStore} {s s' : σ}
  {spent spent' : SpentKeys} {verify : PublicKey → List UInt8 → List UInt8 → Bool}

theorem header_issued_iff {τ : Type} (input : ProofHeaderInput PublicKey τ) {consumedAt : Instant}
    {u : τ} {result : ResultDocument}
    (h : IssuedFrom service options call accepted descriptor verified pairwiseHumanId issued)
    (hcatalog : defineMethodCatalog descriptors = .ok catalog)
    (hservice : service.catalog = catalog.get)
    (hparsed : ParsedRequirement options.runtime document)
    (hrequirement : call.requirement = document.read options.runtime.dates)
    (huuid : call.randomUuid.length = 36)
    (hsigner : SignsFor options.runtime verify input.verifier options.resultSigner)
    (hproof : input.humanProof = issued.token) (hsame : input.requirement = call.requirement)
    (hused : input.catalog = service.catalog) :
    (verifyHumanProofHeader options.runtime verify input consumedAt u).1 = .ok result ↔
      result = issued.result ∧ issued.token.length ≤ 65536 ∧
        Presentable options call descriptor verified pairwiseHumanId ∧
        InForce options call accepted verified input.now ∧
        ReplayAdmits options.runtime input issued.result consumedAt u := by
  have hdescribed := h.describes
  rw [hservice] at hdescribed
  have hdefined := (defined_of_defineMethodCatalog hcatalog hdescribed).2
  rw [verifyHumanProofHeader_eq_ok, hproof, hsame, hused,
    verify_issued_iff h hparsed hrequirement hsigner,
    accepted_resultDocument_iff h hparsed hrequirement hdefined huuid]
  constructor
  · rintro ⟨⟨rfl, hsize, hanswers⟩, hsatisfies, hadmits⟩
    exact ⟨rfl, hsize, hanswers,
      (satisfies_resultDocument_iff h hparsed hrequirement).mp hsatisfies, hadmits⟩
  · rintro ⟨rfl, hsize, hanswers, hforce, hadmits⟩
    exact ⟨⟨rfl, hsize, hanswers⟩,
      (satisfies_resultDocument_iff h hparsed hrequirement).mpr hforce, hadmits⟩

/-- The token at the time of its issuance, without a replay store. -/
def presentedAtIssue (service : X424Service) (call : SatisfyCall) (issued : IssuedResult)
    (verifier : ResultVerifier PublicKey) : ProofHeaderInput PublicKey Unit where
  humanProof := issued.token
  requirement := call.requirement
  verifier := verifier
  catalog := service.catalog
  replayStore := none
  requireReplayStore := false
  now := call.issuedAt

theorem length_encodePart (runtime : Runtime) (json : Json) :
    (encodePart runtime json).length = partSize runtime json :=
  length_encodeStrictBase64Url _

theorem length_token
    (h : IssuedFrom service options call accepted descriptor verified pairwiseHumanId issued)
    {verifier : ResultVerifier PublicKey}
    (hsigner : SignsFor options.runtime verify verifier options.resultSigner) :
    issued.token.length = tokenSize options call descriptor verified pairwiseHumanId := by
  obtain ⟨publicKey, -, hverify⟩ := hsigner.verified
  have htoken := h.token
  simp only [signHumanResult, bind, Except.bind] at htoken
  split at htoken
  · cases htoken
  · rename_i signature hsignature
    have hlength : (encodeStrictBase64Url signature).length = 86 := by
      rw [length_encodeStrictBase64Url, (hverify _ _ hsignature).1]
    rw [← Except.ok.inj htoken, h.result, signingInput]
    simp only [List.length_append, List.length_cons, length_encodePart, hlength, tokenSize]
    omega

theorem lt_expiresAtMs
    (h : IssuedFrom service options call accepted descriptor verified pairwiseHumanId issued)
    (httl : ∀ seconds ∈ options.maximumResultTtlSeconds, 0 < seconds) :
    call.issuedAt < expiresAtMs options call verified := by
  obtain ⟨_, expiresAt, -, hexpiresAt, -, hcurrent⟩ := expiresAt_of_current h.current
  have hlatest :
      call.issuedAt < call.issuedAt + options.maximumResultTtlSeconds.getD 300 * 1000 := by
    refine Int.lt_add_of_pos_right _ (Int.mul_pos ?_ (by decide))
    cases hseconds : options.maximumResultTtlSeconds with
    | none => decide
    | some seconds => exact httl seconds hseconds
  unfold expiresAtMs
  simp only [hexpiresAt]
  split
  · rename_i providerExpiresAt hprovider
    obtain ⟨value, hvalue, hunexpired⟩ := h.compatible.unexpired _ hprovider
    cases hvalue
    exact lt_min hunexpired (lt_min hcurrent hlatest)
  · exact lt_min hcurrent hlatest

theorem inForce_issued
    (h : IssuedFrom service options call accepted descriptor verified pairwiseHumanId issued)
    (httl : ∀ seconds ∈ options.maximumResultTtlSeconds, 0 < seconds) :
    InForce options call accepted verified call.issuedAt :=
  ⟨Int.le_refl _, lt_expiresAtMs h httl, h.compatible.fresh⟩

end Presented

/-! ## An identifier that the issuer takes and the resource server does not -/

namespace OneVote

theorem issues {identifier : Except JsError JsString}
    (h : CanIssue (options identifier) call descriptor verified) :
    ∃ issued s' spent', satisfy service (options identifier) call inMemoryNonceStore
      inMemoryProviderReplayStore nonces [] = (.ok issued, s', spent') := by
  obtain ⟨key, s', -, houtcome⟩ := satisfy_of_spends (spendsSlot identifier)
  obtain ⟨issued, hissued⟩ := (canIssue_iff (spendsSlot identifier).current).mp h
  exact ⟨issued, s', _, by rw [houtcome, hissued]⟩

theorem catalog_defined : defineMethodCatalog [descriptor] = .ok catalog := by
  decide

theorem document_valid : document.Valid runtime.dates where
  dependencyId := ⟨by decide, by decide⟩
  purpose := ⟨by decide, by decide⟩
  resource := ⟨⟨by decide, by decide⟩, by decide⟩
  nonce := ⟨by decide, by decide⟩
  binding := ⟨by decide, by decide⟩
  createdAt := by decide
  expiresAt := by decide
  accepts := ⟨by decide, List.forall_mem_singleton.mpr
    ⟨by decide, by decide, ⟨by decide, by decide⟩, by simp, by decide, by simp, by simp⟩⟩
  providerRequests := by simp [document]

theorem document_plain : document.Plain wholeNumbers :=
  ⟨by simp [document], by simp [document]⟩

theorem distinctKeys_document : document.toJson.DistinctKeys :=
  (RequirementDocument.wellFormed_toJson document_valid.safeAge
    document_plain.wellFormed).distinctKeys

theorem document_schema (identifier : Except JsError JsString) :
    HumanRequirementSchema (options identifier).runtime.dates (options identifier).runtime.urls
      document.toJson = some document :=
  (RequirementDocument.schema_toJson document_plain.protoFree).mpr
    ⟨document_valid, _, _, ⟨rfl, by decide⟩, ⟨rfl, by decide⟩, rfl⟩

end OneVote

namespace LongIdentifier

def pairwiseHumanId : JsString := pairwisePrefix ++ List.replicate 200 0x61

def options : IssuingOptions := OneVote.options (.ok pairwiseHumanId)

def sign : List UInt8 := List.replicate 64 7

def verify (_ : Unit) (_ signature : List UInt8) : Bool := signature == sign

def input (issued : IssuedResult) (now : Instant) : ProofHeaderInput Unit Unit where
  humanProof := issued.token
  requirement := OneVote.call.requirement
  verifier := .single (js "k") ()
  catalog := OneVote.service.catalog
  replayStore := none
  requireReplayStore := false
  now := now

theorem signsFor (identifier : Except JsError JsString) :
    SignsFor (OneVote.options identifier).runtime verify (.single (js "k") ())
      (OneVote.options identifier).resultSigner where
  keyId_ne_nil := show js "k" ≠ [] by decide
  verified := by
    refine ⟨(), rfl, fun _ signature h => ?_⟩
    rw [← Except.ok.inj h]
    exact ⟨List.length_replicate, beq_self_eq_true sign⟩

theorem length_pairwiseHumanId : pairwiseHumanId.length = 211 := by
  rw [pairwiseHumanId, List.length_append, List.length_replicate]
  rfl

theorem canIssue : CanIssue options OneVote.call OneVote.descriptor OneVote.verified where
  derives := ⟨pairwiseHumanId, rfl, by decide +kernel, sign, rfl⟩
  ttl := by decide
  plain := rfl

end LongIdentifier

namespace ShortIdentifier

def pairwiseHumanId : JsString := pairwisePrefix ++ js "1"

def options : IssuingOptions := OneVote.options (.ok pairwiseHumanId)

theorem presentable : Presentable options OneVote.call OneVote.descriptor OneVote.verified
    pairwiseHumanId where
  assuranceLevel := by simp [OneVote.verified]
  pairwiseHumanId := by decide
  uniquenessScope := ⟨by decide, by decide⟩
  proofDigest := by decide
  claim := by decide
  nonClaims := ⟨by decide, List.forall_mem_singleton.mpr ⟨by decide, by decide⟩⟩
  verifiedAt := by decide
  issuedAt := by decide
  expiresAt := by decide
  stateReferences := by simp [OneVote.verified]

theorem size_token :
    tokenSize options OneVote.call OneVote.descriptor OneVote.verified pairwiseHumanId ≤ 65536 := by
  decide +kernel

theorem canIssue : CanIssue options OneVote.call OneVote.descriptor OneVote.verified where
  derives := ⟨pairwiseHumanId, rfl, by decide +kernel, LongIdentifier.sign, rfl⟩
  ttl := by decide
  plain := rfl

end ShortIdentifier

end X424
