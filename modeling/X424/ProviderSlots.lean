import X424.Satisfaction
import X424.Schemas.Requirement

/-!
# Provider slots and results

A subject's slot is spent before the result is issued, and never given back.
When it is spent for a result, and when it is lost.
-/

namespace X424

open Foundation

section Slots

variable {σ : Type} (service : X424Service) (options : IssuingOptions) (call : SatisfyCall)
  (nonceStore : NonceStore σ) (store : ProviderReplayStore) (s : σ) (spent : SpentKeys)

/-- The call passes every check up to the provider replay store and finds its slot free. -/
structure SpendsSlot (descriptor : HumanMethodDescriptor) (verified : ProviderVerifiedHuman)
    (entry : ProviderReplayEntry) : Prop where
  checked : ∃ accepted, service.checkSatisfaction call.requirement call.proof
    call.challengeCheckedAt = .ok (accepted, descriptor)
  nonceUnused : (nonceStore.consume call.requirement.dependencyId call.requirement.nonce
    call.challengeCheckedAt call.consumedAt s).1 = .ok true
  verifies : call.verified = .ok verified
  current : call.requirement.isCurrent call.issuedAt = true
  compatible : assertVerifiedOutput options.runtime.dates verified call.requirement call.proof
    descriptor call.issuedAt = .ok ()
  digested : replayEntry options verified = .ok (some entry)
  free : store.Free entry spent

/-- The deriver gives a well-formed identifier, the expiry is a time that a `Date` can
hold, the adapter's objects are plain JSON and the signer signs. -/
structure CanIssue (descriptor : HumanMethodDescriptor) (verified : ProviderVerifiedHuman) :
    Prop where
  derives : ∃ pairwiseHumanId,
    options.pairwiseDeriver.derivePairwiseHumanId call.requirement.resource.audience
      verified.providerId verified.methodId verified.providerSubject = .ok pairwiseHumanId ∧
    isPairwiseHumanId pairwiseHumanId = true ∧
    ∃ signature, options.resultSigner.sign (utf8 (signingInput options.runtime
      options.resultSigner.keyId
      (resultDocument options call descriptor verified pairwiseHumanId))) = .ok signature
  ttl : -maximumTime ≤ call.issuedAt + options.maximumResultTtlSeconds.getD 300 * 1000
  plain : verified.plain = true

variable {service options call nonceStore store s spent}

/-! ## The two halves of `satisfy` -/

theorem beginSatisfy_eq_ok {accepted : HumanMethodRequirement}
    {descriptor : HumanMethodDescriptor} {s' : σ} :
    service.beginSatisfy nonceStore call.requirement call.proof call.challengeCheckedAt
        call.consumedAt s = (.ok (accepted, descriptor), s') ↔
      service.checkSatisfaction call.requirement call.proof call.challengeCheckedAt =
          .ok (accepted, descriptor) ∧
        nonceStore.consume call.requirement.dependencyId call.requirement.nonce
          call.challengeCheckedAt call.consumedAt s = (.ok true, s') := by
  unfold X424Service.beginSatisfy
  cases service.checkSatisfaction call.requirement call.proof call.challengeCheckedAt with
  | error error => simp
  | ok admitted =>
      rcases nonceStore.consume call.requirement.dependencyId call.requirement.nonce
        call.challengeCheckedAt call.consumedAt s with ⟨_ | _ | _, next⟩ <;> simp

theorem admitVerified_eq_ok {descriptor : HumanMethodDescriptor}
    {verified : ProviderVerifiedHuman} {entry : Option ProviderReplayEntry} :
    admitVerified options call descriptor = .ok (verified, entry) ↔
      call.verified = .ok verified ∧ call.requirement.isCurrent call.issuedAt = true ∧
        assertVerifiedOutput options.runtime.dates verified call.requirement call.proof descriptor
          call.issuedAt = .ok () ∧ replayEntry options verified = .ok entry := by
  unfold admitVerified assertRequirementCurrent
  cases hverified : call.verified with
  | error error => simp [bind, Except.bind]
  | ok output =>
      by_cases hcurrent : call.requirement.isCurrent call.issuedAt = true
      · simp only [hcurrent, if_true, bind, Except.bind]
        cases hcompatible : assertVerifiedOutput options.runtime.dates output call.requirement
            call.proof descriptor call.issuedAt with
        | error error =>
            refine ⟨nofun, ?_⟩
            rintro ⟨⟨⟩, -, hok, -⟩
            rw [hcompatible] at hok
            cases hok
        | ok _ =>
            cases hentry : replayEntry options output with
            | error error =>
                refine ⟨nofun, ?_⟩
                rintro ⟨⟨⟩, -, -, hok⟩
                rw [hentry] at hok
                cases hok
            | ok found =>
                constructor
                · rintro ⟨⟩
                  exact ⟨rfl, trivial, hcompatible, hentry⟩
                · rintro ⟨⟨⟩, -, -, hok⟩
                  rw [hentry] at hok
                  cases hok
                  rfl
      · simp [hcurrent, bind, Except.bind]

theorem signHumanResult_eq_ok {runtime : Runtime} {result : ResultDocument}
    {signer : ResultSigner} {token : JsString} :
    signHumanResult runtime result signer = .ok token ↔
      ∃ signature, signer.sign (utf8 (signingInput runtime signer.keyId result)) = .ok signature ∧
        token = signingInput runtime signer.keyId result ++
          0x2E :: encodeStrictBase64Url signature := by
  simp only [signHumanResult, bind, Except.bind]
  cases signer.sign (utf8 (signingInput runtime signer.keyId result)) with
  | error error => simp
  | ok signature => simp [eq_comm]

theorem derivePairwiseHumanId_eq_ok {verified : ProviderVerifiedHuman}
    {pairwiseHumanId : JsString} :
    derivePairwiseHumanId options call verified = .ok pairwiseHumanId ↔
      options.pairwiseDeriver.derivePairwiseHumanId call.requirement.resource.audience
          verified.providerId verified.methodId verified.providerSubject = .ok pairwiseHumanId ∧
        isPairwiseHumanId pairwiseHumanId = true := by
  simp only [derivePairwiseHumanId, bind, Except.bind]
  cases options.pairwiseDeriver.derivePairwiseHumanId call.requirement.resource.audience
      verified.providerId verified.methodId verified.providerSubject with
  | error error => simp
  | ok text =>
      by_cases htext : isPairwiseHumanId text = true
      · simp only [htext, Bool.not_true, Bool.false_eq_true, if_false, Except.ok.injEq]
        exact ⟨fun h => ⟨h, h ▸ htext⟩, fun h => h.1⟩
      · simp only [Bool.not_eq_true] at htext
        simp only [htext, Bool.not_false, if_true, false_iff, Except.ok.injEq, not_and,
          Bool.not_eq_true, reduceCtorEq]
        rintro rfl
        exact htext

theorem issueResult_eq_ok {descriptor : HumanMethodDescriptor}
    {verified : ProviderVerifiedHuman} {issued : IssuedResult} :
    issueResult options call descriptor verified = .ok issued ↔
      ∃ pairwiseHumanId, derivePairwiseHumanId options call verified = .ok pairwiseHumanId ∧
        IsDate (expiresAtMs options call verified) ∧ verified.plain = true ∧
        issued.result = resultDocument options call descriptor verified pairwiseHumanId ∧
        signHumanResult options.runtime issued.result options.resultSigner =
          .ok issued.token := by
  simp only [issueResult, toISOStringText, call.isDate_issuedAt, if_true, bind, Except.bind]
  cases derivePairwiseHumanId options call verified with
  | error error => simp
  | ok pairwiseHumanId =>
      by_cases hdate : IsDate (expiresAtMs options call verified)
      · cases hplain : verified.plain with
        | false => simp [hdate]
        | true =>
            simp only [hdate, if_true, Bool.not_true, Bool.false_eq_true, if_false,
              Except.ok.injEq, true_and, exists_eq_left']
            cases hsigned : signHumanResult options.runtime
                (resultDocument options call descriptor verified pairwiseHumanId)
                options.resultSigner with
            | error error =>
                refine ⟨nofun, ?_⟩
                rintro ⟨hresult, htoken⟩
                rw [hresult, hsigned] at htoken
                cases htoken
            | ok token =>
                constructor
                · rintro ⟨⟩
                  exact ⟨rfl, hsigned⟩
                · rintro ⟨hresult, htoken⟩
                  rw [hresult, hsigned] at htoken
                  obtain ⟨result, token⟩ := issued
                  cases hresult
                  cases htoken
                  rfl
      · simp [hdate]

theorem expiresAt_of_current {requirement : HumanRequirement} {now : Instant}
    (h : requirement.isCurrent now = true) :
    ∃ createdAt expiresAt, requirement.createdAt = some createdAt ∧
      requirement.expiresAt = some expiresAt ∧ createdAt ≤ now ∧ now < expiresAt := by
  unfold HumanRequirement.isCurrent at h
  split at h
  · rename_i createdAt expiresAt hcreated hexpires
    simp only [Bool.and_eq_true, decide_eq_true_eq] at h
    exact ⟨createdAt, expiresAt, hcreated, hexpires, h.1.1.2, h.1.2⟩
  · cases h

theorem isDate_expiresAtMs (hcurrent : call.requirement.isCurrent call.issuedAt = true)
    (verified : ProviderVerifiedHuman) :
    IsDate (expiresAtMs options call verified) ↔
      -maximumTime ≤ call.issuedAt + options.maximumResultTtlSeconds.getD 300 * 1000 := by
  obtain ⟨_, expiresAt, _, hexpires, _, _⟩ := expiresAt_of_current hcurrent
  have hrequired := call.isDate_expiresAt expiresAt hexpires
  unfold expiresAtMs
  simp only [hexpires]
  split
  · rename_i provided hprovided
    obtain ⟨text, -, hparsed⟩ := Option.map_eq_some_iff.mp hprovided
    have hprovidedDate := options.runtime.dates.isDate_of_parse text provided hparsed
    unfold IsDate at hrequired hprovidedDate ⊢
    simp only [le_min_iff, min_le_iff]
    tauto
  · unfold IsDate at hrequired ⊢
    simp only [le_min_iff, min_le_iff]
    tauto

theorem canIssue_iff {descriptor : HumanMethodDescriptor} {verified : ProviderVerifiedHuman}
    (hcurrent : call.requirement.isCurrent call.issuedAt = true) :
    CanIssue options call descriptor verified ↔
      ∃ issued, issueResult options call descriptor verified = .ok issued := by
  constructor
  · rintro ⟨⟨pairwiseHumanId, hderives, hvalid, signature, hsigns⟩, httl, hplain⟩
    have hderived := derivePairwiseHumanId_eq_ok.mpr ⟨hderives, hvalid⟩
    have hdate := (isDate_expiresAtMs hcurrent verified).mpr httl
    have hsigned := signHumanResult_eq_ok.mpr ⟨signature, hsigns, rfl⟩
    exact ⟨⟨_, _⟩, issueResult_eq_ok.mpr ⟨pairwiseHumanId, hderived, hdate, hplain, rfl, hsigned⟩⟩
  · rintro ⟨issued, hissued⟩
    obtain ⟨pairwiseHumanId, hderived, hdate, hplain, hresult, hsigned⟩ :=
      issueResult_eq_ok.mp hissued
    obtain ⟨hderives, hvalid⟩ := derivePairwiseHumanId_eq_ok.mp hderived
    obtain ⟨signature, hsigns, -⟩ := signHumanResult_eq_ok.mp hsigned
    rw [hresult] at hsigns
    exact ⟨⟨pairwiseHumanId, hderives, hvalid, signature, hsigns⟩,
      (isDate_expiresAtMs hcurrent verified).mp hdate, hplain⟩

/-! ## What becomes of the slot -/

section Spending

variable {descriptor : HumanMethodDescriptor} {verified : ProviderVerifiedHuman}
  {entry : ProviderReplayEntry}

theorem satisfy_of_spends
    (h : SpendsSlot service options call nonceStore store s spent descriptor verified entry) :
    ∃ key s', store.key entry = some key ∧
      satisfy service options call nonceStore store s spent =
        (issueResult options call descriptor verified, s', key :: spent) := by
  obtain ⟨accepted, hchecked⟩ := h.checked
  obtain ⟨key, hkey, hspent⟩ := ProviderReplayStore.consume_of_free h.free
  have hbegin := beginSatisfy_eq_ok.mpr ⟨hchecked, Prod.ext h.nonceUnused rfl⟩
  have hadmit := admitVerified_eq_ok.mpr ⟨h.verifies, h.current, h.compatible, h.digested⟩
  exact ⟨key, _, hkey, by simp only [satisfy, hbegin, hadmit, hspent]; rfl⟩

theorem satisfy_of_not_spends
    (h : ∀ descriptor verified entry,
      ¬ SpendsSlot service options call nonceStore store s spent descriptor verified entry) :
    (satisfy service options call nonceStore store s spent).2.2 = spent := by
  unfold satisfy
  rcases hbegin : service.beginSatisfy nonceStore call.requirement call.proof
    call.challengeCheckedAt call.consumedAt s with ⟨error | ⟨accepted, descriptor⟩, next⟩
  · rfl
  · simp only
    cases hadmit : admitVerified options call descriptor with
    | error error => rfl
    | ok admitted =>
        obtain ⟨verified, entry | entry⟩ := admitted
        · rfl
        · obtain ⟨hchecked, hconsumed⟩ := beginSatisfy_eq_ok.mp hbegin
          obtain ⟨hverified, hcurrent, hcompatible, hdigested⟩ := admitVerified_eq_ok.mp hadmit
          have hfree : ¬ store.Free entry spent := fun hfree =>
            h descriptor verified entry ⟨⟨accepted, hchecked⟩, congrArg Prod.fst hconsumed,
              hverified, hcurrent, hcompatible, hdigested, hfree⟩
          simp only [ProviderReplayStore.consume_of_not_free hfree]

end Spending

/-- A failed call leaves the slots as they were, so that the subject's next proof is
not refused for it; a slot is spent only with a result for its subject. -/
structure SpendsForResults (store : ProviderReplayStore) (spent : SpentKeys)
    (outcome : Except JsError IssuedResult × σ × SpentKeys) : Prop where
  unchanged : ∀ error, outcome.1 = .error error → outcome.2.2 = spent
  admitted : ∀ error entry, outcome.1 = .error error →
    store.consume entry outcome.2.2 = store.consume entry spent
  gained : outcome.2.2 ≠ spent → ∃ issued entry key, outcome.1 = .ok issued ∧
    outcome.2.2 = key :: spent ∧ store.key entry = some key ∧
    entry.providerId = issued.result.providerId ∧ entry.methodId = issued.result.methodId ∧
    entry.uniquenessScope = issued.result.uniquenessScope

theorem replayEntry_eq_some {verified : ProviderVerifiedHuman} {entry : ProviderReplayEntry}
    (h : replayEntry options verified = .ok (some entry)) :
    entry.providerId = verified.providerId ∧ entry.methodId = verified.methodId ∧
      entry.uniquenessScope = verified.uniquenessScope := by
  simp only [replayEntry, bind, Except.bind] at h
  split_ifs at h
  · split at h
    · cases h
    · split_ifs at h
      cases h
      exact ⟨rfl, rfl, rfl⟩
  · cases h

variable (service options call nonceStore store s spent) in
theorem slot_spent_for_result :
    SpendsForResults store spent (satisfy service options call nonceStore store s spent) ↔
      ∀ descriptor verified entry,
        SpendsSlot service options call nonceStore store s spent descriptor verified entry →
          CanIssue options call descriptor verified := by
  constructor
  · intro h descriptor verified entry hspends
    obtain ⟨key, s', -, houtcome⟩ := satisfy_of_spends hspends
    rw [canIssue_iff hspends.current]
    cases hissued : issueResult options call descriptor verified with
    | ok issued => exact ⟨issued, rfl⟩
    | error error =>
        have hunchanged := h.unchanged
        rw [houtcome] at hunchanged
        exact absurd (hunchanged error hissued) (List.cons_ne_self key spent)
  · intro h
    have hunchanged : ∀ error,
        (satisfy service options call nonceStore store s spent).1 = .error error →
        (satisfy service options call nonceStore store s spent).2.2 = spent := by
      intro error herror
      refine satisfy_of_not_spends fun descriptor verified entry hspends => ?_
      obtain ⟨key, s', -, houtcome⟩ := satisfy_of_spends hspends
      obtain ⟨issued, hissued⟩ :=
        (canIssue_iff hspends.current).mp (h descriptor verified entry hspends)
      rw [houtcome, hissued] at herror
      cases herror
    refine ⟨hunchanged, fun error entry herror => by rw [hunchanged error herror], ?_⟩
    intro hchanged
    by_contra hlost
    refine hchanged (satisfy_of_not_spends fun descriptor verified entry hspends => hlost ?_)
    obtain ⟨key, s', hkey, houtcome⟩ := satisfy_of_spends hspends
    obtain ⟨issued, hissued⟩ :=
      (canIssue_iff hspends.current).mp (h descriptor verified entry hspends)
    obtain ⟨pairwiseHumanId, -, -, -, hresult, -⟩ := issueResult_eq_ok.mp hissued
    obtain ⟨hprovider, hmethod, hscope⟩ := replayEntry_eq_some hspends.digested
    rw [houtcome]
    exact ⟨issued, entry, key, hissued, rfl, hkey, by rw [hresult, hprovider]; rfl,
      by rw [hresult, hmethod]; rfl, by rw [hresult, hscope]; rfl⟩

end Slots

/-! ## A deriver that fails -/

namespace OneVote

def descriptor : HumanMethodDescriptor where
  providerId := js "world"
  methodId := js "orb"
  version := js "1"
  status := .enabled
  claim := js "one human"
  nonClaims := [js "identity"]
  assuranceLevels := []
  nativeScopeKinds := [.action]
  verificationModes := [.backend]

def catalog : MethodCatalog := [(js "world:orb", descriptor)]

def service : X424Service where
  catalog := catalog.get
  adapters := [js "world"]

def urls : JsUrls where
  check text := if text = js "https://a.example" ∨ text = js "https://a.example/x" then some text
    else none
  check_check h := by
    split_ifs at h with hknown
    cases h
    exact if_pos hknown

def runtime : Runtime := ⟨wholeNumbers, writtenDates, urls⟩

def document : RequirementDocument where
  dependencyId := js "d"
  purpose := js "p"
  resource := ⟨js "POST", js "https://a.example/x", js "https://a.example",
    js "sha256:47DEQpj8HBSa-_TImW-5JCeuQeRkm5NMpJWZG3hSuFU"⟩
  nonce := js "n"
  binding := ⟨.session, js "s"⟩
  createdAt := js "1970-01-01T00:00:00.000Z"
  expiresAt := js "1970-01-01T00:10:00.000Z"
  accepts := [⟨js "world", js "orb", js "1", none, [.action], none, none⟩]
  providerRequests := none

def requirement : HumanRequirement := document.read writtenDates

theorem requirement_expiresAt : requirement.expiresAt = some 600000 := by decide

def verified : ProviderVerifiedHuman where
  providerId := js "world"
  methodId := js "orb"
  descriptorVersion := js "1"
  assuranceLevel := none
  providerSubject := js "nullifier"
  uniquenessScope := ⟨.action, js "vote"⟩
  verificationMode := .backend
  providerReplayMode := some (js "verifier")
  proofDigest := js "sha256:47DEQpj8HBSa-_TImW-5JCeuQeRkm5NMpJWZG3hSuFU"
  verifiedAt := js "1970-01-01T00:00:02.000Z"
  expiresAt := none
  stateReferences := none
  plain := true

def call : SatisfyCall where
  requirement := requirement
  isDate_expiresAt expiresAt h := by
    rw [requirement_expiresAt, Option.some.injEq] at h
    subst h
    decide
  proof := ⟨js "0.1", js "d", js "world", js "orb", ⟨.session, js "s"⟩⟩
  challengeCheckedAt := 1000
  consumedAt := 1000
  verified := .ok verified
  issuedAt := 3000
  isDate_issuedAt := by decide
  randomUuid := js "0b5e1a52-6b1f-4f0e-9d7c-2f0f6f9e7c11"

/-- The entries after `register`. -/
def nonces : NonceEntries :=
  (inMemoryNonceStore.put (js "d") (js "n") (some 600000) 0 inMemoryNonceStore.empty).2

def replayDigest : JsString := js "hmac-sha256:47DEQpj8HBSa-_TImW-5JCeuQeRkm5NMpJWZG3hSuFU"

def entry : ProviderReplayEntry :=
  ⟨js "world", js "orb", ⟨.action, js "vote"⟩, replayDigest⟩

def options (pairwiseHumanId : Except JsError JsString) : IssuingOptions where
  runtime := runtime
  pairwiseDeriver := ⟨fun _ _ _ _ => pairwiseHumanId, fun _ _ _ _ => .ok replayDigest⟩
  resultSigner := ⟨js "k", fun _ => .ok (List.replicate 64 7)⟩
  maximumResultTtlSeconds := none

theorem spendsSlot (pairwiseHumanId : Except JsError JsString) :
    SpendsSlot service (options pairwiseHumanId) call inMemoryNonceStore
      inMemoryProviderReplayStore nonces [] descriptor verified entry where
  checked := ⟨_, rfl⟩
  nonceUnused := by rfl
  verifies := rfl
  current := by rfl
  compatible := by rfl
  digested := by rfl
  free := ⟨_, rfl, List.not_mem_nil⟩

end OneVote

/-- The call for the first vote throws, and the slot of the voter is gone. -/
theorem slot_lost_to_deriver :
    ¬ SpendsForResults inMemoryProviderReplayStore []
      (satisfy OneVote.service (OneVote.options (.error ⟨js "HSM unavailable"⟩)) OneVote.call
        inMemoryNonceStore inMemoryProviderReplayStore OneVote.nonces []) := by
  intro h
  obtain ⟨key, s', -, houtcome⟩ :=
    satisfy_of_spends (OneVote.spendsSlot (.error ⟨js "HSM unavailable"⟩))
  have hunchanged := h.unchanged
  rw [houtcome] at hunchanged
  exact absurd (hunchanged _ rfl) (List.cons_ne_self key [])

end X424
