import X424.Providers.WorldId

/-!
# A World profile accepts its own material

What the profile signs for a requirement passes the check of its adapter under
the key of every accepted World method.
-/

namespace X424

/-! ## Material -/

theorem parseWorldIdProviderRequest_toJson (request : WorldIdProviderRequest) :
    parseWorldIdProviderRequest (some request.toJson) = .ok request := by
  have hread : readProviderRequest (some request.toJson) = some request := by
    obtain ⟨appId, rpId, action, environment, allowLegacyProofs, signal, signalHash, context⟩ :=
      request
    cases environment <;> rfl
  rw [parseWorldIdProviderRequest, hread]

section Material

variable {library : WorldIdLibrary} {options : CreateWorldIdProviderRequestOptions}
  {request : WorldIdProviderRequest}

structure CreateWorldIdProviderRequestOptions.Made (library : WorldIdLibrary)
    (options : CreateWorldIdProviderRequestOptions) (request : WorldIdProviderRequest) : Prop where
  appId : request.appId = options.appId
  rpId : request.rpId = options.rpId ∧ request.rpContext.rp_id = options.rpId
  action : request.action = options.action
  environment : request.environment = options.environment
  allowLegacyProofs : request.allowLegacyProofs = options.allowLegacyProofs.getD false
  signal : request.signal = options.binding.value
  signalHash : request.signalHash = library.hashSignal options.binding.value
  lifetime : WorldIdAdapter.isLifetime request.rpContext.created_at
    request.rpContext.expires_at = true

theorem isLifetime_of_ttl {createdAt expiresAt ttl : ℚ} (hcreated : isSafeInteger createdAt = true)
    (hexpires : isSafeInteger expiresAt = true) (hlifetime : expiresAt - createdAt = ttl)
    (hlow : 30 ≤ ttl) (hhigh : ttl ≤ 900) :
    WorldIdAdapter.isLifetime createdAt expiresAt = true := by
  have hlt : createdAt < expiresAt := by linarith
  rw [WorldIdAdapter.isLifetime, hcreated, hexpires, hlifetime, decide_eq_true hlt,
    decide_eq_true hlow, decide_eq_true hhigh]
  rfl

theorem createWorldIdProviderRequest_made (hsigns : library.SignsForTtl)
    (h : createWorldIdProviderRequest library options = .ok request) :
    options.Made library request := by
  unfold createWorldIdProviderRequest at h
  simp only at h
  split_ifs at h with happ hrp hempty httl
  obtain ⟨signature, hsignature, h⟩ := bind_eq_ok.mp h
  cases h
  simp only [Bool.or_eq_true, decide_eq_true_eq, not_or, not_lt] at httl
  obtain ⟨hcreated, hexpires⟩ := hsigns.seconds hsignature
  exact ⟨rfl, ⟨rfl, rfl⟩, rfl, rfl, rfl, rfl, rfl,
    isLifetime_of_ttl hcreated hexpires (hsigns.lifetime hsignature) httl.1.2 httl.2⟩

end Material

/-! ## Accepted methods -/

theorem isFor_iff {descriptor : HumanMethodDescriptor} {method : HumanMethodRequirement} :
    method.isFor descriptor = true ↔ method.providerId = descriptor.providerId ∧
      method.methodId = descriptor.methodId ∧ method.descriptorVersion = descriptor.version := by
  rw [HumanMethodRequirement.isFor, Bool.and_eq_true, Bool.and_eq_true, beq_iff_eq, beq_iff_eq,
    beq_iff_eq, and_assoc]

theorem methodKey_of_isFor {descriptor : HumanMethodDescriptor} {method : HumanMethodRequirement}
    (h : method.isFor descriptor = true) :
    methodKey method.providerId method.methodId = descriptor.key := by
  obtain ⟨hprovider, hmethod, -⟩ := isFor_iff.mp h
  rw [hprovider, hmethod, HumanMethodDescriptor.key]

theorem acceptedWorldMethod_iff {accepts : List HumanMethodRequirement}
    {descriptor : HumanMethodDescriptor} : acceptedWorldMethod accepts descriptor = true ↔
      ∃ accepted ∈ accepts, accepted.isFor descriptor = true :=
  List.any_eq_true

/-! ## The profile -/

section Profile

variable {library : WorldIdLibrary} {options : WorldIdVerifierProfileOptions}
  {profile : WorldIdVerifierProfile} {binding : HumanBinding}
  {accepts : List HumanMethodRequirement} {ttlSeconds : ℚ}
  {material : List (JsString × WorldIdProviderRequest)}

theorem createWorldIdVerifierProfile_eq_ok
    (h : createWorldIdVerifierProfile library options = .ok profile) :
    profile.adapter = options.adapter ∧
      profile.providerRequests = profileProviderRequests library options := by
  obtain ⟨adapter, hadapter, h⟩ := bind_eq_ok.mp h
  obtain ⟨catalog, -, h⟩ := bind_eq_ok.mp h
  unfold WorldIdAdapter.new at hadapter
  split_ifs at hadapter
  cases hadapter
  cases h
  exact ⟨rfl, rfl⟩

def WorldIdVerifierProfileOptions.forRequirement (options : WorldIdVerifierProfileOptions)
    (binding : HumanBinding) (accepts : List HumanMethodRequirement) (ttlSeconds : ℚ) :
    CreateWorldIdProviderRequestOptions where
  appId := options.appId
  rpId := options.rpId
  action := options.action
  environment := options.environment
  signingKeyHex := options.signingKeyHex
  binding := binding
  allowLegacyProofs := some (acceptedWorldMethod accepts WORLD_ID_LEGACY_ORB_METHOD)
  ttlSeconds := some ttlSeconds

theorem profileProviderRequests_eq_ok (hsigns : library.SignsForTtl)
    (h : profileProviderRequests library options binding accepts ttlSeconds = .ok material) :
    acceptedWorldMethod accepts WORLD_ID_PROOF_OF_HUMAN_METHOD = true ∧
      (acceptedWorldMethod accepts WORLD_ID_LEGACY_ORB_METHOD = true →
        options.allowLegacyProofs = some true) ∧
      ∃ request, (options.forRequirement binding accepts ttlSeconds).Made library request ∧
        material = (WORLD_ID_METHOD_KEY, request) ::
          if acceptedWorldMethod accepts WORLD_ID_LEGACY_ORB_METHOD then
            [(WORLD_ID_LEGACY_METHOD_KEY, request)]
          else [] := by
  simp only [profileProviderRequests] at h
  split_ifs at h with hcurrent hlegacy
  obtain ⟨request, hrequest, h⟩ := bind_eq_ok.mp h
  have hmade : (options.forRequirement binding accepts ttlSeconds).Made library request :=
    createWorldIdProviderRequest_made hsigns hrequest
  have hallow : request.allowLegacyProofs =
      acceptedWorldMethod accepts WORLD_ID_LEGACY_ORB_METHOD := hmade.allowLegacyProofs
  cases h
  refine ⟨by simpa using hcurrent, fun haccepted => ?_, request, hmade, by rw [hallow]⟩
  simpa [haccepted] using hlegacy

theorem matchesProfile_of_made {request : WorldIdProviderRequest}
    {requirement : RequirementDocument}
    (hmade : (options.forRequirement binding accepts ttlSeconds).Made library request)
    (hbinding : requirement.binding = binding) :
    WorldIdAdapter.matchesProfile options.adapter library requirement request = true := by
  have happ : request.appId = options.appId := hmade.appId
  have hrp : request.rpId = options.rpId := hmade.rpId.1
  have hcontext : request.rpContext.rp_id = options.rpId := hmade.rpId.2
  have haction : request.action = options.action := hmade.action
  have henvironment : request.environment = options.environment := hmade.environment
  have hsignal : request.signal = binding.value := hmade.signal
  have hhash : request.signalHash = library.hashSignal binding.value := hmade.signalHash
  simp only [WorldIdAdapter.matchesProfile, WorldIdVerifierProfileOptions.adapter, happ, hrp,
    hcontext, haction, henvironment, hsignal, hhash, hbinding, Option.all_some,
    beq_self_eq_true, Bool.and_self]

theorem validateProviderRequest_of_made {request : WorldIdProviderRequest}
    {requirement : RequirementDocument} {accepted : HumanMethodRequirement}
    (hmade : (options.forRequirement binding accepts ttlSeconds).Made library request)
    (hbinding : requirement.binding = binding) (haccepts : requirement.accepts = accepts)
    (hcurrent : acceptedWorldMethod accepts WORLD_ID_PROOF_OF_HUMAN_METHOD = true)
    (henabled : acceptedWorldMethod accepts WORLD_ID_LEGACY_ORB_METHOD = true →
      options.allowLegacyProofs = some true)
    (hlegacy : accepted.methodId = WORLD_ID_LEGACY_ORB_METHOD.methodId →
      acceptedWorldMethod accepts WORLD_ID_LEGACY_ORB_METHOD = true) :
    WorldIdAdapter.validateProviderRequest options.adapter library requirement accepted
      (some request.toJson) = .ok () := by
  have hallow : request.allowLegacyProofs =
      acceptedWorldMethod accepts WORLD_ID_LEGACY_ORB_METHOD := hmade.allowLegacyProofs
  have hpolicy : (acceptedWorldMethod accepts WORLD_ID_LEGACY_ORB_METHOD !=
        request.allowLegacyProofs ||
      (acceptedWorldMethod accepts WORLD_ID_LEGACY_ORB_METHOD &&
        !(options.adapter.allowLegacyProofs == some true)) ||
      (accepted.methodId == WORLD_ID_LEGACY_ORB_METHOD.methodId &&
        !(options.adapter.allowLegacyProofs == some true))) = false := by
    have hadapter : options.adapter.allowLegacyProofs = options.allowLegacyProofs := rfl
    rw [hallow, hadapter]
    cases hlegacyAccepted : acceptedWorldMethod accepts WORLD_ID_LEGACY_ORB_METHOD with
    | true =>
        rw [henabled hlegacyAccepted]
        simp
    | false =>
        have hother : (accepted.methodId == WORLD_ID_LEGACY_ORB_METHOD.methodId) = false := by
          apply beq_eq_false_iff_ne.mpr
          intro hmethod
          rw [hlegacy hmethod] at hlegacyAccepted
          cases hlegacyAccepted
        rw [hother]
        rfl
  refine bind_eq_ok.mpr ⟨request, parseWorldIdProviderRequest_toJson request, ?_⟩
  simp only [matchesProfile_of_made hmade hbinding, haccepts, hcurrent, hpolicy, hmade.lifetime,
    Bool.not_true, Bool.false_eq_true, if_false]

def IsWorldMethod (accepted : HumanMethodRequirement) : Prop :=
  accepted.isFor WORLD_ID_PROOF_OF_HUMAN_METHOD = true ∨
    accepted.isFor WORLD_ID_LEGACY_ORB_METHOD = true

theorem worldIdVerifierProfile_consistent (hsigns : library.SignsForTtl)
    (hprofile : createWorldIdVerifierProfile library options = .ok profile)
    (hmaterial : profile.providerRequests binding accepts ttlSeconds = .ok material) :
    (∀ requirement : RequirementDocument, requirement.binding = binding →
      requirement.accepts = accepts → requirement.providerRequests =
        some (material.map fun entry => (entry.1, entry.2.toJson)) →
      ∀ accepted ∈ accepts, IsWorldMethod accepted →
        WorldIdAdapter.validateProviderRequest profile.adapter library requirement accepted
          (requirement.providerRequest (methodKey accepted.providerId accepted.methodId)) =
            .ok ()) ∧
    (∀ entry ∈ material, ∃ accepted ∈ accepts,
      entry.1 = methodKey accepted.providerId accepted.methodId) ∧
    ∀ entry ∈ material, entry.2.allowLegacyProofs = true →
      options.allowLegacyProofs = some true ∧
        ∃ accepted ∈ accepts, accepted.isFor WORLD_ID_LEGACY_ORB_METHOD = true := by
  obtain ⟨hadapter, hrequests⟩ := createWorldIdVerifierProfile_eq_ok hprofile
  rw [hrequests] at hmaterial
  obtain ⟨hcurrent, henabled, request, hmade, rfl⟩ :=
    profileProviderRequests_eq_ok hsigns hmaterial
  have hallow : request.allowLegacyProofs =
      acceptedWorldMethod accepts WORLD_ID_LEGACY_ORB_METHOD := hmade.allowLegacyProofs
  refine ⟨fun requirement hbinding haccepts hgiven accepted haccepted hworld => ?_, ?_, ?_⟩
  · rw [hadapter]
    rcases hworld with hfor | hfor
    · have hvalue : requirement.providerRequest (methodKey accepted.providerId accepted.methodId) =
          some request.toJson := by
        rw [methodKey_of_isFor hfor, RequirementDocument.providerRequest, hgiven]
        rfl
      rw [hvalue]
      refine validateProviderRequest_of_made hmade hbinding haccepts hcurrent henabled
        fun hmethod => ?_
      rw [(isFor_iff.mp hfor).2.1] at hmethod
      exact absurd hmethod (by decide)
    · have hlegacy : acceptedWorldMethod accepts WORLD_ID_LEGACY_ORB_METHOD = true :=
        acceptedWorldMethod_iff.mpr ⟨accepted, haccepted, hfor⟩
      have hvalue : requirement.providerRequest (methodKey accepted.providerId accepted.methodId) =
          some request.toJson := by
        rw [methodKey_of_isFor hfor, RequirementDocument.providerRequest, hgiven, hlegacy]
        rfl
      rw [hvalue]
      exact validateProviderRequest_of_made hmade hbinding haccepts hcurrent henabled
        fun _ => hlegacy
  · intro entry hentry
    rcases List.mem_cons.mp hentry with rfl | hentry
    · obtain ⟨accepted, haccepted, hfor⟩ := acceptedWorldMethod_iff.mp hcurrent
      exact ⟨accepted, haccepted, (methodKey_of_isFor hfor).symm⟩
    · split_ifs at hentry with hlegacy
      · obtain ⟨accepted, haccepted, hfor⟩ := acceptedWorldMethod_iff.mp hlegacy
        rw [List.mem_singleton.mp hentry]
        exact ⟨accepted, haccepted, (methodKey_of_isFor hfor).symm⟩
      · cases hentry
  · intro entry hentry hpermits
    have hsame : entry.2 = request := by
      rcases List.mem_cons.mp hentry with rfl | hentry
      · rfl
      · split_ifs at hentry
        · rw [List.mem_singleton.mp hentry]
        · cases hentry
    rw [hsame, hallow] at hpermits
    exact ⟨henabled hpermits, acceptedWorldMethod_iff.mp hpermits⟩

end Profile

/-! ## A profile with legacy proofs -/

namespace LegacyProfile

/-- It signs at one time and for five minutes only. -/
def library : WorldIdLibrary where
  hashSignal signal := js "0x" ++ signal
  signRequest _ _ ttl :=
    if ttl = 300 then .ok ⟨js "0x01", 1000, 1300, js "0x02"⟩ else .error ⟨js "invalid ttl"⟩

theorem signsForTtl : library.SignsForTtl where
  lifetime h := by
    simp only [library] at h
    split_ifs at h with httl
    cases h
    rw [httl]
    norm_num
  seconds h := by
    simp only [library] at h
    split_ifs at h
    cases h
    change isSafeInteger 1000 = true ∧ isSafeInteger 1300 = true
    decide

def options : WorldIdVerifierProfileOptions where
  appId := js "app_1"
  rpId := js "rp_1"
  action := js "vote"
  environment := .production
  allowLegacyProofs := some true
  signingKeyHex := js "0x03"
  maximumProofAgeSeconds := none

def profile : WorldIdVerifierProfile where
  adapter := options.adapter
  catalog := WorldIdAdapter.methods.map fun descriptor => (descriptor.key, descriptor)
  accepts := createWorldIdMethodRequirements (some true) none
  providerRequests := profileProviderRequests library options

theorem profile_created : createWorldIdVerifierProfile library options = .ok profile := by
  rfl

def binding : HumanBinding := ⟨.request, js "caller"⟩

def request : WorldIdProviderRequest where
  appId := js "app_1"
  rpId := js "rp_1"
  action := js "vote"
  environment := .production
  allowLegacyProofs := true
  signal := js "caller"
  signalHash := js "0xcaller"
  rpContext := ⟨js "rp_1", js "0x01", 1000, 1300, js "0x02"⟩

def requirement : RequirementDocument where
  dependencyId := js "dependency"
  purpose := js "vote"
  resource := ⟨js "POST", js "https://a.example/vote", js "https://a.example", []⟩
  nonce := js "nonce"
  binding := binding
  createdAt := dateText 0
  expiresAt := dateText 300000
  accepts := profile.accepts
  providerRequests :=
    some [(WORLD_ID_METHOD_KEY, request.toJson), (WORLD_ID_LEGACY_METHOD_KEY, request.toJson)]

def legacyMethod : HumanMethodRequirement := createWorldIdLegacyMethodRequirement none

theorem legacyMethod_accepted : legacyMethod ∈ profile.accepts :=
  List.mem_cons_of_mem _ List.mem_cons_self

end LegacyProfile

open LegacyProfile in
theorem worldIdVerifierProfile_consistent_legacy :
    WorldIdAdapter.validateProviderRequest profile.adapter library requirement legacyMethod
      (requirement.providerRequest (methodKey legacyMethod.providerId legacyMethod.methodId)) =
        .ok () :=
  (@worldIdVerifierProfile_consistent library options profile binding profile.accepts 300
    [(WORLD_ID_METHOD_KEY, request), (WORLD_ID_LEGACY_METHOD_KEY, request)] signsForTtl
    profile_created (by rfl)).1 requirement rfl rfl rfl legacyMethod legacyMethod_accepted
      (.inr (by rfl))

end X424
