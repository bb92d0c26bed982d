import X424.Api.IssuanceRoute

/-!
# Issuance that fails

When a request that was not answered with 201 has left nothing behind: always,
unless everything before the challenge succeeded and the challenge could not
be written.
-/

namespace X424

open Foundation

/-! ## Nonce stores -/

/-- A nonce that is refused changes nothing, and one that is put is there. -/
structure NonceStore.Registers {σ : Type} (nonceStore : NonceStore σ)
    (registered : σ → JsString → Prop) : Prop where
  refused : ∀ {s s'} {dependencyId nonce expiresAt now error},
    nonceStore.put dependencyId nonce expiresAt now s = (.error error, s') → s' = s
  stored : ∀ {s s'} {dependencyId nonce expiresAt now},
    nonceStore.put dependencyId nonce expiresAt now s = (.ok (), s') → registered s' dependencyId

theorem inMemoryNonceStore_registers :
    inMemoryNonceStore.Registers fun entries id => (entries id).isSome := by
  constructor
  · intro entries entries' dependencyId nonce expiresAt now error h
    simp only [inMemoryNonceStore, InMemoryNonceStore.put] at h
    split at h
    · exact (Prod.ext_iff.mp h).2.symm
    · split_ifs at h
      · exact (Prod.ext_iff.mp h).2.symm
      · exact (Prod.ext_iff.mp h).2.symm
      · cases h
  · intro entries entries' dependencyId nonce expiresAt now h
    simp only [inMemoryNonceStore, InMemoryNonceStore.put] at h
    split at h
    · cases h
    · split_ifs at h <;> cases h
      simp

theorem redisNonces_registers (keyPrefix : JsString) :
    (RedisX424Store.nonces keyPrefix).Registers
      fun db id => (db (redisKey keyPrefix (js "nonce") id)).isSome := by
  constructor
  · intro db db' dependencyId nonce expiresAt now error h
    simp only [RedisX424Store.nonces, RedisX424Store.putNonce] at h
    split_ifs at h
    · exact (Prod.ext_iff.mp h).2.symm
    · obtain ⟨_, herror⟩ | ⟨_, -, -, hput⟩ := setOnce_cases keyPrefix (js "nonce") dependencyId
        (js "Dependency ID already exists") nonce expiresAt now db
      · rw [herror] at h
        exact (Prod.ext_iff.mp h).2.symm
      · rw [hput] at h
        cases h
  · intro db db' dependencyId nonce expiresAt now h
    simp only [RedisX424Store.nonces, RedisX424Store.putNonce] at h
    split_ifs at h
    · cases h
    · obtain ⟨_, herror⟩ | ⟨_, -, -, hput⟩ := setOnce_cases keyPrefix (js "nonce") dependencyId
        (js "Dependency ID already exists") nonce expiresAt now db
      · rw [herror] at h
        cases h
      · rw [hput] at h
        cases h
        simp [Cells.put]

theorem postgresNonces_registers :
    PostgresX424Store.nonces.Registers fun rows id => (rows id).isSome := by
  constructor
  · intro rows rows' dependencyId nonce expiresAt now error h
    simp only [PostgresX424Store.nonces, PostgresX424Store.putNonce,
      insertOnConflictDoNothing] at h
    split_ifs at h
    · exact (Prod.ext_iff.mp h).2.symm
    · split at h <;> exact (Prod.ext_iff.mp h).2.symm
    · split at h
      · exact (Prod.ext_iff.mp h).2.symm
      · cases h
  · intro rows rows' dependencyId nonce expiresAt now h
    simp only [PostgresX424Store.nonces, PostgresX424Store.putNonce,
      insertOnConflictDoNothing] at h
    split_ifs at h
    · cases h
    · split at h <;> cases h
    · split at h <;> cases h
      simp [Cells.put]

/-! ## The stores of a deployment -/

inductive IsRequirementSink (platform : Platform) :
    (ρ : Type) → RequirementSink ρ → (ρ → JsString → Prop) → Prop where
  | inMemory (maximumEntries : Nat) :
      IsRequirementSink platform _ (inMemoryRequirements platform.dates maximumEntries)
        fun entries id => (entries.find id).isSome
  | redis (keyPrefix : JsString) :
      IsRequirementSink platform _ (RedisX424Store.documents platform.toRuntime keyPrefix)
        fun db id => (db (RedisX424Store.requirementKey keyPrefix id)).isSome
  | postgres (jsonb : Jsonb platform.numbers) :
      IsRequirementSink platform _ (PostgresX424Store.documents platform.toRuntime jsonb)
        fun rows id => (rows id).isSome

/-- A nonce store, with the ids that it knows a nonce of. -/
inductive IsNonceStore : (σ : Type) → NonceStore σ → (σ → JsString → Prop) → Prop where
  | inMemory : IsNonceStore _ inMemoryNonceStore fun entries id => (entries id).isSome
  | redis (keyPrefix : JsString) :
      IsNonceStore _ (RedisX424Store.nonces keyPrefix)
        fun db id => (db (redisKey keyPrefix (js "nonce") id)).isSome
  | postgres : IsNonceStore _ PostgresX424Store.nonces fun rows id => (rows id).isSome

theorem IsRequirementSink.holds {platform : Platform} {ρ : Type} {sink : RequirementSink ρ}
    {stored : ρ → JsString → Prop} (h : IsRequirementSink platform ρ sink stored) :
    sink.Holds stored := by
  cases h with
  | inMemory maximumEntries => exact inMemoryRequirements_holds platform.dates maximumEntries
  | redis keyPrefix => exact RedisX424Store.documents_holds
  | postgres jsonb => exact PostgresX424Store.documents_holds

theorem IsNonceStore.registers {σ : Type} {nonceStore : NonceStore σ}
    {registered : σ → JsString → Prop} (h : IsNonceStore σ nonceStore registered) :
    nonceStore.Registers registered := by
  cases h with
  | inMemory => exact inMemoryNonceStore_registers
  | redis keyPrefix => exact redisNonces_registers keyPrefix
  | postgres => exact postgresNonces_registers

/-! ## What is left -/

section Rollback

variable {options : IssuanceOptions} {call : IssuanceCall options.platform.numbers} {ρ σ : Type}
  {sink : RequirementSink ρ} {nonceStore : NonceStore σ} {stored : ρ → JsString → Prop}
  {registered : σ → JsString → Prop}

def NewRequirement.Encodable (numbers : JsNumbers) (requirement : NewRequirement) : Prop :=
  requirement.plain = true ∧ jsonBytes numbers requirement.document.toJson ≤ 49152

theorem exists_challenge {requirement : NewRequirement} :
    (∃ challenge, requirementChallenge options requirement = .ok challenge) ↔
      requirement.Encodable options.platform.numbers := by
  unfold requirementChallenge NewRequirement.Encodable
  rw [← encoded_le_iff]
  cases requirement.plain with
  | false => simp
  | true =>
      simp only [if_true, true_and, humanRequiredResponse_eq_ok rfl]
      constructor
      · rintro ⟨challenge, ⟨hinline, -⟩ | ⟨-, hmaximum, -⟩⟩
        · exact hinline.trans (by decide)
        · exact hmaximum
      · intro hmaximum
        by_cases hinline : encodedHeaderByteLength (encodeCanonical options.platform.numbers
            requirement.document.toJson) ≤ headerInteropEnvelopeBytes
        · exact ⟨_, .inl ⟨hinline, rfl⟩⟩
        · exact ⟨_, .inr ⟨not_le.mp hinline, hmaximum, rfl⟩⟩

/-- The steps before the challenge all succeed, and then it cannot be written. -/
def LeftBehind (options : IssuanceOptions) (call : IssuanceCall options.platform.numbers)
    (sink : RequirementSink ρ) (nonceStore : NonceStore σ) (requirements : ρ) (nonces : σ) : Prop :=
  ∃ body requirement tenantId,
    CreateSchema options.platform.urls call.body = some body ∧
    draftRequirement options call body = .ok (requirement, tenantId) ∧
    (sink.putFor requirement tenantId call.storedAt requirements).1 = .ok () ∧
    (registerRequirement options call nonceStore requirement.document nonces).1 = .ok () ∧
    ¬ requirement.Encodable options.platform.numbers

theorem registerRequirement_error (hnonces : nonceStore.Registers registered)
    {requirement : RequirementDocument} {nonces nonces' : σ} {error : JsError}
    (h : registerRequirement options call nonceStore requirement nonces =
      (.error error, nonces')) : nonces' = nonces := by
  unfold registerRequirement X424Service.register at h
  split at h
  · exact (Prod.ext_iff.mp h).2.symm
  · exact hnonces.refused h

theorem registerRequirement_ok (hnonces : nonceStore.Registers registered)
    {requirement : RequirementDocument} {nonces nonces' : σ}
    (h : registerRequirement options call nonceStore requirement nonces = (.ok (), nonces')) :
    registered nonces' requirement.dependencyId := by
  unfold registerRequirement X424Service.register at h
  split at h
  · cases h
  · exact hnonces.stored h

theorem storeRequirement_leaves (hsink : sink.Holds stored)
    (hnonces : nonceStore.Registers registered) {requirements : ρ} {nonces : σ}
    {requirement : NewRequirement} {tenantId : Option JsString}
    (hid : requirement.document.dependencyId = call.dependencyId)
    (hfresh : ¬ stored requirements call.dependencyId)
    (hunused : ¬ registered nonces call.dependencyId) :
    let next := storeRequirement options call sink nonceStore requirement tenantId requirements
      nonces
    ((sink.putFor requirement tenantId call.storedAt requirements).1 = .ok () ∧
        (registerRequirement options call nonceStore requirement.document nonces).1 = .ok () ∧
        (next.1.IsCreated ↔ requirement.Encodable options.platform.numbers) ∧
        stored next.2.1 call.dependencyId ∧ registered next.2.2 call.dependencyId) ∨
      (¬ ((sink.putFor requirement tenantId call.storedAt requirements).1 = .ok () ∧
          (registerRequirement options call nonceStore requirement.document nonces).1 = .ok ()) ∧
        ¬ next.1.IsCreated ∧
        ¬ stored next.2.1 call.dependencyId ∧ ¬ registered next.2.2 call.dependencyId) := by
  intro next
  obtain ⟨reply, hreply⟩ : ∃ reply, sink.putFor requirement tenantId call.storedAt requirements =
    reply := ⟨_, rfl⟩
  obtain ⟨answer, hanswer⟩ : ∃ answer, registerRequirement options call nonceStore
    requirement.document nonces = answer := ⟨_, rfl⟩
  rcases reply with ⟨error | _, requirements'⟩
  · refine .inr ⟨?_, ?_⟩
    · simp [hreply]
    · simp only [next, storeRequirement, hreply]
      exact ⟨not_isCreated_rejected _, fun h => hfresh (hsink.refused hreply _ h), hunused⟩
  · rcases answer with ⟨error | _, nonces'⟩
    · refine .inr ⟨?_, ?_⟩
      · simp [hanswer]
      · simp only [next, storeRequirement, hreply, hanswer]
        rw [registerRequirement_error hnonces hanswer, hid]
        exact ⟨not_isCreated_rejected _, hsink.deleted dependencyId_ne_nil, hunused⟩
    · refine .inl ⟨by rw [hreply], by rw [hanswer], ?_⟩
      have hstored := hsink.stored hreply
      have hregistered := registerRequirement_ok hnonces hanswer
      rw [hid] at hstored hregistered
      rw [← exists_challenge]
      cases hchallenge : requirementChallenge options requirement with
      | error error =>
          simp only [next, storeRequirement, hreply, hanswer, hchallenge]
          exact ⟨iff_of_false (not_isCreated_rejected _) (by simp), hstored, hregistered⟩
      | ok challenge =>
          simp only [next, storeRequirement, hreply, hanswer, hchallenge]
          exact ⟨iff_of_true trivial ⟨_, rfl⟩, hstored, hregistered⟩

/-- Unless the answer is 201, neither a requirement nor a nonce has this id afterwards. -/
def AllOrNothing (stored : ρ → JsString → Prop) (registered : σ → JsString → Prop)
    (dependencyId : JsString) (outcome : IssuanceAnswer × ρ × σ) : Prop :=
  ¬ outcome.1.IsCreated →
    ¬ stored outcome.2.1 dependencyId ∧ ¬ registered outcome.2.2 dependencyId

/-- A request that was not answered with 201 leaves nothing behind, unless its challenge
could not be written. -/
theorem issuance_all_or_nothing_iff (hsink : IsRequirementSink options.platform ρ sink stored)
    (hnonces : IsNonceStore σ nonceStore registered) (requirements : ρ) (nonces : σ)
    (hfresh : ¬ stored requirements call.dependencyId)
    (hunused : ¬ registered nonces call.dependencyId) :
    AllOrNothing stored registered call.dependencyId
        (requirementsRoute options call sink nonceStore requirements nonces) ↔
      ¬ LeftBehind options call sink nonceStore requirements nonces := by
  obtain ⟨body, requirement, tenantId, hbody, hdraft, hroute⟩ | ⟨hnone, answer, -, hroute⟩ :=
    requirementsRoute_cases options call sink nonceStore requirements nonces
  · rw [hroute]
    obtain ⟨hput, hregister, hcreated, hstored, hregistered⟩ | ⟨hfailed, -, hnothing⟩ :=
      @storeRequirement_leaves options call ρ σ sink nonceStore stored registered hsink.holds
        hnonces.registers requirements nonces requirement tenantId (dependencyId_draft hdraft)
        hfresh hunused
    · constructor
      · rintro hleft ⟨_, _, _, hbody', hdraft', -, -, hencodable⟩
        cases hbody.symm.trans hbody'
        cases hdraft.symm.trans hdraft'
        exact (hleft (hcreated.not.mpr hencodable)).1 hstored
      · intro hleft hanswer
        exact absurd ⟨body, requirement, tenantId, hbody, hdraft, hput, hregister,
          hcreated.not.mp hanswer⟩ hleft
    · refine iff_of_true (fun _ => hnothing) ?_
      rintro ⟨_, _, _, hbody', hdraft', hput, hregister, -⟩
      cases hbody.symm.trans hbody'
      cases hdraft.symm.trans hdraft'
      exact hfailed ⟨hput, hregister⟩
  · rw [hroute]
    refine iff_of_true (fun _ => ⟨hfresh, hunused⟩) ?_
    rintro ⟨body, requirement, tenantId, hbody, hdraft, -⟩
    exact hnone body hbody _ hdraft

end Rollback

/-! ## Material of 50,000 characters -/

namespace LongRequest

def platform : Platform where
  toRuntime := BlankUrl.runtime
  createHash _ := List.replicate 32 0
  length_createHash _ := by decide
  upper := toUpperCase

def service : X424Service where
  catalog key :=
    if key = js "world:orb" then
      some {
        providerId := js "world"
        methodId := js "orb"
        version := js "1"
        status := .enabled
        claim := js "one human"
        nonClaims := [js "identity"]
        assuranceLevels := []
        nativeScopeKinds := [.action]
        verificationModes := [.backend] }
    else none
  adapters := [js "world"]

def options : IssuanceOptions := ⟨platform, service⟩

def accepted : HumanMethodRequirement := ⟨js "world", js "orb", js "1", none, [.action], none, none⟩

def body : IssuanceBody where
  purpose := js "p"
  method := js "POST"
  uri := js "https://a.example/x"
  audience := js "https://a.example"
  body := none
  bodyInput := none
  binding := ⟨.session, js "s"⟩
  accepts := [accepted]
  providerRequests := some [(js "world:orb", .string longMaterial)]
  ttlSeconds := 300

def sentFields : CreateField → Option Json
  | .accepts => some (.array [accepted.toJson])
  | .audience => some (.string body.audience)
  | .binding => some body.binding.toJson
  | .body => none
  | .bodyInput => none
  | .method => some (.string body.method)
  | .providerRequests => body.providerRequests.map .object
  | .purpose => some (.string body.purpose)
  | .ttlSeconds => none
  | .uri => some (.string body.uri)

def call : IssuanceCall options.platform.numbers where
  body := createShape.ofFields sentFields
  draws := ⟨List.replicate 36 0x61, by decide, List.replicate 32 0, by decide⟩
  authorize := none
  providerRequests := none
  validateProviderRequest _ _ := .ok ()
  createdAt := 0
  storedAt := 0
  checkedAt := 0
  registeredAt := 0
  deletedAt := 0

theorem body_read : CreateSchema options.platform.urls call.body = some body := by
  refine CreateSchema_eq_some.mpr ⟨sentFields, ObjectShape.strictObject_ofFields _, ?_⟩
  exact ⟨rfl, rfl, rfl, rfl, rfl, rfl, rfl, rfl, ⟨none, rfl, rfl⟩, rfl⟩

def input : RequirementInput :=
  body.input .absent [(js "world:orb", .string longMaterial)]

theorem input_admitted : input.Admitted where
  purpose := by decide
  audience := by decide
  accepts := by decide
  identifiers := by decide
  distinct := by decide
  providerRequests := by
    rintro members ⟨⟩ member hmember
    rw [List.mem_singleton.mp hmember]
    decide
  ttlSeconds := by decide

def requirement : RequirementDocument :=
  input.document platform call.draws 0 (js "sha256:" ++ List.replicate 43 0x41)

theorem draft : draftRequirement options call body = .ok (⟨requirement, true⟩, none) := by
  refine draftRequirement_eq_ok.mpr ⟨rfl, newRequirement_eq_ok.mpr
    ⟨[(js "world:orb", .string longMaterial)], .absent, rfl, rfl, ?_⟩⟩
  exact createHumanRequirement_eq_ok.mpr ⟨input_admitted, by decide, by decide, _, rfl, rfl⟩

def sink : RequirementSink RequirementEntries := inMemoryRequirements platform.dates 10

theorem stored : (sink.putFor ⟨requirement, true⟩ none call.storedAt Table.empty).1 = .ok () := by
  have hlive : (⟨requirement.read platform.dates, none⟩ : StoredRequirement).expired
      call.storedAt = false := by decide +kernel
  simp only [sink, inMemoryRequirements, InMemoryRequirementStore.putFor, hlive]
  rfl

theorem registered : (registerRequirement options call inMemoryNonceStore requirement
    inMemoryNonceStore.empty).1 = .ok () := by
  have hchecked : options.service.checkRegistration (requirement.read options.platform.dates)
      call.checkedAt (call.validateProviderRequest requirement) = .ok () := by decide +kernel
  simp only [registerRequirement, X424Service.register, hchecked]
  rfl

theorem not_encodable : ¬ NewRequirement.Encodable platform.numbers ⟨requirement, true⟩ := by
  rintro ⟨-, hsize⟩
  have haccepts : ∀ accepted ∈ requirement.accepts, accepted.SafeAge :=
    List.forall_mem_singleton.mpr nofun
  have hname : js "world:orb" ≠ protoKey := by decide
  have hrequests : requirement.providerRequests =
      some [(js "world:orb", .string longMaterial)] := rfl
  have hmaterial := @length_material_le platform.numbers requirement haccepts _ _ hname hrequests
  have hlength : longMaterial.length = 50000 := List.length_replicate
  rw [hlength] at hmaterial
  exact absurd (hmaterial.trans hsize) (by decide)

def outcome : IssuanceAnswer × RequirementEntries × NonceEntries :=
  requirementsRoute options call sink inMemoryNonceStore Table.empty inMemoryNonceStore.empty

def Stored (entries : RequirementEntries) (id : JsString) : Prop := (entries.find id).isSome

def Registered (entries : NonceEntries) (id : JsString) : Prop := (entries id).isSome

theorem sink_holds : sink.Holds Stored := inMemoryRequirements_holds platform.dates 10

theorem nonces_registers : inMemoryNonceStore.Registers Registered := inMemoryNonceStore_registers

theorem not_stored (id : JsString) : ¬ Stored Table.empty id := Bool.false_ne_true

theorem not_registered (id : JsString) : ¬ Registered inMemoryNonceStore.empty id :=
  Bool.false_ne_true

end LongRequest

theorem issuance_all_or_nothing_longRequest :
    AllOrNothing LongRequest.Stored LongRequest.Registered LongRequest.call.dependencyId
        LongRequest.outcome ↔
      ¬ LeftBehind LongRequest.options LongRequest.call LongRequest.sink inMemoryNonceStore
        Table.empty inMemoryNonceStore.empty :=
  issuance_all_or_nothing_iff (.inMemory 10) .inMemory Table.empty inMemoryNonceStore.empty
    (LongRequest.not_stored _) (LongRequest.not_registered _)

/-- The route answers 400, and the requirement and its nonce stay. -/
theorem long_request_left_behind :
    ¬ LongRequest.outcome.1.IsCreated ∧
      LongRequest.Stored LongRequest.outcome.2.1 LongRequest.call.dependencyId ∧
      LongRequest.Registered LongRequest.outcome.2.2 LongRequest.call.dependencyId := by
  have hroute : LongRequest.outcome = storeRequirement LongRequest.options LongRequest.call
      LongRequest.sink inMemoryNonceStore ⟨LongRequest.requirement, true⟩ none Table.empty
      inMemoryNonceStore.empty := by
    simp only [LongRequest.outcome, requirementsRoute, LongRequest.body_read,
      LongRequest.draft]
  rw [hroute]
  obtain ⟨-, -, hcreated, hleft⟩ | ⟨hfailed, -⟩ :=
    storeRequirement_leaves LongRequest.sink_holds LongRequest.nonces_registers
      (dependencyId_draft LongRequest.draft) (LongRequest.not_stored _)
      (LongRequest.not_registered _)
  · exact ⟨hcreated.not.mpr LongRequest.not_encodable, hleft⟩
  · exact absurd ⟨LongRequest.stored, LongRequest.registered⟩ hfailed

end X424
