import X424.Canonical
import X424.Satisfaction
import X424.Schemas.Documents

/-!
# New requirements

`requirements.ts`: the requirement that is made for a request.  The hash
function, `toUpperCase` and the random values are parameters.
-/

namespace X424

open Foundation Canonical

/-- The runtime with what the creation of a requirement uses of the platform. -/
structure Platform extends Runtime where
  createHash : List UInt8 → List UInt8
  length_createHash : ∀ bytes, (createHash bytes).length = 32
  /-- `String.prototype.toUpperCase`, which knows all of Unicode. -/
  upper : JsString → JsString

/-- `randomUUID()` and `randomBytes(32)`. -/
structure FreshDraws where
  randomUuid : JsString
  length_randomUuid : randomUuid.length = 36
  randomBytes : List UInt8
  length_randomBytes : randomBytes.length = 32

structure RequirementInput where
  purpose : JsString
  method : JsString
  uri : JsString
  audience : JsString
  bodyInput : RequestBodyDigestInput
  binding : HumanBinding
  accepts : List HumanMethodRequirement
  providerRequests : Option (List (JsString × Json))
  ttlSeconds : ℚ

/-- The loop over the accepted methods; `keys` are those that it has seen. -/
def collectAcceptedKeys : List HumanMethodRequirement → List JsString →
    Except JsError (List JsString)
  | [], keys => .ok keys
  | accepted :: accepts, keys =>
      let key := methodKey accepted.providerId accepted.methodId
      if !isHumanMethodIdentifier accepted.providerId ||
          !isHumanMethodIdentifier accepted.methodId then
        .error ⟨js "Accepted human method identifiers are invalid"⟩
      else if keys.contains key then .error ⟨js "Duplicate accepted human method: " ++ key⟩
      else collectAcceptedKeys accepts (keys ++ [key])

def HumanMethodRequirement.key (accepted : HumanMethodRequirement) : JsString :=
  methodKey accepted.providerId accepted.methodId

def isRequirementTtl (ttlSeconds : ℚ) : Bool :=
  ttlSeconds.den == 1 && 30 ≤ ttlSeconds.num && ttlSeconds.num ≤ 900

section Create

variable (platform : Platform)

def createHumanRequirement (input : RequirementInput) (draws : FreshDraws) (now : Instant) :
    Except JsError RequirementDocument := do
  if input.purpose.isEmpty || input.audience.isEmpty || input.accepts.isEmpty then
    .error ⟨js "Purpose, audience, and one accepted method are required"⟩
  else do
    let acceptedKeys ← collectAcceptedKeys input.accepts []
    match ((input.providerRequests.getD []).map Prod.fst).find?
        fun key => !acceptedKeys.contains key with
    | some key =>
        .error ⟨js "Provider request material names an unaccepted method: " ++ key⟩
    | none =>
        if !isRequirementTtl input.ttlSeconds then
          .error ⟨js "Requirement TTL must be between 30 and 900 seconds"⟩
        else do
          let requestDigest ← Canonical.requestDigest platform.numbers platform.createHash
            platform.upper input.method input.uri input.bodyInput
          let createdAt ← toISOStringText now
          let expiresAt ← toISOStringText (now + input.ttlSeconds.num * 1000)
          .ok {
            dependencyId := js "x424_dep_" ++ draws.randomUuid
            purpose := input.purpose
            resource := ⟨platform.upper input.method, input.uri, input.audience, requestDigest⟩
            nonce := encodeStrictBase64Url draws.randomBytes
            binding := input.binding
            createdAt, expiresAt
            accepts := input.accepts
            providerRequests := input.providerRequests }

end Create

/-! ## What is made -/

section Made

variable {platform : Platform} {input : RequirementInput} {draws : FreshDraws} {now : Instant}

theorem collectAcceptedKeys_eq_ok {accepts : List HumanMethodRequirement}
    {keys collected : List JsString} :
    collectAcceptedKeys accepts keys = .ok collected ↔
      (∀ accepted ∈ accepts, isHumanMethodIdentifier accepted.providerId = true ∧
        isHumanMethodIdentifier accepted.methodId = true) ∧
      (accepts.map HumanMethodRequirement.key).Nodup ∧
      (∀ accepted ∈ accepts, accepted.key ∉ keys) ∧
      collected = keys ++ accepts.map HumanMethodRequirement.key := by
  induction accepts generalizing keys with
  | nil =>
      simp only [collectAcceptedKeys, Except.ok.injEq, List.map_nil, List.append_nil]
      exact ⟨fun h => ⟨List.forall_mem_nil _, List.nodup_nil, List.forall_mem_nil _, h.symm⟩,
        fun h => h.2.2.2.symm⟩
  | cons accepted accepts ih =>
      simp only [collectAcceptedKeys, List.forall_mem_cons, List.map_cons, List.nodup_cons]
      split_ifs with hidentifiers hduplicate
      · refine ⟨fun h => (by cases h), fun h => ?_⟩
        simp [h.1.1] at hidentifiers
      · refine ⟨fun h => (by cases h), fun h => absurd ?_ h.2.2.1.1⟩
        exact List.contains_iff_mem.mp hduplicate
      · simp only [Bool.or_eq_true, Bool.not_eq_true', not_or, Bool.not_eq_false] at hidentifiers
        have hnew : accepted.key ∉ keys := fun hmem => hduplicate (List.contains_iff_mem.mpr hmem)
        rw [ih]
        simp only [List.mem_append, List.mem_singleton, not_or, List.append_assoc,
          List.singleton_append]
        constructor
        · rintro ⟨hvalid, hnodup, hkeys, hcollected⟩
          refine ⟨⟨hidentifiers, hvalid⟩, ⟨fun hmem => ?_, hnodup⟩,
            ⟨hnew, fun other hother => (hkeys other hother).1⟩, hcollected⟩
          obtain ⟨other, hother, hkey⟩ := List.mem_map.mp hmem
          exact (hkeys other hother).2 hkey
        · rintro ⟨⟨-, hvalid⟩, ⟨hfirst, hnodup⟩, ⟨-, hkeys⟩, hcollected⟩
          refine ⟨hvalid, hnodup, fun other hother => ⟨hkeys other hother, fun hkey => ?_⟩,
            hcollected⟩
          exact hfirst (List.mem_map.mpr ⟨other, hother, hkey⟩)

structure RequirementInput.Admitted (input : RequirementInput) : Prop where
  purpose : input.purpose ≠ []
  audience : input.audience ≠ []
  accepts : input.accepts ≠ []
  identifiers : ∀ accepted ∈ input.accepts, isHumanMethodIdentifier accepted.providerId = true ∧
    isHumanMethodIdentifier accepted.methodId = true
  distinct : (input.accepts.map HumanMethodRequirement.key).Nodup
  providerRequests : ∀ members ∈ input.providerRequests, ∀ member ∈ members,
    member.1 ∈ input.accepts.map HumanMethodRequirement.key
  ttlSeconds : isRequirementTtl input.ttlSeconds = true

def RequirementInput.document (platform : Platform) (input : RequirementInput)
    (draws : FreshDraws) (now : Instant) (requestDigest : JsString) : RequirementDocument where
  dependencyId := js "x424_dep_" ++ draws.randomUuid
  purpose := input.purpose
  resource := ⟨platform.upper input.method, input.uri, input.audience, requestDigest⟩
  nonce := encodeStrictBase64Url draws.randomBytes
  binding := input.binding
  createdAt := dateText now
  expiresAt := dateText (now + input.ttlSeconds.num * 1000)
  accepts := input.accepts
  providerRequests := input.providerRequests

theorem toISOStringText_eq_ok {ms : Int} {text : JsString} :
    toISOStringText ms = .ok text ↔ IsDate ms ∧ text = dateText ms := by
  unfold toISOStringText
  split_ifs with h
  · simp [h, eq_comm]
  · simp [h]

theorem find?_unaccepted {requests : Option (List (JsString × Json))} {keys : List JsString} :
    ((requests.getD []).map Prod.fst).find? (fun key => !keys.contains key) = none ↔
      ∀ members ∈ requests, ∀ member ∈ members, member.1 ∈ keys := by
  cases requests <;> simp

theorem createHumanRequirement_eq_ok {requirement : RequirementDocument} :
    createHumanRequirement platform input draws now = .ok requirement ↔
      input.Admitted ∧ IsDate now ∧ IsDate (now + input.ttlSeconds.num * 1000) ∧
      ∃ requestDigest, Canonical.requestDigest platform.numbers platform.createHash
          platform.upper input.method input.uri input.bodyInput = .ok requestDigest ∧
        requirement = input.document platform draws now requestDigest := by
  have hempty : (input.purpose.isEmpty || input.audience.isEmpty || input.accepts.isEmpty) = false ↔
      input.purpose ≠ [] ∧ input.audience ≠ [] ∧ input.accepts ≠ [] := by
    simp [List.isEmpty_eq_false_iff, and_assoc]
  constructor
  · intro h
    unfold createHumanRequirement at h
    by_cases hcheck : (input.purpose.isEmpty || input.audience.isEmpty ||
        input.accepts.isEmpty) = true
    · rw [if_pos hcheck] at h
      cases h
    obtain ⟨hpurpose, haudience, haccepts⟩ := hempty.mp (Bool.not_eq_true _ ▸ hcheck)
    rw [if_neg hcheck] at h
    obtain ⟨keys, hkeys, h⟩ := bind_eq_ok.mp h
    obtain ⟨hidentifiers, hdistinct, -, rfl⟩ := collectAcceptedKeys_eq_ok.mp hkeys
    split at h
    · cases h
    rename_i hunaccepted
    split_ifs at h with httl
    obtain ⟨requestDigest, hdigest, h⟩ := bind_eq_ok.mp h
    obtain ⟨createdAt, hcreatedAt, h⟩ := bind_eq_ok.mp h
    obtain ⟨expiresAt, hexpiresAt, h⟩ := bind_eq_ok.mp h
    obtain ⟨hnow, rfl⟩ := toISOStringText_eq_ok.mp hcreatedAt
    obtain ⟨hexpiry, rfl⟩ := toISOStringText_eq_ok.mp hexpiresAt
    exact ⟨⟨hpurpose, haudience, haccepts, hidentifiers, hdistinct,
      find?_unaccepted.mp hunaccepted, by simpa using httl⟩, hnow, hexpiry, requestDigest,
      hdigest, (Except.ok.inj h).symm⟩
  · rintro ⟨h, hnow, hexpiry, requestDigest, hdigest, rfl⟩
    have hcheck := hempty.mpr ⟨h.purpose, h.audience, h.accepts⟩
    have hkeys : collectAcceptedKeys input.accepts [] =
        .ok (input.accepts.map HumanMethodRequirement.key) :=
      collectAcceptedKeys_eq_ok.mpr ⟨h.identifiers, h.distinct, by simp, rfl⟩
    simp only [createHumanRequirement, hcheck, Bool.false_eq_true, if_false, hkeys, bind,
      Except.bind, find?_unaccepted.mpr h.providerRequests, h.ttlSeconds, Bool.not_true, hdigest,
      toISOStringText_eq_ok.mpr ⟨hnow, rfl⟩, toISOStringText_eq_ok.mpr ⟨hexpiry, rfl⟩]
    rfl

end Made

end X424
