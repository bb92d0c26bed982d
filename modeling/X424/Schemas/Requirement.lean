import X424.Schemas.Result

/-!
# Requirements as JSON

`HumanRequirementSchema`: a requirement as it is sent, stored and read back.
-/

namespace X424

/-! ## Accepted methods -/

inductive MethodField where
  | acceptedScopeKinds
  | assuranceLevel
  | descriptorVersion
  | maximumProofAgeSeconds
  | methodId
  | providerId
  | verificationModes
  deriving DecidableEq

def methodShape : ObjectShape MethodField where
  fields := [.acceptedScopeKinds, .assuranceLevel, .descriptorVersion, .maximumProofAgeSeconds,
    .methodId, .providerId, .verificationModes]
  name
    | .acceptedScopeKinds => js "acceptedScopeKinds"
    | .assuranceLevel => js "assuranceLevel"
    | .descriptorVersion => js "descriptorVersion"
    | .maximumProofAgeSeconds => js "maximumProofAgeSeconds"
    | .methodId => js "methodId"
    | .providerId => js "providerId"
    | .verificationModes => js "verificationModes"
  complete := by intro k; cases k <;> decide
  sorted := by decide
  name_ne_proto := by intro k; cases k <;> decide

def HumanMethodRequirement.fieldValue (accepted : HumanMethodRequirement) :
    MethodField → Option Json
  | .acceptedScopeKinds => some (.array (accepted.acceptedScopeKinds.map fun kind =>
      .string kind.text))
  | .assuranceLevel => accepted.assuranceLevel.map .string
  | .descriptorVersion => some (.string accepted.descriptorVersion)
  | .maximumProofAgeSeconds => accepted.maximumProofAgeSeconds.map fun seconds : Nat =>
      .number seconds
  | .methodId => some (.string accepted.methodId)
  | .providerId => some (.string accepted.providerId)
  | .verificationModes => accepted.verificationModes.map fun modes =>
      .array (modes.map fun mode => .string mode.text)

def HumanMethodRequirement.toJson (accepted : HumanMethodRequirement) : Json :=
  methodShape.ofFields accepted.fieldValue

/-- `z.number().int().positive().max(maximum)`. -/
def zPositiveInt (maximum : Nat) : Option Json → Option Nat
  | some (.number value) =>
      if value.den = 1 ∧ 0 < value.num ∧ value.num ≤ maximum then some value.num.toNat else none
  | _ => none

def zScopeKinds (maximum : Nat) : Option Json → Option (List UniquenessScopeKind) :=
  zArray (zEnum UniquenessScopeKind.text UniquenessScopeKind.all) 1 maximum

def zModes (maximum : Nat) : Option Json → Option (List VerificationMode) :=
  zArray (zEnum VerificationMode.text VerificationMode.all) 1 maximum

/-- `MethodRequirementSchema`. -/
def methodRequirementSchema (json : Option Json) : Option HumanMethodRequirement := do
  let field ← zObject methodShape json
  let providerId ← zMatching isHumanMethodIdentifier (field .providerId)
  let methodId ← zMatching isHumanMethodIdentifier (field .methodId)
  let descriptorVersion ← zString 1 50 (field .descriptorVersion)
  let assuranceLevel ← zOptional (zString 1 100) (field .assuranceLevel)
  let acceptedScopeKinds ← zScopeKinds 4 (field .acceptedScopeKinds)
  let maximumProofAgeSeconds ← zOptional (zPositiveInt 86400) (field .maximumProofAgeSeconds)
  let verificationModes ← zOptional (zModes 4) (field .verificationModes)
  some {
    providerId, methodId, descriptorVersion, assuranceLevel, acceptedScopeKinds
    maximumProofAgeSeconds, verificationModes }

structure HumanMethodRequirement.Accepted (accepted : HumanMethodRequirement) : Prop where
  providerId : isHumanMethodIdentifier accepted.providerId = true
  methodId : isHumanMethodIdentifier accepted.methodId = true
  descriptorVersion : BoundedText 1 50 accepted.descriptorVersion
  assuranceLevel : ∀ level ∈ accepted.assuranceLevel, BoundedText 1 100 level
  acceptedScopeKinds : 1 ≤ accepted.acceptedScopeKinds.length ∧
    accepted.acceptedScopeKinds.length ≤ 4
  maximumProofAgeSeconds : ∀ seconds ∈ accepted.maximumProofAgeSeconds,
    0 < seconds ∧ seconds ≤ 86400
  verificationModes : ∀ modes ∈ accepted.verificationModes,
    1 ≤ modes.length ∧ modes.length ≤ 4

theorem zPositiveInt_eq_some {maximum n m : Nat} :
    zPositiveInt maximum (some (.number (n : ℚ))) = some m ↔ m = n ∧ 0 < n ∧ n ≤ maximum := by
  simp only [zPositiveInt, Rat.den_natCast, Rat.num_natCast, Int.toNat_natCast]
  split_ifs with h
  · have hbounds : 0 < n ∧ n ≤ maximum := by omega
    exact ⟨fun heq => ⟨(Option.some.inj heq).symm, hbounds⟩, fun heq => by rw [heq.1]⟩
  · refine ⟨nofun, fun heq => absurd ⟨trivial, ?_, ?_⟩ h⟩
    · exact Int.natCast_pos.mpr heq.2.1
    · exact Int.ofNat_le.mpr heq.2.2

theorem zScopeKind_eq_some (kind result : UniquenessScopeKind) :
    zEnum UniquenessScopeKind.text UniquenessScopeKind.all (some (.string kind.text)) =
      some result ↔ result = kind ∧ True := by
  rw [zEnum_name UniquenessScopeKind.text_injective (by cases kind <;> decide)]
  simp [eq_comm]

theorem zMode_eq_some (mode result : VerificationMode) :
    zEnum VerificationMode.text VerificationMode.all (some (.string mode.text)) =
      some result ↔ result = mode ∧ True := by
  rw [zEnum_name VerificationMode.text_injective (by cases mode <;> decide)]
  simp [eq_comm]

theorem methodRequirementSchema_toJson (accepted result : HumanMethodRequirement) :
    methodRequirementSchema (some accepted.toJson) = some result ↔
      result = accepted ∧ accepted.Accepted := by
  have hstring : ∀ maximum (a b : JsString),
      zString 1 maximum (some (.string a)) = some b ↔ b = a ∧ BoundedText 1 maximum a :=
    fun maximum a b => zString_eq_some
  have hkinds : ∀ kinds result, zScopeKinds 4 (some (.array (kinds.map fun kind =>
      .string (UniquenessScopeKind.text kind)))) = some result ↔
        result = kinds ∧ 1 ≤ kinds.length ∧ kinds.length ≤ 4 :=
    fun kinds result => (zArray_eq_some zScopeKind_eq_some).trans (by simp)
  have hmodes : ∀ modes result, zModes 4 (some (.array (modes.map fun mode =>
      .string (VerificationMode.text mode)))) = some result ↔
        result = modes ∧ 1 ≤ modes.length ∧ modes.length ≤ 4 :=
    fun modes result => (zArray_eq_some zMode_eq_some).trans (by simp)
  have hage : ∀ result, zOptional (zPositiveInt 86400)
      (accepted.fieldValue .maximumProofAgeSeconds) = some result ↔
        result = accepted.maximumProofAgeSeconds ∧
          ∀ seconds ∈ accepted.maximumProofAgeSeconds, 0 < seconds ∧ seconds ≤ 86400 :=
    fun result => zOptional_eq_some fun n m => zPositiveInt_eq_some
  have hfields := methodShape.strictObject_ofFields accepted.fieldValue
  constructor
  · intro h
    have h := (bind_known hfields).mp h
    obtain ⟨hprovider, h⟩ := (bind_read fun _ => zMatching_eq_some).mp h
    obtain ⟨hmethod, h⟩ := (bind_read fun _ => zMatching_eq_some).mp h
    obtain ⟨hversion, h⟩ := (bind_read (hstring 50 accepted.descriptorVersion)).mp h
    obtain ⟨hlevel, h⟩ := (bind_read fun _ => zOptional_eq_some (hstring 100)).mp h
    obtain ⟨hscopes, h⟩ := (bind_read (hkinds accepted.acceptedScopeKinds)).mp h
    obtain ⟨hseconds, h⟩ := (bind_read hage).mp h
    obtain ⟨hverification, h⟩ := (bind_read fun _ => zOptional_eq_some hmodes).mp h
    exact ⟨(Option.some.inj h).symm,
      ⟨hprovider, hmethod, hversion, hlevel, hscopes, hseconds, hverification⟩⟩
  · rintro ⟨hresult, h⟩
    subst hresult
    refine (bind_known hfields).mpr ?_
    refine (bind_read fun _ => zMatching_eq_some).mpr ⟨h.providerId, ?_⟩
    refine (bind_read fun _ => zMatching_eq_some).mpr ⟨h.methodId, ?_⟩
    refine (bind_read (hstring 50 result.descriptorVersion)).mpr ⟨h.descriptorVersion, ?_⟩
    refine (bind_read fun _ => zOptional_eq_some (hstring 100)).mpr ⟨h.assuranceLevel, ?_⟩
    refine (bind_read (hkinds result.acceptedScopeKinds)).mpr ⟨h.acceptedScopeKinds, ?_⟩
    refine (bind_read hage).mpr ⟨h.maximumProofAgeSeconds, ?_⟩
    exact (bind_read fun _ => zOptional_eq_some hmodes).mpr ⟨h.verificationModes, rfl⟩

/-! ## Resources -/

inductive ResourceField where
  | audience
  | method
  | requestDigest
  | uri
  deriving DecidableEq

def resourceShape : ObjectShape ResourceField where
  fields := [.audience, .method, .requestDigest, .uri]
  name
    | .audience => js "audience"
    | .method => js "method"
    | .requestDigest => js "requestDigest"
    | .uri => js "uri"
  complete := by intro k; cases k <;> decide
  sorted := by decide
  name_ne_proto := by intro k; cases k <;> decide

def ProtectedResource.fieldValue (resource : ProtectedResource) : ResourceField → Option Json
  | .audience => some (.string resource.audience)
  | .method => some (.string resource.method)
  | .requestDigest => some (.string resource.requestDigest)
  | .uri => some (.string resource.uri)

def ProtectedResource.toJson (resource : ProtectedResource) : Json :=
  resourceShape.ofFields resource.fieldValue

def resourceSchema (urls : JsUrls) (json : Option Json) : Option ProtectedResource := do
  let field ← zObject resourceShape json
  let method ← zString 1 20 (field .method)
  let uri ← zUrl urls 2048 (field .uri)
  let audience ← zUrl urls 2048 (field .audience)
  let requestDigest ← zMatching isDigestText (field .requestDigest)
  some { method, uri, audience, requestDigest }

theorem resourceSchema_toJson {urls : JsUrls} {resource result : ProtectedResource} :
    resourceSchema urls (some resource.toJson) = some result ↔
      (BoundedText 1 20 resource.method ∧ isDigestText resource.requestDigest = true) ∧
        ∃ uri audience, (urls.check resource.uri = some uri ∧ uri.length ≤ 2048) ∧
          (urls.check resource.audience = some audience ∧ audience.length ≤ 2048) ∧
          result = { resource with uri := uri, audience := audience } := by
  have hmethod : ∀ result, zString 1 20 (some (.string resource.method)) = some result ↔
      result = resource.method ∧ BoundedText 1 20 resource.method := fun _ => zString_eq_some
  have hfields := resourceShape.strictObject_ofFields resource.fieldValue
  constructor
  · intro h
    have h := (bind_known hfields).mp h
    obtain ⟨hbounded, h⟩ := (bind_read hmethod).mp h
    obtain ⟨uri, huri, h⟩ := Option.bind_eq_some_iff.mp h
    obtain ⟨audience, haudience, h⟩ := Option.bind_eq_some_iff.mp h
    obtain ⟨hdigest, h⟩ := (bind_read fun _ => zMatching_eq_some).mp h
    exact ⟨⟨hbounded, hdigest⟩, uri, audience, zUrl_eq_some.mp huri, zUrl_eq_some.mp haudience,
      (Option.some.inj h).symm⟩
  · rintro ⟨⟨hbounded, hdigest⟩, uri, audience, huri, haudience, rfl⟩
    refine (bind_known hfields).mpr ((bind_read hmethod).mpr ⟨hbounded, ?_⟩)
    refine (bind_known (zUrl_eq_some.mpr huri)).mpr ?_
    refine (bind_known (zUrl_eq_some.mpr haudience)).mpr ?_
    exact (bind_read fun _ => zMatching_eq_some).mpr ⟨hdigest, rfl⟩

/-! ## Requirements -/

structure RequirementDocument where
  dependencyId : JsString
  purpose : JsString
  resource : ProtectedResource
  nonce : JsString
  binding : HumanBinding
  createdAt : JsString
  expiresAt : JsString
  accepts : List HumanMethodRequirement
  providerRequests : Option (List (JsString × Json))

inductive RequirementField where
  | accepts
  | binding
  | createdAt
  | dependencyId
  | expiresAt
  | nonce
  | providerRequests
  | purpose
  | resource
  | x424Version
  deriving DecidableEq

def requirementShape : ObjectShape RequirementField where
  fields := [.accepts, .binding, .createdAt, .dependencyId, .expiresAt, .nonce,
    .providerRequests, .purpose, .resource, .x424Version]
  name
    | .accepts => js "accepts"
    | .binding => js "binding"
    | .createdAt => js "createdAt"
    | .dependencyId => js "dependencyId"
    | .expiresAt => js "expiresAt"
    | .nonce => js "nonce"
    | .providerRequests => js "providerRequests"
    | .purpose => js "purpose"
    | .resource => js "resource"
    | .x424Version => js "x424Version"
  complete := by intro k; cases k <;> decide
  sorted := by decide
  name_ne_proto := by intro k; cases k <;> decide

namespace RequirementDocument

def fieldValue (document : RequirementDocument) : RequirementField → Option Json
  | .accepts => some (.array (document.accepts.map HumanMethodRequirement.toJson))
  | .binding => some document.binding.toJson
  | .createdAt => some (.string document.createdAt)
  | .dependencyId => some (.string document.dependencyId)
  | .expiresAt => some (.string document.expiresAt)
  | .nonce => some (.string document.nonce)
  | .providerRequests => document.providerRequests.map .object
  | .purpose => some (.string document.purpose)
  | .resource => some document.resource.toJson
  | .x424Version => some (.string X424.x424Version)

def toJson (document : RequirementDocument) : Json := requirementShape.ofFields document.fieldValue

def read (dates : JsDates) (document : RequirementDocument) : HumanRequirement where
  x424Version := X424.x424Version
  dependencyId := document.dependencyId
  purpose := document.purpose
  resource := document.resource
  nonce := document.nonce
  binding := document.binding
  createdAt := dates.parse document.createdAt
  expiresAt := dates.parse document.expiresAt
  accepts := document.accepts
  providerRequestKeys := (document.providerRequests.getD []).map Prod.fst

end RequirementDocument

def knownMembers (members : List (JsString × Json)) : List (JsString × Json) :=
  members.filter fun member => member.1 ≠ protoKey

/-- `z.record(z.string().max(maximum), z.unknown())`, which skips `__proto__`. -/
def zRecord (maximum : Nat) : Option Json → Option (List (JsString × Json))
  | some (.object members) =>
      if (knownMembers members).all fun member => decide (member.1.length ≤ maximum) then
        some (knownMembers members)
      else none
  | _ => none

def HumanRequirementSchema (dates : JsDates) (urls : JsUrls) (json : Json) :
    Option RequirementDocument := do
  let field ← requirementShape.strictObject json
  let _ ← zLiteral X424.x424Version (field .x424Version)
  let dependencyId ← zString 1 200 (field .dependencyId)
  let purpose ← zString 1 200 (field .purpose)
  let resource ← resourceSchema urls (field .resource)
  let nonce ← zString 1 512 (field .nonce)
  let binding ← bindingSchema (field .binding)
  let createdAt ← zMatching dates.isDatetime (field .createdAt)
  let expiresAt ← zMatching dates.isDatetime (field .expiresAt)
  let accepts ← zArray methodRequirementSchema 1 10 (field .accepts)
  let providerRequests ← zOptional (zRecord 201) (field .providerRequests)
  some {
    dependencyId, purpose, resource, nonce, binding, createdAt, expiresAt, accepts
    providerRequests }

structure RequirementDocument.Valid (dates : JsDates) (document : RequirementDocument) : Prop where
  dependencyId : BoundedText 1 200 document.dependencyId
  purpose : BoundedText 1 200 document.purpose
  resource : BoundedText 1 20 document.resource.method ∧
    isDigestText document.resource.requestDigest = true
  nonce : BoundedText 1 512 document.nonce
  binding : BoundedText 1 512 document.binding.value
  createdAt : dates.isDatetime document.createdAt = true
  expiresAt : dates.isDatetime document.expiresAt = true
  accepts : (1 ≤ document.accepts.length ∧ document.accepts.length ≤ 10) ∧
    ∀ accepted ∈ document.accepts, accepted.Accepted
  providerRequests : ∀ members ∈ document.providerRequests,
    ∀ member ∈ knownMembers members, member.1.length ≤ 201

theorem zRecord_eq_some {maximum : Nat} {members result : List (JsString × Json)} :
    zRecord maximum (some (.object members)) = some result ↔
      result = knownMembers members ∧
        ∀ member ∈ knownMembers members, member.1.length ≤ maximum := by
  simp only [zRecord, List.all_eq_true, decide_eq_true_eq]
  split_ifs with h
  · exact ⟨fun heq => ⟨(Option.some.inj heq).symm, h⟩, fun heq => by rw [heq.1]⟩
  · exact ⟨nofun, fun heq => absurd heq.2 h⟩

theorem zRecords_eq_some {maximum : Nat} {requests result : Option (List (JsString × Json))} :
    zOptional (zRecord maximum) (requests.map .object) = some result ↔
      result = requests.map knownMembers ∧ ∀ members ∈ requests,
        ∀ member ∈ knownMembers members, member.1.length ≤ maximum := by
  cases requests with
  | none => simp [zOptional, eq_comm]
  | some members =>
      simp only [Option.map_some, zOptional, Option.map_eq_some_iff, zRecord_eq_some,
        Option.mem_some, forall_eq']
      constructor
      · rintro ⟨_, ⟨rfl, hmembers⟩, rfl⟩
        exact ⟨rfl, hmembers⟩
      · rintro ⟨rfl, hmembers⟩
        exact ⟨_, ⟨rfl, hmembers⟩, rfl⟩

/-- A written requirement is read back with its URLs trimmed and without `__proto__`. -/
theorem HumanRequirementSchema_toJson {dates : JsDates} {urls : JsUrls}
    {document result : RequirementDocument} :
    HumanRequirementSchema dates urls document.toJson = some result ↔
      document.Valid dates ∧ ∃ uri audience,
        (urls.check document.resource.uri = some uri ∧ uri.length ≤ 2048) ∧
        (urls.check document.resource.audience = some audience ∧ audience.length ≤ 2048) ∧
        result = { document with
          resource := { document.resource with uri := uri, audience := audience }
          providerRequests := document.providerRequests.map knownMembers } := by
  have hstring : ∀ maximum (a b : JsString),
      zString 1 maximum (some (.string a)) = some b ↔ b = a ∧ BoundedText 1 maximum a :=
    fun maximum a b => zString_eq_some
  have haccepts : ∀ result, zArray methodRequirementSchema 1 10
      (some (.array (document.accepts.map HumanMethodRequirement.toJson))) = some result ↔
        result = document.accepts ∧ (1 ≤ document.accepts.length ∧ document.accepts.length ≤ 10) ∧
          ∀ accepted ∈ document.accepts, accepted.Accepted :=
    fun result => zArray_eq_some methodRequirementSchema_toJson
  have hrequests : ∀ result, zOptional (zRecord 201) (document.fieldValue .providerRequests) =
      some result ↔ result = document.providerRequests.map knownMembers ∧
        ∀ members ∈ document.providerRequests, ∀ member ∈ knownMembers members,
          member.1.length ≤ 201 := fun result => zRecords_eq_some
  have hfields := requirementShape.strictObject_ofFields document.fieldValue
  constructor
  · intro h
    have h := (bind_known hfields).mp h
    have h := (bind_known (zLiteral_self X424.x424Version)).mp h
    obtain ⟨hdependencyId, h⟩ := (bind_read (hstring 200 document.dependencyId)).mp h
    obtain ⟨hpurpose, h⟩ := (bind_read (hstring 200 document.purpose)).mp h
    obtain ⟨resource, hresource, h⟩ := Option.bind_eq_some_iff.mp h
    obtain ⟨hvalid, uri, audience, huri, haudience, rfl⟩ := resourceSchema_toJson.mp hresource
    obtain ⟨hnonce, h⟩ := (bind_read (hstring 512 document.nonce)).mp h
    obtain ⟨hbinding, h⟩ := (bind_read (bindingSchema_toJson document.binding)).mp h
    obtain ⟨hcreatedAt, h⟩ := (bind_read fun _ => zMatching_eq_some).mp h
    obtain ⟨hexpiresAt, h⟩ := (bind_read fun _ => zMatching_eq_some).mp h
    obtain ⟨hmethods, h⟩ := (bind_read haccepts).mp h
    obtain ⟨hmembers, h⟩ := (bind_read hrequests).mp h
    exact ⟨⟨hdependencyId, hpurpose, hvalid, hnonce, hbinding, hcreatedAt, hexpiresAt, hmethods,
      hmembers⟩, uri, audience, huri, haudience, (Option.some.inj h).symm⟩
  · rintro ⟨h, uri, audience, huri, haudience, rfl⟩
    refine (bind_known hfields).mpr ((bind_known (zLiteral_self X424.x424Version)).mpr ?_)
    refine (bind_read (hstring 200 document.dependencyId)).mpr ⟨h.dependencyId, ?_⟩
    refine (bind_read (hstring 200 document.purpose)).mpr ⟨h.purpose, ?_⟩
    refine (bind_known (resourceSchema_toJson.mpr
      ⟨h.resource, uri, audience, huri, haudience, rfl⟩)).mpr ?_
    refine (bind_read (hstring 512 document.nonce)).mpr ⟨h.nonce, ?_⟩
    refine (bind_read (bindingSchema_toJson document.binding)).mpr ⟨h.binding, ?_⟩
    refine (bind_read fun _ => zMatching_eq_some).mpr ⟨h.createdAt, ?_⟩
    refine (bind_read fun _ => zMatching_eq_some).mpr ⟨h.expiresAt, ?_⟩
    refine (bind_read haccepts).mpr ⟨h.accepts, ?_⟩
    exact (bind_read hrequests).mpr ⟨h.providerRequests, rfl⟩

end X424
