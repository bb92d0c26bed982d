import X424.Schemas.Fields

/-!
# Results as JSON

`HumanResultSchema`: a result as it is written into a token and as it is read
from one.
-/

namespace X424

/-! ## Names -/

def VerificationMode.all : List VerificationMode := [.backend, .offchain, .onchain, .hybrid]

def VerificationMode.text : VerificationMode → JsString
  | .backend => js "backend"
  | .offchain => js "offchain"
  | .onchain => js "onchain"
  | .hybrid => js "hybrid"

def UniquenessScopeKind.all : List UniquenessScopeKind :=
  [.global, .relyingParty, .action, .session]

def UniquenessScopeKind.text : UniquenessScopeKind → JsString
  | .global => js "global"
  | .relyingParty => js "relying_party"
  | .action => js "action"
  | .session => js "session"

def BindingKind.all : List BindingKind := [.request, .wallet, .agentKey, .session]

def BindingKind.text : BindingKind → JsString
  | .request => js "request"
  | .wallet => js "wallet"
  | .agentKey => js "agent_key"
  | .session => js "session"

theorem VerificationMode.text_injective : Function.Injective VerificationMode.text := by
  intro a b
  cases a <;> cases b <;> decide

theorem UniquenessScopeKind.text_injective : Function.Injective UniquenessScopeKind.text := by
  intro a b
  cases a <;> cases b <;> decide

theorem BindingKind.text_injective : Function.Injective BindingKind.text := by
  intro a b
  cases a <;> cases b <;> decide

/-! ## Bindings and scopes -/

inductive BindingField where
  | kind
  | value
  deriving DecidableEq

def bindingShape : ObjectShape BindingField where
  fields := [.kind, .value]
  name
    | .kind => js "kind"
    | .value => js "value"
  complete := by rintro (_ | _) <;> decide
  sorted := by decide
  name_ne_proto := by rintro (_ | _) <;> decide

def HumanBinding.toJson (binding : HumanBinding) : Json :=
  bindingShape.ofFields fun
    | .kind => some (.string binding.kind.text)
    | .value => some (.string binding.value)

/-- `BindingSchema`. -/
def bindingSchema (json : Option Json) : Option HumanBinding := do
  let field ← zObject bindingShape json
  let kind ← zEnum BindingKind.text BindingKind.all (field .kind)
  let value ← zString 1 512 (field .value)
  some ⟨kind, value⟩

inductive ScopeField where
  | id
  | kind
  deriving DecidableEq

def scopeShape : ObjectShape ScopeField where
  fields := [.id, .kind]
  name
    | .id => js "id"
    | .kind => js "kind"
  complete := by rintro (_ | _) <;> decide
  sorted := by decide
  name_ne_proto := by rintro (_ | _) <;> decide

def UniquenessScope.toJson (scope : UniquenessScope) : Json :=
  scopeShape.ofFields fun
    | .id => some (.string scope.id)
    | .kind => some (.string scope.kind.text)

def uniquenessScopeSchema (json : Option Json) : Option UniquenessScope := do
  let field ← zObject scopeShape json
  let kind ← zEnum UniquenessScopeKind.text UniquenessScopeKind.all (field .kind)
  let id ← zString 1 500 (field .id)
  some ⟨kind, id⟩

theorem bindingSchema_toJson (binding result : HumanBinding) :
    bindingSchema (some binding.toJson) = some result ↔
      result = binding ∧ 1 ≤ binding.value.length ∧ binding.value.length ≤ 512 := by
  have hkind : zEnum BindingKind.text BindingKind.all (some (.string binding.kind.text)) =
      some binding.kind :=
    zEnum_name BindingKind.text_injective (by cases binding.kind <;> decide)
  simp only [bindingSchema, zObject, HumanBinding.toJson, ObjectShape.strictObject_ofFields, hkind,
    Option.bind_eq_bind, Option.bind_some, Option.bind_eq_some_iff, zString_eq_some,
    Option.some.injEq]
  constructor
  · rintro ⟨_, ⟨rfl, hlength⟩, rfl⟩
    exact ⟨rfl, hlength⟩
  · rintro ⟨rfl, hlength⟩
    exact ⟨_, ⟨rfl, hlength⟩, rfl⟩

theorem uniquenessScopeSchema_toJson (scope result : UniquenessScope) :
    uniquenessScopeSchema (some scope.toJson) = some result ↔
      result = scope ∧ 1 ≤ scope.id.length ∧ scope.id.length ≤ 500 := by
  have hkind : zEnum UniquenessScopeKind.text UniquenessScopeKind.all
      (some (.string scope.kind.text)) = some scope.kind :=
    zEnum_name UniquenessScopeKind.text_injective (by cases scope.kind <;> decide)
  simp only [uniquenessScopeSchema, zObject, UniquenessScope.toJson,
    ObjectShape.strictObject_ofFields, hkind, Option.bind_eq_bind, Option.bind_some,
    Option.bind_eq_some_iff, zString_eq_some, Option.some.injEq]
  constructor
  · rintro ⟨_, ⟨rfl, hlength⟩, rfl⟩
    exact ⟨rfl, hlength⟩
  · rintro ⟨rfl, hlength⟩
    exact ⟨_, ⟨rfl, hlength⟩, rfl⟩

/-! ## Results -/

structure ResultDocument where
  resultId : JsString
  dependencyId : JsString
  purpose : JsString
  audience : JsString
  requestDigest : JsString
  binding : HumanBinding
  providerId : JsString
  methodId : JsString
  descriptorVersion : JsString
  assuranceLevel : Option JsString
  pairwiseHumanId : JsString
  uniquenessScope : UniquenessScope
  verificationMode : VerificationMode
  proofDigest : JsString
  claim : JsString
  nonClaims : List JsString
  verifiedAt : JsString
  issuedAt : JsString
  expiresAt : JsString
  stateReferences : Option (List JsString)
  deriving DecidableEq

inductive ResultField where
  | assuranceLevel
  | audience
  | binding
  | claim
  | dependencyId
  | descriptorVersion
  | expiresAt
  | issuedAt
  | methodId
  | nonClaims
  | pairwiseHumanId
  | proofDigest
  | providerId
  | purpose
  | requestDigest
  | resultId
  | satisfied
  | stateReferences
  | uniquenessScope
  | verificationMode
  | verifiedAt
  | x424Version
  deriving DecidableEq

def resultShape : ObjectShape ResultField where
  fields := [.assuranceLevel, .audience, .binding, .claim, .dependencyId, .descriptorVersion,
    .expiresAt, .issuedAt, .methodId, .nonClaims, .pairwiseHumanId, .proofDigest, .providerId,
    .purpose, .requestDigest, .resultId, .satisfied, .stateReferences, .uniquenessScope,
    .verificationMode, .verifiedAt, .x424Version]
  name
    | .assuranceLevel => js "assuranceLevel"
    | .audience => js "audience"
    | .binding => js "binding"
    | .claim => js "claim"
    | .dependencyId => js "dependencyId"
    | .descriptorVersion => js "descriptorVersion"
    | .expiresAt => js "expiresAt"
    | .issuedAt => js "issuedAt"
    | .methodId => js "methodId"
    | .nonClaims => js "nonClaims"
    | .pairwiseHumanId => js "pairwiseHumanId"
    | .proofDigest => js "proofDigest"
    | .providerId => js "providerId"
    | .purpose => js "purpose"
    | .requestDigest => js "requestDigest"
    | .resultId => js "resultId"
    | .satisfied => js "satisfied"
    | .stateReferences => js "stateReferences"
    | .uniquenessScope => js "uniquenessScope"
    | .verificationMode => js "verificationMode"
    | .verifiedAt => js "verifiedAt"
    | .x424Version => js "x424Version"
  complete := by intro k; cases k <;> decide
  sorted := by decide
  name_ne_proto := by intro k; cases k <;> decide

namespace ResultDocument

def fieldValue (document : ResultDocument) : ResultField → Option Json
  | .assuranceLevel => document.assuranceLevel.map .string
  | .audience => some (.string document.audience)
  | .binding => some document.binding.toJson
  | .claim => some (.string document.claim)
  | .dependencyId => some (.string document.dependencyId)
  | .descriptorVersion => some (.string document.descriptorVersion)
  | .expiresAt => some (.string document.expiresAt)
  | .issuedAt => some (.string document.issuedAt)
  | .methodId => some (.string document.methodId)
  | .nonClaims => some (.array (document.nonClaims.map .string))
  | .pairwiseHumanId => some (.string document.pairwiseHumanId)
  | .proofDigest => some (.string document.proofDigest)
  | .providerId => some (.string document.providerId)
  | .purpose => some (.string document.purpose)
  | .requestDigest => some (.string document.requestDigest)
  | .resultId => some (.string document.resultId)
  | .satisfied => some (.bool true)
  | .stateReferences => document.stateReferences.map fun references =>
      .array (references.map .string)
  | .uniquenessScope => some document.uniquenessScope.toJson
  | .verificationMode => some (.string document.verificationMode.text)
  | .verifiedAt => some (.string document.verifiedAt)
  | .x424Version => some (.string X424.x424Version)

def toJson (document : ResultDocument) : Json := resultShape.ofFields document.fieldValue

def read (dates : JsDates) (document : ResultDocument) : HumanResult where
  resultId := document.resultId
  dependencyId := document.dependencyId
  purpose := document.purpose
  audience := document.audience
  requestDigest := document.requestDigest
  binding := document.binding
  providerId := document.providerId
  methodId := document.methodId
  descriptorVersion := document.descriptorVersion
  assuranceLevel := document.assuranceLevel
  uniquenessScope := document.uniquenessScope
  verificationMode := document.verificationMode
  claim := document.claim
  nonClaims := document.nonClaims
  verifiedAt := dates.parse document.verifiedAt
  issuedAt := dates.parse document.issuedAt
  expiresAt := dates.parse document.expiresAt

end ResultDocument

def isDigestText (text : JsString) : Bool :=
  decide (text.length ≤ 200) && (assertSha256Digest text).isOk

def pairwisePrefix : JsString := js "x424_human_"

def isPairwiseText (text : JsString) : Bool :=
  text.take 11 == pairwisePrefix && decide (text.length ≤ 200)

def zTexts (minimum maximum itemMaximum : Nat) : Option Json → Option (List JsString) :=
  zArray (zString 1 itemMaximum) minimum maximum

def HumanResultSchema (dates : JsDates) (urls : JsUrls) (json : Json) : Option ResultDocument := do
  let field ← resultShape.strictObject json
  let _ ← zLiteral X424.x424Version (field .x424Version)
  let resultId ← zString 1 200 (field .resultId)
  let dependencyId ← zString 1 200 (field .dependencyId)
  let _ ← zTrue (field .satisfied)
  let purpose ← zString 1 200 (field .purpose)
  let audience ← zUrl urls 2048 (field .audience)
  let requestDigest ← zMatching isDigestText (field .requestDigest)
  let binding ← bindingSchema (field .binding)
  let providerId ← zMatching isHumanMethodIdentifier (field .providerId)
  let methodId ← zMatching isHumanMethodIdentifier (field .methodId)
  let descriptorVersion ← zString 1 50 (field .descriptorVersion)
  let assuranceLevel ← zOptional (zString 1 100) (field .assuranceLevel)
  let pairwiseHumanId ← zMatching isPairwiseText (field .pairwiseHumanId)
  let uniquenessScope ← uniquenessScopeSchema (field .uniquenessScope)
  let verificationMode ← zEnum VerificationMode.text VerificationMode.all (field .verificationMode)
  let proofDigest ← zMatching isDigestText (field .proofDigest)
  let claim ← zString 1 2000 (field .claim)
  let nonClaims ← zTexts 1 50 1000 (field .nonClaims)
  let verifiedAt ← zMatching dates.isDatetime (field .verifiedAt)
  let issuedAt ← zMatching dates.isDatetime (field .issuedAt)
  let expiresAt ← zMatching dates.isDatetime (field .expiresAt)
  let stateReferences ← zOptional (zTexts 0 20 500) (field .stateReferences)
  some {
    resultId, dependencyId, purpose, audience, requestDigest, binding, providerId, methodId
    descriptorVersion, assuranceLevel, pairwiseHumanId, uniquenessScope, verificationMode
    proofDigest, claim, nonClaims, verifiedAt, issuedAt, expiresAt, stateReferences }

def BoundedText (minimum maximum : Nat) (text : JsString) : Prop :=
  minimum ≤ text.length ∧ text.length ≤ maximum

structure ResultDocument.Accepted (dates : JsDates) (document : ResultDocument) : Prop where
  resultId : BoundedText 1 200 document.resultId
  dependencyId : BoundedText 1 200 document.dependencyId
  purpose : BoundedText 1 200 document.purpose
  requestDigest : isDigestText document.requestDigest = true
  binding : BoundedText 1 512 document.binding.value
  providerId : isHumanMethodIdentifier document.providerId = true
  methodId : isHumanMethodIdentifier document.methodId = true
  descriptorVersion : BoundedText 1 50 document.descriptorVersion
  assuranceLevel : ∀ level ∈ document.assuranceLevel, BoundedText 1 100 level
  pairwiseHumanId : isPairwiseText document.pairwiseHumanId = true
  uniquenessScope : BoundedText 1 500 document.uniquenessScope.id
  proofDigest : isDigestText document.proofDigest = true
  claim : BoundedText 1 2000 document.claim
  nonClaims : (1 ≤ document.nonClaims.length ∧ document.nonClaims.length ≤ 50) ∧
    ∀ text ∈ document.nonClaims, BoundedText 1 1000 text
  verifiedAt : dates.isDatetime document.verifiedAt = true
  issuedAt : dates.isDatetime document.issuedAt = true
  expiresAt : dates.isDatetime document.expiresAt = true
  stateReferences : ∀ references ∈ document.stateReferences,
    (0 ≤ references.length ∧ references.length ≤ 20) ∧ ∀ text ∈ references, BoundedText 1 500 text

theorem HumanResultSchema_toJson {dates : JsDates} {urls : JsUrls}
    {document result : ResultDocument} :
    HumanResultSchema dates urls document.toJson = some result ↔
      document.Accepted dates ∧ ∃ audience, urls.check document.audience = some audience ∧
        audience.length ≤ 2048 ∧ result = { document with audience := audience } := by
  have hmode : zEnum VerificationMode.text VerificationMode.all
      (some (.string document.verificationMode.text)) = some document.verificationMode :=
    zEnum_name VerificationMode.text_injective (by cases document.verificationMode <;> decide)
  have hstring : ∀ maximum (a b : JsString),
      zString 1 maximum (some (.string a)) = some b ↔ b = a ∧ BoundedText 1 maximum a :=
    fun maximum a b => zString_eq_some
  have htexts : ∀ minimum maximum itemMaximum (as bs : List JsString),
      zTexts minimum maximum itemMaximum (some (.array (as.map .string))) = some bs ↔
        bs = as ∧ (minimum ≤ as.length ∧ as.length ≤ maximum) ∧
          ∀ text ∈ as, BoundedText 1 itemMaximum text :=
    fun minimum maximum itemMaximum as bs => zArray_eq_some (hstring itemMaximum)
  have hfields := resultShape.strictObject_ofFields document.fieldValue
  constructor
  · intro h
    have h := (bind_known hfields).mp h
    have h := (bind_known (zLiteral_self X424.x424Version)).mp h
    obtain ⟨hresultId, h⟩ := (bind_read (hstring 200 document.resultId)).mp h
    obtain ⟨hdependencyId, h⟩ := (bind_read (hstring 200 document.dependencyId)).mp h
    have h := (bind_known zTrue_true).mp h
    obtain ⟨hpurpose, h⟩ := (bind_read (hstring 200 document.purpose)).mp h
    obtain ⟨audience, haudience, h⟩ := Option.bind_eq_some_iff.mp h
    obtain ⟨hdigest, h⟩ := (bind_read fun _ => zMatching_eq_some).mp h
    obtain ⟨hbinding, h⟩ := (bind_read (bindingSchema_toJson document.binding)).mp h
    obtain ⟨hprovider, h⟩ := (bind_read fun _ => zMatching_eq_some).mp h
    obtain ⟨hmethod, h⟩ := (bind_read fun _ => zMatching_eq_some).mp h
    obtain ⟨hversion, h⟩ := (bind_read (hstring 50 document.descriptorVersion)).mp h
    obtain ⟨hlevel, h⟩ := (bind_read fun _ => zOptional_eq_some (hstring 100)).mp h
    obtain ⟨hpairwise, h⟩ := (bind_read fun _ => zMatching_eq_some).mp h
    obtain ⟨hscope, h⟩ := (bind_read (uniquenessScopeSchema_toJson document.uniquenessScope)).mp h
    have h := (bind_known hmode).mp h
    obtain ⟨hproof, h⟩ := (bind_read fun _ => zMatching_eq_some).mp h
    obtain ⟨hclaim, h⟩ := (bind_read (hstring 2000 document.claim)).mp h
    obtain ⟨hnonClaims, h⟩ := (bind_read (htexts 1 50 1000 document.nonClaims)).mp h
    obtain ⟨hverifiedAt, h⟩ := (bind_read fun _ => zMatching_eq_some).mp h
    obtain ⟨hissuedAt, h⟩ := (bind_read fun _ => zMatching_eq_some).mp h
    obtain ⟨hexpiresAt, h⟩ := (bind_read fun _ => zMatching_eq_some).mp h
    obtain ⟨hreferences, h⟩ := (bind_read fun _ => zOptional_eq_some (htexts 0 20 500)).mp h
    obtain ⟨haudience, hlength⟩ := zUrl_eq_some.mp haudience
    exact ⟨⟨hresultId, hdependencyId, hpurpose, hdigest, hbinding, hprovider, hmethod, hversion,
      hlevel, hpairwise, hscope, hproof, hclaim, hnonClaims, hverifiedAt, hissuedAt, hexpiresAt,
      hreferences⟩, audience, haudience, hlength, (Option.some.inj h).symm⟩
  · rintro ⟨h, audience, haudience, hlength, rfl⟩
    refine (bind_known hfields).mpr ((bind_known (zLiteral_self X424.x424Version)).mpr ?_)
    refine (bind_read (hstring 200 document.resultId)).mpr ⟨h.resultId, ?_⟩
    refine (bind_read (hstring 200 document.dependencyId)).mpr ⟨h.dependencyId, ?_⟩
    refine (bind_known zTrue_true).mpr ?_
    refine (bind_read (hstring 200 document.purpose)).mpr ⟨h.purpose, ?_⟩
    refine (bind_known (zUrl_eq_some.mpr ⟨haudience, hlength⟩)).mpr ?_
    refine (bind_read fun _ => zMatching_eq_some).mpr ⟨h.requestDigest, ?_⟩
    refine (bind_read (bindingSchema_toJson document.binding)).mpr ⟨h.binding, ?_⟩
    refine (bind_read fun _ => zMatching_eq_some).mpr ⟨h.providerId, ?_⟩
    refine (bind_read fun _ => zMatching_eq_some).mpr ⟨h.methodId, ?_⟩
    refine (bind_read (hstring 50 document.descriptorVersion)).mpr ⟨h.descriptorVersion, ?_⟩
    refine (bind_read fun _ => zOptional_eq_some (hstring 100)).mpr ⟨h.assuranceLevel, ?_⟩
    refine (bind_read fun _ => zMatching_eq_some).mpr ⟨h.pairwiseHumanId, ?_⟩
    refine (bind_read (uniquenessScopeSchema_toJson document.uniquenessScope)).mpr
      ⟨h.uniquenessScope, ?_⟩
    refine (bind_known hmode).mpr ?_
    refine (bind_read fun _ => zMatching_eq_some).mpr ⟨h.proofDigest, ?_⟩
    refine (bind_read (hstring 2000 document.claim)).mpr ⟨h.claim, ?_⟩
    refine (bind_read (htexts 1 50 1000 document.nonClaims)).mpr ⟨h.nonClaims, ?_⟩
    refine (bind_read fun _ => zMatching_eq_some).mpr ⟨h.verifiedAt, ?_⟩
    refine (bind_read fun _ => zMatching_eq_some).mpr ⟨h.issuedAt, ?_⟩
    refine (bind_read fun _ => zMatching_eq_some).mpr ⟨h.expiresAt, ?_⟩
    exact (bind_read fun _ => zOptional_eq_some (htexts 0 20 500)).mpr ⟨h.stateReferences, rfl⟩

/-! ## Canonical form -/

section Canonical

variable {numbers : JsNumbers}

theorem canonical_binding (binding : HumanBinding) : binding.toJson.Canonical numbers := by
  refine canonical_ofFields fun k value hvalue => ?_
  cases k <;> cases hvalue <;> exact canonical_string _

theorem canonical_scope (scope : UniquenessScope) : scope.toJson.Canonical numbers := by
  refine canonical_ofFields fun k value hvalue => ?_
  cases k <;> cases hvalue <;> exact canonical_string _

theorem canonical_result (document : ResultDocument) : document.toJson.Canonical numbers := by
  refine canonical_ofFields fun k value hvalue => ?_
  cases k <;> simp only [ResultDocument.fieldValue, Option.map_eq_some_iff, Option.some.injEq]
    at hvalue
  case assuranceLevel =>
    obtain ⟨level, -, rfl⟩ := hvalue
    exact canonical_string level
  case stateReferences =>
    obtain ⟨references, -, rfl⟩ := hvalue
    exact canonical_texts references
  case binding => exact hvalue ▸ canonical_binding document.binding
  case uniquenessScope => exact hvalue ▸ canonical_scope document.uniquenessScope
  case nonClaims => exact hvalue ▸ canonical_texts document.nonClaims
  case satisfied => exact hvalue ▸ ⟨.bool true, rfl⟩
  all_goals exact hvalue ▸ canonical_string _

end Canonical

end X424
