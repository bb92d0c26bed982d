import X424.Challenge
import X424.Requirements

/-!
# Bodies of issuance requests

`CreateSchema` of `router.ts`, and the body of the protected request that is
made of what it returns.
-/

namespace X424

open Canonical

/-! ## Accepted methods -/

section Checks

variable {α : Type}

/-- `z.array(item).min(1)`. -/
def zNonEmptyArray (item : Option Json → Option α) : Option Json → Option (List α)
  | some (.array items) =>
      if items.isEmpty then none else items.mapM fun json => item (some json)
  | _ => none

/-- `z.number().int().min(minimum).max(maximum)`. -/
def zInt (minimum maximum : Int) : Option Json → Option Int
  | some (.number value) =>
      if value.den = 1 ∧ minimum ≤ value.num ∧ value.num ≤ maximum then some value.num else none
  | _ => none

/-- `z.record(z.string().min(minimum).max(maximum), z.unknown())`. -/
def zKeyedRecord (minimum maximum : Nat) (field : Option Json) :
    Option (List (JsString × Json)) :=
  (zRecord maximum field).filter fun members =>
    members.all fun member => decide (minimum ≤ member.1.length)

end Checks

/-- The lists of scope kinds and of modes have no maximum length here. -/
def MethodSchema (json : Option Json) : Option HumanMethodRequirement := do
  let field ← zObject methodShape json
  let providerId ← zMatching isHumanMethodIdentifier (field .providerId)
  let methodId ← zMatching isHumanMethodIdentifier (field .methodId)
  let descriptorVersion ← zString 1 50 (field .descriptorVersion)
  let assuranceLevel ← zOptional (zString 1 100) (field .assuranceLevel)
  let acceptedScopeKinds ←
    zNonEmptyArray (zEnum UniquenessScopeKind.text UniquenessScopeKind.all)
      (field .acceptedScopeKinds)
  let maximumProofAgeSeconds ← zOptional (zPositiveInt 86400) (field .maximumProofAgeSeconds)
  let verificationModes ←
    zOptional (zNonEmptyArray (zEnum VerificationMode.text VerificationMode.all))
      (field .verificationModes)
  some {
    providerId, methodId, descriptorVersion, assuranceLevel, acceptedScopeKinds
    maximumProofAgeSeconds, verificationModes }

/-! ## Bodies of the protected request -/

inductive KindField where
  | kind
  deriving DecidableEq

def kindShape : ObjectShape KindField where
  fields := [.kind]
  name | .kind => js "kind"
  complete := by intro k; cases k; decide
  sorted := by decide
  name_ne_proto := by intro k; cases k; decide

inductive JsonBodyField where
  | kind
  | value
  deriving DecidableEq

def jsonBodyShape : ObjectShape JsonBodyField where
  fields := [.kind, .value]
  name
    | .kind => js "kind"
    | .value => js "value"
  complete := by intro k; cases k <;> decide
  sorted := by decide
  name_ne_proto := by intro k; cases k <;> decide

inductive OpaqueBodyField where
  | bytesBase64url
  | kind
  deriving DecidableEq

def opaqueBodyShape : ObjectShape OpaqueBodyField where
  fields := [.bytesBase64url, .kind]
  name
    | .bytesBase64url => js "bytesBase64url"
    | .kind => js "kind"
  complete := by intro k; cases k <;> decide
  sorted := by decide
  name_ne_proto := by intro k; cases k <;> decide

inductive PrecomputedBodyField where
  | bodyDigest
  | kind
  deriving DecidableEq

def precomputedBodyShape : ObjectShape PrecomputedBodyField where
  fields := [.bodyDigest, .kind]
  name
    | .bodyDigest => js "bodyDigest"
    | .kind => js "kind"
  complete := by intro k; cases k <;> decide
  sorted := by decide
  name_ne_proto := by intro k; cases k <;> decide

/-- What `BodyInputSchema` returns. -/
inductive IssuanceBodyInput where
  | absent
  | empty
  | json (value : Option Json)
  | opaqueText (bytesBase64url : JsString)
  | precomputed (bodyDigest : JsString)

/-- `z.discriminatedUnion("kind", […])`. -/
def BodyInputSchema (json : Option Json) : Option IssuanceBodyInput := do
  let object ← json
  match memberOf (js "kind") object with
  | some (.string kind) =>
      if kind = js "absent" then (kindShape.strictObject object).map fun _ => .absent
      else if kind = js "empty" then (kindShape.strictObject object).map fun _ => .empty
      else if kind = js "json" then
        (jsonBodyShape.strictObject object).map fun field => .json (field .value)
      else if kind = js "opaque" then do
        let field ← opaqueBodyShape.strictObject object
        (zString 1 350000 (field .bytesBase64url)).map .opaqueText
      else if kind = js "precomputed" then do
        let field ← precomputedBodyShape.strictObject object
        (zString 1 50 (field .bodyDigest)).map .precomputed
      else none
  | _ => none

def jsonTypeOf : Json → JsString
  | .bool _ => js "boolean"
  | .number _ => js "number"
  | .string _ => js "string"
  | _ => js "object"

def bodyInputFromPlainJsonBody : Option Json → Except JsError RequestBodyDigestInput
  | none => .ok .absent
  | some (.string []) => .ok .empty
  | some (.string _) =>
      .error ⟨js "String bodies must be supplied as opaque bytes or precomputed digests"⟩
  | some body =>
      if isContainer body then .ok (.json body)
      else .error ⟨js "Unsupported request body type: " ++ jsonTypeOf body⟩

def resolveIssuanceBodyInput (bodyInput : Option IssuanceBodyInput) (body : Option Json) :
    Except JsError RequestBodyDigestInput :=
  match bodyInput with
  | some .absent => .ok .absent
  | some .empty => .ok .empty
  | some (.json (some value)) => .ok (.json value)
  -- `value` is `undefined`, which the digest refuses
  | some (.json none) => .error ⟨js "json bodyInput requires a plain JSON object or array"⟩
  | some (.opaqueText bytesBase64url) =>
      (decodeStrictBase64Url bytesBase64url (js "opaque body bytes")).map .opaqueBytes
  | some (.precomputed bodyDigest) => .ok (.precomputed bodyDigest)
  | none => bodyInputFromPlainJsonBody body

/-! ## The whole body -/

inductive CreateField where
  | accepts
  | audience
  | binding
  | body
  | bodyInput
  | method
  | providerRequests
  | purpose
  | ttlSeconds
  | uri
  deriving DecidableEq

def createShape : ObjectShape CreateField where
  fields := [.accepts, .audience, .binding, .body, .bodyInput, .method, .providerRequests,
    .purpose, .ttlSeconds, .uri]
  name
    | .accepts => js "accepts"
    | .audience => js "audience"
    | .binding => js "binding"
    | .body => js "body"
    | .bodyInput => js "bodyInput"
    | .method => js "method"
    | .providerRequests => js "providerRequests"
    | .purpose => js "purpose"
    | .ttlSeconds => js "ttlSeconds"
    | .uri => js "uri"
  complete := by intro k; cases k <;> decide
  sorted := by decide
  name_ne_proto := by intro k; cases k <;> decide

/-- What `CreateSchema` returns. -/
structure IssuanceBody where
  purpose : JsString
  method : JsString
  uri : JsString
  audience : JsString
  body : Option Json
  bodyInput : Option IssuanceBodyInput
  binding : HumanBinding
  accepts : List HumanMethodRequirement
  providerRequests : Option (List (JsString × Json))
  ttlSeconds : Int

def CreateSchema (urls : JsUrls) (json : Json) : Option IssuanceBody := do
  let field ← createShape.strictObject json
  let purpose ← zString 1 200 (field .purpose)
  let method ← zString 1 20 (field .method)
  let uri ← zUrl urls 2048 (field .uri)
  let audience ← zUrl urls 2048 (field .audience)
  let bodyInput ← zOptional BodyInputSchema (field .bodyInput)
  let binding ← bindingSchema (field .binding)
  let accepts ← zArray MethodSchema 1 10 (field .accepts)
  let providerRequests ← zOptional (zKeyedRecord 3 201) (field .providerRequests)
  let ttlSeconds ← zOptional (zInt 30 900) (field .ttlSeconds)
  some {
    purpose, method, uri, audience, bodyInput, binding, accepts, providerRequests
    body := field .body
    ttlSeconds := ttlSeconds.getD 300 }

structure IssuanceBody.ReadFrom (urls : JsUrls) (field : CreateField → Option Json)
    (body : IssuanceBody) : Prop where
  purpose : zString 1 200 (field .purpose) = some body.purpose
  method : zString 1 20 (field .method) = some body.method
  uri : zUrl urls 2048 (field .uri) = some body.uri
  audience : zUrl urls 2048 (field .audience) = some body.audience
  bodyInput : zOptional BodyInputSchema (field .bodyInput) = some body.bodyInput
  binding : bindingSchema (field .binding) = some body.binding
  accepts : zArray MethodSchema 1 10 (field .accepts) = some body.accepts
  providerRequests : zOptional (zKeyedRecord 3 201) (field .providerRequests) =
    some body.providerRequests
  ttlSeconds : ∃ ttlSeconds, zOptional (zInt 30 900) (field .ttlSeconds) = some ttlSeconds ∧
    body.ttlSeconds = ttlSeconds.getD 300
  body : body.body = field .body

theorem CreateSchema_eq_some {urls : JsUrls} {json : Json} {body : IssuanceBody} :
    CreateSchema urls json = some body ↔
      ∃ field, createShape.strictObject json = some field ∧ body.ReadFrom urls field := by
  constructor
  · intro h
    obtain ⟨field, hfield, h⟩ := Option.bind_eq_some_iff.mp h
    obtain ⟨purpose, hpurpose, h⟩ := Option.bind_eq_some_iff.mp h
    obtain ⟨method, hmethod, h⟩ := Option.bind_eq_some_iff.mp h
    obtain ⟨uri, huri, h⟩ := Option.bind_eq_some_iff.mp h
    obtain ⟨audience, haudience, h⟩ := Option.bind_eq_some_iff.mp h
    obtain ⟨bodyInput, hbodyInput, h⟩ := Option.bind_eq_some_iff.mp h
    obtain ⟨binding, hbinding, h⟩ := Option.bind_eq_some_iff.mp h
    obtain ⟨accepts, haccepts, h⟩ := Option.bind_eq_some_iff.mp h
    obtain ⟨providerRequests, hrequests, h⟩ := Option.bind_eq_some_iff.mp h
    obtain ⟨ttlSeconds, httl, h⟩ := Option.bind_eq_some_iff.mp h
    cases h
    exact ⟨field, hfield, hpurpose, hmethod, huri, haudience, hbodyInput, hbinding, haccepts,
      hrequests, ⟨ttlSeconds, httl, rfl⟩, rfl⟩
  · rintro ⟨field, hfield, h⟩
    obtain ⟨ttlSeconds, httl, hvalue⟩ := h.ttlSeconds
    refine (bind_known hfield).mpr ((bind_known h.purpose).mpr ((bind_known h.method).mpr
      ((bind_known h.uri).mpr ((bind_known h.audience).mpr ((bind_known h.bodyInput).mpr
      ((bind_known h.binding).mpr ((bind_known h.accepts).mpr
      ((bind_known h.providerRequests).mpr ((bind_known httl).mpr ?_)))))))))
    rw [← hvalue, ← h.body]

/-! ## What the schema asks for -/

/-- What `MethodSchema` asks of an accepted method. -/
structure HumanMethodRequirement.Requested (accepted : HumanMethodRequirement) : Prop where
  providerId : isHumanMethodIdentifier accepted.providerId = true
  methodId : isHumanMethodIdentifier accepted.methodId = true
  descriptorVersion : BoundedText 1 50 accepted.descriptorVersion
  assuranceLevel : ∀ level ∈ accepted.assuranceLevel, BoundedText 1 100 level
  acceptedScopeKinds : accepted.acceptedScopeKinds ≠ []
  maximumProofAgeSeconds : ∀ seconds ∈ accepted.maximumProofAgeSeconds,
    0 < seconds ∧ seconds ≤ 86400
  verificationModes : ∀ modes ∈ accepted.verificationModes, modes ≠ []

def HumanMethodRequirement.FewAlternatives (accepted : HumanMethodRequirement) : Prop :=
  accepted.acceptedScopeKinds.length ≤ 4 ∧ ∀ modes ∈ accepted.verificationModes, modes.length ≤ 4

theorem HumanMethodRequirement.Requested.accepted_iff {accepted : HumanMethodRequirement}
    (h : accepted.Requested) : accepted.Accepted ↔ accepted.FewAlternatives := by
  constructor
  · intro haccepted
    exact ⟨haccepted.acceptedScopeKinds.2,
      fun modes hmodes => (haccepted.verificationModes modes hmodes).2⟩
  · rintro ⟨hkinds, hmodes⟩
    exact ⟨h.providerId, h.methodId, h.descriptorVersion, h.assuranceLevel,
      ⟨List.length_pos_iff.mpr h.acceptedScopeKinds, hkinds⟩, h.maximumProofAgeSeconds,
      fun modes hmem => ⟨List.length_pos_iff.mpr (h.verificationModes modes hmem),
        hmodes modes hmem⟩⟩

theorem zNonEmptyArray_eq_some {α : Type} {item : Option Json → Option α} {write : α → Json}
    (h : ∀ a b, item (some (write a)) = some b ↔ b = a ∧ True) {as bs : List α} :
    zNonEmptyArray item (some (.array (as.map write))) = some bs ↔ bs = as ∧ as ≠ [] := by
  have hread := @zArray_eq_some _ _ _ _ h 0 as.length as bs
  simp only [zArray, List.length_map, Nat.zero_le, le_refl, and_self, if_true, implies_true,
    and_true] at hread
  cases as with
  | nil => simp [zNonEmptyArray]
  | cons a as =>
      simp only [zNonEmptyArray, List.map_cons, List.isEmpty_cons, Bool.false_eq_true, if_false]
      rw [← List.map_cons, hread]
      simp

theorem MethodSchema_toJson (accepted result : HumanMethodRequirement) :
    MethodSchema (some accepted.toJson) = some result ↔ result = accepted ∧ accepted.Requested := by
  have hstring : ∀ maximum (a b : JsString),
      zString 1 maximum (some (.string a)) = some b ↔ b = a ∧ BoundedText 1 maximum a :=
    fun maximum a b => zString_eq_some
  have hkinds : ∀ result, zNonEmptyArray (zEnum UniquenessScopeKind.text UniquenessScopeKind.all)
      (accepted.fieldValue .acceptedScopeKinds) = some result ↔
        result = accepted.acceptedScopeKinds ∧ accepted.acceptedScopeKinds ≠ [] :=
    fun result => zNonEmptyArray_eq_some zScopeKind_eq_some
  have hmodes : ∀ modes result,
      zNonEmptyArray (zEnum VerificationMode.text VerificationMode.all)
        (some (.array (modes.map fun mode => .string (VerificationMode.text mode)))) = some result ↔
        result = modes ∧ modes ≠ [] :=
    fun modes result => zNonEmptyArray_eq_some zMode_eq_some
  have hage : ∀ result, zOptional (zPositiveInt 86400)
      (accepted.fieldValue .maximumProofAgeSeconds) = some result ↔
        result = accepted.maximumProofAgeSeconds ∧
          ∀ seconds ∈ accepted.maximumProofAgeSeconds, 0 < seconds ∧ seconds ≤ 86400 :=
    fun result => zOptional_eq_some fun n m => zPositiveInt_eq_some
  have hfields := methodShape.strictObject_ofFields accepted.fieldValue
  constructor
  · intro h
    have h := (bind_known hfields).mp h
    obtain ⟨hprovider, h⟩ := (bind_read fun _ => zMatching_eq_some).mp h
    obtain ⟨hmethod, h⟩ := (bind_read fun _ => zMatching_eq_some).mp h
    obtain ⟨hversion, h⟩ := (bind_read (hstring 50 accepted.descriptorVersion)).mp h
    obtain ⟨hlevel, h⟩ := (bind_read fun _ => zOptional_eq_some (hstring 100)).mp h
    obtain ⟨hscopes, h⟩ := (bind_read hkinds).mp h
    obtain ⟨hseconds, h⟩ := (bind_read hage).mp h
    obtain ⟨hverification, h⟩ := (bind_read fun _ => zOptional_eq_some hmodes).mp h
    exact ⟨(Option.some.inj h).symm,
      ⟨hprovider, hmethod, hversion, hlevel, hscopes, hseconds, hverification⟩⟩
  · rintro ⟨hresult, h⟩
    subst hresult
    refine (bind_known hfields).mpr ?_
    refine (bind_read fun _ => zMatching_eq_some).mpr ⟨h.providerId, ?_⟩
    refine (bind_read fun _ => zMatching_eq_some).mpr ⟨h.methodId, ?_⟩
    refine (bind_read (hstring 50 result.descriptorVersion)).mpr ⟨h.descriptorVersion, ?_⟩
    refine (bind_read fun _ => zOptional_eq_some (hstring 100)).mpr ⟨h.assuranceLevel, ?_⟩
    refine (bind_read hkinds).mpr ⟨h.acceptedScopeKinds, ?_⟩
    refine (bind_read hage).mpr ⟨h.maximumProofAgeSeconds, ?_⟩
    exact (bind_read fun _ => zOptional_eq_some hmodes).mpr ⟨h.verificationModes, rfl⟩

theorem zNonEmptyArray_spec {α : Type} {item : Option Json → Option α} {write : α → Json}
    {P : α → Prop} (hitem : Reads item write P) :
    Reads (zNonEmptyArray item) (fun values => .array (values.map write)) fun values =>
      values ≠ [] ∧ ∀ value ∈ values, P value := by
  intro field values hkeys h
  unfold zNonEmptyArray at h
  split at h
  · rename_i items
    split_ifs at h with hempty
    obtain ⟨hrel, hP⟩ := same_of_mapM hitem (everyObject_array.mp (hkeys _ rfl)) h
    obtain ⟨hlength, hsame⟩ := List.forall₂_iff_zip.mp hrel
    rw [List.length_map] at hlength
    refine ⟨.some (.array (by rwa [List.length_map]) fun p hp => hsame hp), ?_, hP⟩
    rintro rfl
    exact hempty (List.isEmpty_iff.mpr (List.length_eq_zero_iff.mp hlength))
  · cases h

theorem reads_MethodSchema :
    Reads MethodSchema HumanMethodRequirement.toJson HumanMethodRequirement.Requested := by
  intro json accepted hkeys h
  cases json with
  | none => cases h
  | some json =>
      obtain ⟨field, hfield, h⟩ := Option.bind_eq_some_iff.mp h
      obtain ⟨hsame, hvalues⟩ := ObjectShape.same_of_strictObject (hkeys _ rfl) hfield
      obtain ⟨providerId, hprovider, h⟩ := Option.bind_eq_some_iff.mp h
      obtain ⟨methodId, hmethod, h⟩ := Option.bind_eq_some_iff.mp h
      obtain ⟨descriptorVersion, hversion, h⟩ := Option.bind_eq_some_iff.mp h
      obtain ⟨assuranceLevel, hlevel, h⟩ := Option.bind_eq_some_iff.mp h
      obtain ⟨kinds, hkinds, h⟩ := Option.bind_eq_some_iff.mp h
      obtain ⟨seconds, hseconds, h⟩ := Option.bind_eq_some_iff.mp h
      obtain ⟨modes, hmodes, h⟩ := Option.bind_eq_some_iff.mp h
      cases h
      have hprovider := reads_zMatching (hvalues _) hprovider
      have hmethod := reads_zMatching (hvalues _) hmethod
      have hversion := reads_zString (hvalues _) hversion
      have hlevel := reads_zOptional reads_zString (hvalues _) hlevel
      have hkinds := zNonEmptyArray_spec reads_zEnum (hvalues _) hkinds
      have hseconds := reads_zOptional reads_zPositiveInt (hvalues _) hseconds
      have hmodes := reads_zOptional (zNonEmptyArray_spec reads_zEnum) (hvalues _) hmodes
      refine ⟨.some (hsame.trans (ObjectShape.ofFields_same fun k => ?_)),
        ⟨hprovider.2, hmethod.2, hversion.2, hlevel.2, hkinds.2.1, hseconds.2,
          fun modes hmem => (hmodes.2 modes hmem).1⟩⟩
      cases k with
      | acceptedScopeKinds => exact hkinds.1
      | assuranceLevel => exact hlevel.1
      | descriptorVersion => exact hversion.1
      | maximumProofAgeSeconds => exact hseconds.1
      | methodId => exact hmethod.1
      | providerId => exact hprovider.1
      | verificationModes => exact hmodes.1

theorem zInt_spec {minimum maximum value : Int} {field : Option Json}
    (h : zInt minimum maximum field = some value) :
    field = some (.number value) ∧ minimum ≤ value ∧ value ≤ maximum := by
  unfold zInt at h
  split at h
  · rename_i sent
    simp only [Option.ite_none_right_eq_some, Option.some.injEq] at h
    obtain ⟨⟨hden, hbounds⟩, rfl⟩ := h
    exact ⟨by rw [(Rat.den_eq_one_iff sent).mp hden], hbounds⟩
  · cases h

theorem zKeyedRecord_spec {minimum maximum : Nat} {field : Option Json}
    {members : List (JsString × Json)} (h : zKeyedRecord minimum maximum field = some members) :
    ∃ sent, field = some (.object sent) ∧ members = knownMembers sent ∧
      ∀ member ∈ members, member.1.length ≤ maximum := by
  obtain ⟨hread, -⟩ := Option.filter_eq_some_iff.mp h
  unfold zRecord at hread
  split at hread
  · simp only [Option.ite_none_right_eq_some, Option.some.injEq, List.all_eq_true,
      decide_eq_true_eq] at hread
    obtain ⟨hlength, rfl⟩ := hread
    exact ⟨_, rfl, rfl, hlength⟩
  · cases hread

theorem wellFormed_of_strictObject {numbers : JsNumbers} {κ : Type} {shape : ObjectShape κ}
    {json : Json} {field : κ → Option Json} (hjson : json.WellFormed numbers)
    (h : shape.strictObject json = some field) :
    ∀ k, ∀ value ∈ field k, value.WellFormed numbers := by
  cases hjson with
  | object hkeys hvalues =>
      simp only [ObjectShape.strictObject, Option.ite_none_right_eq_some, Option.some.injEq] at h
      obtain ⟨-, rfl⟩ := h
      exact fun k value hvalue => hvalues _ (mem_of_lookup hvalue)
  | null => cases h
  | bool value => cases h
  | number hvalue => cases h
  | string value => cases h
  | array hitems => cases h

theorem wellFormed_knownMembers {numbers : JsNumbers} {members : List (JsString × Json)}
    (h : (Json.object members).WellFormed numbers) :
    (Json.object (knownMembers members)).WellFormed numbers := by
  cases h with
  | object hkeys hvalues =>
      exact .object ((List.filter_sublist.map _).nodup hkeys)
        fun member hmember => hvalues member (List.mem_of_mem_filter hmember)

/-- What `CreateSchema` asks of a body. -/
structure IssuanceBody.Valid (numbers : JsNumbers) (urls : JsUrls) (body : IssuanceBody) :
    Prop where
  purpose : BoundedText 1 200 body.purpose
  method : BoundedText 1 20 body.method
  uri : urls.check body.uri = some body.uri ∧ body.uri.length ≤ 2048
  audience : urls.check body.audience = some body.audience ∧ body.audience.length ≤ 2048
  binding : BoundedText 1 512 body.binding.value
  accepts : (1 ≤ body.accepts.length ∧ body.accepts.length ≤ 10) ∧
    ∀ accepted ∈ body.accepts, accepted.Requested
  providerRequests : ∀ members ∈ body.providerRequests,
    (Json.object members).WellFormed numbers
  ttlSeconds : 30 ≤ body.ttlSeconds ∧ body.ttlSeconds ≤ 900

theorem CreateSchema_valid {numbers : JsNumbers} {urls : JsUrls} {json : Json}
    {body : IssuanceBody} (hjson : json.WellFormed numbers)
    (h : CreateSchema urls json = some body) : body.Valid numbers urls := by
  obtain ⟨field, hfield, h⟩ := CreateSchema_eq_some.mp h
  have hvalues := (ObjectShape.same_of_strictObject hjson.distinctKeys hfield).2
  obtain ⟨_, -, huri⟩ := zUrl_spec h.uri
  obtain ⟨_, -, haudience⟩ := zUrl_spec h.audience
  refine ⟨(zString_spec h.purpose).2, (zString_spec h.method).2,
    ⟨urls.check_check huri.1, huri.2⟩, ⟨urls.check_check haudience.1, haudience.2⟩,
    (reads_bindingSchema (hvalues _) h.binding).2,
    (reads_zArray reads_MethodSchema (hvalues _) h.accepts).2, fun members hmembers => ?_, ?_⟩
  · have hread := h.providerRequests
    rw [Option.mem_def.mp hmembers] at hread
    cases hsent : field .providerRequests with
    | none =>
        rw [hsent] at hread
        cases hread
    | some value =>
        rw [hsent] at hread
        obtain ⟨read, hrecord, hsome⟩ := Option.map_eq_some_iff.mp hread
        cases hsome
        obtain ⟨sent, hobject, rfl, -⟩ := zKeyedRecord_spec hrecord
        cases hobject
        exact wellFormed_knownMembers (wellFormed_of_strictObject hjson hfield _ _ hsent)
  · obtain ⟨ttlSeconds, httl, hvalue⟩ := h.ttlSeconds
    rw [hvalue]
    cases hsent : field .ttlSeconds with
    | none =>
        rw [hsent] at httl
        cases httl
        decide
    | some value =>
        rw [hsent] at httl
        obtain ⟨seconds, hseconds, rfl⟩ := Option.map_eq_some_iff.mp httl
        exact (zInt_spec hseconds).2

end X424
