import X424.Api.IssuanceRollback
import X424.Managed
import X424.Schemas.Unordered

/-!
# Issued requirements are read back

The body of an issuance request and a stored requirement have schemas of their
own.  When the requirement that is answered with 201 passes the second one,
for the client and for the stores that read it again.
-/

namespace X424

open Foundation

/-! ## What is issued -/

/-- What issuance ensures of a requirement, whatever the schema says. -/
structure RequirementDocument.Writable (platform : Platform) (document : RequirementDocument) :
    Prop where
  dependencyId : document.dependencyId ≠ []
  uri : platform.urls.check document.resource.uri = some document.resource.uri ∧
    document.resource.uri.length ≤ 2048
  audience : platform.urls.check document.resource.audience = some document.resource.audience ∧
    document.resource.audience.length ≤ 2048
  safeAge : ∀ accepted ∈ document.accepts, accepted.SafeAge
  providerRequests : ∀ members ∈ document.providerRequests,
    (Json.object members).WellFormed platform.numbers
  names : ∀ members ∈ document.providerRequests, ∀ member ∈ members, member.1 ≠ protoKey

section Issued

variable {platform : Platform}

/-- What the schema of a stored requirement asks for and that of the body does not. -/
structure IssuanceBody.WithinRequirement (platform : Platform) (body : IssuanceBody)
    (now : Instant) : Prop where
  alternatives : ∀ accepted ∈ body.accepts, accepted.FewAlternatives
  method : BoundedText 1 20 (platform.upper body.method)
  createdAt : InFourDigitYear now
  expiresAt : InFourDigitYear (now + body.ttlSeconds * 1000)

theorem isDigestText_encoded {bytes : List UInt8} (h : bytes.length = 32) :
    isDigestText (js "sha256:" ++ encodeStrictBase64Url bytes) = true := by
  have hlength : (js "sha256:" ++ encodeStrictBase64Url bytes).length ≤ 200 := by
    have hprefix : (js "sha256:").length = 7 := by decide
    rw [List.length_append, length_encodeStrictBase64Url, h, hprefix]
    omega
  have hdigest := assertSha256Digest_eq_ok.mpr ⟨rfl, bytes, h, rfl⟩
  rw [isDigestText, decide_eq_true hlength, hdigest]
  rfl

theorem isDigestText_requestDigest {method uri requestDigest : JsString}
    {bodyInput : Canonical.RequestBodyDigestInput}
    (h : Canonical.requestDigest platform.numbers platform.createHash platform.upper method uri
      bodyInput = .ok requestDigest) : isDigestText requestDigest = true := by
  obtain ⟨bodyDigest, -, h⟩ := bind_eq_ok.mp h
  cases h
  exact isDigestText_encoded (platform.length_createHash _)

theorem length_identifier_le {text : JsString} (h : isHumanMethodIdentifier text = true) :
    text.length ≤ 100 := by
  cases text with
  | nil => cases h
  | cons u rest =>
      simp only [isHumanMethodIdentifier, Bool.and_eq_true, decide_eq_true_eq] at h
      rw [List.length_cons]
      omega

/-- The key of a method is neither too long nor `__proto__`. -/
theorem methodKey_bounds {accepted : HumanMethodRequirement}
    (hprovider : isHumanMethodIdentifier accepted.providerId = true)
    (hmethod : isHumanMethodIdentifier accepted.methodId = true) :
    accepted.key.length ≤ 201 ∧ accepted.key ≠ protoKey := by
  constructor
  · have hcolon : (js ":").length = 1 := by decide
    have hprovider := length_identifier_le hprovider
    have hmethod := length_identifier_le hmethod
    rw [HumanMethodRequirement.key, methodKey, List.length_append, List.length_append, hcolon]
    omega
  · intro hproto
    have hmem : (0x3A : UInt16) ∈ accepted.key := by
      rw [HumanMethodRequirement.key, methodKey]
      exact List.mem_append_left _ (List.mem_append_right _ (by decide))
    rw [hproto] at hmem
    exact absurd hmem (by decide)

variable {body : IssuanceBody} {bodyInput : Canonical.RequestBodyDigestInput}
  {members : List (JsString × Json)} {draws : FreshDraws} {now : Instant}
  {document : RequirementDocument}

theorem material_names
    (h : createHumanRequirement platform (body.input bodyInput members) draws now = .ok document) :
    ∀ member ∈ members, member.1.length ≤ 201 ∧ member.1 ≠ protoKey := by
  intro member hmember
  obtain ⟨hadmitted, -⟩ := createHumanRequirement_eq_ok.mp h
  obtain ⟨accepted, haccepted, hkey⟩ :=
    List.mem_map.mp (hadmitted.providerRequests members rfl member hmember)
  obtain ⟨hprovider, hmethod⟩ := hadmitted.identifiers accepted haccepted
  rw [← hkey]
  exact methodKey_bounds hprovider hmethod

/-- An issued requirement is valid if and only if the body is within its bounds too. -/
theorem issued_valid_iff (hbody : body.Valid platform.numbers platform.urls)
    (h : createHumanRequirement platform (body.input bodyInput members) draws now = .ok document) :
    document.Valid platform.dates ↔ body.WithinRequirement platform now := by
  have hnames := material_names h
  obtain ⟨-, hnow, hexpiry, requestDigest, hdigest, rfl⟩ := createHumanRequirement_eq_ok.mp h
  have httl : (body.input bodyInput members).ttlSeconds.num = body.ttlSeconds :=
    Rat.num_intCast _
  have hcreatedAt := platform.dates.isDatetime_dateText _ hnow
  have hexpiresAt := platform.dates.isDatetime_dateText _ hexpiry
  rw [httl] at hexpiresAt
  constructor
  · intro hvalid
    refine ⟨fun accepted haccepted => ?_, hvalid.resource.1, hcreatedAt.mp hvalid.createdAt,
      hexpiresAt.mp ?_⟩
    · exact (hbody.accepts.2 accepted haccepted).accepted_iff.mp
        (hvalid.accepts.2 accepted haccepted)
    · have hdatetime := hvalid.expiresAt
      rwa [RequirementInput.document, httl] at hdatetime
  · intro hwithin
    refine ⟨⟨?_, ?_⟩, hbody.purpose, ⟨hwithin.method, isDigestText_requestDigest hdigest⟩,
      ⟨?_, ?_⟩, hbody.binding, hcreatedAt.mpr hwithin.createdAt, ?_,
      ⟨hbody.accepts.1, fun accepted haccepted => ?_⟩, ?_⟩
    · rw [RequirementInput.document, List.length_append, draws.length_randomUuid]
      omega
    · have hprefix : (js "x424_dep_").length = 9 := by decide
      rw [RequirementInput.document, List.length_append, draws.length_randomUuid, hprefix]
      omega
    · rw [RequirementInput.document, length_encodeStrictBase64Url, draws.length_randomBytes]
      omega
    · rw [RequirementInput.document, length_encodeStrictBase64Url, draws.length_randomBytes]
      omega
    · rw [RequirementInput.document, httl]
      exact hexpiresAt.mpr hwithin.expiresAt
    · exact (hbody.accepts.2 accepted haccepted).accepted_iff.mpr
        (hwithin.alternatives accepted haccepted)
    · rintro _ ⟨⟩ member hmember
      exact (hnames member (List.mem_of_mem_filter hmember)).1

theorem issued_writable (hbody : body.Valid platform.numbers platform.urls)
    (hmembers : (Json.object members).WellFormed platform.numbers)
    (h : createHumanRequirement platform (body.input bodyInput members) draws now = .ok document) :
    document.Writable platform := by
  have hnames := material_names h
  obtain ⟨-, -, -, requestDigest, -, rfl⟩ := createHumanRequirement_eq_ok.mp h
  refine ⟨List.append_ne_nil_of_left_ne_nil (by decide) _, hbody.uri, hbody.audience,
    fun accepted haccepted seconds hseconds => ?_, ?_, ?_⟩
  · exact ((hbody.accepts.2 accepted haccepted).maximumProofAgeSeconds seconds hseconds).2
  · rintro _ ⟨⟩
    exact hmembers
  · rintro _ ⟨⟩ member hmember
    exact (hnames member hmember).2

end Issued

section Writable

variable {platform : Platform} {document : RequirementDocument}

theorem RequirementDocument.Writable.schema_iff (h : document.Writable platform)
    {result : RequirementDocument} :
    HumanRequirementSchema platform.dates platform.urls document.toJson = some result ↔
      document.Valid platform.dates ∧ result = document := by
  have hknown : document.providerRequests.map knownMembers = document.providerRequests := by
    cases hrequests : document.providerRequests with
    | none => rfl
    | some members =>
        exact congrArg some (List.filter_eq_self.mpr fun member hmember =>
          decide_eq_true (h.names members hrequests member hmember))
  rw [HumanRequirementSchema_toJson, hknown]
  refine and_congr_right fun _ => ⟨?_, ?_⟩
  · rintro ⟨uri, audience, huri, haudience, rfl⟩
    cases h.uri.1.symm.trans huri.1
    cases h.audience.1.symm.trans haudience.1
    rfl
  · rintro rfl
    exact ⟨_, _, h.uri, h.audience, rfl⟩

theorem schema_refuses {dates : JsDates} {urls : JsUrls} (h : ¬ document.Valid dates) :
    HumanRequirementSchema dates urls document.toJson = none := by
  refine Option.eq_none_iff_forall_ne_some.mpr fun result hresult => ?_
  rw [HumanRequirementSchema_toJson] at hresult
  exact h hresult.1

theorem RequirementDocument.Writable.schema_normalized (h : document.Writable platform)
    (hvalid : document.Valid platform.dates) :
    HumanRequirementSchema platform.dates platform.urls document.normalized.toJson =
      some document.normalized :=
  (RequirementDocument.schema_toJson
    (RequirementDocument.protoFree_normalized h.providerRequests)).mpr
      ⟨valid_normalized hvalid, _, _, h.uri, h.audience, rfl⟩

end Writable

/-! ## Reading a store -/

theorem memberOf_ofFields_of_ne {κ : Type} {shape : ObjectShape κ} {name : JsString}
    (h : ∀ k ∈ shape.fields, shape.name k ≠ name) (values : κ → Option Json) :
    memberOf name (shape.ofFields values) = none := by
  show (shape.membersOf values).lookup name = none
  rw [List.lookup_eq_none_iff]
  intro member hmember
  obtain ⟨k, -, hname⟩ := ObjectShape.mem_membersOf.mp hmember
  rw [hname]
  exact bne_iff_ne.mpr (h k (shape.complete k)).symm

theorem jsonParse_canonicalJson {numbers : JsNumbers} {value : Json}
    (h : value.WellFormed numbers) :
    jsonParse numbers (canonicalJson numbers value) = some (normalize value) :=
  jsonParse_stringify (wellFormed_normalize h)

section Stores

variable {platform : Platform} {document : RequirementDocument}

theorem RequirementDocument.Writable.wellFormed (h : document.Writable platform) :
    document.toJson.WellFormed platform.numbers :=
  RequirementDocument.wellFormed_toJson h.safeAge h.providerRequests

theorem RequirementDocument.Writable.normalize_toJson (h : document.Writable platform) :
    normalize document.toJson = document.normalized.toJson :=
  RequirementDocument.normalize_toJson h.safeAge

theorem parseStoredRequirement_stored (hwritable : document.Writable platform)
    {tenantId : Option JsString} (htenant : tenantId.all isTenantId = true) :
    RedisX424Store.parseStoredRequirement platform.toRuntime
        (canonicalJson platform.numbers (RedisX424Store.storedJson document tenantId)) =
      (parseHumanRequirement platform.toRuntime document.normalized.toJson).map
        fun requirement => (requirement, tenantId) := by
  cases tenantId with
  | none =>
      have hversion :
          memberOf (js "x424RequirementStoreVersion") document.normalized.toJson = none :=
        memberOf_ofFields_of_ne (by decide) _
      have hparsed : jsonParse platform.numbers (canonicalJson platform.numbers
          (RedisX424Store.storedJson document none)) = some document.normalized.toJson := by
        rw [RedisX424Store.storedJson, jsonParse_canonicalJson hwritable.wellFormed,
          hwritable.normalize_toJson]
      simp only [RedisX424Store.parseStoredRequirement, hparsed, hversion]
      rfl
  | some tenantId =>
      have hwell : (RedisX424Store.requirementEnvelope document.toJson tenantId).WellFormed
          platform.numbers := by
        refine ObjectShape.wellFormed_ofFields fun k value hvalue => ?_
        cases k with
        | requirement =>
            cases hvalue
            exact hwritable.wellFormed
        | tenantId =>
            cases hvalue
            exact .string _
        | x424RequirementStoreVersion =>
            cases hvalue
            exact .number (platform.numbers.isDouble_nat 1 (by decide))
      have hnormal : normalize (RedisX424Store.requirementEnvelope document.toJson tenantId) =
          RedisX424Store.requirementEnvelope document.normalized.toJson tenantId := by
        rw [RedisX424Store.requirementEnvelope, ObjectShape.normalize_ofFields_map,
          RedisX424Store.requirementEnvelope]
        refine congrArg _ (funext fun k => ?_)
        cases k with
        | requirement => exact congrArg some hwritable.normalize_toJson
        | tenantId => rfl
        | x424RequirementStoreVersion => rfl
      have hparsed : jsonParse platform.numbers (canonicalJson platform.numbers
          (RedisX424Store.storedJson document (some tenantId))) =
            some (RedisX424Store.requirementEnvelope document.normalized.toJson tenantId) := by
        rw [RedisX424Store.storedJson, jsonParse_canonicalJson hwell, hnormal]
      have hversion : memberOf (js "x424RequirementStoreVersion")
          (RedisX424Store.requirementEnvelope document.normalized.toJson tenantId) =
            some (.number (1 : Nat)) :=
        @memberOf_ofFields _ RedisX424Store.envelopeShape _ .x424RequirementStoreVersion
      have howner : memberOf (js "tenantId")
          (RedisX424Store.requirementEnvelope document.normalized.toJson tenantId) =
            some (.string tenantId) :=
        @memberOf_ofFields _ RedisX424Store.envelopeShape _ .tenantId
      have hrequirement : memberOf (js "requirement")
          (RedisX424Store.requirementEnvelope document.normalized.toJson tenantId) =
            some document.normalized.toJson :=
        @memberOf_ofFields _ RedisX424Store.envelopeShape _ .requirement
      have hone : (zLiteralNumber 1 (some (.number (1 : Nat)))).isSome = true := by
        simp [zLiteralNumber]
      rw [Option.all_some] at htenant
      simp only [RedisX424Store.parseStoredRequirement, hparsed, hversion, hone, if_true, howner,
        htenant, Bool.not_true, Bool.false_eq_true, if_false, hrequirement]

theorem parseStoredRequirement_storedJson (hwritable : document.Writable platform)
    (hschema : HumanRequirementSchema platform.dates platform.urls document.normalized.toJson =
      some document.normalized) {tenantId : Option JsString}
    (htenant : tenantId.all isTenantId = true) :
    RedisX424Store.parseStoredRequirement platform.toRuntime
        (canonicalJson platform.numbers (RedisX424Store.storedJson document tenantId)) =
      .ok (document.normalized, tenantId) := by
  rw [parseStoredRequirement_stored hwritable htenant, parseHumanRequirement, hschema]
  rfl

theorem lt_dateStringMs {readAt expiresAtMs : Int} (h : readAt + 1000 ≤ expiresAtMs) :
    readAt < dateStringMs expiresAtMs := by
  have hlost : expiresAtMs % 1000 < 1000 := Int.emod_lt_of_pos _ (by decide)
  have hlive : readAt < expiresAtMs - expiresAtMs % 1000 := by omega
  exact hlive

inductive ReadsAgain (platform : Platform) : (ρ : Type) → RequirementSink ρ →
    (JsString → Instant → Instant → ρ → Except JsError (Option RequirementDocument) × ρ) →
      Prop where
  | redis (keyPrefix : JsString) :
      ReadsAgain platform _ (RedisX424Store.documents platform.toRuntime keyPrefix)
        (RedisX424Store.getDocument platform.toRuntime keyPrefix)
  | postgres (jsonb : Jsonb platform.numbers) :
      ReadsAgain platform _ (PostgresX424Store.documents platform.toRuntime jsonb)
        (PostgresX424Store.getDocument platform.toRuntime)

variable {ρ : Type} {sink : RequirementSink ρ}
  {get : JsString → Instant → Instant → ρ → Except JsError (Option RequirementDocument) × ρ}

theorem ReadsAgain.get_put (hstore : ReadsAgain platform ρ sink get)
    (hwritable : document.Writable platform)
    (hschema : HumanRequirementSchema platform.dates platform.urls document.normalized.toJson =
      some document.normalized) {plain : Bool} {tenantId : Option JsString}
    {now readAt expiresAtMs : Instant} {s s' : ρ}
    (hput : sink.putFor ⟨document, plain⟩ tenantId now s = (.ok (), s'))
    (hexpiresAt : platform.dates.parse document.expiresAt = some expiresAtMs)
    (hsoon : readAt + 1000 ≤ expiresAtMs) :
    ∃ stored, (get document.dependencyId readAt readAt s').1 = .ok (some stored) ∧
      stored.toJson.Same document.normalized.toJson := by
  have hsame : document.normalized.toJson.Same document.normalized.toJson := by
    rw [← hwritable.normalize_toJson]
    exact .refl (wellFormed_normalize hwritable.wellFormed).distinctKeys
  have hlive : readAt < expiresAtMs :=
    Int.lt_of_lt_of_le (Int.lt_add_of_pos_right _ (by decide)) hsoon
  have hdateString : readAt < dateStringMs expiresAtMs := lt_dateStringMs hsoon
  cases hstore with
  | redis keyPrefix =>
      obtain ⟨htenant, -, expiry, hexpiry, rfl⟩ := RedisX424Store.putDocument_eq_ok hput
      cases hexpiresAt.symm.trans hexpiry
      refine ⟨document.normalized, ?_, hsame⟩
      have hid : document.dependencyId.isEmpty = false :=
        List.isEmpty_eq_false_iff.mpr hwritable.dependencyId
      have hlater :
          parsedLe (platform.dates.parse document.normalized.expiresAt) readAt = false := by
        have hsame : document.normalized.expiresAt = document.expiresAt := rfl
        rw [hsame, hexpiresAt]
        exact decide_eq_false (Int.not_le.mpr hlive)
      simp only [RedisX424Store.getDocument, hid, Bool.false_eq_true, if_false, RedisTable.get,
        Cells.live_put_same, if_pos hlive, Option.map_some,
        parseStoredRequirement_storedJson hwritable hschema htenant, hlater]
  | postgres jsonb =>
      have hput : PostgresX424Store.putDocument platform.toRuntime jsonb ⟨document, plain⟩
        tenantId now s = (.ok (), s') := hput
      obtain ⟨-, row, expiry, hrow, hexpiry, rfl⟩ := PostgresX424Store.putDocument_eq_ok hput
      cases hexpiresAt.symm.trans hexpiry
      obtain ⟨parsed, hparsed, hparsedSame⟩ := jsonb.same hrow
      rw [jsonParse_canonicalJson hwritable.wellFormed, hwritable.normalize_toJson] at hparsed
      cases hparsed
      have hkeys : row.DistinctKeys := by
        refine hparsedSame.symm.distinctKeys ?_
        rw [← hwritable.normalize_toJson]
        exact (wellFormed_normalize hwritable.wellFormed).distinctKeys
      obtain ⟨requests, hread, hrequests⟩ := HumanRequirementSchema_same hparsedSame hkeys hschema
      have hsafe : ∀ accepted ∈ document.normalized.accepts, accepted.SafeAge := hwritable.safeAge
      refine ⟨{ document.normalized with providerRequests := requests }, ?_,
        @toJson_same platform.numbers document.normalized hsafe requests hrequests⟩
      have hlater : ¬ dateStringMs expiresAtMs ≤ readAt := Int.not_le.mpr hdateString
      simp only [PostgresX424Store.getDocument, Cells.put, Function.update_self, if_neg hlater,
        parseHumanRequirement, hread]
      rfl

/-- The answer is parsed, and the store returns the requirement that was answered. -/
structure ReadBack (platform : Platform)
    (get : JsString → Instant → Instant → ρ → Except JsError (Option RequirementDocument) × ρ)
    (requirement : RequirementDocument) (transport : X424RequirementTransportMode)
    (readAt : Instant) (requirements : ρ) : Prop where
  valid : (HumanRequirementSchema platform.dates platform.urls requirement.toJson).isSome = true
  parsed : ∃ received, ManagedVerifierClient.readIssued platform.toRuntime
    (ManagedVerifierClient.issuedText platform.numbers requirement transport) = .ok received
  stored : ∃ stored, (get requirement.dependencyId readAt readAt requirements).1 =
    .ok (some stored) ∧ stored.toJson.Same requirement.toJson

theorem ReadsAgain.readBack_iff (hstore : ReadsAgain platform ρ sink get)
    (hwritable : document.Writable platform) {plain : Bool} {tenantId : Option JsString}
    {now readAt expiresAtMs : Instant} {s s' : ρ}
    (hput : sink.putFor ⟨document, plain⟩ tenantId now s = (.ok (), s'))
    (hexpiresAt : platform.dates.parse document.expiresAt = some expiresAtMs)
    (hsoon : readAt + 1000 ≤ expiresAtMs) (transport : X424RequirementTransportMode) :
    ReadBack platform get document transport readAt s' ↔
      document.Valid platform.dates ∧
        ∀ members ∈ document.providerRequests, (Json.object members).ProtoFree := by
  have hget := fun hvalid => hstore.get_put hwritable (hwritable.schema_normalized hvalid) hput
    hexpiresAt hsoon
  constructor
  · rintro ⟨hread, -, stored, hstored, hsame⟩
    obtain ⟨received, hreceived⟩ := Option.isSome_iff_exists.mp hread
    obtain ⟨hvalid, -⟩ := hwritable.schema_iff.mp hreceived
    refine ⟨hvalid, fun members hmembers => ?_⟩
    obtain ⟨again, hagain, hnormal⟩ := hget hvalid
    cases hstored.symm.trans hagain
    have hproto : document.toJson.ProtoFree := by
      refine (hnormal.symm.trans hsame).protoFree ?_
      rw [← hwritable.normalize_toJson]
      exact protoFree_normalize hwritable.wellFormed.distinctKeys
    refine (ObjectShape.everyObject_ofFields ?_).mp hproto .providerRequests _ ?_
    · intro hmem
      obtain ⟨member, hmember, hname⟩ := List.mem_map.mp hmem
      exact ObjectShape.ne_proto_of_mem_membersOf hmember hname
    · rw [RequirementDocument.fieldValue, Option.mem_def.mp hmembers]
      rfl
  · rintro ⟨hvalid, hproto⟩
    have hschema := hwritable.schema_iff.mpr ⟨hvalid, rfl⟩
    refine ⟨Option.isSome_of_eq_some hschema, ⟨document, ?_⟩, ?_⟩
    · rw [ManagedVerifierClient.readIssued_issuedText hwritable.wellFormed,
        parseHumanRequirement, hschema]
    · obtain ⟨stored, hstored, hnormal⟩ := hget hvalid
      refine ⟨stored, hstored, hnormal.trans ?_⟩
      rw [← hwritable.normalize_toJson]
      exact (same_normalize hwritable.wellFormed.distinctKeys
        (RequirementDocument.protoFree_toJson hwritable.safeAge
          ⟨hwritable.providerRequests, hproto⟩)).symm

end Stores

/-! ## Requests that are answered with 201 -/

section Created

variable {options : IssuanceOptions} {call : IssuanceCall options.platform.numbers} {ρ σ : Type}
  {sink : RequirementSink ρ} {nonceStore : NonceStore σ}
  {get : JsString → Instant → Instant → ρ → Except JsError (Option RequirementDocument) × ρ}
  {requirement : RequirementDocument} {challenge : HumanRequiredChallenge}

theorem not_created_rejected {failure : IssuanceFailure} :
    IssuanceAnswer.rejected failure ≠ .created requirement challenge := by
  cases failure <;> exact nofun

theorem storeRequirement_created {draft : NewRequirement} {tenantId : Option JsString}
    {requirements requirements' : ρ} {nonces nonces' : σ}
    (h : storeRequirement options call sink nonceStore draft tenantId requirements nonces =
      (.created requirement challenge, requirements', nonces')) :
    draft.document = requirement ∧
      sink.putFor draft tenantId call.storedAt requirements = (.ok (), requirements') := by
  unfold storeRequirement at h
  split at h
  · injection h with hanswer
    exact absurd hanswer not_created_rejected
  · rename_i hput
    split at h
    · injection h with hanswer
      exact absurd hanswer not_created_rejected
    · split at h
      · injection h with hanswer
        exact absurd hanswer not_created_rejected
      · cases h
        exact ⟨rfl, hput⟩

theorem requirementsRoute_created {requirements requirements' : ρ} {nonces nonces' : σ}
    (h : requirementsRoute options call sink nonceStore requirements nonces =
      (.created requirement challenge, requirements', nonces')) :
    ∃ body members plain bodyInput tenantId,
      CreateSchema options.platform.urls call.body = some body ∧
      issuanceMaterial options call body = .ok (members, plain) ∧
      createHumanRequirement options.platform (body.input bodyInput members) call.draws
        call.createdAt = .ok requirement ∧
      sink.putFor ⟨requirement, plain⟩ tenantId call.storedAt requirements =
        (.ok (), requirements') := by
  obtain ⟨body, draft, tenantId, hbody, hdraft, hroute⟩ | ⟨-, answer, hanswer, hroute⟩ :=
    requirementsRoute_cases options call sink nonceStore requirements nonces
  · obtain ⟨members, bodyInput, hmaterial, -, hdocument⟩ :=
      newRequirement_eq_ok.mp (draftRequirement_eq_ok.mp hdraft).2
    obtain ⟨rfl, hput⟩ := storeRequirement_created (hroute.symm.trans h)
    exact ⟨body, members, draft.plain, bodyInput, tenantId, hbody, hmaterial, hdocument, hput⟩
  · injection hroute.symm.trans h with hcreated
    exact absurd (hcreated ▸ trivial) hanswer

theorem issuanceMaterial_wellFormed {body : IssuanceBody} {members : List (JsString × Json)}
    {plain : Bool} (hbody : body.Valid options.platform.numbers options.platform.urls)
    (h : issuanceMaterial options call body = .ok (members, plain)) :
    (Json.object members).WellFormed options.platform.numbers := by
  unfold issuanceMaterial at h
  split at h
  · cases h
  · rename_i source _ _
    cases hsource : source body with
    | error error =>
        rw [hsource] at h
        cases h
    | ok material =>
        rw [hsource] at h
        cases h
        exact material.wellFormed
  · cases h
  · rename_i hrequests
    cases h
    exact hbody.providerRequests members hrequests

/-- The body is within the bounds of the schema of a stored requirement, and the material
for the providers has no member named `__proto__`. -/
def IssuanceCall.Readable (options : IssuanceOptions)
    (call : IssuanceCall options.platform.numbers) : Prop :=
  ∀ body members plain, CreateSchema options.platform.urls call.body = some body →
    issuanceMaterial options call body = .ok (members, plain) →
      body.WithinRequirement options.platform call.createdAt ∧ (Json.object members).ProtoFree

theorem lives_on {readAt createdAt ttlSeconds : Int} (hsoon : readAt ≤ createdAt + 29000)
    (httl : 30 ≤ ttlSeconds) : readAt + 1000 ≤ createdAt + ttlSeconds * 1000 := by
  omega

/-- A requirement that is answered with 201 is read back if and only if its request is readable. -/
theorem issued_read_back_iff (hstore : ReadsAgain options.platform ρ sink get)
    (hcall : call.body.WellFormed options.platform.numbers)
    {requirements requirements' : ρ} {nonces nonces' : σ}
    (h : requirementsRoute options call sink nonceStore requirements nonces =
      (.created requirement challenge, requirements', nonces'))
    {readAt : Instant} (hsoon : readAt ≤ call.createdAt + 29000) :
    ReadBack options.platform get requirement challenge.transport readAt requirements' ↔
      call.Readable options := by
  obtain ⟨body, members, plain, bodyInput, tenantId, hbody, hmaterial, hmade, hput⟩ :=
    requirementsRoute_created h
  have hvalid := CreateSchema_valid hcall hbody
  have hwritable := issued_writable hvalid (issuanceMaterial_wellFormed hvalid hmaterial) hmade
  obtain ⟨-, -, hexpiry, _, -, hdocument⟩ := createHumanRequirement_eq_ok.mp hmade
  have httl : (body.input bodyInput members).ttlSeconds.num = body.ttlSeconds := Rat.num_intCast _
  have hexpiresAt : options.platform.dates.parse requirement.expiresAt =
      some (call.createdAt + body.ttlSeconds * 1000) := by
    rw [hdocument, ← httl]
    exact options.platform.dates.parse_dateText _ hexpiry
  have hlater : readAt + 1000 ≤ call.createdAt + body.ttlSeconds * 1000 :=
    lives_on hsoon hvalid.ttlSeconds.1
  have hrequests : requirement.providerRequests = some members := by
    rw [hdocument]
    rfl
  rw [hstore.readBack_iff hwritable hput hexpiresAt hlater, issued_valid_iff hvalid hmade,
    hrequests]
  constructor
  · rintro ⟨hwithin, hproto⟩ other material plain' hother hmaterial'
    cases hbody.symm.trans hother
    cases hmaterial.symm.trans hmaterial'
    exact ⟨hwithin, hproto members rfl⟩
  · intro hreadable
    obtain ⟨hwithin, hproto⟩ := hreadable body members plain hbody hmaterial
    refine ⟨hwithin, ?_⟩
    rintro _ ⟨⟩
    exact hproto

end Created

/-! ## Five scope kinds -/

namespace FiveKinds

open LongRequest (platform options)

def accepted : HumanMethodRequirement :=
  ⟨js "world", js "orb", js "1", none, List.replicate 5 .action, none, none⟩

def body : IssuanceBody :=
  { LongRequest.body with accepts := [accepted], providerRequests := some [] }

def sentFields : CreateField → Option Json
  | .accepts => some (.array [accepted.toJson])
  | .audience => some (.string body.audience)
  | .binding => some body.binding.toJson
  | .body => none
  | .bodyInput => none
  | .method => some (.string body.method)
  | .providerRequests => some (.object [])
  | .purpose => some (.string body.purpose)
  | .ttlSeconds => none
  | .uri => some (.string body.uri)

def call : IssuanceCall options.platform.numbers :=
  { LongRequest.call with body := createShape.ofFields sentFields }

theorem call_wellFormed : call.body.WellFormed options.platform.numbers := by
  refine ObjectShape.wellFormed_ofFields fun k value hvalue => ?_
  cases k with
  | accepts =>
      cases hvalue
      have haccepted : accepted.toJson.Canonical options.platform.numbers :=
        canonical_methodRequirement nofun
      exact .array (List.forall_mem_singleton.mpr haccepted.wellFormed)
  | binding =>
      cases hvalue
      have hbinding : body.binding.toJson.Canonical options.platform.numbers := canonical_binding _
      exact hbinding.wellFormed
  | providerRequests =>
      cases hvalue
      exact .object List.nodup_nil (List.forall_mem_nil _)
  | body => cases hvalue
  | bodyInput => cases hvalue
  | ttlSeconds => cases hvalue
  | audience => cases hvalue; exact .string _
  | method => cases hvalue; exact .string _
  | purpose => cases hvalue; exact .string _
  | uri => cases hvalue; exact .string _

theorem body_read : CreateSchema options.platform.urls call.body = some body := by
  refine CreateSchema_eq_some.mpr ⟨sentFields, ObjectShape.strictObject_ofFields _, ?_⟩
  exact ⟨rfl, rfl, rfl, rfl, rfl, rfl, rfl, rfl, ⟨none, rfl, rfl⟩, rfl⟩

theorem input_admitted : (body.input .absent []).Admitted where
  purpose := by decide
  audience := by decide
  accepts := by decide
  identifiers := by decide
  distinct := by decide
  providerRequests := by
    rintro _ ⟨⟩
    exact List.forall_mem_nil _
  ttlSeconds := by decide

def requirement : RequirementDocument :=
  (body.input .absent []).document platform call.draws 0 (js "sha256:" ++ List.replicate 43 0x41)

theorem draft : draftRequirement options call body = .ok (⟨requirement, true⟩, none) := by
  refine draftRequirement_eq_ok.mpr ⟨rfl, newRequirement_eq_ok.mpr ⟨[], .absent, rfl, rfl, ?_⟩⟩
  exact createHumanRequirement_eq_ok.mpr ⟨input_admitted, by decide, by decide, _, rfl, rfl⟩

def challenge : HumanRequiredChallenge :=
  ⟨baseHeaders ++ [(humanRequiredHeader, encodeCanonical platform.numbers requirement.toJson)],
    humanRequiredProblem requirement .header, .header⟩

theorem requirement_inline :
    encodedHeaderByteLength (encodeCanonical platform.numbers requirement.toJson) ≤
      headerInteropEnvelopeBytes := by
  decide +kernel

theorem requirement_challenge :
    requirementChallenge options ⟨requirement, true⟩ = .ok challenge := by
  have hresponse : humanRequiredResponse platform.numbers requirement = .ok challenge :=
    (humanRequiredResponse_eq_ok rfl).mpr (Or.inl ⟨requirement_inline, rfl⟩)
  rw [requirementChallenge, if_pos rfl]
  exact hresponse

def keyPrefix : JsString := js "x424"

def sink : RequirementSink RedisDb :=
  RedisX424Store.documents platform.toRuntime keyPrefix

def database : RedisDb :=
  (sink.putFor ⟨requirement, true⟩ none call.storedAt Cells.empty).2

theorem stored : sink.putFor ⟨requirement, true⟩ none call.storedAt Cells.empty =
    (.ok (), database) := by
  have hexpiry : futureExpiry (platform.dates.parse requirement.expiresAt) call.storedAt =
      some 300000 := by decide +kernel
  refine Prod.ext ?_ rfl
  simp only [sink, RedisX424Store.documents, RedisX424Store.putDocument, RedisX424Store.setOnce,
    hexpiry]
  rfl

def nonces : NonceEntries :=
  (registerRequirement options call inMemoryNonceStore requirement inMemoryNonceStore.empty).2

theorem registered : registerRequirement options call inMemoryNonceStore requirement
    inMemoryNonceStore.empty = (.ok (), nonces) := by
  have hchecked : options.service.checkRegistration (requirement.read options.platform.dates)
      call.checkedAt (call.validateProviderRequest requirement) = .ok () := by decide +kernel
  refine Prod.ext ?_ rfl
  simp only [registerRequirement, X424Service.register, hchecked]
  rfl

theorem answered : requirementsRoute options call sink inMemoryNonceStore Cells.empty
    inMemoryNonceStore.empty = (.created requirement challenge, database, nonces) := by
  simp only [requirementsRoute, body_read, draft, storeRequirement, stored, registered,
    requirement_challenge]

theorem not_valid : ¬ requirement.Valid platform.dates := by
  intro h
  have haccepts : accepted ∈ requirement.accepts := List.mem_singleton.mpr rfl
  obtain ⟨-, hkinds⟩ := (h.accepts.2 accepted haccepts).acceptedScopeKinds
  exact absurd hkinds (by decide)

def readAt : Instant := 0

end FiveKinds

theorem issued_read_back_fiveKinds :
    ReadBack LongRequest.platform (RedisX424Store.getDocument LongRequest.platform.toRuntime
        FiveKinds.keyPrefix) FiveKinds.requirement FiveKinds.challenge.transport FiveKinds.readAt
        FiveKinds.database ↔
      FiveKinds.call.Readable LongRequest.options :=
  issued_read_back_iff (.redis FiveKinds.keyPrefix) FiveKinds.call_wellFormed FiveKinds.answered
    (by decide)

/-- The requirement is answered with 201, and its own schema refuses it. -/
theorem five_kinds_not_read_back :
    requirementsRoute LongRequest.options FiveKinds.call FiveKinds.sink inMemoryNonceStore
        Cells.empty inMemoryNonceStore.empty =
      (.created FiveKinds.requirement FiveKinds.challenge, FiveKinds.database,
        FiveKinds.nonces) ∧
    HumanRequirementSchema LongRequest.platform.dates LongRequest.platform.urls
      FiveKinds.requirement.toJson = none :=
  ⟨FiveKinds.answered, schema_refuses FiveKinds.not_valid⟩

end X424
