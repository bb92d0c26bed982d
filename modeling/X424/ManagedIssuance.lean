import X424.Api.IssuanceRollback
import X424.Managed
import X424.Middleware.Acceptance

/-!
# Managed issuance

A resource server that lets a managed verifier issue its requirements sends
what it would have made them of.  When the verifier reads the same input, and
the requirement that comes back passes the check of `issueChallenge`.
-/

namespace X424

open Foundation Canonical

/-! ## The check of a new requirement -/

/-- `assertCurrentMatchesStored` of the request that the input is about. -/
def RequirementInput.assertCurrentMatchesStored (platform : Platform) (input : RequirementInput)
    (requirement : RequirementDocument) : Except JsError Unit :=
  if requirement.purpose ≠ input.purpose then
    .error ⟨js "Purpose does not match the stored dependency"⟩
  else if requirement.resource.audience ≠ input.audience then
    .error ⟨js "Audience does not match the stored dependency"⟩
  else if requirement.resource.method ≠ platform.upper input.method then
    .error ⟨js "HTTP method does not match the stored dependency"⟩
  else if requirement.resource.uri ≠ input.uri then
    .error ⟨js "Request URI does not match the stored dependency"⟩
  else do
    let currentDigest ← Canonical.requestDigest platform.numbers platform.createHash
      platform.upper input.method input.uri input.bodyInput
    if requirement.resource.requestDigest ≠ currentDigest then
      .error ⟨js "Request body digest does not match the stored dependency"⟩
    else if requirement.binding ≠ input.binding then
      .error ⟨js "Caller binding does not match the stored dependency"⟩
    else .ok ()

/-- It is the check that every presentation makes. -/
theorem RequirementInput.assertCurrentMatchesStored_eq {ρ σ τ : Type} {platform : Platform}
    (hupper : platform.upper = toUpperCase) {input : RequirementInput}
    {requirement : RequirementDocument} {options : ProtectOptions ρ σ τ}
    {request : ProtectedRequest} (hpurpose : options.purpose = input.purpose)
    (haudience : options.audience = input.audience) (hmethod : request.method = input.method)
    (huri : request.uri = input.uri) (hbinding : request.binding = input.binding)
    (hdigest : bodyDigestFromInput platform.numbers platform.createHash input.bodyInput =
      .ok request.bodyDigest) :
    input.assertCurrentMatchesStored platform requirement =
      options.assertCurrentMatchesStored request
        (fun text => Canonical.sha256 platform.createHash (utf8 text))
        (requirement.read platform.dates) := by
  simp only [assertCurrentMatchesStored, ProtectOptions.assertCurrentMatchesStored, hupper,
    Canonical.requestDigest_eq, hdigest, RequirementDocument.read, ProtectedRequest.digest,
    hpurpose, haudience, hmethod, huri, hbinding]
  rfl

theorem assertCurrentMatchesStored_created {platform : Platform} {input : RequirementInput}
    {requirement : RequirementDocument} {requestDigest : JsString}
    (hdigest : Canonical.requestDigest platform.numbers platform.createHash platform.upper
      input.method input.uri input.bodyInput = .ok requestDigest)
    (hpurpose : requirement.purpose = input.purpose)
    (hbinding : requirement.binding = input.binding)
    (hresource : requirement.resource =
      ⟨platform.upper input.method, input.uri, input.audience, requestDigest⟩) :
    input.assertCurrentMatchesStored platform requirement = .ok () := by
  simp only [RequirementInput.assertCurrentMatchesStored, hpurpose, hresource, hdigest, hbinding,
    ne_eq, not_true, if_false, bind, Except.bind]

/-! ## Bodies on the wire -/

namespace ManagedVerifierClient

def sentBodyInput : RequestBodyDigestInput → Option IssuanceBodyInput
  | .absent => some .absent
  | .empty => some .empty
  | .json value => some (.json (some value))
  | .opaqueBytes bytes => (zString 1 350000 (some (.string (encodeStrictBase64Url bytes)))).map
      .opaqueText
  | .precomputed bodyDigest => (zString 1 50 (some (.string bodyDigest))).map .precomputed
  | .stream => none

theorem BodyInputSchema_wire (bodyInput : RequestBodyDigestInput) :
    BodyInputSchema (some (wireBodyInput bodyInput)) = sentBodyInput bodyInput := by
  cases bodyInput with
  | absent => rfl
  | empty => rfl
  | json value =>
      have hkind : memberOf (js "kind") (wireBodyInput (.json value)) =
          some (.string (js "json")) := @memberOf_ofFields _ jsonBodyShape _ .kind
      have hfields : jsonBodyShape.strictObject (wireBodyInput (.json value)) = some _ :=
        jsonBodyShape.strictObject_ofFields _
      simp only [BodyInputSchema, Option.bind_eq_bind, Option.bind_some, hkind]
      rw [if_neg (by decide), if_neg (by decide), if_pos trivial, hfields]
      rfl
  | opaqueBytes bytes =>
      have hkind : memberOf (js "kind") (wireBodyInput (.opaqueBytes bytes)) =
          some (.string (js "opaque")) := @memberOf_ofFields _ opaqueBodyShape _ .kind
      have hfields : opaqueBodyShape.strictObject (wireBodyInput (.opaqueBytes bytes)) = some _ :=
        opaqueBodyShape.strictObject_ofFields _
      simp only [BodyInputSchema, Option.bind_eq_bind, Option.bind_some, hkind]
      rw [if_neg (by decide), if_neg (by decide), if_neg (by decide), if_pos trivial, hfields]
      rfl
  | precomputed bodyDigest =>
      have hkind : memberOf (js "kind") (wireBodyInput (.precomputed bodyDigest)) =
          some (.string (js "precomputed")) :=
        @memberOf_ofFields _ precomputedBodyShape _ .kind
      have hfields : precomputedBodyShape.strictObject (wireBodyInput (.precomputed bodyDigest)) =
          some _ := precomputedBodyShape.strictObject_ofFields _
      simp only [BodyInputSchema, Option.bind_eq_bind, Option.bind_some, hkind]
      rw [if_neg (by decide), if_neg (by decide), if_neg (by decide), if_neg (by decide),
        if_pos trivial, hfields]
      rfl
  | stream => rfl

def WithinWire (bodyInput : RequestBodyDigestInput) : Prop :=
  ∀ bytes, bodyInput = .opaqueBytes bytes → (encodeStrictBase64Url bytes).length ≤ 350000

/-- Every body with a digest is read again, but for an opaque one without bytes. -/
theorem resolve_sentBodyInput {numbers : JsNumbers} {createHash : List UInt8 → List UInt8}
    {bodyInput : RequestBodyDigestInput} {bodyDigest : Option JsString}
    (hdigest : bodyDigestFromInput numbers createHash bodyInput = .ok bodyDigest)
    (hsize : WithinWire bodyInput) :
    (∃ sent, sentBodyInput bodyInput = some sent ∧
        resolveIssuanceBodyInput (some sent) none = .ok bodyInput) ↔
      bodyInput ≠ .opaqueBytes [] := by
  cases bodyInput with
  | absent => exact iff_of_true ⟨_, rfl, rfl⟩ fun h => by cases h
  | empty => exact iff_of_true ⟨_, rfl, rfl⟩ fun h => by cases h
  | json value => exact iff_of_true ⟨_, rfl, rfl⟩ fun h => by cases h
  | opaqueBytes bytes =>
      constructor
      · rintro ⟨sent, hsent, -⟩ hempty
        cases hempty
        cases hsent
      · intro hbytes
        have hne : encodeStrictBase64Url bytes ≠ [] := fun hnil =>
          hbytes (congrArg _ (encodeStrictBase64Url_eq_nil.mp hnil))
        have hread : zString 1 350000 (some (.string (encodeStrictBase64Url bytes))) =
            some (encodeStrictBase64Url bytes) :=
          zString_eq_some.mpr ⟨rfl, List.length_pos_iff.mpr hne, hsize bytes rfl⟩
        refine ⟨.opaqueText (encodeStrictBase64Url bytes), ?_, ?_⟩
        · rw [sentBodyInput, hread]
          rfl
        · rw [resolveIssuanceBodyInput, decodeStrictBase64Url_eq_ok.mpr ⟨hne, rfl⟩]
          rfl
  | precomputed text =>
      have htext : ∃ digest, assertSha256Digest text = .ok digest := by
        cases hchecked : assertSha256Digest text with
        | error error =>
            rw [bodyDigestFromInput, hchecked] at hdigest
            cases hdigest
        | ok digest => exact ⟨digest, rfl⟩
      obtain ⟨digest, hchecked⟩ := htext
      obtain ⟨-, bytes, hbytes, hencoded⟩ := assertSha256Digest_eq_ok.mp hchecked
      have hlength : text.length = 50 := by
        have hprefix : (js "sha256:").length = 7 := by decide
        rw [hencoded, List.length_append, hprefix, length_encodeStrictBase64Url, hbytes]
      have hread : zString 1 50 (some (.string text)) = some text :=
        zString_eq_some.mpr ⟨rfl, by omega, hlength.le⟩
      refine iff_of_true ⟨.precomputed text, ?_, rfl⟩ fun h => by cases h
      rw [sentBodyInput, hread]
      rfl
  | stream => cases hdigest

/-! ## The other fields -/

section Fields

variable {urls : JsUrls} {input : RequirementInput} {wire : Option Json} {body : IssuanceBody}

theorem readFrom_ttlSeconds (h : body.ReadFrom urls (issuanceFields input wire)) :
    input.ttlSeconds = body.ttlSeconds ∧ 30 ≤ body.ttlSeconds ∧ body.ttlSeconds ≤ 900 := by
  obtain ⟨read, hread, hvalue⟩ := h.ttlSeconds
  obtain ⟨ttlSeconds, hint, rfl⟩ := Option.map_eq_some_iff.mp hread
  obtain ⟨hsent, hbounds⟩ := zInt_spec hint
  have htext : input.ttlSeconds = (ttlSeconds : ℚ) := Json.number.inj (Option.some.inj hsent)
  rw [hvalue]
  exact ⟨htext, hbounds⟩

theorem readFrom_input (h : body.ReadFrom urls (issuanceFields input wire))
    (bodyInput : RequestBodyDigestInput) (members : List (JsString × Json)) :
    body.input bodyInput members = { input with
      uri := body.uri
      audience := body.audience
      bodyInput := bodyInput
      providerRequests := some members } := by
  have haccepts := ((zArray_eq_some MethodSchema_toJson).mp h.accepts).1
  have hbinding := ((bindingSchema_toJson input.binding body.binding).mp h.binding).1
  have hpurpose := (zString_eq_some.mp h.purpose).1
  have hmethod := (zString_eq_some.mp h.method).1
  simp only [IssuanceBody.input, haccepts, hbinding, hpurpose, hmethod, (readFrom_ttlSeconds h).1]

theorem readFrom_bodyInput (h : body.ReadFrom urls (issuanceFields input none))
    {bodyInput : RequestBodyDigestInput} {sent : IssuanceBodyInput}
    (hsent : sentBodyInput bodyInput = some sent) :
    { body with bodyInput := some sent }.ReadFrom urls
      (issuanceFields input (some (wireBodyInput bodyInput))) := by
  have hread : zOptional BodyInputSchema (some (wireBodyInput bodyInput)) = some (some sent) := by
    rw [zOptional, BodyInputSchema_wire, hsent]
    rfl
  exact { h with bodyInput := hread }

theorem wellFormed_wireBodyInput {numbers : JsNumbers} {bodyInput : RequestBodyDigestInput}
    (h : ∀ value, bodyInput = .json value → value.WellFormed numbers) :
    (wireBodyInput bodyInput).WellFormed numbers := by
  cases bodyInput with
  | absent =>
      refine ObjectShape.wellFormed_ofFields fun k value hvalue => ?_
      cases k with | kind => cases hvalue; exact .string _
  | empty =>
      refine ObjectShape.wellFormed_ofFields fun k value hvalue => ?_
      cases k with | kind => cases hvalue; exact .string _
  | json value =>
      refine ObjectShape.wellFormed_ofFields fun k sent hsent => ?_
      cases k with
      | kind => cases hsent; exact .string _
      | value =>
          cases hsent
          exact h value rfl
  | opaqueBytes bytes =>
      refine ObjectShape.wellFormed_ofFields fun k value hvalue => ?_
      cases k with
      | bytesBase64url => cases hvalue; exact .string _
      | kind => cases hvalue; exact .string _
  | precomputed bodyDigest =>
      refine ObjectShape.wellFormed_ofFields fun k value hvalue => ?_
      cases k with
      | bodyDigest => cases hvalue; exact .string _
      | kind => cases hvalue; exact .string _
  | stream =>
      refine ObjectShape.wellFormed_ofFields fun k value hvalue => ?_
      cases k with | kind => cases hvalue; exact .string _

theorem wellFormed_issuanceJson {numbers : JsNumbers}
    (h : body.ReadFrom urls (issuanceFields input none))
    (hjson : ∀ value, input.bodyInput = .json value → value.WellFormed numbers)
    (hrequests : ∀ members ∈ input.providerRequests, (Json.object members).WellFormed numbers) :
    (issuanceJson input).WellFormed numbers := by
  refine ObjectShape.wellFormed_ofFields fun k value hvalue => ?_
  cases k with
  | accepts =>
      cases hvalue
      refine .array fun item hitem => ?_
      obtain ⟨accepted, haccepted, rfl⟩ := List.mem_map.mp hitem
      have hrequested := ((zArray_eq_some MethodSchema_toJson).mp h.accepts).2.2 accepted haccepted
      have hcanonical : accepted.toJson.Canonical numbers := canonical_methodRequirement
        fun seconds hseconds => (hrequested.maximumProofAgeSeconds seconds hseconds).2
      exact hcanonical.wellFormed
  | binding =>
      cases hvalue
      have hcanonical : input.binding.toJson.Canonical numbers := canonical_binding _
      exact hcanonical.wellFormed
  | body => cases hvalue
  | bodyInput =>
      cases hvalue
      exact wellFormed_wireBodyInput hjson
  | providerRequests =>
      obtain ⟨members, hmembers, rfl⟩ := Option.map_eq_some_iff.mp hvalue
      exact hrequests members hmembers
  | ttlSeconds =>
      cases hvalue
      obtain ⟨httl, hminimum, hmaximum⟩ := readFrom_ttlSeconds h
      obtain ⟨seconds, hseconds⟩ := Int.eq_ofNat_of_zero_le (by omega : 0 ≤ body.ttlSeconds)
      rw [httl, hseconds]
      exact .number (numbers.isDouble_nat seconds (by omega))
  | audience => cases hvalue; exact .string _
  | method => cases hvalue; exact .string _
  | purpose => cases hvalue; exact .string _
  | uri => cases hvalue; exact .string _

theorem parse_requestBody {numbers : JsNumbers}
    (h : body.ReadFrom urls (issuanceFields input none))
    (hjson : ∀ value, input.bodyInput = .json value → value.WellFormed numbers)
    (hrequests : ∀ members ∈ input.providerRequests, (Json.object members).WellFormed numbers) :
    jsonParse numbers (requestBody numbers input) = some (issuanceJson input) :=
  jsonParse_stringify (wellFormed_issuanceJson h hjson hrequests)

theorem CreateSchema_withoutBytes (hempty : input.bodyInput = .opaqueBytes [])
    (body : IssuanceBody) : CreateSchema urls (issuanceJson input) ≠ some body := by
  intro h
  obtain ⟨_, hstrict, hread⟩ := CreateSchema_eq_some.mp h
  cases (ObjectShape.strictObject_ofFields _).symm.trans hstrict
  have hwire : zOptional BodyInputSchema (some (wireBodyInput input.bodyInput)) =
      some body.bodyInput := hread.bodyInput
  rw [zOptional, BodyInputSchema_wire, hempty] at hwire
  cases hwire

end Fields

end ManagedVerifierClient

/-! ## Both ways of issuing -/

section Agreement

variable {platform : Platform} {input : RequirementInput}

open ManagedVerifierClient

/-- The route accepts what the client sends and, with any material for the accepted methods,
issues a requirement that has this resource and passes the check of the middleware. -/
def ManagedIssues (platform : Platform) (input : RequirementInput)
    (resource : ProtectedResource) : Prop :=
  ∃ sent body bodyInput,
    jsonParse platform.numbers (requestBody platform.numbers input) = some sent ∧
    CreateSchema platform.urls sent = some body ∧
    resolveIssuanceBodyInput body.bodyInput body.body = .ok bodyInput ∧
    ∀ members draws now,
      (∀ member ∈ members, member.1 ∈ input.accepts.map HumanMethodRequirement.key) →
      IsDate now → IsDate (now + input.ttlSeconds.num * 1000) →
        ∃ issued, createHumanRequirement platform (body.input bodyInput members) draws now =
            .ok issued ∧
          issued.resource = resource ∧ input.assertCurrentMatchesStored platform issued = .ok ()

/-- The managed verifier issues what the local call makes, unless the body is opaque and has
no bytes or a URL is written with blanks around it. -/
theorem managed_issuance_iff {draws : FreshDraws} {now : Instant}
    {requirement : RequirementDocument}
    (hlocal : createHumanRequirement platform input draws now = .ok requirement)
    (hjson : ∀ value, input.bodyInput = .json value → value.WellFormed platform.numbers)
    (hrequests : ∀ members ∈ input.providerRequests,
      (Json.object members).WellFormed platform.numbers)
    (hsize : WithinWire input.bodyInput)
    (hfields : ∃ body, CreateSchema platform.urls
      (createShape.ofFields (issuanceFields input none)) = some body) :
    ManagedIssues platform input requirement.resource ↔
      input.bodyInput ≠ .opaqueBytes [] ∧ platform.urls.check input.uri = some input.uri ∧
        platform.urls.check input.audience = some input.audience := by
  obtain ⟨hadmitted, hnow, hexpiry, requestDigest, hdigest, rfl⟩ :=
    createHumanRequirement_eq_ok.mp hlocal
  obtain ⟨bodyDigest, hbodyDigest, -⟩ := bind_eq_ok.mp hdigest
  obtain ⟨body, hbody⟩ := hfields
  obtain ⟨_, hstrict, hread⟩ := CreateSchema_eq_some.mp hbody
  cases (ObjectShape.strictObject_ofFields _).symm.trans hstrict
  have hparsed : jsonParse platform.numbers (requestBody platform.numbers input) =
      some (issuanceJson input) := parse_requestBody hread hjson hrequests
  have hresolve := resolve_sentBodyInput hbodyDigest hsize
  constructor
  · rintro ⟨_, again, bodyInput, hsent, hagain, hbodyInput, hissues⟩
    cases hparsed.symm.trans hsent
    obtain ⟨_, hstrict, hread'⟩ := CreateSchema_eq_some.mp hagain
    cases (ObjectShape.strictObject_ofFields _).symm.trans hstrict
    obtain ⟨issued, hissued, hresource, -⟩ :=
      hissues [] draws now (List.forall_mem_nil _) hnow hexpiry
    obtain ⟨-, -, -, digest, -, rfl⟩ := createHumanRequirement_eq_ok.mp hissued
    have huri : again.uri = input.uri := congrArg ProtectedResource.uri hresource
    have haudience : again.audience = input.audience :=
      congrArg ProtectedResource.audience hresource
    refine ⟨fun hempty => ?_, ?_, ?_⟩
    · exact absurd hagain (CreateSchema_withoutBytes hempty again)
    · exact (zUrl_eq_some.mp hread'.uri).1.trans (congrArg some huri)
    · exact (zUrl_eq_some.mp hread'.audience).1.trans (congrArg some haudience)
  · rintro ⟨hbytes, huri, haudience⟩
    obtain ⟨sent, hsent, hresolved⟩ := hresolve.mpr hbytes
    have hread' := readFrom_bodyInput hread hsent
    have hsameUri : body.uri = input.uri :=
      Option.some.inj ((zUrl_eq_some.mp hread.uri).1.symm.trans huri)
    have hsameAudience : body.audience = input.audience :=
      Option.some.inj ((zUrl_eq_some.mp hread.audience).1.symm.trans haudience)
    refine ⟨issuanceJson input, { body with bodyInput := some sent }, input.bodyInput, hparsed,
      CreateSchema_eq_some.mpr ⟨_, ObjectShape.strictObject_ofFields _, hread'⟩,
      (congrArg (resolveIssuanceBodyInput (some sent)) hread.body).trans hresolved,
      fun members draws' now' hmembers hnow' hexpiry' => ?_⟩
    have hadmitted' : { input with providerRequests := some members }.Admitted := by
      refine { hadmitted with providerRequests := ?_ }
      rintro _ ⟨⟩
      exact hmembers
    rw [readFrom_input hread', hsameUri, hsameAudience]
    exact ⟨_, createHumanRequirement_eq_ok.mpr ⟨hadmitted', hnow', hexpiry', requestDigest,
      hdigest, rfl⟩, rfl, assertCurrentMatchesStored_created hdigest rfl rfl rfl⟩

end Agreement

/-! ## An opaque body without bytes -/

namespace NoBytes

open LongRequest (platform)

def input : RequirementInput where
  purpose := js "p"
  method := js "POST"
  uri := js "https://a.example/x"
  audience := js "https://a.example"
  bodyInput := .opaqueBytes []
  binding := ⟨.session, js "s"⟩
  accepts := [LongRequest.accepted]
  providerRequests := none
  ttlSeconds := 300

def draws : FreshDraws := LongRequest.call.draws

theorem input_admitted : input.Admitted where
  purpose := by decide
  audience := by decide
  accepts := by decide
  identifiers := by decide
  distinct := by decide
  providerRequests := nofun
  ttlSeconds := by decide

def requirement : RequirementDocument :=
  input.document platform draws 0 (js "sha256:" ++ List.replicate 43 0x41)

theorem requirement_created : createHumanRequirement platform input draws 0 = .ok requirement :=
  createHumanRequirement_eq_ok.mpr ⟨input_admitted, by decide, by decide, _, rfl, rfl⟩

def body : IssuanceBody := { LongRequest.body with providerRequests := none }

theorem body_read :
    body.ReadFrom platform.urls (ManagedVerifierClient.issuanceFields input none) :=
  ⟨rfl, rfl, rfl, rfl, rfl, rfl, rfl, rfl, ⟨some 300, rfl, rfl⟩, rfl⟩

theorem fields_read : CreateSchema platform.urls
    (createShape.ofFields (ManagedVerifierClient.issuanceFields input none)) = some body :=
  CreateSchema_eq_some.mpr ⟨_, ObjectShape.strictObject_ofFields _, body_read⟩

theorem within_wire : ManagedVerifierClient.WithinWire input.bodyInput := by
  rintro _ ⟨⟩
  decide

end NoBytes

theorem managed_issuance_noBytes :
    ManagedIssues LongRequest.platform NoBytes.input NoBytes.requirement.resource ↔
      NoBytes.input.bodyInput ≠ .opaqueBytes [] ∧
        LongRequest.platform.urls.check NoBytes.input.uri = some NoBytes.input.uri ∧
        LongRequest.platform.urls.check NoBytes.input.audience = some NoBytes.input.audience :=
  managed_issuance_iff NoBytes.requirement_created nofun nofun NoBytes.within_wire
    ⟨_, NoBytes.fields_read⟩

/-- The requirement can be made locally, and the route refuses what the client sends. -/
theorem no_bytes_refused :
    createHumanRequirement LongRequest.platform NoBytes.input NoBytes.draws 0 =
        .ok NoBytes.requirement ∧
      ¬ ManagedIssues LongRequest.platform NoBytes.input NoBytes.requirement.resource := by
  refine ⟨NoBytes.requirement_created, ?_⟩
  rintro ⟨sent, body, -, hsent, hbody, -⟩
  cases (ManagedVerifierClient.parse_requestBody NoBytes.body_read nofun nofun).symm.trans hsent
  exact ManagedVerifierClient.CreateSchema_withoutBytes rfl body hbody

end X424
