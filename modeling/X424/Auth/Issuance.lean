import X424.Auth.Resources
import X424.Requirements

/-!
# Authenticated issuers

What an authenticator returns is checked before it is trusted: a principal is
made of texts without control characters, and a requirement is issued only
inside all of its grants.
-/

namespace X424

open Foundation

namespace Auth

/-! ## Principals -/

/-- `/[\u0000-\u001f\u007f]/u`. -/
def isControl (u : UInt16) : Bool := u ≤ 0x1F || u == 0x7F

def isPrincipalText (maximumLength : Nat) (text : JsString) : Bool :=
  !text.isEmpty && decide (text.length ≤ maximumLength) && !text.any isControl

/-- What `validatedPrincipalString` returns. -/
structure PrincipalText (maximumLength : Nat) where
  text : JsString
  valid : isPrincipalText maximumLength text = true
  deriving DecidableEq

def maximumPrincipalStringLength : Nat := 2048

abbrev PrincipalString := PrincipalText maximumPrincipalStringLength

structure PrincipalGrant where
  origin : PrincipalString
  pathPrefix : PrincipalString
  deriving DecidableEq

def PrincipalGrant.toGrant (grant : PrincipalGrant) : ResourceUriGrant :=
  ⟨grant.origin.text, grant.pathPrefix.text⟩

structure IssuancePrincipal where
  subject : PrincipalText 512
  issuer : Option PrincipalString
  allowedPurposes : List PrincipalString
  allowedAudiences : List PrincipalString
  allowedHttpMethods : List PrincipalString
  allowedMethods : List PrincipalString
  allowedResources : List PrincipalGrant
  deriving DecidableEq

inductive AnyIssuancePrincipal where
  | granted (principal : IssuancePrincipal)
  | devWildcard (subject : PrincipalText 512)
  deriving DecidableEq

structure IssuanceAuthorizationError where
  code : JsString
  message : JsString
  deriving DecidableEq, Repr

def principalTexts (texts : List PrincipalString) : Json :=
  .array (texts.map fun entry => .string entry.text)

def PrincipalGrant.toJson (grant : PrincipalGrant) : Json :=
  .object [(js "origin", .string grant.origin.text),
    (js "pathPrefix", .string grant.pathPrefix.text)]

/-! ## Validation -/

def invalidPrincipal : IssuanceAuthorizationError :=
  ⟨js "UNAUTHENTICATED", js "Authenticated issuer principal is invalid"⟩

def exactOwnKeys (members : List (JsString × Json)) (allowed : List JsString) : Bool :=
  members.all fun member => allowed.contains member.1

def validatedPrincipalString (maximumLength : Nat) (value : Option Json) :
    Option (PrincipalText maximumLength) :=
  match value with
  | some (.string text) =>
      if h : isPrincipalText maximumLength text = true then some ⟨text, h⟩ else none
  | _ => none

def validatedPrincipalStringArray (value : Option Json) : Option (List PrincipalString) :=
  match value with
  | some (.array entries) =>
      entries.mapM fun entry => validatedPrincipalString maximumPrincipalStringLength (some entry)
  | _ => none

def validatedGrant (entry : Json) : Option PrincipalGrant :=
  match entry with
  | .object members =>
      if exactOwnKeys members [js "origin", js "pathPrefix"] then do
        let origin ← validatedPrincipalString maximumPrincipalStringLength
          (members.lookup (js "origin"))
        let pathPrefix ← validatedPrincipalString maximumPrincipalStringLength
          (members.lookup (js "pathPrefix"))
        return ⟨origin, pathPrefix⟩
      else none
  | _ => none

def validatedGrants (value : Option Json) : Option (List PrincipalGrant) :=
  match value with
  | some (.array entries) => entries.mapM validatedGrant
  | _ => none

def validatedIssuer (value : Option Json) : Option (Option PrincipalString) :=
  match value with
  | none => some none
  | some value => (validatedPrincipalString maximumPrincipalStringLength (some value)).map some

def isTrue (value : Option Json) : Bool :=
  match value with
  | some (.bool true) => true
  | _ => false

def principalKeys : List JsString :=
  [js "subject", js "issuer", js "allowedPurposes", js "allowedAudiences",
    js "allowedHttpMethods", js "allowedMethods", js "allowedResources"]

def principalFrom (members : List (JsString × Json)) : Option AnyIssuancePrincipal := do
  let subject ← validatedPrincipalString 512 (members.lookup (js "subject"))
  if isTrue (members.lookup (js "__devWildcardIssuance")) then
    if exactOwnKeys members [js "subject", js "__devWildcardIssuance"] then
      return .devWildcard subject
    else none
  else if exactOwnKeys members principalKeys then
    let issuer ← validatedIssuer (members.lookup (js "issuer"))
    let allowedPurposes ← validatedPrincipalStringArray (members.lookup (js "allowedPurposes"))
    let allowedAudiences ← validatedPrincipalStringArray (members.lookup (js "allowedAudiences"))
    let allowedHttpMethods ←
      validatedPrincipalStringArray (members.lookup (js "allowedHttpMethods"))
    let allowedMethods ← validatedPrincipalStringArray (members.lookup (js "allowedMethods"))
    let allowedResources ← validatedGrants (members.lookup (js "allowedResources"))
    return .granted
      { subject, issuer, allowedPurposes, allowedAudiences, allowedHttpMethods, allowedMethods
        allowedResources }
  else none

def validateIssuancePrincipal (input : Json) :
    Except IssuanceAuthorizationError AnyIssuancePrincipal :=
  match input with
  | .object members =>
      match principalFrom members with
      | none => .error invalidPrincipal
      | some principal => .ok principal
  | _ => .error invalidPrincipal

def AnyIssuancePrincipal.members : AnyIssuancePrincipal → List (JsString × Json)
  | .granted principal =>
      (js "subject", .string principal.subject.text) ::
        ((principal.issuer.map fun issuer => (js "issuer", Json.string issuer.text)).toList ++
          [(js "allowedPurposes", principalTexts principal.allowedPurposes),
            (js "allowedAudiences", principalTexts principal.allowedAudiences),
            (js "allowedHttpMethods", principalTexts principal.allowedHttpMethods),
            (js "allowedMethods", principalTexts principal.allowedMethods),
            (js "allowedResources",
              .array (principal.allowedResources.map PrincipalGrant.toJson))])
  | .devWildcard subject =>
      [(js "subject", .string subject.text), (js "__devWildcardIssuance", .bool true)]

def AnyIssuancePrincipal.toJson (principal : AnyIssuancePrincipal) : Json :=
  .object principal.members

/-! ## Authorization -/

structure IssuanceAuthorizationRequest where
  purpose : JsString
  method : JsString
  uri : JsString
  audience : JsString
  accepts : List HumanMethodRequirement
  deriving DecidableEq, Repr

section Authorize

variable (urls : UrlParser) (upper : JsString → JsString)

def assertHttps (request : IssuanceAuthorizationRequest) (profile : DeploymentProfile) :
    Except IssuanceAuthorizationError Unit :=
  if profile = .devLocal then .ok ()
  else
    match urls.parse request.uri, urls.parse request.audience with
    | some resource, some audience =>
        if resource.protocol ≠ js "https:" ∨ audience.protocol ≠ js "https:" then
          .error ⟨js "RESOURCE_NOT_AUTHORIZED",
            js "Resource and audience must use HTTPS outside dev-local-0.1"⟩
        else .ok ()
    | _, _ => .error ⟨js "RESOURCE_NOT_AUTHORIZED",
        js "Resource and audience must be valid HTTPS URLs"⟩

def requireGrant (code empty lacking : JsString) (isEmpty granted : Bool) :
    Except IssuanceAuthorizationError Unit :=
  if isEmpty then .error ⟨code, empty⟩ else if granted then .ok () else .error ⟨code, lacking⟩

def grantsText (allowed : List PrincipalString) (value : JsString) : Bool :=
  (allowed.map PrincipalText.text).contains value

def authorizeGrants (principal : IssuancePrincipal) (request : IssuanceAuthorizationRequest) :
    Except IssuanceAuthorizationError Unit := do
  requireGrant (js "PURPOSE_NOT_AUTHORIZED") (js "Issuer has no allowed purposes")
    (js "Issuer is not authorized for this purpose") principal.allowedPurposes.isEmpty
    (grantsText principal.allowedPurposes request.purpose)
  requireGrant (js "AUDIENCE_NOT_AUTHORIZED") (js "Issuer has no allowed audiences")
    (js "Issuer is not authorized for this audience") principal.allowedAudiences.isEmpty
    (grantsText principal.allowedAudiences request.audience)
  requireGrant (js "HTTP_METHOD_NOT_AUTHORIZED") (js "Issuer has no allowed HTTP methods")
    (js "Issuer is not authorized for this HTTP method") principal.allowedHttpMethods.isEmpty
    (grantsText principal.allowedHttpMethods (upper request.method))
  requireGrant (js "RESOURCE_NOT_AUTHORIZED") (js "Issuer has no allowed resources")
    (js "Issuer is not authorized for this resource URI") principal.allowedResources.isEmpty
    (resourceUriAuthorized urls request.uri
      (principal.allowedResources.map PrincipalGrant.toGrant))
  requireGrant (js "METHOD_NOT_AUTHORIZED") (js "Issuer has no allowed human methods")
    (js "Issuer is not authorized for an accepted method") principal.allowedMethods.isEmpty
    (request.accepts.all fun accepted => grantsText principal.allowedMethods accepted.key)

def authorizePrincipal (principal : AnyIssuancePrincipal) (request : IssuanceAuthorizationRequest)
    (profile : DeploymentProfile) : Except IssuanceAuthorizationError Unit :=
  match principal with
  | .devWildcard _ =>
      if profile ≠ .devLocal then
        .error ⟨js "METHOD_NOT_AUTHORIZED",
          js "Development wildcard issuance is forbidden outside dev-local-0.1"⟩
      else .ok ()
  | .granted principal => authorizeGrants urls upper principal request

def authorizeIssuance (principal : AnyIssuancePrincipal) (request : IssuanceAuthorizationRequest)
    (profile : DeploymentProfile) : Except IssuanceAuthorizationError Unit := do
  let principal ← validateIssuancePrincipal principal.toJson
  assertHttps urls request profile
  authorizePrincipal urls upper principal request profile

end Authorize

/-! ## Tenants -/

def AnyIssuancePrincipal.subject : AnyIssuancePrincipal → JsString
  | .granted principal => principal.subject.text
  | .devWildcard subject => subject.text

def AnyIssuancePrincipal.issuer : AnyIssuancePrincipal → Option JsString
  | .granted principal => principal.issuer.map PrincipalText.text
  | .devWildcard _ => none

def tenantPreimage (principal : AnyIssuancePrincipal) : JsString :=
  js "x424-tenant-v2" ++ 0x00 :: (principal.issuer.getD [] ++ 0x00 :: principal.subject)

def tenantStateId (createHash : List UInt8 → List UInt8) (principal : AnyIssuancePrincipal) :
    JsString :=
  js "sha256:" ++ encodeStrictBase64Url (createHash (utf8 (tenantPreimage principal)))

/-! ## What is validated and authorized -/

theorem validatedPrincipalString_text {maximumLength : Nat} (text : PrincipalText maximumLength) :
    validatedPrincipalString maximumLength (some (.string text.text)) = some text := by
  rw [validatedPrincipalString, dif_pos text.valid]

theorem mapM_map_eq_some {α β : Type} {read : β → Option α} (write : α → β)
    (h : ∀ a, read (write a) = some a) (items : List α) :
    (items.map write).mapM read = some items := by
  induction items with
  | nil => rfl
  | cons item items ih =>
      rw [List.map_cons, List.mapM_cons, h, ih]
      rfl

theorem validatedPrincipalStringArray_texts (texts : List PrincipalString) :
    validatedPrincipalStringArray (some (principalTexts texts)) = some texts :=
  mapM_map_eq_some (fun entry : PrincipalString => Json.string entry.text)
    validatedPrincipalString_text texts

theorem validatedGrant_toJson (grant : PrincipalGrant) :
    validatedGrant grant.toJson = some grant := by
  have hkeys : exactOwnKeys [(js "origin", Json.string grant.origin.text),
      (js "pathPrefix", .string grant.pathPrefix.text)] [js "origin", js "pathPrefix"] = true := rfl
  have horigin : ([(js "origin", Json.string grant.origin.text),
      (js "pathPrefix", .string grant.pathPrefix.text)].lookup (js "origin")) =
        some (.string grant.origin.text) := rfl
  have hprefix : ([(js "origin", Json.string grant.origin.text),
      (js "pathPrefix", .string grant.pathPrefix.text)].lookup (js "pathPrefix")) =
        some (.string grant.pathPrefix.text) := rfl
  rw [PrincipalGrant.toJson, validatedGrant, if_pos hkeys, horigin, hprefix,
    validatedPrincipalString_text, validatedPrincipalString_text]
  rfl

theorem validatedIssuer_text (issuer : Option PrincipalString) :
    validatedIssuer (issuer.map fun issuer => .string issuer.text) = some issuer := by
  cases issuer with
  | none => rfl
  | some issuer => rw [Option.map_some, validatedIssuer, validatedPrincipalString_text]; rfl

theorem validateIssuancePrincipal_toJson (principal : AnyIssuancePrincipal) :
    validateIssuancePrincipal principal.toJson = .ok principal := by
  have hmembers : principalFrom principal.members = some principal := by
    cases principal with
    | devWildcard subject =>
        have hsubject : ((AnyIssuancePrincipal.devWildcard subject).members.lookup (js "subject")) =
            some (.string subject.text) := rfl
        rw [principalFrom, hsubject, validatedPrincipalString_text]
        rfl
    | granted principal =>
        rcases principal with
          ⟨subject, issuer, purposes, audiences, httpMethods, methods, resources⟩
        let members := (AnyIssuancePrincipal.granted ⟨subject, issuer, purposes, audiences,
          httpMethods, methods, resources⟩).members
        have hsubject : members.lookup (js "subject") = some (.string subject.text) := rfl
        have hwildcard : isTrue (members.lookup (js "__devWildcardIssuance")) = false := by
          cases issuer <;> rfl
        have hkeys : exactOwnKeys members principalKeys = true := by cases issuer <;> rfl
        have hissuer : members.lookup (js "issuer") =
            issuer.map fun issuer => .string issuer.text := by cases issuer <;> rfl
        have hpurposes : members.lookup (js "allowedPurposes") =
            some (principalTexts purposes) := by cases issuer <;> rfl
        have haudiences : members.lookup (js "allowedAudiences") =
            some (principalTexts audiences) := by cases issuer <;> rfl
        have hhttpMethods : members.lookup (js "allowedHttpMethods") =
            some (principalTexts httpMethods) := by cases issuer <;> rfl
        have hmethods : members.lookup (js "allowedMethods") =
            some (principalTexts methods) := by cases issuer <;> rfl
        have hresources : members.lookup (js "allowedResources") =
            some (.array (resources.map PrincipalGrant.toJson)) := by cases issuer <;> rfl
        have hgrants : validatedGrants (some (.array (resources.map PrincipalGrant.toJson))) =
            some resources := mapM_map_eq_some _ validatedGrant_toJson resources
        change principalFrom members = _
        rw [principalFrom, hsubject, hwildcard, hkeys, hissuer, hpurposes, haudiences, hhttpMethods,
          hmethods, hresources, validatedPrincipalString_text, validatedIssuer_text,
          validatedPrincipalStringArray_texts, validatedPrincipalStringArray_texts,
          validatedPrincipalStringArray_texts, validatedPrincipalStringArray_texts, hgrants]
        rfl
  rw [AnyIssuancePrincipal.toJson, validateIssuancePrincipal, hmembers]

section Authorized

variable {urls : UrlParser} {upper : JsString → JsString} {principal : IssuancePrincipal}
  {request : IssuanceAuthorizationRequest} {profile : DeploymentProfile}

/-- All five grants cover what is requested, in the spelling that is stored. -/
structure IssuancePrincipal.Covers (urls : UrlParser) (principal : IssuancePrincipal)
    (terms : IssuanceAuthorizationRequest) : Prop where
  purpose : ∃ granted ∈ principal.allowedPurposes, granted.text = terms.purpose
  audience : ∃ granted ∈ principal.allowedAudiences, granted.text = terms.audience
  method : ∃ granted ∈ principal.allowedHttpMethods, granted.text = terms.method
  resource : resourceUriAuthorized urls terms.uri
    (principal.allowedResources.map PrincipalGrant.toGrant) = true
  accepts : ∀ accepted ∈ terms.accepts, ∃ granted ∈ principal.allowedMethods,
    granted.text = accepted.key

def IssuancePrincipal.HasEmptyGrant (principal : IssuancePrincipal) : Prop :=
  principal.allowedPurposes = [] ∨ principal.allowedAudiences = [] ∨
    principal.allowedHttpMethods = [] ∨ principal.allowedResources = [] ∨
    principal.allowedMethods = []

theorem grantsText_iff {allowed : List PrincipalString} {value : JsString} :
    grantsText allowed value = true ↔ ∃ granted ∈ allowed, granted.text = value := by
  rw [grantsText, List.contains_iff_mem, List.mem_map]

theorem requireGrant_eq_ok {code empty lacking : JsString} {isEmpty granted : Bool} :
    requireGrant code empty lacking isEmpty granted = .ok () ↔
      isEmpty = false ∧ granted = true := by
  cases isEmpty <;> cases granted <;> simp [requireGrant]

theorem unit_bind_eq_ok {ε β : Type} {x : Except ε Unit} {y : Except ε β} {b : β} :
    (x >>= fun _ => y) = .ok b ↔ x = .ok () ∧ y = .ok b :=
  bind_eq_ok.trans ⟨fun ⟨_, hx, hy⟩ => ⟨hx, hy⟩, fun ⟨hx, hy⟩ => ⟨(), hx, hy⟩⟩

theorem authorizeGrants_eq_ok :
    authorizeGrants urls upper principal request = .ok () ↔
      principal.Covers urls { request with method := upper request.method } ∧
        ¬ principal.HasEmptyGrant := by
  rw [authorizeGrants, unit_bind_eq_ok, unit_bind_eq_ok, unit_bind_eq_ok, unit_bind_eq_ok]
  simp only [requireGrant_eq_ok, List.isEmpty_eq_false_iff, grantsText_iff, List.all_eq_true]
  constructor
  · rintro ⟨⟨hpurposes, hpurpose⟩, ⟨haudiences, haudience⟩, ⟨hhttpMethods, hmethod⟩,
      ⟨hresources, hresource⟩, hmethods, haccepts⟩
    exact ⟨⟨hpurpose, haudience, hmethod, hresource, haccepts⟩, fun h => h.elim hpurposes fun h =>
      h.elim haudiences fun h => h.elim hhttpMethods fun h => h.elim hresources hmethods⟩
  · rintro ⟨hcovers, hgrants⟩
    simp only [IssuancePrincipal.HasEmptyGrant, not_or] at hgrants
    exact ⟨⟨hgrants.1, hcovers.purpose⟩, ⟨hgrants.2.1, hcovers.audience⟩,
      ⟨hgrants.2.2.1, hcovers.method⟩, ⟨hgrants.2.2.2.1, hcovers.resource⟩, hgrants.2.2.2.2,
      hcovers.accepts⟩

theorem authorizeIssuance_eq_ok {caller : AnyIssuancePrincipal} (hprofile : profile ≠ .devLocal)
    (h : authorizeIssuance urls upper caller request profile = .ok ()) :
    ∃ principal, caller = .granted principal ∧
      principal.Covers urls { request with method := upper request.method } ∧
        ¬ principal.HasEmptyGrant := by
  rw [authorizeIssuance, validateIssuancePrincipal_toJson] at h
  obtain ⟨validated, hvalidated, h⟩ := bind_eq_ok.mp h
  cases hvalidated
  have hallowed := (unit_bind_eq_ok.mp h).2
  cases caller with
  | devWildcard subject =>
      rw [authorizePrincipal, if_pos hprofile] at hallowed
      cases hallowed
  | granted principal => exact ⟨principal, rfl, authorizeGrants_eq_ok.mp hallowed⟩

end Authorized

/-! ## Tenant ids -/

section Tenants

variable {p q : AnyIssuancePrincipal}

def AnyIssuancePrincipal.identity (principal : AnyIssuancePrincipal) : Option JsString × JsString :=
  (principal.issuer, principal.subject)

def AnyIssuancePrincipal.wellFormedIdentity (principal : AnyIssuancePrincipal) :
    Option JsString × JsString :=
  (principal.issuer.map toWellFormed, toWellFormed principal.subject)

theorem PrincipalText.ne_nil {maximumLength : Nat} (text : PrincipalText maximumLength) :
    text.text ≠ [] := by
  have hvalid := text.valid
  rw [isPrincipalText, Bool.and_eq_true, Bool.and_eq_true, Bool.not_eq_true',
    List.isEmpty_eq_false_iff] at hvalid
  exact hvalid.1.1

theorem PrincipalText.nul_not_mem {maximumLength : Nat} (text : PrincipalText maximumLength) :
    (0x00 : UInt16) ∉ text.text := by
  have hvalid := text.valid
  rw [isPrincipalText, Bool.and_eq_true, Bool.not_eq_true', List.any_eq_false] at hvalid
  exact fun hmem => hvalid.2 _ hmem rfl

theorem issuer_spec {text : JsString} (h : p.issuer = some text) :
    text ≠ [] ∧ (0x00 : UInt16) ∉ text := by
  cases p with
  | devWildcard subject => cases h
  | granted principal =>
      obtain ⟨issuer, -, rfl⟩ := Option.map_eq_some_iff.mp h
      exact ⟨issuer.ne_nil, issuer.nul_not_mem⟩

theorem nul_not_mem_issuer (p : AnyIssuancePrincipal) :
    (0x00 : UInt16) ∉ toWellFormed (p.issuer.getD []) := by
  intro hmem
  cases hissuer : p.issuer with
  | none =>
      rw [hissuer] at hmem
      cases hmem
  | some text =>
      rw [hissuer, Option.getD_some] at hmem
      rcases mem_toWellFormed hmem with hmark | hmem
      · exact absurd hmark (by decide)
      · exact (issuer_spec hissuer).2 hmem

theorem toWellFormed_eq_nil {text : JsString} (h : toWellFormed text = []) : text = [] := by
  cases text with
  | nil => rfl
  | cons u rest =>
      cases rest <;> simp only [toWellFormed] at h <;> split_ifs at h

theorem issuer_getD_iff :
    toWellFormed (p.issuer.getD []) = toWellFormed (q.issuer.getD []) ↔
      p.issuer.map toWellFormed = q.issuer.map toWellFormed := by
  cases hp : p.issuer with
  | none =>
      cases hq : q.issuer with
      | none => exact iff_of_true rfl rfl
      | some text =>
          refine iff_of_false (fun h => ?_) nofun
          exact (issuer_spec hq).1 (toWellFormed_eq_nil h.symm)
  | some text =>
      cases hq : q.issuer with
      | none =>
          refine iff_of_false (fun h => ?_) nofun
          exact (issuer_spec hp).1 (toWellFormed_eq_nil h)
      | some other => exact (Option.some_inj).symm

theorem utf8_tenantPreimage_iff :
    utf8 (tenantPreimage p) = utf8 (tenantPreimage q) ↔
      p.wellFormedIdentity = q.wellFormedIdentity := by
  have hnul : isLeadSurrogate 0x00 = false ∧ isTrailSurrogate 0x00 = false := by decide
  have hpreimage : ∀ p : AnyIssuancePrincipal, toWellFormed (tenantPreimage p) =
      toWellFormed (js "x424-tenant-v2") ++ 0x00 ::
        (toWellFormed (p.issuer.getD []) ++ 0x00 :: toWellFormed p.subject) := fun p => by
    rw [tenantPreimage, toWellFormed_append hnul.1 hnul.2, toWellFormed_append hnul.1 hnul.2]
  rw [utf8_eq_iff, hpreimage, hpreimage, List.append_cancel_left_eq, List.cons.injEq,
    Paths.append_cons_inj (nul_not_mem_issuer p) (nul_not_mem_issuer q), issuer_getD_iff,
    AnyIssuancePrincipal.wellFormedIdentity, AnyIssuancePrincipal.wellFormedIdentity, Prod.mk.injEq]
  exact and_iff_right rfl

theorem tenantStateId_eq_iff {createHash : List UInt8 → List UInt8}
    (hhash : createHash (utf8 (tenantPreimage p)) = createHash (utf8 (tenantPreimage q)) →
      utf8 (tenantPreimage p) = utf8 (tenantPreimage q)) :
    tenantStateId createHash p = tenantStateId createHash q ↔
      p.wellFormedIdentity = q.wellFormedIdentity := by
  rw [tenantStateId, tenantStateId, List.append_cancel_left_eq,
    encodeStrictBase64Url_injective.eq_iff, ← utf8_tenantPreimage_iff]
  exact ⟨hhash, fun h => by rw [h]⟩

end Tenants

end Auth

end X424
