import X424.Api.IssuedRequirement
import X424.Auth.Issuance
import X424.Foundation.Machine

/-!
# Who issued what is stored

Outside the development profile a requirement is stored only for an issuer
whose grants cover it, under the id of that issuer's tenant.  This is an
invariant of the durable stores, whatever calls are made in between.
-/

namespace X424

open Foundation

/-! ## The terms of a requirement -/

def IssuanceBody.terms (body : IssuanceBody) : Auth.IssuanceAuthorizationRequest where
  purpose := body.purpose
  method := body.method
  uri := body.uri
  audience := body.audience
  accepts := body.accepts

def RequirementDocument.terms (document : RequirementDocument) :
    Auth.IssuanceAuthorizationRequest where
  purpose := document.purpose
  method := document.resource.method
  uri := document.resource.uri
  audience := document.resource.audience
  accepts := document.accepts

section Terms

variable {platform : Platform} {document result : RequirementDocument} {json : Json}

theorem HumanRequirementSchema_terms {dates : JsDates} {urls : JsUrls}
    (h : HumanRequirementSchema dates urls json = some result) :
    ∃ field, requirementShape.strictObject json = some field ∧
      zString 1 200 (field .purpose) = some result.purpose ∧
      resourceSchema urls (field .resource) = some result.resource ∧
      zArray methodRequirementSchema 1 10 (field .accepts) = some result.accepts := by
  obtain ⟨field, hfield, h⟩ := Option.bind_eq_some_iff.mp h
  obtain ⟨_, -, h⟩ := Option.bind_eq_some_iff.mp h
  obtain ⟨dependencyId, -, h⟩ := Option.bind_eq_some_iff.mp h
  obtain ⟨purpose, hpurpose, h⟩ := Option.bind_eq_some_iff.mp h
  obtain ⟨resource, hresource, h⟩ := Option.bind_eq_some_iff.mp h
  obtain ⟨nonce, -, h⟩ := Option.bind_eq_some_iff.mp h
  obtain ⟨binding, -, h⟩ := Option.bind_eq_some_iff.mp h
  obtain ⟨createdAt, -, h⟩ := Option.bind_eq_some_iff.mp h
  obtain ⟨expiresAt, -, h⟩ := Option.bind_eq_some_iff.mp h
  obtain ⟨accepts, haccepts, h⟩ := Option.bind_eq_some_iff.mp h
  obtain ⟨providerRequests, -, h⟩ := Option.bind_eq_some_iff.mp h
  cases h
  exact ⟨field, hfield, hpurpose, hresource, haccepts⟩

theorem terms_of_read (hwritable : document.Writable platform)
    (hsame : json.Same document.normalized.toJson) (hkeys : json.DistinctKeys)
    (hread : HumanRequirementSchema platform.dates platform.urls json = some result) :
    result.terms = document.terms := by
  obtain ⟨field, hfield, hpurpose, hresource, haccepts⟩ := HumanRequirementSchema_terms hread
  obtain ⟨other, hother, hrel⟩ := strictObject_same hsame hkeys
  cases hfield.symm.trans hother
  have hvalues := (ObjectShape.same_of_strictObject hkeys hfield).2
  have htext : field .purpose = some (.string document.purpose) :=
    rel_eq_of_noObject (hrel .purpose) fun value hvalue => by
      cases hvalue
      exact .string _
  rw [htext] at hpurpose
  rw [resourceSchema_unordered (hrel .resource) (hvalues .resource)] at hresource
  rw [acceptsSchema_same (hrel .accepts) (hvalues .accepts)] at haccepts
  obtain ⟨-, uri, audience, huri, haudience, hread⟩ := resourceSchema_toJson.mp hresource
  cases hwritable.uri.1.symm.trans huri.1
  cases hwritable.audience.1.symm.trans haudience.1
  have haccepted : result.accepts = document.accepts :=
    ((zArray_eq_some methodRequirementSchema_toJson).mp haccepts).1
  rw [RequirementDocument.terms, (zString_eq_some.mp hpurpose).1, hread, haccepted]
  rfl

end Terms

/-! ## Stores -/

/-- What a reader of the store finds under an id, and whose it is. -/
inductive TenantStore (platform : Platform) : (ρ : Type) → RequirementSink ρ →
    (JsString → Instant → Instant → ρ → Except JsError (Option RequirementDocument) × ρ) →
    (ρ → JsString → Option JsString → RequirementDocument → Prop) → Prop where
  | inMemory (maximumEntries : Nat) :
      TenantStore platform _
        (InMemoryRequirementStore.documentStore platform.dates maximumEntries).toRequirementSink
        (InMemoryRequirementStore.getDocument platform.dates)
        fun entries id tenantId document => entries.find id = some ⟨document, tenantId⟩
  | redis (keyPrefix : JsString) :
      TenantStore platform _ (RedisX424Store.documents platform.toRuntime keyPrefix)
        (RedisX424Store.getDocument platform.toRuntime keyPrefix)
        fun db id tenantId document =>
          ∃ cell, db (RedisX424Store.requirementKey keyPrefix id) = some cell ∧
            RedisX424Store.parseStoredRequirement platform.toRuntime cell.value =
              .ok (document, tenantId)
  | postgres (jsonb : Jsonb platform.numbers) :
      TenantStore platform _ (PostgresX424Store.documents platform.toRuntime jsonb)
        (PostgresX424Store.getDocument platform.toRuntime)
        fun rows id tenantId document =>
          ∃ cell, rows id = some cell ∧ cell.value.ownerId = tenantId ∧
            parseHumanRequirement platform.toRuntime cell.value.document = .ok document

section Stores

variable {platform : Platform} {ρ : Type} {sink : RequirementSink ρ}
  {get : JsString → Instant → Instant → ρ → Except JsError (Option RequirementDocument) × ρ}
  {owned : ρ → JsString → Option JsString → RequirementDocument → Prop}

theorem erase_eq_some {κ ν : Type} [DecidableEq κ] {cells : Cells κ ν} {key other : κ}
    {cell : Cell ν} (h : cells.erase key other = some cell) : cells other = some cell := by
  by_cases heq : other = key
  · subst heq
    rw [Cells.erase, Function.update_self] at h
    cases h
  · rwa [Cells.erase, Function.update_of_ne heq] at h

theorem find_of_erase {entries : DocumentEntries} {dependencyId id : JsString}
    {stored : StoredDocument} (h : (entries.erase dependencyId).find id = some stored) :
    entries.find id = some stored := by
  by_cases hid : id = dependencyId
  · subst hid
    rw [Table.find_erase_same] at h
    cases h
  · rwa [Table.find_erase_of_ne entries hid] at h

theorem InMemoryRequirementStore.putDocument_cases {dates : JsDates} {maximumEntries : Nat}
    {requirement : NewRequirement} {tenantId : Option JsString} {now : Instant}
    {entries entries' : DocumentEntries} {reply : Except JsError Unit}
    (h : putDocument dates maximumEntries requirement tenantId now entries = (reply, entries')) :
    ((∃ error, reply = .error error) ∧
      ∀ {id stored}, entries'.find id = some stored → entries.find id = some stored) ∨
    reply = .ok () ∧ ∀ {id stored}, entries'.find id = some stored →
      entries.find id = some stored ∨
        id = requirement.document.dependencyId ∧ stored = ⟨requirement.document, tenantId⟩ := by
  have hprune : ∀ {id stored}, (pruneDocuments dates now entries).find id = some stored →
      entries.find id = some stored := by
    intro id stored hfound
    rw [pruneDocuments, Table.find_filter] at hfound
    exact (Option.filter_eq_some_iff.mp hfound).1
  simp only [putDocument] at h
  split_ifs at h
  · cases h
    exact .inl ⟨⟨_, rfl⟩, fun hfound => hfound⟩
  · cases h
    exact .inl ⟨⟨_, rfl⟩, hprune⟩
  · cases h
    exact .inl ⟨⟨_, rfl⟩, hprune⟩
  · cases h
    exact .inl ⟨⟨_, rfl⟩, hprune⟩
  · cases h
    refine .inr ⟨rfl, fun {id stored} hfound => ?_⟩
    by_cases hid : id = requirement.document.dependencyId
    · subst hid
      have hput : ((pruneDocuments dates now entries).put ⟨requirement.document, tenantId⟩).find
          requirement.document.dependencyId = some ⟨requirement.document, tenantId⟩ :=
        Table.find_put_same _ (⟨requirement.document, tenantId⟩ : StoredDocument)
      exact .inr ⟨rfl, Option.some.inj (hfound.symm.trans hput)⟩
    · have hother : id ≠ (⟨requirement.document, tenantId⟩ : StoredDocument).dependencyId := hid
      rw [Table.find_put_of_ne _ hother] at hfound
      exact .inl (hprune hfound)

theorem TenantStore.put (hstore : TenantStore platform ρ sink get owned)
    {requirement : NewRequirement} (hwritable : requirement.document.Writable platform)
    {tenantId : Option JsString} {now : Instant} {s s' : ρ}
    (hput : sink.putFor requirement tenantId now s = (.ok (), s')) {id : JsString}
    {owner : Option JsString} {document : RequirementDocument}
    (howned : owned s' id owner document) :
    owned s id owner document ∨
      owner = tenantId ∧ document.terms = requirement.document.terms := by
  have hnormal : requirement.document.normalized.toJson.DistinctKeys := by
    rw [← hwritable.normalize_toJson]
    exact (wellFormed_normalize hwritable.wellFormed).distinctKeys
  cases hstore with
  | inMemory maximumEntries =>
      rcases InMemoryRequirementStore.putDocument_cases hput with ⟨-, hkept⟩ | ⟨-, hstored⟩
      · exact .inl (hkept howned)
      · rcases hstored howned with hbefore | ⟨-, hsame⟩
        · exact .inl hbefore
        · cases hsame
          exact .inr ⟨rfl, rfl⟩
  | redis keyPrefix =>
      obtain ⟨htenant, -, expiresAtMs, -, rfl⟩ := RedisX424Store.putDocument_eq_ok hput
      obtain ⟨cell, hcell, hparsed⟩ := howned
      by_cases hid : id = requirement.document.dependencyId
      · subst hid
        rw [Cells.put, Function.update_self] at hcell
        cases hcell
        rw [parseStoredRequirement_stored hwritable htenant, parseHumanRequirement] at hparsed
        cases hread : HumanRequirementSchema platform.dates platform.urls
            requirement.document.normalized.toJson with
        | none =>
            rw [hread] at hparsed
            cases hparsed
        | some result =>
            rw [hread] at hparsed
            cases hparsed
            exact .inr ⟨rfl, terms_of_read hwritable (.refl hnormal) hnormal hread⟩
      · have hne : RedisX424Store.requirementKey keyPrefix id ≠
            RedisX424Store.requirementKey keyPrefix requirement.document.dependencyId :=
          redisKey_inj.not.mpr hid
        rw [Cells.put, Function.update_of_ne hne] at hcell
        exact .inl ⟨cell, hcell, hparsed⟩
  | postgres jsonb =>
      obtain ⟨-, row, expiresAtMs, hrow, -, rfl⟩ :=
        @PostgresX424Store.putDocument_eq_ok _ _ _ _ now _ _ hput
      obtain ⟨cell, hcell, howner, hparsed⟩ := howned
      by_cases hid : id = requirement.document.dependencyId
      · subst hid
        rw [Cells.put, Function.update_self] at hcell
        cases hcell
        obtain ⟨parsed, hjson, hsame⟩ := jsonb.same hrow
        rw [jsonParse_canonicalJson hwritable.wellFormed, hwritable.normalize_toJson] at hjson
        cases hjson
        rw [parseHumanRequirement] at hparsed
        cases hread : HumanRequirementSchema platform.dates platform.urls row with
        | none =>
            rw [hread] at hparsed
            cases hparsed
        | some result =>
            rw [hread] at hparsed
            cases hparsed
            exact .inr ⟨howner.symm, terms_of_read hwritable hsame (hsame.symm.distinctKeys hnormal)
              hread⟩
      · rw [Cells.put, Function.update_of_ne hid] at hcell
        exact .inl ⟨cell, hcell, howner, hparsed⟩

theorem TenantStore.refused (hstore : TenantStore platform ρ sink get owned)
    {requirement : NewRequirement} {tenantId : Option JsString} {now : Instant} {s s' : ρ}
    {error : JsError} (hput : sink.putFor requirement tenantId now s = (.error error, s'))
    {id : JsString} {owner : Option JsString} {document : RequirementDocument}
    (howned : owned s' id owner document) : owned s id owner document := by
  cases hstore with
  | inMemory maximumEntries =>
      rcases InMemoryRequirementStore.putDocument_cases hput with ⟨-, hkept⟩ | ⟨hok, -⟩
      · exact hkept howned
      · cases hok
  | redis keyPrefix =>
      cases RedisX424Store.putDocument_eq_error hput
      exact howned
  | postgres jsonb =>
      cases @PostgresX424Store.putDocument_eq_error _ _ _ _ now _ _ _ hput
      exact howned

theorem TenantStore.delete (hstore : TenantStore platform ρ sink get owned) {s : ρ}
    {dependencyId id : JsString} {now : Instant} {owner : Option JsString}
    {document : RequirementDocument}
    (howned : owned (sink.delete dependencyId now s).2 id owner document) :
    owned s id owner document := by
  cases hstore with
  | inMemory maximumEntries => exact find_of_erase howned
  | redis keyPrefix =>
      obtain ⟨cell, hcell, hparsed⟩ := howned
      simp only [RedisX424Store.documents, RedisX424Store.deleteDocument] at hcell
      split_ifs at hcell
      · exact ⟨cell, hcell, hparsed⟩
      · exact ⟨cell, erase_eq_some hcell, hparsed⟩
  | postgres jsonb =>
      obtain ⟨cell, hcell, hread⟩ := howned
      exact ⟨cell, erase_eq_some hcell, hread⟩

theorem TenantStore.read (hstore : TenantStore platform ρ sink get owned) {s : ρ}
    {dependencyId id : JsString} {checkedAt now : Instant} {owner : Option JsString}
    {document : RequirementDocument}
    (howned : owned (get dependencyId checkedAt now s).2 id owner document) :
    owned s id owner document := by
  cases hstore with
  | inMemory maximumEntries =>
      simp only [InMemoryRequirementStore.getDocument,
        InMemoryRequirementStore.getDocumentEntry] at howned
      split at howned
      · exact howned
      · split_ifs at howned
        · exact find_of_erase howned
        · exact howned
  | redis keyPrefix =>
      obtain ⟨cell, hcell, hparsed⟩ := howned
      refine ⟨cell, ?_, hparsed⟩
      unfold RedisX424Store.getDocument at hcell
      split_ifs at hcell
      · exact hcell
      · split at hcell
        · exact hcell
        · split at hcell
          · exact hcell
          · split_ifs at hcell
            · exact erase_eq_some hcell
            · exact hcell
  | postgres jsonb =>
      obtain ⟨cell, hcell, hread⟩ := howned
      refine ⟨cell, ?_, hread⟩
      unfold PostgresX424Store.getDocument at hcell
      split at hcell
      · exact hcell
      · split_ifs at hcell
        · exact erase_eq_some hcell
        · exact hcell

end Stores

/-! ## Authenticated requests -/

def IssuanceFailure.ofAuthorization (error : Auth.IssuanceAuthorizationError) : IssuanceFailure :=
  .unauthorized error.code

/-- One request, and what the authenticator returns for it unless it throws. -/
structure AuthenticatedCall (numbers : JsNumbers) where
  call : IssuanceCall numbers
  wellFormed : call.body.WellFormed numbers
  caller : Except IssuanceFailure Json

structure AuthenticatedOptions extends IssuanceOptions where
  urls : UrlParser
  profile : DeploymentProfile

section Authenticated

variable (options : AuthenticatedOptions)

def authorizeCaller (caller : Except IssuanceFailure Json) (body : IssuanceBody) :
    Except IssuanceFailure JsString := do
  let input ← caller
  let principal ← (Auth.validateIssuancePrincipal input).mapError .ofAuthorization
  (Auth.authorizeIssuance options.urls options.platform.upper principal body.terms
    options.profile).mapError .ofAuthorization
  .ok (Auth.tenantStateId options.platform.createHash principal)

def AuthenticatedCall.toIssuanceCall (issued : AuthenticatedCall options.platform.numbers) :
    IssuanceCall options.platform.numbers :=
  { issued.call with authorize := some (authorizeCaller options issued.caller) }

inductive IssuanceEvent (numbers : JsNumbers) where
  | issue (issued : AuthenticatedCall numbers)
  | get (dependencyId : JsString) (checkedAt now : Instant)
  | delete (dependencyId : JsString) (now : Instant)

variable {ρ σ : Type} (sink : RequirementSink ρ)
  (get : JsString → Instant → Instant → ρ → Except JsError (Option RequirementDocument) × ρ)
  (nonceStore : NonceStore σ)

def issuanceMachine : Machine (ρ × σ) (IssuanceEvent options.platform.numbers) where
  step
    | (requirements, nonces), .issue issued =>
        some (requirementsRoute options.toIssuanceOptions (issued.toIssuanceCall options) sink
          nonceStore requirements nonces).2
    | (requirements, nonces), .get dependencyId checkedAt now =>
        some ((get dependencyId checkedAt now requirements).2, nonces)
    | (requirements, nonces), .delete dependencyId now =>
        some ((sink.delete dependencyId now requirements).2, nonces)

def IsCaller (events : List (IssuanceEvent options.platform.numbers))
    (principal : Auth.AnyIssuancePrincipal) : Prop :=
  ∃ issued caller, .issue issued ∈ events ∧ issued.caller = .ok caller ∧
    Auth.validateIssuancePrincipal caller = .ok principal

/-- What is stored under an id was issued by a caller of that tenant with grants for it. -/
structure IssuanceAuthorized (owned : ρ → JsString → Option JsString → RequirementDocument → Prop)
    (events : List (IssuanceEvent options.platform.numbers)) (requirements : ρ) : Prop where
  issuer : ∀ {id tenantId document}, owned requirements id tenantId document →
    ∃ principal, IsCaller options events (.granted principal) ∧
      tenantId = some (Auth.tenantStateId options.platform.createHash (.granted principal)) ∧
      principal.Covers options.urls document.terms ∧ ¬ principal.HasEmptyGrant
  /-- Callers share a tenant exactly when issuer and subject are the same well-formed texts. -/
  tenant : ∀ {principal other}, IsCaller options events principal →
    IsCaller options events other →
      (Auth.tenantStateId options.platform.createHash principal =
        Auth.tenantStateId options.platform.createHash other ↔
          principal.wellFormedIdentity = other.wellFormedIdentity)
  /-- With an empty grant nothing is issued and nothing changes, in whatever state. -/
  empty : ∀ {issued : AuthenticatedCall options.platform.numbers} {caller principal},
    issued.caller = .ok caller →
    Auth.validateIssuancePrincipal caller = .ok (.granted principal) →
      principal.HasEmptyGrant → ∀ requirements nonces, ∃ answer, ¬ answer.IsCreated ∧
        requirementsRoute options.toIssuanceOptions (issued.toIssuanceCall options) sink nonceStore
          requirements nonces = (answer, requirements, nonces)

end Authenticated

section Invariant

variable {options : AuthenticatedOptions}
  {issued : AuthenticatedCall options.platform.numbers} {body : IssuanceBody}
  {tenantId : Option JsString}

theorem mapError_eq_ok {ε ε' α : Type} {f : ε → ε'} {x : Except ε α} {a : α} :
    x.mapError f = .ok a ↔ x = .ok a := by
  cases x with
  | error e => exact iff_of_false (fun h => by cases h) fun h => by cases h
  | ok b => exact ⟨fun h => by cases h; rfl, fun h => by cases h; rfl⟩

theorem issuanceTenant_authorized (hprofile : options.profile ≠ .devLocal)
    (h : issuanceTenant options.toIssuanceOptions (issued.toIssuanceCall options) body =
      .ok tenantId) :
    ∃ caller principal, issued.caller = .ok caller ∧
      Auth.validateIssuancePrincipal caller = .ok (.granted principal) ∧
      tenantId = some (Auth.tenantStateId options.platform.createHash (.granted principal)) ∧
      principal.Covers options.urls
        { body.terms with method := options.platform.upper body.method } ∧
      ¬ principal.HasEmptyGrant := by
  have hauthorize : (authorizeCaller options issued.caller body).map some = .ok tenantId := h
  cases hcaller : authorizeCaller options issued.caller body with
  | error failure =>
      rw [hcaller] at hauthorize
      cases hauthorize
  | ok tenant =>
      rw [hcaller] at hauthorize
      cases hauthorize
      obtain ⟨caller, hinput, hcaller⟩ := bind_eq_ok.mp hcaller
      obtain ⟨validated, hvalidated, hcaller⟩ := bind_eq_ok.mp hcaller
      obtain ⟨_, hallowed, hcaller⟩ := bind_eq_ok.mp hcaller
      cases hcaller
      obtain ⟨principal, rfl, hcovers, hgrants⟩ :=
        Auth.authorizeIssuance_eq_ok hprofile (mapError_eq_ok.mp hallowed)
      exact ⟨caller, principal, hinput, mapError_eq_ok.mp hvalidated, rfl, hcovers, hgrants⟩

theorem draft_terms {draft : NewRequirement}
    (hdraft : draftRequirement options.toIssuanceOptions (issued.toIssuanceCall options) body =
      .ok (draft, tenantId)) :
    draft.document.terms = { body.terms with method := options.platform.upper body.method } := by
  obtain ⟨_, _, -, -, hdocument⟩ := newRequirement_eq_ok.mp (draftRequirement_eq_ok.mp hdraft).2
  obtain ⟨-, -, -, _, -, hcreated⟩ := createHumanRequirement_eq_ok.mp hdocument
  rw [hcreated]
  rfl

theorem draft_writable {draft : NewRequirement}
    (hbody : CreateSchema options.platform.urls issued.call.body = some body)
    (hdraft : draftRequirement options.toIssuanceOptions (issued.toIssuanceCall options) body =
      .ok (draft, tenantId)) : draft.document.Writable options.platform := by
  have hvalid := CreateSchema_valid issued.wellFormed hbody
  obtain ⟨_, _, hmaterial, -, hdocument⟩ :=
    newRequirement_eq_ok.mp (draftRequirement_eq_ok.mp hdraft).2
  exact issued_writable hvalid (issuanceMaterial_wellFormed hvalid hmaterial) hdocument

variable {ρ σ : Type} {sink : RequirementSink ρ} {nonceStore : NonceStore σ}
  {get : JsString → Instant → Instant → ρ → Except JsError (Option RequirementDocument) × ρ}
  {owned : ρ → JsString → Option JsString → RequirementDocument → Prop}

theorem TenantStore.storeRequirement (hstore : TenantStore options.platform ρ sink get owned)
    {call : IssuanceCall options.platform.numbers} {draft : NewRequirement}
    (hwritable : draft.document.Writable options.platform) {requirements : ρ} {nonces : σ}
    {id : JsString} {owner : Option JsString} {document : RequirementDocument}
    (howned : owned (storeRequirement options.toIssuanceOptions call sink nonceStore draft tenantId
      requirements nonces).2.1 id owner document) :
    owned requirements id owner document ∨
      owner = tenantId ∧ document.terms = draft.document.terms := by
  unfold X424.storeRequirement at howned
  cases hput : sink.putFor draft tenantId call.storedAt requirements with
  | mk reply requirements' =>
      rw [hput] at howned
      cases reply with
      | error error =>
          exact .inl (hstore.refused hput howned)
      | ok _ =>
          refine hstore.put hwritable hput ?_
          cases hregister : registerRequirement options.toIssuanceOptions call nonceStore
              draft.document nonces with
          | mk registered nonces' =>
              simp only [hregister] at howned
              cases registered with
              | error error => exact hstore.delete howned
              | ok _ =>
                  cases hchallenge : requirementChallenge options.toIssuanceOptions draft with
                  | error error =>
                      simp only [hchallenge] at howned
                      exact howned
                  | ok challenge =>
                      simp only [hchallenge] at howned
                      exact howned

theorem TenantStore.issue (hstore : TenantStore options.platform ρ sink get owned)
    (hprofile : options.profile ≠ .devLocal) {requirements : ρ} {nonces : σ} {id : JsString}
    {owner : Option JsString} {document : RequirementDocument}
    (howned : owned (requirementsRoute options.toIssuanceOptions (issued.toIssuanceCall options)
      sink nonceStore requirements nonces).2.1 id owner document) :
    owned requirements id owner document ∨
      ∃ caller principal, issued.caller = .ok caller ∧
        Auth.validateIssuancePrincipal caller = .ok (.granted principal) ∧
        owner = some (Auth.tenantStateId options.platform.createHash (.granted principal)) ∧
        principal.Covers options.urls document.terms ∧ ¬ principal.HasEmptyGrant := by
  obtain ⟨body, draft, tenantId, hbody, hdraft, hroute⟩ | ⟨-, answer, -, hroute⟩ :=
    requirementsRoute_cases options.toIssuanceOptions (issued.toIssuanceCall options) sink
      nonceStore requirements nonces
  · rw [hroute] at howned
    rcases hstore.storeRequirement (draft_writable hbody hdraft) howned with hbefore | ⟨rfl, hterms⟩
    · exact .inl hbefore
    · obtain ⟨caller, principal, hcaller, hvalidated, htenant, hcovers, hgrants⟩ :=
        issuanceTenant_authorized hprofile (draftRequirement_eq_ok.mp hdraft).1
      rw [hterms, draft_terms hdraft]
      exact .inr ⟨caller, principal, hcaller, hvalidated, htenant, hcovers, hgrants⟩
  · rw [hroute] at howned
    exact .inl howned

theorem requirementsRoute_empty (hprofile : options.profile ≠ .devLocal) {caller : Json}
    {principal : Auth.IssuancePrincipal} (hcaller : issued.caller = .ok caller)
    (hvalidated : Auth.validateIssuancePrincipal caller = .ok (.granted principal))
    (hempty : principal.HasEmptyGrant) (requirements : ρ) (nonces : σ) :
    ∃ answer, ¬ answer.IsCreated ∧
      requirementsRoute options.toIssuanceOptions (issued.toIssuanceCall options) sink nonceStore
        requirements nonces = (answer, requirements, nonces) := by
  obtain ⟨body, draft, tenantId, -, hdraft, -⟩ | ⟨-, answer, hanswer, hroute⟩ :=
    requirementsRoute_cases options.toIssuanceOptions (issued.toIssuanceCall options) sink
      nonceStore requirements nonces
  · obtain ⟨caller', principal', hcaller', hvalidated', -, -, hgrants⟩ :=
      issuanceTenant_authorized hprofile (draftRequirement_eq_ok.mp hdraft).1
    cases hcaller.symm.trans hcaller'
    cases hvalidated.symm.trans hvalidated'
    exact absurd hempty hgrants
  · exact ⟨answer, hanswer, hroute⟩

end Invariant

/-! ## Runs -/

section Runs

variable {options : AuthenticatedOptions} {ρ σ : Type} {sink : RequirementSink ρ}
  {get : JsString → Instant → Instant → ρ → Except JsError (Option RequirementDocument) × ρ}
  {nonceStore : NonceStore σ} {owned : ρ → JsString → Option JsString → RequirementDocument → Prop}
  {events : List (IssuanceEvent options.platform.numbers)} {s t : ρ × σ}

theorem issuanceMachine_step (hstore : TenantStore options.platform ρ sink get owned)
    (hprofile : options.profile ≠ .devLocal) {event : IssuanceEvent options.platform.numbers}
    (hstep : (issuanceMachine options sink get nonceStore).step s event = some t) {id : JsString}
    {owner : Option JsString} {document : RequirementDocument}
    (howned : owned t.1 id owner document) :
    owned s.1 id owner document ∨
      ∃ principal, IsCaller options [event] (.granted principal) ∧
        owner = some (Auth.tenantStateId options.platform.createHash (.granted principal)) ∧
        principal.Covers options.urls document.terms ∧ ¬ principal.HasEmptyGrant := by
  obtain ⟨requirements, nonces⟩ := s
  cases event with
  | issue issued =>
      cases hstep
      rcases hstore.issue hprofile howned with hbefore |
        ⟨caller, principal, hcaller, hvalidated, hauthorized⟩
      · exact .inl hbefore
      · exact .inr ⟨principal,
          ⟨issued, caller, List.mem_singleton_self _, hcaller, hvalidated⟩, hauthorized⟩
  | get dependencyId checkedAt now =>
      cases hstep
      exact .inl (hstore.read howned)
  | delete dependencyId now =>
      cases hstep
      exact .inl (hstore.delete howned)

/-- Every request, read and deletion is taken in every state. -/
theorem issuanceMachine_runs (s : ρ × σ)
    (events : List (IssuanceEvent options.platform.numbers)) :
    ∃ t, (issuanceMachine options sink get nonceStore).run s events = some t := by
  induction events generalizing s with
  | nil => exact ⟨s, rfl⟩
  | cons event events ih =>
      have hstep : ∃ u, (issuanceMachine options sink get nonceStore).step s event = some u := by
        cases event <;> exact ⟨_, rfl⟩
      obtain ⟨u, hu⟩ := hstep
      obtain ⟨t, ht⟩ := ih u
      exact ⟨t, Machine.run_cons_some _ |>.mpr ⟨u, hu, ht⟩⟩

theorem IsCaller.mono {later : List (IssuanceEvent options.platform.numbers)}
    {principal : Auth.AnyIssuancePrincipal} (h : IsCaller options events principal)
    (hsubset : events ⊆ later) : IsCaller options later principal := by
  obtain ⟨issued, caller, hevent, hcaller⟩ := h
  exact ⟨issued, caller, hsubset hevent, hcaller⟩

theorem issuanceMachine_run (hstore : TenantStore options.platform ρ sink get owned)
    (hprofile : options.profile ≠ .devLocal)
    (hrun : (issuanceMachine options sink get nonceStore).run s events = some t) {id : JsString}
    {owner : Option JsString} {document : RequirementDocument}
    (howned : owned t.1 id owner document) :
    owned s.1 id owner document ∨
      ∃ principal, IsCaller options events (.granted principal) ∧
        owner = some (Auth.tenantStateId options.platform.createHash (.granted principal)) ∧
        principal.Covers options.urls document.terms ∧ ¬ principal.HasEmptyGrant := by
  induction events generalizing s with
  | nil =>
      cases hrun
      exact .inl howned
  | cons event events ih =>
      obtain ⟨u, hstep, hrest⟩ := Machine.run_cons_some _ |>.mp hrun
      rcases ih hrest with hbefore | ⟨principal, hcaller, hauthorized⟩
      · rcases issuanceMachine_step hstore hprofile hstep hbefore with
          hfirst | ⟨principal, hcaller, hauthorized⟩
        · exact .inl hfirst
        · exact .inr ⟨principal, hcaller.mono (List.cons_subset_cons _ (List.nil_subset _)),
            hauthorized⟩
      · exact .inr ⟨principal, hcaller.mono (List.subset_cons_self _ _), hauthorized⟩

def callerPreimages (options : AuthenticatedOptions)
    (events : List (IssuanceEvent options.platform.numbers)) : Set (List UInt8) :=
  {bytes | ∃ principal, IsCaller options events principal ∧
    bytes = utf8 (Auth.tenantPreimage principal)}

theorem IssuanceAuthorized.of_run (hstore : TenantStore options.platform ρ sink get owned)
    (hprofile : options.profile ≠ .devLocal)
    (hhash : Set.InjOn options.platform.createHash (callerPreimages options events))
    (hempty : ∀ id tenantId document, ¬ owned s.1 id tenantId document)
    (hrun : (issuanceMachine options sink get nonceStore).run s events = some t) :
    IssuanceAuthorized options sink nonceStore owned events t.1 := by
  refine ⟨fun {id tenantId document} howned => ?_, fun {principal other} hp hq => ?_,
    fun {issued caller principal} hcaller hvalidated hgrant requirements nonces => ?_⟩
  · rcases issuanceMachine_run hstore hprofile hrun howned with hbefore | hissued
    · exact absurd hbefore (hempty id tenantId document)
    · exact hissued
  · exact Auth.tenantStateId_eq_iff fun h =>
      hhash ⟨principal, hp, rfl⟩ ⟨other, hq, rfl⟩ h
  · exact requirementsRoute_empty hprofile hcaller hvalidated hgrant requirements nonces

/-- In every state that is reached from empty stores each requirement is authorized. -/
theorem issuance_authorized (hstore : TenantStore options.platform ρ sink get owned)
    (hprofile : options.profile ≠ .devLocal)
    (hhash : Set.InjOn options.platform.createHash (callerPreimages options events))
    (hempty : ∀ id tenantId document, ¬ owned s.1 id tenantId document)
    (hrun : (issuanceMachine options sink get nonceStore).run s events = some t) :
    IssuanceAuthorized options sink nonceStore owned events t.1 :=
  .of_run hstore hprofile hhash hempty hrun

end Runs

/-! ## One issuer -/

namespace GrantedIssuer

open FiveKinds (keyPrefix)

def webUrl (pathname : JsString) : WebUrl where
  href := js "https://a.example" ++ pathname
  origin := js "https://a.example"
  protocol := js "https:"
  username := []
  password := []
  pathname := pathname
  search := []
  hash := []

def urls : UrlParser where
  parse text :=
    if text = js "https://a.example/x" then some (webUrl (js "/x"))
    else if text = js "https://a.example" then some (webUrl (js "/"))
    else none
  referrer _ := none
  href_printable h := by
    split_ifs at h <;> cases h <;> exact List.all_eq_true.mp (by decide)
  pathname_https h _ := by
    split_ifs at h <;> cases h <;> rfl

def options : AuthenticatedOptions where
  toIssuanceOptions := LongRequest.options
  urls := urls
  profile := .prodHa

def texts (text : JsString) : Json := .array [.string text]

def caller : Json :=
  .object [(js "subject", .string (js "shop")), (js "allowedPurposes", texts (js "p")),
    (js "allowedAudiences", texts (js "https://a.example")),
    (js "allowedHttpMethods", texts (js "POST")), (js "allowedMethods", texts (js "world:orb")),
    (js "allowedResources", .array [.object [(js "origin", .string (js "https://a.example")),
      (js "pathPrefix", .string (js "/x"))]])]

def body : IssuanceBody :=
  { LongRequest.body with providerRequests := some [] }

def sentFields : CreateField → Option Json
  | .accepts => some (.array [LongRequest.accepted.toJson])
  | .audience => some (.string body.audience)
  | .binding => some body.binding.toJson
  | .body => none
  | .bodyInput => none
  | .method => some (.string body.method)
  | .providerRequests => some (.object [])
  | .purpose => some (.string body.purpose)
  | .ttlSeconds => none
  | .uri => some (.string body.uri)

def call : IssuanceCall options.platform.numbers :=
  { LongRequest.call with body := createShape.ofFields sentFields }

theorem call_wellFormed : call.body.WellFormed options.platform.numbers := by
  refine ObjectShape.wellFormed_ofFields fun k value hvalue => ?_
  cases k with
  | accepts =>
      cases hvalue
      have haccepted : LongRequest.accepted.toJson.Canonical options.platform.numbers :=
        canonical_methodRequirement fun _ h => (by cases h)
      exact .array (List.forall_mem_singleton.mpr haccepted.wellFormed)
  | binding =>
      cases hvalue
      have hbinding : body.binding.toJson.Canonical options.platform.numbers := canonical_binding _
      exact hbinding.wellFormed
  | providerRequests =>
      cases hvalue
      exact .object List.nodup_nil (List.forall_mem_nil _)
  | body => cases hvalue
  | bodyInput => cases hvalue
  | ttlSeconds => cases hvalue
  | audience => cases hvalue; exact .string _
  | method => cases hvalue; exact .string _
  | purpose => cases hvalue; exact .string _
  | uri => cases hvalue; exact .string _

def issued : AuthenticatedCall options.platform.numbers where
  call := call
  wellFormed := call_wellFormed
  caller := .ok caller

def events : List (IssuanceEvent options.platform.numbers) :=
  [.issue issued, .get call.dependencyId 1000 1000]

def sink : RequirementSink RedisDb :=
  RedisX424Store.documents options.platform.toRuntime keyPrefix

def Owned (db : RedisDb) (id : JsString) (tenantId : Option JsString)
    (document : RequirementDocument) : Prop :=
  ∃ cell, db (RedisX424Store.requirementKey keyPrefix id) = some cell ∧
    RedisX424Store.parseStoredRequirement options.platform.toRuntime cell.value =
      .ok (document, tenantId)

def machine : Machine (RedisDb × NonceEntries) (IssuanceEvent options.platform.numbers) :=
  issuanceMachine options sink (RedisX424Store.getDocument options.platform.toRuntime keyPrefix)
    inMemoryNonceStore

def HoldsIssued (db : RedisDb) : Prop :=
  ∃ tenantId document, Owned db call.dependencyId tenantId document

theorem empty_owns (id : JsString) (tenantId : Option JsString) (document : RequirementDocument) :
    ¬ Owned Cells.empty id tenantId document := by
  rintro ⟨_, hcell, -⟩
  cases hcell

theorem one_caller {events : List (IssuanceEvent options.platform.numbers)}
    (hevents : ∀ other, .issue other ∈ events → other = issued) :
    (callerPreimages options events).Subsingleton := by
  have hcaller : ∀ principal, IsCaller options events principal →
      Auth.validateIssuancePrincipal caller = .ok principal := by
    rintro principal ⟨other, input, hevent, hinput, hvalidated⟩
    cases hevents other hevent
    cases hinput
    exact hvalidated
  rintro _ ⟨principal, hp, rfl⟩ _ ⟨other, hq, rfl⟩
  cases (hcaller principal hp).symm.trans (hcaller other hq)
  rfl

theorem run_holds {events : List (IssuanceEvent options.platform.numbers)}
    (hread : (machine.run (Cells.empty, inMemoryNonceStore.empty) events).map (fun s =>
      (s.1 (RedisX424Store.requirementKey keyPrefix call.dependencyId)).map fun cell =>
        (RedisX424Store.parseStoredRequirement options.platform.toRuntime cell.value).toBool) =
      some (some true)) :
    ∃ s, machine.run (Cells.empty, inMemoryNonceStore.empty) events = some s ∧ HoldsIssued s.1 := by
  obtain ⟨s, hrun, hs⟩ := Option.map_eq_some_iff.mp hread
  obtain ⟨cell, hcell, hparsed⟩ := Option.map_eq_some_iff.mp hs
  cases hresult : RedisX424Store.parseStoredRequirement options.platform.toRuntime cell.value with
  | error error =>
      rw [hresult] at hparsed
      cases hparsed
  | ok stored => exact ⟨s, hrun, stored.2, stored.1, cell, hcell, hresult⟩

end GrantedIssuer

open GrantedIssuer in
theorem issuance_authorized_granted :
    ∃ s, machine.run (Cells.empty, inMemoryNonceStore.empty) events = some s ∧ HoldsIssued s.1 ∧
      IssuanceAuthorized options sink inMemoryNonceStore Owned events s.1 := by
  obtain ⟨s, hrun, hholds⟩ := @run_holds events (by decide +kernel)
  refine ⟨s, hrun, hholds, issuance_authorized (.redis FiveKinds.keyPrefix) (by decide)
    ((one_caller fun other hother => ?_).injOn _) empty_owns hrun⟩
  rcases List.mem_cons.mp hother with hfirst | hsecond
  · exact IssuanceEvent.issue.inj hfirst
  · cases List.mem_singleton.mp hsecond

namespace Surrogates

def principal (subject : Auth.PrincipalText 512) : Auth.AnyIssuancePrincipal :=
  .granted {
    subject := subject
    issuer := none
    allowedPurposes := []
    allowedAudiences := []
    allowedHttpMethods := []
    allowedMethods := []
    allowedResources := [] }

def first : Auth.AnyIssuancePrincipal := principal ⟨[0xD800], by decide⟩

def second : Auth.AnyIssuancePrincipal := principal ⟨[0xDBFF], by decide⟩

end Surrogates

end X424
