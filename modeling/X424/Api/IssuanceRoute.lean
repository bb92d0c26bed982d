import X424.ChallengeSize
import X424.RequirementTexts

/-!
# The issuance route

`POST /v1/requirements`: the requirement is stored, its nonce is registered,
and only then is the challenge written.  What the authenticator, the provider
request source and the adapters say is a parameter.
-/

namespace X424

open Foundation

/-- What a provider request source returns; it need not be plain JSON. -/
structure ProviderMaterial (numbers : JsNumbers) where
  members : List (JsString × Json)
  wellFormed : (Json.object members).WellFormed numbers
  plain : Bool

/-- An `IssuanceAuthorizationError` with its code, or another error. -/
inductive IssuanceFailure where
  | unauthorized (code : JsString)
  | thrown (error : JsError)

inductive IssuanceAnswer where
  | created (requirement : RequirementDocument) (challenge : HumanRequiredChallenge)
  | problem (status : Nat) (code : JsString)

def IssuanceAnswer.rejected : IssuanceFailure → IssuanceAnswer
  | .unauthorized code => .problem (if code = js "UNAUTHENTICATED" then 401 else 403) code
  | .thrown _ => .problem 400 (js "REQUIREMENT_REJECTED")

def IssuanceAnswer.IsCreated : IssuanceAnswer → Prop
  | .created _ _ => True
  | .problem _ _ => False

structure IssuanceOptions where
  platform : Platform
  service : X424Service

structure IssuanceCall (numbers : JsNumbers) where
  body : Json
  draws : FreshDraws
  /-- The id of the tenant that may issue this; without an authenticator there is no tenant. -/
  authorize : Option (IssuanceBody → Except IssuanceFailure JsString)
  providerRequests : Option (IssuanceBody → Except JsError (ProviderMaterial numbers))
  validateProviderRequest : RequirementDocument → HumanMethodRequirement → Except JsError Unit
  createdAt : Instant
  storedAt : Instant
  checkedAt : Instant
  registeredAt : Instant
  deletedAt : Instant

section Route

variable (options : IssuanceOptions) (call : IssuanceCall options.platform.numbers)

def issuanceTenant (body : IssuanceBody) : Except IssuanceFailure (Option JsString) :=
  match call.authorize with
  | none => .ok none
  | some authorize => (authorize body).map some

def issuanceMaterial (body : IssuanceBody) : Except JsError (List (JsString × Json) × Bool) :=
  match call.providerRequests, body.providerRequests with
  | some _, some _ => .error ⟨js "Issuer provider requests are disabled for this verifier"⟩
  | some source, none => (source body).map fun material => (material.members, material.plain)
  | none, none => .error ⟨js "Authenticated issuer provider requests are required"⟩
  | none, some members => .ok (members, true)

def IssuanceBody.input (body : IssuanceBody) (bodyInput : Canonical.RequestBodyDigestInput)
    (providerRequests : List (JsString × Json)) : RequirementInput where
  purpose := body.purpose
  method := body.method
  uri := body.uri
  audience := body.audience
  bodyInput := bodyInput
  binding := body.binding
  accepts := body.accepts
  providerRequests := some providerRequests
  ttlSeconds := body.ttlSeconds

def newRequirement (body : IssuanceBody) : Except JsError NewRequirement := do
  let (providerRequests, plain) ← issuanceMaterial options call body
  let bodyInput ← resolveIssuanceBodyInput body.bodyInput body.body
  let document ← createHumanRequirement options.platform (body.input bodyInput providerRequests)
    call.draws call.createdAt
  .ok ⟨document, plain⟩

def draftRequirement (body : IssuanceBody) :
    Except IssuanceFailure (NewRequirement × Option JsString) := do
  let tenantId ← issuanceTenant options call body
  let requirement ← (newRequirement options call body).mapError .thrown
  .ok (requirement, tenantId)

def requirementChallenge (requirement : NewRequirement) : Except JsError HumanRequiredChallenge :=
  if requirement.plain then humanRequiredResponse options.platform.numbers requirement.document
  else .error notPlainJson

variable {ρ σ : Type} (sink : RequirementSink ρ) (nonceStore : NonceStore σ)

def registerRequirement (requirement : RequirementDocument) (nonces : σ) :
    Except JsError Unit × σ :=
  options.service.register nonceStore (requirement.read options.platform.dates) call.checkedAt
    call.registeredAt (call.validateProviderRequest requirement) nonces

/-- The writes; only a failed registration takes the stored requirement back. -/
def storeRequirement (requirement : NewRequirement) (tenantId : Option JsString)
    (requirements : ρ) (nonces : σ) : IssuanceAnswer × ρ × σ :=
  match sink.putFor requirement tenantId call.storedAt requirements with
  | (.error error, requirements) => (.rejected (.thrown error), requirements, nonces)
  | (.ok (), requirements) =>
      match registerRequirement options call nonceStore requirement.document nonces with
      | (.error error, nonces) =>
          (.rejected (.thrown error),
            (sink.delete requirement.document.dependencyId call.deletedAt requirements).2, nonces)
      | (.ok (), nonces) =>
          match requirementChallenge options requirement with
          | .error error => (.rejected (.thrown error), requirements, nonces)
          | .ok challenge => (.created requirement.document challenge, requirements, nonces)

def requirementsRoute (requirements : ρ) (nonces : σ) : IssuanceAnswer × ρ × σ :=
  match CreateSchema options.platform.urls call.body with
  | none => (.problem 400 (js "INVALID_REQUIREMENT"), requirements, nonces)
  | some body =>
      match draftRequirement options call body with
      | .error failure => (.rejected failure, requirements, nonces)
      | .ok (requirement, tenantId) =>
          storeRequirement options call sink nonceStore requirement tenantId requirements nonces

def IssuanceCall.dependencyId {numbers : JsNumbers} (call : IssuanceCall numbers) : JsString :=
  js "x424_dep_" ++ call.draws.randomUuid

end Route

/-! ## What a step does -/

section Steps

variable {options : IssuanceOptions} {call : IssuanceCall options.platform.numbers}

theorem not_isCreated_rejected (failure : IssuanceFailure) :
    ¬ (IssuanceAnswer.rejected failure).IsCreated := by
  cases failure <;> exact not_false

theorem newRequirement_eq_ok {body : IssuanceBody} {requirement : NewRequirement} :
    newRequirement options call body = .ok requirement ↔
      ∃ providerRequests bodyInput,
        issuanceMaterial options call body = .ok (providerRequests, requirement.plain) ∧
        resolveIssuanceBodyInput body.bodyInput body.body = .ok bodyInput ∧
        createHumanRequirement options.platform (body.input bodyInput providerRequests)
          call.draws call.createdAt = .ok requirement.document := by
  constructor
  · intro h
    obtain ⟨⟨providerRequests, plain⟩, hmaterial, h⟩ := bind_eq_ok.mp h
    obtain ⟨bodyInput, hbody, h⟩ := bind_eq_ok.mp h
    obtain ⟨document, hdocument, h⟩ := bind_eq_ok.mp h
    cases h
    exact ⟨providerRequests, bodyInput, hmaterial, hbody, hdocument⟩
  · rintro ⟨providerRequests, bodyInput, hmaterial, hbody, hdocument⟩
    exact bind_eq_ok.mpr ⟨_, hmaterial, bind_eq_ok.mpr ⟨_, hbody, bind_eq_ok.mpr
      ⟨_, hdocument, rfl⟩⟩⟩

theorem draftRequirement_eq_ok {body : IssuanceBody} {requirement : NewRequirement}
    {tenantId : Option JsString} :
    draftRequirement options call body = .ok (requirement, tenantId) ↔
      issuanceTenant options call body = .ok tenantId ∧
        newRequirement options call body = .ok requirement := by
  constructor
  · intro h
    obtain ⟨tenantId, htenant, h⟩ := bind_eq_ok.mp h
    obtain ⟨requirement, hrequirement, h⟩ := bind_eq_ok.mp h
    cases h
    cases hnew : newRequirement options call body with
    | error error =>
        rw [hnew] at hrequirement
        cases hrequirement
    | ok requirement =>
        rw [hnew] at hrequirement
        cases hrequirement
        exact ⟨htenant, rfl⟩
  · rintro ⟨htenant, hnew⟩
    refine bind_eq_ok.mpr ⟨_, htenant, bind_eq_ok.mpr ⟨requirement, ?_, rfl⟩⟩
    rw [hnew]
    rfl

theorem dependencyId_ne_nil : call.dependencyId ≠ [] := by
  unfold IssuanceCall.dependencyId
  exact List.append_ne_nil_of_left_ne_nil (by decide) _

theorem dependencyId_draft {body : IssuanceBody} {requirement : NewRequirement}
    {tenantId : Option JsString}
    (h : draftRequirement options call body = .ok (requirement, tenantId)) :
    requirement.document.dependencyId = call.dependencyId := by
  obtain ⟨_, _, -, -, hdocument⟩ := newRequirement_eq_ok.mp (draftRequirement_eq_ok.mp h).2
  obtain ⟨-, -, -, _, -, hcreated⟩ := createHumanRequirement_eq_ok.mp hdocument
  rw [hcreated]
  rfl

theorem requirementsRoute_cases {ρ σ : Type} (options : IssuanceOptions)
    (call : IssuanceCall options.platform.numbers) (sink : RequirementSink ρ)
    (nonceStore : NonceStore σ) (requirements : ρ) (nonces : σ) :
    (∃ body requirement tenantId, CreateSchema options.platform.urls call.body = some body ∧
      draftRequirement options call body = .ok (requirement, tenantId) ∧
      requirementsRoute options call sink nonceStore requirements nonces =
        storeRequirement options call sink nonceStore requirement tenantId requirements nonces) ∨
    ((∀ body, CreateSchema options.platform.urls call.body = some body →
        ∀ draft, draftRequirement options call body ≠ .ok draft) ∧
      ∃ answer, ¬ answer.IsCreated ∧
        requirementsRoute options call sink nonceStore requirements nonces =
          (answer, requirements, nonces)) := by
  unfold requirementsRoute
  cases hbody : CreateSchema options.platform.urls call.body with
  | none => exact .inr ⟨nofun, .problem 400 (js "INVALID_REQUIREMENT"), not_false, rfl⟩
  | some body =>
      cases hdraft : draftRequirement options call body with
      | error failure =>
          refine .inr ⟨fun other hother draft hok => ?_, _, not_isCreated_rejected failure, ?_⟩
          · rw [← Option.some.inj hother, hdraft] at hok
            cases hok
          · simp only [hdraft]
      | ok draft => exact .inl ⟨body, draft.1, draft.2, rfl, hdraft, by simp only [hdraft]⟩

end Steps

end X424
