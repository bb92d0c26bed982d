import X424.NonceStore
import X424.Validation

/-!
# The verifier service

`X424Service` registers a requirement by putting its nonce into the nonce
store, and satisfies it by consuming that nonce before it asks the provider.
What the provider adapter says is an argument.
-/

namespace X424

open Foundation

structure X424Service where
  catalog : JsString → Option HumanMethodDescriptor
  adapters : List JsString

namespace X424Service

variable (service : X424Service)

/-- The checks that `register` makes for one accepted method. -/
def checkAcceptedMethod
    (validateProviderRequest : HumanMethodRequirement → Except JsError Unit)
    (acceptedMethod : HumanMethodRequirement) : Except JsError Unit :=
  let key := methodKey acceptedMethod.providerId acceptedMethod.methodId
  match service.catalog key with
  | none => .error ⟨js "Human method is unknown or disabled: " ++ key⟩
  | some descriptor =>
      if descriptor.status ≠ .enabled then
        .error ⟨js "Human method is unknown or disabled: " ++ key⟩
      else if descriptor.version ≠ acceptedMethod.descriptorVersion then
        .error ⟨js "Human method descriptor version does not match: " ++ key⟩
      else if !service.adapters.contains acceptedMethod.providerId then
        .error ⟨js "No adapter for provider: " ++ acceptedMethod.providerId⟩
      else validateProviderRequest acceptedMethod

/-- Everything that `register` checks before it puts the nonce. -/
def checkRegistration (requirement : HumanRequirement) (now : Instant)
    (validateProviderRequest : HumanMethodRequirement → Except JsError Unit) :
    Except JsError Unit := do
  assertRequirementCurrent requirement now
  let acceptedKeys := requirement.accepts.map fun accepted =>
    methodKey accepted.providerId accepted.methodId
  match requirement.providerRequestKeys.find? fun key => !acceptedKeys.contains key with
  | some key =>
      .error ⟨js "Provider request material names an unaccepted method: " ++ key⟩
  | none =>
      requirement.accepts.forM (service.checkAcceptedMethod validateProviderRequest)

/-- `checkedAt` is the time `register` reads, `now` that of the store's step. -/
def register {σ : Type} (nonceStore : NonceStore σ) (requirement : HumanRequirement)
    (checkedAt now : Instant)
    (validateProviderRequest : HumanMethodRequirement → Except JsError Unit) (s : σ) :
    Except JsError Unit × σ :=
  match service.checkRegistration requirement checkedAt validateProviderRequest with
  | .error error => (.error error, s)
  | .ok () => nonceStore.put requirement.dependencyId requirement.nonce requirement.expiresAt now s

/-- What `satisfy` checks before it consumes the nonce. -/
def checkSatisfaction (requirement : HumanRequirement) (proof : HumanProofSubmission)
    (challengeCheckedAt : Instant) :
    Except JsError (HumanMethodRequirement × HumanMethodDescriptor) := do
  assertRequirementCurrent requirement challengeCheckedAt
  let acceptedMethod ← acceptedMethodForProof requirement proof
  match service.catalog (methodKey proof.providerId proof.methodId) with
  | none => .error ⟨js "Human method is unknown or disabled"⟩
  | some descriptor =>
      if descriptor.status ≠ .enabled then
        .error ⟨js "Human method is unknown or disabled"⟩
      else if descriptor.version ≠ acceptedMethod.descriptorVersion then
        .error ⟨js "Human method descriptor version does not match"⟩
      else if !service.adapters.contains proof.providerId then
        .error ⟨js "No adapter for provider: " ++ proof.providerId⟩
      else .ok (acceptedMethod, descriptor)

/-- `satisfy` up to the point where it has consumed the nonce; the external
verification and the signing come after. -/
def beginSatisfy {σ : Type} (nonceStore : NonceStore σ) (requirement : HumanRequirement)
    (proof : HumanProofSubmission) (challengeCheckedAt now : Instant) (s : σ) :
    Except JsError (HumanMethodRequirement × HumanMethodDescriptor) × σ :=
  match service.checkSatisfaction requirement proof challengeCheckedAt with
  | .error error => (.error error, s)
  | .ok admitted =>
      match nonceStore.consume requirement.dependencyId requirement.nonce challengeCheckedAt
          now s with
      | (.ok true, s) => (.ok admitted, s)
      | (.ok false, s) =>
          (.error ⟨js "Human dependency nonce is unknown, expired, or already used"⟩, s)
      | (.error error, s) => (.error error, s)

end X424Service

end X424
