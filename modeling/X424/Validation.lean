import X424.Types

/-!
# Checks on requirements and proof submissions

`validation.ts`: what `X424Service` asks of a requirement at the time it uses
it, and how a proof submission selects one of the accepted methods.
-/

namespace X424

open Foundation

def sameText (left right : JsString) : Bool := toWellFormed left == toWellFormed right

def sameBinding (left right : HumanBinding) : Bool :=
  left.kind == right.kind && sameText left.value right.value

def acceptedMethodForProof (requirement : HumanRequirement) (proof : HumanProofSubmission) :
    Except JsError HumanMethodRequirement :=
  if proof.x424Version ≠ x424Version then
    .error ⟨js "Unsupported x424 version: " ++ proof.x424Version⟩
  else if !sameText proof.dependencyId requirement.dependencyId then
    .error ⟨js "Human proof is for another dependency"⟩
  else if !sameBinding proof.binding requirement.binding then
    .error ⟨js "Human proof caller binding does not match"⟩
  else
    match requirement.accepts.find? fun candidate =>
        candidate.providerId == proof.providerId && candidate.methodId == proof.methodId with
    | some accepted => .ok accepted
    | none =>
        .error ⟨js "Human method is not accepted: " ++ methodKey proof.providerId proof.methodId⟩

/-- The condition that `assertRequirementCurrent` throws on when it fails. -/
def HumanRequirement.isCurrent (requirement : HumanRequirement) (now : Instant) : Bool :=
  match requirement.createdAt, requirement.expiresAt with
  | some createdAt, some expiresAt =>
      requirement.x424Version == X424.x424Version && !requirement.dependencyId.isEmpty &&
        !requirement.nonce.isEmpty && !requirement.accepts.isEmpty &&
        createdAt ≤ now && now < expiresAt && createdAt < expiresAt
  | _, _ => false

def assertRequirementCurrent (requirement : HumanRequirement) (now : Instant) :
    Except JsError Unit :=
  if requirement.isCurrent now then .ok ()
  else .error ⟨js "Human requirement is invalid or expired"⟩

end X424
