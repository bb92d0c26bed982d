import X424.ChallengeSize
import X424.Schemas.Issuance

/-!
# The client of a managed verifier

`ManagedVerifierClient` of `managed.ts`: the body that `issueRequirement`
sends, and what it reads of the answer.
-/

namespace X424

open Canonical

namespace ManagedVerifierClient

/-! ## Requests -/

def wireBodyInput : RequestBodyDigestInput → Json
  | .absent => kindShape.ofFields fun | .kind => some (.string (js "absent"))
  | .empty => kindShape.ofFields fun | .kind => some (.string (js "empty"))
  | .json value => jsonBodyShape.ofFields fun
      | .kind => some (.string (js "json"))
      | .value => some value
  | .opaqueBytes bytes => opaqueBodyShape.ofFields fun
      | .bytesBase64url => some (.string (encodeStrictBase64Url bytes))
      | .kind => some (.string (js "opaque"))
  | .precomputed bodyDigest => precomputedBodyShape.ofFields fun
      | .bodyDigest => some (.string bodyDigest)
      | .kind => some (.string (js "precomputed"))
  | .stream => kindShape.ofFields fun | .kind => some (.string (js "stream"))

/-- The members but `bodyInput` are those of the input. -/
def issuanceFields (input : RequirementInput) (bodyInput : Option Json) :
    CreateField → Option Json
  | .accepts => some (.array (input.accepts.map HumanMethodRequirement.toJson))
  | .audience => some (.string input.audience)
  | .binding => some input.binding.toJson
  | .body => none
  | .bodyInput => bodyInput
  | .method => some (.string input.method)
  | .providerRequests => input.providerRequests.map .object
  | .purpose => some (.string input.purpose)
  | .ttlSeconds => some (.number input.ttlSeconds)
  | .uri => some (.string input.uri)

/-- `{ ...input, bodyInput: wireBodyInput(input.bodyInput) }`. -/
def issuanceJson (input : RequirementInput) : Json :=
  createShape.ofFields (issuanceFields input (some (wireBodyInput input.bodyInput)))

def requestBody (numbers : JsNumbers) (input : RequirementInput) : JsString :=
  stringify numbers (issuanceJson input)

/-! ## Answers -/

inductive AnswerField where
  | requirement
  | x424Transport
  deriving DecidableEq

def answerShape : ObjectShape AnswerField where
  fields := [.requirement, .x424Transport]
  name
    | .requirement => js "requirement"
    | .x424Transport => js "x424Transport"
  complete := by intro k; cases k <;> decide
  sorted := by decide
  name_ne_proto := by intro k; cases k <;> decide

def issuedJson (requirement : RequirementDocument) (transport : X424RequirementTransportMode) :
    Json :=
  answerShape.ofFields fun
    | .requirement => some requirement.toJson
    | .x424Transport => some (.string transport.text)

def issuedText (numbers : JsNumbers) (requirement : RequirementDocument)
    (transport : X424RequirementTransportMode) : JsString :=
  stringify numbers (issuedJson requirement transport)

def readIssued (runtime : Runtime) (text : JsString) : Except JsError RequirementDocument :=
  match jsonParse runtime.numbers text with
  | none => .error ⟨js "Managed verifier returned invalid JSON"⟩
  | some value =>
      match memberOf (js "requirement") value with
      | none => .error ⟨js "Managed verifier returned an invalid requirement response"⟩
      | some requirement => parseHumanRequirement runtime requirement

theorem readIssued_issuedText {runtime : Runtime} {requirement : RequirementDocument}
    (h : requirement.toJson.WellFormed runtime.numbers)
    (transport : X424RequirementTransportMode) :
    readIssued runtime (issuedText runtime.numbers requirement transport) =
      parseHumanRequirement runtime requirement.toJson := by
  have hanswer : (issuedJson requirement transport).WellFormed runtime.numbers := by
    refine ObjectShape.wellFormed_ofFields fun k value hvalue => ?_
    cases k with
    | requirement =>
        cases hvalue
        exact h
    | x424Transport =>
        cases hvalue
        exact .string _
  have hmember : memberOf (js "requirement") (issuedJson requirement transport) =
      some requirement.toJson :=
    @memberOf_ofFields _ answerShape _ .requirement
  simp only [readIssued, issuedText, jsonParse_stringify hanswer, hmember]

end ManagedVerifierClient

end X424
