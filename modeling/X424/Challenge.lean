import X424.HttpClient
import X424.ResultToken
import X424.Schemas.Documents

/-!
# Challenges

`http.ts` and `http-client.ts`: the 424 answer that carries a requirement in a
header or in its problem body, and the client that takes it out again.
-/

namespace X424

/-! ## Problem bodies -/

inductive ProblemField where
  | dependencyId
  | detail
  | requirement
  | status
  | title
  | type
  | x424Transport
  deriving DecidableEq

def problemShape : ObjectShape ProblemField where
  fields := [.dependencyId, .detail, .requirement, .status, .title, .type, .x424Transport]
  name
    | .dependencyId => js "dependencyId"
    | .detail => js "detail"
    | .requirement => js "requirement"
    | .status => js "status"
    | .title => js "title"
    | .type => js "type"
    | .x424Transport => js "x424Transport"
  complete := by intro k; cases k <;> decide
  sorted := by decide
  name_ne_proto := by intro k; cases k <;> decide

def X424RequirementTransportMode.all : List X424RequirementTransportMode := [.header, .body]

def X424RequirementTransportMode.text : X424RequirementTransportMode → JsString
  | .header => js "header"
  | .body => js "body"

theorem X424RequirementTransportMode.text_injective :
    Function.Injective X424RequirementTransportMode.text := by
  intro a b h
  cases a <;> cases b <;> first | rfl | exact absurd h (by decide)

def humanRequiredType : JsString := js "https://x424.org/problems/human-required"

/-- `X424Problem`; its `type` and its `status` are fixed. -/
structure X424Problem where
  title : JsString
  detail : JsString
  dependencyId : JsString
  x424Transport : X424RequirementTransportMode
  requirement : Option RequirementDocument

def X424Problem.fieldValue (problem : X424Problem) : ProblemField → Option Json
  | .dependencyId => some (.string problem.dependencyId)
  | .detail => some (.string problem.detail)
  | .requirement => problem.requirement.map RequirementDocument.toJson
  | .status => some (.number (424 : Nat))
  | .title => some (.string problem.title)
  | .type => some (.string humanRequiredType)
  | .x424Transport => some (.string problem.x424Transport.text)

def X424Problem.toJson (problem : X424Problem) : Json := problemShape.ofFields problem.fieldValue

/-- `z.literal` of a number. -/
def zLiteralNumber (literal : Nat) : Option Json → Option Unit
  | some (.number value) => if value = literal then some () else none
  | _ => none

def zRequirement (runtime : Runtime) : Option Json → Option RequirementDocument
  | some json => HumanRequirementSchema runtime.dates runtime.urls json
  | none => none

/-- The `superRefine` of the problem schema. -/
def X424Problem.consistent (problem : X424Problem) : Bool :=
  match problem.x424Transport, problem.requirement with
  | .header, some _ => false
  | .header, none => true
  | .body, none => false
  | .body, some requirement => requirement.dependencyId == problem.dependencyId

def HumanRequiredProblemSchema (runtime : Runtime) (json : Json) : Option X424Problem := do
  let field ← problemShape.strictObject json
  let _ ← zLiteral humanRequiredType (field .type)
  let title ← zString 1 200 (field .title)
  let _ ← zLiteralNumber 424 (field .status)
  let detail ← zString 1 2000 (field .detail)
  let dependencyId ← zString 1 200 (field .dependencyId)
  let x424Transport ←
    zEnum X424RequirementTransportMode.text X424RequirementTransportMode.all (field .x424Transport)
  let requirement ← zOptional (zRequirement runtime) (field .requirement)
  let problem : X424Problem := { title, detail, dependencyId, x424Transport, requirement }
  if problem.consistent then some problem else none

/-! ## Answers -/

def humanRequiredHeader : JsString := js "human-required"

structure HumanRequiredChallenge where
  headers : List (JsString × JsString)
  body : X424Problem
  transport : X424RequirementTransportMode

def baseHeaders : List (JsString × JsString) :=
  [(js "cache-control", js "no-store, private"), (js "content-type", js "application/problem+json"),
    (js "vary", js "human-proof")]

def humanRequiredProblem (requirement : RequirementDocument)
    (transport : X424RequirementTransportMode) : X424Problem where
  title := js "Unique human required"
  detail := js "This action depends on an accepted unique-human proof."
  dependencyId := requirement.dependencyId
  x424Transport := transport
  requirement :=
    match transport with
    | .header => none
    | .body => some requirement

def humanRequiredResponse (numbers : JsNumbers) (requirement : RequirementDocument) :
    Except JsError HumanRequiredChallenge := do
  let encoded := encodeCanonical numbers requirement.toJson
  if headerAbsoluteMaxBytes < encodedHeaderByteLength encoded then
    .error ⟨js "x424 requirement exceeds absolute transport maximum"⟩
  else
    let transport ← selectRequirementTransportMode (encodedHeaderByteLength encoded)
    match transport with
    | .header =>
        assertInlineHeaderEnvelope encoded
        return ⟨baseHeaders ++ [(humanRequiredHeader, encoded)],
          humanRequiredProblem requirement .header, .header⟩
    | .body => return ⟨baseHeaders, humanRequiredProblem requirement .body, .body⟩

/-! ## The client -/

section Client

variable (runtime : Runtime)

/-- `Headers.get`; the names are compared in lower case. -/
def headersGet (headers : List (JsString × JsString)) (name : JsString) : Option JsString :=
  headers.lookup (name.map fun u => if 0x41 ≤ u && u ≤ 0x5A then u + 0x20 else u)

def parseHumanRequirement (json : Json) : Except JsError RequirementDocument :=
  match HumanRequirementSchema runtime.dates runtime.urls json with
  | some requirement => .ok requirement
  | none => .error ⟨js "ZodError"⟩

def decodeHumanRequirement (value : JsString) : Except JsError RequirementDocument := do
  let json ← decodeX424Header runtime.numbers value
  parseHumanRequirement runtime json

def parseHumanRequiredProblem (json : Json) : Except JsError X424Problem :=
  match HumanRequiredProblemSchema runtime json with
  | some problem => .ok problem
  | none => .error ⟨js "ZodError"⟩

/-- The `HUMAN-REQUIRED` header; an empty one counts as none. -/
def challengeHeader (get : JsString → Option JsString) : Option JsString :=
  ((get humanRequiredHeader).or (get (js "HUMAN-REQUIRED"))).filter fun value => !value.isEmpty

/-- A body that is `null` counts as none, as one that is `undefined`. -/
def challengeProblem : Option Json → Except JsError (Option X424Problem)
  | none => .ok none
  | some .null => .ok none
  | some json => (parseHumanRequiredProblem runtime json).map some

def requirementFromHeader (header : JsString) (problem : Option X424Problem) :
    Except JsError RequirementDocument := do
  assertInlineHeaderEnvelope header
  let requirement ← decodeHumanRequirement runtime header
  match problem with
  | some problem =>
      if problem.x424Transport ≠ .header ∨ problem.dependencyId ≠ requirement.dependencyId then
        .error ⟨js "424 challenge contains conflicting transport payloads"⟩
      else .ok requirement
  | none => .ok requirement

def requirementFromBody : Option X424Problem → Except JsError RequirementDocument
  | some ⟨_, _, _, .body, some requirement⟩ => .ok requirement
  | _ => .error ⟨js "424 response omitted HUMAN-REQUIRED transport payload"⟩

def requirementFromChallenge (get : JsString → Option JsString) (body : Option Json) :
    Except JsError RequirementDocument := do
  let problem ← challengeProblem runtime body
  match challengeHeader get with
  | some header => requirementFromHeader runtime header problem
  | none => requirementFromBody problem

end Client

/-! ## What the server writes the client reads -/

section RoundTrip

variable {runtime : Runtime}

theorem humanRequiredResponse_eq_ok {numbers : JsNumbers} {requirement : RequirementDocument}
    {encoded : JsString} (hencoded : encodeCanonical numbers requirement.toJson = encoded)
    {challenge : HumanRequiredChallenge} :
    humanRequiredResponse numbers requirement = .ok challenge ↔
      (encodedHeaderByteLength encoded ≤ headerInteropEnvelopeBytes ∧
        challenge = ⟨baseHeaders ++ [(humanRequiredHeader, encoded)],
          humanRequiredProblem requirement .header, .header⟩) ∨
      (headerInteropEnvelopeBytes < encodedHeaderByteLength encoded ∧
        encodedHeaderByteLength encoded ≤ headerAbsoluteMaxBytes ∧
        challenge = ⟨baseHeaders, humanRequiredProblem requirement .body, .body⟩) := by
  have henvelope : headerInteropEnvelopeBytes < headerAbsoluteMaxBytes := by decide
  simp only [humanRequiredResponse, selectRequirementTransportMode, assertInlineHeaderEnvelope,
    hencoded, bind, Except.bind, pure, Except.pure]
  by_cases hmax : headerAbsoluteMaxBytes < encodedHeaderByteLength encoded
  · have hinline := henvelope.trans hmax
    simp [hmax, hinline, not_le.mpr hmax, not_le.mpr hinline]
  · by_cases hinline : headerInteropEnvelopeBytes < encodedHeaderByteLength encoded
    · simp [hmax, hinline, not_le.mpr hinline, not_lt.mp hmax, eq_comm]
    · simp [hmax, hinline, not_lt.mp hinline, eq_comm]

theorem zTransport_text (transport : X424RequirementTransportMode) :
    zEnum X424RequirementTransportMode.text X424RequirementTransportMode.all
      (some (.string transport.text)) = some transport :=
  zEnum_name X424RequirementTransportMode.text_injective (by cases transport <;> decide)

theorem HumanRequiredProblemSchema_toJson {requirement accepted : RequirementDocument}
    (h : HumanRequirementSchema runtime.dates runtime.urls requirement.toJson = some accepted)
    (transport : X424RequirementTransportMode) :
    HumanRequiredProblemSchema runtime (humanRequiredProblem requirement transport).toJson =
      some (humanRequiredProblem accepted transport) := by
  obtain ⟨hvalid, uri, audience, -, -, haccepted⟩ := HumanRequirementSchema_toJson.mp h
  have hid : accepted.dependencyId = requirement.dependencyId := by rw [haccepted]
  have hproblem : humanRequiredProblem accepted transport =
      { humanRequiredProblem requirement transport with
        requirement := (humanRequiredProblem accepted transport).requirement } := by
    simp only [humanRequiredProblem, hid]
  have hfields := problemShape.strictObject_ofFields
    (humanRequiredProblem requirement transport).fieldValue
  have hrequirement : zOptional (zRequirement runtime)
      ((humanRequiredProblem requirement transport).fieldValue .requirement) =
        some (humanRequiredProblem accepted transport).requirement := by
    cases transport with
    | header => rfl
    | body => exact congrArg (Option.map some) h
  refine (bind_known hfields).mpr ((bind_known (zLiteral_self _)).mpr ?_)
  have htitle : zString 1 200 (some (.string (js "Unique human required"))) =
      some (js "Unique human required") := by decide
  have hstatus : zLiteralNumber 424 (some (.number (424 : Nat))) = some () := by
    simp [zLiteralNumber]
  have hdetail : zString 1 2000
      (some (.string (js "This action depends on an accepted unique-human proof."))) =
        some (js "This action depends on an accepted unique-human proof.") := by decide
  refine (bind_known htitle).mpr ((bind_known hstatus).mpr ((bind_known hdetail).mpr ?_))
  refine (bind_known (zString_eq_some.mpr ⟨rfl, hvalid.dependencyId⟩)).mpr ?_
  refine (bind_known (zTransport_text transport)).mpr ((bind_known hrequirement).mpr ?_)
  have hconsistent : (humanRequiredProblem accepted transport).consistent = true := by
    cases transport with
    | header => rfl
    | body => exact beq_self_eq_true _
  rw [hproblem] at hconsistent ⊢
  exact if_pos hconsistent

theorem wellFormed_problem {numbers : JsNumbers} {problem : X424Problem}
    (h : ∀ requirement ∈ problem.requirement, requirement.toJson.WellFormed numbers) :
    problem.toJson.WellFormed numbers := by
  refine ObjectShape.wellFormed_ofFields fun k value hvalue => ?_
  cases k with
  | requirement =>
      obtain ⟨requirement, hrequirement, rfl⟩ := Option.map_eq_some_iff.mp hvalue
      exact h requirement hrequirement
  | status =>
      cases hvalue
      exact .number (numbers.isDouble_nat 424 (by decide))
  | dependencyId => cases hvalue; exact .string _
  | detail => cases hvalue; exact .string _
  | title => cases hvalue; exact .string _
  | type => cases hvalue; exact .string _
  | x424Transport => cases hvalue; exact .string _

theorem valid_normalized {dates : JsDates} {requirement : RequirementDocument}
    (h : requirement.Valid dates) : requirement.normalized.Valid dates := by
  refine ⟨h.dependencyId, h.purpose, h.resource, h.nonce, h.binding, h.createdAt, h.expiresAt,
    h.accepts, fun members hmembers member hmember => ?_⟩
  obtain ⟨source, hsource, rfl⟩ := Option.map_eq_some_iff.mp hmembers
  have hmem := List.mem_of_mem_filter hmember
  rw [(List.perm_insertionSort memberLe _).mem_iff, normalizeMembers_eq_map] at hmem
  obtain ⟨sent, hsent, rfl⟩ := List.mem_map.mp hmem
  exact h.providerRequests source hsource sent hsent

theorem decodeHumanRequirement_encoded {requirement : RequirementDocument} {uri audience : JsString}
    (hvalid : requirement.Valid runtime.dates) (hplain : requirement.Plain runtime.numbers)
    (huri : runtime.urls.check requirement.resource.uri = some uri ∧ uri.length ≤ 2048)
    (haudience : runtime.urls.check requirement.resource.audience = some audience ∧
      audience.length ≤ 2048) {encoded : JsString}
    (hencoded : encodeX424Header runtime.numbers requirement.toJson = .ok encoded) :
    decodeHumanRequirement runtime encoded =
      .ok (requirement.normalized.withUrls uri audience) := by
  have hwell := RequirementDocument.wellFormed_toJson hvalid.safeAge hplain.wellFormed
  obtain ⟨htext, hne, hsize⟩ := encodeX424Header_eq_ok.mp hencoded
  have hdecoded : decodeX424Header runtime.numbers encoded = .ok (normalize requirement.toJson) :=
    decodeX424Header_eq_ok.mpr ⟨hsize, decodeCanonical_eq_ok.mpr
      ⟨_, hne, htext, parseCanonicalJsonBytes_canonicalJson hwell _⟩⟩
  have hschema : HumanRequirementSchema runtime.dates runtime.urls
      requirement.normalized.toJson = some (requirement.normalized.withUrls uri audience) :=
    (RequirementDocument.schema_toJson
      (RequirementDocument.protoFree_normalized hplain.wellFormed)).mpr
      ⟨valid_normalized hvalid, uri, audience, huri, haudience, rfl⟩
  simp only [decodeHumanRequirement, hdecoded, bind, Except.bind, parseHumanRequirement,
    RequirementDocument.normalize_toJson hvalid.safeAge, hschema]

/-- The client gets the requirement back, and only one of the two carriers has it. -/
structure Carries (runtime : Runtime) (requirement : RequirementDocument)
    (challenge : HumanRequiredChallenge) : Prop where
  received : ∃ received uri audience,
    requirementFromChallenge runtime (headersGet challenge.headers)
      (jsonParse runtime.numbers (stringify runtime.numbers challenge.body.toJson)) =
        .ok received ∧
    runtime.urls.check requirement.resource.uri = some uri ∧
    runtime.urls.check requirement.resource.audience = some audience ∧
    received.toJson.Same (requirement.withUrls uri audience).toJson
  inline : encodedHeaderByteLength (encodeCanonical runtime.numbers requirement.toJson) ≤
      headerInteropEnvelopeBytes →
    headersGet challenge.headers humanRequiredHeader =
        some (encodeCanonical runtime.numbers requirement.toJson) ∧
      challenge.body.requirement = none
  embedded : headerInteropEnvelopeBytes <
      encodedHeaderByteLength (encodeCanonical runtime.numbers requirement.toJson) →
    headersGet challenge.headers humanRequiredHeader = none ∧
      challenge.body.requirement = some requirement

theorem headersGet_inline (encoded : JsString) :
    headersGet (baseHeaders ++ [(humanRequiredHeader, encoded)]) humanRequiredHeader =
      some encoded := by
  rfl

theorem challengeHeader_inline {encoded : JsString} (h : encoded ≠ []) :
    challengeHeader (headersGet (baseHeaders ++ [(humanRequiredHeader, encoded)])) =
      some encoded := by
  rw [challengeHeader, headersGet_inline, Option.some_or, Option.filter_some,
    if_pos (by simpa using h)]

theorem headersGet_base : headersGet baseHeaders humanRequiredHeader = none := by decide

theorem challengeHeader_base : challengeHeader (headersGet baseHeaders) = none := by
  decide

theorem challengeProblem_known {problem read : X424Problem}
    (h : HumanRequiredProblemSchema runtime problem.toJson = some read) :
    challengeProblem runtime (some problem.toJson) = .ok (some read) := by
  have hread : parseHumanRequiredProblem runtime problem.toJson = .ok read := by
    rw [parseHumanRequiredProblem, h]
  exact congrArg (Except.map some) hread

theorem challengeProblem_toJson {problem read : X424Problem}
    (h : HumanRequiredProblemSchema runtime problem.toJson = some read)
    (hwell : problem.toJson.WellFormed runtime.numbers) :
    challengeProblem runtime
      (jsonParse runtime.numbers (stringify runtime.numbers problem.toJson)) = .ok (some read) := by
  rw [jsonParse_stringify hwell]
  exact challengeProblem_known h

section Carried

variable {requirement : RequirementDocument} {uri audience : JsString}
  (hvalid : requirement.Valid runtime.dates) (hplain : requirement.Plain runtime.numbers)
  (huri : runtime.urls.check requirement.resource.uri = some uri ∧ uri.length ≤ 2048)
  (haudience : runtime.urls.check requirement.resource.audience = some audience ∧
    audience.length ≤ 2048)

include hvalid hplain huri haudience

theorem problem_read (transport : X424RequirementTransportMode) :
    challengeProblem runtime (jsonParse runtime.numbers
      (stringify runtime.numbers (humanRequiredProblem requirement transport).toJson)) =
        .ok (some (humanRequiredProblem (requirement.withUrls uri audience) transport)) := by
  have hwell := RequirementDocument.wellFormed_toJson hvalid.safeAge hplain.wellFormed
  refine challengeProblem_toJson (HumanRequiredProblemSchema_toJson
    ((RequirementDocument.schema_toJson hplain.protoFree).mpr
      ⟨hvalid, uri, audience, huri, haudience, rfl⟩) transport) (wellFormed_problem ?_)
  intro embedded hembedded
  cases transport with
  | header => cases hembedded
  | body => exact Option.some.inj hembedded ▸ hwell

theorem carries_inline
    (hsize : encodedHeaderByteLength (encodeCanonical runtime.numbers requirement.toJson) ≤
      headerInteropEnvelopeBytes) :
    Carries runtime requirement ⟨baseHeaders ++
      [(humanRequiredHeader, encodeCanonical runtime.numbers requirement.toJson)],
      humanRequiredProblem requirement .header, .header⟩ := by
  have hwell := RequirementDocument.wellFormed_toJson hvalid.safeAge hplain.wellFormed
  have hne := encodeCanonical_ne_nil hwell
  have hencoded : encodeX424Header runtime.numbers requirement.toJson =
      .ok (encodeCanonical runtime.numbers requirement.toJson) :=
    encodeX424Header_eq_ok.mpr ⟨rfl, hne, hsize.trans (by decide)⟩
  have hdecoded := decodeHumanRequirement_encoded hvalid hplain huri haudience hencoded
  have hread : requirementFromHeader runtime (encodeCanonical runtime.numbers requirement.toJson)
      (some (humanRequiredProblem (requirement.withUrls uri audience) .header)) =
        .ok (requirement.normalized.withUrls uri audience) := by
    have hinline : assertInlineHeaderEnvelope
        (encodeCanonical runtime.numbers requirement.toJson) = .ok () := if_neg (not_lt.mpr hsize)
    simp only [requirementFromHeader, hinline, hdecoded, bind, Except.bind]
    exact if_neg (not_or.mpr ⟨not_not.mpr rfl, not_not.mpr rfl⟩)
  have hcanonical : (requirement.normalized.withUrls uri audience).toJson =
      normalize (requirement.withUrls uri audience).toJson :=
    (@RequirementDocument.normalize_toJson (requirement.withUrls uri audience)
      hvalid.safeAge).symm
  have hwell' : (requirement.withUrls uri audience).toJson.WellFormed runtime.numbers :=
    RequirementDocument.wellFormed_toJson hvalid.safeAge hplain.wellFormed
  have hproto' : (requirement.withUrls uri audience).toJson.ProtoFree :=
    @RequirementDocument.protoFree_toJson runtime.numbers _ hvalid.safeAge
      ⟨hplain.wellFormed, hplain.protoFree⟩
  refine ⟨⟨requirement.normalized.withUrls uri audience, uri, audience, ?_, huri.1,
      haudience.1, ?_⟩, fun _ => ⟨headersGet_inline _, rfl⟩,
    fun hlarge => absurd hsize (not_le.mpr hlarge)⟩
  · simp only [requirementFromChallenge, problem_read hvalid hplain huri haudience, bind,
      Except.bind, challengeHeader_inline hne]
    exact hread
  · rw [hcanonical]
    exact (same_normalize hwell'.distinctKeys hproto').symm

theorem carries_embedded
    (hsize : headerInteropEnvelopeBytes <
      encodedHeaderByteLength (encodeCanonical runtime.numbers requirement.toJson)) :
    Carries runtime requirement ⟨baseHeaders, humanRequiredProblem requirement .body, .body⟩ := by
  have hwell : (requirement.withUrls uri audience).toJson.WellFormed runtime.numbers :=
    RequirementDocument.wellFormed_toJson hvalid.safeAge hplain.wellFormed
  refine ⟨⟨_, uri, audience, ?_, huri.1, haudience.1, .refl hwell.distinctKeys⟩,
    fun hsmall => absurd hsize (not_lt.mpr hsmall), fun _ => ⟨headersGet_base, rfl⟩⟩
  simp only [requirementFromChallenge, problem_read hvalid hplain huri haudience, bind,
    Except.bind, challengeHeader_base]
  rfl

end Carried

theorem embedded_read {requirement accepted : RequirementDocument}
    (h : HumanRequirementSchema runtime.dates runtime.urls requirement.toJson = some accepted)
    {get : JsString → Option JsString} (hheader : challengeHeader get = none) :
    requirementFromChallenge runtime get (some (humanRequiredProblem requirement .body).toJson) =
      .ok accepted := by
  have hproblem := challengeProblem_known (HumanRequiredProblemSchema_toJson h .body)
  simp only [requirementFromChallenge, hproblem, hheader, bind, Except.bind]
  rfl

/-! ## Conflicting carriers -/

theorem HumanRequiredProblemSchema_spec {json : Json} {problem : X424Problem}
    (h : HumanRequiredProblemSchema runtime json = some problem) :
    problem.consistent = true ∧ ∃ field, problemShape.strictObject json = some field ∧
      field .dependencyId = some (.string problem.dependencyId) ∧
      zOptional (zRequirement runtime) (field .requirement) = some problem.requirement := by
  obtain ⟨field, hfield, h⟩ := Option.bind_eq_some_iff.mp h
  obtain ⟨_, _, h⟩ := Option.bind_eq_some_iff.mp h
  obtain ⟨title, _, h⟩ := Option.bind_eq_some_iff.mp h
  obtain ⟨_, _, h⟩ := Option.bind_eq_some_iff.mp h
  obtain ⟨detail, _, h⟩ := Option.bind_eq_some_iff.mp h
  obtain ⟨dependencyId, hdependencyId, h⟩ := Option.bind_eq_some_iff.mp h
  obtain ⟨transport, _, h⟩ := Option.bind_eq_some_iff.mp h
  obtain ⟨requirement, hrequirement, h⟩ := Option.bind_eq_some_iff.mp h
  simp only [Option.ite_none_right_eq_some, Option.some.injEq] at h
  obtain ⟨hconsistent, rfl⟩ := h
  exact ⟨hconsistent, field, hfield, (zString_spec hdependencyId).1, hrequirement⟩

end RoundTrip

/-- The body embeds a requirement, or names a dependency that is not the header's. -/
def Conflicts (runtime : Runtime) (header : JsString) (json : Json) : Prop :=
  (∃ embedded, memberOf (js "requirement") json = some embedded) ∨
    ∃ name, memberOf (js "dependencyId") json = some name ∧
      ∀ requirement, decodeHumanRequirement runtime header = .ok requirement →
        name ≠ .string requirement.dependencyId

section Conflict

variable {runtime : Runtime}

theorem requirementFromHeader_eq_ok {header : JsString} {problem : Option X424Problem}
    {requirement : RequirementDocument} :
    requirementFromHeader runtime header problem = .ok requirement ↔
      encodedHeaderByteLength header ≤ headerInteropEnvelopeBytes ∧
        decodeHumanRequirement runtime header = .ok requirement ∧
        ∀ read ∈ problem, read.x424Transport = .header ∧
          read.dependencyId = requirement.dependencyId := by
  unfold requirementFromHeader assertInlineHeaderEnvelope
  by_cases hsize : headerInteropEnvelopeBytes < encodedHeaderByteLength header
  · simp [hsize, bind, Except.bind, not_le.mpr hsize]
  · cases hdecoded : decodeHumanRequirement runtime header with
    | error e => simp [hsize, bind, Except.bind]
    | ok decoded =>
        cases problem with
        | none => simp [hsize, bind, Except.bind, not_lt.mp hsize]
        | some read =>
            simp only [if_neg hsize, bind, Except.bind, Option.mem_some, forall_eq']
            split_ifs with hconflict
            · refine iff_of_false nofun ?_
              rintro ⟨-, hsame, htransport, hid⟩
              cases hsame
              exact hconflict.elim (absurd htransport) (absurd hid)
            · obtain ⟨htransport, hid⟩ := not_or.mp hconflict
              constructor
              · intro hsame
                cases hsame
                exact ⟨not_lt.mp hsize, rfl, not_not.mp htransport, not_not.mp hid⟩
              · exact fun h => h.2.1

theorem conflicting_refused {get : JsString → Option JsString} {header : JsString} {json : Json}
    (hheader : challengeHeader get = some header) (h : Conflicts runtime header json)
    (requirement : RequirementDocument) :
    requirementFromChallenge runtime get (some json) ≠ .ok requirement := by
  intro hread
  have hnull : json ≠ .null := by
    rintro rfl
    rcases h with ⟨_, hmember⟩ | ⟨_, hmember, -⟩ <;> cases hmember
  have hproblem : challengeProblem runtime (some json) =
      (parseHumanRequiredProblem runtime json).map some := by
    cases json with
    | null => exact absurd rfl hnull
    | _ => rfl
  cases hschema : HumanRequiredProblemSchema runtime json with
  | none =>
      simp [requirementFromChallenge, hproblem, parseHumanRequiredProblem, hschema, bind,
        Except.bind, Except.map] at hread
  | some problem =>
      simp only [requirementFromChallenge, hproblem, parseHumanRequiredProblem, hschema, bind,
        Except.bind, Except.map, hheader] at hread
      obtain ⟨-, hdecoded, hagree⟩ := requirementFromHeader_eq_ok.mp hread
      obtain ⟨htransport, hid⟩ := hagree problem rfl
      obtain ⟨hconsistent, field, hfield, hname, hembedded⟩ :=
        HumanRequiredProblemSchema_spec hschema
      rcases h with ⟨embedded, hmember⟩ | ⟨name, hmember, hother⟩
      · rw [strictObject_memberOf hfield .requirement] at hembedded
        have hsome : memberOf (problemShape.name .requirement) json = some embedded := hmember
        rw [hsome] at hembedded
        obtain ⟨read, -, hrequirement⟩ := Option.map_eq_some_iff.mp hembedded
        rw [X424Problem.consistent, htransport, ← hrequirement] at hconsistent
        cases hconsistent
      · rw [strictObject_memberOf hfield .dependencyId] at hname
        have hsame : name = .string problem.dependencyId :=
          Option.some.inj (hmember.symm.trans hname)
        exact hother requirement hdecoded (by rw [hsame, hid])

end Conflict

/-! ## The round trip -/

/-- A challenge brings the requirement back with its URLs trimmed, in the
header or in the body, and a client refuses carriers that do not agree. -/
theorem challenge_round_trip (runtime : Runtime) :
    (∀ requirement accepted challenge,
      HumanRequirementSchema runtime.dates runtime.urls requirement.toJson = some accepted →
      requirement.Plain runtime.numbers →
      humanRequiredResponse runtime.numbers requirement = .ok challenge →
        Carries runtime requirement challenge) ∧
    ∀ get header json, challengeHeader get = some header → Conflicts runtime header json →
      ∀ requirement, requirementFromChallenge runtime get (some json) ≠ .ok requirement := by
  refine ⟨fun requirement accepted challenge hschema hplain hchallenge => ?_,
    fun get header json hheader h => conflicting_refused hheader h⟩
  obtain ⟨hvalid, uri, audience, huri, haudience, -⟩ := HumanRequirementSchema_toJson.mp hschema
  rcases (humanRequiredResponse_eq_ok rfl).mp hchallenge with ⟨hsize, rfl⟩ | ⟨hsize, -, rfl⟩
  · exact carries_inline hvalid hplain huri haudience hsize
  · exact carries_embedded hvalid hplain huri haudience hsize

/-! ## A blank in front of a URL, and an empty header -/

namespace BlankUrl

def urls : JsUrls where
  check text :=
    if text = js "https://a.example/x" ∨ text = js " https://a.example/x" then
      some (js "https://a.example/x")
    else if text = js "https://a.example" then some text
    else none
  check_check {text url} h := by
    split_ifs at h with huri haudience
    · cases h
      decide
    · cases h
      rw [haudience]
      decide

def runtime : Runtime := ⟨wholeNumbers, writtenDates, urls⟩

def requirement : RequirementDocument where
  dependencyId := js "d"
  purpose := js "p"
  resource := ⟨js "POST", js " https://a.example/x", js "https://a.example",
    js "sha256:47DEQpj8HBSa-_TImW-5JCeuQeRkm5NMpJWZG3hSuFU"⟩
  nonce := js "n"
  binding := ⟨.session, js "s"⟩
  createdAt := js "1970-01-01T00:00:00.000Z"
  expiresAt := js "1970-01-01T00:10:00.000Z"
  accepts := [⟨js "world", js "orb", js "1", none, [.action], none, none⟩]
  providerRequests := none

theorem requirement_valid : requirement.Valid writtenDates where
  dependencyId := ⟨by decide, by decide⟩
  purpose := ⟨by decide, by decide⟩
  resource := ⟨⟨by decide, by decide⟩, by decide⟩
  nonce := ⟨by decide, by decide⟩
  binding := ⟨by decide, by decide⟩
  createdAt := by decide
  expiresAt := by decide
  accepts := ⟨by decide, List.forall_mem_singleton.mpr
    ⟨by decide, by decide, ⟨by decide, by decide⟩, nofun, by decide, nofun, nofun⟩⟩
  providerRequests := nofun

theorem requirement_plain : requirement.Plain wholeNumbers := ⟨nofun, nofun⟩

theorem requirement_blank :
    runtime.urls.check requirement.resource.uri ≠ some requirement.resource.uri := by
  decide +kernel

def received : RequirementDocument :=
  requirement.withUrls (js "https://a.example/x") (js "https://a.example")

theorem requirement_schema :
    HumanRequirementSchema runtime.dates runtime.urls requirement.toJson = some received :=
  (RequirementDocument.schema_toJson requirement_plain.protoFree).mpr
    ⟨requirement_valid, _, _, ⟨rfl, by decide⟩,
    ⟨rfl, by decide⟩, rfl⟩

def challenge : HumanRequiredChallenge :=
  ⟨baseHeaders ++ [(humanRequiredHeader, encodeCanonical wholeNumbers requirement.toJson)],
    humanRequiredProblem requirement .header, .header⟩

theorem requirement_inline :
    encodedHeaderByteLength (encodeCanonical wholeNumbers requirement.toJson) ≤
      headerInteropEnvelopeBytes := by
  decide +kernel

theorem requirement_challenge : humanRequiredResponse wholeNumbers requirement = .ok challenge :=
  (humanRequiredResponse_eq_ok rfl).mpr (Or.inl ⟨requirement_inline, rfl⟩)

end BlankUrl

theorem challenge_round_trip_blankUrl :
    Carries BlankUrl.runtime BlankUrl.requirement BlankUrl.challenge :=
  (challenge_round_trip BlankUrl.runtime).1 _ _ _ BlankUrl.requirement_schema
    BlankUrl.requirement_plain BlankUrl.requirement_challenge

theorem same_member {κ : Type} {shape : ObjectShape κ} {f g : κ → Option Json}
    (h : (shape.ofFields f).Same (shape.ofFields g)) {k : κ} {a b : Json} (ha : f k = some a)
    (hb : g k = some b) : a.Same b := by
  cases h with
  | object _ hsame =>
      exact hsame (shape.name k, a) (ObjectShape.mem_membersOf.mpr ⟨k, ha, rfl⟩) (shape.name k, b)
        (ObjectShape.mem_membersOf.mpr ⟨k, hb, rfl⟩) rfl

theorem Carries.url_unchanged {runtime : Runtime} {requirement received : RequirementDocument}
    {challenge : HumanRequiredChallenge} (h : Carries runtime requirement challenge)
    (hread : requirementFromChallenge runtime (headersGet challenge.headers)
      (jsonParse runtime.numbers (stringify runtime.numbers challenge.body.toJson)) = .ok received)
    (hsame : received.toJson.Same requirement.toJson) :
    runtime.urls.check requirement.resource.uri = some requirement.resource.uri := by
  obtain ⟨other, uri, audience, hother, huri, -, hreceived⟩ := h.received
  cases hread.symm.trans hother
  have hresource := same_member (hreceived.symm.trans hsame) (k := .resource) rfl rfl
  have htext : (Json.string uri).Same (.string requirement.resource.uri) :=
    same_member hresource (k := .uri) rfl rfl
  cases htext
  exact huri

/-- The client does not get the blank back, and it reads the body of an answer
with an empty `HUMAN-REQUIRED` header. -/
theorem challenge_changes_requirement :
    (∀ received, requirementFromChallenge BlankUrl.runtime (headersGet BlankUrl.challenge.headers)
        (jsonParse BlankUrl.runtime.numbers
          (stringify BlankUrl.runtime.numbers BlankUrl.challenge.body.toJson)) =
            .ok received → ¬ received.toJson.Same BlankUrl.requirement.toJson) ∧
      ∃ read, requirementFromChallenge BlankUrl.runtime
        (headersGet (baseHeaders ++ [(humanRequiredHeader, [])]))
        (some (humanRequiredProblem BlankUrl.requirement .body).toJson) = .ok read := by
  constructor
  · intro received hread hsame
    have hcarries : Carries BlankUrl.runtime BlankUrl.requirement BlankUrl.challenge :=
      carries_inline BlankUrl.requirement_valid BlankUrl.requirement_plain ⟨rfl, by decide⟩
        ⟨rfl, by decide⟩ BlankUrl.requirement_inline
    exact BlankUrl.requirement_blank (hcarries.url_unchanged hread hsame)
  · exact ⟨BlankUrl.received, embedded_read BlankUrl.requirement_schema (by decide)⟩

end X424
