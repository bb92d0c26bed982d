import X424.Providers.WorldId

/-!
# Which response World has accepted

A native proof is a list of responses and the answer of the remote is a list of
results.  The adapter takes the first response of the proof's kind, which must
carry the signal of the caller, and any accepted result with its identifier and
its nullifier, which may belong to another response.  Whether some answer of the
remote makes it do so is decided by the proof alone.
-/

namespace X424

/-! ## The remote -/

def remoteResults (answer : Json) : List Json :=
  match memberOf (js "results") answer with
  | some (.array results) => results
  | _ => []

structure IsResultOf (response result : Json) : Prop where
  identifier : memberText (js "identifier") result = memberText (js "identifier") response
  nullifier : memberText (js "nullifier") result = memberText (js "nullifier") response

/-- One result for each response, in order, and success when one of them is valid. -/
structure ReportsEach (responses : List Json) (answer : Json) : Prop where
  listed : memberOf (js "results") answer = some (.array (remoteResults answer))
  each : List.Forall₂ IsResultOf responses (remoteResults answer)
  success : isSuccess answer = true ↔ ∃ result ∈ remoteResults answer, isSuccess result = true

def ReportedValid (responses : List Json) (answer : Json) (response : Json) : Prop :=
  ∃ result, (response, result) ∈ responses.zip (remoteResults answer) ∧ isSuccess result = true

/-! ## The proof -/

def proofIdentifier (nativeProof : Json) : JsString :=
  if memberText (js "protocol_version") nativeProof = some (js "4.0") then js "proof_of_human"
  else js "orb"

structure MatchesRequest (nativeProof : Json) (providerRequest : WorldIdProviderRequest) :
    Prop where
  action : memberText (js "action") nativeProof = some providerRequest.action
  environment : memberText (js "environment") nativeProof = some providerRequest.environment.text
  nonce : memberText (js "nonce") nativeProof = some providerRequest.rpContext.nonce

/-- One response carries the caller's signal, is reported valid and has the nullifier. -/
def BoundAndValid (responses : List Json) (answer : Json)
    (signalHash nullifier : JsString) : Prop :=
  ∃ response, ReportedValid responses answer response ∧
    memberText (js "signal_hash") response = some signalHash ∧
    memberText (js "nullifier") response = some nullifier

/-- The responses that share the identifier and the nullifier of the first one of the proof's kind
carry its signal. -/
def SameSignal (nativeProof : Json) (responses : List Json) : Prop :=
  ∀ first, responses.find? (hasIdentifier (proofIdentifier nativeProof)) = some first →
    ∀ other ∈ responses, hasIdentifier (proofIdentifier nativeProof) other = true →
      memberText (js "nullifier") other = memberText (js "nullifier") first →
      memberText (js "signal_hash") other = memberText (js "signal_hash") first

def AllDistinct (responses : List Json) : Prop :=
  (responses.map fun response =>
    (memberText (js "identifier") response, memberText (js "nullifier") response)).Nodup

theorem sameSignal_of_allDistinct {nativeProof : Json} {responses : List Json}
    (h : AllDistinct responses) : SameSignal nativeProof responses := by
  intro first hfirst other hother hidentifier hnullifier
  have hkind := List.find?_some hfirst
  rw [hasIdentifier, beq_iff_eq] at hkind hidentifier
  have hsame := List.inj_on_of_nodup_map h hother (List.mem_of_find?_eq_some hfirst)
    (Prod.ext (hidentifier.trans hkind.symm) hnullifier)
  rw [hsame]

/-! ## Any answer of the remote -/

def resultOf (valid : Json → Bool) (response : Json) : Json :=
  .object [(js "identifier", (memberOf (js "identifier") response).getD .null),
    (js "nullifier", (memberOf (js "nullifier") response).getD .null),
    (js "success", .bool (valid response))]

def answerWith (providerRequest : WorldIdProviderRequest) (responses : List Json)
    (valid : Json → Bool) : Json :=
  .object [(js "success", .bool (responses.any valid)),
    (js "action", .string providerRequest.action),
    (js "environment", .string providerRequest.environment.text),
    (js "results", .array (responses.map (resultOf valid)))]

section Answers

variable {providerRequest : WorldIdProviderRequest} {responses : List Json} {valid : Json → Bool}

theorem isSuccess_resultOf (response : Json) :
    isSuccess (resultOf valid response) = valid response :=
  rfl

theorem stringValue_getD_null (value : Option Json) :
    stringValue (some (value.getD .null)) = stringValue value := by
  cases value <;> rfl

theorem isResultOf_resultOf (response : Json) : IsResultOf response (resultOf valid response) :=
  ⟨stringValue_getD_null _, stringValue_getD_null _⟩

theorem remoteResults_answerWith :
    remoteResults (answerWith providerRequest responses valid) =
      responses.map (resultOf valid) :=
  rfl

theorem reportsEach_answerWith :
    ReportsEach responses (answerWith providerRequest responses valid) := by
  refine ⟨rfl, ?_, ?_⟩
  · rw [remoteResults_answerWith, List.forall₂_map_right_iff]
    exact List.forall₂_same.mpr fun response _ => isResultOf_resultOf response
  · rw [remoteResults_answerWith]
    change responses.any valid = true ↔ _
    simp only [List.any_eq_true, List.mem_map, exists_exists_and_eq_and, isSuccess_resultOf]

theorem mem_zip_map {f : Json → Json} {response result : Json}
    (h : (response, result) ∈ responses.zip (responses.map f)) : result = f response := by
  induction responses with
  | nil => cases h
  | cons first rest ih =>
      rw [List.map_cons, List.zip_cons_cons] at h
      rcases List.mem_cons.mp h with heq | hrest
      · cases heq
        rfl
      · exact ih hrest

theorem valid_of_reported {response : Json}
    (h : ReportedValid responses (answerWith providerRequest responses valid) response) :
    valid response = true := by
  obtain ⟨result, hpair, hsuccess⟩ := h
  rw [remoteResults_answerWith] at hpair
  rwa [mem_zip_map hpair] at hsuccess

theorem acceptedRemoteResult_answerWith {candidate : NativeProofCandidate} {response : Json}
    (hresponse : response ∈ responses) (hvalid : valid response = true)
    (hidentifier : hasIdentifier candidate.identifier response = true)
    (hnullifier : memberText (js "nullifier") response = some candidate.nativeNullifier) :
    acceptedRemoteResult (answerWith providerRequest responses valid) candidate providerRequest =
      .ok candidate.nativeNullifier := by
  have hsuccess : isSuccess (answerWith providerRequest responses valid) = true :=
    List.any_eq_true.mpr ⟨response, hresponse, hvalid⟩
  have hscope : memberText (js "action") (answerWith providerRequest responses valid) =
        some providerRequest.action ∧
      memberText (js "environment") (answerWith providerRequest responses valid) =
        some providerRequest.environment.text := ⟨rfl, rfl⟩
  have hresults : memberOf (js "results") (answerWith providerRequest responses valid) =
      some (.array (responses.map (resultOf valid))) := rfl
  have hof := @isResultOf_resultOf valid response
  have haccepted : (responses.map (resultOf valid)).any (isAcceptedResult candidate) = true := by
    refine List.any_eq_true.mpr ⟨resultOf valid response, List.mem_map_of_mem hresponse, ?_⟩
    rw [isAcceptedResult, isSuccess_resultOf, hvalid, hof.nullifier, hnullifier, hasIdentifier,
      hof.identifier]
    rw [hasIdentifier] at hidentifier
    rw [hidentifier, beq_self_eq_true]
    rfl
  rw [acceptedRemoteResult, hsuccess, hscope.1, hscope.2, hresults]
  simp only [Bool.not_true, Bool.false_eq_true, if_false, ne_eq, not_true_eq_false, or_self,
    haccepted, if_true]

end Answers

section Adapter

variable {surroundings : WorldIdSurroundings} {options : WorldIdAdapterOptions}
  {requirement : RequirementDocument} {acceptedMethod : HumanMethodRequirement}
  {proof : HumanProofSubmission} {nativeProof answer : Json} {human : ProviderVerifiedHuman}
  {library : WorldIdLibrary} {providerRequest : WorldIdProviderRequest} {binding : HumanBinding}
  {candidate : NativeProofCandidate} {responses : List Json}

theorem fullText_eq_some {value : Option Json} {text : JsString} (h : fullText value = some text) :
    stringValue value = some text :=
  (Option.filter_eq_some_iff.mp h).1

theorem candidateFrom_eq_ok {signalHash identifier assuranceLevel message : JsString}
    {descriptor : HumanMethodDescriptor} {good : Json → Bool}
    (h : candidateFrom responses signalHash identifier assuranceLevel descriptor good message =
      .ok candidate) :
    candidate.identifier = identifier ∧ ∃ first,
      responses.find? (hasIdentifier identifier) = some first ∧
      memberText (js "nullifier") first = some candidate.nativeNullifier ∧
      memberText (js "signal_hash") first = some signalHash := by
  unfold candidateFrom at h
  cases hfirst : responses.find? (hasIdentifier identifier) with
  | none =>
      rw [hfirst] at h
      cases h
  | some first =>
      rw [hfirst] at h
      dsimp only at h
      cases hnullifier : fullText (memberOf (js "nullifier") first) with
      | none =>
          rw [hnullifier] at h
          cases h
      | some nullifier =>
          rw [hnullifier] at h
          dsimp only at h
          split_ifs at h with hbad
          cases h
          simp only [Bool.or_eq_true, decide_eq_true_eq, not_or, not_not] at hbad
          exact ⟨rfl, first, rfl, fullText_eq_some hnullifier, hbad.1⟩

structure CandidateOf (library : WorldIdLibrary) (nativeProof : Json)
    (providerRequest : WorldIdProviderRequest) (binding : HumanBinding)
    (candidate : NativeProofCandidate) (responses : List Json) : Prop where
  request : MatchesRequest nativeProof providerRequest
  responses_eq : nativeResponses nativeProof = some responses
  signal : providerRequest.signalHash = library.hashSignal binding.value
  identifier : candidate.identifier = proofIdentifier nativeProof
  first : ∃ first, responses.find? (hasIdentifier (proofIdentifier nativeProof)) = some first ∧
    memberText (js "nullifier") first = some candidate.nativeNullifier ∧
    memberText (js "signal_hash") first = some providerRequest.signalHash

theorem assertNativeProof_eq_ok
    (h : assertNativeProof library nativeProof providerRequest binding = .ok candidate) :
    ∃ responses, CandidateOf library nativeProof providerRequest binding candidate responses := by
  unfold assertNativeProof at h
  cases hresponses : nativeResponses nativeProof with
  | none =>
      rw [hresponses] at h
      split_ifs at h
  | some responses =>
      rw [hresponses] at h
      dsimp only at h
      split_ifs at h with hrequest hsignal hcurrent hlegacy hpermitted
      all_goals
        simp only [not_or, not_not] at hsignal hrequest
        obtain ⟨hidentifier, hfirst⟩ := candidateFrom_eq_ok h
        refine ⟨responses, ⟨hrequest.1, hrequest.2.1, hrequest.2.2⟩, hresponses,
          hsignal.2, ?_, ?_⟩
      · rw [proofIdentifier, if_pos hcurrent, hidentifier]
      · rwa [proofIdentifier, if_pos hcurrent]
      · rw [proofIdentifier, if_neg hcurrent, hidentifier]
      · rwa [proofIdentifier, if_neg hcurrent]

theorem acceptedRemoteResult_eq_ok {nullifier : JsString}
    (h : acceptedRemoteResult answer candidate providerRequest = .ok nullifier)
    (hlisted : memberOf (js "results") answer = some (.array (remoteResults answer))) :
    nullifier = candidate.nativeNullifier ∧
      ∃ result ∈ remoteResults answer, isAcceptedResult candidate result = true := by
  unfold acceptedRemoteResult at h
  rw [hlisted] at h
  dsimp only at h
  split_ifs at h with hsuccess hscope hany
  cases h
  exact ⟨rfl, List.any_eq_true.mp hany⟩

theorem exists_response_of_result (hremote : ReportsEach responses answer) {result : Json}
    (hresult : result ∈ remoteResults answer) :
    ∃ response, (response, result) ∈ responses.zip (remoteResults answer) ∧
      IsResultOf response result := by
  obtain ⟨hlength, hall⟩ := List.forall₂_iff_get.mp hremote.each
  obtain ⟨i, hi, rfl⟩ := List.mem_iff_getElem.mp hresult
  have hi' : i < responses.length := hlength ▸ hi
  refine ⟨responses[i], ?_, hall i hi' hi⟩
  have hzip : i < (responses.zip (remoteResults answer)).length := by
    rw [List.length_zip]
    omega
  rw [← List.getElem_zip (h := hzip)]
  exact List.getElem_mem hzip

def WorldIdSurroundings.withRemote (surroundings : WorldIdSurroundings)
    (verifyRemote : Json → Except JsError Json) : WorldIdSurroundings :=
  { surroundings with verifyRemote := verifyRemote }

theorem verify_eq_ok (h : WorldIdAdapter.verify options surroundings requirement acceptedMethod
      proof nativeProof = .ok human) :
    ∃ providerRequest candidate responses descriptor,
      providerRequestFromRequirement surroundings.numbers requirement proof.methodId =
        .ok providerRequest ∧
      CandidateOf surroundings.library nativeProof providerRequest requirement.binding candidate
        responses ∧
      ∀ verifyRemote, WorldIdAdapter.verify options (surroundings.withRemote verifyRemote)
          requirement acceptedMethod proof nativeProof =
        verifyRemote nativeProof >>= fun answer =>
          acceptedRemoteResult answer candidate providerRequest >>= fun nullifier =>
            .ok (WorldIdAdapter.verifiedHuman options (surroundings.withRemote verifyRemote)
              nativeProof answer descriptor candidate nullifier) := by
  obtain ⟨providerRequest, hrequest, h⟩ := bind_eq_ok.mp h
  obtain ⟨descriptor, hdescriptor, h⟩ := bind_eq_ok.mp h
  split_ifs at h with hlabels
  obtain ⟨candidate, hcandidate, h⟩ := bind_eq_ok.mp h
  obtain ⟨bound, hbound, h⟩ := bind_eq_ok.mp h
  split_ifs at h with hunbound
  obtain ⟨responses, hof⟩ := assertNativeProof_eq_ok hcandidate
  refine ⟨providerRequest, candidate, responses, descriptor, hrequest, hof, fun verifyRemote => ?_⟩
  have happlication : (surroundings.withRemote verifyRemote).applicationBinding nativeProof
      requirement.binding = .ok bound := hbound
  unfold WorldIdAdapter.verify
  rw [show (surroundings.withRemote verifyRemote).numbers = surroundings.numbers from rfl,
    show (surroundings.withRemote verifyRemote).library = surroundings.library from rfl,
    hrequest, hdescriptor]
  simp only [bind, Except.bind, hlabels, Bool.false_eq_true, if_false, hcandidate, happlication,
    hunbound]
  rfl

theorem boundAndValid_of_sameSignal {nullifier : JsString}
    (hof : CandidateOf library nativeProof providerRequest binding candidate responses)
    (hremote : ReportsEach responses answer)
    (haccepted : acceptedRemoteResult answer candidate providerRequest = .ok nullifier)
    (hsame : SameSignal nativeProof responses) :
    BoundAndValid responses answer (library.hashSignal binding.value) nullifier := by
  obtain ⟨rfl, result, hresult, hmatch⟩ := acceptedRemoteResult_eq_ok haccepted hremote.listed
  obtain ⟨response, hpair, hisResult⟩ := exists_response_of_result hremote hresult
  obtain ⟨first, hfirst, hfirstNullifier, hfirstSignal⟩ := hof.first
  simp only [isAcceptedResult, Bool.and_eq_true, beq_iff_eq] at hmatch
  obtain ⟨⟨hsuccess, hidentifier⟩, hnullifier⟩ := hmatch
  have hkind : hasIdentifier (proofIdentifier nativeProof) response = true := by
    rwa [hasIdentifier, hisResult.identifier, hof.identifier] at hidentifier
  have hthis := hisResult.nullifier.symm.trans hnullifier
  have hsignal := hsame first hfirst response (List.of_mem_zip hpair).1 hkind
    (hthis.trans hfirstNullifier.symm)
  refine ⟨response, ⟨result, hpair, hsuccess⟩, ?_, hthis⟩
  rw [hsignal, hfirstSignal, hof.signal]

/-- What a successful verification says of the responses, whatever the remote answers. -/
structure WorldBindingExact (options : WorldIdAdapterOptions) (surroundings : WorldIdSurroundings)
    (requirement : RequirementDocument) (acceptedMethod : HumanMethodRequirement)
    (proof : HumanProofSubmission) (nativeProof : Json)
    (providerRequest : WorldIdProviderRequest) (responses : List Json) : Prop where
  request : MatchesRequest nativeProof providerRequest
  bound : (∀ verifyRemote answer human, verifyRemote nativeProof = .ok answer →
      ReportsEach responses answer →
      WorldIdAdapter.verify options (surroundings.withRemote verifyRemote) requirement
        acceptedMethod proof nativeProof = .ok human →
      BoundAndValid responses answer (surroundings.library.hashSignal requirement.binding.value)
        human.providerSubject) ↔
    SameSignal nativeProof responses
  distinct : AllDistinct responses → SameSignal nativeProof responses

theorem worldId_boundProof
    (hverify : WorldIdAdapter.verify options surroundings requirement acceptedMethod proof
      nativeProof = .ok human) :
    ∃ providerRequest responses,
      providerRequestFromRequirement surroundings.numbers requirement proof.methodId =
        .ok providerRequest ∧
      nativeResponses nativeProof = some responses ∧
      WorldBindingExact options surroundings requirement acceptedMethod proof nativeProof
        providerRequest responses := by
  obtain ⟨providerRequest, candidate, responses, descriptor, hrequest, hof, hrest⟩ :=
    verify_eq_ok hverify
  refine ⟨providerRequest, responses, hrequest, hof.responses_eq, hof.request, ⟨?_, ?_⟩,
    sameSignal_of_allDistinct⟩
  · intro hbound first hfirst other hother hkind hnullifier
    by_contra hdiffers
    obtain ⟨first', hfirst', hfirstNullifier, hfirstSignal⟩ := hof.first
    cases hfirst.symm.trans hfirst'
    -- the remote finds valid what is not under the caller's signal
    let valid : Json → Bool := fun response =>
      decide (memberText (js "signal_hash") response ≠ some providerRequest.signalHash)
    have hvalid : valid other = true :=
      decide_eq_true fun hsignal => hdiffers (hsignal.trans hfirstSignal.symm)
    have haccepted := @acceptedRemoteResult_answerWith providerRequest responses valid candidate
      other hother hvalid (hof.identifier ▸ hkind) (hnullifier.trans hfirstNullifier)
    obtain ⟨response, hreported, hsignal, -⟩ := hbound
      (fun _ => .ok (answerWith providerRequest responses valid)) _ _ rfl reportsEach_answerWith
      ((hrest _).trans (bind_eq_ok.mpr ⟨_, rfl, bind_eq_ok.mpr ⟨_, haccepted, rfl⟩⟩))
    rw [← hof.signal] at hsignal
    exact of_decide_eq_true (valid_of_reported hreported) hsignal
  · intro hsame verifyRemote answer human hanswer hremote hok
    obtain ⟨_, hanswer', hok⟩ := bind_eq_ok.mp ((hrest verifyRemote).symm.trans hok)
    cases hanswer.symm.trans hanswer'
    obtain ⟨nullifier, haccepted, hok⟩ := bind_eq_ok.mp hok
    cases hok
    exact boundAndValid_of_sameSignal hof hremote haccepted hsame

end Adapter

/-! ## A proof with two responses -/

namespace TwoResponses

def options : WorldIdAdapterOptions where
  appId := some (js "app_1")
  rpId := js "rp_1"
  action := js "vote"
  environment := .production
  allowLegacyProofs := none

def library : WorldIdLibrary where
  hashSignal signal := js "0x" ++ signal
  signRequest _ _ _ := .error ⟨js "unused"⟩

def request : WorldIdProviderRequest where
  appId := js "app_1"
  rpId := js "rp_1"
  action := js "vote"
  environment := .production
  allowLegacyProofs := false
  signal := js "caller"
  signalHash := js "0xcaller"
  rpContext := ⟨js "rp_1", js "0x01", 1000, 1300, js "0x02"⟩

def requirement : RequirementDocument where
  dependencyId := js "dependency"
  purpose := js "vote"
  resource := ⟨js "POST", js "https://a.example/vote", js "https://a.example", []⟩
  nonce := js "nonce"
  binding := ⟨.request, js "caller"⟩
  createdAt := dateText 0
  expiresAt := dateText 600000
  accepts := createWorldIdMethodRequirements none none
  providerRequests := some [(WORLD_ID_METHOD_KEY, request.toJson)]

def submission : HumanProofSubmission where
  x424Version := x424Version
  dependencyId := js "dependency"
  providerId := js "world"
  methodId := js "proof-of-human"
  binding := requirement.binding

/-- A response under this signal; every response has the same nullifier. -/
def response (signalHash : JsString) : Json :=
  .object [(js "identifier", .string (js "proof_of_human")),
    (js "signal_hash", .string signalHash), (js "proof", .array [.string (js "0x04")]),
    (js "nullifier", .string (js "0x05")), (js "issuer_schema_id", .number 1)]

def responses (signalHashes : List JsString) : List Json := signalHashes.map response

def nativeProof (signalHashes : List JsString) : Json :=
  .object [(js "protocol_version", .string (js "4.0")), (js "action", .string (js "vote")),
    (js "environment", .string (js "production")), (js "nonce", .string (js "0x01")),
    (js "responses", .array (responses signalHashes))]

def result (success : Bool) : Json :=
  .object [(js "identifier", .string (js "proof_of_human")), (js "nullifier", .string (js "0x05")),
    (js "success", .bool success)]

def answer (valid : List Bool) : Json :=
  .object [(js "success", .bool true), (js "action", .string (js "vote")),
    (js "environment", .string (js "production")), (js "results", .array (valid.map result))]

def surroundings (valid : List Bool) : WorldIdSurroundings where
  numbers := wholeNumbers
  library := library
  createHash _ := []
  validateBinding := none
  verifyRemote _ := .ok (answer valid)
  now := dateText 1000

def human (signalHashes : List JsString) (valid : List Bool) : ProviderVerifiedHuman :=
  WorldIdAdapter.verifiedHuman options (surroundings valid) (nativeProof signalHashes)
    (answer valid) WORLD_ID_PROOF_OF_HUMAN_METHOD
    ⟨WORLD_ID_PROOF_OF_HUMAN_METHOD, js "proof_of_human", js "proof-of-human", js "0x05"⟩
    (js "0x05")

def callerSignal : JsString := js "0xcaller"

def otherSignal : JsString := js "0xother"

theorem isResultOf (signalHash : JsString) (success : Bool) :
    IsResultOf (response signalHash) (result success) := ⟨rfl, rfl⟩

/-- The first response carries the caller's signal and is rejected; the second is valid. -/
theorem substituted_verified :
    WorldIdAdapter.verify options (surroundings [false, true]) requirement
        (createWorldIdMethodRequirement none) submission
        (nativeProof [callerSignal, otherSignal]) =
      .ok (human [callerSignal, otherSignal] [false, true]) ∧
    ReportsEach (responses [callerSignal, otherSignal]) (answer [false, true]) ∧
    ¬ BoundAndValid (responses [callerSignal, otherSignal]) (answer [false, true])
      (library.hashSignal requirement.binding.value)
      (human [callerSignal, otherSignal] [false, true]).providerSubject := by
  refine ⟨by rfl, ⟨rfl, .cons (isResultOf ..) (.cons (isResultOf ..) .nil), ?_⟩, ?_⟩
  · exact iff_of_true rfl ⟨result true, List.mem_cons_of_mem _ List.mem_cons_self, rfl⟩
  · rintro ⟨bound, ⟨reported, hpair, hsuccess⟩, hsignal, -⟩
    rcases List.mem_cons.mp hpair with hpair | hpair
    · cases hpair
      cases hsuccess
    · cases List.mem_singleton.mp hpair
      exact absurd hsignal (by decide)

theorem worldId_boundProof_single :
    ∃ providerRequest submitted,
      providerRequestFromRequirement wholeNumbers requirement submission.methodId =
        .ok providerRequest ∧
      nativeResponses (nativeProof [callerSignal]) = some submitted ∧
      WorldBindingExact options (surroundings [true]) requirement
        (createWorldIdMethodRequirement none) submission (nativeProof [callerSignal])
        providerRequest submitted :=
  @worldId_boundProof (surroundings [true]) options requirement
    (createWorldIdMethodRequirement none) submission (nativeProof [callerSignal])
    (human [callerSignal] [true]) (by rfl)

end TwoResponses

end X424
