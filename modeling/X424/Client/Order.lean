import X424.Client.Programs

/-!
# Redirects, order and challenges

What holds in every run of the three clients, whatever the server, the
resolvers and the broker do.
-/

namespace X424

open Foundation

/-! ## Runs -/

section Runs

variable (runtime : Runtime) (urls : UrlParser) (surroundings : ClientSurroundings)
  (input : RequestInfo) (init : RequestInit)

/-- What is said in a run of `fetchWithX424`. -/
def fetchRun : List ClientExchange :=
  ((fetchWithX424 runtime urls input init).run surroundings []).1

def x402Run (bodyFactory : Option BodyFactory) : List ClientExchange :=
  ((fetchWithX424AndX402 runtime urls input init bodyFactory).run surroundings []).1

def agentRun (createHash : List UInt8 → List UInt8) (options : X424AgentClientOptions)
    (polls : Nat) : List ClientExchange :=
  ((fetchWithAgentDependencies runtime urls createHash options polls input init).run
    surroundings []).1

theorem fetchRun_inOrder : InOrder (fetchTask runtime urls input init)
    (fetchRun runtime urls surroundings input init) :=
  fetchWithX424_follows.inOrder surroundings

theorem x402Run_inOrder (bodyFactory : Option BodyFactory) :
    InOrder (x402Task runtime urls input init bodyFactory)
      (x402Run runtime urls surroundings input init bodyFactory) :=
  fetchWithX424AndX402_follows.inOrder surroundings

theorem agentRun_inOrder (createHash : List UInt8 → List UInt8) (options : X424AgentClientOptions)
    (polls : Nat) : InOrder (agentTask runtime urls input init options.bodyFactory)
      (agentRun runtime urls surroundings input init createHash options polls) :=
  fetchWithAgentDependencies_follows.inOrder surroundings

end Runs

/-! ## Redirects -/

theorem InOrder.redirects {task : ClientTask} {said : List ClientExchange} (h : InOrder task said) :
    ∀ request ∈ requestsSent said, request.redirect = task.redirect :=
  h.requests fun _ _ hstep => hstep.redirect

/-- Only the agent client leaves redirects to `fetch`: unless it makes the requests
anew for the bodies of a factory, it takes over the mode of the caller's request. -/
theorem redirects_manual_iff (runtime : Runtime) (urls : UrlParser)
    (surroundings : ClientSurroundings) (input : RequestInfo) (init : RequestInit) :
    (∀ request ∈ requestsSent (fetchRun runtime urls surroundings input init),
      request.redirect = .manual) ∧
    (∀ bodyFactory, ∀ request ∈
      requestsSent (x402Run runtime urls surroundings input init bodyFactory),
        request.redirect = .manual) ∧
    ∀ createHash options polls,
      (∀ request ∈
        requestsSent (agentRun runtime urls surroundings input init createHash options polls),
          request.redirect = .manual) ↔
        options.bodyFactory.isSome = true ∨ requestedRedirect input init = .manual ∨
          requestsSent (agentRun runtime urls surroundings input init createHash options polls) =
            [] := by
  refine ⟨(fetchRun_inOrder runtime urls surroundings input init).redirects, fun bodyFactory =>
    (x402Run_inOrder runtime urls surroundings input init bodyFactory).redirects,
    fun createHash options polls => ?_⟩
  have hmode := (agentRun_inOrder runtime urls surroundings input init createHash options
    polls).redirects
  constructor
  · intro hmanual
    cases hsent : requestsSent
        (agentRun runtime urls surroundings input init createHash options polls) with
    | nil => exact .inr (.inr rfl)
    | cons request rest =>
        have hmem : request ∈ requestsSent
            (agentRun runtime urls surroundings input init createHash options polls) :=
          hsent ▸ List.mem_cons_self
        have hredirect := (hmode request hmem).symm.trans (hmanual request hmem)
        change (if options.bodyFactory.isSome = true then _ else _) = _ at hredirect
        split at hredirect
        · rename_i hfactory
          exact .inl hfactory
        · exact .inr (.inl hredirect)
  · rintro (hfactory | hredirect | hnone) request hmem
    · exact (hmode request hmem).trans (if_pos hfactory)
    · refine (hmode request hmem).trans ?_
      change (if options.bodyFactory.isSome = true then _ else _) = _
      split
      · rfl
      · exact hredirect
    · rw [hnone] at hmem
      cases hmem

-- A server on which everything has the origin `https://a.example`.
namespace PlainServer

def action : JsString := js "https://a.example/x"

def other : JsString := js "https://a.example/other"

def webUrl (href : JsString) : WebUrl :=
  ⟨href, js "https://a.example", js "https:", [], [], href.drop 17, [], []⟩

def urls : UrlParser where
  parse text := if text = action ∨ text = other then some (webUrl text) else none
  referrer text := some text
  href_printable {text url} h := by
    split at h
    · rename_i hknown
      cases h
      change ∀ u ∈ text, _
      rcases hknown with rfl | rfl <;> exact List.all_eq_true.mp (by decide)
    · cases h
  pathname_https {text url} h _ := by
    split at h
    · rename_i hknown
      cases h
      change (text.drop 17).head? = _
      rcases hknown with rfl | rfl <;> decide
    · cases h

/-- Every request gets the same answer; resolver, broker and signer are content with anything. -/
def surroundings (response : Response) : ClientSurroundings := fun _ call =>
  match call with
  | .send _ => .ok response
  | .resolveHuman _ _ => .ok (js "proof")
  | .resolvePayment _ _ => .ok ⟨js "payment", false⟩
  | .processResponse _ => .ok ()
  | .startHandoff input =>
      .ok ⟨js "h", js "t", input.providerId, input.methodId, ⟨js "u", none⟩, none, some 500⟩
  | .getHandoff _ _ => .ok (.completed (js "h") (js "proof") 0)
  | .cancelHandoff _ _ => .ok ()
  | .present _ => .ok ()
  | .isAborted => false
  | .delay _ => .ok ()
  | .randomBytes _ => []
  | .now => 0
  | .sign _ => .ok [1]

def fine : Response := ⟨.basic, 200, .empty, action, none⟩

def options : X424AgentClientOptions where
  signer := ⟨js "k", .ed25519⟩
  hasPresenter := false
  hasSignal := false
  selectMethod := none
  resolvesPayment := false
  bodyFactory := none

end PlainServer

/-- A plain `GET` of the agent client is sent with the mode `follow`. -/
theorem agent_leaves_redirects :
    ¬ ∀ request ∈ requestsSent (agentRun BlankUrl.runtime PlainServer.urls
      (PlainServer.surroundings PlainServer.fine) (.text PlainServer.action) {} id
      PlainServer.options 0), request.redirect = .manual := by
  decide +kernel

/-! ## Order -/

/-- The order of dependencies in every run of each client; that the bodies are the
same is asked of a body factory, where there is one. -/
theorem dependency_order (runtime : Runtime) (urls : UrlParser)
    (surroundings : ClientSurroundings) (input : RequestInfo) (init : RequestInit) :
    DependencyOrder (fetchTask runtime urls input init)
      (fetchRun runtime urls surroundings input init) ∧
    (∀ bodyFactory, DependencyOrder (x402Task runtime urls input init bodyFactory)
      (x402Run runtime urls surroundings input init bodyFactory)) ∧
    ∀ createHash options polls,
      DependencyOrder (agentTask runtime urls input init options.bodyFactory)
        (agentRun runtime urls surroundings input init createHash options polls) :=
  ⟨(fetchRun_inOrder runtime urls surroundings input init).dependencyOrder,
    fun bodyFactory =>
      (x402Run_inOrder runtime urls surroundings input init bodyFactory).dependencyOrder,
    fun createHash options polls =>
      (agentRun_inOrder runtime urls surroundings input init createHash options
        polls).dependencyOrder⟩

/-! ## Challenges -/

def ClientCall.AsksFor (requirement : RequirementDocument) : ClientCall → Prop
  | .resolveHuman asked _ => asked = requirement
  | .startHandoff input =>
      input.dependencyId = requirement.dependencyId ∧ input.nonce = requirement.nonce
  | _ => False

def NamesRequest (urls : UrlParser) (request : Request) (requirement : RequirementDocument) :
    Prop :=
  requirement.resource.method = toUpperCase request.method ∧
    ∃ sent resource, urls.parse request.url = some sent ∧
      urls.parse requirement.resource.uri = some resource ∧ resource.href = sent.href

def ReportsRequest (urls : UrlParser) (request : Request) (response : Response) : Prop :=
  response.url = [] ∨ ∃ sent answered, urls.parse request.url = some sent ∧
    urls.parse response.url = some answered ∧ answered.href = sent.href

theorem namesRequest_iff {urls : UrlParser} {request : Request} {response : Response}
    {requirement : RequirementDocument}
    (h : matchChallenge urls request response requirement = .ok ()) :
    NamesRequest urls request requirement ↔ ReportsRequest urls request response := by
  obtain ⟨sent, challenge, resource, hsent, hchallenge, hresource, -, -, hmethod, hhref⟩ :=
    assertChallengeRequestMatch_eq_ok.mp h
  rw [challengeUrl] at hchallenge
  constructor
  · rintro ⟨-, other, named, hother, hnamed, hsame⟩
    cases hother.symm.trans hsent
    cases hnamed.symm.trans hresource
    split at hchallenge
    · rename_i hempty
      exact .inl (List.isEmpty_iff.mp hempty)
    · exact .inr ⟨sent, challenge, hsent, hchallenge, hhref.symm.trans hsame⟩
  · rintro (hempty | ⟨other, answered, hother, hanswered, hsame⟩)
    · rw [hempty] at hchallenge
      cases hchallenge.symm.trans hsent
      exact ⟨hmethod, sent, resource, hsent, hresource, hhref⟩
    · cases hother.symm.trans hsent
      split at hchallenge
      · cases hchallenge.symm.trans hsent
        exact ⟨hmethod, sent, resource, hsent, hresource, hhref⟩
      · cases hanswered.symm.trans hchallenge
        exact ⟨hmethod, sent, resource, hsent, hresource, hhref.trans hsame⟩

/-- Every time a human is asked for, it is for a requirement that the only answer so
far carries, and that names the request exactly if the answer reports its URL. -/
def AsksAsReported (runtime : Runtime) (urls : UrlParser) (said : List ClientExchange) : Prop :=
  ∀ front exchange back, said = front ++ exchange :: back →
    (∃ requirement, exchange.call.AsksFor requirement) →
      ∃ requirement request response, exchange.call.AsksFor requirement ∧
        (accountOf front).exchanges = [(request, .ok response)] ∧ response.status = 424 ∧
        response.Carries runtime requirement ∧
        (NamesRequest urls request requirement ↔ ReportsRequest urls request response)

theorem HumanStep.asksAsReported {task : ClientTask} {account : ClientAccount}
    {requirement : RequirementDocument} {response : Response} {call : ClientCall}
    (h : HumanStep task account requirement response) (hasks : call.AsksFor requirement) :
    ∃ requirement request response, call.AsksFor requirement ∧
      account.exchanges = [(request, .ok response)] ∧ response.status = 424 ∧
      response.Carries task.runtime requirement ∧
      (NamesRequest task.urls request requirement ↔ ReportsRequest task.urls request response) := by
  obtain ⟨request, hexchanges, hstatus, hcarries, hmatch⟩ := h.challenged
  exact ⟨requirement, request, response, hasks, hexchanges, hstatus, hcarries,
    namesRequest_iff hmatch⟩

theorem InOrder.asksAsReported {task : ClientTask} {said : List ClientExchange}
    (h : InOrder task said) : AsksAsReported task.runtime task.urls said := by
  rintro front ⟨call, answer⟩ back heq ⟨asked, hasks⟩
  have hstep : ClientStep task (accountOf front) call := h front _ back heq
  cases call with
  | resolveHuman requirement response =>
      exact @HumanStep.asksAsReported _ _ _ _ (.resolveHuman requirement response) hstep rfl
  | startHandoff input =>
      obtain ⟨requirement, response, hstep, hsame⟩ := hstep
      exact @HumanStep.asksAsReported _ _ _ _ (.startHandoff input) hstep hsame
  | _ => exact absurd hasks id

theorem asks_as_reported (runtime : Runtime) (urls : UrlParser)
    (surroundings : ClientSurroundings) (input : RequestInfo) (init : RequestInit) :
    AsksAsReported runtime urls (fetchRun runtime urls surroundings input init) ∧
    (∀ bodyFactory, AsksAsReported runtime urls
      (x402Run runtime urls surroundings input init bodyFactory)) ∧
    ∀ createHash options polls, AsksAsReported runtime urls
      (agentRun runtime urls surroundings input init createHash options polls) :=
  ⟨(fetchRun_inOrder runtime urls surroundings input init).asksAsReported,
    fun bodyFactory =>
      (x402Run_inOrder runtime urls surroundings input init bodyFactory).asksAsReported,
    fun createHash options polls =>
      (agentRun_inOrder runtime urls surroundings input init createHash options
        polls).asksAsReported⟩

/-! ## An answer from another path -/

theorem Response.json_eq_some {numbers : JsNumbers} {response : Response} {text : JsString}
    {value : Json} (hbody : response.body = some text)
    (hparsed : jsonParse numbers text = some value) : response.json numbers = some value := by
  rw [Response.json, hbody]
  exact hparsed

theorem run_send_bind {α : Type} {surroundings : ClientSurroundings} {said : List ClientExchange}
    {request : Request} {response : Response}
    (h : surroundings said (.send request) = .ok response) (f : Response → ClientProgram α) :
    (ClientProgram.send request >>= f).run surroundings said =
      (f response).run surroundings (said ++ [⟨.send request, .ok response⟩]) := by
  change ((Dialogue.ofExcept (surroundings said (.send request)) : ClientProgram Response).bind
    f).run surroundings (said ++ [⟨.send request, surroundings said (.send request)⟩]) = _
  rw [h]
  rfl

theorem prefix_resolveHuman {α : Type} (surroundings : ClientSurroundings)
    (said : List ClientExchange) (requirement : RequirementDocument) (response : Response)
    (f : JsString → ClientProgram α) :
    ∃ answer, said ++ [⟨.resolveHuman requirement response, answer⟩] <+:
      ((ClientProgram.resolveHuman requirement response >>= f).run surroundings said).1 :=
  ⟨surroundings said (.resolveHuman requirement response), Dialogue.prefix_run surroundings
    ((Dialogue.ofExcept (surroundings said (.resolveHuman requirement response)) :
      ClientProgram JsString).bind f) _⟩

/-- A run of `fetchWithX424` up to the resolver. -/
theorem fetchRun_asks {runtime : Runtime} {urls : UrlParser} {surroundings : ClientSurroundings}
    {input : RequestInfo} {init : RequestInit} {seed handed : Request} {response : Response}
    {requirement : RequirementDocument} (hseed : Request.new urls input init = .ok seed)
    (hclone : seed.bodyUsed = false)
    (hhanded : Request.new urls (.request seed)
      { redirect := some .manual, credentials := some seed.credentials } = .ok handed)
    (hresponse : surroundings [] (.send handed) = .ok response)
    (hseen : refuseRedirect urls seed response = .ok ()) (hstatus : response.status = 424)
    (hproof : seed.headers.has humanProofHeader = false)
    (hrequirement : typedRequirement runtime response = some requirement)
    (hmatch : matchChallenge urls seed response requirement = .ok ()) :
    ∃ answer back, fetchRun runtime urls surroundings input init =
      [⟨.send handed, .ok response⟩] ++ ⟨.resolveHuman requirement response, answer⟩ :: back := by
  have hretry : ∀ message, replayable seed.clone message = .ok seed := fun _ => by
    rw [Request.clone, hclone]
    rfl
  obtain ⟨answer, back, hback⟩ := prefix_resolveHuman surroundings
    [⟨.send handed, .ok response⟩] requirement response fun humanProof => do
      .ofExcept (usableProof humanProof)
      let retry ← .ofExcept (provenRequest urls seed humanProof)
      ClientProgram.send retry
  refine ⟨answer, back, ?_⟩
  rw [fetchRun]
  simp only [fetchWithX424, hseed, hretry, hhanded, Dialogue.ofExcept_bind, run_send_bind hresponse,
    hseen, hstatus, ne_eq, not_true_eq_false, if_false, hproof, Bool.false_eq_true, hrequirement,
    hmatch, List.nil_append]
  rw [← hback, List.append_assoc]
  rfl

namespace PlainServer

def problem : Json := (humanRequiredProblem BlankUrl.requirement .body).toJson

/-- A challenge for `action`, from `action`. -/
def challenged : Response where
  type := .basic
  status := 424
  headers := ⟨[(js "content-type", js "application/problem+json")], by decide⟩
  url := action
  body := some (stringify wholeNumbers problem)

theorem problem_wellFormed : problem.WellFormed wholeNumbers := by
  refine wellFormed_problem fun requirement hrequirement => ?_
  rw [← Option.some.inj hrequirement]
  exact RequirementDocument.wellFormed_toJson BlankUrl.requirement_valid.safeAge
    BlankUrl.requirement_plain.wellFormed

theorem challenged_json : challenged.json wholeNumbers = some problem :=
  Response.json_eq_some rfl (jsonParse_stringify problem_wellFormed)

theorem challenged_requirement :
    typedRequirement BlankUrl.runtime challenged = some BlankUrl.received := by
  have hread : requirementFromChallenge BlankUrl.runtime challenged.headers.get (some problem) =
      .ok BlankUrl.received := embedded_read BlankUrl.requirement_schema (by decide)
  have htype : includes ((challenged.headers.get (js "content-type")).getD [])
      (js "application/problem+json") = true := by decide +kernel
  have hjson : challenged.json BlankUrl.runtime.numbers = some problem := challenged_json
  simp only [typedRequirement, htype, Bool.true_or, if_true, bodyRequirement, hjson,
    challengeRequirement, hread]
  rfl

theorem other_printable : ∀ u ∈ other, isPrintable u = true := List.all_eq_true.mp (by decide)

/-- A `POST` to another path. -/
def seed : Request where
  method := js "POST"
  url := other
  headers := .empty
  body := none
  redirect := .follow
  credentials := .sameOrigin
  cache := .default
  integrity := []
  keepalive := false
  mode := .cors
  referrer := js "about:client"
  referrerPolicy := []
  bodyUsed := false
  method_token := isToken_post
  url_printable := other_printable

def handed : Request := { seed with redirect := .manual }

end PlainServer

/-- A resolver is asked to prove a `POST` to `/x` for one that was sent to `/other`. -/
theorem asks_for_another_path :
    ¬ ∀ front exchange back, fetchRun BlankUrl.runtime PlainServer.urls
        (PlainServer.surroundings PlainServer.challenged) (.text PlainServer.other)
        { method := some (js "POST") } = front ++ exchange :: back →
      ∀ requirement, exchange.call.AsksFor requirement →
        ∃ request answer, (accountOf front).exchanges = [(request, answer)] ∧
          NamesRequest PlainServer.urls request requirement := by
  intro hclaim
  obtain ⟨answer, back, hrun⟩ := @fetchRun_asks BlankUrl.runtime PlainServer.urls
    (PlainServer.surroundings PlainServer.challenged) (.text PlainServer.other)
    { method := some (js "POST") } PlainServer.seed PlainServer.handed _ _ (by decide +kernel) rfl
    (by decide +kernel) rfl (by decide +kernel) rfl rfl PlainServer.challenged_requirement
    (by decide +kernel)
  obtain ⟨request, _, hsent, -, sent, resource, hsentUrl, hresource, hhref⟩ :=
    hclaim _ _ back hrun BlankUrl.received rfl
  cases hsent
  revert hhref
  cases hsentUrl
  cases hresource
  decide +kernel

end X424
