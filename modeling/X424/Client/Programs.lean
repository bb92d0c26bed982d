import X424.Client.Account

/-!
# The clients keep to the order

Each client is followed through all answers by its account: a rule for every
kind of call, then one theorem for every part of a program.
-/

namespace X424

open Foundation

/-! ## Following a program by its account -/

section Rules

variable {task : ClientTask} {account : ClientAccount} {α β : Type}

def Follows (task : ClientTask) (post : ClientAccount → α → Prop) (p : ClientProgram α)
    (account : ClientAccount) : Prop :=
  ∀ said, accountOf said = account →
    Dialogue.Keeps (fun said call => ClientStep task (accountOf said) call)
      (fun said value => post (accountOf said) value) p said

theorem Follows.pure {post : ClientAccount → α → Prop} {value : α} (h : post account value) :
    Follows task post (Pure.pure value) account := by
  rintro said rfl
  exact h

theorem Follows.fail {post : ClientAccount → α → Prop} {error : JsError} :
    Follows task post (.fail error) account := fun _ _ => trivial

theorem Follows.bind {mid : ClientAccount → α → Prop} {post : ClientAccount → β → Prop}
    {p : ClientProgram α} {f : α → ClientProgram β} (h : Follows task mid p account)
    (hnext : ∀ account value, mid account value → Follows task post (f value) account) :
    Follows task post (p >>= f) account := fun said hsaid =>
  Dialogue.keeps_bind.mpr ((h said hsaid).mono fun said value hvalue =>
    hnext _ value hvalue said rfl)

theorem Follows.throws {post : ClientAccount → β → Prop} {x : Except JsError α}
    {f : α → ClientProgram β} (h : ∀ value, x = .ok value → Follows task post (f value) account) :
    Follows task post (.ofExcept x >>= f) account := fun said hsaid =>
  Dialogue.keeps_bind.mpr
    (Dialogue.keeps_ofExcept.mpr fun value hvalue => h value hvalue said hsaid)

theorem Follows.mono {post post' : ClientAccount → α → Prop} {p : ClientProgram α}
    (h : Follows task post p account)
    (hpost : ∀ account value, post account value → post' account value) :
    Follows task post' p account := fun said hsaid =>
  (h said hsaid).mono fun _ value hvalue => hpost _ value hvalue

theorem Follows.attempt {post : ClientAccount → Except JsError α → Prop} {p : ClientProgram α}
    (h : Follows task (fun account value => post account (.ok value)) p account)
    (herror : ∀ account error, post account (.error error)) :
    Follows task post p.attempt account := fun said hsaid =>
  (h said hsaid).attempt fun _ error => herror _ error

private theorem follows_throwing {p : ClientProgram (Except JsError α)}
    {post : ClientAccount → α → Prop}
    (h : Follows task (fun account x => ∀ value, x = .ok value → post account value) p account) :
    Follows task post p.throwing account := fun said hsaid =>
  Dialogue.keeps_throwing.mpr (h said hsaid)

private theorem follows_ask (call : ClientCall) {post : ClientAccount → call.Answer → Prop}
    (hstep : ClientStep task account call)
    (hnext : ∀ answer, post (account.note ⟨call, answer⟩) answer) :
    Follows task post (ClientProgram.ask call) account := by
  rintro said rfl
  refine ⟨hstep, fun answer => ?_⟩
  change post (accountOf (said ++ [⟨call, answer⟩])) answer
  rw [accountOf_concat]
  exact hnext answer

theorem follows_send {request : Request} (h : SendStep task account request) :
    Follows task (fun after response => after =
        { account with exchanges := account.exchanges ++ [(request, .ok response)] })
      (ClientProgram.send request) account := by
  refine follows_throwing (follows_ask (.send request) h fun answer => ?_)
  rintro response rfl
  rfl

theorem follows_resolveHuman {requirement : RequirementDocument} {response : Response}
    (h : HumanStep task account requirement response) :
    Follows task (fun after _ => after = { account with humanAsks := account.humanAsks + 1 })
      (ClientProgram.resolveHuman requirement response) account :=
  follows_throwing (follows_ask (.resolveHuman requirement response) h fun _ _ _ => rfl)

theorem follows_startHandoff {input : StartHumanHandoffInput}
    (h : ClientStep task account (.startHandoff input)) :
    Follows task (fun after _ => after = { account with humanAsks := account.humanAsks + 1 })
      (ClientProgram.startHandoff input) account :=
  follows_throwing (follows_ask (.startHandoff input) h fun _ _ _ => rfl)

theorem follows_resolvePayment {response : Response} {request : Request}
    (h : PaymentStep account response) :
    Follows task (fun after _ => after = { account with paymentAsks := account.paymentAsks + 1 })
      (ClientProgram.resolvePayment response request) account :=
  follows_throwing (follows_ask (.resolvePayment response request) h fun _ _ _ => rfl)

abbrev Quiet (task : ClientTask) (p : ClientProgram α) : Prop :=
  ∀ account, Follows task (fun after _ => after = account) p account

theorem quiet_processResponse (response : Response) :
    Quiet task (ClientProgram.processResponse response) := fun _ =>
  follows_throwing (follows_ask (.processResponse response) trivial fun _ _ _ => rfl)

theorem quiet_getHandoff (handoffId accessToken : JsString) :
    Quiet task (ClientProgram.getHandoff handoffId accessToken) := fun _ =>
  follows_throwing (follows_ask (.getHandoff handoffId accessToken) trivial fun _ _ _ => rfl)

theorem quiet_cancelHandoff (handoffId accessToken : JsString) :
    Quiet task (ClientProgram.cancelHandoff handoffId accessToken) := fun _ =>
  .bind (follows_ask (.cancelHandoff handoffId accessToken) trivial fun _ => rfl)
    fun _ _ h => .pure h

theorem quiet_presentTo (options : X424AgentClientOptions) (event : HumanHandoffEvent) :
    Quiet task (presentTo options event) := by
  intro account
  rw [presentTo]
  split
  · exact follows_throwing (follows_ask (.present event) trivial fun _ _ _ => rfl)
  · exact .pure rfl

theorem quiet_isAborted : Quiet task ClientProgram.isAborted := fun _ =>
  follows_ask .isAborted trivial fun _ => rfl

theorem quiet_signalAborted (options : X424AgentClientOptions) :
    Quiet task (signalAborted options) := by
  intro account
  rw [signalAborted]
  split
  · exact quiet_isAborted account
  · exact .pure rfl

theorem quiet_delay (ms : JsNumber) : Quiet task (ClientProgram.delay ms) := fun _ =>
  follows_throwing (follows_ask (.delay ms) trivial fun _ _ _ => rfl)

theorem quiet_randomBytes (count : Nat) : Quiet task (ClientProgram.randomBytes count) := fun _ =>
  follows_ask (.randomBytes count) trivial fun _ => rfl

theorem quiet_now : Quiet task ClientProgram.now := fun _ => follows_ask .now trivial fun _ => rfl

theorem quiet_sign (base : List UInt8) : Quiet task (ClientProgram.sign base) := fun _ =>
  follows_throwing (follows_ask (.sign base) trivial fun _ _ _ => rfl)

theorem Follows.inOrder {post : ClientAccount → α → Prop} {p : ClientProgram α}
    (h : Follows task post p ⟨[], 0, 0⟩) (surroundings : ClientSurroundings) :
    InOrder task (p.run surroundings []).1 :=
  ((h [] rfl).run Dialogue.allowed_nil surroundings).1

end Rules

/-! ## Requests that are built again -/

/-- A request with other values for some headers, and otherwise the same. -/
structure Request.Resent (names : List JsString) (source request : Request) : Prop where
  url : request.url = source.url
  method : request.method = source.method
  body : request.body = source.body
  headers : ∀ name, asciiLower name ∉ names → request.headers.get name = source.headers.get name

section Resent

variable {urls : UrlParser} {createHash : List UInt8 → List UInt8} {names names' : List JsString}
  {source request : Request}

theorem Request.Resent.trans {last : Request} (h : source.Resent names request)
    (h' : request.Resent names' last) : source.Resent (names ++ names') last where
  url := h'.url.trans h.url
  method := h'.method.trans h.method
  body := h'.body.trans h.body
  headers name hname := by
    rw [List.mem_append, not_or] at hname
    exact (h'.headers name hname.2).trans (h.headers name hname.1)

theorem Request.Resent.sameContent (h : source.Resent names request)
    (hkey : idempotencyKeyHeader ∉ names) : SameContent source request :=
  ⟨h.method.symm, h.url.symm, h.body.symm, (h.headers idempotencyKeyHeader hkey).symm⟩

/-- `new Request(source, { headers, … })`. -/
theorem Request.resent_new {init : RequestInit} {headers : Headers} (hmethod : init.method = none)
    (hbody : init.body = none) (hheaders : init.headers = some (.headers headers))
    (hget : ∀ name, asciiLower name ∉ names → headers.get name = source.headers.get name)
    (h : Request.new urls (.request source) init = .ok request) :
    source.Resent names request ∧ request.headers = headers ∧
      request.redirect = init.redirect.getD source.redirect := by
  obtain ⟨hurl, hmethod, hbody, hredirect, hkept⟩ := Request.new_request_eq_ok hmethod hbody h
  have hsame : request.headers = headers := hkept headers (by rw [hheaders]; rfl)
  exact ⟨⟨hurl, hmethod, hbody, fun name hname => by rw [hsame, hget name hname]⟩, hsame, hredirect⟩

theorem withHeaders_eq_ok {headers : Headers}
    (hget : ∀ name, asciiLower name ∉ names → headers.get name = source.headers.get name)
    (h : withHeaders urls source headers = .ok request) :
    source.Resent names request ∧ request.headers = headers ∧
      request.redirect = source.redirect :=
  Request.resent_new rfl rfl rfl hget h

/-- `new Request(source, { redirect, … })`. -/
theorem Request.resent_same {init : RequestInit} (hmethod : init.method = none)
    (hbody : init.body = none) (hheaders : init.headers = none)
    (h : Request.new urls (.request source) init = .ok request) :
    source.Resent [] request ∧ request.headers = source.headers ∧
      request.redirect = init.redirect.getD source.redirect := by
  obtain ⟨hurl, hmethod, hbody, hredirect, hkept⟩ := Request.new_request_eq_ok hmethod hbody h
  have hsame : request.headers = source.headers := hkept source.headers (by rw [hheaders]; rfl)
  exact ⟨⟨hurl, hmethod, hbody, fun name _ => by rw [hsame]⟩, hsame, hredirect⟩

theorem provenRequest_eq_ok {humanProof : JsString}
    (h : provenRequest urls source humanProof = .ok request) :
    source.Resent [humanProofHeader] request ∧ request.redirect = .manual ∧
      request.headers.has humanProofHeader = true := by
  obtain ⟨headers, hset, h⟩ := bind_eq_ok.mp h
  have hget : ∀ name, asciiLower name ∉ [humanProofHeader] →
      headers.get name = source.headers.get name := fun name hname =>
    Headers.get_set_of_ne hset fun heq => hname (heq ▸ List.mem_cons_self)
  obtain ⟨hresent, hsame, hredirect⟩ := Request.resent_new rfl rfl rfl hget h
  exact ⟨hresent, hredirect, hsame ▸ Headers.has_set_self hset⟩

theorem paidHeaders_eq_ok {headers paid : Headers} {humanProof paymentSignature : JsString}
    (h : paidHeaders headers humanProof paymentSignature = .ok paid) :
    paid.has humanProofHeader = true ∧
      ∀ name, asciiLower name ∉ [humanProofHeader, paymentSignatureHeader] →
        paid.get name = headers.get name := by
  obtain ⟨proven, hproven, h⟩ := bind_eq_ok.mp h
  refine ⟨?_, fun name hname => ?_⟩
  · rw [Headers.has_set_of_ne h (by decide)]
    exact Headers.has_set_self hproven
  · rw [List.mem_cons, List.mem_singleton, not_or] at hname
    exact (Headers.get_set_of_ne h hname.2).trans (Headers.get_set_of_ne hproven hname.1)

def signatureNames : List JsString :=
  [contentDigestHeader, signatureInputHeader, signatureHeader]

theorem digestedRequest_eq_ok (h : digestedRequest urls createHash source = .ok request) :
    source.Resent [contentDigestHeader] request ∧ request.redirect = source.redirect := by
  obtain ⟨headers, hheaders, h⟩ := bind_eq_ok.mp h
  obtain ⟨copy, hcopy, h⟩ := bind_eq_ok.mp h
  cases Request.clone_eq_ok hcopy
  have hget : ∀ name, asciiLower name ∉ [contentDigestHeader] →
      headers.get name = source.headers.get name := by
    intro name hname
    rw [digestHeaders] at hheaders
    split at hheaders
    · exact Headers.get_set_of_ne hheaders fun heq => hname (heq ▸ List.mem_cons_self)
    · cases hheaders
      rfl
  obtain ⟨hresent, -, hredirect⟩ := Request.resent_new rfl rfl rfl hget h
  exact ⟨hresent, hredirect⟩

theorem unsignedRequest_eq_ok {signer : AgentRequestSigner} {nonce : JsString} {now : Instant}
    {lifetimeSeconds : JsNumber} {unsigned : UnsignedRequest}
    (h : unsignedRequest urls createHash source signer nonce now lifetimeSeconds = .ok unsigned) :
    ∃ lifetime : ℚ, lifetimeSeconds = some lifetime ∧
      (lifetime.den = 1 ∧ 1 ≤ lifetime ∧ lifetime ≤ 60) ∧
      digestedRequest urls createHash source = .ok unsigned.request ∧
      serializeParameters (signatureComponents unsigned.request) (Int.fdiv now 1000)
        (Int.fdiv now 1000 + lifetime.num) signer nonce = .ok unsigned.serialized ∧
      signatureBase unsigned.request (signatureComponents unsigned.request) unsigned.serialized =
        .ok unsigned.base := by
  rw [unsignedRequest] at h
  split at h
  · cases h
  · rename_i lifetime hlifetime
    obtain ⟨hgiven, hbounds⟩ := Option.filter_eq_some_iff.mp hlifetime
    obtain ⟨digested, hdigested, h⟩ := bind_eq_ok.mp h
    obtain ⟨serialized, hserialized, h⟩ := bind_eq_ok.mp h
    obtain ⟨base, hbase, h⟩ := bind_eq_ok.mp h
    cases h
    exact ⟨lifetime, hgiven, of_decide_eq_true hbounds, hdigested, hserialized, hbase⟩

theorem signedRequest_eq_ok {unsigned : UnsignedRequest} {signature : List UInt8}
    (h : signedRequest urls unsigned signature = .ok request) :
    unsigned.request.Resent [signatureInputHeader, signatureHeader] request ∧
      request.redirect = unsigned.request.redirect := by
  obtain ⟨inputs, hinputs, h⟩ := bind_eq_ok.mp h
  obtain ⟨headers, hheaders, h⟩ := bind_eq_ok.mp h
  have hget : ∀ name, asciiLower name ∉ [signatureInputHeader, signatureHeader] →
      headers.get name = unsigned.request.headers.get name := by
    intro name hname
    rw [List.mem_cons, List.mem_singleton, not_or] at hname
    exact (Headers.get_set_of_ne hheaders hname.2).trans (Headers.get_set_of_ne hinputs hname.1)
  obtain ⟨hresent, -, hredirect⟩ := Request.resent_new rfl rfl rfl hget h
  exact ⟨hresent, hredirect⟩

end Resent

/-! ## Copies of the caller's request -/

def BodyFactory.Steady (bodyFactory : BodyFactory) : Prop :=
  ∀ i j a b, bodyFactory i = .ok a → bodyFactory j = .ok b →
    a.map BodyInit.bytes = b.map BodyInit.bytes

/-- A request with the caller's own headers, as far as the order is about them. -/
structure CallerCopy (task : ClientTask) (content copy : Request) : Prop where
  same : task.steady → SameContent content copy
  proof : copy.headers.get humanProofHeader = task.callerProof
  payment : copy.headers.get paymentSignatureHeader = task.callerPayment

structure RequestCopies.Of (task : ClientTask) (copies : RequestCopies) : Prop where
  first : CallerCopy task copies.first copies.first
  second : CallerCopy task copies.first copies.second
  third : CallerCopy task copies.first copies.third

section Copies

variable {urls : UrlParser} {task : ClientTask} {seed : Request} {copies : RequestCopies}

theorem replayable_clone_eq_ok {message : JsString} {copy : Request}
    (h : replayable seed.clone message = .ok copy) : copy = seed := by
  rw [replayable] at h
  cases hclone : seed.clone with
  | error error => rw [hclone] at h; cases h
  | ok clone =>
      rw [hclone] at h
      cases h
      exact Request.clone_eq_ok hclone

theorem clonedCopies_eq_ok {message : JsString} (h : clonedCopies seed message = .ok copies) :
    copies = ⟨seed, seed, seed⟩ := by
  obtain ⟨first, hfirst, h⟩ := bind_eq_ok.mp h
  obtain ⟨second, hsecond, h⟩ := bind_eq_ok.mp h
  obtain ⟨third, hthird, h⟩ := bind_eq_ok.mp h
  cases h
  rw [replayable_clone_eq_ok hfirst, replayable_clone_eq_ok hsecond, replayable_clone_eq_ok hthird]

/-- What both clients tell the constructor when they build a copy. -/
structure CopyInit (seed : Request) (init : Option BodyInit → RequestInit) : Prop where
  method : ∀ body, (init body).method = some seed.method
  headers : ∀ body, (init body).headers = some (.headers seed.headers)
  body : ∀ body, (init body).body = some body
  redirect : ∀ body, (init body).redirect = some .manual

theorem copyInit_copyInit (seed : Request) : CopyInit seed (copyInit seed) :=
  ⟨fun _ => rfl, fun _ => rfl, fun _ => rfl, fun _ => rfl⟩

theorem copyInit_agentCopyInit (seed : Request) : CopyInit seed (agentCopyInit seed) :=
  ⟨fun _ => rfl, fun _ => rfl, fun _ => rfl, fun _ => rfl⟩

structure BuiltCopy (urls : UrlParser) (seed : Request) (body : Option BodyInit) (copy : Request) :
    Prop where
  method : copy.method = normalizeMethod seed.method
  url : ∃ source, Request.ofUrl urls seed.url = .ok source ∧ copy.url = source.url
  body : copy.body = body.map BodyInit.bytes
  redirect : copy.redirect = .manual
  headers : ∀ name, asciiLower name ≠ js "content-type" →
    copy.headers.get name = seed.headers.get name

theorem ofUrl_body {text : JsString} {source : Request} (h : Request.ofUrl urls text = .ok source) :
    source.body = none := by
  rw [Request.ofUrl] at h
  split at h
  · cases h
  · split at h
    · cases h
    · cases h
      rfl

theorem builtCopy_of_new {init : Option BodyInit → RequestInit} (hinit : CopyInit seed init)
    {body : Option BodyInit} {copy : Request}
    (h : Request.new urls (.text seed.url) (init body) = .ok copy) :
    BuiltCopy urls seed body copy := by
  obtain ⟨source, hsource, hbuilt⟩ := Request.new_eq_ok h
  have hgiven : (init body).headers.getD (.headers source.headers) = .headers seed.headers := by
    rw [hinit.headers]
    rfl
  have htyped := hbuilt.headers _ hgiven
  refine ⟨?_, ⟨source, hsource, hbuilt.url⟩, ?_, ?_, fun name hname => ?_⟩
  · rw [hbuilt.method, hinit.method]
    rfl
  · rw [hbuilt.body, hinit.body, ofUrl_body hsource, Option.or_none]
    rfl
  · rw [hbuilt.redirect, hinit.redirect]
    rfl
  · exact BodyInit.get_headers htyped hname

theorem BuiltCopy.sameContent {a b : Option BodyInit} {first second : Request}
    (hfirst : BuiltCopy urls seed a first) (hsecond : BuiltCopy urls seed b second)
    (hbytes : a.map BodyInit.bytes = b.map BodyInit.bytes) : SameContent first second := by
  obtain ⟨source, hsource, hurl⟩ := hfirst.url
  obtain ⟨source', hsource', hurl'⟩ := hsecond.url
  cases hsource.symm.trans hsource'
  exact ⟨hfirst.method.trans hsecond.method.symm, hurl.trans hurl'.symm,
    hfirst.body.trans (hbytes.trans hsecond.body.symm),
    (hfirst.headers _ (by decide)).trans (hsecond.headers _ (by decide)).symm⟩

theorem builtCopies_eq_ok {init : Option BodyInit → RequestInit} (hinit : CopyInit seed init)
    {bodyFactory : BodyFactory} (h : builtCopies urls seed bodyFactory init = .ok copies) :
    ∃ a b c, bodyFactory 1 = .ok a ∧ bodyFactory 2 = .ok b ∧ bodyFactory 3 = .ok c ∧
      BuiltCopy urls seed a copies.first ∧ BuiltCopy urls seed b copies.second ∧
      BuiltCopy urls seed c copies.third := by
  obtain ⟨first, hfirst, h⟩ := bind_eq_ok.mp h
  obtain ⟨second, hsecond, h⟩ := bind_eq_ok.mp h
  obtain ⟨third, hthird, h⟩ := bind_eq_ok.mp h
  cases h
  obtain ⟨a, ha, hfirst⟩ := bind_eq_ok.mp hfirst
  obtain ⟨b, hb, hsecond⟩ := bind_eq_ok.mp hsecond
  obtain ⟨c, hc, hthird⟩ := bind_eq_ok.mp hthird
  exact ⟨a, b, c, ha, hb, hc, builtCopy_of_new hinit hfirst, builtCopy_of_new hinit hsecond,
    builtCopy_of_new hinit hthird⟩

/-- The headers of the task are those of the request that the caller describes. -/
structure ClientTask.For (task : ClientTask) (seed : Request) : Prop where
  proof : seed.headers.get humanProofHeader = task.callerProof
  payment : seed.headers.get paymentSignatureHeader = task.callerPayment

theorem copies_of_cloned (htask : task.For seed) :
    RequestCopies.Of task ⟨seed, seed, seed⟩ := by
  have hcopy : CallerCopy task seed seed := ⟨fun _ => .refl _, htask.proof, htask.payment⟩
  exact ⟨hcopy, hcopy, hcopy⟩

theorem copies_of_built {init : Option BodyInit → RequestInit} (hinit : CopyInit seed init)
    {bodyFactory : BodyFactory} (htask : task.For seed) (hsteady : task.steady → bodyFactory.Steady)
    (h : builtCopies urls seed bodyFactory init = .ok copies) :
    copies.Of task ∧ copies.first.redirect = .manual ∧ copies.second.redirect = .manual ∧
      copies.third.redirect = .manual := by
  obtain ⟨a, b, c, ha, hb, hc, hfirst, hsecond, hthird⟩ := builtCopies_eq_ok hinit h
  have hcopy : ∀ {i body copy}, bodyFactory i = .ok body → BuiltCopy urls seed body copy →
      CallerCopy task copies.first copy := fun hbody hcopy =>
    ⟨fun hs => hfirst.sameContent hcopy (hsteady hs _ _ _ _ ha hbody),
      (hcopy.headers _ (by decide)).trans htask.proof,
      (hcopy.headers _ (by decide)).trans htask.payment⟩
  exact ⟨⟨hcopy ha hfirst, hcopy hb hsecond, hcopy hc hthird⟩, hfirst.redirect, hsecond.redirect,
    hthird.redirect⟩

theorem callerHeader_of_new {input : RequestInfo} {init : RequestInit} {name : JsString}
    (h : Request.new urls input init = .ok seed) :
    seed.headers.get name = callerHeader urls input init name := by
  rw [callerHeader, h]
  rfl

end Copies

/-! ## The three clients -/

section Programs

variable {runtime : Runtime} {urls : UrlParser} {input : RequestInfo} {init : RequestInit}

def fetchTask (runtime : Runtime) (urls : UrlParser) (input : RequestInfo) (init : RequestInit) :
    ClientTask where
  runtime := runtime
  urls := urls
  limit := 2
  redirect := .manual
  callerProof := callerHeader urls input init humanProofHeader
  callerPayment := callerHeader urls input init paymentSignatureHeader
  steady := True

theorem matchChallenge_congr {a b : Request} (hmethod : a.method = b.method) (hurl : a.url = b.url)
    (response : Response) (requirement : RequirementDocument) :
    matchChallenge urls a response requirement = matchChallenge urls b response requirement := by
  rw [matchChallenge, matchChallenge, challengeUrl, challengeUrl, hmethod, hurl]

theorem refuseRedirect_eq_ok {request : Request} {response : Response}
    (h : refuseRedirect urls request response = .ok ()) : ¬ response.IsRedirect := by
  rw [refuseRedirect] at h
  split at h
  · cases h
  · split at h
    · cases h
    · rename_i htype
      split at h
      · cases h
      · rename_i hstatus
        exact fun hredirect => hredirect.elim htype hstatus

theorem challengeRequirement_eq_some {response : Response} {body : Option Json}
    {requirement : RequirementDocument}
    (h : challengeRequirement runtime response body = some requirement)
    (hbody : body = none ∨ body = response.json runtime.numbers) :
    response.Carries runtime requirement := by
  refine ⟨body, hbody, ?_⟩
  rw [challengeRequirement] at h
  cases hread : requirementFromChallenge runtime response.headers.get body with
  | error error => rw [hread] at h; cases h
  | ok found =>
      rw [hread] at h
      exact congrArg _ (Option.some.inj h)

theorem bodyRequirement_eq_some {response : Response} {requirement : RequirementDocument}
    (h : bodyRequirement runtime response = some requirement) :
    response.Carries runtime requirement := by
  rw [bodyRequirement] at h
  split at h
  · rename_i body hjson
    exact challengeRequirement_eq_some h (.inr hjson.symm)
  · split at h
    · exact challengeRequirement_eq_some h (.inl rfl)
    · cases h

theorem typedRequirement_eq_some {response : Response} {requirement : RequirementDocument}
    (h : typedRequirement runtime response = some requirement) :
    response.Carries runtime requirement := by
  rw [typedRequirement] at h
  split at h
  · exact bodyRequirement_eq_some h
  · split at h
    · exact challengeRequirement_eq_some h (.inl rfl)
    · cases h

theorem get_eq_none_of_not_has {headers : Headers} {name : JsString}
    (h : ¬ headers.has name = true) : headers.get name = none :=
  Option.not_isSome_iff_eq_none.mp h

theorem SendStep.start {task : ClientTask} {request : Request} (hlimit : 0 < task.limit)
    (hredirect : request.redirect = task.redirect)
    (hpayment : request.headers.get paymentSignatureHeader = task.callerPayment) :
    SendStep task ⟨[], 0, 0⟩ request :=
  ⟨hlimit, hredirect, fun _ _ hmem => absurd hmem List.not_mem_nil,
    fun hne => absurd hpayment hne, fun _ hmem => absurd hmem List.not_mem_nil⟩

/-- What was sent so far is the caller's request, and the answers were no redirects. -/
structure Midway (task : ClientTask) (content : Request)
    (exchanges : List (Request × Except JsError Response)) : Prop where
  same : task.steady → ∀ exchange ∈ exchanges, SameContent content exchange.1
  unredirected : ∀ exchange ∈ exchanges, ∀ response, exchange.2 = .ok response →
    ¬ response.IsRedirect

section Midway

variable {task : ClientTask} {content request : Request}
  {exchanges : List (Request × Except JsError Response)}

theorem Midway.send {account : ClientAccount} (h : Midway task content account.exchanges)
    (hcount : account.exchanges.length < task.limit) (hredirect : request.redirect = task.redirect)
    (hsame : task.steady → SameContent content request)
    (hpayment : request.headers.get paymentSignatureHeader ≠ task.callerPayment →
      request.headers.has humanProofHeader = true) : SendStep task account request :=
  ⟨hcount, hredirect, fun hs exchange hmem => (h.same hs exchange hmem).symm.trans (hsame hs),
    hpayment, h.unredirected⟩

theorem midway_nil : Midway task content [] :=
  ⟨fun _ _ hmem => absurd hmem List.not_mem_nil, fun _ hmem => absurd hmem List.not_mem_nil⟩

theorem Midway.sent (h : Midway task content exchanges) {response : Response}
    (hsame : task.steady → SameContent content request) (hseen : ¬ response.IsRedirect) :
    Midway task content (exchanges ++ [(request, .ok response)]) where
  same hs := List.forall_mem_append.mpr ⟨h.same hs, List.forall_mem_singleton.mpr (hsame hs)⟩
  unredirected := List.forall_mem_append.mpr ⟨h.unredirected, List.forall_mem_singleton.mpr
    fun _ hanswer => Except.ok.inj hanswer ▸ hseen⟩

end Midway

theorem fetchWithX424_follows :
    Follows (fetchTask runtime urls input init) (fun _ _ => True)
      (fetchWithX424 runtime urls input init)
      ⟨[], 0, 0⟩ := by
  refine .throws fun seed hseed => .throws fun retry hretry => .throws fun handed hhanded => ?_
  cases replayable_clone_eq_ok hretry
  obtain ⟨hresent, hheaders, hredirect⟩ := Request.resent_same rfl rfl rfl hhanded
  have hcaller := fun name => @callerHeader_of_new _ _ _ _ name hseed
  refine .bind (follows_send (.start (Nat.succ_pos _) hredirect ?_)) ?_
  · rw [hheaders]
    exact hcaller _
  rintro _ response rfl
  refine .throws fun _ hrefused => ?_
  have hseen := refuseRedirect_eq_ok hrefused
  split
  · exact .pure trivial
  rename_i hstatus
  split
  · exact .pure trivial
  rename_i hproof
  split
  · exact .pure trivial
  rename_i requirement hrequirement
  refine .throws fun _ hmatch => ?_
  have hmatch : matchChallenge urls handed response requirement = .ok () :=
    (matchChallenge_congr hresent.method hresent.url _ _).trans hmatch
  have hunsupplied : (fetchTask runtime urls input init).callerProof = none :=
    (hcaller _).symm.trans (get_eq_none_of_not_has hproof)
  refine .bind (follows_resolveHuman ⟨rfl, hunsupplied, handed, rfl, not_not.mp hstatus,
    typedRequirement_eq_some hrequirement, hmatch⟩) ?_
  rintro _ humanProof rfl
  refine .throws fun _ _ => .throws fun proven hproven => ?_
  obtain ⟨hsame, hmanual, hhas⟩ := provenRequest_eq_ok hproven
  have hcontent : SameContent handed proven :=
    (hresent.sameContent nofun).symm.trans (hsame.sameContent (by decide))
  refine (follows_send ⟨Nat.lt_succ_self _, hmanual, fun _ => ?_, fun _ => hhas, ?_⟩).mono
    fun _ _ _ => trivial
  · exact List.forall_mem_singleton.mpr hcontent
  · refine List.forall_mem_singleton.mpr fun _ hanswer => ?_
    exact Except.ok.inj hanswer ▸ hseen

def x402Task (runtime : Runtime) (urls : UrlParser) (input : RequestInfo) (init : RequestInit)
    (bodyFactory : Option BodyFactory) : ClientTask where
  runtime := runtime
  urls := urls
  limit := 3
  redirect := .manual
  callerProof := callerHeader urls input init humanProofHeader
  callerPayment := callerHeader urls input init paymentSignatureHeader
  steady := ∀ factory ∈ bodyFactory, factory.Steady

theorem requestCopies_eq_ok {bodyFactory : Option BodyFactory} {copies : RequestCopies}
    (h : requestCopies urls input init bodyFactory = .ok copies) :
    copies.Of (x402Task runtime urls input init bodyFactory) := by
  obtain ⟨seed, hseed, h⟩ := bind_eq_ok.mp h
  have htask : (x402Task runtime urls input init bodyFactory).For seed :=
    ⟨callerHeader_of_new hseed, callerHeader_of_new hseed⟩
  cases bodyFactory with
  | none =>
      cases clonedCopies_eq_ok h
      exact copies_of_cloned htask
  | some bodyFactory =>
      exact (copies_of_built (copyInit_copyInit seed) htask (fun hs => hs bodyFactory rfl) h).1

theorem requirementFromResponse_eq_ok {request : Request} {response : Response}
    {requirement : RequirementDocument}
    (h : requirementFromResponse runtime urls request response = .ok (some requirement)) :
    response.Carries runtime requirement ∧
      matchChallenge urls request response requirement = .ok () := by
  rw [requirementFromResponse] at h
  split at h
  · cases h
  · rename_i found hfound
    cases hmatch : matchChallenge urls request response found with
    | error error => rw [hmatch] at h; cases h
    | ok _ =>
        rw [hmatch] at h
        cases h
        exact ⟨typedRequirement_eq_some hfound, hmatch⟩

/-- The last part of both clients that pay: the answer on the table asks for a payment,
and the request that it answers carried a proof. -/
theorem paymentStep_of_last {account : ClientAccount} {sent : Request} {response : Response}
    {front : List (Request × Except JsError Response)}
    (hlast : account.exchanges = front ++ [(sent, .ok response)]) (hfirst : account.paymentAsks = 0)
    (hdue : response.status = 402) (hproof : sent.headers.has humanProofHeader = true) :
    PaymentStep account response :=
  ⟨hfirst, front, sent, hlast, hdue, hproof⟩

theorem quiet_settlePayment {task : ClientTask} (payment : PaymentDependencyResolution)
    (response : Response) : Quiet task (settlePayment payment response) := by
  intro account
  rw [settlePayment]
  split
  · exact .bind (quiet_processResponse response account) fun _ _ h => .pure h
  · exact .pure rfl

theorem payAndSend_follows {task : ClientTask} {content third sent currentRequest : Request}
    {humanProof : Option JsString} {account : ClientAccount} {response : Response}
    {front : List (Request × Except JsError Response)}
    (hmidway : Midway task content account.exchanges) (hmanual : task.redirect = .manual)
    (hthird : CallerCopy task content third)
    (hcount : account.exchanges.length < task.limit) (hfirst : account.paymentAsks = 0)
    (hlast : account.exchanges = front ++ [(sent, .ok response)])
    (hproof : humanProof.isSome = true ∨ currentRequest.headers.has humanProofHeader = true →
      sent.headers.has humanProofHeader = true) :
    Follows task (fun _ _ => True)
      (payAndSend urls third humanProof currentRequest response) account := by
  rw [payAndSend]
  split
  · exact .pure trivial
  rename_i hdue
  split
  · exact .fail
  rename_i hsupplied
  have hcarried : sent.headers.has humanProofHeader = true := by
    refine hproof ?_
    cases humanProof with
    | none => exact .inr (by simpa using hsupplied)
    | some proof => exact .inl rfl
  refine .bind (follows_resolvePayment
    (paymentStep_of_last hlast hfirst (not_not.mp hdue) hcarried)) ?_
  rintro _ payment rfl
  refine .throws fun _ _ => .throws fun headers hheaders => .throws fun final hfinal => ?_
  obtain ⟨hhas, hget⟩ := paidHeaders_eq_ok hheaders
  obtain ⟨hresent, hsame, hredirect⟩ := Request.resent_new rfl rfl rfl hget hfinal
  have hstep : SendStep task { account with paymentAsks := account.paymentAsks + 1 } final :=
    Midway.send hmidway hcount (hredirect.trans hmanual.symm)
      (fun hs => (hthird.same hs).trans (hresent.sameContent (by decide)))
      fun _ => hsame ▸ hhas
  refine .bind (follows_send hstep) ?_
  rintro _ finalResponse rfl
  refine .throws fun _ _ => ?_
  exact (quiet_settlePayment _ _ _).mono fun _ _ _ => trivial

theorem fetchWithX424AndX402_follows {bodyFactory : Option BodyFactory} :
    Follows (x402Task runtime urls input init bodyFactory) (fun _ _ => True)
      (fetchWithX424AndX402 runtime urls input init bodyFactory) ⟨[], 0, 0⟩ := by
  refine .throws fun copies hcopies => .throws fun handed hhanded => ?_
  have hof : copies.Of (x402Task runtime urls input init bodyFactory) :=
    requestCopies_eq_ok hcopies
  obtain ⟨hresent, hheaders, hredirect⟩ := Request.resent_same rfl rfl rfl hhanded
  have hsame : SameContent copies.first handed := hresent.sameContent nofun
  refine .bind (follows_send (.start (Nat.succ_pos _) hredirect ?_)) ?_
  · rw [hheaders]
    exact hof.first.payment
  rintro _ response rfl
  refine .throws fun _ hseen => ?_
  have hseen := assertNoRedirect_eq_ok hseen
  have hmidway := Midway.sent (@midway_nil (x402Task runtime urls input init bodyFactory) _)
    (fun _ => hsame) hseen
  split
  · rename_i hstatus
    split
    · exact .pure trivial
    rename_i hproof
    have hunsupplied : (x402Task runtime urls input init bodyFactory).callerProof = none :=
      hof.first.proof.symm.trans (get_eq_none_of_not_has hproof)
    refine .throws fun found hfound => ?_
    cases found with
    | none => exact .pure trivial
    | some requirement =>
        obtain ⟨hcarries, hmatch⟩ := requirementFromResponse_eq_ok hfound
        have hmatch : matchChallenge urls handed response requirement = .ok () :=
          (matchChallenge_congr hresent.method hresent.url _ _).trans hmatch
        refine .bind (follows_resolveHuman
          ⟨rfl, hunsupplied, handed, rfl, hstatus, hcarries, hmatch⟩) ?_
        rintro _ humanProof rfl
        refine .throws fun _ _ => .throws fun proven hproven => ?_
        obtain ⟨hagain, hmanual, hhas⟩ := provenRequest_eq_ok hproven
        have hcontent := fun hs => (hof.second.same hs).trans (hagain.sameContent (by decide))
        refine .bind (follows_send (Midway.send hmidway (by simp [x402Task]) hmanual hcontent
          fun _ => hhas)) ?_
        rintro _ answer rfl
        refine .throws fun _ hanswer => ?_
        exact payAndSend_follows (hmidway.sent hcontent (assertNoRedirect_eq_ok hanswer))
          rfl hof.third (by simp [x402Task]) rfl rfl fun _ => hhas
  · refine payAndSend_follows hmidway rfl hof.third (by simp [x402Task]) rfl rfl fun h => ?_
    rw [hheaders]
    exact h.resolve_left nofun

/-! ## The agent client -/

def RequestInfo.redirect : RequestInfo → RequestRedirect
  | .text _ => .follow
  | .request source => source.redirect

def requestedRedirect (input : RequestInfo) (init : RequestInit) : RequestRedirect :=
  init.redirect.getD input.redirect

def agentTask (runtime : Runtime) (urls : UrlParser) (input : RequestInfo) (init : RequestInit)
    (bodyFactory : Option BodyFactory) : ClientTask where
  runtime := runtime
  urls := urls
  limit := 3
  redirect := if bodyFactory.isSome then .manual else requestedRedirect input init
  callerProof := callerHeader urls input init humanProofHeader
  callerPayment := callerHeader urls input init paymentSignatureHeader
  steady := ∀ factory ∈ bodyFactory, factory.Steady

theorem ofUrl_redirect {text : JsString} {source : Request}
    (h : Request.ofUrl urls text = .ok source) : source.redirect = .follow := by
  rw [Request.ofUrl] at h
  split at h
  · cases h
  · split at h
    · cases h
    · cases h
      rfl

theorem redirect_of_new {seed : Request} (h : Request.new urls input init = .ok seed) :
    seed.redirect = requestedRedirect input init := by
  obtain ⟨source, hsource, hbuilt⟩ := Request.new_eq_ok h
  rw [hbuilt.redirect, requestedRedirect]
  cases input with
  | text url =>
      rw [ofUrl_redirect hsource]
      rfl
  | request given =>
      cases hsource
      rfl

structure RequestCopies.Ready (task : ClientTask) (copies : RequestCopies) : Prop where
  of : copies.Of task
  first : copies.first.redirect = task.redirect
  second : copies.second.redirect = task.redirect
  third : copies.third.redirect = task.redirect

theorem agentRequestCopies_eq_ok {bodyFactory : Option BodyFactory} {copies : RequestCopies}
    (h : agentRequestCopies urls input init bodyFactory = .ok copies) :
    copies.Ready (agentTask runtime urls input init bodyFactory) := by
  obtain ⟨seed, hseed, h⟩ := bind_eq_ok.mp h
  have htask : (agentTask runtime urls input init bodyFactory).For seed :=
    ⟨callerHeader_of_new hseed, callerHeader_of_new hseed⟩
  cases bodyFactory with
  | none =>
      cases clonedCopies_eq_ok h
      have hredirect := redirect_of_new hseed
      exact ⟨copies_of_cloned htask, hredirect, hredirect, hredirect⟩
  | some bodyFactory =>
      obtain ⟨hof, hfirst, hsecond, hthird⟩ :=
        copies_of_built (copyInit_agentCopyInit seed) htask (fun hs => hs bodyFactory rfl) h
      exact ⟨hof, hfirst, hsecond, hthird⟩

section Agent

variable {task : ClientTask} {copies : RequestCopies} {createHash : List UInt8 → List UInt8}
  {account : ClientAccount}

theorem ready_withHeaders {keyed : RequestCopies} {headers : Headers} (h : copies.Ready task)
    (hget : ∀ name, asciiLower name ∉ [idempotencyKeyHeader] →
      headers.get name = copies.first.headers.get name)
    (hfirst : withHeaders urls copies.first headers = .ok keyed.first)
    (hsecond : withHeaders urls copies.second headers = .ok keyed.second)
    (hthird : withHeaders urls copies.third headers = .ok keyed.third) : keyed.Ready task := by
  have hother : ∀ {copy again : Request}, CallerCopy task copies.first copy →
      withHeaders urls copy headers = .ok again →
        CallerCopy task keyed.first again ∧ again.redirect = copy.redirect := by
    intro copy again hcopy hagain
    obtain ⟨hurl, hmethod, hbody, hredirect, hkept⟩ := Request.new_request_eq_ok rfl rfl hagain
    obtain ⟨hurl', hmethod', hbody', -, hkept'⟩ := Request.new_request_eq_ok rfl rfl hfirst
    have hsame : again.headers = headers := hkept headers rfl
    have hsame' : keyed.first.headers = headers := hkept' headers rfl
    refine ⟨⟨fun hs => ?_, ?_, ?_⟩, hredirect⟩
    · have hcontent := hcopy.same hs
      exact ⟨hmethod'.trans (hcontent.method.trans hmethod.symm),
        hurl'.trans (hcontent.url.trans hurl.symm), hbody'.trans (hcontent.body.trans hbody.symm),
        by rw [hsame, hsame']⟩
    · rw [hsame, hget _ (by decide)]
      exact h.of.first.proof
    · rw [hsame, hget _ (by decide)]
      exact h.of.first.payment
  obtain ⟨hcopy, hredirect⟩ := hother h.of.first hfirst
  obtain ⟨hcopy', hredirect'⟩ := hother h.of.second hsecond
  obtain ⟨hcopy'', hredirect''⟩ := hother h.of.third hthird
  exact ⟨⟨hcopy, hcopy', hcopy''⟩, hredirect.trans h.first, hredirect'.trans h.second,
    hredirect''.trans h.third⟩

theorem keyedCopies_follows (h : copies.Ready task) :
    Follows task (fun after keyed => after = account ∧ keyed.Ready task)
      (keyedCopies urls copies) account := by
  rw [keyedCopies]
  split
  · exact .pure ⟨rfl, h⟩
  refine .bind (quiet_randomBytes 18 account) ?_
  rintro _ random rfl
  refine .throws fun headers hheaders => .throws fun first hfirst => .throws fun second hsecond =>
    .throws fun third hthird => .pure ⟨rfl, ?_⟩
  exact ready_withHeaders h (fun name hname => Headers.get_set_of_ne hheaders fun heq =>
    hname (heq ▸ List.mem_cons_self)) hfirst hsecond hthird

theorem signAgentRequest_follows (request : Request) (signer : AgentRequestSigner)
    (nonce : Option JsString) :
    Follows task (fun after signed => after = account ∧ request.Resent signatureNames signed ∧
        signed.redirect = request.redirect)
      (signAgentRequest urls createHash request signer nonce) account := by
  have hsign : ∀ now nonce, Follows task (fun after signed => after = account ∧
      request.Resent signatureNames signed ∧ signed.redirect = request.redirect)
      (do
        let unsigned ← .ofExcept
          (unsignedRequest urls createHash request signer nonce now (some 60))
        let signature ← ClientProgram.sign unsigned.base
        .ofExcept (signedRequest urls unsigned signature)) account := by
    intro now nonce
    refine .throws fun unsigned hunsigned => .bind (quiet_sign _ account) ?_
    rintro _ signature rfl
    intro said hsaid
    refine Dialogue.keeps_ofExcept.mpr fun signed hsigned => ?_
    obtain ⟨_, -, -, hdigested, -, -⟩ := unsignedRequest_eq_ok hunsigned
    obtain ⟨hdigest, hredirect⟩ := digestedRequest_eq_ok hdigested
    obtain ⟨hsignature, hredirect'⟩ := signedRequest_eq_ok hsigned
    exact ⟨hsaid, hdigest.trans hsignature, hredirect'.trans hredirect⟩
  rw [signAgentRequest]
  refine .bind (quiet_now account) ?_
  rintro after now hafter
  subst hafter
  cases nonce with
  | some nonce => exact hsign now nonce
  | none =>
      have hrandom : Follows task (fun last _ => last = after)
          (encodeStrictBase64Url <$> ClientProgram.randomBytes 16) after :=
        .bind (quiet_randomBytes 16 after) fun _ _ h => .pure h
      refine .bind hrandom ?_
      rintro _ random rfl
      exact hsign now _

theorem quiet_waitForHandoff (options : X424AgentClientOptions) (started : StartedHumanHandoff)
    (polls : Nat) : Quiet task (waitForHandoff options started polls) := by
  induction polls with
  | zero => exact fun _ => .fail
  | succ polls ih =>
      intro account
      refine .bind (quiet_signalAborted options account) ?_
      rintro _ aborted rfl
      split
      · refine .bind (quiet_presentTo options _ _) fun _ _ _ => .fail
      refine .bind (quiet_getHandoff _ _ _) ?_
      rintro _ view rfl
      split
      · refine .bind (quiet_presentTo options _ _) ?_
        rintro _ _ rfl
        refine .bind (quiet_delay _ _) ?_
        rintro _ _ rfl
        exact ih _
      · refine .bind (quiet_presentTo options _ _) ?_
        rintro _ _ rfl
        exact .pure rfl

theorem agentHandoff_follows {options : X424AgentClientOptions} {polls : Nat}
    {requirement : RequirementDocument} {response : Response}
    (h : HumanStep task account requirement response) :
    Follows task (fun after _ => after = { account with humanAsks := account.humanAsks + 1 })
      (agentHandoff options polls requirement) account := by
  refine .throws fun selected _ =>
    .bind (follows_startHandoff ⟨requirement, response, h, rfl, rfl⟩) ?_
  rintro _ started rfl
  refine .bind (quiet_presentTo options _ _) ?_
  rintro _ _ rfl
  refine @Follows.bind _ _ _ _ (fun after view => ∀ value, view = .ok value →
    after = { account with humanAsks := account.humanAsks + 1 }) _ _ _ (.attempt ?_ ?_) ?_
  · exact (quiet_waitForHandoff options started polls _).mono fun _ _ h _ _ => h
  · exact fun _ _ _ => nofun
  rintro after (error | view) hview
  · exact .bind (quiet_cancelHandoff _ _ _) fun _ _ _ => .fail
  · cases hview view rfl
    exact fun said hsaid => Dialogue.keeps_ofExcept.mpr fun _ _ => hsaid

theorem agentRequirementFromResponse_eq_some {request : Request} {response : Response}
    {requirement : RequirementDocument}
    (h : agentRequirementFromResponse runtime urls request response = some requirement) :
    response.Carries runtime requirement ∧
      matchChallenge urls request response requirement = .ok () := by
  obtain ⟨hread, hok⟩ := Option.filter_eq_some_iff.mp h
  refine ⟨bodyRequirement_eq_some hread, ?_⟩
  cases hmatch : matchChallenge urls request response requirement with
  | error error => rw [hmatch] at hok; cases hok
  | ok _ => rfl

theorem agentPay_follows {options : X424AgentClientOptions} {requirement : RequirementDocument}
    {content third sent : Request} {humanProof : JsString} {response : Response}
    {front : List (Request × Except JsError Response)}
    (hmidway : Midway task content account.exchanges) (hthird : CallerCopy task content third)
    (hredirect : third.redirect = task.redirect)
    (hcount : account.exchanges.length < task.limit) (hfirst : account.paymentAsks = 0)
    (hlast : account.exchanges = front ++ [(sent, .ok response)])
    (hproof : sent.headers.has humanProofHeader = true) :
    Follows task (fun _ _ => True)
      (agentPay urls createHash options requirement third humanProof sent response) account := by
  rw [agentPay]
  split
  · exact .pure trivial
  rename_i hdue
  have hdue : response.status = 402 := by
    simp only [Bool.or_eq_true, decide_eq_true_eq, not_or, not_not] at hdue
    exact hdue.1
  refine .bind (follows_resolvePayment (paymentStep_of_last hlast hfirst hdue hproof)) ?_
  rintro _ payment rfl
  refine .throws fun paid hpaid => ?_
  obtain ⟨headers, hheaders, hpaid⟩ := bind_eq_ok.mp hpaid
  obtain ⟨hhas, hget⟩ := paidHeaders_eq_ok hheaders
  obtain ⟨hresent, hsame, hmode⟩ := withHeaders_eq_ok hget hpaid
  refine .bind (signAgentRequest_follows paid options.signer _) ?_
  rintro _ final ⟨rfl, hsigned, hmode'⟩
  have hcarried : final.headers.has humanProofHeader = true := by
    rw [Headers.has, hsigned.headers _ (by decide), hsame]
    exact hhas
  refine .bind (follows_send (Midway.send hmidway hcount (hmode'.trans (hmode.trans hredirect))
    (fun hs => (hthird.same hs).trans ((hresent.trans hsigned).sameContent (by decide)))
    fun _ => hcarried)) ?_
  rintro _ finalResponse rfl
  refine .throws fun _ _ => ?_
  exact (quiet_settlePayment _ _ _).mono fun _ _ _ => trivial

end Agent

theorem fetchWithAgentDependencies_follows {createHash : List UInt8 → List UInt8}
    {options : X424AgentClientOptions} {polls : Nat} :
    Follows (agentTask runtime urls input init options.bodyFactory) (fun _ _ => True)
      (fetchWithAgentDependencies runtime urls createHash options polls input init) ⟨[], 0, 0⟩ := by
  refine .throws fun copies hcopies => ?_
  refine .bind (keyedCopies_follows (agentRequestCopies_eq_ok hcopies)) ?_
  rintro _ requests ⟨rfl, hready⟩
  refine .bind (signAgentRequest_follows requests.first options.signer none) ?_
  rintro _ current ⟨rfl, hsigned, hmode⟩
  have hsame : SameContent requests.first current := hsigned.sameContent (by decide)
  have hfirst := hready.of.first
  refine .bind (follows_send (.start (Nat.succ_pos _) (hmode.trans hready.first) ?_)) ?_
  · rw [hsigned.headers _ (by decide)]
    exact hfirst.payment
  rintro _ response rfl
  refine .throws fun _ hseen => ?_
  have hmidway := Midway.sent
    (@midway_nil (agentTask runtime urls input init options.bodyFactory) _) (fun _ => hsame)
      (assertNoRedirect_eq_ok hseen)
  split
  · exact .pure trivial
  rename_i hstatus
  split
  · exact .pure trivial
  rename_i hproof
  split
  · exact .pure trivial
  rename_i requirement hfound
  have hunsupplied :
      (agentTask runtime urls input init options.bodyFactory).callerProof = none := by
    rw [← hfirst.proof, ← hsigned.headers _ (by decide)]
    exact get_eq_none_of_not_has hproof
  obtain ⟨hcarries, hmatch⟩ := agentRequirementFromResponse_eq_some hfound
  refine .bind (agentHandoff_follows
    ⟨rfl, hunsupplied, current, rfl, not_not.mp hstatus, hcarries, hmatch⟩) ?_
  rintro _ humanProof rfl
  refine .throws fun proven hproven => ?_
  obtain ⟨headers, hheaders, hproven⟩ := bind_eq_ok.mp hproven
  obtain ⟨hresent, hkept, hmode'⟩ := @withHeaders_eq_ok _ [humanProofHeader] _ _ _
    (fun name hname => Headers.get_set_of_ne hheaders fun heq =>
      hname (heq ▸ List.mem_cons_self)) hproven
  refine .bind (signAgentRequest_follows proven options.signer _) ?_
  rintro _ again ⟨rfl, hagain, hmode''⟩
  have hcarried : again.headers.has humanProofHeader = true := by
    rw [Headers.has, hagain.headers _ (by decide), hkept]
    exact Headers.has_set_self hheaders
  have hcontent := fun hs => (hready.of.second.same hs).trans
    ((hresent.trans hagain).sameContent (by decide))
  refine .bind (follows_send (Midway.send hmidway (by simp [agentTask])
    (hmode''.trans (hmode'.trans hready.second)) hcontent fun _ => hcarried)) ?_
  rintro _ answer rfl
  refine .throws fun _ hanswer => ?_
  exact agentPay_follows (hmidway.sent hcontent (assertNoRedirect_eq_ok hanswer))
    hready.of.third hready.third (by simp [agentTask]) rfl rfl hcarried

end Programs

end X424
