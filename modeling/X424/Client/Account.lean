import X424.Client.Flows

/-!
# What a client may do next

The account of a run holds the requests that were sent with their answers, and
how often a human or a payment was asked for.  `ClientStep` says which calls
are in order by the account so far, and `DependencyOrder` what a run in which
every call is in order looks like.
-/

namespace X424

open Foundation

/-! ## Accounts -/

structure ClientAccount where
  exchanges : List (Request × Except JsError Response)
  humanAsks : Nat
  paymentAsks : Nat

def ClientAccount.note (account : ClientAccount) : ClientExchange → ClientAccount
  | ⟨.send request, answer⟩ =>
      { account with exchanges := account.exchanges ++ [(request, answer)] }
  | ⟨.resolveHuman _ _, _⟩ => { account with humanAsks := account.humanAsks + 1 }
  | ⟨.startHandoff _, _⟩ => { account with humanAsks := account.humanAsks + 1 }
  | ⟨.resolvePayment _ _, _⟩ => { account with paymentAsks := account.paymentAsks + 1 }
  | _ => account

def accountOf (said : List ClientExchange) : ClientAccount :=
  said.foldl ClientAccount.note ⟨[], 0, 0⟩

theorem accountOf_concat (said : List ClientExchange) (exchange : ClientExchange) :
    accountOf (said ++ [exchange]) = (accountOf said).note exchange := by
  rw [accountOf, List.foldl_append]
  rfl

def requestsSent (said : List ClientExchange) : List Request :=
  (accountOf said).exchanges.map Prod.fst

/-! ## Steps -/

def callerHeader (urls : UrlParser) (input : RequestInfo) (init : RequestInit) (name : JsString) :
    Option JsString :=
  (Request.new urls input init).toOption.bind fun seed => seed.headers.get name

structure SameContent (a b : Request) : Prop where
  method : a.method = b.method
  url : a.url = b.url
  body : a.body = b.body
  idempotencyKey : a.headers.get idempotencyKeyHeader = b.headers.get idempotencyKeyHeader

theorem SameContent.refl (a : Request) : SameContent a a := ⟨rfl, rfl, rfl, rfl⟩

theorem SameContent.symm {a b : Request} (h : SameContent a b) : SameContent b a :=
  ⟨h.method.symm, h.url.symm, h.body.symm, h.idempotencyKey.symm⟩

theorem SameContent.trans {a b c : Request} (h : SameContent a b) (h' : SameContent b c) :
    SameContent a c :=
  ⟨h.method.trans h'.method, h.url.trans h'.url, h.body.trans h'.body,
    h.idempotencyKey.trans h'.idempotencyKey⟩

structure ClientTask where
  runtime : Runtime
  urls : UrlParser
  limit : Nat
  redirect : RequestRedirect
  callerProof : Option JsString
  callerPayment : Option JsString
  steady : Prop

structure SendStep (task : ClientTask) (account : ClientAccount) (request : Request) : Prop where
  count : account.exchanges.length < task.limit
  redirect : request.redirect = task.redirect
  same : task.steady → ∀ exchange ∈ account.exchanges, SameContent exchange.1 request
  payment : request.headers.get paymentSignatureHeader ≠ task.callerPayment →
    request.headers.has humanProofHeader = true
  unredirected : ∀ exchange ∈ account.exchanges, ∀ response, exchange.2 = .ok response →
    ¬ response.IsRedirect

/-- A requirement that an answer carries, in a header or in its body. -/
def Response.Carries (runtime : Runtime) (response : Response) (requirement : RequirementDocument) :
    Prop :=
  ∃ body, (body = none ∨ body = response.json runtime.numbers) ∧
    requirementFromChallenge runtime response.headers.get body = .ok requirement

structure HumanStep (task : ClientTask) (account : ClientAccount)
    (requirement : RequirementDocument) (response : Response) : Prop where
  first : account.humanAsks = 0
  unsupplied : task.callerProof = none
  challenged : ∃ request, account.exchanges = [(request, .ok response)] ∧
    response.status = 424 ∧ response.Carries task.runtime requirement ∧
    matchChallenge task.urls request response requirement = .ok ()

structure PaymentStep (account : ClientAccount) (response : Response) : Prop where
  first : account.paymentAsks = 0
  due : ∃ front request, account.exchanges = front ++ [(request, .ok response)] ∧
    response.status = 402 ∧ request.headers.has humanProofHeader = true

def ClientStep (task : ClientTask) (account : ClientAccount) : ClientCall → Prop
  | .send request => SendStep task account request
  | .resolveHuman requirement response => HumanStep task account requirement response
  | .startHandoff input => ∃ requirement response, HumanStep task account requirement response ∧
      input.dependencyId = requirement.dependencyId ∧ input.nonce = requirement.nonce
  | .resolvePayment response _ => PaymentStep account response
  | _ => True

abbrev InOrder (task : ClientTask) : List ClientExchange → Prop :=
  Dialogue.Allowed (I := clientInterface) fun said call => ClientStep task (accountOf said) call

/-! ## Whole runs -/

structure DependencyOrder (task : ClientTask) (said : List ClientExchange) : Prop where
  atMost : (requestsSent said).length ≤ task.limit
  sameContent : task.steady →
    ∀ a ∈ requestsSent said, ∀ b ∈ requestsSent said, SameContent a b
  payment : ∀ request ∈ requestsSent said,
    request.headers.get paymentSignatureHeader ≠ task.callerPayment →
      request.headers.has humanProofHeader = true
  paymentOnce : (accountOf said).paymentAsks ≤ 1
  paymentDue : ∀ front response request answer back,
    said = front ++ ⟨.resolvePayment response request, answer⟩ :: back →
      ∃ earlier sent, (accountOf front).exchanges = earlier ++ [(sent, .ok response)] ∧
        response.status = 402 ∧ sent.headers.has humanProofHeader = true
  humanOnce : (accountOf said).humanAsks ≤ 1
  humanUnsupplied : task.callerProof.isSome = true → (accountOf said).humanAsks = 0
  redirected : ∀ front request response back,
    said = front ++ ⟨.send request, .ok response⟩ :: back → response.IsRedirect →
      requestsSent said = requestsSent (front ++ [⟨.send request, .ok response⟩])

section Runs

variable {task : ClientTask} {said : List ClientExchange}

theorem requestsSent_concat (exchange : ClientExchange) :
    requestsSent (said ++ [exchange]) = requestsSent said ∨
      ∃ request answer, exchange = ⟨.send request, answer⟩ ∧
        requestsSent (said ++ [exchange]) = requestsSent said ++ [request] := by
  rw [requestsSent, accountOf_concat]
  obtain ⟨call, answer⟩ := exchange
  cases call with
  | send request => exact .inr ⟨request, answer, rfl, List.map_append⟩
  | _ => exact .inl rfl

theorem InOrder.requests {P : Request → Prop}
    (hstep : ∀ account request, SendStep task account request → P request)
    (h : InOrder task said) : ∀ request ∈ requestsSent said, P request := by
  refine h.induction (P := fun said => ∀ request ∈ requestsSent said, P request)
    (fun _ hmem => absurd hmem List.not_mem_nil) ?_
  intro said exchange ih hallowed request hrequest
  rcases requestsSent_concat exchange with hsame | ⟨sent, answer, rfl, hsent⟩
  · exact ih request (hsame ▸ hrequest)
  · rw [hsent] at hrequest
    rcases List.mem_append.mp hrequest with hold | hnew
    · exact ih request hold
    · rw [List.mem_singleton.mp hnew]
      exact hstep _ _ hallowed

theorem InOrder.atMost (h : InOrder task said) : (requestsSent said).length ≤ task.limit := by
  refine h.induction (P := fun said => (requestsSent said).length ≤ task.limit) (Nat.zero_le _) ?_
  intro said exchange ih hallowed
  rcases requestsSent_concat exchange with hsame | ⟨request, answer, rfl, hsent⟩
  · rwa [hsame]
  · have hcount := (hallowed : SendStep _ _ _).count
    rw [hsent, List.length_append, requestsSent, List.length_map]
    exact hcount

theorem InOrder.sameContent (h : InOrder task said) (hsteady : task.steady) :
    ∀ a ∈ requestsSent said, ∀ b ∈ requestsSent said, SameContent a b := by
  refine h.induction
    (P := fun said => ∀ a ∈ requestsSent said, ∀ b ∈ requestsSent said, SameContent a b)
    (fun _ hmem => absurd hmem List.not_mem_nil) ?_
  intro said exchange ih hallowed
  rcases requestsSent_concat exchange with hsame | ⟨request, answer, rfl, hsent⟩
  · rwa [hsame]
  · have hrequest : ∀ a ∈ requestsSent said, SameContent a request := by
      intro a ha
      obtain ⟨earlier, hearlier, rfl⟩ := List.mem_map.mp ha
      exact (hallowed : SendStep _ _ _).same hsteady earlier hearlier
    rw [hsent]
    intro a ha b hb
    rcases List.mem_append.mp ha with ha | ha <;> rcases List.mem_append.mp hb with hb | hb
    · exact ih a ha b hb
    · exact List.mem_singleton.mp hb ▸ hrequest a ha
    · exact List.mem_singleton.mp ha ▸ (hrequest b hb).symm
    · rw [List.mem_singleton.mp ha, List.mem_singleton.mp hb]
      exact .refl _

theorem InOrder.asks (h : InOrder task said) :
    (accountOf said).paymentAsks ≤ 1 ∧ (accountOf said).humanAsks ≤ 1 ∧
      (task.callerProof.isSome = true → (accountOf said).humanAsks = 0) := by
  refine h.induction (P := fun said => (accountOf said).paymentAsks ≤ 1 ∧
    (accountOf said).humanAsks ≤ 1 ∧ (task.callerProof.isSome = true →
      (accountOf said).humanAsks = 0)) ⟨Nat.zero_le _, Nat.zero_le _, fun _ => rfl⟩ ?_
  rintro said ⟨call, answer⟩ ⟨hpayment, hhuman, hsupplied⟩ hallowed
  have hfirst : ∀ requirement response, HumanStep task (accountOf said) requirement response →
      (accountOf said).humanAsks + 1 ≤ 1 ∧
        (task.callerProof.isSome = true → (accountOf said).humanAsks + 1 = 0) := by
    intro requirement response hstep
    rw [hstep.first, hstep.unsupplied]
    exact ⟨le_rfl, nofun⟩
  rw [accountOf_concat]
  cases call with
  | resolveHuman requirement response =>
      exact ⟨hpayment, hfirst requirement response hallowed⟩
  | startHandoff input =>
      obtain ⟨requirement, response, hstep, -⟩ := hallowed
      exact ⟨hpayment, hfirst requirement response hstep⟩
  | resolvePayment response request =>
      exact ⟨(Nat.add_le_add_right (hallowed : PaymentStep _ _).first.le 1), hhuman, hsupplied⟩
  | _ => exact ⟨hpayment, hhuman, hsupplied⟩

theorem exchange_mem {front back : List ClientExchange} {request : Request}
    {answer : Except JsError Response} :
    (request, answer) ∈ (accountOf (front ++ ⟨.send request, answer⟩ :: back)).exchanges := by
  induction back using List.reverseRecOn with
  | nil =>
      rw [accountOf_concat]
      exact List.mem_append_right _ List.mem_cons_self
  | append_singleton back exchange ih =>
      rw [← List.cons_append, ← List.append_assoc, accountOf_concat]
      obtain ⟨call, answer'⟩ := exchange
      cases call with
      | send other => exact List.mem_append_left _ ih
      | _ => exact ih

theorem InOrder.redirected (h : InOrder task said) {front back : List ClientExchange}
    {request : Request} {response : Response}
    (heq : said = front ++ ⟨.send request, .ok response⟩ :: back)
    (hredirect : response.IsRedirect) :
    requestsSent said = requestsSent (front ++ [⟨.send request, .ok response⟩]) := by
  subst heq
  induction back using List.reverseRecOn with
  | nil => rfl
  | append_singleton back exchange ih =>
      rw [← List.cons_append, ← List.append_assoc] at h ⊢
      obtain ⟨hfront, hlast⟩ := h.of_concat
      rw [← ih hfront]
      rcases requestsSent_concat exchange with hsame | ⟨later, answer, rfl, -⟩
      · exact hsame
      · exact absurd hredirect ((hlast : SendStep _ _ _).unredirected _ exchange_mem response rfl)

theorem InOrder.dependencyOrder (h : InOrder task said) : DependencyOrder task said where
  atMost := h.atMost
  sameContent := h.sameContent
  payment := h.requests fun _ _ hstep => hstep.payment
  paymentOnce := h.asks.1
  paymentDue front _ _ _ back heq :=
    ((h front _ back heq : ClientStep _ _ _) : PaymentStep _ _).due
  humanOnce := h.asks.2.1
  humanUnsupplied := h.asks.2.2
  redirected _ _ _ _ heq hredirect := h.redirected heq hredirect

end Runs

end X424
