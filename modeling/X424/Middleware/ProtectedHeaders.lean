import X424.Middleware.ServerResponse

/-!
# Protected responses are not cached

Whatever handlers do to a guarded response, the head that is sent keeps it out
of shared caches, and its `Vary` names the proof header and what else was set.
-/

namespace X424

open Foundation Foundation.Effect

/-! ## The methods of Node -/

section Node

variable {response : ServerResponse} {name other : JsString} {value : Option HeaderValue}
  {stored : StoredValue}

@[simp] theorem ServerResponse.put_sent : (response.put name stored).sent = response.sent := rfl

theorem ServerResponse.stored_put :
    (response.put name stored).stored other =
      if toLowerCase other = toLowerCase name then some stored else response.stored other := by
  rw [ServerResponse.stored, ServerResponse.put, Option.bind_some, Function.update_apply]
  split_ifs
  · rfl
  · rw [ServerResponse.stored]
    cases response.outHeaders <;> rfl

theorem ServerResponse.stored_erase :
    (response.erase name).stored other =
      if toLowerCase other = toLowerCase name then none else response.stored other := by
  rw [ServerResponse.stored, ServerResponse.erase, ServerResponse.stored]
  cases response.outHeaders with
  | none => exact (ite_self _).symm
  | some headers =>
      rw [Option.map_some, Option.bind_some, Function.update_apply]
      rfl

theorem validateHeader_eq_ok :
    validateHeader name value = .ok stored ↔ isToken name = true ∧ value = some stored.1 := by
  unfold validateHeader
  split_ifs with htoken
  · cases value with
    | none => exact ⟨nofun, nofun⟩
    | some value =>
        change (if h : value.isValid = true then _ else _) = _ ↔ _
        split_ifs with hvalid
        · constructor
          · intro h
            exact ⟨htoken, congrArg (some ·.1) (Except.ok.inj h)⟩
          · rintro ⟨_, h⟩
            exact congrArg Except.ok (Subtype.ext (Option.some.inj h))
        · refine ⟨nofun, ?_⟩
          rintro ⟨_, h⟩
          exact absurd (Option.some.inj h ▸ stored.2) hvalid
  · exact ⟨nofun, fun h => absurd h.1 (by simpa using htoken)⟩

theorem nodeSetHeader_ok (hsent : response.sent = none)
    (hvalid : validateHeader name value = .ok stored) :
    (nodeSetHeader name value).result response = .ok () ∧
      (nodeSetHeader name value).after response = response.put name stored := by
  rw [nodeSetHeader, result_get_bind, after_get_bind, hsent, hvalid]
  exact ⟨rfl, rfl⟩

theorem nodeSetHeader_cases (name : JsString) (value : Option HeaderValue)
    (response : ServerResponse) :
    (∃ stored, response.sent = none ∧ isToken name = true ∧ value = some stored.1 ∧
      (nodeSetHeader name value).result response = .ok () ∧
        (nodeSetHeader name value).after response = response.put name stored) ∨
      (∃ error, (nodeSetHeader name value).result response = .error error) ∧
        (nodeSetHeader name value).after response = response := by
  cases hsent : response.sent with
  | some head =>
      right
      rw [nodeSetHeader, result_get_bind, after_get_bind, hsent]
      exact ⟨⟨_, rfl⟩, rfl⟩
  | none =>
      cases hvalid : validateHeader name value with
      | error error =>
          right
          rw [nodeSetHeader, result_get_bind, after_get_bind, hsent, hvalid]
          exact ⟨⟨_, rfl⟩, rfl⟩
      | ok stored =>
          left
          obtain ⟨htoken, hvalue⟩ := validateHeader_eq_ok.mp hvalid
          exact ⟨stored, rfl, htoken, hvalue, nodeSetHeader_ok hsent hvalid⟩

end Node

/-! ## What the guard keeps -/

def VaryCovers (vary token : JsString) : Prop :=
  vary = wildcard ∨ ∃ named ∈ varyTokens vary, toLowerCase named = toLowerCase token

/-- The text of `Vary`, empty if it is not set. -/
def ServerResponse.vary (response : ServerResponse) : JsString :=
  currentVary (response.getHeader (js "vary"))

/-- The head keeps the response out of caches and varies on the token. -/
structure ProtectedHead (token : JsString) (head : ResponseHead) : Prop where
  cacheControl : head.headers (js "cache-control") = [X424_PROTECTED_CACHE_CONTROL]
  vary : ∃ vary, head.headers (js "vary") = [vary] ∧ VaryCovers vary token

structure VariesOn (token : JsString) (response : ServerResponse) : Prop where
  guarded : response.protectedHeadersInstalled = true
  mentions : response.sent = none → Mentions response.vary token
  sent : ∀ head, response.sent = some head → ProtectedHead token head

section Vary

variable {token : JsString} {response : ServerResponse}

theorem ServerResponse.vary_put_of_ne {name : JsString} {stored : StoredValue}
    (h : toLowerCase name ≠ js "vary") : (response.put name stored).vary = response.vary := by
  rw [ServerResponse.vary, ServerResponse.getHeader, ServerResponse.stored_put, if_neg]
  · rfl
  · exact fun heq => h (heq.symm.trans (by decide))

theorem ServerResponse.vary_put_of_eq {name : JsString} {stored : StoredValue}
    (h : toLowerCase name = js "vary") : (response.put name stored).vary = stored.1.text := by
  rw [ServerResponse.vary, ServerResponse.getHeader, ServerResponse.stored_put, if_pos]
  · rfl
  · exact Eq.trans (by decide) h.symm

/-- A header may be set to a value that keeps the `Vary`. -/
theorem VariesOn.put {name : JsString} {stored : StoredValue} (h : VariesOn token response)
    (hsent : response.sent = none)
    (hvary : toLowerCase name = js "vary" → Mentions stored.1.text token) :
    VariesOn token (response.put name stored) where
  guarded := h.guarded
  mentions := by
    intro _
    by_cases hname : toLowerCase name = js "vary"
    · rw [ServerResponse.vary_put_of_eq hname]
      exact hvary hname
    · rw [ServerResponse.vary_put_of_ne hname]
      exact h.mentions hsent
  sent := h.sent

/-- The guard sets a `Vary` that mentions what was mentioned. -/
theorem VariesOn.nodeSetHeader {name : JsString} {value : Option HeaderValue}
    (h : VariesOn token response)
    (hvary : response.sent = none → toLowerCase name = js "vary" →
      ∀ stored, value = some stored → Mentions stored.text token) :
    VariesOn token ((nodeSetHeader name value).after response) := by
  rcases nodeSetHeader_cases name value response with
    ⟨stored, hsent, _, hvalue, _, hafter⟩ | ⟨_, hafter⟩
  · rw [hafter]
    exact h.put hsent fun hname => hvary hsent hname _ hvalue
  · rw [hafter]
    exact h

theorem VariesOn.merge (h : VariesOn token response) (hsent : response.sent = none)
    (values : List JsString) :
    Mentions (mergeVary (response.getHeader (js "vary")) values) token :=
  mentions_mergeVary (Or.inl (h.mentions hsent))

theorem forceProtectedHeaders_keeps (token : JsString) :
    Keeps (VariesOn token) forceProtectedHeaders := by
  refine Keeps.bind ?_ fun _ => Keeps.get_bind ?_
  · intro response h
    exact h.nodeSetHeader fun _ hname => absurd hname (by decide)
  · intro response h
    refine h.nodeSetHeader fun hsent _ stored hvalue => ?_
    cases hvalue
    exact h.merge hsent _

theorem guardedSetHeader_keeps (token name : JsString) (value : Option HeaderValue) :
    Keeps (VariesOn token) (guardedSetHeader name value) := by
  intro response h
  rw [guardedSetHeader]
  split_ifs with hcache hvary
  · exact h.nodeSetHeader fun _ hname => absurd (hcache.symm.trans hname) (by decide)
  · rw [after_get_bind]
    refine h.nodeSetHeader fun hsent _ stored hvalue => ?_
    cases hvalue
    exact h.merge hsent _
  · exact h.nodeSetHeader fun _ hname => absurd hname hvary

theorem setHeader_keeps (token name : JsString) (value : Option HeaderValue) :
    Keeps (VariesOn token) (setHeader name value) := by
  intro response h
  rw [setHeader, after_get_bind, if_pos h.guarded]
  exact guardedSetHeader_keeps token name value response h

theorem removeHeader_keeps (token name : JsString) :
    Keeps (VariesOn token) (removeHeader name) := by
  intro response h
  rw [removeHeader, after_get_bind, if_pos h.guarded, guardedRemoveHeader]
  split_ifs with hname
  · exact forceProtectedHeaders_keeps token response h
  · rw [nodeRemoveHeader, after_get_bind]
    split_ifs
    · exact h
    · refine ⟨h.guarded, fun hsent => ?_, h.sent⟩
      have hvary : (response.erase name).vary = response.vary := by
        rw [ServerResponse.vary, ServerResponse.getHeader, ServerResponse.stored_erase, if_neg]
        · rfl
        · exact fun heq => hname (Or.inr (heq.symm.trans (by decide)))
      change Mentions (response.erase name).vary token
      rw [hvary]
      exact h.mentions hsent

/-! ## Lists of values -/

theorem varyTokens_text (value : HeaderValue) :
    varyTokens value.text = value.items.flatMap varyTokens := by
  cases value with
  | single text => exact (List.flatMap_singleton varyTokens text).symm
  | list texts => exact tokens_intercalate_singleton texts

theorem Mentions.of_subset {vary other : JsString} (h : Mentions vary token)
    (hsubset : ∀ named ∈ varyTokens vary, named ∈ varyTokens other) : Mentions other token := by
  rcases h with hwildcard | ⟨named, hnamed, heq⟩
  · exact Or.inl (hsubset _ hwildcard)
  · exact Or.inr ⟨named, hsubset _ hnamed, heq⟩

theorem StoredValue.varyTokens_append (stored value : StoredValue) :
    varyTokens (stored.append value).1.text =
      varyTokens stored.1.text ++ varyTokens value.1.text := by
  rw [varyTokens_text, varyTokens_text, varyTokens_text, ← List.flatMap_append]
  rfl

theorem StoredValue.mentions_append_left {stored value : StoredValue}
    (h : Mentions stored.1.text token) : Mentions (stored.append value).1.text token :=
  h.of_subset fun named hnamed => by
    rw [StoredValue.varyTokens_append]
    exact List.mem_append_left _ hnamed

theorem StoredValue.mentions_append_right {stored value : StoredValue}
    (h : Mentions value.1.text token) : Mentions (stored.append value).1.text token :=
  h.of_subset fun named hnamed => by
    rw [StoredValue.varyTokens_append]
    exact List.mem_append_right _ hnamed

theorem ServerResponse.vary_eq {name : JsString} {stored : StoredValue}
    (hname : toLowerCase name = js "vary") (hstored : response.stored name = some stored) :
    response.vary = stored.1.text := by
  have hlower : toLowerCase (js "vary") = js "vary" := by decide
  rw [ServerResponse.stored, hname, ← hlower] at hstored
  rw [ServerResponse.vary, ServerResponse.getHeader, ServerResponse.stored, hstored]
  rfl

theorem appendHeader_keeps (token name : JsString) (value : Option HeaderValue) :
    Keeps (VariesOn token) (appendHeader name value) := by
  intro response h
  rw [appendHeader, after_get_bind]
  split_ifs with hsent
  · exact h
  · have hsent : response.sent = none := by simpa using hsent
    cases hvalid : validateHeader name value with
    | error error => exact h
    | ok added =>
        cases hstored : response.stored name with
        | none => exact setHeader_keeps token name _ response h
        | some stored =>
            refine h.put hsent fun hname => StoredValue.mentions_append_left ?_
            rw [← response.vary_eq hname hstored]
            exact h.mentions hsent

def HeadersArgument.entries : HeadersArgument → List (Option JsString × Option HeaderValue)
  | .object entries => entries.map fun entry => (some entry.1, entry.2)
  | .array entries _ => entries

def replayHeader (entry : Option JsString × Option HeaderValue) : Respond :=
  match entry.1, entry.2 with
  | some name, some value => setHeader name (some value)
  | _, _ => pure ()

theorem replayHeaders_eq (headers : HeadersArgument) :
    replayHeaders (some headers) = headers.entries.forM replayHeader := by
  cases headers with
  | object entries =>
      rw [HeadersArgument.entries, replayHeaders]
      induction entries with
      | nil => rfl
      | cons entry entries ih =>
          obtain ⟨name, _ | value⟩ := entry
          · exact congrArg (fun rest : Respond => do pure (); rest) ih
          · exact congrArg (fun rest : Respond => do setHeader name (some value); rest) ih
  | array entries unpaired => rfl

theorem replayHeader_keeps (token : JsString) (entry : Option JsString × Option HeaderValue) :
    Keeps (VariesOn token) (replayHeader entry) := by
  obtain ⟨_ | name, _ | value⟩ := entry
  · exact Keeps.pure _
  · exact Keeps.pure _
  · exact Keeps.pure _
  · exact setHeader_keeps token name _

theorem replayHeaders_keeps (token : JsString) (headers : Option HeadersArgument) :
    Keeps (VariesOn token) (replayHeaders headers) := by
  cases headers with
  | none => exact Keeps.pure ()
  | some headers =>
      rw [replayHeaders_eq]
      exact Keeps.forM fun entry _ => replayHeader_keeps token entry

/-! ## Sending -/

theorem isNodeHeaderText_text (value : StoredValue) : isNodeHeaderText value.1.text = true := by
  have hitems := List.all_eq_true.mp value.2
  obtain ⟨value | texts, hvalid⟩ := value
  · exact hitems value List.mem_cons_self
  · refine List.all_eq_true.mpr fun u hu => ?_
    rcases mem_intercalate hu with hcomma | ⟨text, htext, hmem⟩
    · rw [List.mem_singleton.mp hcomma]
      decide
    · exact List.all_eq_true.mp (hitems text htext) u hmem

theorem isNodeHeaderText_mergeVary (stored : Option StoredValue) {values : List JsString}
    (hvalues : ∀ value ∈ values, isNodeHeaderText value = true) :
    isNodeHeaderText (mergeVary (stored.map Subtype.val) values) = true := by
  refine List.all_eq_true.mpr fun u hu => ?_
  rcases mem_mergeVary hu with hcurrent | ⟨value, hvalue, hmem⟩ | hsign
  · cases stored with
    | none => cases hcurrent
    | some stored => exact List.all_eq_true.mp (isNodeHeaderText_text stored) u hcurrent
  · exact List.all_eq_true.mp (hvalues value hvalue) u hmem
  · have hsigns : isNodeHeaderText (js ", " ++ wildcard) = true := by decide
    exact List.all_eq_true.mp hsigns u hsign

def protectedCacheControl : StoredValue := ⟨.single X424_PROTECTED_CACHE_CONTROL, by decide⟩

def ServerResponse.protectedVary (response : ServerResponse) : StoredValue :=
  ⟨.single (mergeVary (response.getHeader (js "vary")) [humanProofHeader]), by
    rw [HeaderValue.isValid, HeaderValue.items, List.all_cons, List.all_nil, Bool.and_true]
    refine isNodeHeaderText_mergeVary _ fun value hvalue => ?_
    rw [List.mem_singleton.mp hvalue]
    decide⟩

def ServerResponse.forced (response : ServerResponse) : ServerResponse :=
  (response.put (js "cache-control") protectedCacheControl).put (js "vary") response.protectedVary

theorem forceProtectedHeaders_ok (hsent : response.sent = none) :
    forceProtectedHeaders.result response = .ok () ∧
      forceProtectedHeaders.after response = response.forced := by
  have hcache := @nodeSetHeader_ok response (js "cache-control")
    (some (.single X424_PROTECTED_CACHE_CONTROL)) protectedCacheControl hsent
    (validateHeader_eq_ok.mpr ⟨by decide, rfl⟩)
  have hvary := @nodeSetHeader_ok (response.put (js "cache-control") protectedCacheControl)
    (js "vary") (some (.single (mergeVary (response.getHeader (js "vary")) [humanProofHeader])))
    response.protectedVary hsent (validateHeader_eq_ok.mpr ⟨by decide, rfl⟩)
  have hget : (response.put (js "cache-control") protectedCacheControl).getHeader (js "vary") =
      response.getHeader (js "vary") := by
    rw [ServerResponse.getHeader, ServerResponse.stored_put, if_neg (by decide)]
    rfl
  rw [forceProtectedHeaders, result_bind_ok hcache.1, after_bind_ok hcache.1, hcache.2,
    result_get_bind, after_get_bind, hget]
  exact hvary

theorem forceProtectedHeaders_sent {head : ResponseHead} (hsent : response.sent = some head) :
    forceProtectedHeaders.result response = .error headersSent ∧
      forceProtectedHeaders.after response = response := by
  have hcache : (nodeSetHeader (js "cache-control")
      (some (.single X424_PROTECTED_CACHE_CONTROL))).result response = .error headersSent := by
    rw [nodeSetHeader, result_get_bind, hsent]
    rfl
  refine ⟨result_bind_error hcache, (after_bind_error hcache).trans ?_⟩
  rw [nodeSetHeader, after_get_bind, hsent]
  rfl

/-- Nothing but the status is new, unless a head with these headers has been sent. -/
structure SentFrom (headers : JsString → List JsString) (response next : ServerResponse) :
    Prop where
  outHeaders : next.outHeaders = response.outHeaders
  guarded : next.protectedHeadersInstalled = response.protectedHeadersInstalled
  sent : next.sent = response.sent ∨ ∃ head, next.sent = some head ∧ head.headers = headers

theorem storeHead_sentFrom (headers : JsString → List JsString) (response : ServerResponse) :
    SentFrom headers response ((storeHead headers).after response) := by
  rw [storeHead, after_get_bind]
  dsimp only
  split_ifs
  · exact ⟨rfl, rfl, Or.inr ⟨_, rfl, rfl⟩⟩
  · exact ⟨rfl, rfl, Or.inl rfl⟩

/-- A `writeHead` without headers sends those that are set, if it sends anything. -/
theorem nodeWriteHead_sentFrom (STATUS_CODES : ℤ → Option JsString) {given : WriteHeadArguments}
    {headers : JsString → Option StoredValue} (hgiven : given.nodeHeaders = none)
    (hheaders : response.outHeaders = some headers) :
    SentFrom (storedFor headers) response ((nodeWriteHead STATUS_CODES given).after response) := by
  rw [nodeWriteHead, after_get_bind]
  split_ifs
  · exact ⟨rfl, rfl, Or.inl rfl⟩
  · exact ⟨rfl, rfl, Or.inl rfl⟩
  · have hout : (response.withStatus STATUS_CODES given).outHeaders = some headers := hheaders
    rw [hgiven, after_bind_ok (result_modify _), after_modify, sendHeaders, after_get_bind, hout,
      Option.isSome_some, if_pos rfl, applyHeaders, after_bind_ok (result_pure _), after_pure,
      after_get_bind, hout,
      Option.getD_some]
    obtain ⟨hstore, hguarded, hsent⟩ :=
      storeHead_sentFrom (storedFor headers) (response.withStatus STATUS_CODES given)
    exact ⟨hstore, hguarded, hsent⟩

theorem Mentions.covers {vary : JsString} (h : Mentions vary token)
    (hwildcard : wildcard ∈ varyTokens vary → vary = wildcard) : VaryCovers vary token :=
  h.imp_left hwildcard

theorem storedFor_eq {headers : JsString → Option StoredValue} {name : JsString}
    (hheaders : response.outHeaders = some headers) (hname : toLowerCase name = name) :
    storedFor headers name = ((response.stored name).map fun value => value.1.items).getD [] := by
  rw [ServerResponse.stored, hheaders, Option.bind_some, hname, storedFor]

theorem VariesOn.forced_head (h : VariesOn token response) (hsent : response.sent = none)
    {headers : JsString → Option StoredValue} (hheaders : response.forced.outHeaders = some headers)
    {head : ResponseHead} (hhead : head.headers = storedFor headers) :
    ProtectedHead token head where
  cacheControl := by
    rw [hhead, storedFor_eq hheaders (by decide), ServerResponse.forced,
      ServerResponse.stored_put, if_neg (by decide), ServerResponse.stored_put, if_pos rfl]
    rfl
  vary := by
    refine ⟨mergeVary (response.getHeader (js "vary")) [humanProofHeader], ?_, ?_⟩
    · rw [hhead, storedFor_eq hheaders (by decide), ServerResponse.forced,
        ServerResponse.stored_put, if_pos rfl]
      rfl
    · refine (h.merge hsent _).covers fun hwildcard => mergeVary_eq_wildcard ?_ hwildcard
      intro value hvalue hmem
      rw [List.mem_singleton.mp hvalue] at hmem
      exact absurd hmem (by decide)

theorem ServerResponse.vary_congr {next : ServerResponse}
    (h : next.outHeaders = response.outHeaders) : next.vary = response.vary := by
  rw [ServerResponse.vary, ServerResponse.getHeader, ServerResponse.stored, h]
  rfl

/-- What `writeHead` does once the headers are replayed. -/
theorem forcedWriteHead_keeps (STATUS_CODES : ℤ → Option JsString) (token : JsString)
    (given : WriteHeadArguments) :
    Keeps (VariesOn token) (do
      forceProtectedHeaders
      nodeWriteHead STATUS_CODES given.withoutHeaders) := by
  intro response h
  cases hsent : response.sent with
  | some head =>
      obtain ⟨hresult, hafter⟩ := forceProtectedHeaders_sent hsent
      rw [after_bind_error hresult, hafter]
      exact h
  | none =>
      obtain ⟨hresult, hafter⟩ := forceProtectedHeaders_ok hsent
      have hforced := forceProtectedHeaders_keeps token response h
      rw [after_bind_ok hresult]
      rw [hafter] at hforced ⊢
      have hgiven : given.withoutHeaders.nodeHeaders = none := by
        rw [WriteHeadArguments.withoutHeaders]
        cases given.statusMessageOrHeaders <;> rfl
      obtain ⟨hstore, hguarded, hnext⟩ :=
        @nodeWriteHead_sentFrom response.forced STATUS_CODES _ _ hgiven rfl
      refine ⟨hguarded.trans hforced.guarded, fun hunsent => ?_, fun head hhead => ?_⟩
      · rw [ServerResponse.vary_congr hstore]
        exact hforced.mentions hsent
      · rcases hnext with hnext | ⟨sent, hnext, hheaders⟩
        · rw [hnext] at hhead
          exact hforced.sent head hhead
        · rw [hnext] at hhead
          cases hhead
          exact h.forced_head hsent rfl hheaders

/-! ## Runs -/

section Runs

variable (STATUS_CODES : ℤ → Option JsString)

theorem guardedWriteHead_keeps (token : JsString) (given : WriteHeadArguments) :
    Keeps (VariesOn token) (guardedWriteHead STATUS_CODES given) :=
  Keeps.bind (replayHeaders_keeps token _) fun _ => forcedWriteHead_keeps STATUS_CODES token given

theorem writeHead_keeps (token : JsString) (given : WriteHeadArguments) :
    Keeps (VariesOn token) (writeHead STATUS_CODES given) := by
  intro response h
  rw [writeHead, after_get_bind, if_pos h.guarded]
  exact guardedWriteHead_keeps STATUS_CODES token given response h

theorem perform_keeps (token : JsString) (call : HandlerCall) :
    Keeps (VariesOn token) (call.perform STATUS_CODES) := by
  cases call with
  | setHeader name value => exact setHeader_keeps token name value
  | appendHeader name value => exact appendHeader_keeps token name value
  | removeHeader name => exact removeHeader_keeps token name
  | writeHead given => exact writeHead_keeps STATUS_CODES token given
  | implicitHeader =>
      intro response h
      rw [HandlerCall.perform, implicitHeader, after_get_bind]
      split_ifs
      · exact h
      · exact writeHead_keeps STATUS_CODES token _ response h

theorem afterCalls_keeps (calls : List HandlerCall) (h : VariesOn token response) :
    VariesOn token (afterCalls STATUS_CODES response calls) := by
  induction calls generalizing response with
  | nil => exact h
  | cons call calls ih => exact ih (perform_keeps STATUS_CODES token call response h)

/-! ## What a handler sets -/

def WriteHeadArguments.arguments (given : WriteHeadArguments) : List HeadersArgument :=
  match given.statusMessageOrHeaders with
  | .headers direct => direct :: given.headers.toList
  | _ => given.headers.toList

/-- The entries give `Vary` this token. -/
def HeadersArgument.SetsVary (token : JsString) (headers : HeadersArgument) : Prop :=
  ∃ name value, (some name, some value) ∈ headers.entries ∧ toLowerCase name = js "vary" ∧
    token ∈ varyTokens value.text

def HandlerCall.SetsVary (token : JsString) : HandlerCall → Prop
  | .setHeader name value =>
      toLowerCase name = js "vary" ∧ token ∈ varyTokens (headerString value)
  | .appendHeader name value =>
      toLowerCase name = js "vary" ∧ ∃ added, value = some added ∧ token ∈ varyTokens added.text
  | .writeHead given => ∃ headers ∈ given.arguments, headers.SetsVary token
  | _ => False

/-- A third argument that comes without a message has no `Vary`. -/
def HandlerCall.VaryIsRead : HandlerCall → Prop
  | .writeHead given =>
      (∃ text, given.statusMessageOrHeaders = .message text) ∨
        ∀ headers, given.headers = some headers → ∀ token, ¬ headers.SetsVary token
  | _ => True

theorem VariesOn.of_put {name : JsString} {stored : StoredValue}
    (hguarded : response.protectedHeadersInstalled = true) (hsent : response.sent = none)
    (hname : toLowerCase name = js "vary") (hmentions : Mentions stored.1.text token) :
    VariesOn token (response.put name stored) where
  guarded := hguarded
  mentions := by
    intro _
    rw [ServerResponse.vary_put_of_eq hname]
    exact hmentions
  sent := by
    intro head hhead
    rw [ServerResponse.put_sent, hsent] at hhead
    cases hhead

theorem setHeader_sets {name : JsString} {value : Option HeaderValue}
    (hguarded : response.protectedHeadersInstalled = true) (hname : toLowerCase name = js "vary")
    (htoken : token ∈ varyTokens (headerString value))
    (hresult : (setHeader name value).result response = .ok ()) :
    VariesOn token ((setHeader name value).after response) := by
  rw [setHeader, result_get_bind, if_pos hguarded, guardedSetHeader,
    if_neg (by rw [hname]; decide), if_pos hname, result_get_bind] at hresult
  rw [setHeader, after_get_bind, if_pos hguarded, guardedSetHeader,
    if_neg (by rw [hname]; decide), if_pos hname, after_get_bind]
  rcases nodeSetHeader_cases name (some (.single (mergeVary (response.getHeader (js "vary"))
    [headerString value, humanProofHeader]))) response with
    ⟨stored, hsent, _, hvalue, _, hafter⟩ | ⟨⟨error, herror⟩, _⟩
  · rw [hafter]
    refine VariesOn.of_put hguarded hsent hname ?_
    rw [← Option.some.inj hvalue]
    exact mentions_mergeVary (Or.inr ⟨_, List.mem_cons_self, mentions_self htoken⟩)
  · rw [hresult] at herror
    cases herror

theorem appendHeader_sets {name : JsString} {value : HeaderValue}
    (hguarded : response.protectedHeadersInstalled = true) (hname : toLowerCase name = js "vary")
    (htoken : token ∈ varyTokens value.text)
    (hresult : (appendHeader name (some value)).result response = .ok ()) :
    VariesOn token ((appendHeader name (some value)).after response) := by
  rw [appendHeader, result_get_bind] at hresult
  rw [appendHeader, after_get_bind]
  split_ifs at hresult ⊢ with hsent
  · cases hresult
  replace hsent : response.sent = none := by simpa using hsent
  cases hvalid : validateHeader name (some value) with
  | error error =>
      rw [hvalid] at hresult
      cases hresult
  | ok added =>
      have hvalue := Option.some.inj (validateHeader_eq_ok.mp hvalid).2
      rw [hvalid] at hresult
      cases hstored : response.stored name with
      | none =>
          rw [hstored] at hresult
          refine setHeader_sets hguarded hname ?_ hresult
          rw [headerString, ← hvalue]
          exact htoken
      | some stored =>
          refine VariesOn.of_put hguarded hsent hname ?_
          rw [hvalue] at htoken
          exact StoredValue.mentions_append_right (mentions_self htoken)

theorem replayHeaders_sets {headers : HeadersArgument}
    (h : VariesOn humanProofHeader response) (hsets : headers.SetsVary token)
    (hresult : (replayHeaders (some headers)).result response = .ok ()) :
    VariesOn token ((replayHeaders (some headers)).after response) := by
  obtain ⟨name, value, hentry, hname, htoken⟩ := hsets
  rw [replayHeaders_eq] at hresult ⊢
  exact forM_achieves (fun entry _ => replayHeader_keeps token entry) hentry
    (fun entry _ => replayHeader_keeps humanProofHeader entry) h
    (fun t ht => setHeader_sets ht.guarded hname htoken) hresult

theorem perform_sets {call : HandlerCall} (h : VariesOn humanProofHeader response)
    (hread : call.VaryIsRead) (hsets : call.SetsVary token)
    (hresult : (call.perform STATUS_CODES).result response = .ok ()) :
    VariesOn token ((call.perform STATUS_CODES).after response) := by
  cases call with
  | setHeader name value => exact setHeader_sets h.guarded hsets.1 hsets.2 hresult
  | appendHeader name value =>
      obtain ⟨hname, added, rfl, htoken⟩ := hsets
      exact appendHeader_sets h.guarded hname htoken hresult
  | removeHeader name => exact hsets.elim
  | implicitHeader => exact hsets.elim
  | writeHead given =>
      obtain ⟨headers, hmem, hheaders⟩ := hsets
      have hdirect : given.directHeaders = some headers := by
        rw [WriteHeadArguments.arguments] at hmem
        rw [WriteHeadArguments.directHeaders]
        rw [HandlerCall.VaryIsRead] at hread
        cases hreason : given.statusMessageOrHeaders with
        | message text =>
            rw [hreason] at hmem
            exact Option.mem_toList.mp hmem
        | headers direct =>
            rw [hreason] at hmem hread
            rcases List.mem_cons.mp hmem with rfl | hmem
            · rfl
            · rcases hread with ⟨_, hread⟩ | hread
              · cases hread
              · exact absurd hheaders (hread headers (Option.mem_toList.mp hmem) token)
        | undefined =>
            rw [hreason] at hmem hread
            rcases hread with ⟨_, hread⟩ | hread
            · cases hread
            · exact absurd hheaders (hread headers (Option.mem_toList.mp hmem) token)
      rw [HandlerCall.perform, writeHead, result_get_bind, if_pos h.guarded, guardedWriteHead,
        hdirect] at hresult
      obtain ⟨⟨⟩, hreplay, _⟩ := result_bind_eq_ok hresult
      rw [HandlerCall.perform, writeHead, after_get_bind, if_pos h.guarded, guardedWriteHead,
        hdirect, after_bind_ok hreplay]
      exact forcedWriteHead_keeps STATUS_CODES token given _ (replayHeaders_sets h hheaders hreplay)

/-! ## From the installation to the head -/

/-- The guard takes over what `Vary` says when it is installed. -/
theorem installExpressProtectedHeaders_variesOn
    (hfresh : response.protectedHeadersInstalled = false)
    (hresult : installExpressProtectedHeaders.result response = .ok ())
    (htoken : token = humanProofHeader ∨ token ∈ varyTokens response.vary) :
    VariesOn token (installExpressProtectedHeaders.after response) := by
  rw [installExpressProtectedHeaders, result_get_bind, hfresh, if_neg (by decide),
    result_bind_ok (result_modify _), after_modify] at hresult
  rw [installExpressProtectedHeaders, after_get_bind, hfresh, if_neg (by decide),
    after_bind_ok (result_modify _), after_modify]
  rcases Option.eq_none_or_eq_some response.sent with hsent | ⟨head, hsent⟩
  · rw [(@forceProtectedHeaders_ok { response with protectedHeadersInstalled := true } hsent).2]
    refine VariesOn.of_put rfl hsent (by decide) (mentions_mergeVary ?_)
    rcases htoken with rfl | htoken
    · exact Or.inr ⟨_, List.mem_singleton_self _, mentions_self (by decide)⟩
    · exact Or.inl (mentions_self htoken)
  · rw [(@forceProtectedHeaders_sent { response with protectedHeadersInstalled := true } head
      hsent).1] at hresult
    cases hresult

theorem afterCalls_append (response : ServerResponse) (earlier later : List HandlerCall) :
    afterCalls STATUS_CODES response (earlier ++ later) =
      afterCalls STATUS_CODES (afterCalls STATUS_CODES response earlier) later :=
  List.foldl_append

/-- The token stood in `Vary` before the guard was there or between two calls, or a call that
returned has set it. -/
inductive EverSet (token : JsString) (response ready : ServerResponse)
    (calls : List HandlerCall) : Prop
  | before (htoken : token ∈ varyTokens response.vary)
  | between (earlier later : List HandlerCall) (hcalls : calls = earlier ++ later)
      (htoken : token ∈ varyTokens (afterCalls STATUS_CODES ready earlier).vary)
      (hsent : (afterCalls STATUS_CODES ready earlier).sent = none)
  | call (earlier : List HandlerCall) (call : HandlerCall) (later : List HandlerCall)
      (hcalls : calls = earlier ++ call :: later) (hsets : call.SetsVary token)
      (hresult : (call.perform STATUS_CODES).result (afterCalls STATUS_CODES ready earlier) =
        .ok ())

theorem EverSet.variesOn {ready : ServerResponse} {calls : List HandlerCall}
    (hproof : VariesOn humanProofHeader ready)
    (hbefore : ∀ token ∈ varyTokens response.vary, VariesOn token ready)
    (hread : ∀ call ∈ calls, call.VaryIsRead)
    (h : EverSet STATUS_CODES token response ready calls) :
    VariesOn token (afterCalls STATUS_CODES ready calls) := by
  cases h with
  | before htoken => exact afterCalls_keeps STATUS_CODES calls (hbefore token htoken)
  | between earlier later hcalls htoken hsent =>
      subst hcalls
      rw [afterCalls_append]
      refine afterCalls_keeps STATUS_CODES later
        ⟨(afterCalls_keeps STATUS_CODES earlier hproof).guarded, fun _ => mentions_self htoken, ?_⟩
      intro head hhead
      rw [hsent] at hhead
      cases hhead
  | call earlier call later hcalls hsets hresult =>
      subst hcalls
      rw [afterCalls_append]
      have hcall := hread call (List.mem_append_right _ List.mem_cons_self)
      exact afterCalls_keeps STATUS_CODES later
        (perform_sets STATUS_CODES (afterCalls_keeps STATUS_CODES earlier hproof) hcall
          hsets hresult)

end Runs

end Vary

end X424
