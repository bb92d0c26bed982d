import X424.Middleware.ProtectedHeaders

/-!
# Protected Fetch responses

`protectedFetchHeaders` of `middleware/resource.ts` and
`finalizeFetchX424Response` of `fetch.ts`.  The names of a header list are
distinct, so the order in which they are visited does not matter.
-/

namespace X424

open Foundation Foundation.Effect

/-- `protectedFetchHeaders(initial)`; a record and a list are their pairs. -/
def protectedFetchHeaders (initial : List (JsString × JsString)) : Except JsError Headers := do
  let headers ← Headers.ofPairs initial
  let headers ← headers.set (js "cache-control") X424_PROTECTED_CACHE_CONTROL
  headers.set (js "vary")
    (mergeVary ((headers.get (js "vary")).map .single) [humanProofHeader])

def finalizeEntry (headers : Headers) (entry : JsString × JsString) : Except JsError Headers :=
  if toLowerCase entry.1 = js "vary" then
    headers.set (js "vary") (mergeVary ((headers.get (js "vary")).map .single) [entry.2])
  else headers.set entry.1 entry.2

/-- `new Response` refuses a status outside of 200 to 599. -/
def finalizeFetchX424Response (response : Response) (protectionHeaders : Headers) :
    Except JsError Response := do
  let headers ← protectionHeaders.entries.foldlM finalizeEntry response.headers
  if response.status < 200 ∨ 599 < response.status then .error ⟨js "RangeError"⟩
  else .ok ⟨.default, response.status, headers, [], response.body⟩

/-! ## Header lists -/

def Headers.Named (headers : Headers) : Prop :=
  ∀ entry ∈ headers.entries, ∃ name, isToken name = true ∧ entry.1 = asciiLower name

private def asciiUnit (u : UInt16) : UInt16 := if 0x41 ≤ u && u ≤ 0x5A then u + 0x20 else u

private theorem tokenUnit_le {u : UInt16} (h : isTokenUnit u = true) : u.toNat ≤ 0x7E := by
  have hmarks : ∀ u ∈ js "!#$%&'*+-.|~", u ≤ 0x7E := fun u hu =>
    of_decide_eq_true
      (List.all_eq_true.mp (by decide : (js "!#$%&'*+-.|~").all (· ≤ 0x7E) = true) u hu)
  rw [isTokenUnit, Bool.or_eq_true] at h
  rcases h with h | h
  · simp only [Bool.or_eq_true, Bool.and_eq_true, decide_eq_true_eq, UInt16.le_iff_toNat_le,
      UInt16.reduceToNat] at h
    omega
  · exact UInt16.le_iff_toNat_le.mp (hmarks u (List.contains_iff_mem.mp h))

private theorem asciiUnit_spec {u : UInt16} (h : isTokenUnit u = true) :
    isTokenUnit (asciiUnit u) = true ∧ asciiUnit (asciiUnit u) = asciiUnit u ∧
      lowerUnit (asciiUnit u) = asciiUnit u := by
  have hle := tokenUnit_le h
  have hlower : ∀ v : UInt16, v.toNat ≤ 0x7E → ¬ (0x41 ≤ v.toNat ∧ v.toNat ≤ 0x5A) →
      asciiUnit v = v ∧ lowerUnit v = v := by
    intro v hv hcapital
    constructor
    · rw [asciiUnit, if_neg]
      simp only [Bool.and_eq_true, decide_eq_true_eq, UInt16.le_iff_toNat_le, UInt16.reduceToNat]
      exact hcapital
    · rcases lowerUnit_cases v with heq | ⟨_, _⟩
      · exact heq
      · unfold lowerUnit
        simp only [Bool.or_eq_true, Bool.and_eq_true, decide_eq_true_eq, UInt16.le_iff_toNat_le,
          bne_iff_ne, ne_eq, beq_iff_eq, ← UInt16.toNat_inj, UInt16.reduceToNat]
        split_ifs <;> omega
  rw [asciiUnit]
  split_ifs with hcapital
  · simp only [Bool.and_eq_true, decide_eq_true_eq, UInt16.le_iff_toNat_le,
      UInt16.reduceToNat] at hcapital
    have hnat : (u + 0x20).toNat = u.toNat + 0x20 := by
      simp only [UInt16.toNat_add, UInt16.reduceToNat]
      omega
    refine ⟨?_, hlower _ (by omega) (by omega)⟩
    simp only [isTokenUnit, Bool.or_eq_true, Bool.and_eq_true, decide_eq_true_eq,
      UInt16.le_iff_toNat_le, UInt16.reduceToNat, hnat]
    left
    right
    omega
  · simp only [Bool.and_eq_true, decide_eq_true_eq, UInt16.le_iff_toNat_le,
      UInt16.reduceToNat] at hcapital
    exact ⟨h, hlower u hle hcapital⟩

theorem asciiLower_token {name : JsString} (h : isToken name = true) :
    isToken (asciiLower name) = true ∧ asciiLower (asciiLower name) = asciiLower name ∧
      toLowerCase (asciiLower name) = asciiLower name := by
  rw [isToken, Bool.and_eq_true, List.all_eq_true] at h
  have hmap : ∀ f : UInt16 → UInt16, (∀ u, isTokenUnit u = true → f (asciiUnit u) = asciiUnit u) →
      (asciiLower name).map f = asciiLower name := by
    intro f hf
    rw [asciiLower, List.map_map]
    exact List.map_congr_left fun u hu => hf u (h.2 u hu)
  refine ⟨?_, hmap asciiUnit fun u hu => (asciiUnit_spec hu).2.1,
    hmap lowerUnit fun u hu => (asciiUnit_spec hu).2.2⟩
  rw [isToken, Bool.and_eq_true, List.all_eq_true]
  constructor
  · rw [asciiLower, List.isEmpty_map]
    exact h.1
  · intro v hv
    obtain ⟨u, hu, rfl⟩ := List.mem_map.mp hv
    exact (asciiUnit_spec (h.2 u hu)).1

theorem Headers.set_entries {headers changed : Headers} {name value : JsString}
    (h : headers.set name value = .ok changed) :
    isToken name = true ∧ changed.entries =
      (asciiLower name, normalizeValue value) ::
        headers.entries.filter fun entry => entry.1 != asciiLower name := by
  have htoken : isToken name = true := by
    by_contra hnot
    rw [Headers.set] at h
    split_ifs at h
  obtain ⟨_, rfl⟩ := Headers.set_eq_ok h
  exact ⟨htoken, rfl⟩

theorem Headers.Named.set {headers changed : Headers} {name value : JsString}
    (hnamed : headers.Named) (h : headers.set name value = .ok changed) : changed.Named := by
  obtain ⟨htoken, hentries⟩ := Headers.set_entries h
  intro entry hentry
  rw [hentries] at hentry
  rcases List.mem_cons.mp hentry with rfl | hentry
  · exact ⟨name, htoken, rfl⟩
  · exact hnamed entry (List.mem_filter.mp hentry).1

theorem Headers.ofPairs_named {pairs : List (JsString × JsString)} {headers : Headers}
    (h : Headers.ofPairs pairs = .ok headers) : headers.Named := by
  have hfold : ∀ (pairs : List (JsString × JsString)) (start : Headers), start.Named →
      pairs.foldlM (fun (headers : Headers) pair => headers.append pair.1 pair.2) start =
        Except.ok (ε := JsError) headers → headers.Named := by
    intro pairs
    induction pairs with
    | nil =>
        intro start hstart h
        cases h
        exact hstart
    | cons pair pairs ih =>
        intro start hstart h
        rw [List.foldlM_cons] at h
        obtain ⟨next, hnext, hrest⟩ := bind_eq_ok.mp h
        refine ih next ?_ hrest
        rw [Headers.append] at hnext
        split at hnext
        · exact hstart.set hnext
        · exact hstart.set hnext
  exact hfold pairs Headers.empty (fun _ hentry => nomatch hentry) h

/-! ## The protection headers -/

/-- The text of `Vary`, empty if there is none. -/
def Headers.vary (headers : Headers) : JsString :=
  currentVary ((headers.get (js "vary")).map .single)

def WildcardAlone (vary : JsString) : Prop := wildcard ∈ varyTokens vary → vary = wildcard

structure ProtectionHeaders (protection : JsString) (headers : Headers) : Prop where
  named : headers.Named
  cacheControl : ∀ entry ∈ headers.entries, entry.1 = js "cache-control" →
    entry.2 = X424_PROTECTED_CACHE_CONTROL
  vary : ∀ entry ∈ headers.entries, entry.1 = js "vary" → entry.2 = protection
  cacheControl_mem : (js "cache-control", X424_PROTECTED_CACHE_CONTROL) ∈ headers.entries
  vary_mem : (js "vary", protection) ∈ headers.entries
  get_vary : headers.get (js "vary") = some protection
  alone : WildcardAlone protection

theorem normalizeValue_mergeVary (existing : Option HeaderValue) (values : List JsString) :
    normalizeValue (mergeVary existing values) = mergeVary existing values := by
  have htrim := @trim_mergeVary existing values
  have hspace : ∀ u, isHttpWhitespace u = true → isTrimmed u = true := by
    intro u hu
    simp only [isHttpWhitespace, Bool.or_eq_true, beq_iff_eq] at hu
    rcases hu with ((rfl | rfl) | rfl) | rfl <;> decide
  have hends : ∀ u : Option UInt16, u.all (!isTrimmed ·) = true →
      u.all (!isHttpWhitespace ·) = true := by
    intro u hu
    cases u with
    | none => rfl
    | some u =>
        simp only [Option.all_some, Bool.not_eq_true'] at hu ⊢
        by_contra hnot
        exact absurd (hspace u (by simpa using hnot)) (by simp [hu])
  apply strip_eq_self
  · exact hends _ (htrim ▸ strip_head _)
  · exact hends _ (htrim ▸ strip_getLast _)

theorem mergeVary_alone {existing : Option HeaderValue} {value : JsString}
    (h : WildcardAlone value) : WildcardAlone (mergeVary existing [value]) := by
  refine mergeVary_eq_wildcard fun other hother hmem => ?_
  rw [List.mem_singleton.mp hother] at hmem ⊢
  rw [h hmem]
  decide

theorem protectedFetchHeaders_spec {initial : List (JsString × JsString)} {headers : Headers}
    (h : protectedFetchHeaders initial = .ok headers) :
    ∃ given, Headers.ofPairs initial = .ok given ∧
      ProtectionHeaders (mergeVary ((given.get (js "vary")).map .single) [humanProofHeader])
        headers := by
  obtain ⟨given, hgiven, h⟩ := bind_eq_ok.mp h
  obtain ⟨cached, hcached, h⟩ := bind_eq_ok.mp h
  have hget : cached.get (js "vary") = given.get (js "vary") :=
    Headers.get_set_of_ne hcached (by decide)
  rw [hget] at h
  have hfirst := (Headers.set_entries hcached).2
  have hsecond := (Headers.set_entries h).2
  rw [normalizeValue_mergeVary] at hsecond
  have hcache : normalizeValue X424_PROTECTED_CACHE_CONTROL = X424_PROTECTED_CACHE_CONTROL := by
    decide
  rw [hcache] at hfirst
  refine ⟨given, hgiven, ((Headers.ofPairs_named hgiven).set hcached).set h, ?_, ?_, ?_, ?_, ?_, ?_⟩
  · intro entry hentry hname
    rw [hsecond] at hentry
    rcases List.mem_cons.mp hentry with rfl | hentry
    · have hne : asciiLower (js "vary") ≠ js "cache-control" := by decide
      exact absurd hname hne
    · have hentry := (List.mem_filter.mp hentry).1
      rw [hfirst] at hentry
      rcases List.mem_cons.mp hentry with rfl | hentry
      · rfl
      · have hne := (List.mem_filter.mp hentry).2
        rw [hname] at hne
        exact absurd hne (by decide)
  · intro entry hentry hname
    rw [hsecond] at hentry
    rcases List.mem_cons.mp hentry with rfl | hentry
    · rfl
    · have hne := (List.mem_filter.mp hentry).2
      rw [hname] at hne
      exact absurd hne (by decide)
  · rw [hsecond, hfirst]
    exact List.mem_cons_of_mem _ (List.mem_filter.mpr ⟨List.mem_cons_self, by decide⟩)
  · rw [hsecond]
    exact List.mem_cons_self
  · rw [Headers.get_set_self h, normalizeValue_mergeVary]
  · apply mergeVary_alone
    intro hmem
    exact absurd hmem (by decide)

/-! ## Finalizing -/

theorem Headers.set_ok {headers : Headers} {name value : JsString} (hname : isToken name = true)
    (hvalue : isHeaderValue (normalizeValue value) = true) :
    ∃ changed, headers.set name value = .ok changed := by
  rw [Headers.set, dif_pos hvalue, if_pos hname]
  exact ⟨_, rfl⟩

theorem isHeaderValue_of_mem {value other : JsString} (h : isHeaderValue value = true)
    (hmem : ∀ u ∈ other, u ∈ value) : isHeaderValue other = true :=
  List.all_eq_true.mpr fun u hu => List.all_eq_true.mp h u (hmem u hu)

theorem isHeaderValue_mergeVary {headers : Headers} {value : JsString}
    (hvalue : isHeaderValue value = true) :
    isHeaderValue (mergeVary ((headers.get (js "vary")).map .single) [value]) = true := by
  refine List.all_eq_true.mpr fun u hu => ?_
  rcases mem_mergeVary hu with hcurrent | ⟨other, hother, hmem⟩ | hsign
  · cases hget : headers.get (js "vary") with
    | none =>
        rw [hget] at hcurrent
        cases hcurrent
    | some present =>
        rw [hget] at hcurrent
        rw [Headers.get_eq] at hget
        have hpresent := headers.values _ (mem_of_lookup hget)
        exact List.all_eq_true.mp hpresent u hcurrent
  · rw [List.mem_singleton.mp hother] at hmem
    exact List.all_eq_true.mp hvalue u hmem
  · have hsigns : isHeaderValue (js ", " ++ wildcard) = true := by decide
    exact List.all_eq_true.mp hsigns u hsign

inductive EntryApplied (entry : JsString × JsString) (headers next : Headers) : Prop
  | vary (hname : entry.1 = js "vary")
      (hget : next.get (js "vary") =
        some (mergeVary ((headers.get (js "vary")).map .single) [entry.2]))
      (hothers : ∀ name, asciiLower name ≠ js "vary" → next.get name = headers.get name)
  | other (hname : entry.1 ≠ js "vary") (hget : next.get entry.1 = some (normalizeValue entry.2))
      (hothers : ∀ name, asciiLower name ≠ entry.1 → next.get name = headers.get name)

section Entries

variable {entry : JsString × JsString} {headers next : Headers}

theorem finalizeEntry_applied (hnamed : ∃ name, isToken name = true ∧ entry.1 = asciiLower name)
    (h : finalizeEntry headers entry = .ok next) : EntryApplied entry headers next := by
  obtain ⟨spelled, htoken, hname⟩ := hnamed
  obtain ⟨_, hlower, hfixed⟩ := asciiLower_token htoken
  rw [← hname] at hlower hfixed
  rw [finalizeEntry, hfixed] at h
  split_ifs at h with hvary
  · refine .vary hvary ?_ fun name hne => Headers.get_set_of_ne h hne
    rw [Headers.get_set_self h, normalizeValue_mergeVary]
  · exact .other hvary (Headers.get_set_self h) fun name hne =>
      Headers.get_set_of_ne h (by rwa [hlower])

theorem finalizeEntry_ok (headers : Headers)
    (hnamed : ∃ name, isToken name = true ∧ entry.1 = asciiLower name)
    (hvalue : isHeaderValue entry.2 = true) : ∃ next, finalizeEntry headers entry = .ok next := by
  obtain ⟨spelled, htoken, hname⟩ := hnamed
  rw [finalizeEntry]
  split_ifs
  · refine Headers.set_ok (by decide) ?_
    rw [normalizeValue_mergeVary]
    exact isHeaderValue_mergeVary hvalue
  · refine Headers.set_ok ?_
      (isHeaderValue_of_mem hvalue fun u hu => (strip_sublist entry.2).mem hu)
    rw [hname]
    exact (asciiLower_token htoken).1

variable {entries : List (JsString × JsString)}

theorem finalizeEntries_ok
    (hnamed : ∀ entry ∈ entries, ∃ name, isToken name = true ∧ entry.1 = asciiLower name)
    (hvalues : ∀ entry ∈ entries, isHeaderValue entry.2 = true) (headers : Headers) :
    ∃ final, entries.foldlM finalizeEntry headers = Except.ok final := by
  induction entries generalizing headers with
  | nil => exact ⟨headers, rfl⟩
  | cons entry entries ih =>
      obtain ⟨next, hnext⟩ := finalizeEntry_ok headers (hnamed entry List.mem_cons_self)
        (hvalues entry List.mem_cons_self)
      obtain ⟨final, hfinal⟩ := ih (fun entry h => hnamed entry (List.mem_cons_of_mem _ h))
        (fun entry h => hvalues entry (List.mem_cons_of_mem _ h)) next
      refine ⟨final, ?_⟩
      rw [List.foldlM_cons, hnext]
      exact hfinal

section Fold

variable {P : Headers → Prop} {final : Headers}
  (hnamed : ∀ entry ∈ entries, ∃ name, isToken name = true ∧ entry.1 = asciiLower name)
  (hkeeps : ∀ entry ∈ entries, ∀ headers next, EntryApplied entry headers next → P headers →
    P next)

include hnamed hkeeps

theorem finalizeEntries_keep (hstart : P headers)
    (h : entries.foldlM finalizeEntry headers = Except.ok final) : P final := by
  induction entries generalizing headers with
  | nil =>
      cases h
      exact hstart
  | cons entry entries ih =>
      rw [List.foldlM_cons] at h
      obtain ⟨next, hnext, hrest⟩ := bind_eq_ok.mp h
      have happlied := finalizeEntry_applied (hnamed entry List.mem_cons_self) hnext
      exact ih (fun entry h => hnamed entry (List.mem_cons_of_mem _ h))
        (fun entry h => hkeeps entry (List.mem_cons_of_mem _ h))
        (hkeeps entry List.mem_cons_self _ _ happlied hstart) hrest

theorem finalizeEntries_achieve {achieving : JsString × JsString} (hmem : achieving ∈ entries)
    (hachieves : ∀ headers next, EntryApplied achieving headers next → P next)
    (h : entries.foldlM finalizeEntry headers = Except.ok final) : P final := by
  obtain ⟨front, back, rfl⟩ := List.append_of_mem hmem
  rw [List.foldlM_append] at h
  obtain ⟨before, _, h⟩ := bind_eq_ok.mp h
  rw [List.foldlM_cons] at h
  obtain ⟨after, hafter, hrest⟩ := bind_eq_ok.mp h
  have hback : ∀ entry ∈ back, entry ∈ front ++ achieving :: back := fun entry h =>
    List.mem_append_right _ (List.mem_cons_of_mem _ h)
  exact finalizeEntries_keep (fun entry h => hnamed entry (hback entry h))
    (fun entry h => hkeeps entry (hback entry h))
    (hachieves _ _ (finalizeEntry_applied (hnamed achieving hmem) hafter)) hrest

end Fold

theorem EntryApplied.vary_eq {protection : JsString} (h : EntryApplied entry headers next)
    (hname : entry.1 = js "vary") (hvalue : entry.2 = protection) :
    next.get (js "vary") =
      some (mergeVary ((headers.get (js "vary")).map .single) [protection]) := by
  cases h with
  | vary _ hget _ => rw [hget, hvalue]
  | other hne _ _ => exact absurd hname hne

theorem EntryApplied.vary_ne (h : EntryApplied entry headers next) (hname : entry.1 ≠ js "vary") :
    next.get (js "vary") = headers.get (js "vary") := by
  cases h with
  | vary heq _ _ => exact absurd heq hname
  | other _ _ hothers => exact hothers _ fun heq => hname (heq.symm.trans (by decide))

theorem EntryApplied.cacheControl (h : EntryApplied entry headers next)
    (hcache : entry.1 = js "cache-control" → entry.2 = X424_PROTECTED_CACHE_CONTROL)
    (hget : entry.1 = js "cache-control" ∨
      headers.get (js "cache-control") = some X424_PROTECTED_CACHE_CONTROL) :
    next.get (js "cache-control") = some X424_PROTECTED_CACHE_CONTROL := by
  have hlower : asciiLower (js "cache-control") = js "cache-control" := by decide
  cases h with
  | vary hname _ hothers =>
      rw [hothers _ (by decide)]
      exact hget.resolve_left fun heq => absurd (hname.symm.trans heq) (by decide)
  | other hname hown hothers =>
      by_cases heq : entry.1 = js "cache-control"
      · rw [heq, hcache heq] at hown
        exact hown.trans (by decide)
      · rw [hothers _ fun h => heq (h.symm.trans hlower)]
        exact hget.resolve_left heq

end Entries

/-! ## The guarantee -/

/-- The headers keep the response out of caches and vary on the proof and on the given tokens. -/
structure ProtectedHeaders (covered : JsString → Prop) (headers : Headers) : Prop where
  cacheControl : headers.get (js "cache-control") = some X424_PROTECTED_CACHE_CONTROL
  vary : ∃ vary, headers.get (js "vary") = some vary ∧ VaryCovers vary humanProofHeader ∧
    ∀ token, covered token → VaryCovers vary token

theorem finalizeEntries_protected {protection : JsString}
    {protectionHeaders headers final : Headers}
    (hspec : ProtectionHeaders protection protectionHeaders)
    (hproof : Mentions protection humanProofHeader)
    (h : protectionHeaders.entries.foldlM finalizeEntry headers = Except.ok final) :
    ProtectedHeaders
      (fun token => Mentions headers.vary token ∨ Mentions protection token) final := by
  have hvary : ∃ vary, final.get (js "vary") = some vary ∧ WildcardAlone vary := by
    apply @finalizeEntries_achieve headers protectionHeaders.entries
      (fun headers => ∃ vary, headers.get (js "vary") = some vary ∧ WildcardAlone vary) final
      hspec.named ?_ (js "vary", protection) hspec.vary_mem ?_ h
    · rintro entry hentry headers next happlied ⟨vary, hget, halone⟩
      by_cases hname : entry.1 = js "vary"
      · exact ⟨_, happlied.vary_eq hname (hspec.vary entry hentry hname),
          mergeVary_alone hspec.alone⟩
      · exact ⟨vary, (happlied.vary_ne hname).trans hget, halone⟩
    · exact fun headers next happlied => ⟨_, happlied.vary_eq rfl rfl, mergeVary_alone hspec.alone⟩
  have hmentions : ∀ token, Mentions headers.vary token ∨ Mentions protection token →
      Mentions final.vary token := by
    intro token htoken
    have hkeeps : ∀ entry ∈ protectionHeaders.entries, ∀ headers next,
        EntryApplied entry headers next → Mentions headers.vary token →
          Mentions next.vary token := by
      intro entry hentry headers next happlied hbefore
      by_cases hname : entry.1 = js "vary"
      · rw [Headers.vary, happlied.vary_eq hname (hspec.vary entry hentry hname)]
        exact mentions_mergeVary (Or.inl hbefore)
      · rw [Headers.vary, happlied.vary_ne hname]
        exact hbefore
    rcases htoken with htoken | htoken
    · exact @finalizeEntries_keep headers _ (fun headers => Mentions headers.vary token) final
        hspec.named hkeeps htoken h
    · refine @finalizeEntries_achieve headers _ (fun headers => Mentions headers.vary token) final
        hspec.named hkeeps _ hspec.vary_mem (fun headers next happlied => ?_) h
      rw [Headers.vary, happlied.vary_eq rfl rfl]
      exact mentions_mergeVary (Or.inr ⟨_, List.mem_singleton_self _, htoken⟩)
  obtain ⟨vary, hget, halone⟩ := hvary
  have hfinal : final.vary = vary := by
    rw [Headers.vary, hget]
    rfl
  have hcovers : ∀ token, Mentions headers.vary token ∨ Mentions protection token →
      VaryCovers vary token := fun token htoken =>
    (hfinal ▸ hmentions token htoken).covers halone
  refine ⟨?_, vary, hget, hcovers _ (Or.inr hproof), hcovers⟩
  exact finalizeEntries_achieve hspec.named
    (fun entry hentry headers next happlied hbefore =>
      happlied.cacheControl (hspec.cacheControl entry hentry) (Or.inr hbefore))
    hspec.cacheControl_mem
    (fun headers next happlied => happlied.cacheControl (fun _ => rfl) (Or.inl rfl)) h

/-- Tokens that stand in `Vary` before a Fetch response is finalized. -/
inductive FetchSet (token : JsString) (initial : List (JsString × JsString))
    (protectionHeaders headers : Headers) : Prop
  | response (h : token ∈ varyTokens headers.vary)
  | protection (h : token ∈ varyTokens protectionHeaders.vary)
  | initial (given : Headers) (hgiven : Headers.ofPairs initial = .ok given)
      (h : token ∈ varyTokens given.vary)

theorem finalizeFetchX424Response_protected {initial : List (JsString × JsString)}
    {protectionHeaders : Headers}
    (hprotection : protectedFetchHeaders initial = .ok protectionHeaders)
    (response : Response) :
    (200 ≤ response.status → response.status ≤ 599 →
      ∃ sent, finalizeFetchX424Response response protectionHeaders = .ok sent) ∧
    ∀ sent, finalizeFetchX424Response response protectionHeaders = .ok sent →
      ProtectedHeaders (FetchSet · initial protectionHeaders response.headers) sent.headers := by
  obtain ⟨given, hgiven, hspec⟩ := protectedFetchHeaders_spec hprotection
  obtain ⟨final, hfinal⟩ := finalizeEntries_ok hspec.named protectionHeaders.values response.headers
  constructor
  · intro hmin hmax
    rw [finalizeFetchX424Response, hfinal]
    exact ⟨_, if_neg (by omega)⟩
  · intro sent hsent
    rw [finalizeFetchX424Response, hfinal] at hsent
    change (if response.status < 200 ∨ 599 < response.status then _ else _) = _ at hsent
    split_ifs at hsent
    obtain rfl := Except.ok.inj hsent
    have hproof := @mentions_mergeVary ((given.get (js "vary")).map .single) [humanProofHeader]
      humanProofHeader (Or.inr ⟨_, List.mem_singleton_self _, mentions_self (by decide)⟩)
    obtain ⟨hcache, vary, hget, hvary, hcovers⟩ := finalizeEntries_protected hspec hproof hfinal
    refine ⟨hcache, vary, hget, hvary, fun token htoken => hcovers token ?_⟩
    cases htoken with
    | response h => exact Or.inl (mentions_self h)
    | protection h =>
        rw [Headers.vary, hspec.get_vary] at h
        exact Or.inr (mentions_self h)
    | initial other hother h =>
        obtain rfl := Except.ok.inj (hgiven.symm.trans hother)
        exact Or.inr (mentions_mergeVary (Or.inl (mentions_self h)))

/--
Every head that is sent from a guarded Express response, and every finalized
Fetch response, is private and varies on the proof.  A finalized response varies
on all that was ever in `Vary`, and so does a guarded one in runs that leave
`Vary` out of a third argument of `writeHead` that has no message before it.
-/
theorem protectedResponses_private (STATUS_CODES : ℤ → Option JsString) :
    (∀ response calls head,
      response.protectedHeadersInstalled = false →
      installExpressProtectedHeaders.result response = .ok () →
      (afterCalls STATUS_CODES (installExpressProtectedHeaders.after response) calls).sent =
        some head →
      ProtectedHead humanProofHeader head ∧
        ((∀ call ∈ calls, call.VaryIsRead) → ∀ token,
          EverSet STATUS_CODES token response (installExpressProtectedHeaders.after response)
            calls → ProtectedHead token head)) ∧
    ∀ initial protectionHeaders, protectedFetchHeaders initial = .ok protectionHeaders →
      ∀ response : Response,
        (200 ≤ response.status → response.status ≤ 599 →
          ∃ sent, finalizeFetchX424Response response protectionHeaders = .ok sent) ∧
        ∀ sent, finalizeFetchX424Response response protectionHeaders = .ok sent →
          ProtectedHeaders (FetchSet · initial protectionHeaders response.headers)
            sent.headers := by
  constructor
  · intro response calls head hfresh hinstalled hsent
    have hready := fun token => @installExpressProtectedHeaders_variesOn token response hfresh
      hinstalled
    constructor
    · exact (afterCalls_keeps STATUS_CODES calls (hready _ (Or.inl rfl))).sent head hsent
    · intro hread token hset
      exact (hset.variesOn STATUS_CODES (hready _ (Or.inl rfl))
        (fun token htoken => hready token (Or.inr htoken)) hread).sent head hsent
  · exact fun initial protectionHeaders hprotection response =>
      finalizeFetchX424Response_protected hprotection response

/-! ## A third argument without a message -/

def expressResponse : ServerResponse :=
  ⟨200, none, some fun name => if name = js "vary" then some ⟨.single (js "Origin"), by decide⟩
    else none, none, false⟩

def noStatusCodes : ℤ → Option JsString := fun _ => none

def varyAccept : HeadersArgument := .object [(js "Vary", some (.single (js "Accept")))]

/-- `response.writeHead(200, undefined, { Vary: "Accept" })`. -/
def writeHeadUndefined : HandlerCall := .writeHead ⟨200, .undefined, some varyAccept⟩

instance (vary token : JsString) : Decidable (VaryCovers vary token) :=
  inferInstanceAs
    (Decidable (_ ∨ ∃ named ∈ varyTokens vary, toLowerCase named = toLowerCase token))

theorem thirdArgument_varyDropped :
    ∃ head, (afterCalls noStatusCodes (installExpressProtectedHeaders.after expressResponse)
        [writeHeadUndefined]).sent = some head ∧
      EverSet noStatusCodes (js "Accept") expressResponse
        (installExpressProtectedHeaders.after expressResponse) [writeHeadUndefined] ∧
      ¬ ProtectedHead (js "Accept") head := by
  have hvary : (afterCalls noStatusCodes (installExpressProtectedHeaders.after expressResponse)
      [writeHeadUndefined]).sent.map (·.headers (js "vary")) =
        some [js "Origin, human-proof"] := by
    decide
  have hset : varyAccept.SetsVary (js "Accept") :=
    ⟨_, _, List.mem_singleton_self _, by decide, by decide⟩
  have hreturned : (writeHeadUndefined.perform noStatusCodes).result
      (installExpressProtectedHeaders.after expressResponse) = .ok () := by
    rfl
  obtain ⟨head, hsent, hheaders⟩ := Option.map_eq_some_iff.mp hvary
  refine ⟨head, hsent,
    .call [] _ [] rfl ⟨varyAccept, List.mem_singleton_self _, hset⟩ hreturned, ?_⟩
  intro hprotected
  obtain ⟨vary, heq, hcovers⟩ := hprotected.vary
  rw [hheaders] at heq
  obtain rfl := List.cons.inj heq |>.1
  exact absurd hcovers (by decide)

theorem protectedResponses_private_removal :
    ∃ head, (afterCalls noStatusCodes (installExpressProtectedHeaders.after expressResponse)
        [.setHeader (js "VARY") (some (.single (js "Accept"))),
          .removeHeader (js "cache-control"), .implicitHeader]).sent = some head ∧
      ProtectedHead (js "Accept") head := by
  have hvary : (afterCalls noStatusCodes (installExpressProtectedHeaders.after expressResponse)
      [.setHeader (js "VARY") (some (.single (js "Accept"))),
        .removeHeader (js "cache-control"), .implicitHeader]).sent.isSome = true := by
    decide
  obtain ⟨head, hsent⟩ := Option.isSome_iff_exists.mp hvary
  refine ⟨head, hsent, ((protectedResponses_private noStatusCodes).1 expressResponse _ head rfl rfl
    hsent).2 ?_ _ ?_⟩
  · intro call hcall
    simp only [List.mem_cons, List.not_mem_nil, or_false] at hcall
    rcases hcall with rfl | rfl | rfl <;> trivial
  · exact .call [] _ _ rfl ⟨by decide, by decide⟩ rfl

end X424
