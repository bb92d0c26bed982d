import X424.Challenge

/-!
# The size of a requirement that a client accepts

A requirement in a header is far below the absolute maximum.  In a body only
the server compares the size, so that a client accepts whatever fits the schema.
-/

namespace X424

/-! ## Bytes of a text -/

theorem utf8_append_of_head {s t : JsString} (h : ∀ u ∈ t.head?, isTrailSurrogate u = false) :
    utf8 (s ++ t) = utf8 s ++ utf8 t := by
  have hchars : toChars (s ++ t) = toChars s ++ toChars t := by
    induction s using toChars.induct with
    | case1 => rfl
    | case2 u =>
        cases t with
        | nil => simp [toChars]
        | cons v t =>
            have hv : isTrailSurrogate v = false := h v rfl
            simp [toChars, hv]
    | case3 u v rest hpair ih => simp [toChars, hpair, ih]
    | case4 u v rest hpair ih =>
        simp only [Bool.not_eq_true] at hpair
        have ih' : toChars (v :: (rest ++ t)) = toChars (v :: rest) ++ toChars t := ih
        simp [toChars, hpair, ih']
  rw [utf8, hchars, List.flatMap_append, utf8, utf8]

def quotedBytes (text : JsString) : Nat := (utf8 (quote text)).length

theorem length_codeUnits_le (c : Char) : (codeUnits c).length ≤ c.utf8Size := by
  have hpos := c.utf8Size_pos
  unfold codeUnits
  split_ifs with hsmall
  · exact hpos
  · have hone : c.utf8Size ≠ 1 := by
      rw [Ne, Char.utf8Size_eq_one_iff, UInt32.le_iff_toNat_le]
      exact fun hle => hsmall (lt_of_le_of_lt hle (by decide))
    rw [List.length_cons, List.length_singleton]
    omega

theorem length_le_utf8 (text : JsString) : text.length ≤ (utf8 text).length := by
  induction text using toChars.induct with
  | case1 => exact Nat.zero_le _
  | case2 u =>
      have hpos := (unpairedChar u).utf8Size_pos
      rw [utf8, toChars, List.flatMap_singleton, String.length_utf8EncodeChar]
      exact hpos
  | case3 u v rest hpair ih =>
      obtain ⟨hlead, htrail⟩ := Bool.and_eq_true_iff.mp hpair
      have hsize := length_codeUnits_le (pairedChar u v)
      rw [codeUnits_pairedChar hlead htrail] at hsize
      simp only [utf8] at ih
      simp only [utf8, toChars, hpair, if_true, List.flatMap_cons, List.length_append,
        String.length_utf8EncodeChar, List.length_cons] at hsize ⊢
      omega
  | case4 u v rest hpair ih =>
      have hpos := (unpairedChar u).utf8Size_pos
      simp only [Bool.not_eq_true] at hpair
      simp only [utf8, List.length_cons] at ih
      simp only [utf8, toChars, hpair, Bool.false_eq_true, if_false, List.flatMap_cons,
        List.length_append, String.length_utf8EncodeChar, List.length_cons]
      omega

theorem toNat_ofNat_le (n : Nat) : (Char.ofNat n).toNat ≤ n := by
  by_cases h : n.isValidChar
  · rw [Char.ofNat, dif_pos h]
    exact Nat.le_refl n
  · rw [Char.ofNat, dif_neg h]
    exact Nat.zero_le n

theorem length_utf8_unit_le (u : UInt16) : (utf8 [u]).length ≤ 3 := by
  have hsmall : (unpairedChar u).toNat < 0x10000 := by
    rw [unpairedChar]
    by_cases hsurrogate : (isLeadSurrogate u || isTrailSurrogate u) = true
    · rw [if_pos hsurrogate]
      decide
    · rw [if_neg hsurrogate]
      exact lt_of_le_of_lt (toNat_ofNat_le _) u.toNat_lt
  have hfour : (unpairedChar u).utf8Size ≠ 4 := by
    rw [Ne, Char.utf8Size_eq_four_iff, UInt32.lt_iff_toNat_lt]
    exact fun hlt => absurd hsmall (not_lt.mpr hlt)
  have hbound := (unpairedChar u).utf8Size_le_four
  rw [utf8, toChars, List.flatMap_singleton, String.length_utf8EncodeChar]
  omega

theorem length_utf8_pair {u v : UInt16} (hlead : isLeadSurrogate u = true)
    (htrail : isTrailSurrogate v = true) : (utf8 [u, v]).length ≤ 4 := by
  have hbound := (pairedChar u v).utf8Size_le_four
  simpa [utf8, toChars, hlead, htrail] using hbound

theorem length_utf8_quoteUnit (u : UInt16) : (utf8 (quoteUnit u)).length ≤ 6 := by
  rcases quoteUnit_cases u with ⟨-, -, hunit⟩ | ⟨hlength, hascii⟩
  · rw [hunit]
    exact (length_utf8_unit_le u).trans (by decide)
  · rwa [length_utf8_ascii hascii]

theorem length_utf8_quoteUnits (text : JsString) :
    (utf8 (quoteUnits text)).length ≤ 6 * text.length := by
  induction text using quoteUnits.induct with
  | case1 => exact Nat.le_refl 0
  | case2 u => exact length_utf8_quoteUnit u
  | case3 u v rest hpair ih =>
      obtain ⟨hlead, htrail⟩ := Bool.and_eq_true_iff.mp hpair
      have hunits := length_utf8_pair hlead htrail
      rw [quoteUnits, hpair, if_pos rfl,
        show u :: v :: quoteUnits rest = [u, v] ++ quoteUnits rest from rfl,
        utf8_append (isText_pair hlead htrail), List.length_append, List.length_cons,
        List.length_cons]
      omega
  | case4 u v rest hpair ih =>
      have hunit := length_utf8_quoteUnit u
      simp only [Bool.not_eq_true] at hpair
      rw [quoteUnits, hpair, if_neg Bool.false_ne_true, utf8_append (isText_quoteUnit u),
        List.length_append, List.length_cons]
      omega

theorem quotedBytes_le (text : JsString) : quotedBytes text ≤ 6 * text.length + 2 := by
  have hunits := length_utf8_quoteUnits text
  have hopen : quote text = js "\"" ++ (quoteUnits text ++ js "\"") := rfl
  have hmark : (utf8 (js "\"")).length = 1 := by decide
  rw [quotedBytes, hopen, utf8_append (isText_js _),
    utf8_append_of_head (by rintro _ ⟨⟩; rfl),
    List.length_append, List.length_append, hmark]
  omega

def jsonBytes (numbers : JsNumbers) (value : Json) : Nat :=
  (utf8 (canonicalJson numbers value)).length

theorem encoded_le_iff {numbers : JsNumbers} {value : Json} :
    encodedHeaderByteLength (encodeCanonical numbers value) ≤ headerAbsoluteMaxBytes ↔
      jsonBytes numbers value ≤ 49152 := by
  rw [encodeCanonical, encodedHeaderByteLength_encode, length_encodeStrictBase64Url, jsonBytes,
    headerAbsoluteMaxBytes]
  omega

/-! ## URLs inside a requirement -/

theorem closeWith_append (closing : UInt16) (texts : List JsString) (text : JsString)
    (rest : List JsString) :
    closeWith closing (texts ++ text :: rest) =
      texts.flatMap (fun other => other ++ [0x2C]) ++ closeWith closing (text :: rest) := by
  induction texts with
  | nil => rfl
  | cons other texts ih =>
      have hcons : ∃ next others, texts ++ text :: rest = next :: others := by
        cases texts with
        | nil => exact ⟨text, rest, rfl⟩
        | cons next texts => exact ⟨next, texts ++ text :: rest, rfl⟩
      obtain ⟨next, others, hnext⟩ := hcons
      rw [List.cons_append, hnext, closeWith, ← hnext, ih, List.flatMap_cons]
      simp

theorem stringify_resource (numbers : JsNumbers) (method requestDigest : JsString) :
    ∃ before between, ∀ uri audience,
      stringify numbers (ProtectedResource.toJson ⟨method, uri, audience, requestDigest⟩) =
        before ++ (quote audience ++ (0x2C :: between ++ (quote uri ++ [0x7D]))) := by
  refine ⟨0x7B :: (quote (js "audience") ++ [0x3A]),
    quote (js "method") ++ 0x3A :: (quote method ++ 0x2C :: (quote (js "requestDigest") ++
      0x3A :: (quote requestDigest ++ 0x2C :: (quote (js "uri") ++ [0x3A])))),
    fun uri audience => ?_⟩
  show 0x7B :: closeWith 0x7D [quote (js "audience") ++ 0x3A :: quote audience,
    quote (js "method") ++ 0x3A :: quote method,
    quote (js "requestDigest") ++ 0x3A :: quote requestDigest,
    quote (js "uri") ++ 0x3A :: quote uri] = _
  simp [closeWith]

def leadingFields : List RequirementField :=
  [.accepts, .binding, .createdAt, .dependencyId, .expiresAt, .nonce, .providerRequests, .purpose]

theorem canonicalJson_withUrls (numbers : JsNumbers) {document : RequirementDocument}
    (h : ∀ accepted ∈ document.accepts, accepted.SafeAge) :
    ∃ before between after, ∀ uri audience,
      canonicalJson numbers (document.withUrls uri audience).toJson =
        before ++ (quote audience ++ (0x2C :: between ++ (quote uri ++ 0x7D :: after))) := by
  obtain ⟨before, between, hresource⟩ := stringify_resource numbers document.resource.method
    document.resource.requestDigest
  let leading := leadingFields.filterMap fun k =>
    (document.normalized.fieldValue k).map fun value => (requirementShape.name k, value)
  refine ⟨0x7B :: ((stringifyMembers numbers leading).flatMap (fun text => text ++ [0x2C]) ++
      (quote (js "resource") ++ 0x3A :: before)), between,
    0x2C :: (quote (js "x424Version") ++ 0x3A :: (quote X424.x424Version ++ [0x7D])),
    fun uri audience => ?_⟩
  have hmembers : (document.withUrls uri audience).normalized.toJson = .object (leading ++
      [(js "resource", ProtectedResource.toJson ⟨document.resource.method, uri, audience,
        document.resource.requestDigest⟩), (js "x424Version", .string X424.x424Version)]) := by
    show Json.object (requirementShape.fields.filterMap _) = _
    rw [show requirementShape.fields = leadingFields ++ [.resource, .x424Version] from rfl,
      List.filterMap_append]
    rfl
  rw [canonicalJson, @RequirementDocument.normalize_toJson (document.withUrls uri audience) h,
    hmembers, stringify, stringifyMembers_eq_map, List.map_append, List.map_cons,
    closeWith_append, ← stringifyMembers_eq_map, hresource]
  simp [closeWith, stringify]

theorem jsonBytes_withUrls (numbers : JsNumbers) {document : RequirementDocument}
    (h : ∀ accepted ∈ document.accepts, accepted.SafeAge) :
    ∃ rest, ∀ uri audience, jsonBytes numbers (document.withUrls uri audience).toJson =
      rest + quotedBytes uri + quotedBytes audience := by
  obtain ⟨before, between, after, htext⟩ := canonicalJson_withUrls numbers h
  refine ⟨(utf8 before).length + (utf8 (0x2C :: between)).length + (utf8 (0x7D :: after)).length,
    fun uri audience => ?_⟩
  rw [jsonBytes, htext, utf8_append_of_head (by rintro u ⟨⟩; rfl), utf8_append (isText_quote _),
    utf8_append_of_head (by rintro u ⟨⟩; rfl), utf8_append (isText_quote _)]
  simp only [List.length_append, quotedBytes]
  omega

theorem normalizeMembers_knownMembers (members : List (JsString × Json)) :
    normalizeMembers (knownMembers members) = normalizeMembers members := by
  rw [normalizeMembers_eq_map, normalizeMembers_eq_map, knownMembers, List.filter_filter]
  simp

/-! ## The requirement in a body -/

/-- `requirement.resource[name]`. -/
def resourceText (name : JsString) (requirement : Json) : JsString :=
  match (memberOf (js "resource") requirement).bind (memberOf name) with
  | some (.string text) => text
  | _ => []

def blankBytes (urls : JsUrls) (text : JsString) : Int :=
  quotedBytes text - quotedBytes ((urls.check text).getD text)

/-- The bytes of a requirement as it was sent, without the blanks around its URLs. -/
def sentBytes (runtime : Runtime) (requirement : Json) : Int :=
  jsonBytes runtime.numbers requirement -
    blankBytes runtime.urls (resourceText (js "uri") requirement) -
    blankBytes runtime.urls (resourceText (js "audience") requirement)

theorem resourceText_same {a b : Json} (h : a.Same b) (hkeys : a.DistinctKeys) (name : JsString) :
    resourceText name a = resourceText name b := by
  have hmember := memberOf_same h hkeys (js "resource")
  unfold resourceText
  cases hx : memberOf (js "resource") a with
  | none =>
      rw [hx] at hmember
      cases hy : memberOf (js "resource") b with
      | none => rfl
      | some y =>
          rw [hy] at hmember
          cases hmember
  | some x =>
      rw [hx] at hmember
      cases hy : memberOf (js "resource") b with
      | none =>
          rw [hy] at hmember
          cases hmember
      | some y =>
          rw [hy] at hmember
          cases hmember with
          | some hsame =>
              have htext := memberOf_same hsame (distinctKeys_memberOf hx hkeys) name
              rw [Option.bind_some, Option.bind_some]
              generalize memberOf name x = s at htext
              generalize memberOf name y = t at htext
              cases htext with
              | none => rfl
              | some hsame => cases hsame <;> rfl

theorem resourceText_toJson (document : RequirementDocument) :
    resourceText (js "uri") document.toJson = document.resource.uri ∧
      resourceText (js "audience") document.toJson = document.resource.audience := by
  have hresource : memberOf (js "resource") document.toJson = some document.resource.toJson :=
    @memberOf_ofFields _ requirementShape document.fieldValue .resource
  have huri : memberOf (js "uri") document.resource.toJson = some (.string document.resource.uri) :=
    @memberOf_ofFields _ resourceShape document.resource.fieldValue .uri
  have haudience : memberOf (js "audience") document.resource.toJson =
      some (.string document.resource.audience) :=
    @memberOf_ofFields _ resourceShape document.resource.fieldValue .audience
  constructor
  · rw [resourceText, hresource, Option.bind_some, huri]
  · rw [resourceText, hresource, Option.bind_some, haudience]

/-- The canonical text does not see the members named `__proto__` that the schema drops. -/
theorem jsonBytes_knownMembers (numbers : JsNumbers) {document : RequirementDocument}
    (h : ∀ accepted ∈ document.accepts, accepted.SafeAge) :
    jsonBytes numbers { document with
      providerRequests := document.providerRequests.map knownMembers }.toJson =
        jsonBytes numbers document.toJson := by
  have hnormal : RequirementDocument.normalized { document with
      providerRequests := document.providerRequests.map knownMembers } = document.normalized := by
    simp only [RequirementDocument.normalized, Option.map_map, Function.comp_def,
      normalizeMembers_knownMembers]
  rw [jsonBytes, jsonBytes, canonicalJson, canonicalJson,
    @RequirementDocument.normalize_toJson { document with
      providerRequests := document.providerRequests.map knownMembers } h, hnormal,
    RequirementDocument.normalize_toJson h]

theorem jsonBytes_schema {runtime : Runtime} {json : Json} {result : RequirementDocument}
    (hkeys : json.DistinctKeys)
    (h : HumanRequirementSchema runtime.dates runtime.urls json = some result) :
    (jsonBytes runtime.numbers result.toJson : Int) = sentBytes runtime json ∧
      jsonBytes runtime.numbers result.toJson ≤
        jsonBytes runtime.numbers json + 2 * (6 * 2048 + 2) := by
  obtain ⟨document, hsame, hdocument⟩ := exists_document hkeys h
  obtain ⟨hvalid, uri, audience, huri, haudience, rfl⟩ := HumanRequirementSchema_toJson.mp hdocument
  obtain ⟨rest, hrest⟩ := jsonBytes_withUrls runtime.numbers hvalid.safeAge
  have hresult :=
    (@jsonBytes_knownMembers runtime.numbers (document.withUrls uri audience) hvalid.safeAge).trans
      (hrest uri audience)
  have hsent : jsonBytes runtime.numbers json =
      rest + quotedBytes document.resource.uri + quotedBytes document.resource.audience := by
    rw [← hrest, jsonBytes, canonicalJson_congr hkeys (hsame.distinctKeys hkeys)
      hsame.withoutProto]
    rfl
  obtain ⟨htextUri, htextAudience⟩ := resourceText_toJson document
  have hsentBytes : sentBytes runtime json =
      rest + quotedBytes uri + quotedBytes audience := by
    rw [sentBytes, hsent, resourceText_same hsame hkeys, resourceText_same hsame hkeys, htextUri,
      htextAudience, blankBytes, blankBytes, huri.1, haudience.1]
    push_cast
    simp only [Option.getD_some]
    ring
  have hquotedUri := quotedBytes_le uri
  have hquotedAudience := quotedBytes_le audience
  have hresult' : jsonBytes runtime.numbers (RequirementDocument.toJson { document with
      resource := { document.resource with uri := uri, audience := audience }
      providerRequests := document.providerRequests.map knownMembers }) =
        rest + quotedBytes uri + quotedBytes audience := hresult
  refine ⟨?_, ?_⟩
  · rw [hresult', hsentBytes]
    push_cast
    rfl
  · rw [hresult', hsent]
    omega

/-! ## What a client accepts -/

section Accepted

variable {runtime : Runtime} {get : JsString → Option JsString} {body : Option Json}
  {requirement : RequirementDocument}

theorem challengeProblem_eq_ok {problem : Option X424Problem}
    (h : challengeProblem runtime body = .ok problem) :
    ∀ read ∈ problem, ∃ json, body = some json ∧
      HumanRequiredProblemSchema runtime json = some read := by
  intro read hread
  unfold challengeProblem at h
  split at h
  · cases h
    cases hread
  · cases h
    cases hread
  · rename_i json _
    unfold parseHumanRequiredProblem at h
    split at h
    · rename_i parsed hparsed
      cases h
      cases hread
      exact ⟨json, rfl, hparsed⟩
    · cases h

theorem requirementFromBody_eq_ok {problem : Option X424Problem}
    (h : requirementFromBody problem = .ok requirement) :
    ∃ read ∈ problem, read.requirement = some requirement := by
  unfold requirementFromBody at h
  split at h
  · cases h
    exact ⟨_, rfl, rfl⟩
  · cases h

theorem header_bytes {header : JsString} {problem : Option X424Problem}
    (h : requirementFromHeader runtime header problem = .ok requirement) :
    jsonBytes runtime.numbers requirement.toJson ≤ 49152 := by
  obtain ⟨hsize, hdecoded, -⟩ := requirementFromHeader_eq_ok.mp h
  unfold decodeHumanRequirement at hdecoded
  cases hjson : decodeX424Header runtime.numbers header with
  | error e => simp [hjson, bind, Except.bind] at hdecoded
  | ok json =>
      simp only [hjson, bind, Except.bind, parseHumanRequirement] at hdecoded
      split at hdecoded
      · rename_i accepted haccepted
        cases hdecoded
        obtain ⟨-, hvalue⟩ := decodeX424Header_eq_ok.mp hjson
        obtain ⟨bytes, -, rfl, hparsed⟩ := decodeCanonical_eq_ok.mp hvalue
        obtain ⟨hkeys, hbytes⟩ := parseCanonicalJsonBytes_spec hparsed
        rw [encodedHeaderByteLength_encode, length_encodeStrictBase64Url,
          headerInteropEnvelopeBytes] at hsize
        have hjsonBytes : jsonBytes runtime.numbers json ≤ bytes.length := by
          rcases hbytes with ⟨-, rfl⟩ | rfl
          · exact Nat.le_refl _
          · rw [List.length_append]
            exact Nat.le_add_left _ _
        have hschema := (jsonBytes_schema hkeys haccepted).2
        omega
      · cases hdecoded

theorem body_bytes (hbody : ∀ json ∈ body, json.DistinctKeys) {problem : Option X424Problem}
    (hproblem : challengeProblem runtime body = .ok problem)
    (h : requirementFromBody problem = .ok requirement) :
    ∃ sent, body.bind (memberOf (js "requirement")) = some sent ∧
      (jsonBytes runtime.numbers requirement.toJson : Int) = sentBytes runtime sent := by
  obtain ⟨read, hread, hrequirement⟩ := requirementFromBody_eq_ok h
  obtain ⟨json, rfl, hschema⟩ := challengeProblem_eq_ok hproblem read hread
  obtain ⟨-, field, hfield, -, hembedded⟩ := HumanRequiredProblemSchema_spec hschema
  rw [hrequirement, strictObject_memberOf hfield .requirement] at hembedded
  have hname : problemShape.name .requirement = js "requirement" := rfl
  rw [hname] at hembedded
  cases hmember : memberOf (js "requirement") json with
  | none =>
      rw [hmember] at hembedded
      cases hembedded
  | some sent =>
      rw [hmember] at hembedded
      obtain ⟨accepted, haccepted, hsome⟩ := Option.map_eq_some_iff.mp hembedded
      cases hsome
      refine ⟨sent, hmember, (jsonBytes_schema ?_ haccepted).1⟩
      exact distinctKeys_memberOf hmember (hbody json rfl)

/-- The absolute maximum is respected exactly by a requirement in a header and
by a body whose requirement has at most 49,152 bytes. -/
theorem requirement_cap_iff (hbody : ∀ json ∈ body, json.DistinctKeys)
    (h : requirementFromChallenge runtime get body = .ok requirement) :
    encodedHeaderByteLength (encodeCanonical runtime.numbers requirement.toJson) ≤
        headerAbsoluteMaxBytes ↔
      (challengeHeader get).isSome ∨
        ∀ sent ∈ body.bind (memberOf (js "requirement")), sentBytes runtime sent ≤ 49152 := by
  rw [encoded_le_iff]
  unfold requirementFromChallenge at h
  cases hproblem : challengeProblem runtime body with
  | error e => simp [hproblem, bind, Except.bind] at h
  | ok problem =>
      simp only [hproblem, bind, Except.bind] at h
      split at h
      · rename_i header hheader
        exact iff_of_true (header_bytes h) (Or.inl (by rw [hheader]; rfl))
      · rename_i hheader
        obtain ⟨sent, hsent, hbytes⟩ := body_bytes hbody hproblem h
        rw [hheader, hsent]
        simp only [Option.isSome_none, Bool.false_eq_true, false_or, Option.mem_some, forall_eq',
          ← hbytes]
        omega

end Accepted

theorem distinctKeys_blankUrl (transport : X424RequirementTransportMode) :
    (humanRequiredProblem BlankUrl.requirement transport).toJson.DistinctKeys := by
  have hwell := RequirementDocument.wellFormed_toJson BlankUrl.requirement_valid.safeAge
    BlankUrl.requirement_plain.wellFormed
  refine (@wellFormed_problem wholeNumbers _ fun requirement hrequirement => ?_).distinctKeys
  cases transport with
  | header => cases hrequirement
  | body => exact Option.some.inj hrequirement ▸ hwell

theorem requirement_cap_blankUrl :
    encodedHeaderByteLength (encodeCanonical BlankUrl.runtime.numbers BlankUrl.received.toJson) ≤
        headerAbsoluteMaxBytes ↔
      (challengeHeader (headersGet baseHeaders)).isSome ∨
        ∀ sent ∈ (some (humanRequiredProblem BlankUrl.requirement .body).toJson).bind
          (memberOf (js "requirement")), sentBytes BlankUrl.runtime sent ≤ 49152 :=
  requirement_cap_iff (fun _ hjson => Option.some.inj hjson ▸ distinctKeys_blankUrl .body)
    (embedded_read BlankUrl.requirement_schema challengeHeader_base)

/-! ## Provider material of fifty thousand characters -/

theorem length_le_closeWith {closing : UInt16} {text : JsString} {texts : List JsString}
    (h : text ∈ texts) : text.length ≤ (closeWith closing texts).length := by
  induction texts using closeWith.induct with
  | case1 => cases h
  | case2 only =>
      rw [List.mem_singleton.mp h, closeWith, List.length_append]
      exact Nat.le_add_right _ _
  | case3 first next texts ih =>
      rw [closeWith, List.length_append, List.length_cons]
      rcases List.mem_cons.mp h with rfl | hrest
      · omega
      · have hle := ih hrest
        omega

theorem length_member_le (numbers : JsNumbers) {members : List (JsString × Json)}
    {member : JsString × Json} (h : member ∈ members) :
    (stringify numbers member.2).length ≤ (stringify numbers (.object members)).length := by
  have htext : quote member.1 ++ 0x3A :: stringify numbers member.2 ∈
      stringifyMembers numbers members := by
    rw [stringifyMembers_eq_map]
    exact List.mem_map_of_mem h
  have hle := @length_le_closeWith 0x7D _ _ htext
  rw [List.length_append, List.length_cons] at hle
  rw [stringify, List.length_cons]
  omega

theorem length_le_quote (text : JsString) : text.length ≤ (quote text).length := by
  have hunit : ∀ u, 1 ≤ (quoteUnit u).length := fun u => by
    unfold quoteUnit
    split
    · simp
    · split_ifs <;> simp [unicodeEscape]
  have hunits : text.length ≤ (quoteUnits text).length := by
    induction text using quoteUnits.induct with
    | case1 => exact Nat.zero_le _
    | case2 u => exact hunit u
    | case3 u v rest hpair ih =>
        rw [quoteUnits, hpair, if_pos rfl]
        simpa using ih
    | case4 u v rest hpair ih =>
        have hfirst := hunit u
        simp only [Bool.not_eq_true] at hpair
        rw [quoteUnits, hpair, if_neg Bool.false_ne_true, List.length_append]
        simp only [List.length_cons] at ih ⊢
        omega
  rw [quote, List.length_cons, List.length_append]
  omega

theorem length_material_le (numbers : JsNumbers) {document : RequirementDocument}
    (haccepts : ∀ accepted ∈ document.accepts, accepted.SafeAge) {name text : JsString}
    (hname : name ≠ protoKey)
    (hrequests : document.providerRequests = some [(name, .string text)]) :
    text.length ≤ jsonBytes numbers document.toJson := by
  have hnormalized : document.normalized.providerRequests = some [(name, .string text)] := by
    simp [RequirementDocument.normalized, hrequests, normalizeMembers_eq_map, hname, normalize]
  have hmember : (js "providerRequests", Json.object [(name, .string text)]) ∈
      requirementShape.membersOf document.normalized.fieldValue :=
    ObjectShape.mem_membersOf.mpr ⟨.providerRequests, by
      simp only [RequirementDocument.fieldValue, hnormalized]
      rfl, rfl⟩
  rw [jsonBytes, canonicalJson, RequirementDocument.normalize_toJson haccepts]
  calc text.length ≤ (stringify numbers (.string text)).length := length_le_quote _
    _ ≤ (stringify numbers (.object [(name, .string text)])).length :=
        length_member_le _ (List.mem_singleton_self (name, Json.string text))
    _ ≤ (stringify numbers document.normalized.toJson).length := length_member_le _ hmember
    _ ≤ (utf8 (stringify numbers document.normalized.toJson)).length := length_le_utf8 _

def longMaterial : JsString := List.replicate 50000 0x61

def longRequirement : RequirementDocument :=
  { BlankUrl.received with providerRequests := some [(js "world:orb", .string longMaterial)] }

theorem longRequirement_schema :
    HumanRequirementSchema BlankUrl.runtime.dates BlankUrl.runtime.urls longRequirement.toJson =
      some longRequirement := by
  have hrequests : ∀ members ∈ longRequirement.providerRequests,
      members = [(js "world:orb", .string longMaterial)] := by
    rintro members ⟨⟩
    rfl
  refine (RequirementDocument.schema_toJson fun members hmembers => ?_).mpr
    ⟨⟨BlankUrl.requirement_valid.dependencyId, BlankUrl.requirement_valid.purpose,
      BlankUrl.requirement_valid.resource, BlankUrl.requirement_valid.nonce,
      BlankUrl.requirement_valid.binding, BlankUrl.requirement_valid.createdAt,
      BlankUrl.requirement_valid.expiresAt, BlankUrl.requirement_valid.accepts,
      fun members hmembers member hmember => ?_⟩, _, _, ⟨by decide, by decide⟩,
      ⟨by decide, by decide⟩, rfl⟩
  · rw [hrequests members hmembers]
    exact .object (by decide) (List.forall_mem_singleton.mpr (.string _))
  · rw [hrequests members hmembers] at hmember
    rw [List.mem_singleton.mp (List.mem_of_mem_filter hmember)]
    decide

/-- A client accepts a requirement whose encoding is above the absolute maximum. -/
theorem requirement_above_cap :
    requirementFromChallenge BlankUrl.runtime (headersGet baseHeaders)
        (some (humanRequiredProblem longRequirement .body).toJson) = .ok longRequirement ∧
      headerAbsoluteMaxBytes < encodedHeaderByteLength
        (encodeCanonical BlankUrl.runtime.numbers longRequirement.toJson) := by
  refine ⟨embedded_read longRequirement_schema challengeHeader_base, ?_⟩
  rw [← not_le, encoded_le_iff, not_le]
  have hlength : longMaterial.length = 50000 := List.length_replicate
  have hname : js "world:orb" ≠ protoKey := by decide
  have hrequests : longRequirement.providerRequests =
      some [(js "world:orb", .string longMaterial)] := rfl
  have hmaterial := @length_material_le BlankUrl.runtime.numbers longRequirement
    BlankUrl.requirement_valid.safeAge _ _ hname hrequests
  rw [hlength] at hmaterial
  exact lt_of_lt_of_le (by decide) hmaterial

end X424
