import X424.Metadata.VerifierMetadata

/-!
# Signed metadata

The checks of a document do not depend on the order of its members, so that a
document that passes them before it is signed passes them when it is read from
the token.  What only the reader checks are the key id, the size of the token
and the length of the signature.
-/

namespace X424

/-! ## Values that are read alike -/

/-- The same JSON value; of two members with one name there is none. -/
structure Alike (a b : Json) : Prop where
  same : a.Same b
  distinctKeys : a.DistinctKeys

section Alike

variable {a b c d : Option Json} {numbers : JsNumbers}

theorem alike_of_same (h : Option.Rel Json.Same a b) (hkeys : ∀ value ∈ a, value.DistinctKeys) :
    Option.Rel Alike a b := by
  cases h with
  | none => exact .none
  | some h => exact .some ⟨h, hkeys _ rfl⟩

theorem Alike.memberOf {a b : Json} (h : Alike a b) (name : JsString) :
    Option.Rel Alike (memberOf name a) (memberOf name b) :=
  alike_of_same (memberOf_same h.same h.distinctKeys name)
    fun _ hvalue => distinctKeys_memberOf hvalue h.distinctKeys

theorem memberOf_alike (h : Option.Rel Alike a b) (name : JsString) :
    Option.Rel Alike (a.bind (memberOf name)) (b.bind (memberOf name)) := by
  cases h with
  | none => exact .none
  | some h => exact h.memberOf name

theorem Alike.items {xs ys : List Json} (h : Alike (.array xs) (.array ys)) :
    List.Forall₂ Alike xs ys := by
  have hkeys := everyObject_array.mp h.distinctKeys
  cases h.same with
  | array hlength hsame =>
      exact List.forall₂_iff_zip.mpr ⟨hlength, fun {x y} hxy =>
        ⟨hsame _ hxy, hkeys _ (List.of_mem_zip hxy).1⟩⟩

theorem isJsonString_alike (h : Option.Rel Alike a b) (text : JsString) :
    isJsonString text a = isJsonString text b := by
  cases h with
  | none => rfl
  | some h => cases h.same <;> rfl

theorem isTruthy_alike (h : Option.Rel Alike a b) : isTruthy a = isTruthy b := by
  cases h with
  | none => rfl
  | some h => cases h.same <;> rfl

theorem strictEqual_comm (a b : Option Json) : strictEqual a b = strictEqual b a := by
  rcases a with _ | (_ | _ | _ | _ | _ | _) <;> rcases b with _ | (_ | _ | _ | _ | _ | _) <;>
    first | rfl | exact Bool.beq_comm

theorem strictEqual_alike (h : Option.Rel Alike a b) (c : Option Json) :
    strictEqual a c = strictEqual b c := by
  cases h with
  | none => rfl
  | some h => cases h.same <;> rcases c with _ | (_ | _ | _ | _ | _ | _) <;> rfl

theorem readProperty_alike {a b : Json} (h : Alike a b) {name : JsString} {value : Option Json}
    (hread : readProperty name a = .ok value) :
    value = memberOf name a ∧ readProperty name b = .ok (memberOf name b) := by
  cases h.same with
  | null => cases hread
  | bool | number | string | array | object =>
      cases hread
      exact ⟨rfl, rfl⟩

def elementText (numbers : JsNumbers) : Json → Except JsError JsString
  | .null => .ok []
  | item => toText numbers item

theorem elementTexts_eq (items : List Json) :
    elementTexts numbers items = items.mapM (elementText numbers) := by
  induction items with
  | nil => rfl
  | cons item items ih =>
      rw [List.mapM_cons, ← ih]
      cases item <;> rfl

theorem elementTexts_congr {xs ys : List Json}
    (h : List.Forall₂ (fun x y => elementText numbers x = elementText numbers y) xs ys) :
    elementTexts numbers xs = elementTexts numbers ys := by
  rw [elementTexts_eq, elementTexts_eq]
  induction h with
  | nil => rfl
  | cons hhead _ ih => rw [List.mapM_cons, List.mapM_cons, hhead, ih]

theorem lookup_isNone {members : List (JsString × Json)} {name : JsString} :
    (members.lookup name).isNone = true ↔ name ∉ members.map Prod.fst := by
  rw [Option.isNone_iff_eq_none, List.lookup_eq_none_iff, List.mem_map, not_exists]
  refine forall_congr' fun member => ?_
  rw [bne_iff_ne, not_and, ne_comm]

theorem toText_same {a b : Json} (h : a.Same b) : toText numbers a = toText numbers b := by
  induction h with
  | null | bool | number | string => rfl
  | @array xs ys hlength hsame ih =>
      have hitems :
          List.Forall₂ (fun x y => elementText numbers x = elementText numbers y) xs ys := by
        refine List.forall₂_iff_zip.mpr ⟨hlength, fun {x y} hxy => ?_⟩
        have htext := ih (x, y) hxy
        cases hsame (x, y) hxy <;> first | rfl | exact htext
      rw [toText, toText, elementTexts_congr hitems]
  | @object xs ys hkeys _ _ =>
      have hnone : ((xs.lookup (js "toString")).isNone = true) ↔
          ((ys.lookup (js "toString")).isNone = true) := by
        rw [lookup_isNone, lookup_isNone, hkeys.mem_iff]
      rw [toText, toText]
      exact if_congr hnone rfl rfl

theorem objectValues_alike {values : List Json} (h : Option.Rel Alike a b)
    (hvalues : objectValues a = .ok values) :
    ∃ others, objectValues b = .ok others ∧
      ∀ other ∈ others, ∃ value ∈ values, Alike value other := by
  cases h with
  | none => cases hvalues
  | @some x y h =>
      have hx := h.distinctKeys
      cases h.same with
      | null => cases hvalues
      | bool | number =>
          cases hvalues
          exact ⟨[], rfl, List.forall_mem_nil _⟩
      | string text =>
          cases hvalues
          refine ⟨_, rfl, fun other hother => ⟨other, hother, ?_⟩⟩
          obtain ⟨unit, -, rfl⟩ := List.mem_map.mp hother
          exact ⟨.string _, .string _⟩
      | @array xs ys hlength hsame =>
          cases hvalues
          refine ⟨ys, rfl, fun other hother => ?_⟩
          obtain ⟨i, hi, rfl⟩ := List.mem_iff_getElem.mp hother
          have hitems := List.forall₂_iff_get.mp h.items
          exact ⟨_, List.getElem_mem (hitems.1 ▸ hi), hitems.2 i (hitems.1 ▸ hi) hi⟩
      | @object xs ys hperm hsame =>
          cases hvalues
          refine ⟨_, rfl, fun other hother => ?_⟩
          obtain ⟨member, hmember, rfl⟩ := List.mem_map.mp hother
          obtain ⟨source, hsource, hname⟩ := List.mem_map.mp
            (hperm.mem_iff.mpr (List.mem_map_of_mem (f := Prod.fst) hmember))
          exact ⟨source.2, List.mem_map_of_mem (f := Prod.snd) hsource,
            hsame _ hsource _ hmember hname, (everyObject_object.mp hx).2 _ hsource⟩

end Alike

/-! ## The checks of a document -/

section Assertions

variable {runtime : MetadataRuntime} {policy : VerifierMetadataTrustPolicy}

theorem parseDate_alike {a b : Option Json} (h : Option.Rel Alike a b) :
    parseDate runtime a = parseDate runtime b := by
  cases h with
  | none => rfl
  | some h => rw [parseDate, parseDate, toText_same h.same]

theorem alike_urlProperties (url : WebUrl) :
    Alike (urlProperties runtime url) (urlProperties runtime url) := by
  have hkeys : (urlProperties runtime url).DistinctKeys := by
    refine .object (show [js "protocol", js "hostname", js "origin", js "pathname", js "search",
      js "hash"].Nodup by decide) ?_
    simp only [List.forall_mem_cons]
    exact ⟨.string _, .string _, .string _, .string _, .string _, .string _,
      List.forall_mem_nil _⟩
  exact ⟨.refl hkeys, hkeys⟩

theorem parsedUrl_alike {a b : Option Json} {url : Json} (h : Option.Rel Alike a b)
    (hparsed : parsedUrl runtime a = .ok url) :
    ∃ other, parsedUrl runtime b = .ok other ∧ Alike url other := by
  cases h with
  | none => cases hparsed
  | @some x y h =>
      cases hx : h.same with
      | string text =>
          rw [parsedUrl] at hparsed
          cases hurl : runtime.parser.parse text with
          | none =>
              rw [hurl] at hparsed
              cases hparsed
          | some parsed =>
              rw [hurl] at hparsed
              cases hparsed
              exact ⟨_, by rw [parsedUrl, hurl], alike_urlProperties parsed⟩
      | null | bool | number | array | object =>
          cases hparsed
          exact ⟨_, rfl, h⟩

theorem assertTrustedHttpsUrl_alike {a b : Option Json} {allow : Bool} {url : Json}
    (h : Option.Rel Alike a b) (htrusted : assertTrustedHttpsUrl runtime a allow = .ok url) :
    ∃ other, assertTrustedHttpsUrl runtime b allow = .ok other ∧ Alike url other := by
  obtain ⟨parsed, hparsed, htrusted⟩ := bind_eq_ok.mp htrusted
  obtain ⟨protocol, hprotocol, htrusted⟩ := bind_eq_ok.mp htrusted
  obtain ⟨other, hother, halike⟩ := parsedUrl_alike h hparsed
  obtain ⟨rfl, hread⟩ := readProperty_alike halike hprotocol
  have hsame : isTrustedUrl allow (memberOf (js "protocol") parsed)
      (memberOf (js "hostname") parsed) = isTrustedUrl allow (memberOf (js "protocol") other)
        (memberOf (js "hostname") other) := by
    simp only [isTrustedUrl, isJsonString_alike (halike.memberOf _)]
  rw [hsame] at htrusted
  split_ifs at htrusted with hok
  cases htrusted
  refine ⟨other, bind_eq_ok.mpr ⟨other, hother, bind_eq_ok.mpr ⟨_, hread, ?_⟩⟩, halike⟩
  rw [if_pos hok]

theorem trustedOrigin_alike {a b : Option Json} {allow : Bool} {label : JsString}
    {origin : Option Json} (h : Option.Rel Alike a b)
    (horigin : trustedOrigin runtime a allow label = .ok origin) :
    ∃ other, trustedOrigin runtime b allow label = .ok other ∧ Option.Rel Alike origin other := by
  obtain ⟨url, htrusted, horigin⟩ := bind_eq_ok.mp horigin
  obtain ⟨issuer, hissuer, horigin⟩ := bind_eq_ok.mp horigin
  obtain ⟨other, hother, halike⟩ := assertTrustedHttpsUrl_alike h htrusted
  rw [originOnly, isJsonString_alike (halike.memberOf _), isTruthy_alike (halike.memberOf _),
    isTruthy_alike (halike.memberOf _)] at hissuer
  split_ifs at hissuer with hextra
  cases hissuer
  cases horigin
  refine ⟨_, bind_eq_ok.mpr ⟨other, hother, bind_eq_ok.mpr ⟨other, ?_, rfl⟩⟩,
    halike.memberOf _⟩
  rw [originOnly, if_neg hextra]

theorem assertExpectedIssuer_alike {a b : Option Json} (h : Option.Rel Alike a b) :
    assertExpectedIssuer runtime a policy = assertExpectedIssuer runtime b policy := by
  simp only [assertExpectedIssuer, strictEqual_alike h]

theorem assertEndpoint_alike {a b : Option Json} {allowed : List (Option Json)} {allow : Bool}
    {x y : Json} (hissuer : Option.Rel Alike a b) (h : Alike x y)
    (hok : assertEndpoint runtime a allowed allow x = .ok ()) :
    assertEndpoint runtime b allowed allow y = .ok () := by
  obtain ⟨url, htrusted, hok⟩ := bind_eq_ok.mp hok
  obtain ⟨other, hother, halike⟩ := assertTrustedHttpsUrl_alike (.some h) htrusted
  have horigin := halike.memberOf (js "origin")
  refine bind_eq_ok.mpr ⟨other, hother, ?_⟩
  dsimp only at hok ⊢
  rwa [strictEqual_comm _ a, strictEqual_alike hissuer, strictEqual_comm b,
    strictEqual_alike horigin, funext fun value => (strictEqual_comm value _).trans
      ((strictEqual_alike horigin value).trans (strictEqual_comm _ value))] at hok

theorem assertPublicKeyJwk_alike {a b : Option Json} (h : Option.Rel Alike a b) :
    assertPublicKeyJwk a = assertPublicKeyJwk b := by
  have hx := memberOf_alike h (js "x")
  rw [assertPublicKeyJwk, assertPublicKeyJwk, isJsonString_alike (memberOf_alike h _),
    isJsonString_alike (memberOf_alike h _)]
  congr 1
  generalize a.bind (memberOf (js "x")) = u at hx ⊢
  generalize b.bind (memberOf (js "x")) = v at hx ⊢
  cases hx with
  | none => rfl
  | some hx => cases hx.same <;> rfl

theorem seen_alike {a b : Option Json} {kids others : List (Option Json)}
    (h : Option.Rel Alike a b) (hkids : List.Forall₂ (Option.Rel Alike) kids others) :
    kids.any (strictEqual · a) = others.any (strictEqual · b) := by
  induction hkids with
  | nil => rfl
  | cons hkid _ ih =>
      rw [List.any_cons, List.any_cons, ih, strictEqual_alike hkid, strictEqual_comm,
        strictEqual_alike h, strictEqual_comm]

theorem assertMetadataKey_alike {a b : Json} {kids others : List (Option Json)} (h : Alike a b)
    (hkids : List.Forall₂ (Option.Rel Alike) kids others)
    (hok : assertMetadataKey runtime kids a = .ok ()) :
    assertMetadataKey runtime others b = .ok () := by
  obtain ⟨alg, halg, hok⟩ := bind_eq_ok.mp hok
  obtain ⟨rfl, hread⟩ := readProperty_alike h halg
  refine bind_eq_ok.mpr ⟨_, hread, ?_⟩
  simpa only [isJsonString_alike (h.memberOf _), isTruthy_alike (h.memberOf _),
    seen_alike (h.memberOf _) hkids, parseDate_alike (h.memberOf _),
    assertPublicKeyJwk_alike (h.memberOf _)] using hok

theorem assertMetadataKeys_alike {as bs : List Json} {kids others : List (Option Json)}
    (h : List.Forall₂ Alike as bs) (hkids : List.Forall₂ (Option.Rel Alike) kids others)
    (hok : assertMetadataKeys runtime kids as = .ok ()) :
    assertMetadataKeys runtime others bs = .ok () := by
  induction h generalizing kids others with
  | nil => rfl
  | cons hkey _ ih =>
      obtain ⟨_, hfirst, hrest⟩ := bind_eq_ok.mp hok
      exact bind_eq_ok.mpr ⟨(), assertMetadataKey_alike hkey hkids hfirst,
        ih (.cons (hkey.memberOf _) hkids) hrest⟩

theorem assertSigningKeys_alike {a b : Option Json} (h : Option.Rel Alike a b)
    (hok : assertSigningKeys runtime a = .ok ()) : assertSigningKeys runtime b = .ok () := by
  cases h with
  | none => cases hok
  | @some x y h =>
      cases hx : h.same with
      | null | bool | number | string | object => cases hok
      | @array xs ys hlength _ =>
          have hempty : ys.isEmpty = xs.isEmpty := by
            rw [Bool.eq_iff_iff, List.isEmpty_iff_length_eq_zero, List.isEmpty_iff_length_eq_zero,
              hlength]
          rw [assertSigningKeys] at hok ⊢
          rw [hempty]
          split_ifs at hok with hnone
          rw [if_neg hnone]
          exact assertMetadataKeys_alike h.items .nil hok

theorem assertMetadataTimes_eq_ok {issuedAt expiresAt now : IsoTimestamp} :
    assertMetadataTimes issuedAt expiresAt now = .ok () ↔
      ∃ i e, issuedAt = some i ∧ expiresAt = some e ∧ i < e ∧ ∀ t ∈ now, i ≤ t ∧ t < e := by
  rcases issuedAt with _ | i
  · simp [assertMetadataTimes]
  · rcases expiresAt with _ | e
    · simp [assertMetadataTimes]
    · rcases now with _ | t
      · simp [assertMetadataTimes]
      · have htimes : assertMetadataTimes (some i) (some e) (some t) = .ok () ↔
            i < e ∧ i ≤ t ∧ t < e := by
          simp only [assertMetadataTimes, Option.any_some, decide_eq_true_eq]
          split_ifs with hle hearly hlate
          · exact iff_of_false (fun h => by cases h) fun h => absurd h.1 (not_lt.mpr hle)
          · exact iff_of_false (fun h => by cases h) fun h => absurd h.2.1 (not_le.mpr hearly)
          · exact iff_of_false (fun h => by cases h) fun h => absurd h.2.2 (not_lt.mpr hlate)
          · exact iff_of_true rfl ⟨not_le.mp hle, not_lt.mp hearly, not_le.mp hlate⟩
        rw [htimes]
        constructor
        · rintro ⟨hlt, hnow⟩
          exact ⟨i, e, rfl, rfl, hlt, fun _ ht => Option.some.inj ht ▸ hnow⟩
        · rintro ⟨_, _, hi, he, hlt, hnow⟩
          cases hi
          cases he
          exact ⟨hlt, hnow t rfl⟩

theorem assertMetadataDocument_alike {document other : Json} {now : IsoTimestamp}
    (h : Alike document other) (hok : assertMetadataDocument runtime document now policy = .ok ()) :
    ∃ i e, parseDate runtime (memberOf (js "issuedAt") document) = .ok (some i) ∧
      parseDate runtime (memberOf (js "expiresAt") document) = .ok (some e) ∧ i < e ∧
      ∀ t, i ≤ t → t < e → assertMetadataDocument runtime other (some t) policy = .ok () := by
  obtain ⟨version, hversion, hok⟩ := bind_eq_ok.mp hok
  obtain ⟨rfl, hread⟩ := readProperty_alike h hversion
  split_ifs at hok with hknown hidentity
  obtain ⟨issuer, hissuer, hok⟩ := bind_eq_ok.mp hok
  obtain ⟨_, hexpected, hok⟩ := bind_eq_ok.mp hok
  obtain ⟨issuedAt, hissuedAt, hok⟩ := bind_eq_ok.mp hok
  obtain ⟨expiresAt, hexpiresAt, hok⟩ := bind_eq_ok.mp hok
  obtain ⟨_, htimes, hok⟩ := bind_eq_ok.mp hok
  obtain ⟨allowed, hallowed, hok⟩ := bind_eq_ok.mp hok
  obtain ⟨endpoints, hendpoints, hok⟩ := bind_eq_ok.mp hok
  obtain ⟨_, hforM, hkeys⟩ := bind_eq_ok.mp hok
  obtain ⟨i, e, rfl, rfl, hlt, -⟩ := assertMetadataTimes_eq_ok.mp htimes
  refine ⟨i, e, hissuedAt, hexpiresAt, hlt, fun t hi he => ?_⟩
  obtain ⟨issuer', hissuer', hsame⟩ := trustedOrigin_alike (h.memberOf _) hissuer
  obtain ⟨others, hothers, hfrom⟩ := objectValues_alike (h.memberOf _) hendpoints
  refine bind_eq_ok.mpr ⟨_, hread, ?_⟩
  rw [← isJsonString_alike (h.memberOf _), ← isTruthy_alike (h.memberOf _),
    ← isTruthy_alike (h.memberOf _), if_neg hknown, if_neg hidentity]
  refine bind_eq_ok.mpr ⟨issuer', hissuer', bind_eq_ok.mpr ⟨(), ?_, ?_⟩⟩
  · rwa [← assertExpectedIssuer_alike hsame]
  refine bind_eq_ok.mpr ⟨some i, (parseDate_alike (h.memberOf _)).symm.trans hissuedAt, ?_⟩
  refine bind_eq_ok.mpr ⟨some e, (parseDate_alike (h.memberOf _)).symm.trans hexpiresAt, ?_⟩
  refine bind_eq_ok.mpr ⟨(), assertMetadataTimes_eq_ok.mpr ⟨i, e, rfl, rfl, hlt, ?_⟩, ?_⟩
  · rintro _ ⟨⟩
    exact ⟨hi, he⟩
  refine bind_eq_ok.mpr ⟨allowed, hallowed, bind_eq_ok.mpr ⟨others, hothers,
    bind_eq_ok.mpr ⟨(), forM_eq_ok.mpr fun endpoint hendpoint => ?_, ?_⟩⟩⟩
  · obtain ⟨source, hsource, halike⟩ := hfrom endpoint hendpoint
    exact assertEndpoint_alike hsame halike (forM_eq_ok.mp hforM source hsource)
  · exact assertSigningKeys_alike (h.memberOf _) hkeys

end Assertions

/-! ## Tokens -/

section Token

variable {PublicKey : Type} {runtime : MetadataRuntime} {document : Json} {signer : ResultSigner}
  {token : JsString}

theorem decode_encoded {value : Json} (h : value.WellFormed runtime.numbers) (label : JsString) :
    decodeStrictBase64Url (encodePart runtime.toRuntime value) label =
      .ok (utf8 (canonicalJson runtime.numbers value)) := by
  have hcanonical : (normalize value).Canonical runtime.numbers :=
    ⟨wellFormed_normalize h, normalize_normalize h⟩
  have hdecoded := @decode_encodePart runtime.toRuntime _ hcanonical label
  rwa [encodePart, canonicalJson, normalize_normalize h, ← canonicalJson, ← encodePart] at hdecoded

theorem encoded_ne_nil {value : Json} (h : value.WellFormed runtime.numbers) :
    encodePart runtime.toRuntime value ≠ [] := by
  intro hnil
  have hdecoded := decode_encoded h []
  rw [hnil] at hdecoded
  cases hdecoded

theorem canonical_metadataHeader (keyId : JsString) :
    (metadataHeader keyId).Canonical runtime.numbers := by
  refine canonical_ofFields fun k value hvalue => ?_
  cases k <;> cases hvalue <;> exact canonical_string _

theorem parseMetadataHeader_metadataHeader (keyId : JsString) :
    parseMetadataHeader runtime (encodePart runtime.toRuntime (metadataHeader keyId)) =
      if keyId.isEmpty then .error ⟨js "Unsupported verifier metadata header"⟩
      else .ok (.string keyId) := by
  have hheader := @canonical_metadataHeader runtime keyId
  have halg : readProperty (js "alg") (metadataHeader keyId) = .ok (some (.string (js "EdDSA"))) :=
    readProperty_ofFields (k := HeaderField.alg) rfl
  have htyp : memberOf (js "typ") (metadataHeader keyId) = some (.string X424_METADATA_TYP) :=
    @memberOf_ofFields _ headerShape _ .typ
  have hkid : memberOf (js "kid") (metadataHeader keyId) = some (.string keyId) :=
    @memberOf_ofFields _ headerShape _ .kid
  have hkeys : ((objectKeys (metadataHeader keyId)).all fun key =>
      key == js "alg" || key == js "typ" || key == js "kid") = true := by rfl
  rw [parseMetadataHeader, decode_encoded hheader.wellFormed]
  simp only [parse_canonical hheader, halg, htyp, hkid, bind, Except.bind, isJsonString, isTruthy,
    beq_self_eq_true, hkeys, Bool.not_true, Bool.or_false, Bool.false_or, Bool.not_not, if_true]

theorem signVerifierMetadata_eq_ok (h : signVerifierMetadata runtime document signer = .ok token) :
    ∃ now signature,
      assertMetadataDocument runtime document now { allowHttpLocalhost := true } = .ok () ∧
      signer.sign (utf8 (metadataSigningInput runtime signer.keyId document)) = .ok signature ∧
      token = metadataSigningInput runtime signer.keyId document ++
        0x2E :: encodeStrictBase64Url signature := by
  obtain ⟨issuedAt, -, h⟩ := bind_eq_ok.mp h
  obtain ⟨now, -, h⟩ := bind_eq_ok.mp h
  obtain ⟨_, hdocument, h⟩ := bind_eq_ok.mp h
  obtain ⟨signature, hsignature, h⟩ := bind_eq_ok.mp h
  cases h
  exact ⟨now, signature, hdocument, hsignature, rfl⟩

variable {verify : PublicKey → List UInt8 → List UInt8 → Bool}
  {trustedKeys : JsString → Option PublicKey} {publicKey : PublicKey} {signature : List UInt8}
  {now : IsoTimestamp} {policy : VerifierMetadataTrustPolicy} {accepted : Json}

theorem splitOn_token (keyId : JsString) (document : Json) (signature : List UInt8) :
    (metadataSigningInput runtime keyId document ++
      0x2E :: encodeStrictBase64Url signature).splitOn 0x2E =
        [encodePart runtime.toRuntime (metadataHeader keyId),
          encodePart runtime.toRuntime document, encodeStrictBase64Url signature] := by
  have hdot : ∀ json, (0x2E : UInt16) ∉ encodePart runtime.toRuntime json :=
    fun json => not_mem_encodeStrictBase64Url (by decide) _
  rw [metadataSigningInput, List.append_assoc, List.cons_append,
    List.splitOn_append_cons_self_of_not_mem (hdot _),
    List.splitOn_append_cons_self_of_not_mem (hdot _),
    List.splitOn_eq_singleton (not_mem_encodeStrictBase64Url (by decide) signature)]

theorem verifyMetadataParts_signed (hdocument : document.WellFormed runtime.numbers)
    (hne : signature ≠ []) (hkey : trustedKeys signer.keyId = some publicKey)
    (hverified : verify publicKey (utf8 (metadataSigningInput runtime signer.keyId document))
      signature = true) :
    verifyMetadataParts runtime verify trustedKeys now policy
        (encodePart runtime.toRuntime (metadataHeader signer.keyId))
        (encodePart runtime.toRuntime document) (encodeStrictBase64Url signature) = .ok accepted ↔
      signer.keyId ≠ [] ∧ signature.length = 64 ∧
        assertMetadataDocument runtime (normalize document) now policy = .ok () ∧
        normalize document = accepted := by
  have hdecoded : decodeStrictBase64Url (encodeStrictBase64Url signature)
      (js "metadata signature") = .ok signature :=
    decodeStrictBase64Url_eq_ok.mpr ⟨mt encodeStrictBase64Url_eq_nil.mp hne, rfl⟩
  have hfound : trustedKey trustedKeys (.string signer.keyId) = .ok publicKey := by
    rw [trustedKey, hkey]
  rw [metadataSigningInput] at hverified
  rw [verifyMetadataParts, parseMetadataHeader_metadataHeader]
  by_cases hnil : signer.keyId = []
  · rw [hnil, List.isEmpty_nil, if_pos rfl]
    exact iff_of_false (fun h => by cases h) fun h => h.1 rfl
  · rw [List.isEmpty_eq_false_iff.mpr hnil, if_neg (by decide)]
    simp only [bind, Except.bind, hfound, hdecoded, hverified]
    by_cases hlength : signature.length = 64
    · rw [if_neg (not_not.mpr hlength), if_neg (by decide), decode_encoded hdocument]
      simp only [parseCanonicalJsonBytes_canonicalJson hdocument]
      cases assertMetadataDocument runtime (normalize document) now policy with
      | error error => exact iff_of_false (fun h => by cases h) fun h => by cases h.2.2.1
      | ok _ =>
          exact ⟨fun h => ⟨hnil, hlength, rfl, Except.ok.inj h⟩, fun h => congrArg _ h.2.2.2⟩
    · rw [if_pos hlength]
      exact iff_of_false (fun h => by cases h) fun h => hlength h.2.1

theorem verifyVerifierMetadataToken_signed (hdocument : document.WellFormed runtime.numbers)
    (htoken : token = metadataSigningInput runtime signer.keyId document ++
      0x2E :: encodeStrictBase64Url signature)
    (hkey : trustedKeys signer.keyId = some publicKey)
    (hverified : verify publicKey (utf8 (metadataSigningInput runtime signer.keyId document))
      signature = true) :
    verifyVerifierMetadataToken runtime verify trustedKeys token now policy = .ok accepted ↔
      token.length ≤ 65536 ∧ signer.keyId ≠ [] ∧ signature.length = 64 ∧
        assertMetadataDocument runtime (normalize document) now policy = .ok () ∧
        normalize document = accepted := by
  have hempty : token.isEmpty = false := by
    rw [htoken]
    simp
  have hheader := encoded_ne_nil (@canonical_metadataHeader runtime signer.keyId).wellFormed
  rw [verifyVerifierMetadataToken, hempty, Bool.false_or]
  by_cases hsize : token.length ≤ 65536
  · rw [if_neg (by simpa using hsize), htoken, splitOn_token]
    dsimp only
    rw [List.isEmpty_eq_false_iff.mpr hheader, List.isEmpty_eq_false_iff.mpr
      (encoded_ne_nil hdocument), Bool.false_or, Bool.false_or, ← htoken]
    by_cases hnil : signature = []
    · rw [hnil, if_pos (by rfl)]
      exact iff_of_false (fun h => by cases h) fun h => by cases h.2.2.1
    · rw [List.isEmpty_eq_false_iff.mpr (mt encodeStrictBase64Url_eq_nil.mp hnil),
        if_neg (by decide), verifyMetadataParts_signed hdocument hnil hkey hverified]
      exact (and_iff_right hsize).symm
  · rw [if_pos (by simpa using hsize)]
    exact iff_of_false (fun h => by cases h) fun h => hsize h.1

/-- A signed document is read back between its two times exactly when the key has an id, the
token is not too long and the signature has the length of an Ed25519 signature. -/
theorem signVerifierMetadata_verifiable (hdocument : document.WellFormed runtime.numbers)
    (hproto : document.ProtoFree)
    (hsigned : signVerifierMetadata runtime document signer = .ok token)
    (hkey : trustedKeys signer.keyId = some publicKey)
    (hverifies : ∀ input signature, signer.sign input = .ok signature →
      verify publicKey input signature = true) :
    (∀ issuedAt expiresAt t,
      parseDate runtime (memberOf (js "issuedAt") document) = .ok (some issuedAt) →
      parseDate runtime (memberOf (js "expiresAt") document) = .ok (some expiresAt) →
      issuedAt ≤ t → t < expiresAt →
      ∃ accepted, verifyVerifierMetadataToken runtime verify trustedKeys token (some t)
        { allowHttpLocalhost := true } = .ok accepted ∧ accepted.Same document) ↔
      signer.keyId ≠ [] ∧ token.length ≤ 65536 ∧ ∃ signature,
        signer.sign (utf8 (metadataSigningInput runtime signer.keyId document)) = .ok signature ∧
        signature.length = 64 := by
  obtain ⟨now, signature, hok, hsignature, htoken⟩ := signVerifierMetadata_eq_ok hsigned
  have hverified := hverifies _ _ hsignature
  have hsame := same_normalize hdocument.distinctKeys hproto
  obtain ⟨i, e, hi, he, hlt, hlater⟩ :=
    assertMetadataDocument_alike ⟨hsame, hdocument.distinctKeys⟩ hok
  constructor
  · intro h
    obtain ⟨accepted, haccepted, -⟩ := h i e i hi he le_rfl hlt
    obtain ⟨hsize, hid, hlength, -⟩ :=
      (verifyVerifierMetadataToken_signed hdocument htoken hkey hverified).mp haccepted
    exact ⟨hid, hsize, signature, hsignature, hlength⟩
  · rintro ⟨hid, hsize, other, hother, hlength⟩ issuedAt expiresAt t hissuedAt hexpiresAt
      hfrom huntil
    cases hi.symm.trans hissuedAt
    cases he.symm.trans hexpiresAt
    cases hsignature.symm.trans hother
    exact ⟨normalize document,
      (verifyVerifierMetadataToken_signed hdocument htoken hkey hverified).mpr
        ⟨hsize, hid, hlength, hlater t hfrom huntil, rfl⟩, hsame.symm⟩

end Token

/-! ## A key without an id -/

namespace EmptyKeyId

def origin : JsString := js "https://verifier.example/"

def parser : UrlParser where
  parse text :=
    if text = origin then
      some { href := origin, origin := js "https://verifier.example", protocol := js "https:",
             username := [], password := [], pathname := js "/", search := [], hash := [] }
    else none
  referrer _ := none
  href_printable h := by
    split_ifs at h
    cases h
    exact List.all_eq_true.mp (by decide)
  pathname_https h _ := by
    split_ifs at h
    cases h
    rfl

theorem url_unchanged {text url : JsString} (_ : some text = some url) :
    some url = some url := rfl

def urls : JsUrls where
  check text := some text
  check_check := url_unchanged

def runtime : MetadataRuntime where
  numbers := wholeNumbers
  dates := writtenDates
  urls := urls
  parser := parser
  hostname _ := js "verifier.example"

def signingKey : Json :=
  .object [(js "alg", .string (js "EdDSA")), (js "kid", .string (js "result-key")),
    (js "notAfter", .string (dateText 1000)), (js "notBefore", .string (dateText 0)),
    (js "publicKeyJwk", .object [(js "crv", .string (js "Ed25519")), (js "kty", .string (js "OKP")),
      (js "x", .string (encodeStrictBase64Url (List.replicate 32 0)))]),
    (js "status", .string (js "active"))]

def document : Json :=
  .object [(js "endpoints",
    .object [(js "healthz", .string origin), (js "metadata", .string origin),
      (js "requirements", .string origin), (js "verify", .string origin)]),
    (js "expiresAt", .string (dateText 1000)), (js "issuedAt", .string (dateText 0)),
    (js "issuer", .string origin), (js "keys", .array [signingKey]),
    (js "metadataId", .string (js "metadata")), (js "protocolVersions", .array []),
    (js "supportedMethods", .array []), (js "x424Version", .string x424Version)]

def signer (keyId : JsString) : ResultSigner where
  keyId := keyId
  sign _ := .ok (List.replicate 64 0)

theorem document_published :
    assertMetadataDocument runtime document (some 0) { allowHttpLocalhost := true } = .ok () := by
  rfl

theorem document_wellFormed : document.WellFormed runtime.numbers := by
  have hjwk : ∀ x, (Json.object [(js "crv", .string (js "Ed25519")),
      (js "kty", .string (js "OKP")), (js "x", .string x)]).WellFormed wholeNumbers := by
    intro x
    refine .object (show [js "crv", js "kty", js "x"].Nodup by decide) ?_
    simp only [List.forall_mem_cons]
    exact ⟨.string _, .string _, .string _, List.forall_mem_nil _⟩
  have hkey : signingKey.WellFormed wholeNumbers := by
    refine .object (show [js "alg", js "kid", js "notAfter", js "notBefore", js "publicKeyJwk",
      js "status"].Nodup by decide) ?_
    simp only [List.forall_mem_cons]
    exact ⟨.string _, .string _, .string _, .string _, hjwk _, .string _, List.forall_mem_nil _⟩
  have hendpoints : (Json.object [(js "healthz", .string origin), (js "metadata", .string origin),
      (js "requirements", .string origin), (js "verify", .string origin)]).WellFormed
        wholeNumbers := by
    refine .object (show [js "healthz", js "metadata", js "requirements", js "verify"].Nodup by
      decide) ?_
    simp only [List.forall_mem_cons]
    exact ⟨.string _, .string _, .string _, .string _, List.forall_mem_nil _⟩
  refine .object (show [js "endpoints", js "expiresAt", js "issuedAt", js "issuer", js "keys",
    js "metadataId", js "protocolVersions", js "supportedMethods", js "x424Version"].Nodup by
      decide) ?_
  simp only [List.forall_mem_cons]
  exact ⟨hendpoints, .string _, .string _, .string _,
    .array (List.forall_mem_singleton.mpr hkey), .string _, .array (List.forall_mem_nil _),
    .array (List.forall_mem_nil _), .string _, List.forall_mem_nil _⟩

theorem document_protoFree : document.ProtoFree := by
  have hnormal : normalize document = document := by rfl
  rw [← hnormal]
  exact protoFree_normalize document_wellFormed.distinctKeys

def token (keyId : JsString) : JsString :=
  metadataSigningInput runtime keyId document ++
    0x2E :: encodeStrictBase64Url (List.replicate 64 0)

theorem signed (keyId : JsString) :
    signVerifierMetadata runtime document (signer keyId) = .ok (token keyId) := by
  refine bind_eq_ok.mpr ⟨some (.string (dateText 0)), rfl, bind_eq_ok.mpr ⟨some 0, rfl, ?_⟩⟩
  exact bind_eq_ok.mpr ⟨(), document_published, rfl⟩

/-- No reader accepts the token, which is signed all the same. -/
theorem unverifiable : document.WellFormed runtime.numbers ∧ document.ProtoFree ∧
    signVerifierMetadata runtime document (signer []) = .ok (token []) ∧
    ∀ accepted, verifyVerifierMetadataToken runtime (fun _ _ _ => true)
      (fun _ => some ()) (token []) (some 0) { allowHttpLocalhost := true } ≠ .ok accepted := by
  refine ⟨document_wellFormed, document_protoFree, signed [], fun accepted haccepted => ?_⟩
  have htoken : token [] = metadataSigningInput runtime (signer []).keyId document ++
      0x2E :: encodeStrictBase64Url (List.replicate 64 0) := rfl
  have hkey : (fun _ : JsString => some ()) (signer []).keyId = some () := rfl
  exact ((verifyVerifierMetadataToken_signed document_wellFormed htoken hkey rfl).mp
    haccepted).2.1 rfl

end EmptyKeyId

/-- The same document under a key with an id is read back. -/
theorem signVerifierMetadata_verifiable_named :
    ∃ accepted, verifyVerifierMetadataToken EmptyKeyId.runtime (fun _ _ _ => true)
      (fun _ => some ()) (EmptyKeyId.token (js "k")) (some 0) { allowHttpLocalhost := true } =
        .ok accepted ∧ accepted.Same EmptyKeyId.document :=
  (@signVerifierMetadata_verifiable Unit EmptyKeyId.runtime EmptyKeyId.document
    (EmptyKeyId.signer (js "k")) (EmptyKeyId.token (js "k")) (fun _ _ _ => true)
    (fun _ => some ()) () EmptyKeyId.document_wellFormed EmptyKeyId.document_protoFree
    (EmptyKeyId.signed (js "k")) rfl fun _ _ _ => rfl).mpr
      ⟨by decide, by decide +kernel, _, rfl, rfl⟩ 0 1000 0 rfl rfl le_rfl (by decide)

end X424
