import X424.Schemas.Result

/-!
# Result tokens

`result-token.ts`: the compact serialisation of a signed result.  The
signature scheme and the runtime are parameters.
-/

namespace X424

/-- What the language and its libraries do with numbers, dates and URLs. -/
structure Runtime where
  numbers : JsNumbers
  dates : JsDates
  urls : JsUrls

/-- `ResultSigner` or `ExternalResultSignFn`: the signature may fail. -/
structure ResultSigner where
  keyId : JsString
  sign : List UInt8 → Except JsError (List UInt8)

/-- `ResultVerifier`, or the `ResultVerifierKeySet` of a rotation. -/
inductive ResultVerifier (PublicKey : Type) where
  | single (keyId : JsString) (publicKey : PublicKey)
  | keySet (keys : JsString → Option PublicKey)

/-! ## Signing -/

inductive HeaderField where
  | alg
  | kid
  | typ
  deriving DecidableEq

def headerShape : ObjectShape HeaderField where
  fields := [.alg, .kid, .typ]
  name
    | .alg => js "alg"
    | .kid => js "kid"
    | .typ => js "typ"
  complete := by rintro (_ | _ | _) <;> decide
  sorted := by decide
  name_ne_proto := by rintro (_ | _ | _) <;> decide

def tokenHeader (keyId : JsString) : Json :=
  headerShape.ofFields fun
    | .alg => some (.string (js "EdDSA"))
    | .kid => some (.string keyId)
    | .typ => some (.string (js "x424-result+jws"))

section Token

variable {PublicKey : Type} (runtime : Runtime)

def encodePart (json : Json) : JsString :=
  encodeStrictBase64Url (utf8 (canonicalJson runtime.numbers json))

def signingInput (keyId : JsString) (result : ResultDocument) : JsString :=
  encodePart runtime (tokenHeader keyId) ++ 0x2E :: encodePart runtime result.toJson

def signHumanResult (result : ResultDocument) (signer : ResultSigner) :
    Except JsError JsString := do
  let input := signingInput runtime signer.keyId result
  let signature ← signer.sign (utf8 input)
  .ok (input ++ 0x2E :: encodeStrictBase64Url signature)

/-! ## Verification -/

/-- `header.name`; only objects have such properties, and `null` has none at all. -/
def readProperty (name : JsString) : Json → Except JsError (Option Json)
  | .null =>
      .error ⟨js "Cannot read properties of null (reading '" ++ name ++ js "')"⟩
  | .object members => .ok (members.lookup name)
  | _ => .ok none

def isJsonString (text : JsString) : Option Json → Bool
  | some (.string other) => other == text
  | _ => false

def objectKeys : Json → List JsString
  | .object members => members.map Prod.fst
  | _ => []

def parseTokenHeader (protectedHeader : JsString) : Except JsError JsString := do
  let bytes ← decodeStrictBase64Url protectedHeader (js "JWS header")
  let header ← parseCanonicalJsonBytes runtime.numbers bytes (js "JWS header")
  let alg ← readProperty (js "alg") header
  let typ ← readProperty (js "typ") header
  let kid ← readProperty (js "kid") header
  match kid with
  | some (.string kid) =>
      if !isJsonString (js "EdDSA") alg || !isJsonString (js "x424-result+jws") typ ||
          kid.isEmpty then
        .error ⟨js "Unsupported x424 result token header"⟩
      else if (objectKeys header).all fun key =>
          key == js "alg" || key == js "typ" || key == js "kid" then .ok kid
      else .error ⟨js "Unsupported x424 result token header field"⟩
  | _ => .error ⟨js "Unsupported x424 result token header"⟩

def ResultVerifier.keyFor (verifier : ResultVerifier PublicKey) (kid : JsString) :
    Except JsError PublicKey :=
  match verifier with
  | .keySet keys =>
      match keys kid with
      | some publicKey => .ok publicKey
      | none => .error ⟨js "Unknown x424 result token kid"⟩
  | .single keyId publicKey =>
      if kid ≠ keyId then .error ⟨js "Unsupported x424 result token header"⟩ else .ok publicKey

def parseHumanResult (json : Json) : Except JsError ResultDocument :=
  match HumanResultSchema runtime.dates runtime.urls json with
  | some result => .ok result
  | none => .error ⟨js "ZodError"⟩

variable (verify : PublicKey → List UInt8 → List UInt8 → Bool) (verifier : ResultVerifier PublicKey)

/-- What `verifyHumanResultToken` does with the three parts. -/
def verifyTokenParts (protectedHeader payload signature : JsString) :
    Except JsError ResultDocument := do
  let kid ← parseTokenHeader runtime protectedHeader
  let publicKey ← verifier.keyFor kid
  let signatureBytes ← decodeStrictBase64Url signature (js "JWS signature")
  if signatureBytes.length ≠ 64 then
    .error ⟨js "Invalid x424 result token signature length"⟩
  else if !verify publicKey (utf8 (protectedHeader ++ 0x2E :: payload)) signatureBytes then
    .error ⟨js "Invalid x424 result token signature"⟩
  else do
    let bytes ← decodeStrictBase64Url payload (js "JWS payload")
    let json ← parseCanonicalJsonBytes runtime.numbers bytes (js "JWS payload")
    parseHumanResult runtime json

def verifyHumanResultToken (token : JsString) : Except JsError ResultDocument :=
  if token.isEmpty || 65536 < token.length then .error ⟨js "Malformed x424 result token"⟩
  else
    match token.splitOn 0x2E with
    | [protectedHeader, payload, signature] =>
        if protectedHeader.isEmpty || payload.isEmpty || signature.isEmpty then
          .error ⟨js "Malformed x424 result token"⟩
        else verifyTokenParts runtime verify verifier protectedHeader payload signature
    | _ => .error ⟨js "Malformed x424 result token"⟩

end Token

/-! ## A signed token is read back -/

section RoundTrip

variable {PublicKey : Type} {runtime : Runtime} {numbers : JsNumbers}

theorem canonical_tokenHeader (keyId : JsString) : (tokenHeader keyId).Canonical numbers := by
  refine canonical_ofFields fun k value hvalue => ?_
  cases k <;> cases hvalue <;> exact canonical_string _

private theorem parseCanonicalJsonBytes_nil (label : JsString) :
    parseCanonicalJsonBytes numbers [] label = .error ⟨js "Malformed " ++ label⟩ := by
  have hdecoded : decodeStrictUtf8 [] label = .ok [] := by
    simp [decodeStrictUtf8, dropByteOrderMark]
  simp [parseCanonicalJsonBytes, hdecoded, jsonParse, parseValue, bind, Except.bind]

theorem encodePart_ne_nil {json : Json} (h : json.Canonical runtime.numbers) :
    encodePart runtime json ≠ [] := by
  intro hnil
  have hparsed := parse_canonical h []
  rw [encodeStrictBase64Url_eq_nil.mp hnil, parseCanonicalJsonBytes_nil] at hparsed
  cases hparsed

theorem decode_encodePart {json : Json} (h : json.Canonical runtime.numbers) (label : JsString) :
    decodeStrictBase64Url (encodePart runtime json) label =
      .ok (utf8 (canonicalJson runtime.numbers json)) :=
  decodeStrictBase64Url_eq_ok.mpr ⟨encodePart_ne_nil h, rfl⟩

theorem readProperty_ofFields {κ : Type} {shape : ObjectShape κ} {values : κ → Option Json}
    {name : JsString} {k : κ} (h : name = shape.name k) :
    readProperty name (shape.ofFields values) = .ok (values k) := by
  rw [h, ObjectShape.ofFields, readProperty, ObjectShape.lookup_membersOf]

theorem parseTokenHeader_tokenHeader {keyId : JsString} (h : keyId ≠ []) :
    parseTokenHeader runtime (encodePart runtime (tokenHeader keyId)) = .ok keyId := by
  have hheader := @canonical_tokenHeader runtime.numbers keyId
  have halg : readProperty (js "alg") (tokenHeader keyId) = .ok (some (.string (js "EdDSA"))) :=
    readProperty_ofFields (k := HeaderField.alg) rfl
  have htyp : readProperty (js "typ") (tokenHeader keyId) =
      .ok (some (.string (js "x424-result+jws"))) :=
    readProperty_ofFields (k := HeaderField.typ) rfl
  have hkid : readProperty (js "kid") (tokenHeader keyId) = .ok (some (.string keyId)) :=
    readProperty_ofFields (k := HeaderField.kid) rfl
  have hempty : keyId.isEmpty = false := by simpa using h
  have hkeys : ((objectKeys (tokenHeader keyId)).all fun key =>
      key == js "alg" || key == js "typ" || key == js "kid") = true := by rfl
  simp only [parseTokenHeader, decode_encodePart hheader, parse_canonical hheader, halg, htyp,
    hkid, bind, Except.bind, isJsonString, beq_self_eq_true, hempty, hkeys, Bool.not_true,
    Bool.or_self, Bool.false_eq_true, if_false, if_true]

structure SignsFor (runtime : Runtime) (verify : PublicKey → List UInt8 → List UInt8 → Bool)
    (verifier : ResultVerifier PublicKey) (signer : ResultSigner) : Prop where
  keyId_ne_nil : signer.keyId ≠ []
  verified : ∃ publicKey, verifier.keyFor signer.keyId = .ok publicKey ∧
    ∀ input signature, signer.sign input = .ok signature →
      signature.length = 64 ∧ verify publicKey input signature = true

variable {verify : PublicKey → List UInt8 → List UInt8 → Bool} {verifier : ResultVerifier PublicKey}
  {signer : ResultSigner} {result : ResultDocument} {token : JsString}

theorem verifyHumanResultToken_signed (hsigner : SignsFor runtime verify verifier signer)
    (hsigned : signHumanResult runtime result signer = .ok token) (hsize : token.length ≤ 65536) :
    verifyHumanResultToken runtime verify verifier token =
      parseHumanResult runtime result.toJson := by
  obtain ⟨publicKey, hkey, hverify⟩ := hsigner.verified
  simp only [signHumanResult, bind, Except.bind] at hsigned
  cases hsignature : signer.sign (utf8 (signingInput runtime signer.keyId result)) with
  | error error =>
      rw [hsignature] at hsigned
      cases hsigned
  | ok signature =>
      rw [hsignature] at hsigned
      simp only [Except.ok.injEq] at hsigned
      obtain ⟨hlength, hverified⟩ := hverify _ _ hsignature
      have hheader := @canonical_tokenHeader runtime.numbers signer.keyId
      have hpayload := @canonical_result runtime.numbers result
      have hne : encodeStrictBase64Url signature ≠ [] := by
        rw [Ne, encodeStrictBase64Url_eq_nil]
        rintro rfl
        exact absurd hlength (by decide)
      have hdot : ∀ json, (0x2E : UInt16) ∉ encodePart runtime json :=
        fun json => not_mem_encodeStrictBase64Url (by decide) _
      have hsplit : token.splitOn 0x2E = [encodePart runtime (tokenHeader signer.keyId),
          encodePart runtime result.toJson, encodeStrictBase64Url signature] := by
        rw [← hsigned, signingInput, List.append_assoc, List.cons_append,
          List.splitOn_append_cons_self_of_not_mem (hdot _),
          List.splitOn_append_cons_self_of_not_mem (hdot _),
          List.splitOn_eq_singleton (not_mem_encodeStrictBase64Url (by decide) signature)]
      have htoken : token.isEmpty = false := by
        rw [← hsigned]
        simp
      have hdecoded : decodeStrictBase64Url (encodeStrictBase64Url signature)
          (js "JWS signature") = .ok signature :=
        decodeStrictBase64Url_eq_ok.mpr ⟨hne, rfl⟩
      rw [signingInput] at hverified
      simp [verifyHumanResultToken, htoken, Nat.not_lt.mpr hsize, hsplit,
        encodePart_ne_nil hheader, encodePart_ne_nil hpayload, hne, verifyTokenParts,
        parseTokenHeader_tokenHeader hsigner.keyId_ne_nil, hkey, hdecoded, hlength, hverified,
        decode_encodePart hpayload, parse_canonical hpayload, bind, Except.bind]

end RoundTrip

end X424
