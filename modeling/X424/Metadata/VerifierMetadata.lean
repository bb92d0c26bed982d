import X424.Js.Url
import X424.ResultToken
import X424.Schemas.Reading

/-!
# Verifier metadata

`metadata/verifier-metadata.ts`: a publisher signs a document, and a resource
server reads it from the token.  The types of the document are not checked, so
its members are read as the language reads any JSON value.
-/

namespace X424

/-! ## Values of any type -/

/-- `!value` is false. -/
def isTruthy : Option Json → Bool
  | some (.bool value) => value
  | some (.number value) => value != 0
  | some (.string text) => !text.isEmpty
  | some (.array _) => true
  | some (.object _) => true
  | _ => false

/-- `a === b` of values at different places of a document, where no two objects are one. -/
def strictEqual : Option Json → Option Json → Bool
  | none, none => true
  | some .null, some .null => true
  | some (.bool a), some (.bool b) => a == b
  | some (.number a), some (.number b) => a == b
  | some (.string a), some (.string b) => a == b
  | _, _ => false

/-- `Object.values`. -/
def objectValues : Option Json → Except JsError (List Json)
  | none => .error ⟨js "Cannot convert undefined or null to object"⟩
  | some .null => .error ⟨js "Cannot convert undefined or null to object"⟩
  | some (.string text) => .ok (text.map fun unit => .string [unit])
  | some (.array items) => .ok items
  | some (.object members) => .ok (members.map Prod.snd)
  | _ => .ok []

section Text

variable (numbers : JsNumbers)

mutual

/-- The conversion to a string; `null` is empty inside an array. -/
def toText : Json → Except JsError JsString
  | .null => .ok (js "null")
  | .bool value => .ok (if value then js "true" else js "false")
  | .number value => .ok (numbers.write value)
  | .string text => .ok text
  | .array items => (elementTexts items).map (js ",").intercalate
  | .object members =>
      if (members.lookup (js "toString")).isNone then .ok (js "[object Object]")
      else .error ⟨js "Cannot convert object to primitive value"⟩

def elementTexts : List Json → Except JsError (List JsString)
  | [] => .ok []
  | .null :: items => do
      let texts ← elementTexts items
      return [] :: texts
  | item :: items => do
      let text ← toText item
      let texts ← elementTexts items
      return text :: texts

end

end Text

/-! ## The document -/

structure MetadataRuntime extends Runtime where
  parser : UrlParser
  hostname : WebUrl → JsString

structure VerifierMetadataTrustPolicy where
  expectedIssuer : Option JsString := none
  allowedEndpointOrigins : List JsString := []
  allowHttpLocalhost : Bool := false

def X424_METADATA_TYP : JsString := js "x424-verifier-metadata+jws"

section Assertions

variable (runtime : MetadataRuntime)

/-- `Date.parse`. -/
def parseDate : Option Json → Except JsError IsoTimestamp
  | none => .ok (runtime.dates.parse (js "undefined"))
  | some value => (toText runtime.numbers value).map runtime.dates.parse

/-- `new Date`; a number is a time already. -/
def newDate : Option Json → Except JsError IsoTimestamp
  | none => .ok none
  | some .null => .ok (some 0)
  | some (.bool value) => .ok (some (if value then 1 else 0))
  | some (.number value) =>
      let time := if value < 0 then value.ceil else value.floor
      .ok (if IsDate time then some time else none)
  | some value => (toText runtime.numbers value).map runtime.dates.parse

/-- What is read of a `URL`. -/
def urlProperties (url : WebUrl) : Json :=
  .object [(js "protocol", .string url.protocol), (js "hostname", .string (runtime.hostname url)),
    (js "origin", .string url.origin), (js "pathname", .string url.pathname),
    (js "search", .string url.search), (js "hash", .string url.hash)]

def parsedUrl : Option Json → Except JsError Json
  | none => .error ⟨js "Cannot read properties of undefined (reading 'protocol')"⟩
  | some (.string text) =>
      match runtime.parser.parse text with
      | some url => .ok (urlProperties runtime url)
      | none => .error ⟨js "Invalid URL"⟩
  | some value => .ok value

def isTrustedUrl (allowHttpLocalhost : Bool) (protocol hostname : Option Json) : Bool :=
  isJsonString (js "https:") protocol ||
    (allowHttpLocalhost && isJsonString (js "http:") protocol &&
      (isJsonString (js "localhost") hostname || isJsonString (js "127.0.0.1") hostname))

def assertTrustedHttpsUrl (url : Option Json) (allowHttpLocalhost : Bool) :
    Except JsError Json := do
  let parsed ← parsedUrl runtime url
  let protocol ← readProperty (js "protocol") parsed
  if isTrustedUrl allowHttpLocalhost protocol (memberOf (js "hostname") parsed) then .ok parsed
  else .error ⟨js "Verifier URL must use https outside local development"⟩

def originOnly (url : Json) (label : JsString) : Except JsError Json :=
  if !isJsonString (js "/") (memberOf (js "pathname") url) ||
      isTruthy (memberOf (js "search") url) || isTruthy (memberOf (js "hash") url) then
    .error ⟨label ++ js " must be an origin, without path, query, or hash"⟩
  else .ok url

def trustedOrigin (url : Option Json) (allowHttpLocalhost : Bool) (label : JsString) :
    Except JsError (Option Json) := do
  let parsed ← assertTrustedHttpsUrl runtime url allowHttpLocalhost
  let origin ← originOnly parsed label
  return memberOf (js "origin") origin

def assertExpectedIssuer (issuer : Option Json) (policy : VerifierMetadataTrustPolicy) :
    Except JsError Unit :=
  match policy.expectedIssuer with
  | none => .ok ()
  | some expectedIssuer =>
      if expectedIssuer.isEmpty then .ok ()
      else do
        let expected ← trustedOrigin runtime (some (.string expectedIssuer))
          policy.allowHttpLocalhost (js "Expected metadata issuer")
        if !strictEqual issuer expected then
          .error ⟨js "Metadata issuer does not match configured issuer"⟩
        else .ok ()

/-- A comparison with `NaN` is false. -/
def assertMetadataTimes (issuedAt expiresAt now : IsoTimestamp) : Except JsError Unit :=
  match issuedAt, expiresAt with
  | some issuedAt, some expiresAt =>
      if expiresAt ≤ issuedAt then .error ⟨js "Metadata issuedAt must be before expiresAt"⟩
      else if now.any (· < issuedAt) then .error ⟨js "Metadata issuedAt is in the future"⟩
      else if now.any (expiresAt ≤ ·) then .error ⟨js "Verifier metadata expired or invalid"⟩
      else .ok ()
  | _, _ => .error ⟨js "Metadata timestamps are invalid"⟩

def assertEndpoint (issuer : Option Json) (allowedOrigins : List (Option Json))
    (allowHttpLocalhost : Bool) (endpoint : Json) : Except JsError Unit := do
  let url ← assertTrustedHttpsUrl runtime (some endpoint) allowHttpLocalhost
  let origin := memberOf (js "origin") url
  if !strictEqual origin issuer && !allowedOrigins.any (strictEqual · origin) then
    .error ⟨js "Metadata endpoint origin is not trusted for this issuer"⟩
  else .ok ()

def keyStatuses : List JsString := [js "active", js "retired", js "revoked"]

def assertPublicKeyJwk (publicKeyJwk : Option Json) : Except JsError Unit :=
  if !isJsonString (js "OKP") (publicKeyJwk.bind (memberOf (js "kty"))) ||
      !isJsonString (js "Ed25519") (publicKeyJwk.bind (memberOf (js "crv"))) then
    .error ⟨js "Metadata key JWK must be OKP Ed25519"⟩
  else
    match publicKeyJwk.bind (memberOf (js "x")) with
    | some (.string x) => do
        let bytes ← decodeStrictBase64Url x (js "metadata JWK x")
        if bytes.length ≠ 32 then
          .error ⟨js "Metadata key JWK x must be an Ed25519 public key"⟩
        else .ok ()
    | _ => .error ⟨js "Metadata key JWK x must be an Ed25519 public key"⟩

def assertMetadataKey (kids : List (Option Json)) (key : Json) : Except JsError Unit := do
  let alg ← readProperty (js "alg") key
  let kid := memberOf (js "kid") key
  if !isJsonString (js "EdDSA") alg then .error ⟨js "Unsupported metadata key algorithm"⟩
  else if !isTruthy kid || kids.any (strictEqual · kid) then
    .error ⟨js "Duplicate or missing metadata kid"⟩
  else if !keyStatuses.any fun status => isJsonString status (memberOf (js "status") key) then
    .error ⟨js "Invalid metadata key status"⟩
  else do
    let notBefore ← parseDate runtime (memberOf (js "notBefore") key)
    let notAfter ← parseDate runtime (memberOf (js "notAfter") key)
    match notBefore, notAfter with
    | some notBefore, some notAfter =>
        if notAfter ≤ notBefore then .error ⟨js "Invalid metadata key validity interval"⟩
        else assertPublicKeyJwk (memberOf (js "publicKeyJwk") key)
    | _, _ => .error ⟨js "Invalid metadata key validity interval"⟩

/-- The loop over the keys; `kids` are those seen already. -/
def assertMetadataKeys : List (Option Json) → List Json → Except JsError Unit
  | _, [] => .ok ()
  | kids, key :: keys => do
      assertMetadataKey runtime kids key
      assertMetadataKeys (memberOf (js "kid") key :: kids) keys

def assertSigningKeys : Option Json → Except JsError Unit
  | some (.array keys) =>
      if keys.isEmpty then .error ⟨js "Metadata must include signing keys"⟩
      else assertMetadataKeys runtime [] keys
  | _ => .error ⟨js "Metadata must include signing keys"⟩

def assertMetadataDocument (document : Json) (now : IsoTimestamp)
    (policy : VerifierMetadataTrustPolicy) : Except JsError Unit := do
  let version ← readProperty (js "x424Version") document
  if !isJsonString x424Version version then .error ⟨js "Unsupported metadata protocol version"⟩
  else if !isTruthy (memberOf (js "metadataId") document) ||
      !isTruthy (memberOf (js "issuer") document) then
    .error ⟨js "Metadata missing required identity fields"⟩
  else do
    let issuer ← trustedOrigin runtime (memberOf (js "issuer") document) policy.allowHttpLocalhost
      (js "Metadata issuer")
    assertExpectedIssuer runtime issuer policy
    let issuedAt ← parseDate runtime (memberOf (js "issuedAt") document)
    let expiresAt ← parseDate runtime (memberOf (js "expiresAt") document)
    assertMetadataTimes issuedAt expiresAt now
    let allowedOrigins ← policy.allowedEndpointOrigins.mapM fun value =>
      trustedOrigin runtime (some (.string value)) policy.allowHttpLocalhost
        (js "Allowed endpoint origin")
    let endpoints ← objectValues (memberOf (js "endpoints") document)
    endpoints.forM (assertEndpoint runtime issuer allowedOrigins policy.allowHttpLocalhost)
    assertSigningKeys runtime (memberOf (js "keys") document)

end Assertions

/-! ## Tokens -/

section Token

variable {PublicKey : Type} (runtime : MetadataRuntime)

def metadataHeader (keyId : JsString) : Json :=
  headerShape.ofFields fun
    | .alg => some (.string (js "EdDSA"))
    | .kid => some (.string keyId)
    | .typ => some (.string X424_METADATA_TYP)

def metadataSigningInput (keyId : JsString) (document : Json) : JsString :=
  encodePart runtime.toRuntime (metadataHeader keyId) ++
    0x2E :: encodePart runtime.toRuntime document

def signVerifierMetadata (document : Json) (signer : ResultSigner) : Except JsError JsString := do
  let issuedAt ← readProperty (js "issuedAt") document
  let now ← newDate runtime issuedAt
  assertMetadataDocument runtime document now { allowHttpLocalhost := true }
  let input := metadataSigningInput runtime signer.keyId document
  let signature ← signer.sign (utf8 input)
  return input ++ 0x2E :: encodeStrictBase64Url signature

/-- The key id is any value that is not falsy; the map has strings only. -/
def parseMetadataHeader (protectedHeader : JsString) : Except JsError Json := do
  let bytes ← decodeStrictBase64Url protectedHeader (js "metadata header")
  let header ← parseCanonicalJsonBytes runtime.numbers bytes (js "metadata header")
  let alg ← readProperty (js "alg") header
  match memberOf (js "kid") header with
  | none => .error ⟨js "Unsupported verifier metadata header"⟩
  | some kid =>
      if !isJsonString (js "EdDSA") alg ||
          !isJsonString X424_METADATA_TYP (memberOf (js "typ") header) || !isTruthy (some kid) then
        .error ⟨js "Unsupported verifier metadata header"⟩
      else if (objectKeys header).all fun key =>
          key == js "alg" || key == js "typ" || key == js "kid" then .ok kid
      else .error ⟨js "Unsupported verifier metadata header field"⟩

def trustedKey (trustedKeys : JsString → Option PublicKey) (kid : Json) :
    Except JsError PublicKey :=
  match kid with
  | .string text =>
      match trustedKeys text with
      | some publicKey => .ok publicKey
      | none => .error ⟨js "Unknown verifier metadata kid"⟩
  | _ => .error ⟨js "Unknown verifier metadata kid"⟩

variable (verify : PublicKey → List UInt8 → List UInt8 → Bool)
  (trustedKeys : JsString → Option PublicKey)

/-- What `verifyVerifierMetadataToken` does with the three parts. -/
def verifyMetadataParts (now : IsoTimestamp) (policy : VerifierMetadataTrustPolicy)
    (protectedHeader payload signature : JsString) : Except JsError Json := do
  let kid ← parseMetadataHeader runtime protectedHeader
  let publicKey ← trustedKey trustedKeys kid
  let signatureBytes ← decodeStrictBase64Url signature (js "metadata signature")
  if signatureBytes.length ≠ 64 then .error ⟨js "Invalid verifier metadata signature length"⟩
  else if !verify publicKey (utf8 (protectedHeader ++ 0x2E :: payload)) signatureBytes then
    .error ⟨js "Invalid verifier metadata signature"⟩
  else do
    let bytes ← decodeStrictBase64Url payload (js "metadata payload")
    let document ← parseCanonicalJsonBytes runtime.numbers bytes (js "metadata payload")
    assertMetadataDocument runtime document now policy
    return document

def verifyVerifierMetadataToken (token : JsString) (now : IsoTimestamp)
    (policy : VerifierMetadataTrustPolicy) : Except JsError Json :=
  if token.isEmpty || 65536 < token.length then
    .error ⟨js "Malformed verifier metadata token"⟩
  else
    match token.splitOn 0x2E with
    | [protectedHeader, payload, signature] =>
        if protectedHeader.isEmpty || payload.isEmpty || signature.isEmpty then
          .error ⟨js "Malformed verifier metadata token"⟩
        else
          verifyMetadataParts runtime verify trustedKeys now policy protectedHeader payload
            signature
    | _ => .error ⟨js "Malformed verifier metadata token"⟩

end Token

end X424
