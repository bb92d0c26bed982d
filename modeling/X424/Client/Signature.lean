import X424.Canonical
import X424.Client.Request
import X424.Handoff.Record

/-!
# Signed agent requests

The first half of `agent.ts`: an agent signs the method, the URL, the content
digest and the proofs of a request under a label of its own, and the verifier
takes the parameters out of the header again with regular expressions.
-/

namespace X424

open Foundation

/-! ## Texts -/

def integerText (n : Int) : JsString :=
  if n < 0 then 0x2D :: writeWhole (n.natAbs : Nat) else writeWhole (n.natAbs : Nat)

def standardUnit (u : UInt16) : UInt16 := if u = 0x2D then 0x2B else if u = 0x5F then 0x2F else u

def urlUnit (u : UInt16) : UInt16 := if u = 0x2B then 0x2D else if u = 0x2F then 0x5F else u

/-- `Buffer.from(bytes).toString("base64")`. -/
def base64 (bytes : List UInt8) : JsString :=
  (encodeStrictBase64Url bytes).map standardUnit ++ List.replicate ((3 - bytes.length % 3) % 3) 0x3D

/-- `Buffer.from(text, "base64")`: padding and a single unit at the end are dropped. -/
def bufferFromBase64 (text : JsString) : List UInt8 :=
  let units := (text.takeWhile (· != 0x3D)).map urlUnit
  (atob (if units.length % 4 = 1 then units.dropLast else units)).getD []

/-- `quoted`, for texts of printable ASCII. -/
def escapeQuoted (value : JsString) : JsString :=
  value.flatMap fun u => if u = quoteMark ∨ u = backslash then [backslash, u] else [u]

def quoted (value : JsString) : Except JsError JsString :=
  if value.all isPrintable then .ok (quoteMark :: (escapeQuoted value ++ [quoteMark]))
  else .error ⟨js "HTTP signature parameter contains unsafe characters"⟩

/-! ## What is signed -/

def humanProofHeader : JsString := js "human-proof"

def paymentSignatureHeader : JsString := js "payment-signature"

def contentDigestHeader : JsString := js "content-digest"

def signatureInputHeader : JsString := js "signature-input"

def signatureHeader : JsString := js "signature"

def agentSignatureLabel : JsString := js "x424-agent"

inductive AgentSignatureAlgorithm where
  | ed25519
  | eip191
  | erc1271
  deriving DecidableEq, Repr

def AgentSignatureAlgorithm.text : AgentSignatureAlgorithm → JsString
  | .ed25519 => js "ed25519"
  | .eip191 => js "eip191"
  | .erc1271 => js "erc1271"

structure AgentSignatureParameters where
  components : List JsString
  created : Int
  expires : Int
  keyId : JsString
  algorithm : AgentSignatureAlgorithm
  nonce : JsString
  serialized : JsString
  deriving DecidableEq, Repr

def contentDigest (createHash : List UInt8 → List UInt8) (bytes : List UInt8) : JsString :=
  js "sha-256=:" ++ base64 (createHash bytes) ++ js ":"

def componentValue (request : Request) (component : JsString) : Except JsError JsString :=
  if component = js "@method" then .ok (asciiLower request.method)
  else if component = js "@target-uri" then .ok request.url
  else
    match request.headers.get component with
    | none => .error ⟨js "Signed component is missing: " ++ component⟩
    | some value =>
        if value.any fun u => u == 0x0D || u == 0x0A then
          .error ⟨js "Signed header contains a newline"⟩
        else .ok (trim value)

def componentLine (request : Request) (component : JsString) : Except JsError JsString := do
  let name ← quoted component
  let value ← componentValue request component
  return name ++ js ": " ++ value

def parametersLine (serialized : JsString) : JsString :=
  js "\"@signature-params\": " ++ serialized

def signatureBase (request : Request) (components : List JsString) (serialized : JsString) :
    Except JsError (List UInt8) := do
  let lines ← components.mapM (componentLine request)
  return utf8 ([0x0A].intercalate (lines ++ [parametersLine serialized]))

def signatureComponents (request : Request) : List JsString :=
  [js "@method", js "@target-uri"] ++
    (if request.body.isSome then [contentDigestHeader] else []) ++
    (if request.headers.has humanProofHeader then [humanProofHeader] else []) ++
    (if request.headers.has paymentSignatureHeader then [paymentSignatureHeader] else [])

/-! ## Signing -/

section Signing

variable (urls : UrlParser) (createHash : List UInt8 → List UInt8)

/-- `AgentRequestSigner`, without its `sign`. -/
structure AgentRequestSigner where
  keyId : JsString
  algorithm : AgentSignatureAlgorithm
  deriving DecidableEq, Repr

structure UnsignedRequest where
  request : Request
  serialized : JsString
  base : List UInt8

def digestHeaders (request : Request) : Except JsError Headers :=
  if request.body.isSome then
    request.headers.set contentDigestHeader (contentDigest createHash request.content)
  else .ok request.headers

def digestedRequest (request : Request) : Except JsError Request := do
  let headers ← digestHeaders createHash request
  let copy ← request.clone
  Request.new urls (.request copy) { headers := some (.headers headers) }

def serializeParameters (components : List JsString) (created expires : Int)
    (signer : AgentRequestSigner) (nonce : JsString) : Except JsError JsString := do
  let names ← components.mapM quoted
  let keyId ← quoted signer.keyId
  let algorithm ← quoted signer.algorithm.text
  let nonce ← quoted nonce
  return js "(" ++ [0x20].intercalate names ++ js ");created=" ++ integerText created ++
    js ";expires=" ++ integerText expires ++ js ";keyid=" ++ keyId ++ js ";alg=" ++ algorithm ++
    js ";nonce=" ++ nonce ++ js ";tag=\"x424-agent\""

/-- `signX424AgentRequest` up to the call of the signer. -/
def unsignedRequest (request : Request) (signer : AgentRequestSigner) (nonce : JsString)
    (now : Instant) (lifetimeSeconds : JsNumber) : Except JsError UnsignedRequest := do
  match lifetimeSeconds.filter fun lifetime =>
      decide (lifetime.den = 1 ∧ 1 ≤ lifetime ∧ lifetime ≤ 60) with
  | none => .error ⟨js "Agent signature lifetime must be between 1 and 60 seconds"⟩
  | some lifetime =>
      let unsigned ← digestedRequest urls createHash request
      let components := signatureComponents unsigned
      let created := Int.fdiv now 1000
      let serialized ← serializeParameters components created (created + lifetime.num) signer nonce
      let base ← signatureBase unsigned components serialized
      return ⟨unsigned, serialized, base⟩

/-- `signX424AgentRequest` from the signature on. -/
def signedRequest (unsigned : UnsignedRequest) (signature : List UInt8) :
    Except JsError Request := do
  let headers ← unsigned.request.headers.set signatureInputHeader
    (agentSignatureLabel ++ js "=" ++ unsigned.serialized)
  let headers ← headers.set signatureHeader
    (agentSignatureLabel ++ js "=:" ++ base64 signature ++ js ":")
  Request.new urls (.request unsigned.request) { headers := some (.headers headers) }

/-- `signX424AgentRequest` with the nonce, the clock and the signer's answer. -/
def signX424AgentRequest (sign : List UInt8 → Except JsError (List UInt8)) (request : Request)
    (signer : AgentRequestSigner) (nonce : JsString) (now : Instant)
    (lifetimeSeconds : JsNumber) : Except JsError Request := do
  let unsigned ← unsignedRequest urls createHash request signer nonce now lifetimeSeconds
  let signature ← sign unsigned.base
  signedRequest urls unsigned signature

end Signing

/-! ## Reading the parameters -/

def afterSemicolons : JsString → List JsString
  | [] => []
  | u :: rest => if u = 0x3B then rest :: afterSemicolons rest else afterSemicolons rest

/-- The first match of `(?:^|;)name=…`, where `read` reads what is behind the sign. -/
def findParameter {α : Type} (name : JsString) (read : JsString → Option α) (params : JsString) :
    Option α :=
  (params :: afterSemicolons params).findSome? fun text =>
    if (name ++ js "=").isPrefixOf text then read (text.drop (name.length + 1)) else none

def endsParameter (rest : JsString) : Bool := rest.head?.all (· == 0x3B)

def isDecimal (u : UInt16) : Bool := 0x30 ≤ u && u ≤ 0x39

/-- `([0-9]+)(?:;|$)`. -/
def readDecimal (text : JsString) : Option Int :=
  if endsParameter (text.dropWhile isDecimal) then
    (readWhole (text.takeWhile isDecimal)).map fun value => value.num
  else none

/-- `"([^"]*)"(?:;|$)`. -/
def readQuoted (text : JsString) : Option JsString :=
  match text with
  | [] => none
  | u :: rest =>
      if u = quoteMark ∧ (rest.dropWhile (· != quoteMark)).head? = some quoteMark ∧
          endsParameter ((rest.dropWhile (· != quoteMark)).drop 1) = true then
        some (rest.takeWhile (· != quoteMark))
      else none

/-- `matchAll(/"([^"\\]+)"/gu)`; `inside` is what was read since an opening quote. -/
def matchNames : Option JsString → JsString → List JsString
  | _, [] => []
  | none, u :: rest => matchNames (if u = quoteMark then some [] else none) rest
  | some name, u :: rest =>
      if u = quoteMark then
        if name = [] then matchNames (some []) rest else name :: matchNames none rest
      else if u = backslash then matchNames none rest
      else matchNames (some (name ++ [u])) rest

def requiredParameter {α : Type} (name : JsString) (value : Option α) : Except JsError α :=
  match value with
  | none => .error ⟨js "Missing agent signature parameter: " ++ name⟩
  | some value => .ok value

def stringParameter (name params : JsString) : Except JsError JsString :=
  requiredParameter name (findParameter name readQuoted params)

def integerParameter (name params : JsString) : Except JsError Int :=
  requiredParameter name (findParameter name readDecimal params)

def readAlgorithm (text : JsString) : Except JsError AgentSignatureAlgorithm :=
  if text = js "ed25519" then .ok .ed25519
  else if text = js "eip191" then .ok .eip191
  else if text = js "erc1271" then .ok .erc1271
  else .error ⟨js "Unsupported agent signature algorithm"⟩

def splitList (serialized : JsString) : Option (JsString × JsString) :=
  if serialized.head? = some 0x28 ∧ (0x29 : UInt16) ∈ serialized then
    some ((serialized.takeWhile (· != 0x29)).drop 1, (serialized.dropWhile (· != 0x29)).drop 1)
  else none

def readComponents (list : JsString) : Except JsError (List JsString) := do
  let components := matchNames none list
  let names ← components.mapM quoted
  if components = [] ∨ [0x20].intercalate names ≠ list then
    .error ⟨js "Invalid x424-agent component list"⟩
  else return components

def parseSerialized (serialized : JsString) : Except JsError AgentSignatureParameters := do
  match splitList serialized with
  | none => .error ⟨js "Invalid x424-agent Signature-Input"⟩
  | some (list, params) =>
      let components ← readComponents list
      let algorithm ← stringParameter (js "alg") params >>= readAlgorithm
      let tag ← stringParameter (js "tag") params
      if tag ≠ js "x424-agent" then .error ⟨js "Invalid signature tag"⟩
      else
        let created ← integerParameter (js "created") params
        let expires ← integerParameter (js "expires") params
        let keyId ← stringParameter (js "keyid") params
        let nonce ← stringParameter (js "nonce") params
        return { components, created, expires, keyId, algorithm, nonce, serialized }

def parseParameters (request : Request) : Except JsError AgentSignatureParameters :=
  match request.headers.get signatureInputHeader with
  | none => .error ⟨js "Missing x424-agent Signature-Input"⟩
  | some input =>
      if (agentSignatureLabel ++ js "=").isPrefixOf input then
        parseSerialized (input.drop (agentSignatureLabel.length + 1))
      else .error ⟨js "Missing x424-agent Signature-Input"⟩

def isBase64Unit (u : UInt16) : Bool := isBase64UrlUnit (urlUnit u) && u != 0x2D && u != 0x5F

/-- `/^x424-agent=:([A-Za-z0-9+/]+={0,2}):$/u`. -/
def matchSignature (value : JsString) : Option JsString :=
  let label := agentSignatureLabel ++ js "=:"
  let text := (value.drop label.length).dropLast
  let padding := text.dropWhile isBase64Unit
  if label.isPrefixOf value ∧ (value.drop label.length).getLast? = some 0x3A ∧
      text.takeWhile isBase64Unit ≠ [] ∧ padding.length ≤ 2 ∧ padding.all (· == 0x3D) = true then
    some text
  else none

def parseSignature (request : Request) : Except JsError (List UInt8) :=
  match (request.headers.get signatureHeader).bind matchSignature with
  | none => .error ⟨js "Missing or invalid x424-agent Signature"⟩
  | some text => .ok (bufferFromBase64 text)

/-! ## Verifying -/

structure ResolvedAgentKey where
  keyId : JsString
  algorithm : AgentSignatureAlgorithm
  verify : List UInt8 → List UInt8 → Except JsError Bool

/-- The options of `verifyX424AgentRequest`, with the time at which it is called. -/
structure AgentVerification where
  resolveKey : JsString → AgentSignatureAlgorithm → Request →
    Except JsError (Option ResolvedAgentKey)
  expectedNonce : Option JsString
  now : Instant
  clockSkewSeconds : Option ℚ

def AgentVerification.InWindow (options : AgentVerification)
    (parameters : AgentSignatureParameters) :
    Prop :=
  (parameters.created : ℚ) ≤ (Int.fdiv options.now 1000 : ℚ) + options.clockSkewSeconds.getD 5 ∧
    (Int.fdiv options.now 1000 : ℚ) - options.clockSkewSeconds.getD 5 ≤ (parameters.expires : ℚ) ∧
    parameters.created < parameters.expires ∧ parameters.expires - parameters.created ≤ 60

instance (options : AgentVerification) (parameters : AgentSignatureParameters) :
    Decidable (options.InWindow parameters) := inferInstanceAs (Decidable (_ ∧ _))

def ResolvedAgentKey.accepts (key : ResolvedAgentKey) (request : Request)
    (parameters : AgentSignatureParameters) : Except JsError Bool :=
  if key.keyId ≠ parameters.keyId ∨ key.algorithm ≠ parameters.algorithm then .ok false
  else do
    let base ← signatureBase request parameters.components parameters.serialized
    let signature ← parseSignature request
    key.verify base signature

def verifyX424AgentRequest (createHash : List UInt8 → List UInt8) (request : Request)
    (options : AgentVerification) : Except JsError HumanBinding := do
  let parameters ← parseParameters request
  if ¬ options.InWindow parameters then .error ⟨js "Agent signature time window is invalid"⟩
  else if options.expectedNonce.any (· != parameters.nonce) then
    .error ⟨js "Agent signature nonce does not match the dependency"⟩
  else if parameters.components ≠ signatureComponents request then
    .error ⟨js "Agent signature does not cover the required components"⟩
  else if request.body.isSome ∧ request.headers.get contentDigestHeader ≠
      some (contentDigest createHash request.content) then
    .error ⟨js "Agent request Content-Digest is invalid"⟩
  else
    let key ← options.resolveKey parameters.keyId parameters.algorithm request
    match key with
    | none => .error ⟨js "Agent request signature is invalid"⟩
    | some key =>
        let accepted ← key.accepts request parameters
        if accepted then .ok ⟨.agentKey, parameters.keyId⟩
        else .error ⟨js "Agent request signature is invalid"⟩

end X424
