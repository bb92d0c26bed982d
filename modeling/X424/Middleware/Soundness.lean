import X424.Canonical
import X424.Middleware.Rejection
import X424.PolicyLaws
import X424.ResultToken

/-!
# What an accepted proof means

A token that `acceptHumanProof` accepts was signed, names a stored
requirement and is bound to the current request.  Two requests share a digest
only when nothing but members named `__proto__` tells their bodies apart.
-/

namespace X424

open Foundation Canonical

/-! ## Tokens -/

section Tokens

variable {PublicKey : Type} {runtime : Runtime}
  {verify : PublicKey → List UInt8 → List UInt8 → Bool} {verifier : ResultVerifier PublicKey}

/-- The holder of a configured key has signed the header and the payload of the token, and the
payload is the result. -/
def SignedResult (runtime : Runtime) (verifier : ResultVerifier PublicKey)
    (Signed : PublicKey → List UInt8 → Prop) (token : JsString) (document : ResultDocument) :
    Prop :=
  ∃ protectedHeader payload signature kid publicKey bytes json,
    token = protectedHeader ++ 0x2E :: (payload ++ 0x2E :: signature) ∧
    parseTokenHeader runtime protectedHeader = .ok kid ∧ verifier.keyFor kid = .ok publicKey ∧
    Signed publicKey (utf8 (protectedHeader ++ 0x2E :: payload)) ∧
    payload = encodeStrictBase64Url bytes ∧
    parseCanonicalJsonBytes runtime.numbers bytes (js "JWS payload") = .ok json ∧
    HumanResultSchema runtime.dates runtime.urls json = some document

theorem signedResult_of_parts {Signed : PublicKey → List UInt8 → Prop}
    (hunforgeable : ∀ publicKey message signature, verify publicKey message signature = true →
      Signed publicKey message) {protectedHeader payload signature : JsString}
    {document : ResultDocument}
    (h : verifyTokenParts runtime verify verifier protectedHeader payload signature =
      .ok document) :
    SignedResult runtime verifier Signed
      (protectedHeader ++ 0x2E :: (payload ++ 0x2E :: signature)) document := by
  obtain ⟨kid, hkid, h⟩ := bind_eq_ok.mp h
  obtain ⟨publicKey, hkey, h⟩ := bind_eq_ok.mp h
  obtain ⟨signatureBytes, -, h⟩ := bind_eq_ok.mp h
  split_ifs at h with hlength hverified
  obtain ⟨bytes, hbytes, h⟩ := bind_eq_ok.mp h
  obtain ⟨json, hjson, h⟩ := bind_eq_ok.mp h
  have hsigned := hunforgeable publicKey _ signatureBytes
    (by simpa using hverified)
  refine ⟨protectedHeader, payload, signature, kid, publicKey, bytes, json, rfl, hkid, hkey,
    hsigned, (decodeStrictBase64Url_eq_ok.mp hbytes).2, hjson, ?_⟩
  unfold parseHumanResult at h
  split at h
  · rename_i hread
    cases h
    exact hread
  · cases h

theorem signedResult_of_verified {Signed : PublicKey → List UInt8 → Prop}
    (hunforgeable : ∀ publicKey message signature, verify publicKey message signature = true →
      Signed publicKey message) {token : JsString} {document : ResultDocument}
    (h : verifyHumanResultToken runtime verify verifier token = .ok document) :
    SignedResult runtime verifier Signed token document := by
  unfold verifyHumanResultToken at h
  split_ifs at h with hsize
  split at h
  · rename_i protectedHeader payload signature hparts
    split_ifs at h
    have htoken : token = protectedHeader ++ 0x2E :: (payload ++ 0x2E :: signature) := by
      rw [← @List.intercalate_splitOn _ token _ _ 0x2E, hparts]
      simp [List.intercalate]
    rw [htoken]
    exact signedResult_of_parts hunforgeable h
  · cases h

end Tokens

/-! ## Bodies -/

section Bodies

variable {numbers : JsNumbers} {createHash : List UInt8 → List UInt8}

def NoBody : RequestBodyDigestInput → Prop
  | .absent => True
  | .empty => True
  | .opaqueBytes bytes => bytes = []
  | _ => False

/-- The two inputs stand for one body; of a precomputed digest only the digest is known. -/
inductive SameBody (numbers : JsNumbers) (createHash : List UInt8 → List UInt8) :
    RequestBodyDigestInput → RequestBodyDigestInput → Prop
  | nothing {a b} : NoBody a → NoBody b → SameBody numbers createHash a b
  | json {v w} : v.Same w → SameBody numbers createHash (.json v) (.json w)
  | bytes (bytes) : SameBody numbers createHash (.opaqueBytes bytes) (.opaqueBytes bytes)
  | written {v} : v.ProtoFree → SameBody numbers createHash (.json v)
      (.opaqueBytes (utf8 (canonicalJson numbers v)))
  | read {v} : v.ProtoFree → SameBody numbers createHash
      (.opaqueBytes (utf8 (canonicalJson numbers v))) (.json v)
  | vouched {digest b} : bodyDigestFromInput numbers createHash b = .ok (some digest) →
      SameBody numbers createHash (.precomputed digest) b
  | trusted {digest a} : bodyDigestFromInput numbers createHash a = .ok (some digest) →
      SameBody numbers createHash a (.precomputed digest)

/-- One JSON body has a member named `__proto__` that the other body does not have. -/
def HiddenMembers : RequestBodyDigestInput → RequestBodyDigestInput → Prop
  | .json v, .json w => v.withoutProto.Same w.withoutProto ∧ ¬ v.Same w
  | .json v, .opaqueBytes _ => ¬ v.ProtoFree
  | .opaqueBytes _, .json v => ¬ v.ProtoFree
  | _, _ => False

def BodyWellFormed (numbers : JsNumbers) (bodyInput : RequestBodyDigestInput) : Prop :=
  ∀ value, bodyInput = .json value → value.WellFormed numbers

theorem precomputed_digest {text : JsString} {bodyDigest : Option JsString}
    (h : bodyDigestFromInput numbers createHash (.precomputed text) = .ok bodyDigest) :
    bodyDigest = some text := by
  rw [bodyDigestFromInput] at h
  cases hchecked : assertSha256Digest text with
  | error error =>
      rw [hchecked] at h
      cases h
  | ok digest =>
      rw [hchecked] at h
      cases h
      rw [(assertSha256Digest_eq_ok.mp hchecked).1]

theorem json_digest {value : Json} {bodyDigest : Option JsString}
    (h : bodyDigestFromInput numbers createHash (.json value) = .ok bodyDigest) :
    bodyDigest = some (Canonical.sha256 createHash (utf8 (canonicalJson numbers value))) := by
  rw [bodyDigestFromInput] at h
  split_ifs at h
  cases h
  rfl

theorem bytes_digest {bytes : List UInt8} {bodyDigest : Option JsString}
    (h : bodyDigestFromInput numbers createHash (.opaqueBytes bytes) = .ok bodyDigest) :
    (bytes = [] ∧ bodyDigest = none) ∨
      bodyDigest = some (Canonical.sha256 createHash bytes) := by
  rw [bodyDigestFromInput] at h
  split_ifs at h with hempty
  · cases h
    exact .inl ⟨hempty, rfl⟩
  · cases h
    exact .inr rfl

theorem noBody_of_digest {bodyInput : RequestBodyDigestInput}
    (h : bodyDigestFromInput numbers createHash bodyInput = .ok none) : NoBody bodyInput := by
  cases bodyInput with
  | absent => trivial
  | empty => trivial
  | json value => cases json_digest h
  | opaqueBytes bytes =>
      rcases bytes_digest h with ⟨hempty, -⟩ | hdigest
      · exact hempty
      · cases hdigest
  | precomputed text => cases precomputed_digest h
  | stream => cases h

/-- Two bodies with one digest are the same body unless members are hidden from the digest. -/
theorem sameBody_iff (hhash : Function.Injective createHash) {a b : RequestBodyDigestInput}
    (ha : BodyWellFormed numbers a) (hb : BodyWellFormed numbers b)
    {bodyDigest : Option JsString}
    (hdigest : bodyDigestFromInput numbers createHash a = .ok bodyDigest)
    (hdigest' : bodyDigestFromInput numbers createHash b = .ok bodyDigest) :
    SameBody numbers createHash a b ↔ ¬ HiddenMembers a b := by
  constructor
  · intro hsame hhidden
    cases hsame with
    | nothing hnone hnone' =>
        cases a <;> cases b <;> first | exact hhidden | exact hnone | exact hnone'
    | json hsame => exact hhidden.2 hsame
    | bytes bytes => exact hhidden
    | written hproto => exact hhidden hproto
    | read hproto => exact hhidden hproto
    | vouched _ => cases b <;> exact hhidden
    | trusted _ => cases a <;> exact hhidden
  · intro hvisible
    cases bodyDigest with
    | none => exact .nothing (noBody_of_digest hdigest) (noBody_of_digest hdigest')
    | some digest =>
        cases a with
        | absent => cases hdigest
        | empty => cases hdigest
        | stream => cases hdigest
        | precomputed text =>
            cases precomputed_digest hdigest
            exact .vouched hdigest'
        | json v =>
            have hv := json_digest hdigest
            cases b with
            | absent => cases hdigest'
            | empty => cases hdigest'
            | stream => cases hdigest'
            | precomputed text =>
                cases precomputed_digest hdigest'
                exact .trusted hdigest
            | json w =>
                have htexts := (sha256_canonicalJson_inj hhash (ha v rfl) (hb w rfl)).mp
                  (Option.some.inj (hv.symm.trans (json_digest hdigest')))
                have hvisibly := (canonicalJson_eq_iff (ha v rfl) (hb w rfl)).mp htexts
                exact .json (not_not.mp fun hsame => hvisible ⟨hvisibly, hsame⟩)
            | opaqueBytes bytes =>
                obtain ⟨-, hnone⟩ | hbytes := bytes_digest hdigest'
                · cases hnone
                · cases sha256_injective hhash (Option.some.inj (hv.symm.trans hbytes))
                  exact .written (not_not.mp hvisible)
        | opaqueBytes bytes =>
            obtain ⟨-, hnone⟩ | hbytes := bytes_digest hdigest
            · cases hnone
            cases b with
            | absent => cases hdigest'
            | empty => cases hdigest'
            | stream => cases hdigest'
            | precomputed text =>
                cases precomputed_digest hdigest'
                exact .trusted hdigest
            | json w =>
                cases sha256_injective hhash
                  (Option.some.inj (hbytes.symm.trans (json_digest hdigest')))
                exact .read (not_not.mp hvisible)
            | opaqueBytes bytes' =>
                obtain ⟨-, hnone⟩ | hbytes' := bytes_digest hdigest'
                · cases hnone
                · cases sha256_injective hhash (Option.some.inj (hbytes.symm.trans hbytes'))
                  exact .bytes bytes

end Bodies

/-! ## Requests -/

structure RequestContent where
  method : JsString
  uri : JsString
  bodyInput : RequestBodyDigestInput
  binding : HumanBinding

section Requests

variable (numbers : JsNumbers) (createHash : List UInt8 → List UInt8)

structure RequestContent.Carried (content : RequestContent) (request : ProtectedRequest) :
    Prop where
  method : request.method = content.method
  uri : request.uri = content.uri
  binding : request.binding = content.binding
  bodyDigest : bodyDigestFromInput numbers createHash content.bodyInput = .ok request.bodyDigest
  wellFormed : BodyWellFormed numbers content.bodyInput

structure RequestContent.Answered (content : RequestContent) (result : HumanResult) : Prop where
  requestDigest : Canonical.requestDigest numbers createHash toUpperCase content.method
    content.uri content.bodyInput = .ok result.requestDigest
  binding : result.binding = content.binding
  wellFormed : BodyWellFormed numbers content.bodyInput

structure RequestContent.Same (a b : RequestContent) : Prop where
  method : toUpperCase a.method = toUpperCase b.method
  uri : a.uri = b.uri
  body : SameBody numbers createHash a.bodyInput b.bodyInput
  binding : a.binding = b.binding

def textDigest (text : JsString) : JsString := Canonical.sha256 createHash (utf8 text)

end Requests

section Requests

variable {numbers : JsNumbers} {createHash : List UInt8 → List UInt8}

theorem requestDigest_textDigest_inj (hhash : Function.Injective createHash)
    {method method' uri uri' : JsString} {bodyDigest bodyDigest' : Option JsString} :
    X424.requestDigest (textDigest createHash) method uri bodyDigest =
        X424.requestDigest (textDigest createHash) method' uri' bodyDigest' ↔
      toUpperCase method = toUpperCase method' ∧ uri = uri' ∧ bodyDigest = bodyDigest' := by
  unfold X424.requestDigest textDigest
  rw [← @canonicalJson_requestObject wholeNumbers, ← @canonicalJson_requestObject wholeNumbers,
    sha256_canonicalJson_inj hhash (wellFormed_requestObject ..) (wellFormed_requestObject ..),
    canonicalJson_requestObject_inj]

/-- A result for one request answers another one if and only if they are the same, but for
members that are hidden from the digest. -/
theorem sameRequest_iff (hhash : Function.Injective createHash) {issued current : RequestContent}
    {request : ProtectedRequest} {result : HumanResult}
    (hissued : issued.Answered numbers createHash result)
    (hcurrent : current.Carried numbers createHash request)
    (hdigest : result.requestDigest = request.digest (textDigest createHash))
    (hbinding : result.binding = request.binding) :
    issued.Same numbers createHash current ↔
      ¬ HiddenMembers issued.bodyInput current.bodyInput := by
  have hissuedDigest := hissued.requestDigest
  rw [Canonical.requestDigest_eq] at hissuedDigest
  cases hbody : bodyDigestFromInput numbers createHash issued.bodyInput with
  | error error =>
      rw [hbody] at hissuedDigest
      cases hissuedDigest
  | ok bodyDigest =>
      rw [hbody] at hissuedDigest
      have hsame : X424.requestDigest (textDigest createHash) issued.method issued.uri bodyDigest =
          X424.requestDigest (textDigest createHash) request.method request.uri
            request.bodyDigest :=
        (Except.ok.inj hissuedDigest).trans hdigest
      obtain ⟨hmethod, huri, rfl⟩ := (requestDigest_textDigest_inj hhash).mp hsame
      rw [← sameBody_iff hhash hissued.wellFormed hcurrent.wellFormed hbody hcurrent.bodyDigest]
      constructor
      · exact fun h => h.body
      · intro hbodies
        refine ⟨?_, ?_, hbodies, ?_⟩
        · rw [hmethod, hcurrent.method]
        · rw [huri, hcurrent.uri]
        · rw [← hissued.binding, hbinding, hcurrent.binding]

end Requests

/-! ## Acceptance -/

theorem RequirementBackend.found {ρ : Type} {store : RequirementStore ρ}
    {unexpired : Instant → ρ → JsString → Option StoredRequirement}
    {early : Instant → ρ → JsString → Prop} (h : RequirementBackend ρ store unexpired early)
    {dependencyId : JsString} {checkedAt now : Instant} {s : ρ} {requirement : HumanRequirement}
    (hle : checkedAt ≤ now)
    (hget : (store.get dependencyId checkedAt now s).1 = .ok (some requirement)) :
    ∃ stored, unexpired checkedAt s dependencyId = some stored ∧
      stored.requirement = requirement := by
  cases h with
  | inMemory maximumEntries =>
      have hshown := InMemoryRequirementStore.get_eq_shown s dependencyId checkedAt now
      have hfound := Except.ok.inj (hshown.symm.trans hget)
      exact Option.map_eq_some_iff.mp hfound
  | redis keyPrefix =>
      have hshown := RedisX424Store.getRequirement_eq_shown keyPrefix dependencyId checkedAt now s
      have hfound := hshown.symm.trans hget
      split_ifs at hfound
      obtain ⟨stored, hstored, hrequirement⟩ := Option.map_eq_some_iff.mp (Except.ok.inj hfound)
      refine ⟨stored, ?_, hrequirement⟩
      obtain ⟨hcell, hexpired⟩ := Option.filter_eq_some_iff.mp hstored
      refine Option.filter_eq_some_iff.mpr ⟨?_, hexpired⟩
      obtain ⟨cell, hlive, hvalue⟩ := Option.map_eq_some_iff.mp hcell
      obtain ⟨hat, hlater⟩ := Cells.live_eq_some.mp hlive
      exact Option.map_eq_some_iff.mpr
        ⟨cell, Cells.live_eq_some.mpr ⟨hat, Int.lt_of_le_of_lt hle hlater⟩, hvalue⟩
  | postgres =>
      have hshown := PostgresX424Store.getRequirement_eq_shown dependencyId checkedAt now s
      have hfound := Except.ok.inj (hshown.symm.trans hget)
      obtain ⟨row, hrow, hrequirement⟩ := Option.map_eq_some_iff.mp hfound
      obtain ⟨hat, hlater⟩ := Option.filter_eq_some_iff.mp hrow
      refine ⟨row.value, Option.map_eq_some_iff.mpr ⟨row, Cells.live_eq_some.mpr ⟨hat, ?_⟩, rfl⟩,
        hrequirement⟩
      exact Int.lt_of_lt_of_le (of_decide_eq_true hlater) (dateStringMs_le row.expiresAt)

section Acceptance

variable {ρ σ τ PublicKey : Type} {runtime : Runtime} {createHash : List UInt8 → List UInt8}
  {verify : PublicKey → List UInt8 → List UInt8 → Bool} {verifier : ResultVerifier PublicKey}
  {options : ProtectOptions ρ σ τ}
  {unexpired : Instant → ρ → JsString → Option StoredRequirement}
  {early : Instant → ρ → JsString → Prop} {request : ProtectedRequest}
  {times : PresentationTimes} {s : ResourceStores ρ σ τ} {requirement : HumanRequirement}
  {result : HumanResult}

def ProtectOptions.withVerifier (options : ProtectOptions ρ σ τ) (runtime : Runtime)
    (verify : PublicKey → List UInt8 → List UInt8 → Bool) (verifier : ResultVerifier PublicKey) :
    ProtectOptions ρ σ τ :=
  { options with
    verifyHumanResultToken := fun token =>
      (X424.verifyHumanResultToken runtime verify verifier token).map fun document =>
        document.read runtime.dates }

theorem ProtectOptions.withVerifier_verify (token : JsString) :
    (options.withVerifier runtime verify verifier).verifyHumanResultToken token =
      (X424.verifyHumanResultToken runtime verify verifier token).map fun document =>
        document.read runtime.dates := rfl

/-- What is known of a presentation that is accepted at `now`. -/
structure SoundAcceptance (options : ProtectOptions ρ σ τ) (runtime : Runtime)
    (verifier : ResultVerifier PublicKey) (Signed : PublicKey → List UInt8 → Prop)
    (stored : JsString → Option StoredRequirement) (digest : JsString → JsString)
    (request : ProtectedRequest) (now : Instant) (requirement : HumanRequirement)
    (result : HumanResult) : Prop where
  signed : ∃ document, result = document.read runtime.dates ∧
    SignedResult runtime verifier Signed request.humanProof document
  stored : ∃ entry, stored result.dependencyId = some entry ∧ entry.requirement = requirement
  purpose : requirement.purpose = options.purpose
  audience : requirement.resource.audience = options.audience
  method : requirement.resource.method = toUpperCase request.method
  uri : requirement.resource.uri = request.uri
  requestDigest : requirement.resource.requestDigest = request.digest digest
  binding : requirement.binding = request.binding
  satisfied : Satisfies requirement result options.catalog now

theorem settle_eq_ok {found : HumanRequirement} {checked : HumanResult}
    (h : (options.settle request times found checked s).1 = .ok (requirement, result)) :
    requirement = found ∧ result = checked := by
  unfold ProtectOptions.settle at h
  simp only at h
  split at h
  · cases h
  · split_ifs at h
    · cases h
      exact ⟨rfl, rfl⟩
    · cases hdeleted : (options.requirementStore.delete found.dependencyId times.endedAt
          s.requirements).1 with
      | error error =>
          rw [hdeleted] at h
          cases h
      | ok _ =>
          rw [hdeleted] at h
          cases h
          exact ⟨rfl, rfl⟩

theorem acceptHumanProof_checked {sha256 : JsString → JsString}
    (h : (options.acceptHumanProof sha256 request times s).1 = .ok (requirement, result)) :
    options.verifyHumanResultToken request.humanProof = .ok result ∧
      (options.requirementStore.get result.dependencyId times.startedAt times.lookedUpAt
        s.requirements).1 = .ok (some requirement) ∧
      options.checkPresentation request sha256 requirement times.startedAt = .ok result := by
  obtain ⟨error, -, hanswer⟩ | ⟨preview, reply, requirements, hpreview, hget, hrest⟩ :=
    ProtectOptions.acceptHumanProof_cases sha256 options request times s
  · rw [hanswer] at h
    cases h
  · obtain ⟨-, error, hanswer⟩ | ⟨found, rfl, hfound⟩ := hrest
    · rw [hanswer] at h
      cases h
    · obtain ⟨error, -, hanswer⟩ | ⟨checked, hchecked, hanswer⟩ := hfound
      · rw [hanswer] at h
        cases h
      · rw [hanswer] at h
        obtain ⟨rfl, rfl⟩ := settle_eq_ok h
        obtain ⟨rfl, -⟩ := ProtectOptions.dependencyId_of_checked hpreview hchecked
        exact ⟨ProtectOptions.verifyHumanResultToken_of_preview hpreview,
          congrArg Prod.fst hget, hchecked⟩

theorem acceptHumanProof_of_checked {sha256 : JsString → JsString}
    (hpreview : options.previewToken request = .ok result)
    (hget : (options.requirementStore.get result.dependencyId times.startedAt times.lookedUpAt
      s.requirements).1 = .ok (some requirement))
    (hchecked : options.checkPresentation request sha256 requirement times.startedAt = .ok result)
    (hspent : (options.spendResult request result times.startedAt times.spentAt s.replays
      s.acceptances).1 = .ok ())
    (hmutation : request.mutation = true) :
    (options.acceptHumanProof sha256 request times s).1 = .ok (requirement, result) := by
  simp only [ProtectOptions.acceptHumanProof, hpreview, hget, hchecked, ProtectOptions.settle,
    hspent, hmutation, if_true]

/-- A proof that is accepted was signed and answers a stored requirement of the current request,
and no proof of another request is accepted, unless a body hides members from the digest. -/
theorem acceptance_sound
    (hrequirements : RequirementBackend ρ options.requirementStore unexpired early)
    {Signed : PublicKey → List UInt8 → Prop}
    (hunforgeable : ∀ publicKey message signature, verify publicKey message signature = true →
      Signed publicKey message)
    (hhash : Function.Injective createHash) {current : RequestContent}
    (hcurrent : current.Carried runtime.numbers createHash request) (htimes : times.Ordered)
    (h : ((options.withVerifier runtime verify verifier).acceptHumanProof (textDigest createHash)
      request times s).1 = .ok (requirement, result)) :
    SoundAcceptance options runtime verifier Signed (unexpired times.startedAt s.requirements)
        (textDigest createHash) request times.startedAt requirement result ∧
      ∀ issued : RequestContent, issued.Answered runtime.numbers createHash result →
        (issued.Same runtime.numbers createHash current ↔
          ¬ HiddenMembers issued.bodyInput current.bodyInput) := by
  obtain ⟨hverified, hget, hchecked⟩ := acceptHumanProof_checked h
  obtain ⟨hmatches, hproof⟩ := ProtectOptions.checkPresentation_eq_ok.mp hchecked
  obtain ⟨hpurpose, haudience, hmethod, huri, hdigest, hbinding⟩ :=
    ProtectOptions.assertCurrentMatchesStored_eq_ok.mp hmatches
  obtain ⟨-, -, hsatisfied⟩ := ProtectOptions.verifyHumanProof_eq_ok.mp hproof
  have hsatisfies := evaluateHumanResult_eq_nil.mp hsatisfied
  refine ⟨⟨?_, hrequirements.found htimes.1 hget, hpurpose, haudience, hmethod, huri, hdigest,
    hbinding, hsatisfies⟩, fun issued hissued => ?_⟩
  · rw [ProtectOptions.withVerifier_verify] at hverified
    cases htoken : X424.verifyHumanResultToken runtime verify verifier request.humanProof with
    | error error =>
        rw [htoken] at hverified
        cases hverified
    | ok document =>
        rw [htoken] at hverified
        exact ⟨document, (Except.ok.inj hverified).symm,
          signedResult_of_verified hunforgeable htoken⟩
  · exact sameRequest_iff hhash hissued hcurrent (hsatisfies.requestDigest.trans hdigest)
      (hsatisfies.binding.trans hbinding)

end Acceptance

/-! ## A token for another body -/

namespace HiddenMember

def uri : JsString := js "https://a.example/x"

/-- The digest of the body `{}` under the hash function below. -/
def bodyDigest : JsString :=
  js "sha256:" ++ encodeStrictBase64Url (List.replicate 33 0 ++ utf8 (js "\x7b\x7d"))

def preimage : List UInt8 := utf8 (requestPreimage (js "POST") uri (some bodyDigest))

/-- A hash function without collisions that has 32 bytes for one request. -/
def createHash (bytes : List UInt8) : List UInt8 :=
  if bytes = preimage then List.replicate 32 0 else List.replicate 33 0 ++ bytes

theorem createHash_injective : Function.Injective createHash := by
  intro a b h
  have hlonger : ∀ bytes : List UInt8, List.replicate 32 0 ≠ List.replicate 33 0 ++ bytes := by
    intro bytes heq
    have hlength := congrArg List.length heq
    rw [List.length_append, List.length_replicate, List.length_replicate] at hlength
    omega
  unfold createHash at h
  split_ifs at h with ha hb hb
  · rw [ha, hb]
  · exact absurd h (hlonger b)
  · exact absurd h.symm (hlonger a)
  · exact List.append_cancel_left h

def urls : JsUrls where
  check text := some text
  check_check _ := rfl

def runtime : Runtime := ⟨wholeNumbers, writtenDates, urls⟩

def document : ResultDocument where
  resultId := js "r"
  dependencyId := js "d"
  purpose := js "p"
  audience := js "https://a.example"
  requestDigest := js "sha256:" ++ encodeStrictBase64Url (List.replicate 32 0)
  binding := ⟨.session, js "s"⟩
  providerId := js "world"
  methodId := js "orb"
  descriptorVersion := js "1"
  assuranceLevel := none
  pairwiseHumanId := js "x424_human_a"
  uniquenessScope := ⟨.action, js "a"⟩
  verificationMode := .backend
  proofDigest := js "sha256:47DEQpj8HBSa-_TImW-5JCeuQeRkm5NMpJWZG3hSuFU"
  claim := js "one human"
  nonClaims := [js "identity"]
  verifiedAt := js "1970-01-01T00:00:00.000Z"
  issuedAt := js "1970-01-01T00:00:00.000Z"
  expiresAt := js "1970-01-01T00:05:00.000Z"
  stateReferences := none

theorem document_accepted : document.Accepted writtenDates where
  resultId := ⟨by decide, by decide⟩
  dependencyId := ⟨by decide, by decide⟩
  purpose := ⟨by decide, by decide⟩
  requestDigest := by decide
  binding := ⟨by decide, by decide⟩
  providerId := by decide
  methodId := by decide
  descriptorVersion := ⟨by decide, by decide⟩
  assuranceLevel := nofun
  pairwiseHumanId := by decide
  uniquenessScope := ⟨by decide, by decide⟩
  proofDigest := by decide
  claim := ⟨by decide, by decide⟩
  nonClaims := ⟨⟨by decide, by decide⟩, List.forall_mem_singleton.mpr ⟨by decide, by decide⟩⟩
  verifiedAt := by decide
  issuedAt := by decide
  expiresAt := by decide
  stateReferences := nofun

def signature : List UInt8 := List.replicate 64 7

def message : List UInt8 := utf8 (signingInput runtime (js "k") document)

def signer : ResultSigner :=
  ⟨js "k", fun bytes => if bytes = message then .ok signature else .error ⟨js "refused"⟩⟩

def verify (_ : Unit) (bytes signed : List UInt8) : Bool := bytes == message && signed == signature

def verifier : ResultVerifier Unit := .single (js "k") ()

theorem unforgeable (publicKey : Unit) (bytes signed : List UInt8)
    (h : verify publicKey bytes signed = true) : bytes = message := by
  simp only [verify, Bool.and_eq_true, beq_iff_eq] at h
  exact h.1

theorem signsFor : SignsFor runtime verify verifier signer where
  keyId_ne_nil := by decide
  verified := by
    refine ⟨(), rfl, fun input signed h => ?_⟩
    simp only [signer] at h
    split_ifs at h with hinput
    cases h
    exact ⟨by decide, by simp [verify, hinput]⟩

def token : JsString :=
  signingInput runtime (js "k") document ++ 0x2E :: encodeStrictBase64Url signature

theorem message_signed : signer.sign message = .ok signature := by
  simp only [signer, if_true]

theorem token_signed : signHumanResult runtime document signer = .ok token := by
  have hsign : signer.sign (utf8 (signingInput runtime (js "k") document)) = .ok signature :=
    message_signed
  have hkey : signer.keyId = js "k" := rfl
  simp only [signHumanResult, hkey, hsign, bind, Except.bind, token]

theorem token_verified : verifyHumanResultToken runtime verify verifier token = .ok document := by
  have hread : HumanResultSchema runtime.dates runtime.urls document.toJson = some document :=
    HumanResultSchema_toJson.mpr ⟨document_accepted, _, rfl, by decide, rfl⟩
  have hsize : token.length ≤ 65536 := by decide +kernel
  refine (verifyHumanResultToken_signed signsFor token_signed hsize).trans ?_
  simp only [parseHumanResult, hread]

def result : HumanResult := document.read writtenDates

def requirement : HumanRequirement where
  x424Version := x424Version
  dependencyId := js "d"
  purpose := js "p"
  resource := ⟨js "POST", uri, js "https://a.example", result.requestDigest⟩
  nonce := js "n"
  binding := ⟨.session, js "s"⟩
  createdAt := some 0
  expiresAt := some 600000
  accepts := [⟨js "world", js "orb", js "1", none, [.action], none, none⟩]
  providerRequestKeys := []

def descriptor : HumanMethodDescriptor where
  providerId := js "world"
  methodId := js "orb"
  version := js "1"
  status := .enabled
  claim := js "one human"
  nonClaims := [js "identity"]
  assuranceLevels := []
  nativeScopeKinds := [.action]
  verificationModes := [.backend]

def options : ProtectOptions RequirementEntries (Cells JsString Unit)
    (Cells JsString AcceptedOperation) where
  deploymentProfile := .devLocal
  purpose := js "p"
  audience := js "https://a.example"
  catalog _ := some descriptor
  verifyHumanResultToken _ := .error ⟨js "no verifier"⟩
  requirementStore := inMemoryRequirementStore 10
  replayStore := some inMemoryResultReplayStore
  resultAcceptanceStore := none
  requirementsInMemory := true
  replaysInMemory := true
  acceptancesInMemory := true
  publicOrigin := ⟨js "https://a.example", some (js "https:")⟩
  requireIdempotencyKey := some false

/-- The requirement was issued for the body `{ "__proto__": null }`. -/
def issued : RequestContent :=
  ⟨js "POST", uri, .json (nullMember protoKey), ⟨.session, js "s"⟩⟩

def current : RequestContent := ⟨js "POST", uri, .json (.object []), ⟨.session, js "s"⟩⟩

def request : ProtectedRequest where
  method := js "POST"
  uri := uri
  binding := ⟨.session, js "s"⟩
  bodyDigest := some bodyDigest
  idempotencyKey := none
  humanProof := token

def times : PresentationTimes := ⟨1000, 1000, 1000, 1000⟩

def stores : ResourceStores RequirementEntries (Cells JsString Unit)
    (Cells JsString AcceptedOperation) where
  requirements := Table.empty.put ⟨requirement, none⟩
  replays := Cells.empty
  acceptances := Cells.empty

theorem bodyDigest_object : createHash (utf8 (js "\x7b\x7d")) =
    List.replicate 33 0 ++ utf8 (js "\x7b\x7d") :=
  if_neg (by decide +kernel)

theorem carried : current.Carried wholeNumbers createHash request where
  method := rfl
  uri := rfl
  binding := rfl
  bodyDigest := by
    have htext : canonicalJson wholeNumbers (.object []) = js "\x7b\x7d" := rfl
    simp only [current, bodyDigestFromInput, isContainer, if_true, htext, Canonical.sha256,
      bodyDigest_object]
    rfl
  wellFormed := by
    rintro _ ⟨⟩
    exact .object List.nodup_nil (List.forall_mem_nil _)

theorem requestDigest_result :
    request.digest (textDigest createHash) = result.requestDigest := by
  have hhash : createHash preimage = List.replicate 32 0 := if_pos rfl
  show Canonical.sha256 createHash preimage = _
  rw [Canonical.sha256, hhash]
  rfl

theorem token_accepted : (options.withVerifier runtime verify verifier).verifyHumanResultToken
    request.humanProof = .ok result := by
  have hproof : request.humanProof = token := by simp only [request]
  rw [hproof, ProtectOptions.withVerifier_verify, token_verified]
  simp only [Except.map, result, runtime]

theorem checked : (options.withVerifier runtime verify verifier).checkPresentation request
    (textDigest createHash) requirement times.startedAt = .ok result :=
  ProtectOptions.checkPresentation_eq_ok.mpr
    ⟨ProtectOptions.assertCurrentMatchesStored_eq_ok.mpr
      ⟨rfl, rfl, by decide, rfl, requestDigest_result.symm, rfl⟩,
    ProtectOptions.verifyHumanProof_eq_ok.mpr ⟨rfl, token_accepted, by decide⟩⟩

theorem previewed : (options.withVerifier runtime verify verifier).previewToken request =
    .ok result := by
  have hdev : (options.withVerifier runtime verify verifier).deploymentProfile = .devLocal := rfl
  simp only [ProtectOptions.previewToken, hdev, token_accepted, ne_eq, not_true, false_and,
    and_false, if_false]

theorem spent : ((options.withVerifier runtime verify verifier).spendResult request result
    times.startedAt times.spentAt stores.replays stores.acceptances).1 = .ok () := by
  decide

theorem found : ((options.withVerifier runtime verify verifier).requirementStore.get
    result.dependencyId times.startedAt times.lookedUpAt stores.requirements).1 =
      .ok (some requirement) := by
  decide

theorem accepted : ((options.withVerifier runtime verify verifier).acceptHumanProof
    (textDigest createHash) request times stores).1 = .ok (requirement, result) :=
  acceptHumanProof_of_checked previewed found checked spent (by decide)

theorem answered : issued.Answered wholeNumbers createHash result where
  requestDigest := by
    have htext : canonicalJson wholeNumbers (nullMember protoKey) = js "\x7b\x7d" := rfl
    have hbody : bodyDigestFromInput wholeNumbers createHash issued.bodyInput =
        .ok (some bodyDigest) := by
      have hcontainer : isContainer (nullMember protoKey) = true := rfl
      simp only [issued, bodyDigestFromInput, hcontainer, if_true, htext, Canonical.sha256,
        bodyDigest_object]
      rfl
    rw [Canonical.requestDigest_eq, hbody]
    exact congrArg Except.ok requestDigest_result
  binding := rfl
  wellFormed := by
    rintro _ ⟨⟩
    exact wellFormed_nullMember _

theorem not_same : ¬ issued.Same wholeNumbers createHash current := by
  intro h
  obtain ⟨-, -, hbody, -⟩ := h
  simp only [issued, current] at hbody
  cases hbody with
  | nothing hnone _ => exact hnone
  | json hsame =>
      cases hsame with
      | object hkeys => exact absurd hkeys.length_eq (by decide)

end HiddenMember

theorem acceptance_sound_hiddenMember :
    SoundAcceptance HiddenMember.options HiddenMember.runtime HiddenMember.verifier
        (fun _ bytes => bytes = HiddenMember.message)
        (InMemoryRequirementStore.shown HiddenMember.times.startedAt
          HiddenMember.stores.requirements)
        (textDigest HiddenMember.createHash) HiddenMember.request HiddenMember.times.startedAt
        HiddenMember.requirement HiddenMember.result ∧
      ∀ issued : RequestContent,
        issued.Answered wholeNumbers HiddenMember.createHash HiddenMember.result →
          (issued.Same wholeNumbers HiddenMember.createHash HiddenMember.current ↔
            ¬ HiddenMembers issued.bodyInput HiddenMember.current.bodyInput) :=
  acceptance_sound (.inMemory 10) HiddenMember.unforgeable HiddenMember.createHash_injective
    HiddenMember.carried (by decide) HiddenMember.accepted

/-- The token was issued for another body and is accepted. -/
theorem token_for_another_body :
    ((HiddenMember.options.withVerifier HiddenMember.runtime HiddenMember.verify
        HiddenMember.verifier).acceptHumanProof (textDigest HiddenMember.createHash)
      HiddenMember.request HiddenMember.times HiddenMember.stores).1 =
        .ok (HiddenMember.requirement, HiddenMember.result) ∧
      HiddenMember.current.Carried wholeNumbers HiddenMember.createHash HiddenMember.request ∧
      HiddenMember.issued.Answered wholeNumbers HiddenMember.createHash HiddenMember.result ∧
      ¬ HiddenMember.issued.Same wholeNumbers HiddenMember.createHash HiddenMember.current :=
  ⟨HiddenMember.accepted, HiddenMember.carried, HiddenMember.answered, HiddenMember.not_same⟩

end X424
