import X424.CanonicalLaws
import X424.Middleware.Resource

/-!
# Request digests

`canonical.ts`: the digest that ties a requirement to one HTTP request.  The
hash function and the Unicode case mapping of `toUpperCase` are parameters.
-/

namespace X424.Canonical

/-- `value` is plain JSON; the code refuses everything else. -/
inductive RequestBodyDigestInput where
  | absent
  | empty
  | json (value : Json)
  | opaqueBytes (bytes : List UInt8)
  | precomputed (bodyDigest : JsString)
  | stream

/-- `typeof value === "object"`, and not `null`. -/
def isContainer : Json → Bool
  | .array _ => true
  | .object _ => true
  | _ => false

section Digest

variable (numbers : JsNumbers) (createHash : List UInt8 → List UInt8) (upper : JsString → JsString)

def sha256 (bytes : List UInt8) : JsString :=
  js "sha256:" ++ encodeStrictBase64Url (createHash bytes)

def bodyDigestFromInput : RequestBodyDigestInput → Except JsError (Option JsString)
  | .absent => .ok none
  | .empty => .ok none
  | .json value =>
      if isContainer value then .ok (some (sha256 createHash (utf8 (canonicalJson numbers value))))
      else .error ⟨js "json bodyInput requires a plain JSON object or array"⟩
  | .opaqueBytes bytes => if bytes = [] then .ok none else .ok (some (sha256 createHash bytes))
  | .precomputed bodyDigest => (assertSha256Digest bodyDigest).map some
  | .stream => .error ⟨js "Streamed bodies require a precomputed bodyDigest (fail closed)"⟩

def textOrNull : Option JsString → Json
  | none => .null
  | some text => .string text

def requestObject (method uri : JsString) (bodyDigest : Option JsString) : Json :=
  .object [(js "method", .string method), (js "uri", .string uri),
    (js "bodyDigest", textOrNull bodyDigest)]

def requestDigest (method uri : JsString) (bodyInput : RequestBodyDigestInput) :
    Except JsError JsString := do
  let bodyDigest ← bodyDigestFromInput numbers createHash bodyInput
  return sha256 createHash
    (utf8 (canonicalJson numbers (requestObject (upper method) uri bodyDigest)))

end Digest

/-! ## What a digest tells -/

section Binding

variable {numbers : JsNumbers} {createHash : List UInt8 → List UInt8} {upper : JsString → JsString}

theorem normalize_requestObject (method uri : JsString) (bodyDigest : Option JsString) :
    normalize (requestObject method uri bodyDigest) =
      .object [(js "bodyDigest", textOrNull bodyDigest), (js "method", .string method),
        (js "uri", .string uri)] := by
  cases bodyDigest <;> rfl

theorem canonicalJson_requestObject (method uri : JsString) (bodyDigest : Option JsString) :
    canonicalJson numbers (requestObject (toUpperCase method) uri bodyDigest) =
      requestPreimage method uri bodyDigest := by
  have hbodyDigest : quote (js "bodyDigest") = js "\"bodyDigest\"" := by decide
  have hmethod : quote (js "method") = js "\"method\"" := by decide
  have huri : quote (js "uri") = js "\"uri\"" := by decide
  have htext : stringify numbers (textOrNull bodyDigest) = quoteOrNull bodyDigest := by
    cases bodyDigest <;> rfl
  rw [canonicalJson, normalize_requestObject]
  simp only [stringify, stringifyMembers, closeWith, hbodyDigest, hmethod, huri, htext,
    requestPreimage, List.append_assoc, List.cons_append]
  rfl

theorem requestDigest_eq (method uri : JsString) (bodyInput : RequestBodyDigestInput) :
    requestDigest numbers createHash toUpperCase method uri bodyInput =
      (bodyDigestFromInput numbers createHash bodyInput).map
        (X424.requestDigest (fun text => sha256 createHash (utf8 text)) method uri) := by
  unfold requestDigest
  cases bodyDigestFromInput numbers createHash bodyInput with
  | error e => rfl
  | ok bodyDigest =>
      simp only [bind, Except.bind, pure, Except.pure, Except.map, X424.requestDigest,
        canonicalJson_requestObject]

theorem sha256_injective (h : Function.Injective createHash) :
    Function.Injective (sha256 createHash) := by
  intro a b hab
  exact h (encodeStrictBase64Url_injective (List.append_cancel_left hab))

theorem sha256_canonicalJson_inj (h : Function.Injective createHash) {a b : Json}
    (ha : a.WellFormed numbers) (hb : b.WellFormed numbers) :
    sha256 createHash (utf8 (canonicalJson numbers a)) =
      sha256 createHash (utf8 (canonicalJson numbers b)) ↔
        canonicalJson numbers a = canonicalJson numbers b := by
  rw [(sha256_injective h).eq_iff]
  exact ⟨utf8_injective (isText_stringify (wellFormed_normalize ha))
    (isText_stringify (wellFormed_normalize hb)), congrArg utf8⟩

theorem wellFormed_requestObject (method uri : JsString) (bodyDigest : Option JsString) :
    (requestObject method uri bodyDigest).WellFormed numbers := by
  refine .object (show [js "method", js "uri", js "bodyDigest"].Nodup by decide)
    fun member hmember => ?_
  simp only [List.mem_cons, List.not_mem_nil, or_false] at hmember
  rcases hmember with rfl | rfl | rfl
  · exact .string _
  · exact .string _
  · cases bodyDigest with
    | none => exact .null
    | some text => exact .string text

theorem canonicalJson_requestObject_inj {method method' uri uri' : JsString}
    {bodyDigest bodyDigest' : Option JsString} :
    canonicalJson numbers (requestObject method uri bodyDigest) =
      canonicalJson numbers (requestObject method' uri' bodyDigest') ↔
        method = method' ∧ uri = uri' ∧ bodyDigest = bodyDigest' := by
  constructor
  · intro h
    have hnormal := stringify_injective (wellFormed_normalize (wellFormed_requestObject ..))
      (wellFormed_normalize (wellFormed_requestObject ..)) h
    rw [normalize_requestObject, normalize_requestObject] at hnormal
    cases bodyDigest <;> cases bodyDigest' <;> simp_all [textOrNull]
  · rintro ⟨rfl, rfl, rfl⟩
    rfl

theorem requestDigest_json (method uri : JsString) {body : Json} (h : isContainer body) :
    requestDigest numbers createHash upper method uri (.json body) =
      .ok (sha256 createHash (utf8 (canonicalJson numbers (requestObject (upper method) uri
        (some (sha256 createHash (utf8 (canonicalJson numbers body)))))))) := by
  simp only [requestDigest, bodyDigestFromInput, h, if_true, bind, Except.bind, pure, Except.pure]

/-- One digest means one method, one URI and one body up to members named
`__proto__`. -/
theorem requestDigest_json_inj (hhash : Function.Injective createHash)
    {method method' uri uri' : JsString} {body body' : Json} (hbody : body.WellFormed numbers)
    (hbody' : body'.WellFormed numbers) (hcontainer : isContainer body)
    (hcontainer' : isContainer body') :
    requestDigest numbers createHash upper method uri (.json body) =
      requestDigest numbers createHash upper method' uri' (.json body') ↔
        upper method = upper method' ∧ uri = uri' ∧
          body.withoutProto.Same body'.withoutProto := by
  rw [requestDigest_json _ _ hcontainer, requestDigest_json _ _ hcontainer', Except.ok.injEq,
    sha256_canonicalJson_inj hhash (wellFormed_requestObject ..) (wellFormed_requestObject ..),
    canonicalJson_requestObject_inj, Option.some.injEq,
    sha256_canonicalJson_inj hhash hbody hbody', canonicalJson_eq_iff hbody hbody']

/-- A digest tells two requests with JSON bodies apart, except when the bodies
differ in nothing but members named `__proto__`. -/
theorem digest_binds_json_iff (hhash : Function.Injective createHash)
    {method method' uri uri' : JsString} {body body' : Json} (hbody : body.WellFormed numbers)
    (hbody' : body'.WellFormed numbers) (hcontainer : isContainer body)
    (hcontainer' : isContainer body') :
    (requestDigest numbers createHash upper method uri (.json body) =
        requestDigest numbers createHash upper method' uri' (.json body') ↔
      upper method = upper method' ∧ uri = uri' ∧ body.Same body') ↔
    ¬ (upper method = upper method' ∧ uri = uri' ∧ ¬ body.Same body' ∧
      body.withoutProto.Same body'.withoutProto) := by
  rw [requestDigest_json_inj hhash hbody hbody' hcontainer hcontainer']
  have hdropped : body.Same body' → body.withoutProto.Same body'.withoutProto :=
    Json.Same.withoutProto
  tauto

/-- `{ [key]: null }`. -/
def nullMember (key : JsString) : Json := .object [(key, .null)]

theorem wellFormed_nullMember (key : JsString) : (nullMember key).WellFormed numbers :=
  .object (List.nodup_singleton key) fun member hmember => by
    rw [List.mem_singleton.mp hmember]
    exact .null

theorem digest_binds_nullMember :
    (requestDigest wholeNumbers id toUpperCase (js "post") (js "/") (.json (nullMember (js "a"))) =
        requestDigest wholeNumbers id toUpperCase (js "POST") (js "/")
          (.json (nullMember (js "b"))) ↔
      toUpperCase (js "post") = toUpperCase (js "POST") ∧ js "/" = js "/" ∧
        (nullMember (js "a")).Same (nullMember (js "b"))) ↔
    ¬ (toUpperCase (js "post") = toUpperCase (js "POST") ∧ js "/" = js "/" ∧
      ¬ (nullMember (js "a")).Same (nullMember (js "b")) ∧
      (nullMember (js "a")).withoutProto.Same (nullMember (js "b")).withoutProto) :=
  digest_binds_json_iff Function.injective_id (wellFormed_nullMember _) (wellFormed_nullMember _)
    rfl rfl

/-- The bodies `{ "__proto__": null }` and `{}` have one digest. -/
theorem digest_ignores_proto :
    (nullMember protoKey).WellFormed wholeNumbers ∧ (Json.object []).WellFormed wholeNumbers ∧
      requestDigest wholeNumbers id toUpperCase (js "POST") (js "/") (.json (nullMember protoKey)) =
        requestDigest wholeNumbers id toUpperCase (js "POST") (js "/") (.json (.object [])) ∧
      ¬ (nullMember protoKey).Same (.object []) := by
  refine ⟨wellFormed_nullMember protoKey, .object List.nodup_nil ?_, ?_, fun h => ?_⟩
  · exact List.forall_mem_nil _
  · rw [requestDigest_json _ _ rfl, requestDigest_json _ _ rfl]
    rfl
  · cases h with
    | object hkeys => exact absurd hkeys.length_eq (by decide)

end Binding

end X424.Canonical
