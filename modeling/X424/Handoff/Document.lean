import X424.Handoff.Record
import X424.Schemas.Documents

/-!
# Durable handoff state

The JSON that the Redis and PostgreSQL stores keep of a record, and
`parseStoredHumanHandoff`, which every read of theirs goes through.
-/

namespace X424

open Foundation

/-! ## Writing -/

def HandoffStatus.text : HandoffStatus → JsString
  | .pending => js "pending"
  | .polling => js "polling"
  | .completed => js "completed"
  | .failed => js "failed"
  | .expired => js "expired"
  | .cancelled => js "cancelled"

def handoffStatuses : List JsString :=
  [HandoffStatus.pending, .polling, .completed, .failed, .expired, .cancelled].map
    HandoffStatus.text

inductive PresentationField where
  | kind
  | uri
  | userCode
  deriving DecidableEq

def presentationShape : ObjectShape PresentationField where
  fields := [.kind, .uri, .userCode]
  name
    | .kind => js "kind"
    | .uri => js "uri"
    | .userCode => js "userCode"
  complete := by rintro (_ | _) <;> decide
  sorted := by decide
  name_ne_proto := by rintro (_ | _) <;> decide

def HumanHandoffPresentation.toJson (presentation : HumanHandoffPresentation) : Json :=
  presentationShape.ofFields fun
    | .kind => some (.string (js "uri"))
    | .uri => some (.string presentation.uri)
    | .userCode => presentation.userCode.map .string

inductive HandoffField where
  | accessTokenDigest
  | dependencyId
  | expiresAt
  | failureCode
  | handoffId
  | methodId
  | pollAfterMs
  | pollClaimExpiresAt
  | presentation
  | protectedCompletion
  | protectedState
  | providerId
  | status
  | version
  deriving DecidableEq

def handoffShape : ObjectShape HandoffField where
  fields := [.accessTokenDigest, .dependencyId, .expiresAt, .failureCode, .handoffId, .methodId,
    .pollAfterMs, .pollClaimExpiresAt, .presentation, .protectedCompletion, .protectedState,
    .providerId, .status, .version]
  name
    | .accessTokenDigest => js "accessTokenDigest"
    | .dependencyId => js "dependencyId"
    | .expiresAt => js "expiresAt"
    | .failureCode => js "failureCode"
    | .handoffId => js "handoffId"
    | .methodId => js "methodId"
    | .pollAfterMs => js "pollAfterMs"
    | .pollClaimExpiresAt => js "pollClaimExpiresAt"
    | .presentation => js "presentation"
    | .protectedCompletion => js "protectedCompletion"
    | .protectedState => js "protectedState"
    | .providerId => js "providerId"
    | .status => js "status"
    | .version => js "version"
  complete := by rintro (_ | _) <;> decide
  sorted := by decide
  name_ne_proto := by rintro (_ | _) <;> decide

namespace StoredHumanHandoff

def fieldValue (record : StoredHumanHandoff) (pollAfterMs : ℚ) : HandoffField → Option Json
  | .accessTokenDigest => some (.string record.accessTokenDigest)
  | .dependencyId => some (.string record.dependencyId)
  | .expiresAt => some (.string (dateText record.expiresAt))
  | .failureCode => record.failureCode.map .string
  | .handoffId => some (.string record.handoffId)
  | .methodId => some (.string record.methodId)
  | .pollAfterMs => some (.number pollAfterMs)
  | .pollClaimExpiresAt => record.pollClaimExpiresAt.map fun lease => .string (dateText lease)
  | .presentation => some record.presentation.toJson
  | .protectedCompletion => record.protectedCompletion.map .string
  | .protectedState => some (.string record.protectedState)
  | .providerId => some (.string record.providerId)
  | .status => some (.string record.status.text)
  | .version => some (.number record.version)

def toJson (record : StoredHumanHandoff) (pollAfterMs : ℚ) : Json :=
  handoffShape.ofFields (record.fieldValue pollAfterMs)

/-- `canonicalJson(record)`. -/
def canonicalText (numbers : JsNumbers) (record : StoredHumanHandoff) : Except JsError JsString :=
  match record.pollAfterMs with
  | none => .error ⟨js "Non-finite JSON number"⟩
  | some pollAfterMs => .ok (X424.canonicalJson numbers (record.toJson pollAfterMs))

end StoredHumanHandoff

/-! ## Reading -/

section Reading

variable (numbers : JsNumbers) (dates : JsDates)

mutual

/-- `String(value)`. -/
def stringOf : Json → JsString
  | .null => js "null"
  | .bool true => js "true"
  | .bool false => js "false"
  | .number value => numbers.write value
  | .string value => value
  | .array items => [0x2C].intercalate (itemTexts items)
  | .object _ => js "[object Object]"

/-- The elements as `join` writes them. -/
def itemTexts : List Json → List JsString
  | [] => []
  | .null :: items => [] :: itemTexts items
  | item :: items => stringOf item :: itemTexts items

end

/-- `typeof value === "string"`. -/
def isString : Option Json → Bool
  | some (.string _) => true
  | _ => false

/-- A whole number with these bounds; `Number.isInteger` is among the checks. -/
def isIntegerIn (minimum : ℚ) (maximum : Option ℚ) : Option Json → Bool
  | some (.number value) =>
      decide (value.den = 1) && decide (minimum ≤ value) &&
        maximum.all fun maximum => decide (value ≤ maximum)
  | _ => false

/-- `Number.isFinite(Date.parse(value))`. -/
def isParsedDate (value : Json) : Bool := (dates.parse (stringOf numbers value)).isSome

def durableHandoffValid (parsed : Json) : Bool :=
  let field := fun name => memberOf (js name) parsed
  isString (field "handoffId") &&
    isString (field "dependencyId") &&
    isString (field "providerId") &&
    isString (field "methodId") &&
    isString (field "accessTokenDigest") &&
    (match field "status" with
      | some (.string status) => handoffStatuses.contains status
      | _ => false) &&
    (match (field "presentation").bind (memberOf (js "kind")) with
      | some (.string kind) => kind == js "uri"
      | _ => false) &&
    isString ((field "presentation").bind (memberOf (js "uri"))) &&
    isString (field "protectedState") &&
    isIntegerIn 500 (some 10000) (field "pollAfterMs") &&
    isString (field "expiresAt") &&
    (field "expiresAt").any (isParsedDate numbers dates) &&
    isIntegerIn 1 none (field "version") &&
    (field "pollClaimExpiresAt").all (isParsedDate numbers dates)

/-- `parseStoredHumanHandoff` of a text; it returns what `JSON.parse` gives. -/
def parseDurableHandoff (value : JsString) : Except JsError Json :=
  match jsonParse numbers value with
  | none => .error ⟨js "Unexpected token in JSON"⟩
  | some parsed =>
      if durableHandoffValid numbers dates parsed then .ok parsed
      else .error ⟨js "Invalid durable handoff state"⟩

end Reading

/-! ## Round trips -/

section RoundTrip

variable {numbers : JsNumbers} {dates : JsDates}

variable (numbers dates) in
/-- The record can be written, its text is accepted, and the reader has the record again. -/
def StoredHumanHandoff.RoundTrips (record : StoredHumanHandoff) : Prop :=
  ∃ pollAfterMs text, record.pollAfterMs = some pollAfterMs ∧
    record.canonicalText numbers = .ok text ∧
    parseDurableHandoff numbers dates text = .ok (record.toJson pollAfterMs)

/-- The times are those of dates, and the numbers can be held. -/
structure StoredHumanHandoff.Representable (numbers : JsNumbers) (record : StoredHumanHandoff) :
    Prop where
  expiresAt : IsDate record.expiresAt
  pollClaimExpiresAt : ∀ lease ∈ record.pollClaimExpiresAt, IsDate lease
  pollAfterMs : ∀ pollAfterMs ∈ record.pollAfterMs, numbers.IsDouble pollAfterMs
  version : record.version ≤ 2 ^ 53

theorem canonical_presentation (presentation : HumanHandoffPresentation) :
    presentation.toJson.Canonical numbers := by
  refine canonical_ofFields fun k value hvalue => ?_
  cases k with
  | kind | uri =>
      cases hvalue
      exact canonical_string _
  | userCode =>
      obtain ⟨text, -, rfl⟩ := Option.map_eq_some_iff.mp hvalue
      exact canonical_string text

theorem StoredHumanHandoff.Representable.canonical {record : StoredHumanHandoff}
    (h : record.Representable numbers) {pollAfterMs : ℚ}
    (hpoll : record.pollAfterMs = some pollAfterMs) :
    (record.toJson pollAfterMs).Canonical numbers := by
  refine canonical_ofFields fun k value hvalue => ?_
  cases k with
  | accessTokenDigest | dependencyId | expiresAt | handoffId | methodId | protectedState |
      providerId | status =>
      cases hvalue
      exact canonical_string _
  | failureCode | pollClaimExpiresAt | protectedCompletion =>
      obtain ⟨text, -, rfl⟩ := Option.map_eq_some_iff.mp hvalue
      exact canonical_string _
  | pollAfterMs =>
      cases hvalue
      exact ⟨.number (h.pollAfterMs _ hpoll), rfl⟩
  | presentation =>
      cases hvalue
      exact canonical_presentation _
  | version =>
      cases hvalue
      exact canonical_number h.version

theorem isParsedDate_dateText {time : Instant} (h : IsDate time) :
    isParsedDate numbers dates (.string (dateText time)) = true := by
  rw [isParsedDate, stringOf, dates.parse_dateText _ h]
  rfl

theorem memberOf_toJson (record : StoredHumanHandoff) (pollAfterMs : ℚ) (k : HandoffField) :
    memberOf (handoffShape.name k) (record.toJson pollAfterMs) = record.fieldValue pollAfterMs k :=
  memberOf_ofFields (record.fieldValue pollAfterMs) k

theorem durableHandoffValid_toJson {record : StoredHumanHandoff}
    (h : record.Representable numbers) (pollAfterMs : ℚ) :
    durableHandoffValid numbers dates (record.toJson pollAfterMs) = true ↔
      isIntegerIn 500 (some 10000) (some (.number pollAfterMs)) = true ∧
        isIntegerIn 1 none (some (.number record.version)) = true := by
  have hfield := fun k => memberOf_toJson record pollAfterMs k
  have hstatus : handoffStatuses.contains record.status.text = true := by
    cases record.status <;> decide
  have hkind : memberOf (js "kind") record.presentation.toJson = some (.string (js "uri")) :=
    @memberOf_ofFields _ presentationShape _ .kind
  have huri : memberOf (js "uri") record.presentation.toJson =
      some (.string record.presentation.uri) :=
    @memberOf_ofFields _ presentationShape _ .uri
  have hlease : (record.fieldValue pollAfterMs .pollClaimExpiresAt).all
      (isParsedDate numbers dates) = true := by
    cases hclaim : record.pollClaimExpiresAt with
    | none => simp [StoredHumanHandoff.fieldValue, hclaim]
    | some lease =>
        simp [StoredHumanHandoff.fieldValue, hclaim,
          isParsedDate_dateText (h.pollClaimExpiresAt lease hclaim)]
  unfold durableHandoffValid
  simp only [show memberOf (js "handoffId") (record.toJson pollAfterMs) = _ from hfield .handoffId,
    show memberOf (js "dependencyId") (record.toJson pollAfterMs) = _ from hfield .dependencyId,
    show memberOf (js "providerId") (record.toJson pollAfterMs) = _ from hfield .providerId,
    show memberOf (js "methodId") (record.toJson pollAfterMs) = _ from hfield .methodId,
    show memberOf (js "accessTokenDigest") (record.toJson pollAfterMs) = _ from
      hfield .accessTokenDigest,
    show memberOf (js "status") (record.toJson pollAfterMs) = _ from hfield .status,
    show memberOf (js "presentation") (record.toJson pollAfterMs) = _ from hfield .presentation,
    show memberOf (js "protectedState") (record.toJson pollAfterMs) = _ from
      hfield .protectedState,
    show memberOf (js "pollAfterMs") (record.toJson pollAfterMs) = _ from hfield .pollAfterMs,
    show memberOf (js "expiresAt") (record.toJson pollAfterMs) = _ from hfield .expiresAt,
    show memberOf (js "version") (record.toJson pollAfterMs) = _ from hfield .version,
    show memberOf (js "pollClaimExpiresAt") (record.toJson pollAfterMs) = _ from
      hfield .pollClaimExpiresAt, hlease]
  simp only [StoredHumanHandoff.fieldValue, isString, Option.bind_some, hkind, huri, hstatus,
    Option.any_some, isParsedDate_dateText h.expiresAt, beq_self_eq_true, Bool.true_and,
    Bool.and_true, Bool.and_eq_true]

theorem roundTrips_iff {record : StoredHumanHandoff} (h : record.Representable numbers) :
    record.RoundTrips numbers dates ↔ parseStoredHumanHandoff record = .ok record := by
  have hread : ∀ pollAfterMs, record.pollAfterMs = some pollAfterMs →
      (parseDurableHandoff numbers dates
          (X424.canonicalJson numbers (record.toJson pollAfterMs)) =
            .ok (record.toJson pollAfterMs) ↔
        parseStoredHumanHandoff record = .ok record) := by
    intro pollAfterMs hpoll
    have hcanonical := h.canonical hpoll
    rw [parseDurableHandoff, X424.canonicalJson, hcanonical.normalized,
      jsonParse_stringify hcanonical.wellFormed, parseStoredHumanHandoff, hpoll]
    have hvalid := @durableHandoffValid_toJson _ dates _ h pollAfterMs
    have hversion : isIntegerIn 1 none (some (.number record.version)) = true ↔
        1 ≤ record.version := by
      simp [isIntegerIn]
    rw [hversion] at hvalid
    simp only [isIntegerIn, Option.all_some, Bool.and_eq_true, decide_eq_true_eq] at hvalid
    by_cases hbad : pollAfterMs.den ≠ 1 ∨ pollAfterMs < 500 ∨ 10000 < pollAfterMs ∨
        record.version < 1
    · have hinvalid : durableHandoffValid numbers dates (record.toJson pollAfterMs) ≠ true := by
        rw [Ne, hvalid]
        rintro ⟨⟨⟨hden, hlow⟩, hhigh⟩, hfirst⟩
        rcases hbad with hbad | hbad | hbad | hbad
        · exact hbad hden
        · exact absurd hlow (not_le.mpr hbad)
        · exact absurd hhigh (not_le.mpr hbad)
        · omega
      simp only [if_pos hbad, if_neg hinvalid, reduceCtorEq]
    · have haccepted : durableHandoffValid numbers dates (record.toJson pollAfterMs) = true := by
        simp only [not_or, not_not, not_lt] at hbad
        exact hvalid.mpr ⟨⟨⟨hbad.1, hbad.2.1⟩, hbad.2.2.1⟩, hbad.2.2.2⟩
      simp only [if_neg hbad, if_pos haccepted]
  unfold StoredHumanHandoff.RoundTrips StoredHumanHandoff.canonicalText
  cases hpoll : record.pollAfterMs with
  | none =>
      have hrefused : parseStoredHumanHandoff record ≠ .ok record := by
        simp [parseStoredHumanHandoff, hpoll]
      simp [hrefused]
  | some pollAfterMs =>
      rw [← hread pollAfterMs hpoll]
      constructor
      · rintro ⟨q, text, hq, htext, hparsed⟩
        cases hq
        cases htext
        exact hparsed
      · exact fun hparsed => ⟨pollAfterMs, _, rfl, rfl, hparsed⟩

end RoundTrip

end X424
