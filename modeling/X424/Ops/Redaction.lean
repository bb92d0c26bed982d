import X424.Js.Json

/-!
# Redaction of telemetry

`redactForTelemetry` of `ops/redaction.ts` rewrites a value before it is
logged: what stands under a sensitive key, the message of an error and long or
suspicious strings are replaced, long arrays and deep values are cut.  Two
values that differ only behind a sensitive key or inside errors of one name are
logged alike.
-/

namespace X424

/--
A value as the redaction looks at it: the own enumerable members of an object
in the order of `Object.entries`, the name of an error and its other fields.
The primitives other than strings stay abstract, with them functions and the
holes of arrays.
-/
inductive JsValue (π : Type) where
  | primitive (value : π)
  | string (value : JsString)
  | error (name : JsString) (fields : List (JsString × JsValue π))
  | array (items : List (JsValue π))
  | object (members : List (JsString × JsValue π))

/-! ## Sensitive keys -/

def sequenceTexts : List (List String) → List JsString
  | [] => [[]]
  | choices :: rest =>
      choices.flatMap fun choice => (sequenceTexts rest).map (js choice ++ ·)

def SENSITIVE_KEY : List (List (List String)) := [
  [["native"], ["", "_"], ["proof"]], [["nativeProof"]],
  [["human"], ["", "_"], ["proof"]], [["humanProof"]],
  [["proof"]],
  [["nullifier"], ["", "hash", "_hash"]],
  [["provider"], ["", "_"], ["subject"]], [["providerSubject"]],
  [["provider"], ["", "_"], ["session"]], [["providerSession"]],
  [["pairwise"], ["", "_"], ["secret"]], [["pairwiseSecret"]],
  [["private"], ["", "_"], ["key"]], [["privateKey"]],
  [["signing"], ["", "_"], ["key"], ["", "hex", "_hex"]], [["signingKey"], ["", "Hex"]],
  [["signal"]],
  [["merkle"], ["", "_"], ["root"]],
  [["credential"], ["", "_"], ["type"]],
  [["authorization"]], [["bearer"]], [["token"]],
  [["access"], ["", "_"], ["token"], ["", "digest", "_digest"]],
  [["accessToken"], ["", "Digest"]],
  [["connector"], ["", "_"], ["uri"]], [["connectorUri"]],
  [["presentation"]],
  [["protected"], ["", "_"], ["state"]], [["protectedState"]],
  [["protected"], ["", "_"], ["completion"]], [["protectedCompletion"]],
  [["secret"]], [["password"]], [["seed"]]]

def normalizeKey (key : JsString) : JsString :=
  toLowerCase (key.filter fun u => !(u == 0x2D || u == 0x5F))

def sensitiveNormalizedKeys : List String := [
  "nativeproof", "humanproof", "proof", "nullifier", "nullifierhash", "providersubject",
  "providersession", "pairwisesecret", "privatekey", "signingkey", "signingkeyhex", "signal",
  "merkleroot", "authorization", "token", "accesstoken", "accesstokendigest", "connectoruri",
  "presentation", "protectedstate", "protectedcompletion", "secret"]

def keyIsSensitive (key : JsString) : Bool :=
  SENSITIVE_KEY.any (fun alternative =>
    (sequenceTexts alternative).any fun text => asciiLower text == asciiLower key) ||
  sensitiveNormalizedKeys.any fun text => js text == normalizeKey key

/-! ## Suspicious strings -/

def startsWithCase (literal : String) (text : JsString) : Bool :=
  (js literal).isPrefixOf (asciiLower text)

/-- `first.?second` at the start of a text; the dot is no line terminator. -/
def startsWithGap (first second : String) (text : JsString) : Bool :=
  startsWithCase first text &&
    let rest := text.drop (js first).length
    startsWithCase second rest ||
      match rest with
      | [] => false
      | gap :: rest =>
          !(gap == 0x0A || gap == 0x0D || gap == 0x2028 || gap == 0x2029) &&
            startsWithCase second rest

/-- `[a-z0-9._-]` with the flag `i`. -/
def isBearerUnit (u : UInt16) : Bool := isBase64UrlUnit u || u == 0x2E

/-- `bearer\s+[a-z0-9._-]+` at the start of a text. -/
def startsWithBearer (text : JsString) : Bool :=
  startsWithCase "bearer" text &&
    let rest := text.drop (js "bearer").length
    rest.head?.any isTrimmed && (rest.dropWhile isTrimmed).head?.any isBearerUnit

def sensitiveLiterals : List String := [
  "nullifier", "nativeproof", "native_proof", "humanproof", "human_proof", "pairwisesecret",
  "signingkey"]

/-- `SENSITIVE_SUBSTRING.test(text)`. -/
def hasSensitiveSubstring (text : JsString) : Bool :=
  text.tails.any fun rest =>
    sensitiveLiterals.any (startsWithCase · rest) || startsWithGap "private" "key" rest ||
      startsWithGap "access" "token" rest || startsWithGap "connector" "uri" rest ||
      startsWithBearer rest

/-! ## Redaction -/

def redactString (value : JsString) : JsString :=
  if hasSensitiveSubstring value || decide (256 < value.length) then
    js "[redacted-string:" ++ writeWhole value.length ++ js "]"
  else value

section Redact

variable {π : Type}

mutual

def redactForTelemetry : JsValue π → Nat → JsValue π
  | value, depth =>
      if 6 < depth then .string (js "[truncated]")
      else
        match value with
        | .error name _ =>
            .object [(js "name", .string name),
              (js "message", .string (js "[redacted-error-message]"))]
        | .string value => .string (redactString value)
        | .primitive value => .primitive value
        | .array items => .array (redactItems items 20 depth)
        | .object members => .object (redactMembers members depth)

/-- `value.slice(0, count).map(…)`. -/
def redactItems : List (JsValue π) → Nat → Nat → List (JsValue π)
  | [], _, _ => []
  | _ :: _, 0, _ => []
  | item :: items, count + 1, depth =>
      redactForTelemetry item (depth + 1) :: redactItems items count depth

def redactMembers : List (JsString × JsValue π) → Nat → List (JsString × JsValue π)
  | [], _ => []
  | (key, child) :: members, depth =>
      (if keyIsSensitive key then (key, .string (js "[redacted]"))
        else (key, redactForTelemetry child (depth + 1))) :: redactMembers members depth

end

/-! ## Noninterference -/

mutual

/--
The two values differ at most in what stands under sensitive keys and in the
fields of errors other than the name.
-/
inductive LoggedAlike : JsValue π → JsValue π → Prop
  | primitive (value : π) : LoggedAlike (.primitive value) (.primitive value)
  | string (value : JsString) : LoggedAlike (.string value) (.string value)
  | error (name : JsString) (fields others : List (JsString × JsValue π)) :
      LoggedAlike (.error name fields) (.error name others)
  | array {items others : List (JsValue π)} (h : ItemsAlike items others) :
      LoggedAlike (.array items) (.array others)
  | object {members others : List (JsString × JsValue π)} (h : MembersAlike members others) :
      LoggedAlike (.object members) (.object others)

inductive ItemsAlike : List (JsValue π) → List (JsValue π) → Prop
  | nil : ItemsAlike [] []
  | cons {item other : JsValue π} {items others : List (JsValue π)}
      (hitem : LoggedAlike item other) (hrest : ItemsAlike items others) :
      ItemsAlike (item :: items) (other :: others)

inductive MembersAlike : List (JsString × JsValue π) → List (JsString × JsValue π) → Prop
  | nil : MembersAlike [] []
  | sensitive {key : JsString} (child other : JsValue π)
      {members others : List (JsString × JsValue π)} (hkey : keyIsSensitive key = true)
      (hrest : MembersAlike members others) :
      MembersAlike ((key, child) :: members) ((key, other) :: others)
  | cons (key : JsString) {child other : JsValue π}
      {members others : List (JsString × JsValue π)} (hchild : LoggedAlike child other)
      (hrest : MembersAlike members others) :
      MembersAlike ((key, child) :: members) ((key, other) :: others)

end

mutual

theorem redactForTelemetry_congr {value other : JsValue π} (h : LoggedAlike value other)
    (depth : Nat) : redactForTelemetry value depth = redactForTelemetry other depth := by
  rw [redactForTelemetry.eq_def value, redactForTelemetry.eq_def other]
  cases h with
  | primitive value => rfl
  | string value => rfl
  | error name fields others => rfl
  | array h => simp only [redactItems_congr h]
  | object h => simp only [redactMembers_congr h]

theorem redactItems_congr {items others : List (JsValue π)} (h : ItemsAlike items others)
    (count depth : Nat) : redactItems items count depth = redactItems others count depth := by
  cases h with
  | nil => rfl
  | cons hitem hrest =>
      cases count with
      | zero => rfl
      | succ count =>
          rw [redactItems, redactItems, redactForTelemetry_congr hitem,
            redactItems_congr hrest]

theorem redactMembers_congr {members others : List (JsString × JsValue π)}
    (h : MembersAlike members others) (depth : Nat) :
    redactMembers members depth = redactMembers others depth := by
  cases h with
  | nil => rfl
  | sensitive child other hkey hrest =>
      rw [redactMembers, redactMembers, if_pos hkey, if_pos hkey, redactMembers_congr hrest]
  | cons key hchild hrest =>
      rw [redactMembers, redactMembers, redactForTelemetry_congr hchild,
        redactMembers_congr hrest]

end

/-- Nothing behind a sensitive key and nothing of an error but its name shows in what is logged. -/
theorem redactForTelemetry_noninterfering (value other : JsValue π)
    (h : LoggedAlike value other) (depth : Nat) :
    redactForTelemetry value depth = redactForTelemetry other depth :=
  redactForTelemetry_congr h depth

end Redact

def failedRequest (token message : JsString) : JsValue Unit :=
  .object [(js "id", .string (js "request-1")),
    (js "attempts", .array [.object [
      (js "Access-Token", .object [(js "value", .string token)]),
      (js "cause", .error (js "TypeError") [(js "message", .string message)])]])]

theorem redactForTelemetry_noninterfering_failedRequest :
    redactForTelemetry (failedRequest (js "one") (js "first")) 0 =
      redactForTelemetry (failedRequest (js "another") (js "second")) 0 := by
  apply redactForTelemetry_noninterfering
  have hkey : keyIsSensitive (js "Access-Token") = true := by decide
  apply LoggedAlike.object
  apply MembersAlike.cons _ (.string _)
  apply MembersAlike.cons _ (.array _) .nil
  apply ItemsAlike.cons (.object _) .nil
  apply MembersAlike.sensitive _ _ hkey
  exact .cons _ (.error _ _ _) .nil

end X424
