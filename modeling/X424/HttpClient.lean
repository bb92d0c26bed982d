import X424.CanonicalLaws

/-!
# Headers

`transport.ts` and the first half of `http-client.ts`: a value travels in a
header as the base64url form of its canonical JSON.
-/

namespace X424

/-! ## Sizes -/

/-- `X424_HEADER_ABSOLUTE_MAX_BYTES`. -/
def headerAbsoluteMaxBytes : Nat := 65536

/-- `X424_HEADER_INTEROP_ENVELOPE_BYTES`. -/
def headerInteropEnvelopeBytes : Nat := 8192

inductive X424RequirementTransportMode where
  | header
  | body
  deriving DecidableEq, Repr

def encodedHeaderByteLength (encoded : JsString) : Nat := (utf8 encoded).length

def selectRequirementTransportMode (encodedHeaderLength : Nat) :
    Except JsError X424RequirementTransportMode :=
  if headerAbsoluteMaxBytes < encodedHeaderLength then
    .error ⟨js "x424 requirement exceeds absolute transport maximum"⟩
  else if headerInteropEnvelopeBytes < encodedHeaderLength then .ok .body
  else .ok .header

def assertHeaderSize (value label : JsString) : Except JsError Unit :=
  if value.isEmpty then .error ⟨js "Invalid " ++ label⟩
  else if headerAbsoluteMaxBytes < encodedHeaderByteLength value then
    .error ⟨js "Invalid " ++ label⟩
  else .ok ()

def assertInlineHeaderEnvelope (encoded : JsString) : Except JsError Unit :=
  if headerInteropEnvelopeBytes < encodedHeaderByteLength encoded then
    .error ⟨js "HUMAN-REQUIRED exceeds interop envelope; use body transport"⟩
  else .ok ()

/-! ## Values in headers -/

section Header

variable (numbers : JsNumbers)

def encodeCanonical (value : Json) : JsString :=
  encodeStrictBase64Url (utf8 (canonicalJson numbers value))

def encodeX424Header (value : Json) : Except JsError JsString := do
  assertHeaderSize (encodeCanonical numbers value) (js "x424 header")
  return encodeCanonical numbers value

def decodeCanonical (value label : JsString) : Except JsError Json := do
  let bytes ← decodeStrictBase64Url value label
  parseCanonicalJsonBytes numbers bytes label

def decodeX424Header (value : JsString) : Except JsError Json := do
  assertHeaderSize value (js "x424 header")
  decodeCanonical numbers value (js "x424 header")

end Header

/-! ## Laws -/

section Laws

variable {numbers : JsNumbers}

private theorem length_utf8_unit {u : UInt16} (h : u < 0x80) : (utf8 [u]).length = 1 := by
  have hall : ∀ n < 0x80, (utf8 [UInt16.ofNat n]).length = 1 := by decide
  rw [← UInt16.ofNat_toNat (x := u)]
  exact hall u.toNat (UInt16.lt_iff_toNat_lt.mp h)

theorem length_utf8_ascii {text : JsString} (h : ∀ u ∈ text, u < 0x80) :
    (utf8 text).length = text.length := by
  induction text with
  | nil => rfl
  | cons u text ih =>
      have hu := h u (List.mem_cons_self ..)
      have htext := ih fun v hv => h v (List.mem_cons_of_mem _ hv)
      have hunit : IsText [u] := isText_ascii fun v hv => by rwa [List.mem_singleton.mp hv]
      rw [show u :: text = [u] ++ text from rfl, utf8_append hunit, List.length_append,
        length_utf8_unit hu, htext, List.length_append, List.length_singleton]

theorem encodedHeaderByteLength_encode (bytes : List UInt8) :
    encodedHeaderByteLength (encodeStrictBase64Url bytes) =
      (encodeStrictBase64Url bytes).length := by
  refine length_utf8_ascii fun u hu => ?_
  have hunit := List.all_eq_true.mp (all_encodeStrictBase64Url bytes) u hu
  simp only [isBase64UrlUnit, Bool.or_eq_true, Bool.and_eq_true, decide_eq_true_eq, beq_iff_eq,
    UInt16.le_iff_toNat_le, UInt16.reduceToNat, ← UInt16.toNat_inj] at hunit
  simp only [UInt16.lt_iff_toNat_lt, UInt16.reduceToNat]
  omega

theorem parseCanonicalJsonBytes_spec {bytes : List UInt8} {label : JsString} {value : Json}
    (h : parseCanonicalJsonBytes numbers bytes label = .ok value) :
    value.DistinctKeys ∧
      (¬ byteOrderMark <+: bytes ∧ bytes = utf8 (canonicalJson numbers value) ∨
        bytes = byteOrderMark ++ utf8 (canonicalJson numbers value)) := by
  obtain ⟨hdecoded, hparsed⟩ := canonicalJson_of_parsed h
  obtain ⟨htext, hbytes⟩ := decodeStrictUtf8_eq_ok.mp hdecoded
  refine ⟨distinctKeys_jsonParse hparsed, hbytes.imp_left fun hplain => ⟨fun hmark => ?_, hplain.2⟩⟩
  rw [hplain.2, mark_prefix_utf8 htext] at hmark
  exact hplain.1 hmark

theorem parseCanonicalJsonBytes_bytes {bytes : List UInt8} {label : JsString} {value : Json}
    (h : parseCanonicalJsonBytes numbers bytes label = .ok value) :
    utf8 (canonicalJson numbers value) = bytes ↔ ¬ byteOrderMark <+: bytes := by
  rcases (parseCanonicalJsonBytes_spec h).2 with ⟨hmark, hbytes⟩ | hbytes
  · exact iff_of_true hbytes.symm hmark
  · refine iff_of_false (fun hsame => ?_) (not_not.mpr ⟨_, hbytes.symm⟩)
    have hlength := congrArg List.length (hbytes.symm.trans hsame.symm)
    rw [List.length_append, byteOrderMark] at hlength
    simp only [List.length_cons, List.length_nil] at hlength
    omega

theorem parseCanonicalJsonBytes_mark {value : Json} (h : value.WellFormed numbers)
    (label : JsString) :
    parseCanonicalJsonBytes numbers (byteOrderMark ++ utf8 (canonicalJson numbers value)) label =
      .ok (normalize value) := by
  have hplain := parseCanonicalJsonBytes_canonicalJson h label
  have htext : IsText (canonicalJson numbers value) := isText_stringify (wellFormed_normalize h)
  have hdecoded := decodeStrictUtf8_eq_ok.mp (canonicalJson_of_parsed hplain).1
  have hcanonical : canonicalJson numbers (normalize value) = canonicalJson numbers value := by
    rw [canonicalJson, normalize_normalize h, canonicalJson]
  have hmarked : decodeStrictUtf8 (byteOrderMark ++ utf8 (canonicalJson numbers value)) label =
      .ok (canonicalJson numbers value) := decodeStrictUtf8_eq_ok.mpr ⟨htext, Or.inr rfl⟩
  have hparsed : jsonParse numbers (canonicalJson numbers value) = some (normalize value) :=
    jsonParse_stringify (wellFormed_normalize h)
  simp only [parseCanonicalJsonBytes, hmarked, bind, Except.bind, hparsed, hcanonical, ne_eq,
    not_true_eq_false, if_false]

def encodedMark : JsString := js "77u_"

private theorem value_of_unit {n m : Nat} {u : UInt16} (hn : n < 64)
    (hu : base64UrlValue? u = some m) (h : u = base64UrlUnit n) : n = m := by
  rw [h, base64UrlValue?_unit hn] at hu
  exact Option.some.inj hu

theorem encodedMark_begins (bytes : List UInt8) :
    encodedMark <+: encodeStrictBase64Url bytes ↔ byteOrderMark <+: bytes := by
  constructor
  · intro h
    have hlength := h.length_le
    rw [show encodedMark.length = 4 by decide, length_encodeStrictBase64Url] at hlength
    match bytes with
    | [] => simp at hlength
    | [a] => simp at hlength
    | [a, b] => simp at hlength
    | a :: b :: c :: rest =>
        have ha : a.toNat < 256 := a.toNat_lt
        have hb : b.toNat < 256 := b.toNat_lt
        have hc : c.toNat < 256 := c.toNat_lt
        rw [encodeStrictBase64Url, show encodedMark = [0x37, 0x37, 0x75, 0x5F] by decide] at h
        simp only [List.cons_prefix_cons, List.nil_prefix, and_true] at h
        have h1 := value_of_unit (m := 59) (by omega) (by decide) h.1
        have h2 := value_of_unit (m := 59) (by omega) (by decide) h.2.1
        have h3 := value_of_unit (m := 46) (by omega) (by decide) h.2.2.1
        have h4 := value_of_unit (m := 63) (by omega) (by decide) h.2.2.2
        have hbytes : a = 0xEF ∧ b = 0xBB ∧ c = 0xBF := by
          simp only [← UInt8.toNat_inj, UInt8.reduceToNat]
          omega
        obtain ⟨rfl, rfl, rfl⟩ := hbytes
        exact ⟨rest, rfl⟩
  · rintro ⟨rest, rfl⟩
    exact ⟨encodeStrictBase64Url rest, rfl⟩

theorem decodeCanonical_eq_ok {text label : JsString} {value : Json} :
    decodeCanonical numbers text label = .ok value ↔
      ∃ bytes, text ≠ [] ∧ text = encodeStrictBase64Url bytes ∧
        parseCanonicalJsonBytes numbers bytes label = .ok value := by
  unfold decodeCanonical
  constructor
  · intro h
    cases hbytes : decodeStrictBase64Url text label with
    | error e => simp [hbytes, bind, Except.bind] at h
    | ok bytes =>
        obtain ⟨hne, htext⟩ := decodeStrictBase64Url_eq_ok.mp hbytes
        exact ⟨bytes, hne, htext, by simpa only [hbytes, bind, Except.bind] using h⟩
  · rintro ⟨bytes, hne, htext, hvalue⟩
    simp only [decodeStrictBase64Url_eq_ok.mpr ⟨hne, htext⟩, bind, Except.bind, hvalue]

theorem assertHeaderSize_eq_ok {text label : JsString} :
    assertHeaderSize text label = .ok () ↔
      text ≠ [] ∧ encodedHeaderByteLength text ≤ headerAbsoluteMaxBytes := by
  unfold assertHeaderSize
  split_ifs with hempty hlarge
  · simp [List.isEmpty_iff.mp hempty]
  · simp [hlarge]
  · simpa [List.isEmpty_iff] using ⟨by simpa using hempty, not_lt.mp hlarge⟩

theorem encodeX424Header_eq_ok {value : Json} {header : JsString} :
    encodeX424Header numbers value = .ok header ↔
      header = encodeCanonical numbers value ∧ header ≠ [] ∧
        encodedHeaderByteLength header ≤ headerAbsoluteMaxBytes := by
  unfold encodeX424Header
  constructor
  · intro h
    cases hsize : assertHeaderSize (encodeCanonical numbers value) (js "x424 header") with
    | error e => simp [hsize, bind, Except.bind] at h
    | ok =>
        simp only [hsize, bind, Except.bind, pure, Except.pure, Except.ok.injEq] at h
        exact ⟨h.symm, h ▸ assertHeaderSize_eq_ok.mp hsize⟩
  · rintro ⟨rfl, hsize⟩
    simp only [assertHeaderSize_eq_ok.mpr hsize, bind, Except.bind, pure, Except.pure]

theorem encodeCanonical_ne_nil {value : Json} (h : value.WellFormed numbers) :
    encodeCanonical numbers value ≠ [] := by
  obtain ⟨u, rest, hhead, -⟩ := stringify_head (wellFormed_normalize h)
  rw [encodeCanonical, Ne, encodeStrictBase64Url_eq_nil, canonicalJson, hhead]
  intro hnil
  have htext : (u :: rest : JsString) = [] :=
    utf8_injective (hhead ▸ isText_stringify (wellFormed_normalize h)) ⟨[], rfl⟩ hnil
  cases htext

theorem decodeX424Header_eq_ok {header : JsString} {value : Json} :
    decodeX424Header numbers header = .ok value ↔
      encodedHeaderByteLength header ≤ headerAbsoluteMaxBytes ∧
        decodeCanonical numbers header (js "x424 header") = .ok value := by
  unfold decodeX424Header
  constructor
  · intro h
    cases hsize : assertHeaderSize header (js "x424 header") with
    | error e => simp [hsize, bind, Except.bind] at h
    | ok =>
        exact ⟨(assertHeaderSize_eq_ok.mp hsize).2,
          by simpa only [hsize, bind, Except.bind] using h⟩
  · rintro ⟨hsize, hvalue⟩
    obtain ⟨-, hne, -, -⟩ := decodeCanonical_eq_ok.mp hvalue
    simp only [assertHeaderSize_eq_ok.mpr ⟨hne, hsize⟩, bind, Except.bind, hvalue]

theorem decodeCanonical_text {text label : JsString} {value : Json}
    (h : decodeCanonical numbers text label = .ok value) :
    encodeCanonical numbers value = text ↔ ¬ encodedMark <+: text := by
  obtain ⟨bytes, -, rfl, hvalue⟩ := decodeCanonical_eq_ok.mp h
  rw [encodeCanonical, encodeStrictBase64Url_injective.eq_iff, encodedMark_begins]
  exact parseCanonicalJsonBytes_bytes hvalue

theorem decodeCanonical_inj {text text' label label' : JsString} {value value' : Json}
    (h : decodeCanonical numbers text label = .ok value)
    (h' : decodeCanonical numbers text' label' = .ok value') (hsame : value.Same value') :
    text = text' ↔ (encodedMark <+: text ↔ encodedMark <+: text') := by
  refine ⟨fun heq => heq ▸ Iff.rfl, fun hmarks => ?_⟩
  obtain ⟨bytes, -, rfl, hvalue⟩ := decodeCanonical_eq_ok.mp h
  obtain ⟨bytes', -, rfl, hvalue'⟩ := decodeCanonical_eq_ok.mp h'
  obtain ⟨hkeys, hbytes⟩ := parseCanonicalJsonBytes_spec hvalue
  obtain ⟨hkeys', hbytes'⟩ := parseCanonicalJsonBytes_spec hvalue'
  rw [canonicalJson_congr hkeys hkeys' hsame.withoutProto] at hbytes
  rw [encodedMark_begins, encodedMark_begins] at hmarks
  rcases hbytes with ⟨hmark, rfl⟩ | rfl
  · rcases hbytes' with ⟨-, rfl⟩ | rfl
    · rfl
    · exact absurd (hmarks.mpr (List.prefix_append ..)) hmark
  · rcases hbytes' with ⟨hmark', rfl⟩ | rfl
    · exact absurd (hmarks.mp (List.prefix_append ..)) hmark'
    · rfl

end Laws

/-! ## What is accepted, and what is read back -/

/-- Only canonical bytes are accepted, except that a byte order mark may stand
in front of them. -/
theorem accepted_canonical_iff (numbers : JsNumbers) :
    (∀ bytes label value, parseCanonicalJsonBytes numbers bytes label = .ok value →
      (utf8 (canonicalJson numbers value) = bytes ↔ ¬ byteOrderMark <+: bytes)) ∧
    (∀ header value, decodeX424Header numbers header = .ok value →
      (encodeX424Header numbers value = .ok header ↔ ¬ encodedMark <+: header)) ∧
    ∀ text text' label label' value value', decodeCanonical numbers text label = .ok value →
      decodeCanonical numbers text' label' = .ok value' → value.Same value' →
        (text = text' ↔ (encodedMark <+: text ↔ encodedMark <+: text')) := by
  refine ⟨fun bytes label value h => parseCanonicalJsonBytes_bytes h, fun header value h => ?_,
    fun text text' label label' value value' h h' hsame => decodeCanonical_inj h h' hsame⟩
  obtain ⟨hsize, hvalue⟩ := decodeX424Header_eq_ok.mp h
  obtain ⟨-, hne, -, -⟩ := decodeCanonical_eq_ok.mp hvalue
  rw [← decodeCanonical_text hvalue, encodeX424Header_eq_ok]
  exact ⟨fun hencoded => hencoded.1.symm, fun htext => ⟨htext.symm, hne, hsize⟩⟩

theorem accepted_null_canonical :
    utf8 (canonicalJson wholeNumbers .null) = utf8 (js "null") ↔
      ¬ byteOrderMark <+: utf8 (js "null") :=
  (accepted_canonical_iff wholeNumbers).1 _ (js "x424 header") _
    (parseCanonicalJsonBytes_canonicalJson .null _)

/-- The text `null` is accepted also behind a byte order mark. -/
theorem marked_null_accepted :
    parseCanonicalJsonBytes wholeNumbers (byteOrderMark ++ utf8 (js "null")) (js "x424 header") =
        .ok .null ∧
      utf8 (canonicalJson wholeNumbers .null) ≠ byteOrderMark ++ utf8 (js "null") ∧
      decodeX424Header wholeNumbers (js "77u_bnVsbA") = .ok .null ∧
      decodeX424Header wholeNumbers (js "bnVsbA") = .ok .null ∧
      encodeX424Header wholeNumbers .null ≠ .ok (js "77u_bnVsbA") := by
  have hmarked := @parseCanonicalJsonBytes_mark wholeNumbers _ .null (js "x424 header")
  have hplain := @parseCanonicalJsonBytes_canonicalJson wholeNumbers _ .null
    (js "x424 header")
  refine ⟨hmarked, by decide, ?_, ?_, ?_⟩
  · exact decodeX424Header_eq_ok.mpr ⟨by decide, decodeCanonical_eq_ok.mpr
      ⟨_, by decide, by decide, hmarked⟩⟩
  · exact decodeX424Header_eq_ok.mpr ⟨by decide, decodeCanonical_eq_ok.mpr
      ⟨_, by decide, by decide, hplain⟩⟩
  · rw [Ne, encodeX424Header_eq_ok]
    exact fun h => absurd h.1 (by decide)

/-- Decoding gives back every JSON value without members named `__proto__`. -/
theorem decode_undoes_encode {numbers : JsNumbers} {value : Json} (h : value.WellFormed numbers)
    (hproto : value.ProtoFree) :
    (∀ header, encodeX424Header numbers value = .ok header →
      ∃ decoded, decodeX424Header numbers header = .ok decoded ∧ value.Same decoded) ∧
    (∀ label, ∃ read, parseCanonicalJsonBytes numbers (utf8 (canonicalJson numbers value)) label =
      .ok read ∧ value.Same read) ∧
    ∃ parsed, jsonParse numbers (canonicalJson numbers value) = some parsed ∧
      canonicalJson numbers parsed = canonicalJson numbers value := by
  have hsame : value.Same (normalize value) := same_normalize h.distinctKeys hproto
  refine ⟨fun header hheader => ⟨normalize value, ?_, hsame⟩,
    fun label => ⟨normalize value, parseCanonicalJsonBytes_canonicalJson h label, hsame⟩,
    normalize value, jsonParse_stringify (wellFormed_normalize h), ?_⟩
  · obtain ⟨htext, hne, hsize⟩ := encodeX424Header_eq_ok.mp hheader
    exact decodeX424Header_eq_ok.mpr ⟨hsize, decodeCanonical_eq_ok.mpr
      ⟨_, hne, htext, parseCanonicalJsonBytes_canonicalJson h _⟩⟩
  · rw [canonicalJson, normalize_normalize h, canonicalJson]

/-- An object with a number, and with a list of a text and `null`. -/
def sampleJson : Json :=
  .object [(js "n", .number 7), (js "items", .array [.string (js "x"), .null])]

theorem decode_undoes_encode_texts :
    (∀ header, encodeX424Header wholeNumbers sampleJson = .ok header →
      ∃ decoded, decodeX424Header wholeNumbers header = .ok decoded ∧ sampleJson.Same decoded) ∧
    (∀ label, ∃ read, parseCanonicalJsonBytes wholeNumbers
        (utf8 (canonicalJson wholeNumbers sampleJson)) label = .ok read ∧ sampleJson.Same read) ∧
    ∃ parsed, jsonParse wholeNumbers (canonicalJson wholeNumbers sampleJson) = some parsed ∧
      canonicalJson wholeNumbers parsed = canonicalJson wholeNumbers sampleJson := by
  have hitems : (Json.array [.string (js "x"), .null]).WellFormed wholeNumbers :=
    .array (List.forall_mem_cons.mpr ⟨.string _, List.forall_mem_singleton.mpr .null⟩)
  have hfree : (Json.array [.string (js "x"), .null]).ProtoFree :=
    .array (List.forall_mem_cons.mpr ⟨.string _, List.forall_mem_singleton.mpr .null⟩)
  refine decode_undoes_encode (.object (by decide) ?_) (.object (by decide) ?_)
  · exact List.forall_mem_cons.mpr
      ⟨.number ⟨7, by decide, rfl⟩, List.forall_mem_singleton.mpr hitems⟩
  · exact List.forall_mem_cons.mpr ⟨.number _, List.forall_mem_singleton.mpr hfree⟩

end X424
